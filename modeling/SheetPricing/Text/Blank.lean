/-!
# Blank characters

White space in the sense of the Unicode property, together with the four information
separators below it.
-/
namespace SheetPricing.Text

/-- Whether a character separates words: a blank, a tab, a line break or one of their relatives. -/
def isBlank (c : Char) : Bool :=
  let n := c.toNat
  (0x09 ≤ n && n ≤ 0x0d) || (0x1c ≤ n && n ≤ 0x20) || n == 0x85 || n == 0xa0 || n == 0x1680
    || (0x2000 ≤ n && n ≤ 0x200a) || n == 0x2028 || n == 0x2029 || n == 0x202f || n == 0x205f
    || n == 0x3000

/-- Whether a character is white space, the separators of information not among it. -/
def isWhiteSpace (c : Char) : Bool := isBlank c && !(0x1c ≤ c.toNat && c.toNat ≤ 0x1f)

/-- Whether a character is one of the six blanks that surround a number. -/
def isNumberBlank (c : Char) : Bool :=
  let n := c.toNat
  (0x09 ≤ n && n ≤ 0x0d) || n == 0x20

theorem isBlank_of_isWhitespace {c : Char} (blank : c.isWhitespace = true) : isBlank c = true := by
  simp only [Char.isWhitespace, Bool.or_eq_true, decide_eq_true_eq] at blank
  rcases blank with ((rfl | rfl) | rfl) | rfl <;> decide

/-- A text without the blanks at its two ends. -/
def trimList (blank : Char → Bool) (cs : List Char) : List Char :=
  ((cs.dropWhile blank).reverse.dropWhile blank).reverse

theorem trimList_eq_self {blank : Char → Bool} {cs : List Char}
    (none : ∀ c ∈ cs, blank c = false) : trimList blank cs = cs := by
  have kept (ds : List Char) (none : ∀ c ∈ ds, blank c = false) : ds.dropWhile blank = ds := by
    cases ds with
    | nil => rfl
    | cons d rest => simp [List.dropWhile, none d List.mem_cons_self]
  rw [trimList, kept cs none, kept cs.reverse fun c inside => none c (List.mem_reverse.mp inside),
    List.reverse_reverse]

def trim (s : String) : String := String.ofList (trimList isBlank s.toList)

end SheetPricing.Text
