import Mathlib.Data.List.TakeWhile
import SheetPricing.Formula.Evaluation
import SheetPricing.Formula.Range
import SheetPricing.Formula.Reading

/-! How addresses are spelled. A worksheet tells its cells apart by the characters of their addresses,
so a row with zeros before its number is another key for the same cell. Case, blanks and fixing marks
are gone before an address is used. -/
namespace SheetPricing.Address
open Text

/-- The letters of the column. -/
def column (address : Address) : List Char := address.toList.takeWhile isCapital

/-- The digits of the row, as they are written. -/
def rowDigits (address : Address) : List Char := address.toList.dropWhile isCapital

/-- The number of the row. -/
def row? (address : Address) : Option Nat := ((rowDigits address).mapM digitValue?).map ofDigits

/-- Two addresses with the same column and the same row. -/
structure SameCell (address other : Address) : Prop where
  column : address.column = other.column
  row : ∃ number, address.row? = some number ∧ other.row? = some number

/-- The row is written in plain digits, without zeros before its number. -/
def IsShort (address : Address) : Prop := ∃ number : Nat, rowDigits address = (toString number).toList

theorem isPlainDigit_toDigits {n : Nat} {c : Char} (inside : c ∈ Nat.toDigits 10 n) :
    isPlainDigit c = true := by
  have digit : ∀ n < 10, isPlainDigit (Nat.digitChar n) = true := by decide
  induction n using Nat.strongRecOn with
  | ind n ih =>
    rw [Nat.toDigits_eq_if (by decide)] at inside
    split at inside
    · next small =>
      rw [List.mem_singleton.mp inside]
      exact digit n small
    · next large =>
      rcases List.mem_append.mp inside with before | last
      · exact ih (n / 10) (by omega) before
      · rw [List.mem_singleton.mp last]
        exact digit (n % 10) (Nat.mod_lt n (by decide))

theorem digitValues_toDigits (n : Nat) :
    ∃ digits, (Nat.toDigits 10 n).mapM digitValue? = some digits ∧ ofDigits digits = n := by
  have digit : ∀ n < 10, digitValue? (Nat.digitChar n) = some n := by decide
  induction n using Nat.strongRecOn with
  | ind n ih =>
    rw [Nat.toDigits_eq_if (by decide)]
    split
    · next small => exact ⟨[n], by simp [digit n small], by simp [ofDigits]⟩
    · next large =>
      obtain ⟨digits, read, value⟩ := ih (n / 10) (by omega)
      refine ⟨digits ++ [n % 10], ?_, ?_⟩
      · rw [List.mapM_append, read]
        simp [digit (n % 10) (Nat.mod_lt n (by decide))]
      · rw [ofDigits, List.foldl_append, ← ofDigits, value]
        simp only [List.foldl_cons, List.foldl_nil]
        omega

theorem toList_toString (n : Nat) : (toString n).toList = Nat.toDigits 10 n := by
  simp [toString, Nat.repr]

theorem row?_of_rowDigits {address : Address} {number : Nat}
    (digits : rowDigits address = (toString number).toList) : row? address = some number := by
  obtain ⟨values, read, value⟩ := digitValues_toDigits number
  rw [row?, digits, toList_toString, read, Option.map_some, value]

/-- Among addresses without leading zeros, those of one cell are one. -/
theorem SameCell.eq_of_isShort {address other : Address} (same : SameCell address other)
    (short : IsShort address) (shortOther : IsShort other) : address = other := by
  obtain ⟨number, digits⟩ := short
  obtain ⟨again, digitsOther⟩ := shortOther
  obtain ⟨row, first, second⟩ := same.row
  rw [row?_of_rowDigits digits] at first
  rw [row?_of_rowDigits digitsOther] at second
  obtain rfl := Option.some.inj (first.trans second.symm)
  rw [← String.toList_inj, ← List.takeWhile_append_dropWhile (p := isCapital) (l := address.toList),
    ← List.takeWhile_append_dropWhile (p := isCapital) (l := other.toList)]
  exact congrArg₂ _ same.column (digits.trans digitsOther.symm)

/-- Capitals and then plain digits are the column and the row. -/
theorem parts_of_plain {letters digits : List Char} (capitals : ∀ c ∈ letters, isCapital c = true)
    (plain : ∀ c ∈ digits, isPlainDigit c = true) :
    column (String.ofList (letters ++ digits)) = letters ∧
      rowDigits (String.ofList (letters ++ digits)) = digits := by
  have apart (c : Char) (digit : isPlainDigit c = true) : isCapital c = false := by
    simp only [isPlainDigit, isCapital, Bool.and_eq_true, Bool.and_eq_false_iff, decide_eq_true_eq,
      decide_eq_false_iff_not, Char.le_def, UInt32.le_iff_toNat_le, UInt32.reduceToNat,
      Char.reduceVal] at *
    omega
  have stop : digits.takeWhile isCapital = [] ∧ digits.dropWhile isCapital = digits := by
    cases digits with
    | nil => exact ⟨rfl, rfl⟩
    | cons c rest => simp [apart c (plain c List.mem_cons_self)]
  rw [column, rowDigits, String.toList_ofList, List.takeWhile_append_of_pos capitals,
    List.dropWhile_append_of_pos capitals, stop.1, stop.2, List.append_nil]
  exact ⟨rfl, rfl⟩

end SheetPricing.Address

namespace SheetPricing.Formula
open Address Text

theorem isCapital_columnLetters {number : Nat} {c : Char} (inside : c ∈ columnLetters number) :
    isCapital c = true := by
  have letter : ∀ n < 26, isCapital (Char.ofNat ('A'.toNat + n)) = true := by decide
  induction number using Nat.strongRecOn with
  | ind number ih =>
    rw [columnLetters] at inside
    split at inside
    · cases inside
    · next positive =>
      rcases List.mem_append.mp inside with before | last
      · exact ih ((number - 1) / 26) (by omega) before
      · rw [List.mem_singleton.mp last]
        exact letter _ (Nat.mod_lt _ (by decide))

/-- A corner is spelled with the letters of its column and without leading zeros. -/
theorem Corner.parts_address (corner : Corner) :
    corner.address.column = columnLetters corner.column ∧
      rowDigits corner.address = (toString corner.row).toList := by
  have digits : ∀ c ∈ (toString corner.row).toList, isPlainDigit c = true := by
    rw [toList_toString]
    exact fun c inside => isPlainDigit_toDigits inside
  have spelled : corner.address
      = String.ofList (columnLetters corner.column ++ (toString corner.row).toList) := by
    rw [Corner.address, String.ofList_append, String.ofList_toList]
  rw [spelled]
  exact parts_of_plain (fun c inside => isCapital_columnLetters inside) digits

/-- The members of a range are spelled without leading zeros. -/
theorem isShort_of_members {sheet : Worksheet} {range : Range} {listed : List Address}
    (ok : members sheet range = .ok listed) {address : Address} (inside : address ∈ listed) :
    IsShort address := by
  rw [members] at ok
  split at ok
  · cases ok
  · next addresses spanned =>
    obtain rfl := Except.ok.inj ok
    have member := (List.mem_filter.mp inside).1
    rw [Range.addresses] at spanned
    split at spanned
    · split at spanned
      · cases spanned
      · obtain rfl := Except.ok.inj spanned
        obtain ⟨corner, _, rfl⟩ := List.mem_map.mp member
        exact ⟨corner.row, corner.parts_address.2⟩
    · cases spanned

/-- What holds of every plain character holds of plain letters and digits. -/
theorem of_plain {P : Char → Prop} (each : ∀ n < 128, P (Char.ofNat n)) {c : Char}
    (plain : isPlainLetter c = true ∨ isPlainDigit c = true) : P c := by
  have small : c.toNat < 128 := by
    simp only [isPlainLetter, isPlainDigit, Bool.or_eq_true, Bool.and_eq_true, decide_eq_true_eq,
      Char.le_def, UInt32.le_iff_toNat_le, UInt32.reduceToNat, Char.reduceVal] at plain
    change c.val.toNat < 128
    omega
  exact Char.ofNat_toNat c ▸ each c.toNat small

/-- What holds of the ten digits of each script holds of digits. -/
theorem of_isDigit {P : Char → Prop}
    (each : ∀ start ∈ digitZeros.toList, ∀ value < 10, P (Char.ofNat (start + value))) {c : Char}
    (digit : isDigit c = true) : P c := by
  have listed : ∃ start ∈ digitZeros.toList, start ≤ c.toNat ∧ c.toNat ≤ start + 9 := by
    obtain ⟨value, found⟩ := Option.isSome_iff_exists.mp digit
    simp only [digitValue?] at found
    split at found
    · split at found
      · next plain => exact ⟨0x30, by decide, by simpa using plain⟩
      · cases found
    · obtain ⟨start, run, rfl⟩ := Option.map_eq_some_iff.mp found
      have near := Array.find?_some run
      have inside := Array.mem_of_find?_eq_some run
      exact ⟨start, Array.mem_toList_iff.mpr inside, by simpa using near⟩
  obtain ⟨start, inside, low, high⟩ := listed
  have here := each start inside (c.toNat - start) (by omega)
  rwa [Nat.add_sub_cancel' low, Char.ofNat_toNat] at here

theorem isDigit_of_plain {digits : List Char} (all : ∀ c ∈ digits, isPlainDigit c = true) :
    ∀ c ∈ digits, isDigit c = true := fun c inside =>
  of_plain (P := fun c => isPlainDigit c = true → isDigit c = true) (by decide)
    (.inr (all c inside)) (all c inside)

/-- Letters lose their case, and digits stay what they are. -/
theorem capitals_spelled {letters digits : List Char}
    (plain : ∀ c ∈ letters, isPlainLetter c = true)
    (numbered : ∀ c ∈ digits, isDigit c = true) :
    (letters ++ digits).flatMap capitals = letters.map Char.toUpper ++ digits := by
  have letter {c : Char} (plain : isPlainLetter c = true) : capitals c = [c.toUpper] :=
    of_plain (P := fun c => isPlainLetter c = true → capitals c = [c.toUpper]) (by decide)
      (.inl plain) plain
  have digit {c : Char} (numbered : isDigit c = true) : capitals c = [c] :=
    of_isDigit (P := fun c => capitals c = [c]) (by decide +kernel) numbered
  have each {cs : List Char} {change : Char → Char} (same : ∀ c ∈ cs, capitals c = [change c]) :
      cs.flatMap capitals = cs.map change := by
    induction cs with
    | nil => rfl
    | cons c rest ih =>
      rw [List.flatMap_cons, same c List.mem_cons_self,
        ih fun c inside => same c (List.mem_cons_of_mem _ inside)]
      rfl
  have kept : digits.flatMap capitals = digits.map id :=
    each fun c inside => digit (numbered c inside)
  rw [List.flatMap_append, each fun c inside => letter (plain c inside), kept, List.map_id]

/-- Without the marks a reference is its letters and digits. -/
theorem cleanAddress_spelled {letters digits markColumn markRow : List Char}
    (plain : ∀ c ∈ letters, isPlainLetter c = true)
    (numbered : ∀ c ∈ digits, isDigit c = true)
    (marks : ∀ c ∈ markColumn ++ markRow, c = '$') :
    cleanAddress (markColumn ++ letters ++ markRow ++ digits)
      = String.ofList (letters.map Char.toUpper ++ digits) := by
  have letter {c : Char} (plain : isPlainLetter c = true) : (c != '$' && c != ' ') = true :=
    of_plain (P := fun c => isPlainLetter c = true → (c != '$' && c != ' ') = true) (by decide)
      (.inl plain) plain
  have digit {c : Char} (numbered : isDigit c = true) : (c != '$' && c != ' ') = true :=
    of_isDigit (P := fun c => (c != '$' && c != ' ') = true) (by decide +kernel) numbered
  have gone {mark : List Char} (marks : ∀ c ∈ mark, c = '$') :
      mark.filter (fun c => c != '$' && c != ' ') = [] := by
    refine List.filter_eq_nil_iff.mpr fun c inside => ?_
    rw [marks c inside]
    decide
  have text : (markColumn ++ letters ++ markRow ++ digits).filter (fun c => c != '$' && c != ' ')
      = letters ++ digits := by
    rw [List.filter_append, List.filter_append, List.filter_append,
      gone fun c inside => marks c (List.mem_append_left _ inside),
      gone fun c inside => marks c (List.mem_append_right _ inside),
      List.filter_eq_self.mpr fun c inside => letter (plain c inside),
      List.filter_eq_self.mpr fun c inside => digit (numbered c inside),
      List.nil_append, List.append_nil]
  rw [cleanAddress, text, capitalize, String.toList_ofList, capitals_spelled plain numbered]

/-- Blanks around a text do not count where it is trimmed. -/
theorem trimList_append {front back : List Char} (blank : ∀ c ∈ front ++ back, isBlank c = true)
    (cs : List Char) : trimList isBlank (front ++ cs ++ back) = trimList isBlank cs := by
  obtain ⟨blankFront, blankBack⟩ := List.forall_mem_append.mp blank
  rw [trimList, List.append_assoc, List.dropWhile_append_of_pos blankFront, List.dropWhile_append]
  split
  · next none =>
    rw [List.dropWhile_eq_nil_iff.mpr blankBack, trimList, List.isEmpty_iff.mp none]
  · have reversed : ∀ c ∈ back.reverse, isBlank c = true := fun c inside =>
      blankBack c (List.mem_reverse.mp inside)
    rw [List.reverse_append, List.dropWhile_append_of_pos reversed, trimList]

theorem isRow_of_digits {digits : List Char} (any : digits ≠ [])
    (numbered : ∀ c ∈ digits, isPlainDigit c = true) : isRow digits = true := by
  induction digits with
  | nil => exact absurd rfl any
  | cons c rest ih =>
    have here := numbered c List.mem_cons_self
    cases rest with
    | nil => exact here
    | cons d more =>
      rw [isRow, here, ih nofun fun c inside => numbered c (List.mem_cons_of_mem _ inside)]
      · rfl
      · nofun

theorem isPlain_spelled {letters digits : List Char} (some : letters ≠ []) (any : digits ≠ [])
    (capital : ∀ c ∈ letters, isCapital c = true)
    (numbered : ∀ c ∈ digits, isPlainDigit c = true) : isPlain (letters ++ digits) = true := by
  induction letters with
  | nil => exact absurd rfl some
  | cons c rest ih =>
    have here := capital c List.mem_cons_self
    rw [List.cons_append, isPlain, here, Bool.true_and, Bool.or_eq_true]
    cases rest with
    | nil => exact .inl (isRow_of_digits any numbered)
    | cons d more => exact .inr (ih nofun fun c inside => capital c (List.mem_cons_of_mem _ inside))

/-- A reference in any case, with or without marks, writes the address that a configuration means
when it spells the same letters and digits, in any case and with blanks around them. -/
theorem normalize_eq_cleanAddress {letters other digits before behind markColumn markRow : List Char}
    (plain : ∀ c ∈ letters, isPlainLetter c = true) (some : letters ≠ [])
    (same : other.map Char.toUpper = letters.map Char.toUpper)
    (plainOther : ∀ c ∈ other, isPlainLetter c = true)
    (numbered : ∀ c ∈ digits, isPlainDigit c = true) (any : digits ≠ [])
    (blank : ∀ c ∈ before ++ behind, isBlank c = true)
    (marks : ∀ c ∈ markColumn ++ markRow, c = '$') :
    normalize (String.ofList (before ++ (letters ++ digits) ++ behind))
      = .ok (cleanAddress (markColumn ++ other ++ markRow ++ digits)) := by
  have solid {c : Char} (spelled : isPlainLetter c = true ∨ isPlainDigit c = true) :
      isBlank c = false :=
    of_plain (P := fun c => isPlainLetter c = true ∨ isPlainDigit c = true → isBlank c = false)
      (by decide) spelled spelled
  have capital {c : Char} (plain : isPlainLetter c = true) : isCapital c.toUpper = true :=
    of_plain (P := fun c => isPlainLetter c = true → isCapital c.toUpper = true) (by decide)
      (.inl plain) plain
  have trimmed : trim (String.ofList (before ++ (letters ++ digits) ++ behind))
      = String.ofList (letters ++ digits) := by
    rw [trim, String.toList_ofList, trimList_append blank, trimList_eq_self]
    intro c inside
    exact solid ((List.mem_append.mp inside).imp (plain c) (numbered c))
  have address : capitalize (String.ofList (letters ++ digits))
      = String.ofList (letters.map Char.toUpper ++ digits) := by
    rw [capitalize, String.toList_ofList, capitals_spelled plain (isDigit_of_plain numbered)]
  have accepted : isAddress (String.ofList (letters.map Char.toUpper ++ digits)) = true := by
    rw [isAddress, String.toList_ofList, isPlain_spelled (by simpa using some) any ?_ numbered]
    · rfl
    · intro c inside
      obtain ⟨letter, member, rfl⟩ := List.mem_map.mp inside
      exact capital (plain letter member)
  rw [Address.normalize, trimmed, address, if_pos accepted,
    cleanAddress_spelled plainOther (isDigit_of_plain numbered) marks, same]

end SheetPricing.Formula
