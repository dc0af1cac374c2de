import SheetPricing.Decimal.NumeralForm
import SheetPricing.Text.Blank
import SheetPricing.Text.Capital
import SheetPricing.Text.Digit
import SheetPricing.Text.Lexeme

/-!
# The lexemes of formulas

A formula is a row of lexemes. Ten kinds of them are tried in a fixed order at each place, and the
first that fits is taken.

Main statements: `nonempty_of_mem_lexemes` (every lexeme takes at least one character),
`length_lt_of_next?` (so what is left grows shorter), `promises_of_next?` (the text of a number is
a numeral and the text of a range has one colon).
-/
namespace SheetPricing.Formula

inductive TokenKind where
  | number
  | reference
  | range
  | function
  | boolean
  | operator
  | leftParenthesis
  | rightParenthesis
  | separator
  deriving DecidableEq, Repr

/-- How a kind of token is called in messages. -/
def TokenKind.label : TokenKind → String
  | .number => "number"
  | .reference => "ref"
  | .range => "range"
  | .function => "func"
  | .boolean => "bool"
  | .operator => "op"
  | .leftParenthesis => "lparen"
  | .rightParenthesis => "rparen"
  | .separator => "sep"

/-- What a kind of token promises of its text. -/
def TokenKind.Promises (kind : TokenKind) (text : String) : Prop :=
  match kind with
  | .number => (Numeral.read? text).isSome = true
  | .range => text.toList.count ':' = 1
  | _ => True

open Text (isBlank isDigit isPlainLetter isPlainWord Lexeme)
open Text.Lexeme

/-- Whether a text does not go on with a letter, a digit or an underscore. -/
def endsWord : List Char → Bool
  | [] => true
  | c :: _ => !isPlainWord c

/-- Whether an opening parenthesis follows, perhaps after blanks. -/
def opens (cs : List Char) : Bool := (cs.dropWhile isBlank).head? == some '('

def blanks : Lexeme := oneOrMore isBlank

/-- The letters of a name, with digits, underscores and points after the first. -/
def name : Lexeme :=
  one (fun c => isPlainLetter c || c == '_') ++ zeroOrMore (fun c => isPlainWord c || c == '.')

/-- A name, if it is called. -/
def functionName : Lexeme := name.before opens

/-- The letters of a column, one to three, with the marks that fix a column and a row. -/
def column : Lexeme :=
  optional (char '$') ++ (oneAndUpTo isPlainLetter 2 ++ optional (char '$'))

/-- A corner of a range. -/
def corner : Lexeme := column ++ oneOrMore isDigit

/-- Two corners with a colon between them. -/
def range : Lexeme :=
  corner ++ (zeroOrMore isBlank ++ (char ':' ++ (zeroOrMore isBlank ++ corner)))

/-- A cell, unless a word goes on behind it. -/
def reference : Lexeme := column ++ oneOrMoreBefore isDigit endsWord

/-- Digits with at most one point. -/
def plainNumber : Lexeme :=
  (oneOrMore isDigit ++ (optional (char '.') ++ zeroOrMore isDigit))
    <|> (char '.' ++ oneOrMore isDigit)

def exponent : Lexeme :=
  one (fun c => c == 'e' || c == 'E')
    ++ (optional (one fun c => c == '+' || c == '-') ++ oneOrMore isDigit)

def number : Lexeme := plainNumber ++ optional exponent

/-- Whether a character is a given letter in either case. -/
def isLetter (letter c : Char) : Bool := Text.capitals c == [letter]

/-- A word in any case, given by its first letter and the others, which ends where it is written. -/
def word (first : Char) (others : String) : Lexeme :=
  (one (isLetter first) ++ Text.Lexeme.word (others.toList.map isLetter)).before endsWord

/-- One of the two truth values. -/
def boolean : Lexeme := word 'T' "RUE" <|> word 'F' "ALSE"

def isOperator (c : Char) : Bool := "-+*/^%=<>".toList.contains c

/-- An operator; the three of two characters come first. -/
def operator : Lexeme :=
  (char '<' ++ one (fun c => c == '=' || c == '>')) <|> (char '>' ++ char '=') <|> one isOperator

/-- Between two arguments. -/
def separator : Lexeme := one fun c => c == ',' || c == ';'

/-- The lexemes in the order in which they are tried; blanks make no token. -/
def lexemes : List (Option TokenKind × Lexeme) :=
  [(none, blanks), (some .function, functionName), (some .range, range),
    (some .reference, reference), (some .number, number), (some .boolean, boolean),
    (some .operator, operator), (some .leftParenthesis, char '('),
    (some .rightParenthesis, char ')'), (some .separator, separator)]

/-- The first lexeme that fits at the front of a text, with its kind and what is left. -/
def next? (cs : List Char) : Option (Option TokenKind × List Char × List Char) :=
  lexemes.findSome? fun (kind, lexeme) => (lexeme.take? cs).map (kind, ·)

theorem nonempty_of_mem_lexemes {entry : Option TokenKind × Lexeme} (listed : entry ∈ lexemes) :
    entry.2.Nonempty := by
  simp only [lexemes, List.mem_cons, List.not_mem_nil, or_false] at listed
  rcases listed with rfl | rfl | rfl | rfl | rfl | rfl | rfl | rfl | rfl | rfl
  · exact nonempty_oneOrMore _
  · exact nonempty_before (nonempty_append_left (nonempty_one _)) _
  · exact nonempty_append_left (nonempty_append_right (nonempty_oneOrMore _))
  · exact nonempty_append_right (nonempty_oneOrMoreBefore _ _)
  · exact nonempty_append_left (nonempty_either (nonempty_append_left (nonempty_oneOrMore _))
      (nonempty_append_left (nonempty_one _)))
  · exact nonempty_either (nonempty_before (nonempty_append_left (nonempty_one _)) _)
      (nonempty_before (nonempty_append_left (nonempty_one _)) _)
  · exact nonempty_either (nonempty_append_left (nonempty_one _))
      (nonempty_either (nonempty_append_left (nonempty_one _)) (nonempty_one _))
  · exact nonempty_one _
  · exact nonempty_one _
  · exact nonempty_one _

/-- What is taken is one of the lexemes. -/
theorem mem_of_next? {cs taken rest : List Char} {kind : Option TokenKind}
    (found : next? cs = some (kind, taken, rest)) :
    ∃ lexeme, (kind, lexeme) ∈ lexemes ∧ lexeme.take? cs = some (taken, rest) := by
  obtain ⟨before, ⟨kind', lexeme⟩, after, split, took, _⟩ := List.findSome?_eq_some_iff.mp found
  simp only [Option.map_eq_some_iff, Prod.mk.injEq] at took
  obtain ⟨pair, took, rfl, rfl⟩ := took
  exact ⟨lexeme, by rw [split]; simp, took⟩

theorem splits_of_next? {cs taken rest : List Char} {kind : Option TokenKind}
    (found : next? cs = some (kind, taken, rest)) : cs = taken ++ rest := by
  obtain ⟨lexeme, _, took⟩ := mem_of_next? found
  exact lexeme.splits took

theorem length_lt_of_next? {cs taken rest : List Char} {kind : Option TokenKind}
    (found : next? cs = some (kind, taken, rest)) : rest.length < cs.length := by
  obtain ⟨lexeme, listed, took⟩ := mem_of_next? found
  exact Nonempty.length_lt (nonempty_of_mem_lexemes listed) took

section
variable {cs taken rest : List Char}

theorem digits_of_take?_zeroOrMore (took : (zeroOrMore isDigit).take? cs = some (taken, rest)) :
    ∀ c ∈ taken, isDigit c = true :=
  within_zeroOrMore (fun _ => id) took

theorem digits_of_take?_oneOrMore (took : (oneOrMore isDigit).take? cs = some (taken, rest)) :
    taken ≠ [] ∧ ∀ c ∈ taken, isDigit c = true :=
  ⟨nonempty_oneOrMore isDigit took, within_oneOrMore (fun _ => id) took⟩

theorem eq_of_take?_char {c : Char} (took : (char c).take? cs = some (taken, rest)) :
    taken = [c] := by
  obtain ⟨d, same, rfl⟩ := exists_of_take?_one took
  rw [eq_of_beq same]

theorem mantissa_of_take? (took : plainNumber.take? cs = some (taken, rest)) :
    Numeral.Mantissa isDigit taken := by
  rcases take?_or_of_take?_either took with whole | pointed
  · obtain ⟨front, _, _, tookFront, back, rfl⟩ := exists_of_take?_append whole
    obtain ⟨nonempty, left⟩ := digits_of_take?_oneOrMore tookFront
    obtain ⟨point, _, after, tookPoint, tookAfter, rfl⟩ := exists_of_take?_append back
    have right := digits_of_take?_zeroOrMore tookAfter
    rcases eq_nil_or_of_take?_optional tookPoint with rfl | tookPoint
    · exact .whole (by simp [nonempty]) fun c inside =>
        (List.mem_append.mp inside).elim (left c) (right c)
    · rw [eq_of_take?_char tookPoint]
      exact .pointed (by simp [nonempty]) left right
  · obtain ⟨point, _, after, tookPoint, tookAfter, rfl⟩ := exists_of_take?_append pointed
    obtain ⟨nonempty, right⟩ := digits_of_take?_oneOrMore tookAfter
    rw [eq_of_take?_char tookPoint]
    show Numeral.Mantissa isDigit ([] ++ '.' :: after)
    exact .pointed (by simpa using nonempty) (by simp) right

theorem scale_of_take? (took : (optional exponent).take? cs = some (taken, rest)) :
    Numeral.Scale isDigit taken := by
  rcases eq_nil_or_of_take?_optional took with rfl | took
  · exact .none
  · obtain ⟨_, _, _, tookMark, back, rfl⟩ := exists_of_take?_append took
    obtain ⟨mark, marked, rfl⟩ := exists_of_take?_one tookMark
    obtain ⟨sign, _, digits, tookSign, tookDigits, rfl⟩ := exists_of_take?_append back
    obtain ⟨nonempty, all⟩ := digits_of_take?_oneOrMore tookDigits
    have signed : sign = [] ∨ sign = ['+'] ∨ sign = ['-'] := by
      rcases eq_nil_or_of_take?_optional tookSign with rfl | tookSign
      · exact .inl rfl
      · obtain ⟨c, signed, rfl⟩ := exists_of_take?_one tookSign
        simpa using signed
    rw [List.singleton_append]
    exact .exponent (by simpa using marked) signed nonempty all

/-- The text of a number is a numeral. -/
theorem isSome_read?_of_take? (took : number.take? cs = some (taken, rest)) :
    (Numeral.read? (String.ofList taken)).isSome = true := by
  obtain ⟨_, _, _, mantissa, scale, rfl⟩ := exists_of_take?_append took
  exact Numeral.isSome_read? (mantissa_of_take? mantissa) (scale_of_take? scale)

theorem within_corner : corner.Within (· != ':') := by
  have optionalMark : (optional (char '$')).Within (· != ':') :=
    within_optional (within_one fun c same => by rw [eq_of_beq same]; rfl)
  have letters : (oneAndUpTo isPlainLetter 2).Within (· != ':') :=
    within_oneAndUpTo (fun c letter => by
      rw [bne_iff_ne]; rintro rfl; exact absurd letter (by decide)) 2
  have digits : (oneOrMore isDigit).Within (· != ':') :=
    within_oneOrMore fun c digit => by rw [bne_iff_ne]; rintro rfl; exact absurd digit (by decide)
  exact within_append (within_append optionalMark (within_append letters optionalMark)) digits

theorem within_blanks : (zeroOrMore isBlank).Within (· != ':') :=
  within_zeroOrMore fun c blank => by rw [bne_iff_ne]; rintro rfl; exact absurd blank (by decide)

/-- The text of a range has one colon. -/
theorem count_of_take? (took : range.take? cs = some (taken, rest)) : taken.count ':' = 1 := by
  obtain ⟨first, _, _, tookFirst, tookGap, rfl⟩ := exists_of_take?_append took
  obtain ⟨left, _, _, tookLeft, tookMiddle, rfl⟩ := exists_of_take?_append tookGap
  obtain ⟨colon, _, _, tookColon, tookEnd, rfl⟩ := exists_of_take?_append tookMiddle
  obtain ⟨right, _, last, tookRight, tookLast, rfl⟩ := exists_of_take?_append tookEnd
  have none {ds : List Char} (without : ∀ c ∈ ds, (c != ':') = true) : ds.count ':' = 0 :=
    List.count_eq_zero.mpr fun inside => absurd (without ':' inside) (by decide)
  rw [eq_of_take?_char tookColon]
  simp [none (within_corner tookFirst), none (within_corner tookLast),
    none (within_blanks tookLeft), none (within_blanks tookRight)]

end

/-- The text of a token keeps what its kind promises. -/
theorem promises_of_next? {cs taken rest : List Char} {kind : TokenKind}
    (found : next? cs = some (some kind, taken, rest)) : kind.Promises (String.ofList taken) := by
  obtain ⟨lexeme, listed, took⟩ := mem_of_next? found
  simp only [lexemes, List.mem_cons, List.not_mem_nil, or_false, Prod.mk.injEq, Option.some.injEq]
    at listed
  cases kind with
  | number =>
    obtain rfl : lexeme = number := by simpa using listed
    exact isSome_read?_of_take? took
  | range =>
    obtain rfl : lexeme = range := by simpa using listed
    simpa [TokenKind.Promises] using count_of_take? took
  | _ => exact True.intro

end SheetPricing.Formula
