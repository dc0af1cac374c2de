import SheetPricing.Decimal.Basic
import SheetPricing.Text.Blank
import SheetPricing.Text.Digit

/-!
# Reading numbers

A numeral has an optional sign, digits with at most one point, and an optional exponent; a single
underscore may stand between two digits. The words for infinity and for what is not a number
are numerals as well, in any case. Digits of all scripts count, and blanks around the numeral
do not.
-/
namespace SheetPricing.Numeral

/-- The digits that begin a text, and the rest. -/
def takeDigits : List Char → List Nat × List Char
  | [] => ([], [])
  | c :: rest =>
    if Text.isPlainDigit c then
      let (digits, after) := takeDigits rest
      ((c.toNat - '0'.toNat) :: digits, after)
    else ([], c :: rest)

/-- The sign that begins a text, and the rest. -/
def takeSign : List Char → Bool × List Char
  | '-' :: rest => (true, rest)
  | '+' :: rest => (false, rest)
  | cs => (false, cs)

/-- An exponent that takes the whole rest of a numeral; nothing stands for zero. -/
def exponent? : List Char → Option Int
  | [] => some 0
  | c :: rest =>
    if c == 'e' || c == 'E' then
      let (negative, digits) := takeSign rest
      match takeDigits digits with
      | ([], _) => none
      | (ds, []) => some (if negative then -(ofDigits ds) else ofDigits ds)
      | _ => none
    else none

/-- The digits after a point, if there is one, and the rest. -/
def takeFraction : List Char → List Nat × List Char
  | '.' :: rest => takeDigits rest
  | cs => ([], cs)

/-- The decimal of a numeral without blanks, underscores and words. -/
def decimal? (cs : List Char) : Option Decimal :=
  let (negative, unsigned) := takeSign cs
  let (whole, afterWhole) := takeDigits unsigned
  let (fraction, afterFraction) := takeFraction afterWhole
  if whole.isEmpty && fraction.isEmpty then none
  else (exponent? afterFraction).map fun exponent =>
    ⟨negative, ofDigits (whole ++ fraction), exponent - fraction.length⟩

/-- The number that a word stands for. -/
def word? (cs : List Char) : Option Binary64 :=
  let (negative, letters) := takeSign cs
  let word := String.ofList (letters.map Char.toLower)
  if word == "inf" || word == "infinity" then some (.infinity negative)
  else if word == "nan" then some .nan
  else none

/-- A text without its underscores, if each of them stands between two digits. -/
def joinDigits? : Option Char → List Char → Option (List Char)
  | _, [] => some []
  | before, '_' :: rest =>
    match before, rest with
    | some b, a :: _ =>
      if Text.isPlainDigit b && Text.isPlainDigit a then joinDigits? (some '_') rest else none
    | _, _ => none
  | _, c :: rest => (joinDigits? (some c) rest).map (c :: ·)

/-- One character in plain form: a digit of any script becomes a plain one and a blank becomes a
space; `none` if it can be no part of a numeral. -/
def plainChar? (c : Char) : Option Char :=
  if c.toNat < 127 then some c
  else if Text.isBlank c then some ' '
  else (Text.digitValue? c).map fun value => Char.ofNat ('0'.toNat + value)

/-- A text in plain form. A text of plain characters is in plain form already. -/
def plain? (cs : List Char) : Option (List Char) :=
  if cs.all (·.toNat < 128) then some cs else cs.mapM plainChar?

/-- The number that a text stands for. -/
def read? (s : String) : Option Binary64 := do
  let cs ← plain? s.toList
  let numeral ← joinDigits? none (Text.trimList Text.isNumberBlank cs)
  match decimal? numeral with
  | some decimal => some decimal.toBinary64
  | none => word? numeral

end SheetPricing.Numeral
