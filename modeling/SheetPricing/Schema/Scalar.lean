import SheetPricing.Decimal.Numeral
import SheetPricing.Schema.Field
import SheetPricing.Text.Blank
import SheetPricing.Text.Split

/-!
# Truth values and numbers in fields

Fields may write a truth value as a word or as zero or one, and a number as text; a truth value
counts as zero or one where a number is asked for. Numbers as text are in plain digits, and
underscores may stand in them.
-/
namespace SheetPricing.Schema

def trueWords : List String := ["1", "on", "t", "true", "y", "yes"]

def falseWords : List String := ["0", "off", "f", "false", "n", "no"]

/-- The truth value that an integer stands for. -/
def truthOfInt (value : Int) : Except FieldProblem Bool :=
  if value = 0 then .ok false else if value = 1 then .ok true else .error .unreadableTruth

/-- The size from which on a number is not taken for an integer of 64 bits. -/
def wordSize : Int := 2 ^ (63 : Nat)

/-- A truth value. A number that is not taken for an integer is no truth value at all. -/
def asTruth : Json → Except FieldProblem Bool
  | .bool value => .ok value
  | .integer value =>
    if -wordSize ≤ value ∧ value < wordSize then truthOfInt value else .error .notTruth
  | .real value =>
    match value.truncate? with
    | some whole =>
      if value.isInteger ∧ -wordSize < whole ∧ whole < wordSize then truthOfInt whole
      else .error .notTruth
    | none => .error .notTruth
  | .text value =>
    let word := String.ofList (value.toList.map Char.toLower)
    if word ∈ trueWords then .ok true
    else if word ∈ falseWords then .ok false
    else .error .unreadableTruth
  | _ => .error .notTruth

/-- A text without its underscores, unless one stands at an end or beside another. -/
def joined? (cs : List Char) : Option (List Char) :=
  let parts := Text.splitList '_' cs
  if parts.any List.isEmpty then none else some parts.flatten

/-- The most characters of an integer, its sign among them. -/
def maxIntegerLength : Nat := 4300

/-- The integer that a sign and digits write, without needless zeros. Too many digits are told even
if other characters follow. -/
def signedDigits (cs : List Char) : Except FieldProblem Int :=
  let (negative, unsigned) := if cs.head? = some '-' then (true, cs.drop 1) else (false, cs)
  let (digits, rest) := Numeral.takeDigits unsigned
  if digits.isEmpty || (digits.head? = some 0 && digits.length != 1) then .error .unreadableInteger
  else if maxIntegerLength < cs.length - rest.length then .error .oversizedInteger
  else if rest.isEmpty then .ok (if negative then -(ofDigits digits) else ofDigits digits)
  else .error .unreadableInteger

/-- A numeral without a sign and without the zeros that it begins with, underscores among them. One
zero is left if nothing else is, or if a point follows. A minus sign that follows zeros is kept. -/
def withoutZeros? : List Char → Option (List Char)
  | [] => none
  | '0' :: rest =>
    let zeros := rest.takeWhile fun c => c == '0' || c == '_'
    let before := (('0' :: zeros).getLast?).getD '0'
    match rest.drop zeros.length with
    | [] => some [before]
    | '.' :: fraction => some (before :: '.' :: fraction)
    | c :: more => if Text.isPlainDigit c || c == '-' then some (c :: more) else none
  | c :: rest => if Text.isPlainDigit c then some (c :: rest) else none

/-- A numeral without a point that only zeros follow, at least one of them. -/
def withoutFraction (cs : List Char) : List Char :=
  match cs.dropWhile (· != '.') with
  | '.' :: '0' :: zeros => if zeros.all (· == '0') then cs.takeWhile (· != '.') else cs
  | _ => cs

/-- A numeral in the form that `signedDigits` reads: without white space around it, plus sign, zeros
at its ends and underscores. -/
def cleaned? (cs : List Char) : Option (List Char) := do
  let signed ← match Text.trimList Text.isWhiteSpace cs with
    | '-' :: unsigned => (withoutZeros? unsigned).map ('-' :: ·)
    | '+' :: unsigned => withoutZeros? unsigned
    | unsigned => withoutZeros? unsigned
  let whole := withoutFraction signed
  return (joined? whole).getD whole

/-- The integer that a text writes; a point may be followed by zeros only. -/
def readInteger (s : String) : Except FieldProblem Int :=
  match signedDigits s.toList with
  | .error .unreadableInteger =>
    match cleaned? s.toList with
    | some cs => signedDigits cs
    | none => .error .unreadableInteger
  | outcome => outcome

def asInteger : Json → Except FieldProblem Int
  | .bool value => .ok (if value then 1 else 0)
  | .integer value => .ok value
  | .real value =>
    match value.truncate? with
    | none => .error .infiniteInteger
    | some whole =>
      if !value.isInteger then .error .fractionalInteger
      else if -wordSize < whole ∧ whole < wordSize then .ok whole
      else .error .oversizedInteger
  | .text value => readInteger value
  | _ => .error .notInteger

/-- The number of a numeral in plain characters, a word for one among them. -/
def plainNumber? (cs : List Char) : Option Binary64 :=
  match Numeral.decimal? cs with
  | some decimal => some decimal.toBinary64
  | none => Numeral.word? cs

/-- The number that a text writes, with white space around it or else with underscores in it. -/
def readNumber? (s : String) : Option Binary64 :=
  (plainNumber? (Text.trimList Text.isWhiteSpace s.toList)).or
    ((joined? s.toList).bind plainNumber?)

def asNumber : Json → Except FieldProblem Binary64
  | .bool value => .ok (if value then 1 else 0)
  | .integer value =>
    let number := Binary64.ofInt value
    if number.isFinite then .ok number else .error .notNumber
  | .real value => .ok value
  | .text value =>
    match readNumber? value with
    | some number => .ok number
    | none => .error .unreadableNumber
  | _ => .error .notNumber

end SheetPricing.Schema
