import SheetPricing.Pricing.Dimension
import SheetPricing.Workbook.Cell

/-!
# Reading the inputs

Inputs are numbers or texts in Dutch notation: a comma before the fraction and points between groups
of three digits. A price needs finite inputs greater than zero.
-/
namespace SheetPricing

inductive RawInput where
  | integer (value : Int)
  | real (value : Binary64)
  | text (value : String)
  /-- Anything that is neither a number nor a text. -/
  | unreadable
  deriving DecidableEq

def RawInput.ofJson : Json → RawInput
  | .integer value => .integer value
  | .real value => .real value
  | .text value => .text value
  | _ => .unreadable

/-- Why an input cannot be used. -/
inductive InputError where
  | integerTooLarge
  | notPositive (field label : String)
  deriving DecidableEq, Repr

def InputError.message : InputError → String
  | .integerTooLarge => NumberError.integerTooLarge.message
  | .notPositive _ label => s!"{label} moet een geldig positief getal zijn"

namespace DutchNumber

/-- The groups of a point and three digits that begin a text, and what is left. -/
def takeGroups : List Char → Nat × List Char
  | '.' :: a :: b :: c :: rest =>
    if Text.isDigit a && Text.isDigit b && Text.isDigit c then
      let (count, after) := takeGroups rest
      (count + 1, after)
    else (0, '.' :: a :: b :: c :: rest)
  | cs => (0, cs)

/-- A text without the sign that may begin it. -/
def withoutSign : List Char → List Char
  | '+' :: rest => rest
  | '-' :: rest => rest
  | cs => cs

/-- Whether groups of three digits, a comma and digits follow. -/
def hasGroups (cs : List Char) : Bool :=
  let (count, rest) := takeGroups cs
  0 < count && match rest with
    | ',' :: fraction => fraction.all Text.isDigit
    | _ => false

/-- Whether a text has points between groups of three digits before a comma: one to three digits, at
least one group, the comma, and any digits. -/
def isGrouped (cs : List Char) : Bool :=
  let digits := withoutSign cs
  [1, 2, 3].any fun count =>
    (digits.take count).length == count && (digits.take count).all Text.isDigit
      && hasGroups (digits.drop count)

/-- The plain form of a text: without spaces and group points, with a decimal point. -/
def plain (s : String) : List Char :=
  let cs := (Text.trimList Text.isBlank s.toList).filter (· != ' ')
  let joined := if isGrouped cs then cs.filter (· != '.') else cs
  joined.map fun c => if c == ',' then '.' else c

/-- The number that a text means; none is what is not a number. -/
def read (s : String) : Binary64 := (Numeral.read? (String.ofList (plain s))).getD .nan

end DutchNumber

namespace RawInput

/-- The number that an input means. Only an integer out of range is an error. -/
def read : RawInput → Except InputError Binary64
  | .integer value => (Binary64.ofInt? value).mapError fun _ => .integerTooLarge
  | .real value => .ok value
  | .text value => .ok (DutchNumber.read value)
  | .unreadable => .ok .nan

/-- The number that an input means, if it is finite and greater than zero. -/
def positive (field label : String) (input : RawInput) : Except InputError Binary64 := do
  let value ← input.read
  if value.isFinite && Binary64.lt 0 value then return value
  else throw (.notPositive field label)

/-- The number of a field, which is called by its label if it is a dimension. -/
def positiveField (field : String) (input : RawInput) : Except InputError Binary64 :=
  input.positive field ((Dimension.named? field).elim field Dimension.label)

end RawInput

/-- The numbers that the four inputs mean; the first that cannot be used is the error. -/
def readDimensions (inputs : PerDimension RawInput) : Except InputError (PerDimension Binary64) :=
  inputs.check fun dimension input => input.positive dimension.name dimension.label

end SheetPricing
