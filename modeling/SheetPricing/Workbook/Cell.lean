import SheetPricing.Decimal.Numeral
import SheetPricing.Json.Basic

/-!
# Cells

A cell holds a finite number, a formula, or a value that is not computed with. What was
read from a file becomes a cell by `Cell.ofRaw`; `Cell.numeric?` is the number a cell stands for.
-/
namespace SheetPricing

/-- A value as it is read from a file. -/
inductive RawValue where
  | blank
  | bool (value : Bool)
  | integer (value : Int)
  | real (value : Binary64)
  | text (value : String)
  /-- Any other value, kept as it is shown. -/
  | other (shown : Json)
  deriving Inhabited

namespace RawValue

def ofJson : Json → RawValue
  | .null => .blank
  | .bool value => .bool value
  | .integer value => .integer value
  | .real value => .real value
  | .text value => .text value
  | value => .other value

def isBlank : RawValue → Bool
  | .blank => true
  | _ => false

def toJson : RawValue → Json
  | .blank => .null
  | .bool value => .bool value
  | .integer value => .integer value
  | .real value => .real value
  | .text value => .text value
  | .other value => value

end RawValue

/-- Why a value is no number. -/
inductive NumberError where
  | integerTooLarge
  | notNumeral (text : String)
  | notNumeric (kind : String)
  deriving DecidableEq, Repr

namespace NumberError

def message : NumberError → String
  | .integerTooLarge => "int too large to convert to float"
  | .notNumeral text => s!"could not convert string to float: {Text.quoted text}"
  | .notNumeric kind => s!"float() argument must be a string or a real number, not '{kind}'"

end NumberError

/-- The number nearest to an integer, unless it is out of range. -/
def Binary64.ofInt? (i : Int) : Except NumberError Binary64 :=
  let value := Binary64.ofInt i
  if value.isFinite then .ok value else .error .integerTooLarge

/-- A number itself if it is finite. -/
def Binary64.finite? (value : Binary64) : Option Binary64 :=
  if value.isFinite then some value else none

namespace RawValue

/-- The number that a value is converted to when it is written into a cell. -/
def toNumber : RawValue → Except NumberError Binary64
  | .blank => .error (.notNumeric "NoneType")
  | .bool value => .ok (if value then 1 else 0)
  | .integer value => Binary64.ofInt? value
  | .real value => .ok value
  | .text value =>
    match Numeral.read? value with
    | some number => .ok number
    | none => .error (.notNumeral value)
  | .other (.object _) => .error (.notNumeric "dict")
  | .other _ => .error (.notNumeric "list")

/-- The finite number that a value is, without conversion from text. -/
def finite? : RawValue → Except NumberError (Option Binary64)
  | .integer value => (Binary64.ofInt? value).map some
  | .real value => .ok value.finite?
  | _ => .ok none

/-- The finite number that a text stands for; other values stand for none. -/
def numeral? : RawValue → Option Binary64
  | .text value => (Numeral.read? (Text.trim value)).bind Binary64.finite?
  | _ => none

end RawValue

/-- What a cell holds. A formula is kept with the result of its last calculation, which is never
computed with. -/
inductive Cell where
  | number (value : Binary64)
  | formula (text : String) (cached : Option Binary64)
  | other (raw : RawValue)
  deriving Inhabited

namespace Cell

/-- The cell of a value and the cached result that was read with it. A text that begins with an
equals sign is a formula; numbers that are not finite are not computed with. -/
def ofRaw (value cached : RawValue) : Except NumberError Cell :=
  match value with
  | .text text =>
    if text.toList.head? = some '=' then cached.finite?.map (.formula text) else .ok (.other value)
  | .integer _ | .real _ => value.finite?.map fun
      | some finite => .number finite
      | none => .other value
  | _ => .ok (.other value)

/-- The number that a cell stands for without calculation. -/
def numeric? : Cell → Option Binary64
  | .number value => some value
  | .formula _ cached => cached
  | .other raw => raw.numeral?

end Cell
end SheetPricing
