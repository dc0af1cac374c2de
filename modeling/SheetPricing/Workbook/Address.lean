import SheetPricing.Text.Blank
import SheetPricing.Text.Capital
import SheetPricing.Text.Digit
import SheetPricing.Text.Quoted
import SheetPricing.Text.Split

/-!
# Cell addresses

An address is one or more capitals, the column, and one or more digits, the row. Whether a text is
an address and which address a text means are two questions: the second trims and capitalizes first.
-/
namespace SheetPricing

/-- The address of a cell in a worksheet; worksheets take any text literally. -/
abbrev Address := String

namespace Address

def isCapital (c : Char) : Bool := 'A' ≤ c && c ≤ 'Z'

/-- One or more digits. -/
def isRow : List Char → Bool
  | [] => false
  | [c] => Text.isPlainDigit c
  | c :: rest => Text.isPlainDigit c && isRow rest

/-- One or more capitals and a row. -/
def isPlain : List Char → Bool
  | [] => false
  | c :: rest => isCapital c && (isRow rest || isPlain rest)

/-- Whether a text is an address. One line break at the end does not count. -/
def isAddress (s : String) : Bool := isPlain s.toList || isPlain (Text.dropFinalBreak s.toList)

/-- A text that means no address. -/
structure Invalid where
  given : String
  deriving DecidableEq, Repr

/-- The message for a text that means no address, given as it is shown. -/
def invalidMessage (shown : String) : String :=
  s!"Invalid cell reference: {shown}. Use format like A1, B2, etc."

def Invalid.message (e : Invalid) : String := invalidMessage (Text.quoted e.given)

/-- The address that a text means: blanks around it and the case of letters do not count. -/
def normalize (s : String) : Except Invalid Address :=
  let address := Text.capitalize (Text.trim s)
  if isAddress address then .ok address else .error ⟨s⟩

end Address
end SheetPricing
