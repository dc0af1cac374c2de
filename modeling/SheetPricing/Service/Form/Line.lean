import SheetPricing.Service.Form
import SheetPricing.Text.Split
import SheetPricing.Url.Escape

/-!
# Forms in one line

The texts of a form in one line: names and values with an equals sign between, and an ampersand
between one text and the next. Blanks are written as plus signs; of other characters only letters,
digits and a few signs stand for themselves, and the octets of the others are escaped.
-/
namespace SheetPricing.Service.Form.Line

/-- Whether a character does not stand for itself. -/
def isEscaped (c : Char) : Bool := !(c.isAlphanum || c ∈ ['_', '.', '-', '~'])

/-- A name or a value as it stands in the line. -/
def writeText (text : String) : String :=
  String.ofList (text.toList.flatMap fun c => if c = ' ' then ['+'] else Url.escape isEscaped [c])

/-- The line of names and values. -/
def write (texts : List (String × String)) : String :=
  "&".intercalate (texts.map fun (name, value) => writeText name ++ "=" ++ writeText value)

/-- The name or the value that stands in a line. -/
def readText (cs : List Char) : String :=
  String.ofList (Url.unescape (cs.map fun c => if c = '+' then ' ' else c))

/-- The form in a line of octets. What is not escaped is read octet by octet. -/
def read {β : Type} (line : String) : Except FormFault (Form β) :=
  let octets := (Text.octets line.toList).map Char.ofNat
  let pieces := (Text.splitList '&' octets).filter (!·.isEmpty)
  Form.checked ⟨pieces.map fun cs =>
    (readText (cs.takeWhile (· != '=')), .text (readText ((cs.dropWhile (· != '=')).drop 1)))⟩

end SheetPricing.Service.Form.Line
