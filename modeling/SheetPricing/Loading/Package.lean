import SheetPricing.Loading.Container
import SheetPricing.Loading.Inflation

/-!
# Packages

A workbook is a container with one item that tells what the others are. A file that is given as a
text is looked into only as far as that item; it is never found to name a workbook.
-/
namespace SheetPricing.Loading

/-- Why a file is no package with a workbook. -/
inductive PackageFault where
  | container (fault : ContainerFault)
  | inflation (fault : InflationFault)
  | badStream
  | noElement (line column : Nat)
  | noMarkup (line column : Nat)
  | noWorkbook
  deriving DecidableEq, Repr

def PackageFault.message : PackageFault → String
  | .container fault => fault.message
  | .inflation fault => fault.message
  | .badStream => "Invalid data stream"
  | .noElement line column => s!"no element found: line {line}, column {column}"
  | .noMarkup line column => s!"syntax error: line {line}, column {column}"
  | .noWorkbook => "File contains no valid workbook part"

/-- Whether a fault only means that the file is no workbook. Other faults are told as they are. -/
def PackageFault.isUnreadable : PackageFault → Bool
  | .container (.newerVersion _) | .container .patched | .container .stronglyEncrypted
  | .container .unknownMethod | .container (.encrypted _) | .container .outOfReach
  | .inflation _ | .noElement .. | .noMarkup .. => false
  | _ => true

namespace Package

/-- The item that tells what the others are. -/
def contentsName : String := "[Content_Types].xml"

/-- What a stream of sorted blocks begins with, as far as it can be told. -/
def sortedMarks : List (List Char) :=
  ('1' :: "23456789".toList).map fun size => "BZh".toList ++ size :: "1AY&SY".toList

/-- Whether octets can begin a stream of sorted blocks. -/
def beginsSorted (octets : List Nat) : Bool :=
  sortedMarks.any fun mark =>
    let known := mark.map Char.toNat
    octets.take known.length == known.take octets.length

/-- The octets that packed octets stand for. -/
def unpack (method : Container.Method) (packed : List Nat) :
    Except PackageFault (List Nat) :=
  match method with
  | .stored => .ok packed
  | .deflated => (inflate packed).mapError .inflation
  | .sorted => if beginsSorted packed then .ok [] else .error .badStream
  | .ranged => .ok []

/-- The octets of an item. -/
def content (octets : List Nat) (name : String) : Except PackageFault (List Nat) := do
  let items ← (Container.itemsOf octets).mapError .container
  match Container.item? items name with
  | none => throw (.container (.noItem name))
  | some item =>
    let (method, packed) ← (item.packed octets).mapError .container
    let content := (← unpack method packed).take item.size
    if Checksum.ofOctets content ≠ item.checksum then throw (.container (.badChecksum item.name))
    return content

def isBlank (octet : Nat) : Bool := octet == 0x20 || octet == 9 || octet == 10 || octet == 13

/-- The line and the column behind octets. -/
def position (octets : List Nat) : Nat × Nat :=
  (octets.countP (· == 10) + 1, (octets.reverse.takeWhile (· != 10)).length)

/-- Whether a character in front of any markup is told as such. -/
def isSyntax (octet : Nat) : Bool :=
  octet != '<'.toNat && octet != '&'.toNat && 0x20 ≤ octet

/-- Why a file that is given as a text is no package with a workbook. -/
def fault (octets : List Nat) : PackageFault :=
  match content octets contentsName with
  | .error fault => fault
  | .ok found =>
    let blanks := found.takeWhile isBlank
    let (line, column) := position blanks
    match found.drop blanks.length with
    | [] => .noElement line column
    | first :: _ => if isSyntax first then .noMarkup line column else .noWorkbook

end Package
end SheetPricing.Loading
