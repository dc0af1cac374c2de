import SheetPricing.Json.Access
import SheetPricing.Loading.Coordinate
import SheetPricing.Loading.FileFormat
import SheetPricing.Loading.SheetTitle
import SheetPricing.Text.Octets

/-!
# Workbook files that list their cells

A workbook file as a JSON value: worksheets in order, each with the values of its cells. An object
stands for a formula with its cached result, for a formula of many cells, or for a date. A file may
also be given as the text that its bytes are.
-/
namespace SheetPricing.Loading.CellFile

/-- A value with its cached result: an object may be a formula with the result of it. -/
def valueParts (value : Json) : RawValue × RawValue :=
  match value.field? "f" with
  | some formula => (.ofJson formula, .ofJson (value.field "c"))
  | none => (.ofJson value, .blank)

/-- The values of cells, each with its cached result, under their addresses. -/
abbrev CellEntries := List (String × RawValue × RawValue)

/-- The cells of a worksheet under their addresses, which are taken as they are. -/
def cells (values : CellEntries) : Except NumberError (Table Address Cell) :=
  values.foldlM (fun table (address, raw, cached) => do
    return table.put address (← Cell.ofRaw raw cached)) .empty

/-- A worksheet with the values of its cells. -/
def worksheet (name : String) (values : Json) : Except NumberError Worksheet := do
  return ⟨name, ← cells (values.fields.map fun (address, value) => (address, valueParts value))⟩

/-- Whether a file can hold a number. -/
def isWritable : RawValue → Bool
  | .real value => value.isFinite
  | _ => true

/-- The line breaks of a text as they are read: each is one character. -/
def withLineBreaks : List Char → List Char
  | [] => []
  | '\r' :: '\n' :: rest => '\n' :: withLineBreaks rest
  | c :: rest => (if c = '\r' then '\n' else c) :: withLineBreaks rest

/-- A value with the texts in it as they are read. -/
def asRead : Json → Json := Json.mapText fun text => String.ofList (withLineBreaks text.toList)

/-- A cell of a file: its place, its value and the cached result of it. -/
structure FileCell where
  address : Address
  row : Nat
  raw : RawValue
  cached : RawValue

/-- What is told of a file whose worksheets cannot be read. -/
def unreadableSheets : String :=
  "Unable to read workbook: could not read worksheets from None.\n" ++
  "This is most probably because the workbook source files contain some invalid XML.\n" ++
  "Please see the exception for more details."

/-- A date in a file. An empty text is none. -/
def dateValue (text : String) : Except FileFault RawValue :=
  if text.isEmpty then .ok .blank
  else match DateText.kind text.toList with
    | .ok kind => .ok (.other (.text kind.mark))
    | .error .unreadable => .error (.unreadable unreadableSheets)
    | .error fault => .error (.broken (.span fault))

/-- A value in a file with its cached result. Formulas of many cells and dates are not computed
with. -/
def fileParts (value : Json) : Except FileFault (RawValue × RawValue) :=
  match value.field? "array", value.field? "date" with
  | some _, _ => .ok (.other (.text "<ArrayFormula>"), .blank)
  | _, some date => (dateValue date.asText).map (·, .blank)
  | _, _ =>
    let (raw, cached) := valueParts (asRead value)
    if isWritable raw && isWritable cached then .ok (raw, cached)
    else .error (.unreadable unreadableSheets)

/-- The order of the cells in a file, by their rows and coordinates: shorter coordinates come first.
-/
def comesBefore (a b : Nat × String) : Bool :=
  a.1 < b.1 || (a.1 == b.1 && (a.2.length < b.2.length ||
    (a.2.length == b.2.length && decide (a.2 ≤ b.2))))

/-- The cells of a worksheet of a file. Of two values at one address the later one counts; there is
no cell without a value, and none above the first row. -/
def fileCells (values : List (String × Json)) : Except FileFault (List FileCell) := do
  let placed ← values.mapM fun (coordinate, value) =>
    match Coordinate.read? coordinate with
    | some (column, row) => .ok ((row, coordinate), column, value)
    | none => .error (.unreadable unreadableSheets)
  let sorted := placed.mergeSort fun a b => comesBefore a.1 b.1
  let found ← sorted.mapM fun ((row, _), column, value) => do
    let (raw, cached) ← fileParts value
    return (Coordinate.address? column row).map fun address =>
      (address, FileCell.mk address row raw cached)
  let table : Table Address FileCell := .ofList (found.filterMap id)
  return (table.entries.map Prod.snd).filter fun cell => !cell.raw.isBlank

/-- The worksheets of a file with the cells in them. -/
def written (sheets : List Json) : Except FileFault (List (String × List FileCell)) :=
  sheets.foldlM (fun before sheet => do
    match sheet with
    | .list [name, values] =>
      match SheetTitle.next? (before.map Prod.fst) name.asText with
      | none => throw (.unreadable unreadableSheets)
      | some title => return before ++ [(title, ← fileCells values.fields)]
    | _ => throw (.unreadable unreadableSheets)) []

/-- The worksheet of some cells. Rows are gone through in order; there is none behind the last row.
-/
def worksheetOf (title : String) (found : List FileCell) : Except BrokenFile Worksheet := do
  let inside := found.filter fun cell => cell.row ≤ lastRow
  let entries := inside.map fun cell => (cell.address, cell.raw, cell.cached)
  let cells ← (cells entries).mapError fun _ => .integerTooLarge
  if inside.length < found.length then throw (.rowTooLarge (lastRow + 1))
  return ⟨title, cells⟩

def sheets (file : Json) : Except FileFault (List Worksheet) :=
  match file.field? "sheets" with
  | none =>
    let fault := Package.fault (Text.octets (file.textField "raw").toList)
    .error (if fault.isUnreadable then .unreadable fault.message else .broken (.package fault))
  | some sheets => do
    let written ← written sheets.items
    (written.mapM fun (title, found) => worksheetOf title found).mapError .broken

/-- A value in a file in the one form in which it is written there. -/
def canonicalValue : Json → Json
  | .text text => if text.toList.head? = some '=' then .object [("f", .text text)] else .text text
  | .object fields => .object (fields.filter fun (name, value) => name != "c" || !value.isNull)
  | value => value

/-- A file in the form in which files with the same bytes are equal. -/
def canonical (file : Json) : Json :=
  match file.field? "sheets" with
  | none => file
  | some sheets => .object [("sheets", .list (sheets.items.map fun
      | .list [name, .object values] =>
        .list [name, .object (values.map fun (address, value) => (address, canonicalValue value))]
      | sheet => sheet))]

def isText (file : Json) : Bool := (file.field? "sheets").isNone

/-- A file without any bytes. -/
def empty : Json := .object [("raw", .text "")]

/-- The file that has these octets, as the text that they make up. -/
def ofOctets (octets : List Nat) : Json :=
  .object [("raw", .text (String.ofList (Text.decodeOctets octets)))]

/-- Whether a file has no bytes. -/
def isEmpty (file : Json) : Bool := (file.field? "raw").any fun raw => raw.asText.isEmpty

end SheetPricing.Loading.CellFile
