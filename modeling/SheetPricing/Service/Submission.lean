import SheetPricing.Json.Access
import SheetPricing.Json.Encoding
import SheetPricing.Service.Request
import SheetPricing.Service.Response

/-!
# What requests submit

The four inputs of a price come as a JSON object, a configuration comes as a form that may carry a
workbook. What is invalid is told with the value that was given there; if that cannot be written,
the answer breaks.
-/
namespace SheetPricing.Service

/-- What can be read of a JSON body. -/
def bodyLimits : Json.ReadLimits := ⟨1000, 4300⟩

/-- What a body holds. -/
inductive Payload where
  | nothing
  | value (json : Json)
  /-- Octets that are no JSON text; whether they make up any text. -/
  | octets (areText : Bool)

/-- What the body of a request holds. A body that is said to be JSON has to be. -/
def Request.payload {β : Type} (isText : β → Bool) (request : Request β) :
    Except Rejection Payload :=
  match request.body with
  | .empty => .ok .nothing
  | .text content =>
    if content.isEmpty then .ok .nothing
    else if !request.mediaType.isJson then .ok (.octets true)
    else match Json.readEncoded bodyLimits content with
      | .ok value => .ok (.value value)
      | .error .malformed => .error (.invalid ["body"])
      | .error _ => .error .unreadableBody
  | .parts _ form =>
    let areText := form.parts.all fun (_, part) => match part with
      | .text _ => true
      | .file _ data => isText data
    if !request.mediaType.isJson then .ok (.octets areText)
    else .error (if areText then .invalid ["body"] else .unreadableBody)

/-- An input that is a number, a truth value or a text, or is left out. -/
def asInput? : Json → Option (Option RawInput)
  | .null => some none
  | .bool value => some (some (.real (if value then 1 else 0)))
  | .integer value =>
    (Binary64.ofInt value).finite?.map fun number => some (.real number)
  | .real value => some (some (.real value))
  | .text value => some (some (.text value))
  | _ => none

/-- Places of a request that are invalid. If what was given there cannot be written, this cannot be
told. -/
structure Complaint where
  places : List String
  canBeTold : Bool

namespace Complaint

def rejection (complaint : Complaint) : Rejection :=
  if complaint.canBeTold then .invalid complaint.places else .broken

/-- The complaint about the whole body. -/
def body (canBeTold : Bool) : Complaint := ⟨["body"], canBeTold⟩

/-- A complaint about one place more, whose value can be written. -/
def withPlace (complaint : Complaint) (place : String) : Complaint :=
  { complaint with places := place :: complaint.places }

end Complaint

/-- The four inputs of a JSON value, or the places in it that are invalid. -/
def readInputs (value : Json) : Except Complaint (PerDimension (Option RawInput)) :=
  match value with
  | .object fields =>
    let given (dimension : Dimension) := (fields.lookup dimension.name).getD .null
    let wrong := Dimension.all.filter fun dimension => (asInput? (given dimension)).isNone
    if wrong.isEmpty then
      let input (dimension : Dimension) := (asInput? (given dimension)).getD none
      .ok ⟨input .length, input .width, input .height, input .weight⟩
    else .error
      { places := wrong.map fun dimension => "body." ++ dimension.name
        canBeTold := wrong.all fun dimension => (given dimension).isFinite }
  | value => .error (.body value.isFinite)

/-- The four inputs that a body holds. -/
def Payload.inputs : Payload → Except Complaint (PerDimension (Option RawInput))
  | .nothing => .error (.body true)
  | .value json => readInputs json
  | .octets areText => .error (.body areText)

/-- A configuration that is submitted, with a workbook if there is one. -/
structure Submission (β : Type) where
  config : PricingConfig
  upload : Option (Upload β)

namespace Submission

variable {β : Type}

/-- The file of a form; one without a name is none. -/
def file? (form : Form β) : Option (String × β) :=
  match form.part? "file" with
  | some (.file name data) => if name.isEmpty then none else some (name, data)
  | _ => none

/-- The names of the texts that a configuration is made of. -/
def textNames : List String :=
  ["selected_sheet", "price_cell", "workbook_url"] ++ Dimension.all.map (·.name ++ "_cell")

/-- The places of a form that are missing or of the wrong kind: the worksheet has to be chosen, a
file is no text, and a text is no file. -/
def wrongPlaces (form : Form β) : List String :=
  let isWrong (name : String) : Bool :=
    form.hasFile name || (name = "selected_sheet" && (form.text? name).isNone)
  (textNames.filter isWrong ++ if (form.text? "file").isSome then ["file"] else []).map
    ("body." ++ ·)

/-- The endings of the names of workbook files. -/
def endings : List String := [".xlsx", ".xlsm"]

def hasWorkbookName (name : String) : Bool :=
  endings.any fun ending => ending.toList.isSuffixOf (Text.lowered name)

def configFields (form : Form β) (fileName : String) : Schema.Fields :=
  let text (name usual : String) : Json := .text ((form.text? name).getD usual)
  let cell (dimension : Dimension) : String × Json :=
    let name := dimension.name ++ "_cell"
    (name, text name (PricingConfig.defaultCells.get dimension))
  [("workbook_ref", text "workbook_url" ""), ("file_name", .text fileName),
    ("sheet_name", text "selected_sheet" "")]
    ++ Dimension.all.map cell ++ [("price_cell", text "price_cell" PricingConfig.defaultPriceCell)]

/-- What a form submits. -/
def ofForm (form : Form β) : Except Rejection (Submission β) := do
  unless (wrongPlaces form).isEmpty do throw (.invalid (wrongPlaces form))
  let file := file? form
  if let some (name, _) := file then
    unless hasWorkbookName name do throw .notWorkbookName
  match PricingConfig.ofFields (configFields form ((file.map Prod.fst).getD "")) with
  | .error problems => throw (.invalidConfig problems)
  | .ok config => return ⟨config, file.map fun (name, data) => ⟨data, some name⟩⟩

end Submission
end SheetPricing.Service
