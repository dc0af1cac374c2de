import SheetPricing.Archive.Basic
import SheetPricing.Pricing.Template
import SheetPricing.Pricing.Treatment
import SheetPricing.Service.Form

/-!
# Responses

A request is answered, or it is rejected for a reason. The reason decides the status and what is
told about it.
-/
namespace SheetPricing.Service

/-- Why a request is not answered. -/
inductive Rejection where
  | unknownPath
  | wrongMethod
  | missingKey
  | wrongKey
  | missingOwner
  /-- The places of the request that are missing or of the wrong kind. -/
  | invalid (places : List String)
  /-- The body is beyond what can be read. -/
  | unreadableBody
  /-- The body is no form. -/
  | unreadableForm (fault : FormFault)
  | notConfigured
  | notWorkbookName
  | invalidConfig (problems : Schema.Problems)
  /-- The workbook of a new configuration cannot be had. -/
  | unusableWorkbook (error : LoadError)
  | refusedConfig (error : ConfigurationError)
  /-- The workbook of the stored configuration cannot be had. -/
  | unreachableWorkbook (error : LoadError)
  | noTemplate
  /-- Something broke that no request can help. -/
  | broken

/-- What is told about the service. -/
structure HealthReport where
  service : String
  version : String
  templateConfigured : Bool
  templatesLoaded : List String
  cachedWorkbooks : Nat
  deriving DecidableEq, Repr

inductive Answer where
  | health (report : HealthReport)
  /-- The rows can be read, or why not. -/
  | database (problem : Option String)
  | stored (row : Row)
  | cleared
  | worksheets (config : PricingConfig) (names : List String)
  | price (result : PriceResult)

abbrev Response := Except Rejection Answer

/-- What a response carries. -/
inductive Content where
  | empty
  | json (value : Json)
  /-- The places that are invalid. -/
  | places (names : List String)
  | text (value : String)

def detail (text : String) : Content := .json (.object [("detail", .text text)])

namespace Rejection

def status : Rejection → Nat
  | .unknownPath => 404
  | .wrongMethod => 405
  | .missingKey => 401
  | .wrongKey => 401
  | .missingOwner => 400
  | .invalid _ => 422
  | .unreadableBody => 400
  | .unreadableForm _ => 400
  | .notConfigured => 404
  | .notWorkbookName => 400
  | .invalidConfig _ => 422
  | .unusableWorkbook _ => 422
  | .refusedConfig _ => 400
  | .unreachableWorkbook _ => 502
  | .noTemplate => 503
  | .broken => 500

def content : Rejection → Content
  | .unknownPath => detail "Not Found"
  | .wrongMethod => detail "Method Not Allowed"
  | .missingKey => detail "Missing API key. Please provide X-API-Key header"
  | .wrongKey => detail "Invalid API key"
  | .missingOwner => detail "Missing X-Owner-Id header"
  | .invalid places => .places (places.mergeSort fun a b => decide (a ≤ b))
  | .unreadableBody => detail "There was an error parsing the body"
  | .unreadableForm fault => detail fault.message
  | .notConfigured => detail "Pricing is not configured"
  | .notWorkbookName => detail "Please upload a valid Excel file (.xlsx or .xlsm)"
  | .invalidConfig problems =>
    .json (.object [("detail", .list (problems.map fun (_, problem) => .text problem.message))])
  | .unusableWorkbook error =>
    detail ("Failed to read Excel file. Please ensure it's a valid Excel document. ("
      ++ error.message ++ ")")
  | .refusedConfig error => detail error.message
  | .unreachableWorkbook error => detail ("Cannot load pricing template: " ++ error.message)
  | .noTemplate => detail Treatment.notConfigured
  | .broken => .text "Internal Server Error"

end Rejection

namespace Answer

def status : Answer → Nat
  | .cleared => 204
  | _ => 200

def healthJson (report : HealthReport) : Json :=
  .object [("status", .text "healthy"), ("service", .text report.service),
    ("version", .text report.version), ("template_configured", .bool report.templateConfigured),
    ("templates_loaded", .list (report.templatesLoaded.map .text)),
    ("cached_workbooks", .integer report.cachedWorkbooks)]

def databaseJson : Option String → Json
  | none => .object [("status", .text "healthy"), ("database", .text "ok")]
  | some problem =>
    .object [("status", .text "unhealthy"), ("database", .text "error"), ("error", .text problem)]

def rowJson (row : Row) : Json :=
  .object ([("file_name", .text row.fileName), ("selected_sheet", .text row.selectedSheet)]
    ++ row.inputCells.toList.map (fun (dimension, address) =>
      (dimension.name ++ "_cell", .text address))
    ++ [("price_cell", .text row.priceCell), ("workbook_hash", .text row.workbookHash),
      ("updated_at", .text row.updatedAt)])

def valuesJson (values : Table Address Binary64) : Json :=
  .object (values.entries.map fun (address, value) => (address, .real value))

def recordJson (record : CalculationRecord) : Json :=
  .object [("sheet_name", .text record.sheetName), ("input_cells", valuesJson record.inputCells),
    ("output_cell", .object [("ref", .text record.outputCell),
      ("value", .ofOption .real record.outputValue)]),
    ("formula", .ofOption .text record.formula),
    ("resolved_cells", valuesJson record.resolvedCells),
    ("template_hash", .ofOption .text record.templateHash),
    ("errors", .list (record.errors.map .text))]

def priceJson (result : PriceResult) : Json :=
  .object [("price", .ofOption .real result.price), ("debug_info", recordJson result.record)]

def sheetsJson (config : PricingConfig) (names : List String) : Json :=
  .object [("file_name", .text config.fileName), ("sheets", .list (names.map .text)),
    ("selected_sheet", .text config.sheetName)]

def content : Answer → Content
  | .health report => .json (healthJson report)
  | .database problem => .json (databaseJson problem)
  | .stored row => .json (rowJson row)
  | .cleared => .empty
  | .worksheets config names => .json (sheetsJson config names)
  | .price result => .json (priceJson result)

end Answer

namespace Response

def status : Response → Nat
  | .ok answer => answer.status
  | .error rejection => rejection.status

/-- What is sent back for a method; nothing is sent where only the head was asked for. -/
def content (method : String) (response : Response) : Content :=
  if method = "HEAD" then .empty
  else match response with
    | .ok answer => answer.content
    | .error rejection => rejection.content

end Response
end SheetPricing.Service
