import SheetPricing.Schema.Scalar
import SheetPricing.Service.LogLevel
import SheetPricing.Service.Origin

/-!
# Settings

What can be set from outside, each with a value of its own if it is left out. Names that are not
settings are ignored.
-/
namespace SheetPricing.Service

structure Settings where
  projectName : String
  version : String
  /-- What the paths of all routes begin with. -/
  basePath : String
  debug : Bool
  logLevel : Option LogLevel
  apiKey : Option String
  databaseUrl : Option String
  origins : List String
  storagePath : String
  /-- Where the shared template is. -/
  templateUrl : Option String
  /-- The seconds that a download may take. -/
  fetchTimeout : Binary64
  /-- How often a failed download is tried again. -/
  fetchRetries : Nat
  deriving DecidableEq

namespace Settings

open Schema

def default : Settings where
  projectName := "Coatquote Pricing"
  version := "0.1.0"
  basePath := "/api/v1"
  debug := false
  logLevel := none
  apiKey := none
  databaseUrl := none
  origins := []
  storagePath := "./data"
  templateUrl := none
  fetchTimeout := .ofInt 15
  fetchRetries := 1

instance : Inhabited Settings := ⟨default⟩

/-- Where the rows are kept if no database is named. -/
def localDatabase : String := "sqlite:///./data/dev.db"

/-- The database that is used. -/
def database (settings : Settings) : String :=
  (settings.databaseUrl.filter (!·.isEmpty)).getD localDatabase

/-- A count of further tries, which is not negative. -/
def checkRetries (value : Int) : Except String Nat :=
  if value < 0 then .error "WORKBOOK_FETCH_RETRIES must be zero or positive" else .ok value.toNat

/-- A count of further tries as it was given; what can be compared with zero is kept as it is. -/
def keepRetries (value : Json) : Except FieldProblem Json := do
  let size ← match value with
    | .integer size => pure size
    | .bool _ => pure 0
    | .real size => pure (if size.lt 0 then -1 else 0)
    | value => throw (.notComparable value.kindName)
  let _ ← (checkRetries size).mapError .invalid
  return value

def asRetries (value : Json) : Except FieldProblem Nat := do
  (checkRetries (← asInteger value)).mapError .invalid

/-- A log level as it was given; nothing is kept as it is. -/
def keepLogLevel : Json → Except FieldProblem Json
  | .null => .ok .null
  | .text name => ((LogLevel.read name).map fun level => .text level.name).mapError .invalid
  | value => .error (.notTrimmable value.kindName)

def asLogLevel (value : Json) : Except FieldProblem (Option LogLevel) := do
  match ← asOptionalText value with
  | none => return none
  | some text => (some <$> LogLevel.read text).mapError .invalid

/-- Settings from their fields; all problems are reported, in the order of the settings. -/
def ofFields (fields : Fields) : Checked Settings :=
  Checked.pure (fun name version basePath debug level key database origins storage url timeout
      retries => Settings.mk name version basePath debug level key database origins storage url
        timeout retries)
    |>.apply (optional fields "PROJECT_NAME" default.projectName asText)
    |>.apply (optional fields "VERSION" default.version asText)
    |>.apply (optional fields "API_V1_PREFIX" default.basePath asText)
    |>.apply (optional fields "DEBUG" default.debug asTruth)
    |>.apply (optional fields "LOG_LEVEL" default.logLevel asLogLevel)
    |>.apply (optional fields "API_KEY" default.apiKey asOptionalText)
    |>.apply (optional fields "DATABASE_URL" default.databaseUrl asOptionalText)
    |>.apply (optionalParts fields "BACKEND_CORS_ORIGINS" default.origins Origin.listOf)
    |>.apply (optional fields "FILE_STORAGE_PATH" default.storagePath asText)
    |>.apply (optional fields "PRICING_TEMPLATE_URL" default.templateUrl asOptionalText)
    |>.apply (optional fields "WORKBOOK_FETCH_TIMEOUT" default.fetchTimeout asNumber)
    |>.apply (optional fields "WORKBOOK_FETCH_RETRIES" default.fetchRetries asRetries)

def fields (settings : Settings) : Fields :=
  [("PROJECT_NAME", .text settings.projectName), ("VERSION", .text settings.version),
    ("API_V1_PREFIX", .text settings.basePath), ("DEBUG", .bool settings.debug),
    ("LOG_LEVEL", .ofOption (fun level => .text level.name) settings.logLevel),
    ("API_KEY", .ofOption .text settings.apiKey),
    ("DATABASE_URL", .ofOption .text settings.databaseUrl),
    ("BACKEND_CORS_ORIGINS", .list (settings.origins.map .text)),
    ("FILE_STORAGE_PATH", .text settings.storagePath),
    ("PRICING_TEMPLATE_URL", .ofOption .text settings.templateUrl),
    ("WORKBOOK_FETCH_TIMEOUT", .real settings.fetchTimeout),
    ("WORKBOOK_FETCH_RETRIES", .integer settings.fetchRetries)]

end Settings
end SheetPricing.Service
