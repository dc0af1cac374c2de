import SheetPricing.Json.Access
import SheetPricing.Json.Filling
import SheetPricing.Schema.Field
import SheetPricing.Table

/-!
# Log records

What is logged, by whom and how urgently, with further fields. A record is written as a plain line
or as an object that carries the identity of the service.
-/
namespace SheetPricing.Service

open Schema

/-- How a record is written. -/
inductive LineFormat where
  | plain
  | object (service version : String)
  deriving DecidableEq, Repr

/-- A record. What is logged is a text with placeholders and a value for them, or an object whose
fields are logged; a failure and a trace of calls may be added. The time is the one of the moment,
unless another second is given. -/
structure LogRecord where
  time : String
  second : Json
  logger : Json
  level : Json
  content : Json
  arguments : Json
  failure : Json
  failureText : Json
  calls : Json
  extra : Fields

/-- Why a record cannot be written. -/
inductive LogFault where
  | fill (fault : Json.FillFault)
  /-- A failure of some kind that has no parts. -/
  | noParts (kind : String)
  /-- A failure whose parts are known by names. -/
  | unnumbered
  /-- A failure with too few parts. -/
  | tooFewParts (kind : String)
  /-- A part of a failure that is not what it has to be. -/
  | notPart (kind sought : String)
  /-- A value of some kind was to be added to a line. -/
  | notText (kind : String)
  /-- A value of some kind is no second. -/
  | notSecond (kind : String)
  | secondNotANumber
  | secondOutOfRange
  | timeOutOfRange
  | yearOutOfRange
  deriving DecidableEq, Repr

def LogFault.message : LogFault → String
  | .fill fault => fault.message
  | .noParts kind => s!"'{kind}' object is not subscriptable"
  | .unnumbered => "2"
  | .tooFewParts kind => s!"{kind} index out of range"
  | .notPart kind sought => s!"'{kind}' object has no attribute '{sought}'"
  | .notText kind => s!"can only concatenate str (not \"{kind}\") to str"
  | .notSecond kind => s!"'{kind}' object cannot be interpreted as an integer"
  | .secondNotANumber => "Invalid value NaN (not a number)"
  | .secondOutOfRange => "timestamp out of range for platform time_t"
  | .timeOutOfRange => "[Errno 75] Value too large for defined data type"
  | .yearOutOfRange => "signed integer is greater than maximum"

namespace LogRecord

/-- A record of an event. Further fields count instead of what they are named for. -/
def ofEvent (time level : String) (name message : Json) (extra : Fields) : LogRecord :=
  let given (field : String) (otherwise : Json) : Json := (extra.lookup field).getD otherwise
  { time
    second := given "created" .null
    logger := given "name" name
    level := given "levelname" (.text level)
    content := given "msg" message
    arguments := given "args" .null
    failure := given "exc_info" .null
    failureText := given "exc_text" .null
    calls := given "stack_info" .null
    extra }

/-- The names of what a record holds itself; no further field of such a name is written. -/
def ownNames : List String :=
  ["args", "asctime", "created", "exc_info", "exc_text", "filename", "funcName", "levelname",
    "levelno", "lineno", "module", "msecs", "message", "msg", "name", "pathname", "process",
    "processName", "relativeCreated", "stack_info", "thread", "threadName"]

/-- The fields that every object has. -/
def lineNames : List String := ["timestamp", "level", "name", "message"]

/-- Whether a further field of a record is written: names of its own, and those that begin with an
underscore, are not. -/
def isShown (name : String) : Bool :=
  !ownNames.contains name && !lineNames.contains name && name.toList.head? != some '_'

def message (record : LogRecord) : Except LogFault String :=
  (Json.fill record.content.message record.arguments).mapError .fill

/-- The third part of a failure, which is its trace. -/
def trace (failure : Json) : Except LogFault Json :=
  match failure with
  | .list items => items[2]?.elim (.error (.tooFewParts "list")) .ok
  | .text value =>
    value.toList[2]?.elim (.error (.tooFewParts "string")) fun c => .ok (.text c.toString)
  | .object _ => .error .unnumbered
  | failure => .error (.noParts failure.kindName)

/-- The text that describes a failure. Failures of which there is something to tell are no values of
these kinds. -/
def describeFailure (failure : Json) : Except LogFault Json := do
  match ← trace failure, failure.items[1]?.getD .null with
  | .null, .null => return .text "NoneType: None"
  | .null, found => throw (.notPart found.kindName "__suppress_context__")
  | found, _ => throw (.notPart found.kindName "tb_frame")

/-- The failure of a record as text, if there is one to describe. -/
def failureLine (record : LogRecord) : Except LogFault Json :=
  if record.failure.isVoid then .ok .null else describeFailure record.failure

/-- The seconds that fit into 64 bits. -/
def secondLimit : Int := 2 ^ (63 : Nat)

/-- The first and the last second of the years that can be told, and the last one of those that can
be written. -/
def firstSecond : Int := -67768040609740800

def lastSecond : Int := 67768036191676799

def lastWrittenSecond : Int := 67767976233532799

/-- A whole number of seconds is a time only if its year can be told. -/
def checkSecond (second : Int) : Except LogFault Unit :=
  if second < -secondLimit ∨ secondLimit ≤ second then .error .secondOutOfRange
  else if second < firstSecond ∨ lastSecond < second then .error .timeOutOfRange
  else if lastWrittenSecond < second then .error .yearOutOfRange
  else .ok ()

/-- The greatest integer that is at most a number. -/
def floor? (value : Binary64) : Option Int :=
  value.units?.map fun units => units.fdiv Binary64.unitsOfOne

/-- The time of a record can be written. -/
def checkTime (record : LogRecord) : Except LogFault Unit :=
  match record.second with
  | .null => .ok ()
  | .bool _ => .ok ()
  | .integer second => checkSecond second
  | .real .nan => .error .secondNotANumber
  | .real second => (floor? second).elim (.error .secondOutOfRange) checkSecond
  | second => .error (.notSecond second.kindName)

/-- Add a field for a value that does not count as missing, unless the field is there already. -/
def describe (name : String) (value : Json) (fields : Table String Json) : Table String Json :=
  if value.isVoid || !((fields.get? name).getD .null).isVoid then fields else fields.put name value

/-- What the content of a record adds to the object: its fields, the failure and the calls. -/
def described (record : LogRecord) : Except LogFault (Table String Json) := do
  let content := Table.ofList record.content.fields
  let isDescribed := !((content.get? "exc_info").getD .null).isVoid
  let failure ← if isDescribed then pure .null else record.failureLine
  return describe "stack_info" record.calls
    (describe "exc_info" record.failureText (describe "exc_info" failure content))

/-- The fields of a record that is written as an object. The identity of the service and the level
of the record count, whatever further fields have these names. -/
def fields (record : LogRecord) (service version : String) :
    Except LogFault (Table String Json) := do
  let message ← match record.content with
    | .object _ => pure ""
    | _ => record.message
  let described ← record.described
  let first := [("timestamp", (record.extra.lookup "timestamp").getD .null),
    ("level", record.level), ("name", record.logger), ("message", .text message)]
  let last := [("service", .text service), ("version", .text version), ("level", record.level)]
  return .ofList (first ++ described.entries ++ record.extra.filter (fun (name, _) => isShown name)
    ++ last)

/-- Add a part on a line of its own to a text. -/
def addPart (text : String) (part : Json) : Except LogFault String :=
  if part.isVoid then .ok text
  else
    let line := if text.toList.getLast? = some '\n' then text else text ++ "\n"
    match part with
    | .text part => .ok (line ++ part)
    | part => .error (.notText part.kindName)

def plainLine (record : LogRecord) : Except LogFault String := do
  let message ← record.message
  record.checkTime
  let head := " - ".intercalate [record.time, record.logger.message, record.level.message, message]
  let failure ← if record.failureText.isVoid then record.failureLine else pure record.failureText
  addPart (← addPart head failure) record.calls

def line (record : LogRecord) : LineFormat → Except LogFault Json
  | .plain => .text <$> record.plainLine
  | .object service version => (.object ·.entries) <$> record.fields service version

end LogRecord
end SheetPricing.Service
