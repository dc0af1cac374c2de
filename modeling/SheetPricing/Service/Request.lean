import SheetPricing.Service.Form.Line
import SheetPricing.Service.Form.Multipart
import SheetPricing.Service.MediaType

/-!
# Requests

A request names a method and a path, has headers, and may have a body, which may be a form: a header
says how it is written. The path leads to a route; what follows a question mark and slashes at the
end do not matter.
-/
namespace SheetPricing.Service

inductive Body (β : Type) where
  | empty
  | text (content : String)
  /-- A form in parts, with a boundary between. -/
  | parts (boundary : String) (form : Form β)

structure Request (β : Type) where
  method : String
  path : String
  headers : List (String × String)
  body : Body β

/-- The places that requests are answered at. -/
inductive Route where
  | health
  | database
  | config
  | sheets
  | calculate
  /-- Calculation on a worksheet of the shared template. -/
  | treatment (name : String)
  deriving DecidableEq, Repr

namespace Request

variable {β : Type}

/-- A header by its name in any case. -/
def header? (request : Request β) (name : String) : Option String :=
  let wanted := name.toLower
  (request.headers.find? fun (header, _) => header.toLower == wanted).map Prod.snd

/-- What the body of the request is said to be. -/
def contentType (request : Request β) : String := (request.header? "Content-Type").getD ""

def mediaType (request : Request β) : MediaType := .ofHeader request.contentType

/-- How the parts of the body are read. -/
def layout? (file : List Nat → β) (request : Request β) : Option (Form.Multipart.Layout β) := do
  let value := HeaderValue.octets request.contentType
  let boundary ← HeaderValue.parameter? value "boundary"
  let charset := (HeaderValue.parameter? value "charset").getD "utf-8".toList
  return { boundary, charset, file }

/-- The form that the body is; `file` makes a file of octets. -/
def form (file : List Nat → β) (request : Request β) : Except FormFault (Form β) :=
  if request.mediaType.isPartForm then
    match request.layout? file, request.body with
    | none, _ => .error .missingBoundary
    | some _, .empty => .ok .empty
    | some layout, .text content => Form.Multipart.read layout (HeaderValue.octets content)
    | some layout, .parts boundary form =>
      if HeaderValue.octets boundary = layout.boundary then Form.Multipart.receive layout form
      else .error .malformed
  else if request.mediaType.isLineForm then
    match request.body with
    | .text content => Form.Line.read content
    | _ => .ok .empty
  else .ok .empty

end Request

namespace Route

def ofNames? : List String → Option Route
  | ["", "health"] => some .health
  | ["", "health", "db"] => some .database
  | ["", "pricing", "config"] => some .config
  | ["", "pricing", "sheets"] => some .sheets
  | ["", "pricing", "calculate"] => some .calculate
  | ["", "pricing", "template", name, "calculate"] =>
    if name.isEmpty then none else some (.treatment name)
  | _ => none

/-- A path without its segments of dots: one dot stays where it is, two go back by one segment. -/
def withoutDots (cs : List Char) : List Char :=
  List.intercalate ['/'] <| (Text.splitList '/' cs).foldl (fun before segment =>
    if segment = ['.'] then before
    else if segment = ['.', '.'] then if before = [[]] then before else before.dropLast
    else before ++ [segment]) []

/-- The route at a path below the base of all routes. One line break at its end does not count. -/
def at? (base : String) (cs : List Char) : Option Route :=
  if base.toList.isPrefixOf cs then
    ofNames? (Text.split '/' (String.ofList (Text.dropFinalBreak (cs.drop base.length))))
  else none

/-- A path as it arrives: its octets are unescaped by the one that sends it and by the one that
receives it. -/
def arrived (cs : List Char) : List Char := Url.unescape (Url.unescape (withoutDots cs))

/-- The route that a path below the base of all routes leads to. From a path with slashes at its end
the client is sent on to the path without them, if that is the path of a route, and so it arrives
once more. -/
def ofPath? (base path : String) : Option Route :=
  let reached := arrived ((base ++ path).toList.takeWhile fun c => c != '?' && c != '#')
  let bare := (reached.reverse.dropWhile (· == '/')).reverse
  if bare.length = reached.length then at? base reached
  else if (at? base bare).isSome then at? base (arrived bare)
  else none

end Route
end SheetPricing.Service
