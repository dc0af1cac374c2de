import SheetPricing.Json.Access
import SheetPricing.Json.Shown
import SheetPricing.Service.Request

/-!
# Requests as clients make them

A client gives the headers and the body of a request as values. It writes them down, unless they
cannot be sent.

Main statement: `send_path` (what is sent goes to the path that was given).
-/
namespace SheetPricing.Service

/-- Why a request cannot be sent. -/
inductive SendFault where
  /-- A control character at a place of the path. -/
  | control (c : Char) (place : Nat)
  /-- Characters of a header, from a place on, that are not plain. -/
  | notPlain (first : Char) (place size : Nat)
  | notFinite
  /-- A value of a form with a file that is neither a text nor a number. -/
  | notWritable (value : Json)

def SendFault.message : SendFault → String
  | .control c place =>
    s!"Invalid non-printable ASCII character in URL, {Text.quoted c.toString} at position {place}."
  | .notPlain first place size =>
    let escaped := String.ofList (Text.escapedByNumber first)
    let found := if size = 1 then s!"character '{escaped}' in position {place}"
      else s!"characters in position {place}-{place + size - 1}"
    s!"'ascii' codec can't encode {found}: ordinal not in range(128)"
  | .notFinite => "Out of range float values are not JSON compliant"
  | .notWritable value =>
    s!"Invalid type for value. Expected primitive type, got <class '{value.kindName}'>: "
      ++ value.shown

/-- A value as it is sent in a form. -/
def sentText : Json → String
  | .null => ""
  | .bool value => if value then "true" else "false"
  | value => value.message

/-- A name as it is sent in a form with a file: double quotes and control characters are escaped. -/
def sentName (name : String) : String :=
  String.ofList <| name.toList.flatMap fun c =>
    if c == Text.doubleQuote || (c.toNat < 0x20 && c.toNat != 0x1b) then Url.escapeOctet c.toNat
    else [c]

/-- The boundary of a form if its headers give none; any text will do that the form does not
have. -/
def ownBoundary : String := "5b1c0f6de2a94738b7d0c3e8f1a6924d"

/-- A request as a client makes it. -/
structure Outgoing (β : Type) where
  method : String
  path : String
  headers : List (String × String)
  /-- A body that is written down already. -/
  content : Option String
  /-- A body that is to be written as JSON. -/
  json : Option Json
  /-- A form, with a file if there is one. -/
  fields : List (String × Json)
  file : Option (String × β)

namespace Outgoing

variable {β : Type}

def isPlain (c : Char) : Bool := c.toNat < 0x80

/-- A path has no control characters. Places are counted from the base of all paths. -/
def checkPath (base path : String) : Except SendFault Unit :=
  let isControl (c : Char) : Bool := c.toNat < 0x20 || c.toNat == 0x7f
  let cs := (base ++ path).toList
  match cs.find? isControl with
  | none => .ok ()
  | some c => .error (.control c (cs.takeWhile (!isControl ·)).length)

/-- A part of a header has plain characters only. -/
def checkPlain (text : String) : Except SendFault Unit :=
  let before := text.toList.takeWhile isPlain
  let foreign := (text.toList.dropWhile isPlain).takeWhile (!isPlain ·)
  match foreign.head? with
  | none => .ok ()
  | some first => .error (.notPlain first before.length foreign.length)

/-- The values of a form that are sent under one name. -/
def sentValues : Json → List Json
  | .list items => items
  | value => [value]

/-- In a form with a file, values are texts or numbers. -/
def checkValue (value : Json) : Except SendFault Unit :=
  match value with
  | .list _ | .object _ => .error (.notWritable value)
  | _ => .ok ()

/-- The texts of a form: each value of several has its name. -/
def texts (outgoing : Outgoing β) : List (String × String) :=
  outgoing.fields.flatMap fun (name, value) =>
    (sentValues value).map fun value => (name, sentText value)

/-- The form that is sent with a file. A file without a name is sent as a text. -/
def form (isEmpty : β → Bool) (outgoing : Outgoing β) (file : String × β) : Form β :=
  let (name, data) := file
  let part : Part β :=
    if name.isEmpty then .text (if isEmpty data then "" else "data") else .file (sentName name) data
  ⟨outgoing.texts.map (fun (name, value) => (sentName name, .text value)) ++ [("file", part)]⟩

/-- The name of the header that tells what a body is. -/
def typeName : String := "content-type"

/-- The headers that are given. A body that is written down already is said to be JSON, unless a
header of just this name says something else. -/
def givenHeaders (outgoing : Outgoing β) : List (String × String) :=
  if outgoing.content.isSome then
    (typeName, (outgoing.headers.lookup typeName).getD "application/json")
      :: outgoing.headers.filter (·.1 != typeName)
  else outgoing.headers

/-- What the given headers say about the body. -/
def givenTypes (outgoing : Outgoing β) : List String :=
  (outgoing.givenHeaders.filter (·.1.toLower == typeName)).map Prod.snd

/-- The boundary that the headers of a form in parts give. -/
def boundary? (outgoing : Outgoing β) : Option String := do
  let type := (", ".intercalate outgoing.givenTypes).toList
  if !"multipart/form-data".toList.isPrefixOf type then none
  let start := "boundary=".toList
  let pieces := (Text.splitList ';' type).map HeaderValue.trim
  let piece ← pieces.find? fun piece => start.isPrefixOf (piece.map Char.toLower)
  let isQuote (c : Char) : Bool := c == Text.doubleQuote
  let inside := (piece.drop start.length).dropWhile isQuote
  return String.ofList (inside.reverse.dropWhile isQuote).reverse

/-- The body of a request, and what it is said to be if no header says it. -/
def body (isEmpty : β → Bool) (outgoing : Outgoing β) :
    Except SendFault (Body β × Option String) := do
  match outgoing.content, outgoing.json with
  | some content, _ => return (.text content, none)
  | none, some .null => return (.empty, none)
  | none, some value =>
    if value.isFinite then return (.text value.render, some "application/json")
    else throw .notFinite
  | none, none =>
    match outgoing.file with
    | some file =>
      outgoing.fields.forM fun (_, value) => (sentValues value).forM checkValue
      let boundary := outgoing.boundary?.getD ownBoundary
      return (.parts boundary (outgoing.form isEmpty file),
        some ("multipart/form-data; boundary=" ++ boundary))
    | none =>
      if outgoing.fields.isEmpty then return (.empty, none)
      else
        return (.text (Form.Line.write outgoing.texts), some "application/x-www-form-urlencoded")

/-- The request that is sent. -/
def send (base : String) (isEmpty : β → Bool) (outgoing : Outgoing β) :
    Except SendFault (Request β) := do
  checkPath base outgoing.path
  outgoing.givenHeaders.forM fun (name, value) => do
    checkPlain name
    checkPlain value
  let (body, type) ← outgoing.body isEmpty
  let added := if outgoing.givenTypes.isEmpty then type.toList.map ((typeName, ·)) else []
  return ⟨outgoing.method.toUpper, outgoing.path, outgoing.givenHeaders ++ added, body⟩

theorem send_path {base : String} {isEmpty : β → Bool} {outgoing : Outgoing β}
    {request : Request β} (sent : outgoing.send base isEmpty = .ok request) :
    request.path = outgoing.path := by
  simp only [send, bind, Except.bind] at sent
  repeat' split at sent
  all_goals first
    | (cases sent; rfl)
    | contradiction

end Outgoing
end SheetPricing.Service
