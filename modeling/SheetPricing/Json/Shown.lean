import SheetPricing.Json.Basic

/-!
# Values in messages

A value as it is shown inside a message: words for what is missing and for truth values, texts in
quotes, lists and objects in brackets.
-/
namespace SheetPricing.Json

mutual

/-- A value inside a message. -/
def shown : Json → String
  | .null => "None"
  | .bool value => if value then "True" else "False"
  | .integer value => toString value
  | .real value => value.text
  | .text value => Text.quoted value
  | .list items => "[" ++ ", ".intercalate (shownItems items) ++ "]"
  | .object fields => "\x7b" ++ ", ".intercalate (shownFields fields) ++ "\x7d"

def shownItems : List Json → List String
  | [] => []
  | item :: rest => shown item :: shownItems rest

def shownFields : List (String × Json) → List String
  | [] => []
  | (name, value) :: rest => (Text.quoted name ++ ": " ++ shown value) :: shownFields rest

end

/-- A value that is a whole message: a text stands without quotes. -/
def message : Json → String
  | .text value => value
  | value => value.shown

/-- The name of the kind of a value inside a message. -/
def kindName : Json → String
  | .null => "NoneType"
  | .bool _ => "bool"
  | .integer _ => "int"
  | .real _ => "float"
  | .text _ => "str"
  | .list _ => "list"
  | .object _ => "dict"

/-- The text that a value is, or else the message that it is none. -/
def expectText : Json → Except String String
  | .text value => .ok value
  | value => .error s!"expected string or bytes-like object, got '{value.kindName}'"

/-- Whether a value counts as missing: nothing, zero, or an empty text, list or object. -/
def isVoid : Json → Bool
  | .null => true
  | .bool value => !value
  | .integer value => value == 0
  | .real value => value.isZero
  | .text value => value.isEmpty
  | .list items => items.isEmpty
  | .object fields => fields.isEmpty

end SheetPricing.Json
