import SheetPricing.Decimal.Layout
import SheetPricing.Text.Quoted

/-!
# JSON values

Integers of any size and binary numbers are told apart, and the fields of an object keep their
order. The written form uses plain characters only; all others are escaped by number.
-/
namespace SheetPricing

inductive Json where
  | null
  | bool (value : Bool)
  | integer (value : Int)
  | real (value : Binary64)
  | text (value : String)
  | list (items : List Json)
  | object (fields : List (String × Json))
  deriving Inhabited

namespace Json

/-- The value of a field of an object. -/
def field? (value : Json) (name : String) : Option Json :=
  match value with
  | .object fields => fields.lookup name
  | _ => none

def text? : Json → Option String
  | .text value => some value
  | _ => none

def ofOption {α : Type} (encode : α → Json) : Option α → Json
  | none => .null
  | some value => encode value

/-- One unit of 16 bits, escaped. -/
def escapeUnit (unit : Nat) : List Char :=
  [Text.backslash, 'u'] ++ Text.hexadecimal 4 unit

/-- One character between quotes. A character above the first 65536 is two units. -/
def escapeChar (c : Char) : List Char :=
  let n := c.toNat
  if c == Text.doubleQuote || c == Text.backslash then [Text.backslash, c]
  else if c == '\n' then [Text.backslash, 'n']
  else if c == '\r' then [Text.backslash, 'r']
  else if c == '\t' then [Text.backslash, 't']
  else if n == 0x08 then [Text.backslash, 'b']
  else if n == 0x0c then [Text.backslash, 'f']
  else if 0x20 ≤ n && n < 0x7f then [c]
  else if n < 0x10000 then escapeUnit n
  else
    escapeUnit (0xd800 + (n - 0x10000) / 0x400) ++ escapeUnit (0xdc00 + (n - 0x10000) % 0x400)

/-- A text between quotes. -/
def renderText (s : String) : String :=
  String.ofList ([Text.doubleQuote] ++ s.toList.flatMap escapeChar ++ [Text.doubleQuote])

/-- The written form of a binary number. -/
def renderReal (value : Binary64) : String :=
  match value with
  | .nan => "NaN"
  | .infinity negative => if negative then "-Infinity" else "Infinity"
  | .finite .. => value.text

mutual

/-- The written form of a value. -/
def render : Json → String
  | .null => "null"
  | .bool value => if value then "true" else "false"
  | .integer value => toString value
  | .real value => renderReal value
  | .text value => renderText value
  | .list items => "[" ++ ", ".intercalate (renderItems items) ++ "]"
  | .object fields => "\x7b" ++ ", ".intercalate (renderFields fields) ++ "\x7d"

def renderItems : List Json → List String
  | [] => []
  | item :: rest => render item :: renderItems rest

def renderFields : List (String × Json) → List String
  | [] => []
  | (name, value) :: rest => (renderText name ++ ": " ++ render value) :: renderFields rest

end

end Json
end SheetPricing
