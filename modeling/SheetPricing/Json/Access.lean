import SheetPricing.Json.Basic

/-!
# Parts of JSON values

What a value is taken for where one kind of value is meant, and changes that reach every part of a
value.
-/
namespace SheetPricing.Json

/-- The value of a field; one that is not there is nothing. -/
def field (value : Json) (name : String) : Json := (value.field? name).getD .null

/-- A text; what is none is empty. -/
def asText (value : Json) : String := value.text?.getD ""

def textField (value : Json) (name : String) : String := (value.field name).asText

def items : Json → List Json
  | .list items => items
  | _ => []

def fields : Json → List (String × Json)
  | .object fields => fields
  | _ => []

def integer? : Json → Option Int
  | .integer value => some value
  | _ => none

/-- An integer; what is none counts as zero. -/
def asInteger (value : Json) : Int := value.integer?.getD 0

/-- A truth value; only `true` is one. -/
def isTrue : Json → Bool
  | .bool value => value
  | _ => false

def isNull : Json → Bool
  | .null => true
  | _ => false

mutual

/-- Change every part of a value, the inner parts before the outer ones. -/
def transform (change : Json → Json) : Json → Json
  | .list items => change (.list (transformItems change items))
  | .object fields => change (.object (transformFields change fields))
  | value => change value

def transformItems (change : Json → Json) : List Json → List Json
  | [] => []
  | item :: rest => transform change item :: transformItems change rest

def transformFields (change : Json → Json) : List (String × Json) → List (String × Json)
  | [] => []
  | (name, value) :: rest => (name, transform change value) :: transformFields change rest

end

mutual

/-- Whether every number in a value is finite, so that the value can be written everywhere. -/
def isFinite : Json → Bool
  | .real value => value.isFinite
  | .list items => areFinite items
  | .object fields => fieldsAreFinite fields
  | _ => true

def areFinite : List Json → Bool
  | [] => true
  | item :: rest => isFinite item && areFinite rest

def fieldsAreFinite : List (String × Json) → Bool
  | [] => true
  | (_, value) :: rest => isFinite value && fieldsAreFinite rest

end

/-- Change the texts in a value, the names of fields among them. -/
def mapText (change : String → String) : Json → Json :=
  transform fun
    | .text value => .text (change value)
    | .object fields => .object (fields.map fun (name, value) => (change name, value))
    | value => value

/-- A value with the fields of its objects in alphabetical order. -/
def sortFields : Json → Json :=
  transform fun
    | .object fields => .object (fields.mergeSort fun a b => decide (a.1 ≤ b.1))
    | value => value

end SheetPricing.Json
