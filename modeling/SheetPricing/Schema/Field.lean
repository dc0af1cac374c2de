import SheetPricing.Json.Shown
import SheetPricing.Url.Basic

/-!
# Checked fields

The fields of a record that comes from outside are checked one by one. All problems are reported, in
the order of the fields.
-/
namespace SheetPricing.Schema

/-- What is wrong with a field. -/
inductive FieldProblem where
  | missing
  | notText
  | notTruth
  /-- A text or a number that stands for no truth value. -/
  | unreadableTruth
  | notInteger
  | unreadableInteger
  | fractionalInteger
  | infiniteInteger
  /-- An integer that is too far from zero, or has too many digits. -/
  | oversizedInteger
  | notNumber
  | unreadableNumber
  | notList
  | notUrl
  | url (fault : UrlFault)
  | urlScheme
  | invalid (message : String)
  /-- A value of another kind where blanks are to be trimmed. No other field is looked at then. -/
  | notTrimmable (kind : String)
  /-- A value of another kind where a number is compared. -/
  | notComparable (kind : String)
  deriving DecidableEq, Repr

def FieldProblem.message : FieldProblem → String
  | .missing => "Field required"
  | .notText => "Input should be a valid string"
  | .notTruth => "Input should be a valid boolean"
  | .unreadableTruth => "Input should be a valid boolean, unable to interpret input"
  | .notInteger => "Input should be a valid integer"
  | .unreadableInteger => "Input should be a valid integer, unable to parse string as an integer"
  | .fractionalInteger => "Input should be a valid integer, got a number with a fractional part"
  | .infiniteInteger => "Input should be a finite number"
  | .oversizedInteger =>
    "Unable to parse input string as an integer, exceeded maximum size"
  | .notNumber => "Input should be a valid number"
  | .unreadableNumber => "Input should be a valid number, unable to parse string as a number"
  | .notList => "Input should be a valid list"
  | .notUrl => "URL input should be a string or URL"
  | .url fault => "Input should be a valid URL, " ++ fault.message
  | .urlScheme => "URL scheme should be 'http' or 'https'"
  | .invalid message => "Value error, " ++ message
  | .notTrimmable kind => s!"'{kind}' object has no attribute 'strip'"
  | .notComparable kind => s!"'<' not supported between instances of '{kind}' and 'int'"

/-- The fields that are wrong, each with its problem. -/
abbrev Problems := List (String × FieldProblem)

def FieldProblem.isNotTrimmable : FieldProblem → Bool
  | .notTrimmable _ => true
  | _ => false

/-- What is told of problems: one that ends the check is told alone. -/
def Problems.told (problems : Problems) : Problems :=
  match problems.find? (·.2.isNotTrimmable) with
  | some problem => [problem]
  | none => problems

/-- The problems of the parts of a field; one of the field itself has no name yet. -/
def Problems.within (field : String) (problems : Problems) : Problems :=
  problems.map fun (part, problem) =>
    (if part.isEmpty then field else field ++ "." ++ part, problem)

/-- A value, or all problems of the fields that it is made of. -/
abbrev Checked (α : Type) := Except Problems α

namespace Checked

variable {α β : Type}

def pure (x : α) : Checked α := .ok x

/-- Apply a checked function to a checked value; the problems of both are reported. -/
def apply (f : Checked (α → β)) (x : Checked α) : Checked β :=
  match f, x with
  | .ok f, .ok x => .ok (f x)
  | .error problems, .ok _ => .error problems
  | .ok _, .error problems => .error problems
  | .error problems, .error more => .error (problems ++ more)

/-- Check the items of a list, each named by its place; the problems of all are reported. -/
def items (check : α → Except FieldProblem β) (first : Nat) : List α → Checked (List β)
  | [] => .ok []
  | item :: rest =>
    apply (((check item).mapError fun problem => [(toString first, problem)]).map List.cons)
      (items check (first + 1) rest)

end Checked

/-- The fields of a record from outside. -/
abbrev Fields := List (String × Json)

def asText : Json → Except FieldProblem String
  | .text value => .ok value
  | _ => .error .notText

def asOptionalText : Json → Except FieldProblem (Option String)
  | .null => .ok none
  | value => (asText value).map some

section
variable {α : Type}

/-- A field that must be there. -/
def required (fields : Fields) (name : String) (check : Json → Except FieldProblem α) : Checked α :=
  match fields.lookup name with
  | none => .error [(name, .missing)]
  | some value => (check value).mapError fun problem => [(name, problem)]

/-- A field that has a value of its own if it is left out. -/
def optional (fields : Fields) (name : String) (default : α)
    (check : Json → Except FieldProblem α) : Checked α :=
  match fields.lookup name with
  | none => .ok default
  | some value => (check value).mapError fun problem => [(name, problem)]

/-- A field that has parts of its own, and a value if it is left out. -/
def optionalParts (fields : Fields) (name : String) (default : α) (check : Json → Checked α) :
    Checked α :=
  match fields.lookup name with
  | none => .ok default
  | some value => (check value).mapError (Problems.within name)

end

end SheetPricing.Schema
