import SheetPricing.Text.Octets

/-!
# Forms

A form has texts and files under names; of several under one name the last one counts. A form may
not have too many of them.

Main statement: `checked_eq_ok_iff` (which forms are taken).
-/
namespace SheetPricing.Service

/-- What a form has under a name. -/
inductive Part (β : Type) where
  | text (value : String)
  | file (name : String) (data : β)

def Part.isFile {β : Type} : Part β → Bool
  | .file .. => true
  | .text _ => false

structure Form (β : Type) where
  parts : List (String × Part β)

/-- Why the body of a request is no form. -/
inductive FormFault where
  | missingBoundary
  | malformed
  | namelessPart
  | tooManyFields
  | tooManyFiles
  | partTooLarge
  deriving DecidableEq, Repr

namespace Form

variable {β : Type}

/-- The most texts of a form, and the most files. -/
def most : Nat := 1000

/-- The most units of 1024 octets that a text has. -/
def mostUnits : Nat := 1024

def empty : Form β := ⟨[]⟩

def push (form : Form β) (name : String) (part : Part β) : Form β := ⟨form.parts ++ [(name, part)]⟩

def files (form : Form β) : Nat := form.parts.countP (·.2.isFile)

def fields (form : Form β) : Nat := form.parts.countP (!·.2.isFile)

/-- A form that has not too many parts. -/
def checked (form : Form β) : Except FormFault (Form β) :=
  if most < form.files then .error .tooManyFiles
  else if most < form.fields then .error .tooManyFields
  else .ok form

theorem checked_eq_ok_iff {form taken : Form β} :
    form.checked = .ok taken ↔ form = taken ∧ form.files ≤ most ∧ form.fields ≤ most := by
  unfold checked
  split
  · simp; omega
  · split
    · simp; omega
    · simp; omega

/-- What a form has under a name. -/
def part? (form : Form β) (name : String) : Option (Part β) := form.parts.reverse.lookup name

def hasFile (form : Form β) (name : String) : Bool := (form.part? name).any Part.isFile

/-- The text under a name. One that is empty counts as missing. -/
def text? (form : Form β) (name : String) : Option String :=
  match form.part? name with
  | some (.text value) => if value.isEmpty then none else some value
  | _ => none

end Form

def FormFault.message : FormFault → String
  | .missingBoundary => "Missing boundary in multipart."
  | .malformed => "Invalid multipart data."
  | .namelessPart => "The Content-Disposition header field \x22name\x22 must be provided."
  | .tooManyFields => s!"Too many fields. Maximum number of fields is {Form.most}."
  | .tooManyFiles => s!"Too many files. Maximum number of files is {Form.most}."
  | .partTooLarge => s!"Part exceeded maximum size of {Form.mostUnits}KB."

end SheetPricing.Service
