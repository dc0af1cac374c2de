import SheetPricing.Action
import SheetPricing.Pricing.LoadError
import SheetPricing.Pricing.Template

/-!
# Pricing sessions

A session holds at most one template. A calculation uses the template that is held; if none is, a
source is asked for one, and it is kept unless the session was changed while the source was at
work. A source may act on the session, so its actions run on the session together with a world of
their own.
-/
namespace SheetPricing

/-- The template that is held, and a count of the changes from outside. -/
structure Session where
  template : Option Template
  generation : Nat
  deriving Inhabited

namespace Session

def empty : Session := ⟨none, 0⟩

/-- Hold another template. -/
def replace (session : Session) (template : Template) : Session :=
  ⟨some template, session.generation + 1⟩

/-- Hold no template. -/
def invalidate (session : Session) : Session := ⟨none, session.generation + 1⟩

/-- Hold a template that was asked for at a generation, unless there were changes since then or
another template is held by now. -/
def install (session : Session) (generation : Nat) (template : Template) : Session :=
  if session.generation = generation ∧ session.template.isNone then
    { session with template := some template }
  else session

end Session

/-- An action on a session and a world. -/
abbrev SourceM (ε σ : Type) := Action (LoadFailure ε) (Session × σ)

/-- What supplies a configuration and its workbook. -/
structure Source (ε σ : Type) where
  config : SourceM ε σ (Option PricingConfig)
  workbook : PricingConfig → SourceM ε σ Workbook

/-- Why a price is not even reported to be missing. -/
inductive PriceFailure (ε : Type) where
  | calculation (fault : CalculationFault)
  | broken (error : ε)

namespace Session

variable {ε σ : Type}

/-- The report that there is no template. -/
def notLoaded : String := "Excel configuration not loaded"

/-- The report of a workbook that cannot be loaded. -/
def loadReport (error : LoadError) : String := "Cannot load pricing template: " ++ error.message

/-- Ask a source for a template. -/
def fetch (source : Source ε σ) : SourceM ε σ (Option Template) := do
  let generation := (← get).1.generation
  match ← source.config with
  | none => return none
  | some config =>
    let workbook ← source.workbook config
    let template : Template := ⟨config, workbook⟩
    modify fun (session, world) => (session.install generation template, world)
    return some template

/-- The template that is held, or else the one that a source gives. -/
def load (source : Option (Source ε σ)) : SourceM ε σ (Option Template) := do
  match (← get).1.template, source with
  | some template, _ => return some template
  | none, none => return none
  | none, some source => fetch source

/-- The price of a part with the template that is held or loaded. -/
def calculate (source : Option (Source ε σ)) (inputs : PerDimension (Option RawInput)) :
    Action (PriceFailure ε) (Session × σ) PriceResult := do
  match ← (load source).attempt with
  | .error (.unavailable error) => return CalculationRecord.empty.rejected (loadReport error)
  | .error (.broken error) => throw (.broken error)
  | .ok none => return CalculationRecord.empty.rejected notLoaded
  | .ok (some template) =>
    match template.calculate inputs with
    | .ok result => return result
    | .error fault => throw (.calculation fault)

end Session
end SheetPricing
