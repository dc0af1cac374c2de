import SheetPricing.Archive.Source
import SheetPricing.Pricing.Registry
import SheetPricing.Proofs.Archive.Placing
import SheetPricing.Proofs.Pricing.Calculation

/-! Where the template of a price comes from. A session that holds a template uses it; one that holds
none asks its source, and keeps what it gets. -/
namespace SheetPricing
open Loading Archive Action
variable {β : Type} {format : FileFormat β} {archive after : Archive β} {session : Session}

theorem Registry.session_update (registry : Registry) (key other : String)
    (change : Session → Session) : Registry.session (Registry.update registry key change) other
      = if other = key then change (Registry.session registry key)
        else Registry.session registry other := by
  rw [Registry.session, Registry.update, Table.get?_put]
  split
  · rfl
  · rfl

namespace Session

/-- The result of a calculation with what was found of a template. -/
def priced (inputs : PerDimension (Option RawInput)) {ε : Type} :
    Except (LoadFailure ε) (Option Template) → Except (PriceFailure ε) PriceResult
  | .error (.unavailable error) => .ok (CalculationRecord.empty.rejected (loadReport error))
  | .error (.broken error) => .error (.broken error)
  | .ok none => .ok (CalculationRecord.empty.rejected notLoaded)
  | .ok (some template) => (template.calculate inputs).mapError .calculation

theorem on_calculate {ε σ : Type} (source : Option (Source ε σ))
    (inputs : PerDimension (Option RawInput)) (state : Session × σ) :
    (calculate source inputs).on state
      = (priced inputs ((load source).on state).1, ((load source).on state).2) := by
  rw [calculate, on_bind, on_attempt]
  dsimp only
  rcases (load source).on state with ⟨failure | template, final⟩
  · rcases failure with error | error <;> rfl
  · rcases template with _ | template
    · rfl
    · dsimp only
      rw [priced]
      rcases template.calculate inputs with fault | result <;> rfl

/-- A session without a template asks its source for a workbook of the configuration that is given. -/
theorem on_load_of_given {ε σ : Type} {source : Source ε σ} {world : σ} {config : PricingConfig}
    {middle : Session × σ} (empty : session.template = none)
    (given : source.config.on (session, world) = (.ok (some config), middle)) :
    (load (some source)).on (session, world) = match (source.workbook config).on middle with
      | (.error failure, after) => (.error failure, after)
      | (.ok workbook, (during, after)) => (.ok (some ⟨config, workbook⟩),
          (during.install session.generation ⟨config, workbook⟩, after)) := by
  rw [load, on_bind, on_get]
  dsimp only
  rw [empty]
  dsimp only
  rw [fetch, on_bind, on_get]
  dsimp only
  rw [on_bind, given]
  dsimp only
  rw [on_bind]
  rcases (source.workbook config).on middle with ⟨failure | workbook, during, after⟩ <;> rfl

/-- A source that gives a configuration and loads its workbook in the archive. -/
structure Supplies (source : ArchiveSource β) (archive : Archive β) (config : Option PricingConfig)
    (loading : PricingConfig → ArchiveLoadM β Parsed) : Prop where
  config : ∀ session, source.config.on (session, archive) = (.ok config, session, archive)
  workbook : ∀ config, source.workbook config
    = (do return (← besideSession (loading config)).workbook)

theorem supplies_ownerSource (format : FileFormat β) (owner : String) (archive : Archive β) :
    Supplies (ownerSource format owner) archive (archive.config? owner) (loadWorkbook format) :=
  ⟨fun _ => rfl, fun _ => rfl⟩

theorem supplies_treatmentSource (format : FileFormat β) (treatment : Treatment) (url : String)
    (archive : Archive β) : Supplies (treatmentSource format treatment url) archive
      (some (treatment.config url))
      fun config => withLoader (Loader.loadUrl format config.workbookRef) :=
  ⟨fun _ => rfl, fun _ => rfl⟩

variable {source : ArchiveSource β} {config : PricingConfig}
  {loading : PricingConfig → ArchiveLoadM β Parsed}

theorem on_load_of_nothing (supplies : Supplies source archive none loading)
    (empty : session.template = none) :
    (load (some source)).on (session, archive) = (.ok none, session, archive) := by
  rw [load, on_bind, on_get]
  dsimp only
  rw [empty]
  dsimp only
  rw [fetch, on_bind, on_get]
  dsimp only
  rw [on_bind, supplies.config]
  rfl

/-- A session without a template gets and keeps the one that its source supplies. -/
theorem on_load_of_supplies (supplies : Supplies source archive (some config) loading)
    (empty : session.template = none) : (load (some source)).on (session, archive)
      = match (loading config).on archive with
        | (.error failure, after) => (.error failure, session, after)
        | (.ok parsed, after) => (.ok (some ⟨config, parsed.workbook⟩),
            { session with template := some ⟨config, parsed.workbook⟩ }, after) := by
  rw [on_load_of_given empty (supplies.config session), supplies.workbook, on_bind, besideSession,
    on_within]
  dsimp only
  rcases (loading config).on archive with ⟨failure | parsed, after⟩
  · rfl
  · dsimp only [on_pure]
    rw [install, if_pos ⟨rfl, by rw [empty]; rfl⟩]

/-- Where a configuration is given there is a template, or its workbook is not to be had. -/
theorem on_load_ne_none (supplies : Supplies source archive (some config) loading) :
    ((load (some source)).on (session, archive)).1 ≠ .ok none := by
  cases held : session.template with
  | some template =>
    rw [on_load_of_held held]
    rintro ⟨⟩
  | none =>
    rw [on_load_of_supplies supplies held]
    rcases (loading config).on archive with ⟨failure | parsed, after⟩ <;> rintro ⟨⟩

/-- After a session was asked for a template it holds the one that it gave, if it gave any. -/
theorem held_of_on_load {given : Option PricingConfig} (supplies : Supplies source archive given loading)
    {template : Template}
    (held : ((load (some source)).on (session, archive)).2.1.template = some template) :
    ((load (some source)).on (session, archive)).1 = .ok (some template) := by
  cases before : session.template with
  | some kept =>
    rw [on_load_of_held before] at held ⊢
    exact congrArg Except.ok (before.symm.trans held)
  | none =>
    cases given with
    | none =>
      rw [on_load_of_nothing supplies before] at held
      cases before.symm.trans held
    | some config =>
      rw [on_load_of_supplies supplies before] at held ⊢
      generalize (loading config).on archive = outcome at held ⊢
      obtain ⟨failure | parsed, after⟩ := outcome
      · cases before.symm.trans held
      · exact congrArg Except.ok held

end Session
end SheetPricing
