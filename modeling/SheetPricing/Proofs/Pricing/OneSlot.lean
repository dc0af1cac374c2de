import SheetPricing.Proofs.Archive.Supply

/-! A session as a machine with one slot. Whatever is done with a session, one step after another, what
comes of it depends on the template in the slot alone, and a price is the one that a new session gives
which was handed that template. -/
namespace SheetPricing

/-- A result that is one template's throughout. -/
structure PriceResult.Of (template : Template) (inputs : PerDimension (Option RawInput))
    (result : PriceResult) : Prop where
  calculated : template.calculate inputs = .ok result
  templateHash : result.record.templateHash = some template.workbook.hash
  sheetName : result.record.sheetName = template.config.sheetName
  outputCell : result.record.outputCell = template.config.priceCell
  inputCells : result.record.inputCells = .empty ∨ ∃ given values,
    inputs.all? = some given ∧ readDimensions given = .ok values ∧
      result.record.inputCells = inputTable template.config.inputCells values

theorem Template.result_of {template : Template} {inputs : PerDimension (Option RawInput)}
    {result : PriceResult} (ok : template.calculate inputs = .ok result) :
    result.Of template inputs := by
  obtain ⟨templateHash, sheetName, outputCell⟩ := record_of_calculate ok
  refine ⟨ok, templateHash, sheetName, outputCell, ?_⟩
  unfold calculate at ok
  split at ok
  · obtain rfl := Except.ok.inj ok
    exact .inl rfl
  next given all =>
  split at ok
  · cases ok
  · obtain rfl := Except.ok.inj ok
    exact .inl rfl
  next values valid =>
  split at ok
  · obtain rfl := Except.ok.inj ok
    exact .inl rfl
  · obtain ⟨output, _, ok⟩ := ok_of_bind ok
    refine .inr ⟨given, values, all, valid, ?_⟩
    dsimp only at ok
    split at ok
    · obtain rfl := Except.ok.inj ok
      rfl
    · obtain rfl := Except.ok.inj ok
      rfl

namespace Session
open Action

/-- What supplies a configuration and its workbook, without a look at any session. -/
structure Supplier (ε σ : Type) where
  config : Action (LoadFailure ε) σ (Option PricingConfig)
  workbook : PricingConfig → Action (LoadFailure ε) σ Workbook

/-- A world that is watched: how often a supplier was consulted, and what a session held whenever a
workbook was asked for. -/
structure Watched (σ : Type) where
  world : σ
  consulted : Nat
  asked : List (Option Template)

/-- What is done with a session. A supplier may be named. -/
inductive Step (ε σ : Type) where
  | replace (template : Template)
  | invalidate
  | load (supplier : Option (Supplier ε σ))
  | calculate (supplier : Option (Supplier ε σ)) (inputs : PerDimension (Option RawInput))

inductive Answer (ε : Type) where
  | done
  | template (outcome : Except (LoadFailure ε) (Option Template))
  | price (outcome : Except (PriceFailure ε) PriceResult)

/-- A slot for a template, in a world in which suppliers were consulted so often. -/
structure Slot (σ : Type) where
  template : Option Template
  world : σ
  consulted : Nat

section
variable {ε σ α : Type}

namespace Supplier

def beside (action : Action (LoadFailure ε) σ α) : SourceM ε (Watched σ) α :=
  action.within (·.2.world) fun (session, watched) world => (session, { watched with world })

def source (supplier : Supplier ε σ) : Source ε (Watched σ) where
  config := do
    modify fun (session, watched) =>
      (session, { watched with consulted := watched.consulted + 1 })
    beside supplier.config
  workbook config := do
    modify fun (session, watched) =>
      (session, { watched with asked := session.template :: watched.asked })
    beside (supplier.workbook config)

def template (supplier : Supplier ε σ) : Action (LoadFailure ε) σ (Option Template) := do
  match ← supplier.config with
  | none => return none
  | some config => return some ⟨config, ← supplier.workbook config⟩

end Supplier

/-- The supplier that a step may ask. Another one may stand in for steps that name none. -/
def Step.supplier? (default : Option (Supplier ε σ)) : Step ε σ → Option (Supplier ε σ)
  | .replace _ => none
  | .invalidate => none
  | .load supplier => supplier.or default
  | .calculate supplier _ => supplier.or default

def Step.perform (default : Option (Supplier ε σ)) (step : Step ε σ) (state : Session × Watched σ) :
    Answer ε × Session × Watched σ :=
  match step with
  | .replace template => (.done, state.1.replace template, state.2)
  | .invalidate => (.done, state.1.invalidate, state.2)
  | .load supplier =>
    let (outcome, after) := (Session.load ((supplier.or default).map (·.source))).on state
    (.template outcome, after)
  | .calculate supplier inputs =>
    let (outcome, after) := (Session.calculate ((supplier.or default).map (·.source)) inputs).on state
    (.price outcome, after)

def run (default : Option (Supplier ε σ)) :
    List (Step ε σ) → Session × Watched σ → List (Answer ε) × Session × Watched σ
  | [], state => ([], state)
  | step :: rest, state =>
    let (answer, middle) := step.perform default state
    let (answers, final) := run default rest middle
    (answer :: answers, final)

/-- The price from a new session that was handed a template, or was handed none. -/
def priceAfresh (inputs : PerDimension (Option RawInput)) :
    Except (LoadFailure ε) (Option Template) → Except (PriceFailure ε) PriceResult
  | .error (.unavailable error) => .ok (CalculationRecord.empty.rejected (loadReport error))
  | .error (.broken error) => .error (.broken error)
  | .ok none => ((calculate (none : Option (Source ε Unit)) inputs).on (empty, ())).1
  | .ok (some template) =>
    ((calculate (none : Option (Source ε Unit)) inputs).on (empty.replace template, ())).1

namespace Slot

/-- What is in the slot, or else what a supplier gives, which is then in the slot. -/
def provide (supplier : Option (Supplier ε σ)) (slot : Slot σ) :
    Except (LoadFailure ε) (Option Template) × Slot σ :=
  match slot.template, supplier with
  | some template, _ => (.ok (some template), slot)
  | none, none => (.ok none, slot)
  | none, some supplier =>
    let (outcome, world) := supplier.template.on slot.world
    (outcome, ⟨outcome.toOption.join, world, slot.consulted + 1⟩)

def step (default : Option (Supplier ε σ)) (step : Step ε σ) (slot : Slot σ) : Answer ε × Slot σ :=
  match step with
  | .replace template => (.done, { slot with template := some template })
  | .invalidate => (.done, { slot with template := none })
  | .load supplier =>
    let (outcome, after) := slot.provide (supplier.or default)
    (.template outcome, after)
  | .calculate supplier inputs =>
    let (outcome, after) := slot.provide (supplier.or default)
    (.price (priceAfresh inputs outcome), after)

def run (default : Option (Supplier ε σ)) : List (Step ε σ) → Slot σ → List (Answer ε) × Slot σ
  | [], slot => ([], slot)
  | step :: rest, slot =>
    let (answer, middle) := slot.step default step
    let (answers, final) := run default rest middle
    (answer :: answers, final)

end Slot

def slot (state : Session × Watched σ) : Slot σ :=
  ⟨state.1.template, state.2.world, state.2.consulted⟩

theorem priced_eq_priceAfresh (inputs : PerDimension (Option RawInput))
    (outcome : Except (LoadFailure ε) (Option Template)) :
    priced inputs outcome = priceAfresh inputs outcome := by
  rcases outcome with (error | error) | _ | template
  · rfl
  · rfl
  · rw [priceAfresh, on_calculate]
    rfl
  · rw [priceAfresh, on_calculate, on_load_of_held rfl]

theorem on_beside (action : Action (LoadFailure ε) σ α) (session : Session) (watched : Watched σ) :
    (Supplier.beside action).on (session, watched) = ((action.on watched.world).1,
      session, { watched with world := (action.on watched.world).2 }) := rfl

theorem on_load_of_empty (supplier : Supplier ε σ) (generation : Nat) (watched : Watched σ) :
    ∃ asked, (∀ held ∈ asked, held = none) ∧
      (load (some supplier.source)).on (⟨none, generation⟩, watched)
        = ((supplier.template.on watched.world).1,
          ⟨(supplier.template.on watched.world).1.toOption.join, generation⟩,
          ⟨(supplier.template.on watched.world).2, watched.consulted + 1, asked ++ watched.asked⟩) := by
  have asks : (load (some supplier.source)).on (⟨none, generation⟩, watched)
      = (fetch supplier.source).on (⟨none, generation⟩, watched) := by
    rw [load, on_bind, on_get]
  rw [asks, fetch, on_bind, on_get]
  dsimp only
  rw [on_bind, Supplier.source, on_bind, on_modify]
  dsimp only
  rw [on_beside, Supplier.template, on_bind]
  dsimp only
  rcases supplier.config.on watched.world with ⟨failure | config, world⟩
  · exact ⟨[], by simp, rfl⟩
  · cases config with
    | none => exact ⟨[], by simp, rfl⟩
    | some config =>
      refine ⟨[none], by simp, ?_⟩
      dsimp only
      rw [on_bind, on_bind, on_modify]
      dsimp only
      rw [on_beside, on_bind]
      dsimp only
      rcases (supplier.workbook config).on world with ⟨failure | workbook, world⟩
      · rfl
      · dsimp only
        rw [on_bind, on_modify]
        simp [install, Except.toOption]

/-- That a session did what a slot does, and no workbook was asked for while a template was held. -/
structure Matches {α : Type} (did : α × Session × Watched σ) (does : α × Slot σ) : Prop where
  answer : did.1 = does.1
  slot : slot did.2 = does.2
  unheld : ∀ held ∈ did.2.2.asked, held = none

variable {state : Session × Watched σ}

theorem matches_load (unheld : ∀ held ∈ state.2.asked, held = none)
    (supplier : Option (Supplier ε σ)) :
    Matches ((load (supplier.map (·.source))).on state) ((slot state).provide supplier) := by
  obtain ⟨⟨template, generation⟩, watched⟩ := state
  cases template with
  | some template =>
    rw [on_load_of_held rfl]
    exact ⟨rfl, rfl, unheld⟩
  | none =>
    cases supplier with
    | none => exact ⟨rfl, rfl, unheld⟩
    | some supplier =>
      obtain ⟨asked, empty, loaded⟩ := on_load_of_empty supplier generation watched
      rw [Option.map_some, loaded]
      refine ⟨rfl, rfl, fun held member => ?_⟩
      rcases List.mem_append.mp member with now | before
      · exact empty held now
      · exact unheld held before

theorem matches_perform (unheld : ∀ held ∈ state.2.asked, held = none)
    (default : Option (Supplier ε σ)) (step : Step ε σ) :
    Matches (step.perform default state) ((slot state).step default step) := by
  cases step with
  | replace template => exact ⟨rfl, rfl, unheld⟩
  | invalidate => exact ⟨rfl, rfl, unheld⟩
  | load supplier =>
    have loaded := matches_load unheld (supplier.or default)
    exact ⟨congrArg Answer.template loaded.answer, loaded.slot, loaded.unheld⟩
  | calculate supplier inputs =>
    have loaded := matches_load unheld (supplier.or default)
    rw [Step.perform, on_calculate]
    refine ⟨?_, loaded.slot, loaded.unheld⟩
    rw [priced_eq_priceAfresh, loaded.answer]
    rfl

theorem matches_run (default : Option (Supplier ε σ)) (steps : List (Step ε σ))
    (unheld : ∀ held ∈ state.2.asked, held = none) :
    Matches (run default steps state) ((slot state).run default steps) := by
  induction steps generalizing state with
  | nil => exact ⟨rfl, rfl, unheld⟩
  | cons step rest ih =>
    have first := matches_perform unheld default step
    have others := ih first.unheld
    rw [first.slot] at others
    exact ⟨congrArg₂ List.cons first.answer others.answer, others.slot, others.unheld⟩

theorem slot_perform_of_empty (default : Option (Supplier ε σ)) {step : Step ε σ}
    {supplier : Supplier ε σ} (asks : step.supplier? default = some supplier)
    (empty : state.1.template = none) :
    slot (step.perform default state).2 = ⟨(supplier.template.on state.2.world).1.toOption.join,
      (supplier.template.on state.2.world).2, state.2.consulted + 1⟩ := by
  obtain ⟨⟨template, generation⟩, watched⟩ := state
  obtain rfl : template = none := empty
  obtain ⟨asked, -, loaded⟩ := on_load_of_empty supplier generation watched
  cases step with
  | replace template => cases asks
  | invalidate => cases asks
  | load named =>
    have asks : named.or default = some supplier := asks
    rw [Step.perform, asks, Option.map_some, loaded]
    rfl
  | calculate named inputs =>
    have asks : named.or default = some supplier := asks
    rw [Step.perform, asks, on_calculate, Option.map_some, loaded]
    rfl

theorem of_priceAfresh {outcome : Except (LoadFailure ε) (Option Template)}
    {inputs : PerDimension (Option RawInput)} {result : PriceResult}
    (ok : priceAfresh inputs outcome = .ok result) :
    (result.price = none ∧ result.record.templateHash = none) ∨
      ∃ template, outcome = .ok (some template) ∧ result.Of template inputs := by
  rw [← priced_eq_priceAfresh] at ok
  rcases outcome with (error | error) | _ | template
  · obtain rfl := Except.ok.inj ok
    exact .inl ⟨rfl, rfl⟩
  · cases ok
  · obtain rfl := Except.ok.inj ok
    exact .inl ⟨rfl, rfl⟩
  · exact .inr ⟨template, rfl, Template.result_of (ok_of_mapError ok)⟩

/-- However a session is used, it answers as the slot does, and no workbook is asked for while a
template is held. What is done next consults nothing if a template is held. Else its supplier is
consulted, and if that supplies no template, none is held. A price is that of a new session which was
handed the template that is held, or else loaded, whatever the source does meanwhile; so its record is
that of one template. -/
theorem run_oneSlot (default : Option (Supplier ε σ)) (session : Session) (world : σ)
    (steps : List (Step ε σ)) :
    let start := (session, (⟨world, 0, []⟩ : Watched σ))
    let reached := (run default steps start).2
    (run default steps start).1 = ((slot start).run default steps).1 ∧
    slot reached = ((slot start).run default steps).2 ∧
    (∀ held ∈ reached.2.asked, held = none) ∧
    (∀ template, reached.1.template = some template → ∀ source : Option (Source ε (Watched σ)),
      (load source).on reached = (.ok (some template), reached)) ∧
    (reached.1.template = none →
      ∀ (step : Step ε σ) (supplier : Supplier ε σ), step.supplier? default = some supplier →
      (step.perform default reached).2.2.consulted = reached.2.consulted + 1 ∧
      ((∀ template, (supplier.template.on reached.2.world).1 ≠ .ok (some template)) →
        (step.perform default reached).2.1.template = none)) ∧
    ∀ (source : Option (Source ε (Watched σ))) inputs,
      ((calculate source inputs).on reached).1 = priceAfresh inputs ((load source).on reached).1 ∧
      ∀ result, ((calculate source inputs).on reached).1 = .ok result →
        (result.price = none ∧ result.record.templateHash = none) ∨
          ∃ template, ((load source).on reached).1 = .ok (some template) ∧
            result.Of template inputs := by
  intro start reached
  have whole : Matches (run default steps start) ((slot start).run default steps) :=
    matches_run default steps nofun
  have calculated (source : Option (Source ε (Watched σ))) (inputs) :
      ((calculate source inputs).on reached).1
        = priceAfresh inputs ((load source).on reached).1 := by
    rw [on_calculate, priced_eq_priceAfresh]
  refine ⟨whole.answer, whole.slot, whole.unheld, ?_, ?_, ?_⟩
  · intro template held source
    exact on_load_of_held held
  · intro empty step supplier asks
    have after := slot_perform_of_empty default asks empty
    refine ⟨congrArg Slot.consulted after, fun nothing => ?_⟩
    have left : (step.perform default reached).2.1.template = _ := congrArg Slot.template after
    rw [left]
    rcases outcome : (supplier.template.on reached.2.world).1 with failure | _ | template
    · rfl
    · rfl
    · exact absurd outcome (nothing template)
  · intro source inputs
    refine ⟨calculated source inputs, fun result ok => ?_⟩
    rw [calculated] at ok
    exact of_priceAfresh ok

end
end Session
end SheetPricing
