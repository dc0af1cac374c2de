/-!
# Actions that may fail

An action works on a state and ends with a value or an error. Whatever it did to the state before
an error stays done.

Main statement: `on_bind` (what follows an action acts on the state that it leaves, unless it
failed).
-/
namespace SheetPricing

/-- An action on a state that may fail. -/
abbrev Action (ε σ α : Type) := ExceptT ε (StateM σ) α

namespace Action

variable {ε ε' σ τ α β : Type}

/-- The outcome of an action on a state, with the state afterwards. -/
def on (action : Action ε σ α) (state : σ) : Except ε α × σ := action.run.run state

/-- The action of a computation without a state. -/
def ofExcept : Except ε α → Action ε σ α
  | .ok value => pure value
  | .error error => throw error

def mapError (change : ε → ε') (action : Action ε σ α) : Action ε' σ α :=
  ExceptT.mk do return (← action.run).mapError change

/-- The outcome of an action as a value, whatever it is. -/
def attempt (action : Action ε σ α) : Action ε' σ (Except ε α) :=
  ExceptT.mk do return .ok (← action.run)

/-- Let an action on a part of a state act on the state. -/
def within (part : σ → τ) (put : σ → τ → σ) (action : Action ε τ α) : Action ε σ α :=
  ExceptT.mk do
    let state ← get
    let (outcome, after) := action.on (part state)
    set (put state after)
    return outcome

@[simp] theorem on_pure (value : α) (state : σ) :
    on (pure value : Action ε σ α) state = (.ok value, state) := rfl

@[simp] theorem on_throw (error : ε) (state : σ) :
    on (throw error : Action ε σ α) state = (.error error, state) := rfl

@[simp] theorem on_get (state : σ) : on (get : Action ε σ σ) state = (.ok state, state) := rfl

@[simp] theorem on_set (new state : σ) :
    on (set new : Action ε σ PUnit) state = (.ok ⟨⟩, new) := rfl

@[simp] theorem on_modify (change : σ → σ) (state : σ) :
    on (modify change : Action ε σ PUnit) state = (.ok ⟨⟩, change state) := rfl

@[simp] theorem on_ofExcept (value : Except ε α) (state : σ) :
    on (ofExcept value : Action ε σ α) state = (value, state) := by cases value <;> rfl

@[simp] theorem mapError_ok (change : ε → ε') (value : α) :
    (Except.ok value : Except ε α).mapError change = .ok value := rfl

@[simp] theorem mapError_error (change : ε → ε') (error : ε) :
    (Except.error error : Except ε α).mapError change = .error (change error) := rfl

@[simp] theorem on_mapError (change : ε → ε') (action : Action ε σ α) (state : σ) :
    on (mapError change action) state
      = ((on action state).1.mapError change, (on action state).2) := rfl

@[simp] theorem on_attempt (action : Action ε σ α) (state : σ) :
    on (attempt action : Action ε' σ (Except ε α)) state
      = (.ok (on action state).1, (on action state).2) := rfl

@[simp] theorem on_within (part : σ → τ) (put : σ → τ → σ) (action : Action ε τ α) (state : σ) :
    on (within part put action) state
      = ((on action (part state)).1, put state (on action (part state)).2) := rfl

theorem on_bind (action : Action ε σ α) (next : α → Action ε σ β) (state : σ) :
    on (action >>= next) state
      = match on action state with
        | (.ok value, after) => on (next value) after
        | (.error error, after) => (.error error, after) := by
  change (ExceptT.bindCont next (on action state).1) (on action state).2 = _
  rcases on action state with ⟨_ | _, _⟩ <;> rfl

theorem exists_of_on_bind_eq {action : Action ε σ α} {next : α → Action ε σ β} {state final : σ}
    {result : β} (ok : on (action >>= next) state = (.ok result, final)) :
    ∃ value after, on action state = (.ok value, after) ∧
      on (next value) after = (.ok result, final) := by
  rw [on_bind] at ok
  rcases outcome : on action state with ⟨_ | value, after⟩
  · rw [outcome] at ok
    cases ok
  · rw [outcome] at ok
    exact ⟨value, after, rfl, ok⟩

theorem exists_of_on_bind {action : Action ε σ α} {next : α → Action ε σ β} {state : σ} {result : β}
    (ok : (on (action >>= next) state).1 = .ok result) :
    ∃ value after, on action state = (.ok value, after) ∧
      (on (next value) after).1 = .ok result := by
  obtain ⟨value, after, here, later⟩ := exists_of_on_bind_eq (Prod.ext ok rfl)
  exact ⟨value, after, here, congrArg Prod.fst later⟩

theorem on_discard (action : Action ε σ α) (state : σ) :
    on (discard action) state = ((on action state).1.map fun _ => ⟨⟩, (on action state).2) := by
  have same : discard action = action >>= fun _ => pure PUnit.unit := rfl
  rw [same, on_bind]
  rcases on action state with ⟨_ | _, _⟩ <;> rfl

end Action
end SheetPricing
