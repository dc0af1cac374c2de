/-! Outcomes of computations that may fail, taken apart. -/
namespace SheetPricing

variable {ε ε' α β : Type}

theorem ok_bind (value : α) (next : α → Except ε β) :
    ((.ok value : Except ε α) >>= next) = next value := rfl

theorem ok_of_bind {first : Except ε α} {next : α → Except ε β} {result : β}
    (ok : first >>= next = .ok result) : ∃ value, first = .ok value ∧ next value = .ok result := by
  cases first with
  | error error => cases ok
  | ok value => exact ⟨value, rfl, ok⟩

theorem error_of_bind {first : Except ε α} {next : α → Except ε β} {error : ε}
    (failed : first >>= next = .error error) :
    first = .error error ∨ ∃ value, first = .ok value ∧ next value = .error error := by
  cases first with
  | error other => exact .inl (congrArg Except.error (Except.error.inj failed))
  | ok value => exact .inr ⟨value, rfl, failed⟩

theorem exists_of_map {change : α → β} {result : Except ε α} {changed : β}
    (ok : result.map change = .ok changed) :
    ∃ value, result = .ok value ∧ change value = changed := by
  cases result with
  | error => cases ok
  | ok value => exact ⟨value, rfl, Except.ok.inj ok⟩

theorem map_eq_error_iff {change : α → β} {result : Except ε α} {error : ε} :
    result.map change = .error error ↔ result = .error error := by
  cases result with
  | error other => rw [Except.map, Except.error.injEq, Except.error.injEq]
  | ok value => exact iff_of_false nofun nofun

theorem ok_of_mapError {change : ε → ε'} {result : Except ε α} {value : α}
    (ok : result.mapError change = .ok value) : result = .ok value := by
  cases result with
  | error => cases ok
  | ok other => exact congrArg Except.ok (Except.ok.inj ok)

/-- An error behind a change is none that the change never makes. -/
theorem mapError_ne {change : ε → ε'} {error : ε'} (apart : ∀ other, change other ≠ error)
    (result : Except ε α) : result.mapError change ≠ .error error := by
  intro failed
  cases result with
  | error other => exact apart other (Except.error.inj failed)
  | ok value => cases failed

end SheetPricing
