import SheetPricing.Formula.Engine
import SheetPricing.Proofs.Formula.Step

/-! Which failures an evaluation can end with. A kind of failures that holds those that a step makes
itself holds all failures of an expression, if it holds those of its parts and of the cells that it
refers to. -/
namespace SheetPricing.Formula

/-- The value of a cell is known, or the cell is on the path, or its content is worked out. -/
theorem on_resolve (sheet : Worksheet) (read : String → Except Failure Expr)
    (evaluateOn : List Address → Expr → EvalM Binary64) (path : List Address) (address : Address)
    (trace : Trace) : (resolve sheet read evaluateOn path address).on trace =
      match trace.get? address with
      | some value => (.ok value, trace)
      | none =>
        if address ∈ path then (.error (.circular address), trace)
        else match (cellValue sheet read (evaluateOn (address :: path)) address).on trace with
          | (.ok value, after) => (.ok value, after.put address value)
          | (.error failure, after) => (.error failure, after) := by
  simp only [resolve, Action.on_bind, Action.on_get]
  cases trace.get? address with
  | some value => rfl
  | none =>
    by_cases inside : address ∈ path
    · simp only [if_pos inside]
      rfl
    · simp only [if_neg inside, Action.on_bind, Action.on_modify]
      rcases Action.on _ _ with ⟨_ | value, after⟩ <;> rfl

theorem evaluate_reference (sheet : Worksheet) (limit depth : Nat) (path : List Address)
    (address : Address) : evaluate sheet limit (depth + 1) path (.reference address)
      = resolve sheet (readWithin limit) (evaluate sheet limit depth) path address := rfl

/-- A formula that is read has the value of its expression, if the value is finite. -/
theorem on_evaluateFormula {sheet : Worksheet} {limit : Nat} {formula : String} {tree : Expr}
    (read : readWithin limit formula = .ok tree) (trace : Trace) :
    (evaluateFormula sheet limit formula).on trace =
      match (evaluate sheet limit limit [] tree).on trace with
      | (.ok value, after) => (requireFinite formula value, after)
      | (.error failure, after) => (.error failure, after) := by
  rw [evaluateFormula, read, orThrow, pure_bind, Action.on_bind]
  rcases Action.on _ _ with ⟨_ | value, after⟩
  · rfl
  · dsimp only
    cases requireFinite formula value <;> rfl

theorem on_evaluateFormula_of_error {sheet : Worksheet} {limit : Nat} {formula : String}
    {failure : Failure} (read : readWithin limit formula = .error failure) (trace : Trace) :
    (evaluateFormula sheet limit formula).on trace = (.error failure, trace) := by
  rw [evaluateFormula, read]
  rfl

section
variable {sheet : Worksheet} {read : String → Except Failure Expr}
  {evaluateOn : List Address → Expr → EvalM Binary64} {path : List Address} {address : Address}

theorem on_resolve_of_known {trace : Trace} {value : Binary64}
    (known : trace.get? address = some value) :
    (resolve sheet read evaluateOn path address).on trace = (.ok value, trace) := by
  rw [on_resolve, known]

/-- A cell whose value is had with success: it was known, or its content was worked out. -/
theorem resolve_cases {before after : Trace} {value : Binary64}
    (ok : (resolve sheet read evaluateOn path address).on before = (.ok value, after)) :
    (before.get? address = some value ∧ after = before) ∨
    (before.get? address = none ∧ address ∉ path ∧ ∃ middle,
      (cellValue sheet read (evaluateOn (address :: path)) address).on before = (.ok value, middle) ∧
      after = middle.put address value) := by
  rw [on_resolve] at ok
  cases found : before.get? address with
  | some known =>
    rw [found] at ok
    cases ok
    exact .inl ⟨rfl, rfl⟩
  | none =>
    rw [found] at ok
    dsimp only at ok
    split at ok
    · cases ok
    · next free =>
      refine .inr ⟨rfl, free, ?_⟩
      rcases outcome : Action.on _ before with ⟨_ | value, middle⟩
      · rw [outcome] at ok
        cases ok
      · rw [outcome] at ok
        cases ok
        exact ⟨middle, rfl, rfl⟩

theorem Correspondence.resolve (c : Correspondence EvalM EvalM)
    (known : c.rel (get : EvalM Trace) get)
    (circular : address ∈ path →
      c.rel (MonadExcept.throw (Failure.circular address) : EvalM Binary64)
        (MonadExcept.throw (Failure.circular address)))
    (worked : address ∉ path →
      c.rel (Formula.cellValue sheet read (evaluateOn (address :: path)) address)
        (Formula.cellValue sheet read (evaluateOn (address :: path)) address))
    (kept : ∀ value, c.rel (modify (·.put address value) : EvalM PUnit)
      (modify (·.put address value))) :
    c.rel (Formula.resolve sheet read evaluateOn path address)
      (Formula.resolve sheet read evaluateOn path address) := by
  refine c.bind known fun trace => ?_
  split
  · exact c.pure _
  · by_cases inside : address ∈ path
    · rw [if_pos inside]
      exact circular inside
    · rw [if_neg inside]
      exact c.bind (worked inside) fun value => c.bind (kept value) fun _ => c.pure value

end

/-- An action that only fails with failures of a kind, whatever the trace. -/
def FailsAs (kind : Failure → Prop) {α : Type} (action : EvalM α) : Prop :=
  ∀ trace failure, (action.on trace).1 = .error failure → kind failure

section
variable {kind : Failure → Prop} {α β : Type}

theorem failsAs_of_ok {action : EvalM α}
    (ok : ∀ trace, ∃ value, (action.on trace).1 = .ok value) : FailsAs kind action := by
  intro trace failure failed
  obtain ⟨value, same⟩ := ok trace
  cases same.symm.trans failed

theorem failsAs_throw {failure : Failure} (here : kind failure) :
    FailsAs kind (throw failure : EvalM α) := by
  intro trace other failed
  exact Except.error.inj failed ▸ here

theorem FailsAs.bind {action : EvalM α} {next : α → EvalM β} (first : FailsAs kind action)
    (later : ∀ value, FailsAs kind (next value)) : FailsAs kind (action >>= next) := by
  intro trace failure failed
  rw [Action.on_bind] at failed
  have here := first trace
  generalize action.on trace = reached at here failed
  obtain ⟨other | value, after⟩ := reached
  · exact Except.error.inj failed ▸ here other rfl
  · exact later value after failure failed

/-- Failing with failures of a kind, as a relation that steps keep. -/
def failing (kind : Failure → Prop) (own : ∀ failure, failure.IsOwn → kind failure) :
    Correspondence EvalM EvalM where
  rel action _ := FailsAs kind action
  pure value := failsAs_of_ok fun _ => ⟨value, rfl⟩
  throw here := failsAs_throw (own _ here)
  abort here _ _ := failsAs_throw (own _ here)
  bind := FailsAs.bind

variable {sheet : Worksheet} {read : String → Except Failure Expr}
  {evaluateOn : List Address → Expr → EvalM Binary64} {path : List Address} {address : Address}

theorem failsAs_resolve (own : ∀ failure, failure.IsOwn → kind failure)
    (circular : address ∈ path → kind (.circular address))
    (fails : ∀ text cached failure, sheet.cell? address = some (.formula text cached) →
      read text = .error failure → kind failure)
    (evaluated : ∀ text cached tree, address ∉ path →
      sheet.cell? address = some (.formula text cached) → read text = .ok tree →
      FailsAs kind (evaluateOn (address :: path) tree)) :
    FailsAs kind (resolve sheet read evaluateOn path address) := by
  refine (failing kind own).resolve (failsAs_of_ok fun trace => ⟨trace, rfl⟩)
    (fun inside => failsAs_throw (circular inside)) (fun free => ?_)
    fun value => failsAs_of_ok fun _ => ⟨⟨⟩, rfl⟩
  exact (failing kind own).cellValue_of_read
    (fun text cached failure holds unread f g => failsAs_throw (fails text cached failure holds unread))
    fun text cached tree holds read => evaluated text cached tree free holds read

end

end SheetPricing.Formula
