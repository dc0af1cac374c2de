import SheetPricing.Proofs.Formula.Course
import SheetPricing.Proofs.Formula.Trace

/-! Where faults come from. The evaluation of a formula reaches what it asks for, in its own
expression and in those of the cells that it reads. It ends with a fault just where it reaches a
call that makes one; in every other case its value is finite or its failure is collected. -/
namespace SheetPricing.Formula

/-- The expressions that the evaluation of a formula reaches, each on its path. -/
inductive Reached (sheet : Worksheet) (formula : String) : List Address → Expr → Prop
  | formula {tree} (read : readWhole formula = .ok tree) : Reached sheet formula [] tree
  | part {path e part} (outer : Reached sheet formula path e)
      (asks : Asks sheet (answer sheet path) e (.part part)) : Reached sheet formula path part
  | cell {path e address text cached tree} (outer : Reached sheet formula path e)
      (asks : Asks sheet (answer sheet path) e (.cell address)) (free : address ∉ path)
      (holds : sheet.cell? address = some (.formula text cached))
      (read : readWhole text = .ok tree) : Reached sheet formula (address :: path) tree

section
variable {sheet : Worksheet} {formula : String} {path : List Address} {cause : Fault}

theorem answered_answer (path : List Address) (e : Expr) :
    e.answered sheet (answer sheet path) = evaluateAfresh sheet path e :=
  (evaluateAfresh_eq sheet path e).symm

theorem Gathers.mem {answers : Question → Except Failure Binary64} {arguments : List Expr}
    {part : Expr} (gathers : Gathers sheet answers arguments (.part part)) : part ∈ arguments := by
  generalize asked : Question.part part = question at gathers
  induction gathers with
  | argument => cases asked; exact List.mem_cons_self
  | behindArgument _ _ _ ih => exact List.mem_cons_of_mem _ (ih asked)
  | member => cases asked
  | behindRange _ _ _ ih => exact List.mem_cons_of_mem _ (ih asked)

theorem Asks.mem_parts {answers : Question → Except Failure Binary64} {e part : Expr}
    (asks : Asks sheet answers e (.part part)) : part ∈ e.parts := by
  cases asks with
  | gathers _ _ gathers => exact gathers.mem
  | _ => simp [Expr.parts]

theorem ofMalformation_ne_fault (formula : String) (reason : Malformation) :
    Failure.ofMalformation formula reason ≠ .fault cause := by
  cases reason <;> simp [Failure.ofMalformation]

theorem readWhole_ne_fault (formula : String) : readWhole formula ≠ .error (.fault cause) :=
  mapError_ne (ofMalformation_ne_fault _) _

/-- A cell whose value is a fault has a formula that makes it. -/
theorem resolveAfresh_eq_fault_iff {address : Address} :
    resolveAfresh sheet (evaluateAfresh sheet) path address = .error (.fault cause) ↔
      address ∉ path ∧ ∃ text cached tree, sheet.cell? address = some (.formula text cached) ∧
        readWhole text = .ok tree ∧
        evaluateAfresh sheet (address :: path) tree = .error (.fault cause) := by
  unfold resolveAfresh
  by_cases inside : address ∈ path
  · simp [inside]
  rw [if_neg inside]
  constructor
  · intro failed
    refine ⟨inside, ?_⟩
    unfold cellValue at failed
    split at failed
    · next text cached holds =>
      rw [orThrow_eq] at failed
      rcases error_of_bind failed with failed | ⟨tree, read, failed⟩
      · exact absurd failed (readWhole_ne_fault text)
      rcases error_of_bind failed with failed | ⟨value, _, failed⟩
      · exact ⟨text, cached, tree, holds, read, failed⟩
      · rw [orThrow_eq] at failed
        exact absurd failed (requireFinite_ne_fault text value)
    · cases failed
  · rintro ⟨_, text, cached, tree, holds, read, failed⟩
    simp only [cellValue, holds, orThrow_eq, read, ok_bind, failed]
    rfl

/-- A fault of an expression that is reached comes from a call that is reached. -/
theorem exists_breaks_of_fault {e : Expr} (reached : Reached sheet formula path e)
    (failed : evaluateAfresh sheet path e = .error (.fault cause)) :
    ∃ path e, Reached sheet formula path e ∧ Breaks sheet (answer sheet path) e cause := by
  induction size : pending sheet path e using Nat.strongRecOn generalizing path e with
  | ind size' ih =>
    subst size
    rw [← answered_answer] at failed
    rcases breaks_or_asks failed with breaks | ⟨question, asks, failed⟩
    · exact ⟨path, e, reached, breaks⟩
    · cases question with
      | part part => exact ih _ (pending_part asks.mem_parts) (reached.part asks) failed rfl
      | cell address =>
        obtain ⟨free, text, cached, tree, holds, read, failed⟩ :=
          resolveAfresh_eq_fault_iff.mp failed
        exact ih _ (pending_cell e free holds read) (reached.cell asks free holds read) failed rfl

/-- A fault of an expression that is reached ends the evaluation. -/
theorem Reached.fault {e : Expr} (reached : Reached sheet formula path e)
    (failed : evaluateAfresh sheet path e = .error (.fault cause)) :
    evaluateFormulaAfresh sheet formula = .error (.fault cause) := by
  induction reached with
  | formula read =>
    unfold evaluateFormulaAfresh
    rw [read, ok_bind, failed]
    rfl
  | part _ asks ih =>
    apply ih
    rw [← answered_answer]
    exact answered_eq_error asks failed
  | cell _ asks free holds read ih =>
    apply ih
    rw [← answered_answer]
    exact answered_eq_error asks
      (resolveAfresh_eq_fault_iff.mpr ⟨free, _, _, _, holds, read, failed⟩)

/-- Evaluation afresh ends with a fault just where it reaches a call that makes it. -/
theorem evaluateFormulaAfresh_eq_fault_iff :
    evaluateFormulaAfresh sheet formula = .error (.fault cause) ↔
      ∃ path e, Reached sheet formula path e ∧ Breaks sheet (answer sheet path) e cause := by
  constructor
  · intro failed
    rcases error_of_bind failed with failed | ⟨tree, read, failed⟩
    · exact absurd failed (readWhole_ne_fault formula)
    rcases error_of_bind failed with failed | ⟨value, _, failed⟩
    · exact exists_breaks_of_fault (.formula read) failed
    · exact absurd failed (requireFinite_ne_fault formula value)
  · rintro ⟨path, e, reached, breaks⟩
    refine reached.fault ?_
    rw [← answered_answer]
    exact answered_eq_fault breaks

end

/-- That the evaluation of a formula ends with a fault: nesting does not stop it, and it reaches a
call that makes the fault. -/
def Escapes (sheet : Worksheet) (formula : String) (cause : Fault) : Prop :=
  (run sheet formula .empty).1 ≠ .error .nestedTooDeep ∧
    ∃ path e, Reached sheet formula path e ∧ Breaks sheet (answer sheet path) e cause

theorem run_eq_fault_iff {sheet : Worksheet} {formula : String} {cause : Fault} :
    (run sheet formula .empty).1 = .error (.fault cause) ↔ Escapes sheet formula cause := by
  have same := (settled_evaluateFormula depthLimit formula (settled_empty sheet)).2
  rw [Escapes, ← evaluateFormulaAfresh_eq_fault_iff]
  constructor
  · intro failed
    have shallow : (run sheet formula .empty).1 ≠ .error .nestedTooDeep := by simp [failed]
    exact ⟨shallow, (same shallow).symm.trans failed⟩
  · rintro ⟨shallow, failed⟩
    exact (same shallow).trans failed

theorem isFinite_of_evaluateFormula {sheet : Worksheet} {limit : Nat} {formula : String}
    {trace : Trace} {value : Binary64}
    (ok : ((evaluateFormula sheet limit formula).on trace).1 = .ok value) :
    value.isFinite = true := by
  obtain ⟨tree, _, _, ok⟩ := Action.exists_of_on_bind ok
  obtain ⟨result, _, _, ok⟩ := Action.exists_of_on_bind ok
  unfold requireFinite at ok
  split at ok
  · next finite =>
    obtain rfl := Except.ok.inj ok
    exact finite
  · cases ok

theorem report_eq_error_iff {failure : Failure} {formula : String} {cause : Fault} :
    failure.report formula = .error cause ↔ failure = .fault cause := by
  cases failure <;> simp [Failure.report]

/-- What is collected from a formula, by how its outcome is told. -/
theorem on_evaluateCollecting (sheet : Worksheet) (formula : String) (collected : Collected) :
    (evaluateCollecting sheet formula).on collected =
      let kept : Collected :=
        { collected with
          references := collected.references.putAll (run sheet formula .empty).2.entries }
      match told formula (run sheet formula .empty).1 with
      | .ok (.ok value) => (.ok (some value), kept)
      | .ok (.error message) => (.ok none, { kept with errors := collected.errors ++ [message] })
      | .error cause => (.error cause, kept) := by
  unfold evaluateCollecting
  rcases run sheet formula .empty with ⟨outcome, trace⟩
  simp only [Action.on_bind, Action.on_modify, Action.on_ofExcept]
  rcases told formula outcome with cause | value | message <;> rfl

/-- A formula has a finite value, or none and one message is collected, or its evaluation ends with
a fault and nothing is collected; the last is so just where the evaluation reaches a call that makes
the fault. -/
theorem evaluateCollecting_exact (sheet : Worksheet) (formula : String) (collected : Collected) :
    ((∃ value, ((evaluateCollecting sheet formula).on collected).1 = .ok (some value) ∧
        value.isFinite = true ∧
        ((evaluateCollecting sheet formula).on collected).2.errors = collected.errors) ∨
      (∃ message, ((evaluateCollecting sheet formula).on collected).1 = .ok none ∧
        ((evaluateCollecting sheet formula).on collected).2.errors
          = collected.errors ++ [message]) ∨
      (∃ cause, ((evaluateCollecting sheet formula).on collected).1 = .error cause ∧
        ((evaluateCollecting sheet formula).on collected).2.errors = collected.errors)) ∧
    ∀ cause, ((evaluateCollecting sheet formula).on collected).1 = .error cause ↔
      Escapes sheet formula cause := by
  rw [on_evaluateCollecting]
  rcases outcome : (run sheet formula .empty).1 with failure | value
  · have escapes (cause : Fault) : failure.report formula = .error cause
        ↔ Escapes sheet formula cause := by
      rw [← run_eq_fault_iff, outcome, report_eq_error_iff]
      simp
    rcases reported : failure.report formula with cause | message
    · have told : told formula (.error failure) = .error cause := by rw [told, reported]; rfl
      rw [told]
      refine ⟨.inr (.inr ⟨cause, rfl, rfl⟩), fun other => ?_⟩
      rw [← escapes, reported]
      simp
    · have told : told formula (.error failure) = .ok (.error message) := by
        rw [told, reported]; rfl
      rw [told]
      refine ⟨.inr (.inl ⟨message, rfl, rfl⟩), fun other => ?_⟩
      rw [← escapes, reported]
      simp
  · have finite := isFinite_of_evaluateFormula outcome
    refine ⟨.inl ⟨value, rfl, finite, rfl⟩, fun cause => ?_⟩
    rw [← run_eq_fault_iff, outcome]
    simp [told]

example : ((evaluateCollecting ⟨"", .empty⟩ "=SUM(1E308,1E308)").on ⟨[], .empty⟩).1
    = .error (.sum .overflow) := by decide +kernel

end SheetPricing.Formula
