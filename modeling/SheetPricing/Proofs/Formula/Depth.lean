import SheetPricing.Proofs.Formula.Failing
import SheetPricing.Proofs.Formula.Trace

/-! Evaluation needs no more depth than there is to evaluate: every step down leaves less pending.
So for each worksheet and each list of formulas all limits from some limit on stop nothing. -/
namespace SheetPricing.Formula

/-- A computation that never runs out of depth, whatever the trace. -/
def Shallow {α : Type} (action : EvalM α) : Prop :=
  ∀ trace, (action.on trace).1 ≠ .error .nestedTooDeep

theorem shallow_iff {α : Type} {action : EvalM α} :
    Shallow action ↔ FailsAs (· ≠ .nestedTooDeep) action := by
  constructor
  · rintro shallow trace failure failed rfl
    exact shallow trace failed
  · exact fun fails trace failed => fails trace _ failed rfl

theorem ne_nestedTooDeep_of_isOwn {failure : Failure} (own : failure.IsOwn) :
    failure ≠ .nestedTooDeep := by
  rintro rfl
  exact own

/-- A limit that reads every formula of a worksheet in full. -/
def ReadsAll (sheet : Worksheet) (limit : Nat) : Prop :=
  ∀ address text cached, sheet.cell? address = some (.formula text cached) →
    readWithin limit text = readWhole text

section
variable {sheet : Worksheet} {limit : Nat}

theorem shallow_evaluate (reads : ReadsAll sheet limit) {depth : Nat} {path : List Address}
    {e : Expr} (enough : pending sheet path e ≤ depth) :
    Shallow (evaluate sheet limit depth path e) := by
  induction depth generalizing path e with
  | zero =>
    have := e.size_pos
    unfold pending at enough
    omega
  | succ depth ih =>
    let shallow := failing (· ≠ .nestedTooDeep) fun _ => ne_nestedTooDeep_of_isOwn
    have step : shallow.rel (evaluate sheet limit (depth + 1) path e)
        (evaluate sheet limit (depth + 1) path e) := by
      refine shallow.step sheet e (fun address _ => ?_) fun part inside => ?_
      · refine failsAs_resolve (fun _ => ne_nestedTooDeep_of_isOwn) (fun _ => by simp) ?_ ?_
        · intro text cached failure holds unread
          rw [reads address text cached holds] at unread
          exact ne_nestedTooDeep_of_isOwn (failsOwn_readWhole text failure unread)
        · intro text cached tree free holds read
          rw [reads address text cached holds] at read
          have := pending_cell e free holds read
          exact shallow_iff.mp (ih (by omega))
      · have : pending sheet path part < pending sheet path e := pending_part inside
        exact shallow_iff.mp (ih (by omega))
    exact shallow_iff.mpr step

end

/-- What holds from some limit on of each member of a list holds from some limit on of all. -/
private theorem exists_forall_mem {α : Type} {holds : α → Nat → Prop} (xs : List α)
    (each : ∀ x ∈ xs, ∃ bound, ∀ limit, bound ≤ limit → holds x limit) :
    ∃ bound, ∀ limit, bound ≤ limit → ∀ x ∈ xs, holds x limit := by
  induction xs with
  | nil => exact ⟨0, fun _ _ _ inside => absurd inside List.not_mem_nil⟩
  | cons x rest ih =>
    obtain ⟨first, here⟩ := each x List.mem_cons_self
    obtain ⟨others, there⟩ := ih fun y inside => each y (List.mem_cons_of_mem _ inside)
    refine ⟨max first others, fun limit le y inside => ?_⟩
    rcases List.mem_cons.mp inside with rfl | inside
    · exact here limit (by omega)
    · exact there limit (by omega) y inside

theorem exists_readsAll (sheet : Worksheet) :
    ∃ bound, ∀ limit, bound ≤ limit → ReadsAll sheet limit := by
  obtain ⟨bound, all⟩ : ∃ bound, ∀ limit, bound ≤ limit → ∀ address ∈ sheet.cells.keys,
      ∀ text cached, sheet.cell? address = some (.formula text cached) →
        readWithin limit text = readWhole text := by
    refine exists_forall_mem _ fun address _ => ?_
    rcases held : sheet.cell? address with _ | cell
    · exact ⟨0, fun _ _ _ _ holds => nomatch holds⟩
    · cases cell with
      | formula text cached =>
        obtain ⟨bound, reads⟩ := exists_readWithin_eq text
        refine ⟨bound, fun limit le other cached holds => ?_⟩
        obtain ⟨rfl, rfl⟩ := Cell.formula.inj (Option.some.inj holds)
        exact reads limit le
      | _ => exact ⟨0, fun _ _ _ _ holds => nomatch Option.some.inj holds⟩
  exact ⟨bound, fun limit le address text cached holds =>
    all limit le address (mem_keys_of_cell? holds) text cached holds⟩

theorem exists_shallow_evaluate (sheet : Worksheet) (e : Expr) :
    ∃ bound, ∀ limit, bound ≤ limit → Shallow (evaluate sheet limit limit [] e) := by
  obtain ⟨bound, readsAll⟩ := exists_readsAll sheet
  exact ⟨max bound (pending sheet [] e), fun limit le =>
    shallow_evaluate (readsAll limit (by omega)) (by omega)⟩

theorem shallow_evaluateFormula {sheet : Worksheet} {limit : Nat} {formula : String}
    (reads : ReadsAll sheet limit) (read : readWithin limit formula = readWhole formula)
    (enough : ∀ tree, readWhole formula = .ok tree → pending sheet [] tree ≤ limit) :
    Shallow (evaluateFormula sheet limit formula) := by
  let shallow := failing (· ≠ .nestedTooDeep) fun _ => ne_nestedTooDeep_of_isOwn
  have whole : shallow.rel (evaluateFormula sheet limit formula)
      (evaluateFormula sheet limit formula) := by
    unfold evaluateFormula
    rw [read]
    refine shallow.formula_of_read formula (fun failure unread _ _ => ?_) fun tree whole => ?_
    · exact shallow.abort (failsOwn_readWhole formula failure unread) _ _
    · exact shallow_iff.mp (shallow_evaluate reads (enough tree whole))
  exact shallow_iff.mpr whole

/-- From some limit on a formula never runs out of depth, whatever the trace. -/
theorem exists_shallow_evaluateFormula (sheet : Worksheet) (formula : String) :
    ∃ bound, ∀ limit, bound ≤ limit → Shallow (evaluateFormula sheet limit formula) := by
  obtain ⟨cells, readsAll⟩ := exists_readsAll sheet
  obtain ⟨text, reads⟩ := exists_readWithin_eq formula
  rcases whole : readWhole formula with failure | tree
  · refine ⟨max cells text, fun limit le => ?_⟩
    refine shallow_evaluateFormula (readsAll limit (by omega)) (reads limit (by omega)) ?_
    intro tree read
    exact absurd (whole.symm.trans read) nofun
  · refine ⟨max (max cells text) (pending sheet [] tree), fun limit le => ?_⟩
    refine shallow_evaluateFormula (readsAll limit (by omega)) (reads limit (by omega)) ?_
    intro other read
    obtain rfl := Except.ok.inj (whole.symm.trans read)
    omega

private theorem outcomes_of_shallow {sheet : Worksheet} {limit : Nat} {formulas : List String}
    (shallow : ∀ formula ∈ formulas, Shallow (evaluateFormula sheet limit formula))
    {trace : Trace} (settled : Settled sheet trace) :
    outcomes sheet limit formulas trace = formulas.map (evaluateFormulaAfresh sheet) := by
  induction formulas generalizing trace with
  | nil => rfl
  | cons formula rest ih =>
    obtain ⟨keeps, same⟩ := settled_evaluateFormula limit formula settled
    have later := ih (fun other inside => shallow other (List.mem_cons_of_mem _ inside)) keeps
    rw [outcomes, List.map_cons, ← same (shallow formula List.mem_cons_self trace), ← later]

/-- Formulas that are evaluated one after another with one trace have the outcomes of evaluation
afresh, except where the limit stops them; and limits from some limit on stop none of them. -/
theorem outcomes_eq_map_afresh (sheet : Worksheet) (formulas : List String) :
    (∀ limit, List.Forall₂ (fun formula outcome => outcome ≠ .error .nestedTooDeep →
        outcome = evaluateFormulaAfresh sheet formula)
      formulas (outcomes sheet limit formulas .empty)) ∧
    ∃ bound, ∀ limit, bound ≤ limit →
      outcomes sheet limit formulas .empty = formulas.map (evaluateFormulaAfresh sheet) := by
  refine ⟨fun limit => outcomes_eq_afresh sheet limit formulas (settled_empty sheet), ?_⟩
  obtain ⟨bound, shallow⟩ := exists_forall_mem formulas fun formula _ =>
    exists_shallow_evaluateFormula sheet formula
  exact ⟨bound, fun limit le => outcomes_of_shallow (shallow limit le) (settled_empty sheet)⟩

end SheetPricing.Formula
