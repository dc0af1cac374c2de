import Mathlib.Data.List.Forall2
import SheetPricing.Proofs.Formula.Afresh

/-! The trace of an engine never changes an outcome. A value in the trace is what evaluation afresh
gives on every path that has no cell of the trace on it; cells under evaluation are not in the trace
yet, so each path that meets a trace is such a path. Both facts hold through every step, also where
a formula fails, and with them a trace may be kept from one formula to the next. -/
namespace SheetPricing.Formula

def Apart (path : List Address) (trace : Trace) : Prop :=
  ∀ address ∈ path, trace.get? address = none

theorem Apart.cons {path : List Address} {trace : Trace} {address : Address}
    (apart : Apart path trace) (absent : trace.get? address = none) : Apart (address :: path) trace :=
  List.forall_mem_cons.mpr ⟨absent, apart⟩

theorem Apart.put {path : List Address} {trace : Trace} {address : Address}
    (apart : Apart path trace) (free : address ∉ path) (value : Binary64) :
    Apart path (trace.put address value) := by
  intro other inside
  have elsewhere : other ≠ address := fun same => free (same ▸ inside)
  rw [Table.get?_put, if_neg elsewhere]
  exact apart other inside

/-- Every value in a trace is what evaluation afresh gives on any path apart from the trace. -/
def Settled (sheet : Worksheet) (trace : Trace) : Prop :=
  ∀ address value, trace.get? address = some value → ∀ path, Apart path trace →
    resolveAfresh sheet (evaluateAfresh sheet) path address = .ok value

theorem settled_empty (sheet : Worksheet) : Settled sheet .empty := by
  intro address value held
  exact absurd held nofun

/-- What an outcome on a path, with the trace that it leaves, says about evaluation afresh. -/
structure Faithful (sheet : Worksheet) (path : List Address) (before : Trace) {α : Type}
    (outcome : Except Failure α × Trace) (afresh : List Address → Except Failure α) : Prop where
  settled : Settled sheet outcome.2
  apart : Apart path outcome.2
  grows : ∀ address, outcome.2.get? address = none → before.get? address = none
  value : ∀ value, outcome.1 = .ok value → ∀ other, Apart other outcome.2 → afresh other = .ok value
  failure : ∀ failure, outcome.1 = .error failure → failure ≠ .nestedTooDeep →
    afresh path = .error failure

section
variable {sheet : Worksheet} {path : List Address}

private theorem faithful_pure {α : Type} {trace : Trace} (settled : Settled sheet trace)
    (apart : Apart path trace) (value : α) (afresh : List Address → Except Failure α)
    (same : ∀ other, Apart other trace → afresh other = .ok value) :
    Faithful sheet path trace (.ok value, trace) afresh where
  settled := settled
  apart := apart
  grows _ absent := absent
  value _ equal := Except.ok.inj equal ▸ same
  failure _ equal := nomatch equal

private theorem faithful_throw {α : Type} {trace : Trace} (settled : Settled sheet trace)
    (apart : Apart path trace) (failure : Failure) (afresh : List Address → Except Failure α)
    (same : failure ≠ .nestedTooDeep → afresh path = .error failure) :
    Faithful sheet path trace (.error failure, trace) afresh where
  settled := settled
  apart := apart
  grows _ absent := absent
  value _ equal := nomatch equal
  failure _ equal := Except.error.inj equal ▸ same

private theorem faithful_bind {α β : Type} {action : EvalM α} {next : α → EvalM β}
    {afresh : List Address → Except Failure α}
    {afreshNext : α → List Address → Except Failure β} {trace : Trace}
    (first : Faithful sheet path trace (action.on trace) afresh)
    (then_ : ∀ value after, Settled sheet after → Apart path after →
      Faithful sheet path after ((next value).on after) (afreshNext value)) :
    Faithful sheet path trace ((action >>= next).on trace)
      (fun other => afresh other >>= fun value => afreshNext value other) := by
  rw [Action.on_bind]
  generalize action.on trace = reached at first
  obtain ⟨outcome, middle⟩ := reached
  cases outcome with
  | error failure =>
    refine ⟨first.settled, first.apart, first.grows, fun _ equal => (nomatch equal),
      fun other equal shallow => ?_⟩
    obtain rfl := Except.error.inj equal
    rw [first.failure failure rfl shallow]
    rfl
  | ok value =>
    have last := then_ value middle first.settled first.apart
    refine ⟨last.settled, last.apart, fun address absent => ?_, fun result equal other apart => ?_,
      fun failure equal shallow => ?_⟩
    · exact first.grows address (last.grows address absent)
    · have before : Apart other middle := fun address inside =>
        last.grows address (apart address inside)
      rw [first.value value rfl other before]
      exact last.value result equal other apart
    · rw [first.value value rfl path first.apart]
      exact last.failure failure equal shallow

/-- Evaluation with a trace against evaluation afresh, on a given path. -/
private def faithful (sheet : Worksheet) (path : List Address) :
    Correspondence EvalM (ReaderT (List Address) (Except Failure)) where
  rel action afresh := ∀ trace, Settled sheet trace → Apart path trace →
    Faithful sheet path trace (action.on trace) afresh
  pure value _ settled apart := faithful_pure settled apart value _ fun _ _ => rfl
  throw _ _ settled apart := faithful_throw settled apart _ _ fun _ => rfl
  abort _ _ _ _ settled apart := faithful_throw settled apart _ _ fun _ => rfl
  bind first then_ trace settled apart := faithful_bind (first trace settled apart) then_

/-- A computation that reads the path, on one path. -/
private def onPath (path : List Address) :
    Correspondence (ReaderT (List Address) (Except Failure)) (Except Failure) where
  rel reading result := reading path = result
  pure _ := rfl
  throw _ := rfl
  abort _ _ _ := rfl
  bind {_ _ x _ f _} first next := by
    subst first
    change (x path >>= fun value => f value path) = _
    congr 1
    exact funext next

private theorem orThrow_onPath {α : Type} (path : List Address) (result : Except Failure α) :
    (onPath path).rel (orThrow result) result := by cases result <;> rfl

private theorem step_onPath (sheet : Worksheet)
    (part : Expr → ReaderT (List Address) (Except Failure) Binary64)
    (read : Address → ReaderT (List Address) (Except Failure) Binary64) (e : Expr)
    (path : List Address) :
    e.step sheet part read path
      = e.step sheet (fun p => part p path) (fun address => read address path) :=
  (onPath path).step sheet e (fun _ _ => rfl) fun _ _ => rfl

private theorem cellValue_onPath (sheet : Worksheet)
    (part : Expr → ReaderT (List Address) (Except Failure) Binary64) (address : Address)
    (path : List Address) :
    cellValue sheet readWhole part address path
      = cellValue sheet readWhole (fun tree => part tree path) address :=
  (onPath path).cellValue sheet
    (fun text => (onPath path).orThrow (failsOwn_readWhole text)) (fun _ => rfl) address

/-- A value that becomes known on a path is the value of its cell on every path apart from it. -/
private theorem faithful_put {trace : Trace} {address : Address} {action : EvalM Binary64}
    (apart : Apart path trace) (free : address ∉ path)
    (absent : trace.get? address = none)
    (evaluated : Apart (address :: path) trace → Faithful sheet (address :: path) trace
      (action.on trace) fun longer =>
        cellValue sheet readWhole (evaluateAfresh sheet longer) address) :
    Faithful sheet path trace
      ((do
        let value ← action
        modify (·.put address value)
        return value : EvalM Binary64).on trace)
      fun other => resolveAfresh sheet (evaluateAfresh sheet) other address := by
  have evaluated := evaluated (apart.cons absent)
  rw [Action.on_bind]
  generalize action.on trace = reached at evaluated
  obtain ⟨outcome, middle⟩ := reached
  have keeps : Apart path middle := fun other inside =>
    evaluated.apart other (List.mem_cons_of_mem _ inside)
  cases outcome with
  | error failure =>
    refine ⟨evaluated.settled, keeps, evaluated.grows, fun _ equal => (nomatch equal),
      fun other equal shallow => ?_⟩
    obtain rfl := Except.error.inj equal
    simp only [resolveAfresh, if_neg free]
    exact evaluated.failure failure rfl shallow
  | ok value =>
    have earlier {other : List Address} (apart : Apart other (middle.put address value)) :
        address ∉ other ∧ Apart other middle := by
      constructor
      · intro inside
        have := apart address inside
        simp [Table.get?_put] at this
      · intro key inside
        have := apart key inside
        rw [Table.get?_put] at this
        split at this
        · cases this
        · exact this
    have resolved (other : List Address) (apart : Apart other (middle.put address value)) :
        resolveAfresh sheet (evaluateAfresh sheet) other address = .ok value := by
      obtain ⟨off, before⟩ := earlier apart
      rw [resolveAfresh, if_neg off]
      refine evaluated.value value rfl (address :: other) fun key inside => ?_
      rcases List.mem_cons.mp inside with rfl | inside
      · exact evaluated.apart key List.mem_cons_self
      · exact before key inside
    refine ⟨fun key held known other apart => ?_, keeps.put free value, fun key gone => ?_,
      fun result equal => ?_, fun _ equal => by cases equal⟩
    · change (middle.put address value).get? key = some held at known
      rw [Table.get?_put] at known
      split at known
      · next same =>
        subst same
        exact Option.some.inj known ▸ resolved other apart
      · exact evaluated.settled key held known other (earlier apart).2
    · change (middle.put address value).get? key = none at gone
      rw [Table.get?_put] at gone
      split at gone
      · cases gone
      · exact evaluated.grows key gone
    · exact Except.ok.inj equal ▸ resolved

/-- A formula that a limit does not stop is read alike on every path. -/
private theorem faithful_read (limit : Nat) (text : String) :
    (faithful sheet path).rel (orThrow (readWithin limit text))
      (orThrow (readWhole text) : ReaderT (List Address) (Except Failure) Expr) := by
  intro trace settled apart
  rcases outcome : readWithin limit text with failure | tree
  · refine faithful_throw settled apart failure _ fun shallow => ?_
    have same := readWithin_eq_readWhole (outcome ▸ fun equal => shallow (Except.error.inj equal))
    rw [← same, outcome]
    rfl
  · refine faithful_pure settled apart tree _ fun _ _ => ?_
    have same : readWithin limit text = readWhole text :=
      readWithin_eq_readWhole (outcome ▸ nofun)
    rw [← same, outcome]
    rfl

private theorem faithful_resolve {limit : Nat}
    {evaluateOn : List Address → Expr → EvalM Binary64}
    (evaluated : ∀ longer tree, (faithful sheet longer).rel (evaluateOn longer tree)
      (fun other => evaluateAfresh sheet other tree)) (path : List Address) (address : Address) :
    (faithful sheet path).rel (resolve sheet (readWithin limit) evaluateOn path address)
      (fun other => resolveAfresh sheet (evaluateAfresh sheet) other address) := by
  intro trace settled apart
  unfold resolve
  rw [Action.on_bind]
  simp only [Action.on_get]
  rcases known : trace.get? address with _ | value
  · by_cases inside : address ∈ path
    · simp only [if_pos inside]
      refine faithful_throw settled apart _ _ fun _ => ?_
      rw [resolveAfresh, if_pos inside]
    · simp only [if_neg inside]
      refine faithful_put apart inside known fun longer => ?_
      have cell := (faithful sheet (address :: path)).cellValue sheet (faithful_read limit)
        (evaluated (address :: path)) address trace settled longer
      have same := funext
        (cellValue_onPath sheet (fun tree other => evaluateAfresh sheet other tree) address)
      rw [same] at cell
      exact cell
  · exact faithful_pure settled apart value _
      fun other apart => settled address value known other apart

/-- Evaluation with a trace is faithful to evaluation afresh at every depth. -/
private theorem faithful_evaluate (limit depth : Nat) (path : List Address) (e : Expr) :
    (faithful sheet path).rel (evaluate sheet limit depth path e)
      (fun other => evaluateAfresh sheet other e) := by
  induction depth generalizing path e with
  | zero =>
    intro trace settled apart
    exact faithful_throw settled apart _ _ fun shallow => absurd rfl shallow
  | succ depth ih =>
    have cells (address : Address) : (faithful sheet path).rel
        (resolve sheet (readWithin limit) (evaluate sheet limit depth) path address)
        (fun other => resolveAfresh sheet (evaluateAfresh sheet) other address) :=
      faithful_resolve ih path address
    have stepped := (faithful sheet path).step sheet e (fun address _ => cells address)
      fun part _ => ih path part
    have same := funext fun other =>
      (step_onPath sheet (fun part other => evaluateAfresh sheet other part)
        (fun address other => resolveAfresh sheet (evaluateAfresh sheet) other address)
        e other).trans (evaluateAfresh_eq sheet other e).symm
    rw [same] at stepped
    exact stepped

/-- By itself an expression that the limit does not stop has the outcome of evaluation afresh. -/
theorem evaluate_eq_afresh {limit depth : Nat} {e : Expr}
    (shallow : ((evaluate sheet limit depth [] e).on .empty).1 ≠ .error .nestedTooDeep) :
    ((evaluate sheet limit depth [] e).on .empty).1 = evaluateAfresh sheet [] e := by
  have reached := faithful_evaluate limit depth [] e .empty (settled_empty sheet)
    (List.forall_mem_nil _)
  rcases outcome : ((evaluate sheet limit depth [] e).on .empty).1 with failure | value
  · exact (reached.failure failure outcome fun deep => shallow (deep ▸ outcome)).symm
  · exact (reached.value value outcome [] (List.forall_mem_nil _)).symm

/-- The values of the arguments of an aggregate on a path, nested no deeper than given. -/
def collectOn (sheet : Worksheet) (limit depth : Nat) (path : List Address) :
    List Expr → EvalM (List Binary64) :=
  collect sheet (evaluate sheet limit depth path)
    (resolve sheet (readWithin limit) (evaluate sheet limit depth) path)

/-- With a settled trace, arguments that the limit does not stop give what they give afresh. -/
theorem collectOn_eq_afresh {limit depth : Nat} {arguments : List Expr} {trace : Trace}
    (settled : Settled sheet trace) (apart : Apart path trace)
    (shallow : ((collectOn sheet limit depth path arguments).on trace).1 ≠ .error .nestedTooDeep) :
    ((collectOn sheet limit depth path arguments).on trace).1
      = collect sheet (evaluateAfresh sheet path) (resolveAfresh sheet (evaluateAfresh sheet) path)
          arguments := by
  have cells (address : Address) : (faithful sheet path).rel
      (resolve sheet (readWithin limit) (evaluate sheet limit depth) path address)
      (fun other => resolveAfresh sheet (evaluateAfresh sheet) other address) :=
    faithful_resolve (faithful_evaluate limit depth) path address
  have reached := (faithful sheet path).collect sheet arguments
    (fun _ _ _ _ address _ => cells address)
    (fun part _ => faithful_evaluate limit depth path part) trace settled apart
  have afresh : (onPath path).rel
      (collect sheet (fun part other => evaluateAfresh sheet other part)
        (fun address other => resolveAfresh sheet (evaluateAfresh sheet) other address) arguments)
      (collect sheet (evaluateAfresh sheet path) (resolveAfresh sheet (evaluateAfresh sheet) path)
        arguments) :=
    (onPath path).collect sheet arguments (fun _ _ _ _ _ _ => rfl) fun _ _ => rfl
  rcases outcome : ((collectOn sheet limit depth path arguments).on trace).1 with failure | values
  · exact (reached.failure failure outcome fun deep => shallow (deep ▸ outcome)).symm.trans afresh
  · exact (reached.value values outcome path reached.apart).symm.trans afresh

/-- A formula that is evaluated with a settled trace leaves a settled trace, whether it fails or
not. Its outcome is that of evaluation afresh. -/
theorem settled_evaluateFormula (limit : Nat) (formula : String) {trace : Trace}
    (settled : Settled sheet trace) :
    Settled sheet ((evaluateFormula sheet limit formula).on trace).2 ∧
      (((evaluateFormula sheet limit formula).on trace).1 ≠ .error .nestedTooDeep →
        ((evaluateFormula sheet limit formula).on trace).1
          = evaluateFormulaAfresh sheet formula) := by
  have apart : Apart [] trace := fun _ inside => absurd inside List.not_mem_nil
  have whole := (faithful sheet []).bind (faithful_read limit formula) fun tree =>
    (faithful sheet []).bind (faithful_evaluate limit limit [] tree) fun value =>
      (faithful sheet []).orThrow (failsOwn_requireFinite formula value)
  have reached := whole trace settled apart
  refine ⟨reached.settled, fun shallow => ?_⟩
  have afresh := (onPath []).bind (orThrow_onPath [] (readWhole formula)) fun tree =>
    (onPath []).bind (x := fun other => evaluateAfresh sheet other tree) rfl fun value =>
      orThrow_onPath [] (requireFinite formula value)
  change _ = evaluateFormulaAfresh sheet formula at afresh
  rcases outcome : ((evaluateFormula sheet limit formula).on trace).1 with failure | value
  · rw [← reached.failure failure outcome fun deep => shallow (deep ▸ outcome)]
    exact afresh
  · rw [← reached.value value outcome [] fun _ inside => absurd inside List.not_mem_nil]
    exact afresh

end

/-- The outcomes of formulas that are evaluated one after another with one trace. -/
def outcomes (sheet : Worksheet) (limit : Nat) :
    List String → Trace → List (Except Failure Binary64)
  | [], _ => []
  | formula :: rest, trace =>
    let (outcome, after) := (evaluateFormula sheet limit formula).on trace
    outcome :: outcomes sheet limit rest after

theorem outcomes_eq_afresh (sheet : Worksheet) (limit : Nat) (formulas : List String)
    {trace : Trace} (settled : Settled sheet trace) :
    List.Forall₂ (fun formula outcome => outcome ≠ .error .nestedTooDeep →
        outcome = evaluateFormulaAfresh sheet formula)
      formulas (outcomes sheet limit formulas trace) := by
  induction formulas generalizing trace with
  | nil => exact .nil
  | cons formula rest ih =>
    have first := settled_evaluateFormula limit formula settled
    exact .cons first.2 (ih first.1)

end SheetPricing.Formula
