import Mathlib.Logic.Relation
import SheetPricing.Proofs.Formula.Depth

/-! What is reported as circular. A cell that an evaluation comes back to is reached from each cell on
its path by references, and so from itself; a report of a circular reference therefore names a cell
on a cycle, and without a cycle within reach there is none. -/
namespace SheetPricing.Formula
open Relation (ReflTransGen TransGen)

/-- That the formula of a cell refers to a cell. -/
def Refers (sheet : Worksheet) (address other : Address) : Prop :=
  ∃ text cached tree, sheet.cell? address = some (.formula text cached) ∧
    readWhole text = .ok tree ∧ tree.RefersTo other

/-- That references lead from an expression to a cell, through the formulas of other cells. -/
def Expr.Reaches (sheet : Worksheet) (e : Expr) (address : Address) : Prop :=
  ∃ first, e.RefersTo first ∧ ReflTransGen (Refers sheet) first address

/-- That references lead from the formula of a cell back to the cell. -/
def OnCycle (sheet : Worksheet) (address : Address) : Prop := TransGen (Refers sheet) address address

section
variable {sheet : Worksheet} {start : Expr} {limit : Nat}

theorem OnCycle.exists_formula {address : Address} (cycle : OnCycle sheet address) :
    ∃ text cached, sheet.cell? address = some (.formula text cached) := by
  obtain ⟨next, ⟨text, cached, _, holds, _⟩, _⟩ := TransGen.head'_iff.mp cycle
  exact ⟨text, cached, holds⟩

theorem Expr.Reaches.step {address other : Address} (reaches : start.Reaches sheet address)
    (refers : Refers sheet address other) : start.Reaches sheet other := by
  obtain ⟨first, named, leads⟩ := reaches
  exact ⟨first, named, leads.tail refers⟩

/-- That a failure, if it reports a cell as circular, reports a cell on a cycle within reach. -/
def Failure.Cyclic (sheet : Worksheet) (start : Expr) (failure : Failure) : Prop :=
  ∀ address, failure = .circular address → OnCycle sheet address ∧ start.Reaches sheet address

theorem Failure.cyclic_of_isOwn {failure : Failure} (own : failure.IsOwn) :
    failure.Cyclic sheet start := by
  rintro address rfl
  exact absurd own not_false

theorem readWhole_of_readWithin {text : String} {tree : Expr}
    (read : readWithin limit text = .ok tree) : readWhole text = .ok tree := by
  have shallow : readWithin limit text ≠ .error .nestedTooDeep := by simp [read]
  rw [← readWithin_eq_readWhole shallow, read]

theorem readWithin_ne_circular (limit : Nat) (text : String) (address : Address) :
    readWithin limit text ≠ .error (.circular address) := by
  intro failed
  have shallow : readWithin limit text ≠ .error .nestedTooDeep := by simp [failed]
  exact failsOwn_readWhole text _ ((readWithin_eq_readWhole shallow).symm.trans failed)

/-- That references lead to a cell from where an evaluation started, and from each cell on its path. -/
structure Linked (sheet : Worksheet) (start : Expr) (path : List Address) (address : Address) :
    Prop where
  reached : start.Reaches sheet address
  behind : ∀ earlier ∈ path, TransGen (Refers sheet) earlier address

theorem Linked.step {path : List Address} {address other : Address}
    (linked : Linked sheet start path address) (refers : Refers sheet address other) :
    Linked sheet start (address :: path) other := by
  refine ⟨linked.reached.step refers, fun earlier inside => ?_⟩
  rcases List.mem_cons.mp inside with rfl | inside
  · exact .single refers
  · exact (linked.behind earlier inside).tail refers

theorem failsAs_evaluate (depth : Nat) {path : List Address} {e : Expr}
    (linked : ∀ address, e.RefersTo address → Linked sheet start path address) :
    FailsAs (Failure.Cyclic sheet start) (evaluate sheet limit depth path e) := by
  induction depth generalizing path e with
  | zero => exact failsAs_throw fun address same => nomatch same
  | succ depth ih =>
    let cyclic := failing (Failure.Cyclic sheet start) fun _ => Failure.cyclic_of_isOwn
    have step : cyclic.rel (evaluate sheet limit (depth + 1) path e)
        (evaluate sheet limit (depth + 1) path e) := by
      refine cyclic.step sheet e (fun address refers => ?_) fun part inside => ?_
      · have here := linked address refers
        refine failsAs_resolve (fun _ => Failure.cyclic_of_isOwn) (fun inside => ?_) ?_ ?_
        · rintro _ ⟨⟩
          exact ⟨here.behind address inside, here.reached⟩
        · rintro text cached _ _ unread other rfl
          exact absurd unread (readWithin_ne_circular limit text other)
        · intro text cached tree _ holds read
          have whole := readWhole_of_readWithin read
          exact ih fun other refers => here.step ⟨text, cached, tree, holds, whole, refers⟩
      · exact ih fun address refers => linked address (.part inside refers)
    exact step

theorem cyclic_of_evaluateFormula {formula : String} {trace : Trace} {address : Address}
    (failed : ((evaluateFormula sheet limit formula).on trace).1 = .error (.circular address)) :
    OnCycle sheet address ∧
      ∃ tree, readWhole formula = .ok tree ∧ tree.Reaches sheet address := by
  rcases read : readWithin limit formula with failure | tree
  · rw [evaluateFormula, read, orThrow] at failed
    have unread := Except.error.inj failed
    exact absurd (unread ▸ read) (readWithin_ne_circular limit formula address)
  · let cyclic := failing (Failure.Cyclic sheet tree) fun _ => Failure.cyclic_of_isOwn
    have fails : cyclic.rel (evaluateFormula sheet limit formula)
        (evaluateFormula sheet limit formula) := by
      refine cyclic.formula_of_read formula (fun failure unread => ?_) fun other again => ?_
      · cases read.symm.trans unread
      · obtain rfl := Except.ok.inj (read.symm.trans again)
        exact failsAs_evaluate limit fun address refers => ⟨⟨address, refers, .refl⟩, List.forall_mem_nil _⟩
    obtain ⟨cycle, reaches⟩ := fails trace _ failed address rfl
    exact ⟨cycle, tree, readWhole_of_readWithin read, reaches⟩

end

end SheetPricing.Formula
