import SheetPricing.Proofs.Formula.Chain
import SheetPricing.Proofs.Formula.Cycles

/-! What an evaluation depends on. The cells that references lead to, from an expression through the
formulas of other cells, are all that its evaluation looks at, whichever of them it reads and wherever
it fails. So it is the same on worksheets that hold the same there, with the same cells read. -/
namespace SheetPricing.Formula
open Relation (ReflTransGen)

section
variable {sheet other : Worksheet} {e inner tree : Expr} {address target : Address}

theorem Expr.RefersTo.reaches (refers : e.RefersTo address) : e.Reaches sheet address :=
  ⟨address, refers, .refl⟩

theorem Expr.Reaches.of_part (inside : inner ∈ e.parts) (reaches : inner.Reaches sheet address) :
    e.Reaches sheet address := by
  obtain ⟨first, refers, leads⟩ := reaches
  exact ⟨first, .part inside refers, leads⟩

theorem Expr.Reaches.of_content {text : String} {cached : Option Binary64}
    (refers : e.RefersTo address) (holds : sheet.cell? address = some (.formula text cached))
    (read : readWhole text = .ok tree) (reaches : tree.Reaches sheet target) :
    e.Reaches sheet target := by
  obtain ⟨first, named, leads⟩ := reaches
  exact ⟨address, refers, .head ⟨text, cached, tree, holds, read, named⟩ leads⟩

/-- What holds of the cells that an expression refers to, and of what the formula of a cell refers to
if it holds of the cell, holds wherever references lead. -/
theorem Expr.Reaches.induction {motive : Address → Prop}
    (named : ∀ address, e.RefersTo address → motive address)
    (kept : ∀ address target, motive address → Refers sheet address target → motive target)
    (reaches : e.Reaches sheet target) : motive target := by
  obtain ⟨first, refers, leads⟩ := reaches
  induction leads with
  | refl => exact named first refers
  | tail _ last ih => exact kept _ _ ih last

/-- That two worksheets hold the same wherever references lead from an expression. -/
def Expr.SeesSame (sheet other : Worksheet) (e : Expr) : Prop :=
  ∀ address, e.Reaches sheet address → sheet.cell? address = other.cell? address

theorem Expr.SeesSame.part (same : e.SeesSame sheet other) (inside : inner ∈ e.parts) :
    inner.SeesSame sheet other :=
  fun address reaches => same address (reaches.of_part inside)

theorem Expr.SeesSame.content {text : String} {cached : Option Binary64}
    (same : e.SeesSame sheet other) (refers : e.RefersTo address)
    (holds : sheet.cell? address = some (.formula text cached)) (read : readWhole text = .ok tree) :
    tree.SeesSame sheet other :=
  fun target reaches => same target (reaches.of_content refers holds read)

theorem counts_congr (same : sheet.cell? address = other.cell? address) :
    counts sheet address = counts other address := by
  unfold counts
  rw [same]

theorem cellValue_congr {m : Type → Type} [Monad m] [MonadExceptOf Failure m]
    (same : sheet.cell? address = other.cell? address) (read : String → Except Failure Expr)
    (evaluate : Expr → m Binary64) :
    cellValue sheet read evaluate address = cellValue other read evaluate address := by
  unfold cellValue plainValue Worksheet.numeric?
  rw [same]

theorem evaluate_congr {limit depth : Nat} {path : List Address} (same : e.SeesSame sheet other) :
    evaluate sheet limit depth path e = evaluate other limit depth path e := by
  induction depth generalizing path e with
  | zero => rfl
  | succ depth ih =>
    let equal : Correspondence EvalM EvalM := .equality fun _ _ _ => rfl
    refine equal.step_of_counts e (fun address refers => counts_congr (same address refers.reaches))
      (fun address refers => ?_) fun part inside => ih (same.part inside)
    have worked : cellValue sheet (readWithin limit) (evaluate sheet limit depth (address :: path)) address
        = cellValue sheet (readWithin limit) (evaluate other limit depth (address :: path)) address :=
      equal.cellValue_of_read (fun _ _ _ _ _ _ _ => rfl) fun text cached tree holds read =>
        ih (same.content refers holds (readWhole_of_readWithin read))
    change resolve _ _ _ _ _ = resolve _ _ _ _ _
    unfold resolve
    rw [worked, cellValue_congr (same address refers.reaches)]

/-- Without memory, an evaluation depends on its path only where references lead. -/
theorem evaluateAfresh_congr {path longer : List Address} (same : e.SeesSame sheet other)
    (onPath : ∀ address, e.Reaches sheet address → (address ∈ path ↔ address ∈ longer)) :
    evaluateAfresh sheet path e = evaluateAfresh other longer e := by
  induction size : pending sheet path e using Nat.strongRecOn generalizing path longer e with
  | ind size' ih =>
    subst size
    let equal : Correspondence (Except Failure) (Except Failure) := .equality fun _ _ _ => rfl
    rw [evaluateAfresh_eq, evaluateAfresh_eq]
    refine equal.step_of_counts e (fun address refers => counts_congr (same address refers.reaches))
      (fun address refers => ?_) fun part inside => ?_
    · change resolveAfresh _ _ _ _ = resolveAfresh _ _ _ _
      unfold resolveAfresh
      by_cases inside : address ∈ path
      · rw [if_pos inside, if_pos ((onPath address refers.reaches).mp inside)]
      rw [if_neg inside, if_neg fun there => inside ((onPath address refers.reaches).mpr there),
        ← cellValue_congr (same address refers.reaches)]
      refine equal.cellValue_of_read (fun _ _ _ _ _ _ _ => rfl) fun text cached tree holds read => ?_
      refine ih _ (pending_cell e inside holds read) (same.content refers holds read) ?_ rfl
      intro target reaches
      rw [List.mem_cons, List.mem_cons, onPath target (reaches.of_content refers holds read)]
    · exact ih _ (pending_part inside) (same.part inside)
        (fun address reaches => onPath address (reaches.of_part inside)) rfl

end

/-- On worksheets that hold the same wherever references lead from a formula, the formula has the same
outcome with every limit of nesting and leaves the same cells known, whatever was known before. -/
theorem on_evaluateFormula_of_seesSame {sheet other : Worksheet} {formula : String}
    (same : ∀ tree, readWhole formula = .ok tree → tree.SeesSame sheet other) (limit : Nat)
    (trace : Trace) : (evaluateFormula sheet limit formula).on trace
      = (evaluateFormula other limit formula).on trace := by
  let equal : Correspondence EvalM EvalM := .equality fun _ _ _ => rfl
  have whole : evaluateFormula sheet limit formula = evaluateFormula other limit formula :=
    equal.formula_of_read formula (fun _ _ _ _ => rfl) fun tree read =>
      evaluate_congr (same tree (readWhole_of_readWithin read))
  rw [whole]

theorem exists_row_of_refers_chain {count : Nat} {address target : Address}
    (refers : Refers (chain count) address target) : ∃ row, target = inColumn row := by
  obtain ⟨text, cached, tree, holds, read, refers⟩ := refers
  obtain ⟨_ | row, _, linked⟩ := exists_row_of_cell?_chain holds
  · cases linked
  · obtain ⟨rfl, rfl⟩ := Cell.formula.inj linked
    obtain rfl := Except.ok.inj ((readWhole_cell (cellText_inColumn (row + 1))).symm.trans read)
    exact ⟨row + 1, refers.eq_of_reference⟩

/-- What refers to the column of the chain only depends on nothing beside the column. -/
theorem seesSame_chain {count : Nat} {other : Worksheet}
    (same : ∀ row, (chain count).cell? (inColumn row) = other.cell? (inColumn row)) {e : Expr}
    (within : ∀ address, e.RefersTo address → ∃ row, address = inColumn row) :
    e.SeesSame (chain count) other := by
  intro address reaches
  obtain ⟨row, rfl⟩ : ∃ row, address = inColumn row :=
    reaches.induction (motive := fun address => ∃ row, address = inColumn row) within
      fun _ _ _ refers => exists_row_of_refers_chain refers
  exact same row

theorem on_evaluateFormula_of_seesSame_of_chain :
    (∀ tree, readWhole ("=" ++ inColumn 3) = .ok tree →
      tree.SeesSame (chain 3) ((chain 3).put "B1" (.formula "=B1" none))) ∧
    ∀ limit trace, (evaluateFormula (chain 3) limit ("=" ++ inColumn 3)).on trace
      = (evaluateFormula ((chain 3).put "B1" (.formula "=B1" none)) limit
          ("=" ++ inColumn 3)).on trace := by
  have same : ∀ tree, readWhole ("=" ++ inColumn 3) = .ok tree →
      tree.SeesSame (chain 3) ((chain 3).put "B1" (.formula "=B1" none)) := by
    intro tree read
    obtain rfl := Except.ok.inj ((readWhole_cell (cellText_inColumn 3)).symm.trans read)
    refine seesSame_chain (fun row => ?_) fun address refers => ⟨3, refers.eq_of_reference⟩
    rw [Worksheet.cell?_put, if_neg (ne_inColumn (by decide) row).symm]
  exact ⟨same, fun limit trace => on_evaluateFormula_of_seesSame same limit trace⟩

end SheetPricing.Formula
