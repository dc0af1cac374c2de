import SheetPricing.Proofs.Formula.Absorption
import SheetPricing.Proofs.Formula.Chain
import SheetPricing.Proofs.Formula.Order

/-! The cells that an evaluation reports as read. Each has the value that it has as a formula by
itself, and none stands before a cell that its own formula asked for. A formula by itself can be nested
too deeply where it is not among others: cells that are known already need no depth. -/
namespace SheetPricing.Formula

def Spelled (trace : Trace) : Prop := ∀ address ∈ trace.keys, CellText address.toList

/-- That an action makes cells known only if they are spelled as cells. -/
private def spelling : Correspondence EvalM EvalM where
  rel action _ := ∀ trace, Spelled trace → Spelled (action.on trace).2
  pure _ _ spelled := spelled
  throw _ _ spelled := spelled
  abort _ _ _ _ spelled := spelled
  bind first next trace spelled := by
    have here := first trace spelled
    rw [Action.on_bind]
    generalize Action.on _ trace = reached at here
    obtain ⟨_ | value, middle⟩ := reached
    · exact here
    · exact next value middle here

section
variable {sheet : Worksheet} {limit : Nat}

private theorem spelling_resolve {evaluateOn : List Address → Expr → EvalM Binary64}
    {path : List Address} {address : Address} (cell : CellText address.toList)
    (evaluated : ∀ text tree, readWithin limit text = .ok tree →
      spelling.rel (evaluateOn (address :: path) tree) (evaluateOn (address :: path) tree)) :
    spelling.rel (resolve sheet (readWithin limit) evaluateOn path address)
      (resolve sheet (readWithin limit) evaluateOn path address) := by
  refine spelling.resolve (fun _ spelled => spelled) (fun _ _ spelled => spelled) (fun _ => ?_) ?_
  · exact spelling.cellValue_of_read (fun _ _ _ _ _ _ _ _ spelled => spelled)
      fun text _ tree _ read => evaluated text tree read
  · intro value trace spelled other among
    rcases Table.mem_keys_put.mp among with known | rfl
    · exact spelled other known
    · exact cell

private theorem spelling_evaluate (depth : Nat) {path : List Address} {e : Expr}
    (cells : ∀ address, e.RefersTo address → CellText address.toList) :
    spelling.rel (evaluate sheet limit depth path e) (evaluate sheet limit depth path e) := by
  induction depth generalizing path e with
  | zero => exact fun _ spelled => spelled
  | succ depth ih =>
    refine spelling.step sheet e (fun address refers => ?_) fun part inside =>
      ih fun address refers => cells address (.part inside refers)
    refine spelling_resolve (cells address refers) fun text tree read => ?_
    exact ih fun other refers => cellText_of_readWhole (readWhole_of_readWithin read) refers

theorem spelled_evaluateFormula (sheet : Worksheet) (limit : Nat) (formula : String) :
    Spelled ((evaluateFormula sheet limit formula).on .empty).2 := by
  have whole : spelling.rel (evaluateFormula sheet limit formula)
      (evaluateFormula sheet limit formula) := by
    refine spelling.formula_of_read formula (fun _ _ _ _ _ spelled => spelled) fun tree read => ?_
    exact spelling_evaluate limit fun address refers =>
      cellText_of_readWhole (readWhole_of_readWithin read) refers
  exact whole .empty nofun

/-- A cell that is known has its value as a formula by itself. -/
theorem evaluateFormulaAfresh_cell (finite : sheet.NumbersFinite) {trace : Trace}
    (settled : Settled sheet trace) (spelled : Spelled trace) {address : Address} {value : Binary64}
    (known : trace.get? address = some value) :
    evaluateFormulaAfresh sheet ("=" ++ address) = .ok value := by
  have resolved := settled address value known [] nofun
  have cell := spelled address (Table.mem_keys_of_get? known)
  have bounded := isFinite_of_resolveAfresh finite resolved
  have evaluated : evaluateAfresh sheet [] (.reference address) = .ok value := by
    rw [evaluateAfresh_reference]
    exact resolved
  rw [evaluateFormulaAfresh, readWhole_cell cell, ok_bind, evaluated, ok_bind, requireFinite,
    if_pos bounded]

/-- With each limit that does not stop it, and so from some limit on, a cell that is known has its
value as a formula by itself. -/
theorem alone_of_known (finite : sheet.NumbersFinite) (formula : String) {address : Address}
    {value : Binary64}
    (known : ((evaluateFormula sheet limit formula).on .empty).2.get? address = some value) :
    (∀ limit, ((evaluateFormula sheet limit ("=" ++ address)).on .empty).1 = .ok value ∨
      ((evaluateFormula sheet limit ("=" ++ address)).on .empty).1 = .error .nestedTooDeep) ∧
    ∃ bound, ∀ limit, bound ≤ limit →
      ((evaluateFormula sheet limit ("=" ++ address)).on .empty).1 = .ok value := by
  have settled := (settled_evaluateFormula limit formula (settled_empty sheet)).1
  have afresh := evaluateFormulaAfresh_cell finite settled
    (spelled_evaluateFormula sheet limit formula) known
  have same (limit : Nat) (shallow : ((evaluateFormula sheet limit ("=" ++ address)).on .empty).1
      ≠ .error .nestedTooDeep) :
      ((evaluateFormula sheet limit ("=" ++ address)).on .empty).1 = .ok value :=
    ((settled_evaluateFormula limit ("=" ++ address) (settled_empty sheet)).2 shallow).trans afresh
  refine ⟨fun limit => ?_, ?_⟩
  · by_cases deep : ((evaluateFormula sheet limit ("=" ++ address)).on .empty).1
        = .error .nestedTooDeep
    · exact .inr deep
    · exact .inl (same limit deep)
  · obtain ⟨bound, shallow⟩ := exists_shallow_evaluateFormula sheet ("=" ++ address)
    exact ⟨bound, fun limit le => same limit (shallow limit le .empty)⟩

end

/-- The cells that an evaluation afresh reports, in their order, whether it fails or not. Each has its
value as a formula by itself with every limit that does not stop it, and from some limit on none does.
What was asked for on the way to a reported cell stands before it. After a success all that was asked
for is reported, and of each range that was expanded all members that count. -/
theorem known_alone_in_order (sheet : Worksheet) (finite : sheet.NumbersFinite) (limit : Nat)
    (formula : String) :
    ∃ outcome watch, (watchFormula sheet limit formula).on .empty = (outcome, watch) ∧
      (evaluateFormula sheet limit formula).on .empty = (outcome, watch.trace) ∧
      (∀ address value, watch.trace.get? address = some value →
        (∀ limit, ((evaluateFormula sheet limit ("=" ++ address)).on .empty).1 = .ok value ∨
          ((evaluateFormula sheet limit ("=" ++ address)).on .empty).1 = .error .nestedTooDeep) ∧
        ∃ bound, ∀ limit, bound ≤ limit →
          ((evaluateFormula sheet limit ("=" ++ address)).on .empty).1 = .ok value) ∧
      (∀ path address, (path, address) ∈ watch.asked → ∀ cell ∈ path, cell ∈ watch.trace.keys →
        [address, cell].Sublist watch.trace.keys) ∧
      ∀ value, outcome = .ok value →
        (∀ path address, (path, address) ∈ watch.asked → address ∈ watch.trace.keys) ∧
        ∀ e ∈ watch.met, ∀ address, e.Expands sheet address → address ∈ watch.trace.keys := by
  have same := on_evaluateFormula_eq_watch sheet limit formula .empty
  have sound := sound_watchFormula sheet limit formula
  have fills := filling_formula sheet limit formula .empty
  rcases noted : (watchFormula sheet limit formula).on .empty with ⟨outcome, watch⟩
  rw [noted] at same sound fills
  refine ⟨outcome, watch, rfl, same, fun address value known => ?_, sound.ordered, ?_⟩
  · have reported : ((evaluateFormula sheet limit formula).on .empty).2.get? address = some value :=
      (congrArg (fun reached => reached.2.get? address) same).trans known
    exact alone_of_known finite formula reported
  · rintro value rfl
    obtain ⟨_, asked, met⟩ := fills value watch rfl
    exact ⟨fun path address inside => (asked path address inside).resolve_left nofun,
      fun e inside => (met e inside).resolve_left nofun⟩

/-- A column of more cells than a formula can be nested. -/
def longColumn : Worksheet := chain 3000

theorem inColumn_last : inColumn 3000 = "A3000" := by
  simp [inColumn, Corner.address, columnLetters]
  rfl

theorem addresses_longColumn :
    Range.addresses ⟨"A1", "A3000"⟩ = .ok ((List.range' 1 3000).map inColumn) := by
  have first : Corner.ofAddress? "A1" = some ⟨1, 1⟩ := by decide +kernel
  have last : Corner.ofAddress? "A3000" = some ⟨1, 3000⟩ := by decide +kernel
  exact addresses_column first last (by decide)

theorem plain_call_longColumn {name : String} (named : PlainName name.toList) :
    (Expr.call name [.range ⟨"A1", "A3000"⟩]).Plain := by
  have first : PlainCell "A1".toList := plainCell_of_all ['A'] ['1'] (by decide)
  have last : PlainCell "A3000".toList := plainCell_of_all ['A'] ['3', '0', '0', '0'] (by decide)
  exact .call named (List.forall_mem_singleton.mpr (.range first last))

private theorem readWithin_longSum : readWithin depthLimit "=SUM(A1:A3000)"
    = .ok (.call "SUM" [.range ⟨"A1", "A3000"⟩]) := by
  have named : PlainName "SUM".toList := .intro (.inl (by decide)) (List.all_eq_true.mp (by decide))
  exact (plain_call_longColumn named).readWithin_eq (by decide +kernel) (by decide)

private theorem known_longColumn :
    (run longColumn "=SUM(A1:A3000)" .empty).2.get? "A3000" = some 1 := by
  have known := get?_evaluateFormula_sum_chain (by decide) readWithin_longSum addresses_longColumn
    (Nat.lt_succ_self 2999)
  exact inColumn_last ▸ known

theorem known_alone_in_order_of_longColumn : longColumn.NumbersFinite ∧
    ∃ bound, ∀ limit, bound ≤ limit →
      ((evaluateFormula longColumn limit "=A3000").on .empty).1 = .ok 1 := by
  refine ⟨numbersFinite_chain 3000, ?_⟩
  obtain ⟨outcome, watch, _, same, alone, _⟩ :=
    known_alone_in_order longColumn (numbersFinite_chain 3000) depthLimit "=SUM(A1:A3000)"
  have known : watch.trace.get? "A3000" = some 1 := by
    have known := known_longColumn
    rwa [run, same] at known
  exact (alone "A3000" 1 known).2

/-- A cell that is reported with a value and has none as a formula by itself. -/
theorem longColumn_not_alone : longColumn.NumbersFinite ∧
    (run longColumn "=SUM(A1:A3000)" .empty).2.get? "A3000" = some 1 ∧
    (run longColumn "=A3000" .empty).1 = .error .nestedTooDeep := by
  refine ⟨numbersFinite_chain 3000, known_longColumn, ?_⟩
  have nested : ((evaluateFormula longColumn depthLimit ("=" ++ inColumn 3000)).on .empty).1 = _ :=
    on_evaluateFormula_chain_of_lt (by decide) (by decide)
  rw [inColumn_last] at nested
  exact nested

end SheetPricing.Formula
