import SheetPricing.Proofs.Formula.Dependence
import SheetPricing.Proofs.Formula.Recall
import SheetPricing.Proofs.Formula.References

/-! Formula cells replaced by the values that were found for them. A formula that had a value has it
still, and every value that it finds on the way was found before. The replaced cells find nothing on
the way to their values any more, though, and a cell that was known in time by them can be nested too
deeply without them. -/
namespace SheetPricing.Formula

/-- The worksheet with numbers in place of some cells, as far as their values are known. -/
def pin (sheet : Worksheet) (known : Trace) (pinned : List Address) : Worksheet :=
  pinned.foldr (fun address sheet => match known.get? address with
    | some value => sheet.setNumber address value
    | none => sheet) sheet

/-- That some cells hold formulas and have known values. -/
structure Pinnable (sheet : Worksheet) (known : Trace) (pinned : List Address) : Prop where
  formula : ∀ address ∈ pinned, ∃ text cached, sheet.cell? address = some (.formula text cached)
  known : ∀ address ∈ pinned, ∃ value, known.get? address = some value

section
variable {sheet : Worksheet} {known : Trace} {pinned : List Address} {address : Address}
  {value : Binary64}

theorem cell?_pin_of_not_mem (off : address ∉ pinned) :
    (pin sheet known pinned).cell? address = sheet.cell? address := by
  induction pinned with
  | nil => rfl
  | cons first rest ih =>
    rw [List.mem_cons, not_or] at off
    rw [pin, List.foldr_cons, ← pin]
    cases known.get? first with
    | none => exact ih off.2
    | some value => exact (Worksheet.cell?_put _ _ _ _).trans ((if_neg off.1).trans (ih off.2))

theorem cell?_pin_of_mem (inside : address ∈ pinned) (held : known.get? address = some value) :
    (pin sheet known pinned).cell? address = some (.number value) := by
  induction pinned with
  | nil => cases inside
  | cons first rest ih =>
    rw [pin, List.foldr_cons, ← pin]
    by_cases same : address = first
    · subst same
      rw [held]
      exact (Worksheet.cell?_put _ _ _ _).trans (if_pos rfl)
    · have later := ih (List.mem_of_ne_of_mem same inside)
      cases known.get? first with
      | none => exact later
      | some value => exact (Worksheet.cell?_put _ _ _ _).trans ((if_neg same).trans later)

theorem counts_pin (pinnable : Pinnable sheet known pinned) (address : Address) :
    counts sheet address = counts (pin sheet known pinned) address := by
  by_cases inside : address ∈ pinned
  · obtain ⟨text, cached, holds⟩ := pinnable.formula address inside
    obtain ⟨value, held⟩ := pinnable.known address inside
    rw [counts, counts, holds, cell?_pin_of_mem inside held]
  · exact counts_congr (cell?_pin_of_not_mem inside).symm

theorem cellValue_pin {m : Type → Type} [Monad m] [MonadExceptOf Failure m]
    (inside : address ∈ pinned) (held : known.get? address = some value)
    (read : String → Except Failure Expr) (evaluate : Expr → m Binary64) :
    cellValue (pin sheet known pinned) read evaluate address = pure value := by
  have here : (pin sheet known pinned).cell? address = some (.number value) :=
    cell?_pin_of_mem inside held
  rw [cellValue, here]
  dsimp only
  rw [plainValue, here]

end

/-- That a value on one side is the value on the other side. -/
def implying : Correspondence (Except Failure) (Except Failure) where
  rel result other := ∀ value, result = .ok value → other = .ok value
  pure _ _ same := same
  throw _ _ same := nomatch same
  abort _ _ _ _ same := nomatch same
  bind first next value ok := by
    obtain ⟨given, here, later⟩ := ok_of_bind ok
    rw [first given here, ok_bind]
    exact next given value later

section
variable {sheet : Worksheet} {known : Trace} {pinned path shorter : List Address}

/-- An expression that has a value on a path has it on a shorter path too, and with cells replaced by
the only values that evaluation afresh gives them. -/
theorem evaluateAfresh_pin (pinnable : Pinnable sheet known pinned)
    (only : ∀ address ∈ pinned, ∀ value, known.get? address = some value → ∀ path found,
      resolveAfresh sheet (evaluateAfresh sheet) path address = .ok found → found = value)
    (fewer : ∀ address ∈ shorter, address ∈ path) (off : ∀ address ∈ shorter, address ∉ pinned)
    (e : Expr) : implying.rel (evaluateAfresh sheet path e)
      (evaluateAfresh (pin sheet known pinned) shorter e) := by
  induction size : pending sheet path e using Nat.strongRecOn generalizing path shorter e with
  | ind size' ih =>
    subst size
    rw [evaluateAfresh_eq, evaluateAfresh_eq]
    refine implying.step_of_counts e (fun address _ => counts_pin pinnable address)
      (fun address _ found ok => ?_) fun part inside =>
        ih _ (pending_part inside) fewer off part rfl
    by_cases inside : address ∈ pinned
    -- A replaced cell is never on the path, since no formula is worked out for it.
    · obtain ⟨value, held⟩ := pinnable.known address inside
      obtain rfl := only address inside value held path found ok
      rw [resolveAfresh, if_neg fun here => off address here inside, cellValue_pin inside held]
      rfl
    · rw [resolveAfresh] at ok
      split at ok
      · cases ok
      · next free =>
        rw [resolveAfresh, if_neg fun here => free (fewer address here),
          cellValue_congr (cell?_pin_of_not_mem inside)]
        refine implying.cellValue_of_read (fun _ _ _ _ _ _ _ _ failed => by cases failed)
          (fun text cached tree holds read => ?_) found ok
        refine ih _ (pending_cell e free holds read) (fun other among => ?_)
          (List.forall_mem_cons.mpr ⟨inside, off⟩) tree rfl
        rcases List.mem_cons.mp among with rfl | among
        · exact List.mem_cons_self
        · exact List.mem_cons_of_mem _ (fewer other among)

theorem evaluateAfresh_of_shorter {e : Expr} {value : Binary64}
    (fewer : ∀ address ∈ shorter, address ∈ path) (ok : evaluateAfresh sheet path e = .ok value) :
    evaluateAfresh sheet shorter e = .ok value := by
  have none : Pinnable sheet .empty [] := ⟨nofun, nofun⟩
  exact evaluateAfresh_pin none nofun fewer (fun _ _ => List.not_mem_nil) e value ok

/-- A known value is the only one that evaluation afresh gives the cell, whatever the path. -/
theorem eq_of_resolveAfresh (settled : Settled sheet known) {address : Address}
    {value found : Binary64} (held : known.get? address = some value)
    (ok : resolveAfresh sheet (evaluateAfresh sheet) path address = .ok found) : found = value := by
  have reference : evaluateAfresh sheet path (.reference address) = .ok found := by
    rw [evaluateAfresh_reference]
    exact ok
  have alone : evaluateAfresh sheet [] (.reference address) = .ok found :=
    evaluateAfresh_of_shorter nofun reference
  rw [evaluateAfresh_reference] at alone
  exact Except.ok.inj (alone.symm.trans (settled address value held [] nofun))

theorem evaluateFormulaAfresh_pin (pinnable : Pinnable sheet known pinned)
    (settled : Settled sheet known) (formula : String) :
    implying.rel (evaluateFormulaAfresh sheet formula)
      (evaluateFormulaAfresh (pin sheet known pinned) formula) := by
  have trees (tree : Expr) : implying.rel (evaluateAfresh sheet [] tree)
      (evaluateAfresh (pin sheet known pinned) [] tree) :=
    evaluateAfresh_pin pinnable
      (fun address _ value held path found => eq_of_resolveAfresh settled held)
      (fun _ inside => inside) (List.forall_mem_nil _) tree
  refine implying.bind (fun _ read => read) fun tree => ?_
  exact implying.bind (trees tree) fun _ _ finite => finite

end

/-- What can be recalled against an evaluation that starts from what is known: it finds no other
value, and leaves nothing known that was not. -/
def keeping (known : Trace) : Correspondence (Except Failure) EvalM where
  rel result action := ∀ value, result = .ok value → ∀ trace outcome after, Within trace known →
    action.on trace = (outcome, after) →
    Within after known ∧ ∀ found, outcome = .ok found → found = value
  pure value result same trace outcome after within ok := by
    cases same
    cases ok
    exact ⟨within, fun found same => (Except.ok.inj same).symm⟩
  throw _ _ same := nomatch same
  abort _ _ _ _ same := nomatch same
  bind {_ _ _ action _ _} first next value ok trace outcome after within reached := by
    obtain ⟨given, here, later⟩ := ok_of_bind ok
    rw [Action.on_bind] at reached
    rcases early : action.on trace with ⟨failure | found, middle⟩
    · obtain ⟨kept, _⟩ := first given here trace _ middle within early
      rw [early] at reached
      cases reached
      exact ⟨kept, fun _ same => nomatch same⟩
    · obtain ⟨kept, same⟩ := first given here trace _ middle within early
      obtain rfl := same found rfl
      rw [early] at reached
      exact next found value later middle outcome after kept reached

section
variable {sheet : Worksheet} {known : Trace} {pinned path : List Address} {limit : Nat}

theorem keeping_read (text : String) :
    (keeping known).rel (orThrow (readWhole text)) (orThrow (readWithin limit text)) := by
  rcases read : readWithin limit text with failure | tree
  · rintro value _ trace outcome after within ⟨⟩
    exact ⟨within, fun _ same => nomatch same⟩
  · rw [readWhole_of_readWithin read]
    exact (keeping known).pure tree

theorem keeping_resolve (founded : Founded sheet known known) {evaluateOn : List Address → Expr → EvalM Binary64}
    (evaluated : ∀ longer tree, (keeping known).rel (recalled sheet known tree)
      (evaluateOn longer tree)) (address : Address) :
    (keeping known).rel (remembered known address)
      (resolve (pin sheet known pinned) (readWithin limit) evaluateOn path address) := by
  intro value same trace outcome after within reached
  have held := remembered_eq_ok_iff.mp same
  rw [on_resolve] at reached
  rcases found : trace.get? address with _ | earlier
  · rw [found] at reached
    dsimp only at reached
    split at reached
    · cases reached
      exact ⟨within, fun _ same => nomatch same⟩
    -- A replaced cell holds the known value, and any other gives it again by its content.
    · have worked : (keeping known).rel (cellValue sheet readWhole (recalled sheet known) address)
          (cellValue (pin sheet known pinned) (readWithin limit) (evaluateOn (address :: path))
            address) := by
        by_cases inside : address ∈ pinned
        · rw [founded address value held, cellValue_pin inside held]
          exact (keeping known).pure value
        · rw [cellValue_congr (cell?_pin_of_not_mem inside)]
          exact (keeping known).cellValue sheet keeping_read (evaluated (address :: path)) address
      rcases content : Action.on _ trace with ⟨failure | result, middle⟩
      · rw [content] at reached
        cases reached
        exact ⟨(worked value (founded address value held) trace _ after within content).1,
          fun _ same => nomatch same⟩
      · obtain ⟨kept, only⟩ :=
          worked value (founded address value held) trace _ middle within content
        obtain rfl := only result rfl
        rw [content] at reached
        cases reached
        exact ⟨kept.put held, fun other same => (Except.ok.inj same).symm⟩
  · rw [found] at reached
    cases reached
    have agreed := (within address earlier found).symm.trans held
    exact ⟨within, fun other same => Except.ok.inj same ▸ Option.some.inj agreed⟩

theorem keeping_evaluate (pinnable : Pinnable sheet known pinned)
    (founded : Founded sheet known known) (depth : Nat) (path : List Address) (e : Expr) :
    (keeping known).rel (recalled sheet known e)
      (evaluate (pin sheet known pinned) limit depth path e) := by
  induction depth generalizing path e with
  | zero =>
    rintro value _ trace outcome after within ⟨⟩
    exact ⟨within, fun _ same => nomatch same⟩
  | succ depth ih =>
    rw [recalled_eq]
    exact (keeping known).step_of_counts e (fun address _ => counts_pin pinnable address)
      (fun address _ => keeping_resolve founded ih address) fun part _ => ih path part

theorem keeping_formula (pinnable : Pinnable sheet known pinned)
    (founded : Founded sheet known known) (formula : String) :
    (keeping known).rel (recalledFormula sheet known formula)
      (evaluateFormula (pin sheet known pinned) limit formula) := by
  have whole : (keeping known).rel _ (evaluateFormula (pin sheet known pinned) limit formula) :=
    (keeping known).formula formula (keeping_read formula)
      (keeping_evaluate pinnable founded limit [])
  simp only [orThrow_eq] at whole
  exact whole

/-- A formula that has a value, with cells replaced by the values that were found for them, has the same
value with every limit that does not stop it, and from some limit on none does. Stopped or not, it
finds only what was found before. -/
theorem evaluateFormula_pin {formula : String} {value : Binary64}
    (ok : (evaluateFormula sheet limit formula).on .empty = (.ok value, known))
    (pinnable : Pinnable sheet known pinned) :
    (∀ limit, ∃ outcome after,
      (evaluateFormula (pin sheet known pinned) limit formula).on .empty = (outcome, after) ∧
      (outcome = .ok value ∨ outcome = .error .nestedTooDeep) ∧
      ∀ address found, after.get? address = some found → known.get? address = some found) ∧
    ∃ bound, ∀ limit, bound ≤ limit →
      ((evaluateFormula (pin sheet known pinned) limit formula).on .empty).1 = .ok value := by
  obtain ⟨settled, faithful⟩ := settled_evaluateFormula limit formula (settled_empty sheet)
  obtain ⟨founded, recalls⟩ := recalled_of_evaluateFormula ok
  rw [ok] at settled faithful
  have afresh : evaluateFormulaAfresh (pin sheet known pinned) formula = .ok value :=
    evaluateFormulaAfresh_pin pinnable settled formula value (faithful nofun).symm
  have same (limit : Nat) (shallow :
      ((evaluateFormula (pin sheet known pinned) limit formula).on .empty).1 ≠ .error .nestedTooDeep) :
      ((evaluateFormula (pin sheet known pinned) limit formula).on .empty).1 = .ok value :=
    ((settled_evaluateFormula limit formula (settled_empty _)).2 shallow).trans afresh
  refine ⟨fun limit => ?_, ?_⟩
  · rcases reached : (evaluateFormula (pin sheet known pinned) limit formula).on .empty
      with ⟨outcome, after⟩
    refine ⟨outcome, after, rfl, ?_, ?_⟩
    · by_cases deep : outcome = .error .nestedTooDeep
      · exact .inr deep
      · have found := same limit (reached ▸ deep)
        rw [reached] at found
        exact .inl found
    · exact (keeping_formula pinnable founded formula value recalls .empty outcome after
        (within_empty known) reached).1
  · obtain ⟨bound, shallow⟩ := exists_shallow_evaluateFormula (pin sheet known pinned) formula
    exact ⟨bound, fun limit le => same limit (shallow limit le .empty)⟩

end

/-- The chain, and a cell beside it. -/
def besideChain (count : Nat) (text : String) : Worksheet :=
  (chain count).put "B1" (.formula text none)

section
variable {count limit : Nat} {text : String} {corners : Range}

theorem greatest_replicate (count : Nat) : greatest (List.replicate (count + 1) 1) = 1 := by
  change (List.replicate count 1).foldl _ 1 = 1
  induction count with
  | zero => rfl
  | succ count ih =>
    rw [List.replicate_succ, List.foldl_cons, ite_self]
    exact ih

theorem inColumn_ne_beside (row : Nat) : inColumn row ≠ "B1" := (ne_inColumn (by decide) row).symm

theorem inColumn_not_mem_beside (row : Nat) : inColumn row ∉ ["B1"] := by
  simp [inColumn_ne_beside row]

theorem seesSame_besideChain
    (spanned : corners.addresses = .ok ((List.range' 1 count).map inColumn)) (name : String) :
    (Expr.call name [.range corners]).SeesSame (chain count) (besideChain count text) := by
  refine seesSame_chain (fun row => ?_) fun address refers => ?_
  · rw [besideChain, Worksheet.cell?_put, if_neg (inColumn_ne_beside row)]
  · cases refers with
    | member _ _ argument listed inside =>
      obtain ⟨rfl⟩ := List.mem_singleton.mp argument
      obtain rfl := Except.ok.inj (spanned.symm.trans listed)
      obtain ⟨row, _, rfl⟩ := List.mem_map.mp inside
      exact ⟨row, rfl⟩
    | part inside refers =>
      obtain rfl := List.mem_singleton.mp inside
      cases refers with
      | part inside => cases inside

/-- Where the cell beside the chain is the greatest in the chain, it leaves all of the chain known. -/
theorem exists_on_evaluate_besideChain (enough : 1 < limit) (any : 0 < count)
    (read : readWithin limit text = .ok (.call "MAX" [.range corners]))
    (spanned : corners.addresses = .ok ((List.range' 1 count).map inColumn)) (depth : Nat) :
    ∃ after, (evaluate (besideChain count text) limit (depth + 3) [] (.reference "B1")).on .empty
      = (.ok 1, after.put "B1" 1) ∧ KnownAbove count after := by
  obtain ⟨before, rfl⟩ : ∃ before, count = before + 1 := ⟨count - 1, by omega⟩
  obtain ⟨after, collected, known⟩ := exists_on_collect_chain enough spanned inColumn_not_mem_beside
    (evaluate (chain (before + 1)) limit (depth + 1) ["B1"]) depth
  have content : (evaluate (besideChain (before + 1) text) limit (depth + 2) ["B1"]
      (.call "MAX" [.range corners])).on .empty = (.ok 1, after) := by
    have named : Function.named? "MAX" = some .max := rfl
    rw [← evaluate_congr (seesSame_besideChain spanned "MAX"), evaluate, Expr.step]
    simp only [named, callValue, Action.on_bind, collected, Action.on_pure, greatest_replicate]
  refine ⟨after, ?_, known⟩
  have holds : (besideChain (before + 1) text).cell? "B1" = some (.formula text none) := by
    rw [besideChain, Worksheet.cell?_put, if_pos rfl]
  have finite : (1 : Binary64).isFinite = true := by decide +kernel
  rw [evaluate_reference, on_resolve, Table.get?_empty]
  simp only [List.not_mem_nil, if_false, cellValue, holds, read, orThrow, pure_bind, Action.on_bind,
    content, requireFinite, if_pos finite, Action.on_pure]

/-- With the cell beside the chain replaced by its value, nothing of the chain is known in time. -/
theorem on_evaluateFormula_pin_besideChain {known : Trace} (held : known.get? "B1" = some 1)
    (enough : 1 < limit) (deep : limit ≤ count) {formula : String}
    (read : readWithin limit formula
      = .ok (.binary (.arithmetic .add) (.reference "B1") (.reference (inColumn count)))) :
    ((evaluateFormula (pin (besideChain count text) known ["B1"]) limit formula).on .empty).1
      = .error .nestedTooDeep := by
  obtain ⟨depth, lower⟩ : ∃ depth, limit = depth + 2 := ⟨limit - 2, by omega⟩
  have beside : (evaluate (pin (besideChain count text) known ["B1"]) limit (depth + 1) []
      (.reference "B1")).on .empty = (.ok 1, .put .empty "B1" 1) := by
    rw [evaluate_reference, on_resolve, Table.get?_empty]
    simp only [List.not_mem_nil, if_false, cellValue_pin List.mem_cons_self held, Action.on_pure]
  have same : (Expr.reference (inColumn count)).SeesSame (chain count)
      (pin (besideChain count text) known ["B1"]) := by
    refine seesSame_chain (fun row => ?_) fun address refers => ⟨count, refers.eq_of_reference⟩
    rw [cell?_pin_of_not_mem (inColumn_not_mem_beside row), besideChain, Worksheet.cell?_put,
      if_neg (inColumn_ne_beside row)]
  have unknown : KnownAbove 0 (.put .empty "B1" 1) := fun row => by
    rw [Table.get?_put, if_neg (inColumn_ne_beside (row + 1))]
    rfl
  have last : (evaluate (pin (besideChain count text) known ["B1"]) limit (depth + 1) []
      (.reference (inColumn count))).on (.put .empty "B1" 1)
        = (.error .nestedTooDeep, .put .empty "B1" 1) := by
    rw [← evaluate_congr same]
    exact on_evaluate_chain_of_lt enough unknown (Nat.le_refl count) (by omega) nofun
  have whole : (evaluate (pin (besideChain count text) known ["B1"]) limit (depth + 2) [] (.binary
      (.arithmetic .add) (.reference "B1") (.reference (inColumn count)))).on .empty
        = (.error .nestedTooDeep, .put .empty "B1" 1) := by
    rw [evaluate, Expr.step, Action.on_bind, beside]
    simp only [Action.on_bind, last]
  rw [← lower] at whole
  rw [on_evaluateFormula read, whole]

theorem exists_on_evaluateFormula_besideChain (enough : 3 < limit) (any : 0 < count)
    (content : readWithin limit text = .ok (.call "MAX" [.range corners]))
    (spanned : corners.addresses = .ok ((List.range' 1 count).map inColumn)) {formula : String}
    (read : readWithin limit formula
      = .ok (.binary (.arithmetic .add) (.reference "B1") (.reference (inColumn count)))) :
    ∃ known, (evaluateFormula (besideChain count text) limit formula).on .empty = (.ok 2, known) ∧
      known.get? "B1" = some 1 := by
  obtain ⟨depth, deep⟩ : ∃ depth, limit = depth + 4 := ⟨limit - 4, by omega⟩
  obtain ⟨row, rfl⟩ : ∃ row, count = row + 1 := ⟨count - 1, by omega⟩
  obtain ⟨after, beside, known⟩ :=
    exists_on_evaluate_besideChain (by omega) any content spanned depth
  have held : (after.put "B1" 1).get? (inColumn (row + 1)) = some 1 := by
    rw [Table.get?_put, if_neg (inColumn_ne_beside (row + 1)), known row,
      if_pos (Nat.lt_succ_self row)]
  have last : (evaluate (besideChain (row + 1) text) limit (depth + 3) []
      (.reference (inColumn (row + 1)))).on (after.put "B1" 1) = (.ok 1, after.put "B1" 1) := by
    rw [evaluate_reference]
    exact on_resolve_of_known held
  have sum : BinaryOperator.apply (.arithmetic .add) 1 1 = .ok 2 := by decide +kernel
  have finite : (2 : Binary64).isFinite = true := by decide +kernel
  have whole : (evaluate (besideChain (row + 1) text) limit (depth + 4) [] (.binary
      (.arithmetic .add) (.reference "B1") (.reference (inColumn (row + 1))))).on .empty
        = (.ok 2, after.put "B1" 1) := by
    rw [evaluate, Expr.step]
    simp only [Action.on_bind, beside, last, sum, orThrow, Action.on_pure]
  refine ⟨after.put "B1" 1, ?_, by simp [Table.get?_put]⟩
  rw [← deep] at whole
  rw [on_evaluateFormula read, whole]
  simp only [requireFinite, if_pos finite]

theorem pinnable_besideChain {known : Trace} (held : known.get? "B1" = some 1) :
    Pinnable (besideChain count text) known ["B1"] where
  formula := List.forall_mem_singleton.mpr ⟨text, none, by
    rw [besideChain, Worksheet.cell?_put, if_pos rfl]⟩
  known := List.forall_mem_singleton.mpr ⟨1, held⟩

end

private theorem read_longMax : readWithin depthLimit "=MAX(A1:A3000)"
    = .ok (.call "MAX" [.range ⟨"A1", "A3000"⟩]) := by
  have named : PlainName "MAX".toList := .intro (.inl (by decide)) (List.all_eq_true.mp (by decide))
  exact (plain_call_longColumn named).readWithin_eq (by decide +kernel) (by decide)

private theorem read_besideAndLast : readWithin depthLimit "=B1+A3000"
    = .ok (.binary (.arithmetic .add) (.reference "B1") (.reference (inColumn 3000))) := by
  have beside : PlainCell "B1".toList := plainCell_of_all ['B'] ['1'] (by decide)
  have last : PlainCell "A3000".toList := plainCell_of_all ['A'] ['3', '0', '0', '0'] (by decide)
  have plain : (Expr.binary (.arithmetic .add) (.reference "B1") (.reference "A3000")).Plain :=
    .binary _ (.reference beside) (.reference last)
  rw [inColumn_last]
  exact plain.readWithin_eq (by decide +kernel) (by decide)

private theorem exists_run_besideChain : ∃ known,
    run (besideChain 3000 "=MAX(A1:A3000)") "=B1+A3000" .empty = (.ok 2, known) ∧
      known.get? "B1" = some 1 :=
  exists_on_evaluateFormula_besideChain (by decide) (by decide) read_longMax addresses_longColumn
    read_besideAndLast

theorem evaluateFormula_pin_of_besideChain : ∃ known,
    run (besideChain 3000 "=MAX(A1:A3000)") "=B1+A3000" .empty = (.ok 2, known) ∧
    Pinnable (besideChain 3000 "=MAX(A1:A3000)") known ["B1"] ∧
    ∃ bound, ∀ limit, bound ≤ limit → ((evaluateFormula
      (pin (besideChain 3000 "=MAX(A1:A3000)") known ["B1"]) limit "=B1+A3000").on .empty).1
        = .ok 2 := by
  obtain ⟨known, ok, held⟩ := exists_run_besideChain
  have pinnable : Pinnable (besideChain 3000 "=MAX(A1:A3000)") known ["B1"] :=
    pinnable_besideChain held
  exact ⟨known, ok, pinnable, (evaluateFormula_pin ok pinnable).2⟩

/-- A formula that has a value, and none with a cell replaced by the value that was found for it. -/
theorem besideChain_pinned_too_deep : ∃ known,
    run (besideChain 3000 "=MAX(A1:A3000)") "=B1+A3000" .empty = (.ok 2, known) ∧
    Pinnable (besideChain 3000 "=MAX(A1:A3000)") known ["B1"] ∧
    (run (pin (besideChain 3000 "=MAX(A1:A3000)") known ["B1"]) "=B1+A3000" .empty).1
      = .error .nestedTooDeep := by
  obtain ⟨known, ok, held⟩ := exists_run_besideChain
  exact ⟨known, ok, pinnable_besideChain held,
    on_evaluateFormula_pin_besideChain held (by decide) (by decide) read_besideAndLast⟩

end SheetPricing.Formula
