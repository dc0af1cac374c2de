import SheetPricing.Proofs.Formula.Alone
import SheetPricing.Proofs.Formula.Failing
import SheetPricing.Proofs.Workbook.Finite

/-! A column in which each cell is the cell above it. By itself the last cell needs as much depth as
the column is long; cell after cell from above the column needs hardly any. -/
namespace SheetPricing.Formula

def inColumn (row : Nat) : Address := Corner.address ⟨1, row⟩

theorem inColumn_inj {row other : Nat} : inColumn row = inColumn other ↔ row = other := by
  constructor
  · intro same
    have first := Address.row?_of_rowDigits (Corner.parts_address ⟨1, row⟩).2
    have second := Address.row?_of_rowDigits (Corner.parts_address ⟨1, other⟩).2
    rw [inColumn, inColumn] at same
    rw [same, second] at first
    exact (Option.some.inj first).symm
  · rintro rfl
    rfl

theorem cellText_inColumn (row : Nat) : CellText (inColumn row).toList :=
  cellText_address Nat.one_pos (show 1 ≤ lastColumn maxColumnLetters by decide)

/-- A cell with another letter first is not in the column. -/
theorem ne_inColumn {address : Address} (other : address.toList.head? ≠ some 'A') (row : Nat) :
    address ≠ inColumn row := by
  rintro rfl
  refine other ?_
  have letters : columnLetters 1 = ['A'] := by
    rw [columnLetters, columnLetters]
    rfl
  rw [inColumn, Corner.address, letters, String.toList_append, String.toList_ofList]
  rfl

/-- What stands in the column at the row after the given one. -/
def linked : Nat → Cell
  | 0 => .number 1
  | row + 1 => .formula ("=" ++ inColumn (row + 1)) none

/-- So many cells in a column: a one, and then each cell the one above it. -/
def chain : Nat → Worksheet
  | 0 => ⟨"", .empty⟩
  | row + 1 => (chain row).put (inColumn (row + 1)) (linked row)

theorem cell?_chain {count row : Nat} (above : row < count) :
    (chain count).cell? (inColumn (row + 1)) = some (linked row) := by
  induction count with
  | zero => omega
  | succ count ih =>
    rw [chain, Worksheet.cell?_put]
    split
    · next same =>
      obtain rfl : row = count := Nat.succ.inj (inColumn_inj.mp same)
      rfl
    · next other =>
      have : row ≠ count := fun same => other (by rw [same])
      exact ih (by omega)

theorem cellValue_chain_top {m : Type → Type} [Monad m] [MonadExceptOf Failure m] {count : Nat}
    (any : 0 < count) {read : String → Except Failure Expr} {evaluate : Expr → m Binary64} :
    cellValue (chain count) read evaluate (inColumn 1) = pure 1 := by
  rw [cellValue, plainValue, cell?_chain any]
  rfl

theorem exists_row_of_cell?_chain {count : Nat} {address : Address} {cell : Cell}
    (holds : (chain count).cell? address = some cell) :
    ∃ row, address = inColumn (row + 1) ∧ cell = linked row := by
  induction count with
  | zero => cases holds
  | succ count ih =>
    rw [chain, Worksheet.cell?_put] at holds
    split at holds
    · next same => exact ⟨count, same, (Option.some.inj holds).symm⟩
    · exact ih holds

theorem numbersFinite_chain (count : Nat) : (chain count).NumbersFinite := by
  intro address value holds
  obtain ⟨row, _, same⟩ := exists_row_of_cell?_chain holds
  cases row with
  | zero =>
    rw [Cell.number.inj same]
    decide +kernel
  | succ row => cases same

/-- That the first cells of the column are known to be one, and no others of it. -/
def KnownAbove (row : Nat) (trace : Trace) : Prop :=
  ∀ other, trace.get? (inColumn (other + 1)) = if other < row then some 1 else none

theorem knownAbove_empty : KnownAbove 0 .empty := fun _ => rfl

theorem KnownAbove.put {row : Nat} {trace : Trace} (known : KnownAbove row trace) :
    KnownAbove (row + 1) (trace.put (inColumn (row + 1)) 1) := by
  intro other
  simp only [Table.get?_put, known other, inColumn_inj]
  grind

section
variable {count limit : Nat}

/-- By itself a cell of the chain is nested as deeply as there are cells above it. -/
theorem on_evaluate_chain_of_lt (enough : 1 < limit) {depth row : Nat} {path : List Address}
    {trace : Trace} (known : KnownAbove 0 trace) (above : row ≤ count) (deep : depth < row)
    (below : ∀ address ∈ path, ∃ later, row < later ∧ address = inColumn later) :
    (evaluate (chain count) limit depth path (.reference (inColumn row))).on trace
      = (.error .nestedTooDeep, trace) := by
  induction depth generalizing row path with
  | zero => rfl
  | succ depth ih =>
    obtain ⟨row, rfl⟩ : ∃ before, row = before + 2 := ⟨row - 2, by omega⟩
    have free : inColumn (row + 2) ∉ path := by
      intro inside
      obtain ⟨later, after, same⟩ := below _ inside
      have := inColumn_inj.mp same
      omega
    have inner : (evaluate (chain count) limit depth (inColumn (row + 2) :: path)
        (.reference (inColumn (row + 1)))).on trace = (.error .nestedTooDeep, trace) := by
      refine ih (by omega) (by omega) ?_
      refine List.forall_mem_cons.mpr ⟨⟨row + 2, by omega, rfl⟩, fun address inside => ?_⟩
      obtain ⟨later, after, same⟩ := below address inside
      exact ⟨later, by omega, same⟩
    have holds : (chain count).cell? (inColumn (row + 2)) = some (linked (row + 1)) :=
      cell?_chain (by omega)
    -- Its formula is read and evaluated one level deeper, on a path that grows upwards.
    rw [evaluate_reference, on_resolve, known (row + 1), if_neg (Nat.not_lt_zero _)]
    simp only [if_neg free, cellValue, holds, linked,
      readWithin_cell (cellText_inColumn (row + 1)) enough, orThrow, pure_bind, Action.on_bind, inner]

theorem on_resolve_chain (enough : 1 < limit) {depth row : Nat} {path : List Address} {trace : Trace}
    (above : row < count) (off : inColumn (row + 1) ∉ path) (known : KnownAbove row trace) :
    (resolve (chain count) (readWithin limit) (evaluate (chain count) limit (depth + 1)) path
      (inColumn (row + 1))).on trace = (.ok 1, trace.put (inColumn (row + 1)) 1) := by
  have unknown : trace.get? (inColumn (row + 1)) = none := by rw [known row, if_neg (by omega)]
  have worked : (cellValue (chain count) (readWithin limit)
      (evaluate (chain count) limit (depth + 1) (inColumn (row + 1) :: path))
        (inColumn (row + 1))).on trace = (.ok 1, trace) := by
    cases row with
    | zero =>
      rw [cellValue_chain_top above, Action.on_pure]
    | succ row =>
      have before : (evaluate (chain count) limit (depth + 1) (inColumn (row + 2) :: path)
          (.reference (inColumn (row + 1)))).on trace = (.ok 1, trace) := by
        rw [evaluate_reference]
        exact on_resolve_of_known (by rw [known row, if_pos (Nat.lt_succ_self row)])
      have finite : (1 : Binary64).isFinite = true := by decide +kernel
      rw [cellValue, cell?_chain above]
      simp only [linked, readWithin_cell (cellText_inColumn (row + 1)) enough, orThrow, pure_bind,
        Action.on_bind, before, requireFinite, if_pos finite, Action.on_pure]
  rw [on_resolve, unknown]
  simp only [if_neg off, worked]

theorem exists_on_mapM_chain (enough : 1 < limit) {depth : Nat} {path : List Address}
    (off : ∀ row, inColumn row ∉ path) (more : Nat) {row : Nat} {trace : Trace}
    (above : row + more ≤ count) (known : KnownAbove row trace) :
    ∃ after, (((List.range' (row + 1) more).map inColumn).mapM (resolve (chain count)
      (readWithin limit) (evaluate (chain count) limit (depth + 1)) path)).on trace
        = (.ok (List.replicate more 1), after) ∧ KnownAbove (row + more) after := by
  induction more generalizing row trace with
  | zero => exact ⟨trace, rfl, known⟩
  | succ more ih =>
    obtain ⟨after, rest, all⟩ := ih (by omega) known.put
    refine ⟨after, ?_, by rwa [Nat.add_right_comm] at all⟩
    rw [List.range'_succ, List.map_cons, List.mapM_cons, Action.on_bind,
      on_resolve_chain enough (by omega) (off _) known]
    simp only [Action.on_bind, rest]
    rfl

theorem addresses_column {corners : Range} (first : Corner.ofAddress? corners.first = some ⟨1, 1⟩)
    (last : Corner.ofAddress? corners.last = some ⟨1, count⟩) (few : (count : Int) ≤ Range.maxCells) :
    corners.addresses = .ok ((List.range' 1 count).map inColumn) := by
  have within : ¬Range.maxCells < Range.count ⟨1, 1⟩ ⟨1, count⟩ := by
    simp only [Range.count]
    omega
  have cells : Range.cells ⟨1, 1⟩ ⟨1, count⟩ = (List.range' 1 count).map fun row => ⟨1, row⟩ := by
    simp [Range.cells, Range.span, List.map_eq_flatMap]
  simp only [Range.addresses, first, last, if_neg within, cells, List.map_map]
  rfl

/-- A range from the first to the last cell of the chain has each cell of it, from above. -/
theorem members_chain {corners : Range}
    (spanned : corners.addresses = .ok ((List.range' 1 count).map inColumn)) :
    members (chain count) corners = .ok ((List.range' 1 count).map inColumn) := by
  have counted : ∀ address ∈ (List.range' 1 count).map inColumn,
      counts (chain count) address = true := by
    intro address inside
    obtain ⟨row, listed, rfl⟩ := List.mem_map.mp inside
    obtain ⟨low, high⟩ := List.mem_range'_1.mp listed
    obtain ⟨row, rfl⟩ : ∃ before, row = before + 1 := ⟨row - 1, by omega⟩
    rw [counts, cell?_chain (by omega)]
    cases row <;> rfl
  rw [members, spanned]
  simp only [List.filter_eq_self.mpr counted]

/-- Collected over a range of the whole chain, each cell is a one, and then all of them are known. -/
theorem exists_on_collect_chain (enough : 1 < limit) {corners : Range}
    (spanned : corners.addresses = .ok ((List.range' 1 count).map inColumn)) {path : List Address}
    (off : ∀ row, inColumn row ∉ path) (part : Expr → EvalM Binary64) (depth : Nat) :
    ∃ after, (collect (chain count) part (resolve (chain count) (readWithin limit)
      (evaluate (chain count) limit (depth + 1)) path) [.range corners]).on .empty
        = (.ok (List.replicate count 1), after) ∧ KnownAbove count after := by
  obtain ⟨after, read, known⟩ : ∃ after, (((List.range' 1 count).map inColumn).mapM
      (resolve (chain count) (readWithin limit) (evaluate (chain count) limit (depth + 1)) path)).on
        .empty = (.ok (List.replicate count 1), after) ∧ KnownAbove (0 + count) after :=
    exists_on_mapM_chain enough off count (by omega) knownAbove_empty
  refine ⟨after, ?_, by rwa [Nat.zero_add] at known⟩
  simp only [collect, members_chain spanned, orThrow, pure_bind, Action.on_bind, read, Action.on_pure,
    List.append_nil]

/-- A sum over the chain leaves each of its cells known. -/
theorem get?_evaluateFormula_sum_chain (enough : 1 < limit) {formula : String} {corners : Range}
    (read : readWithin limit formula = .ok (.call "SUM" [.range corners]))
    (spanned : corners.addresses = .ok ((List.range' 1 count).map inColumn))
    {row : Nat} (above : row < count) :
    ((evaluateFormula (chain count) limit formula).on .empty).2.get? (inColumn (row + 1))
      = some 1 := by
  obtain ⟨depth, deep⟩ : ∃ depth, limit = depth + 2 := ⟨limit - 2, by omega⟩
  obtain ⟨after, collected, known⟩ := exists_on_collect_chain enough spanned
    (fun _ => List.not_mem_nil) (evaluate (chain count) limit (depth + 1) []) depth
  have summed : ((evaluate (chain count) limit (depth + 2) [] (.call "SUM" [.range corners])).on
      .empty).2 = after := by
    have named : Function.named? "SUM" = some .sum := rfl
    rw [evaluate, Expr.step]
    simp only [named, callValue, Action.on_bind, collected]
    -- Whether the values have a sum does not change what is known.
    cases (Binary64.sum (List.replicate count 1)).mapError _ <;> rfl
  have kept : ((evaluateFormula (chain count) limit formula).on .empty).2 = after := by
    rw [← summed, on_evaluateFormula read, ← deep]
    rcases Action.on (evaluate _ _ _ _ _) _ with ⟨_ | value, after⟩ <;> rfl
  rw [kept, known row, if_pos above]

theorem on_evaluateFormula_chain_of_lt (enough : 1 < limit) (deep : limit < count) :
    ((evaluateFormula (chain count) limit ("=" ++ inColumn count)).on .empty).1
      = .error .nestedTooDeep := by
  have nested : (evaluate (chain count) limit limit [] (.reference (inColumn count))).on .empty
      = (.error .nestedTooDeep, .empty) :=
    on_evaluate_chain_of_lt enough knownAbove_empty (Nat.le_refl count) deep nofun
  rw [on_evaluateFormula (readWithin_cell (cellText_inColumn count) enough), nested]

end
end SheetPricing.Formula
