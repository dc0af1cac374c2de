import SheetPricing.Proofs.Formula.Depth
import SheetPricing.Proofs.Formula.Rectangle
import SheetPricing.Proofs.Formula.Trace

/-! What ranges give to aggregates. A range lists the cells of its rectangle, and each that is a number,
a numeral or a formula gives one value, in the order of the list; every other argument gives one value
too. Formulas are worked out on the spot, whatever was kept of them. -/
namespace SheetPricing.Formula
open Address (rowDigits)
open Text (isPlainDigit)

section
variable (sheet : Worksheet) (path : List Address)

/-- What a cell within a range gives an aggregate, if it gives anything. -/
def memberValue? (address : Address) : Option (Except Failure Binary64) :=
  match sheet.cell? address with
  | none => none
  | some (.number value) => some (.ok value)
  | some (.other raw) => raw.numeral?.map fun value => .ok (if value.isZero then 0 else value)
  | some (.formula text _) => some <|
    if address ∈ path then .error (.circular address)
    else do
      let tree ← readWhole text
      let value ← evaluateAfresh sheet (address :: path) tree
      requireFinite text value

/-- What an argument gives an aggregate: one value, or those of the cells of a range. -/
def argumentValues : Expr → Except Failure (List Binary64)
  | .range corners => do
    let addresses ← corners.addresses.mapError (.ofRange corners)
    (addresses.filterMap (memberValue? sheet path)).mapM id
  | e => do
    let value ← evaluateAfresh sheet path e
    return [value]

end

section
variable {sheet : Worksheet} {path : List Address}
  (formulas : ∀ address ∈ path, ∃ text cached, sheet.cell? address = some (.formula text cached))
include formulas

theorem memberValue?_eq (address : Address) : memberValue? sheet path address =
    if counts sheet address then some (resolveAfresh sheet (evaluateAfresh sheet) path address)
    else none := by
  have free (plain : ∀ text cached, sheet.cell? address ≠ some (.formula text cached)) :
      address ∉ path := by
    intro inside
    obtain ⟨text, cached, holds⟩ := formulas address inside
    exact plain text cached holds
  unfold memberValue? counts resolveAfresh cellValue
  cases holds : sheet.cell? address with
  | none => rfl
  | some cell =>
    cases cell with
    | number value =>
      have off := free (by simp [holds])
      simp only [if_neg off, plainValue, holds]
      rfl
    | formula text cached =>
      simp only [orThrow_eq]
      rfl
    | other raw =>
      have off := free (by simp [holds])
      simp only [if_neg off, plainValue, Worksheet.numeric?, holds, Option.bind_some, Cell.numeric?]
      cases raw.numeral? with
      | none => rfl
      | some value => cases zero : value.isZero <;> simp [zero, Option.filter, pure, Except.pure]

theorem filterMap_memberValue? (addresses : List Address) :
    (addresses.filterMap (memberValue? sheet path)).mapM id
      = (addresses.filter (counts sheet)).mapM (resolveAfresh sheet (evaluateAfresh sheet) path) := by
  induction addresses with
  | nil => rfl
  | cons address rest ih =>
    rw [List.filterMap_cons, List.filter_cons, memberValue?_eq formulas]
    cases counts sheet address with
    | false => exact ih
    | true =>
      simp only [if_true, List.mapM_cons, ih]
      rfl

theorem argumentValues_range (corners : Range) : argumentValues sheet path (.range corners)
    = members sheet corners >>= List.mapM (resolveAfresh sheet (evaluateAfresh sheet) path) := by
  rw [argumentValues, members]
  cases corners.addresses with
  | error problem => rfl
  | ok addresses => exact filterMap_memberValue? formulas addresses

/-- The arguments of an aggregate give what each of them gives, one after another. -/
theorem collect_eq_argumentValues (arguments : List Expr) :
    collect sheet (evaluateAfresh sheet path) (resolveAfresh sheet (evaluateAfresh sheet) path) arguments
      = do
        let groups ← arguments.mapM (argumentValues sheet path)
        return groups.flatten := by
  induction arguments with
  | nil => rfl
  | cons e rest ih =>
    rcases range_or_single e with ⟨corners, rfl⟩ | single
    · rw [collect, ih, List.mapM_cons, argumentValues_range formulas, orThrow_eq]
      simp only [bind_assoc, pure_bind, List.flatten_cons]
    · have value : argumentValues sheet path e = do
          let value ← evaluateAfresh sheet path e
          return [value] := by
        cases e with
        | range corners => exact absurd rfl (single corners)
        | _ => rfl
      rw [collect_single single, ih, List.mapM_cons, value]
      simp only [bind_assoc, pure_bind, List.flatten_cons, List.cons_append, List.nil_append]

end

/-- What an aggregate makes of the values of its arguments. -/
def Function.aggregate : Function → List Binary64 → Except Failure Binary64
  | .sum, values => (Binary64.sum values).mapError fun failure => .fault (.sum failure)
  | .max, values => .ok (greatest values)
  | _, values => .ok (least values)

section
variable {sheet : Worksheet} {name : String} {function : Function}
  (called : Function.named? name = some function) (aggregates : function.Aggregates)
include called aggregates

theorem on_evaluate_aggregate (limit depth : Nat) (path : List Address) (arguments : List Expr)
    (trace : Trace) : (evaluate sheet limit (depth + 1) path (.call name arguments)).on trace =
      match (collectOn sheet limit depth path arguments).on trace with
      | (.ok values, after) => (function.aggregate values, after)
      | (.error failure, after) => (.error failure, after) := by
  rw [evaluate, Expr.step]
  simp only [called]
  rcases aggregates with rfl | rfl | rfl
  · rw [callValue, Action.on_bind, collectOn]
    rcases Action.on _ trace with ⟨_ | values, after⟩
    · rfl
    · dsimp only [Function.aggregate]
      cases Binary64.sum values <;> rfl
  · rw [callValue, Action.on_bind, collectOn]
    rcases Action.on _ trace with ⟨_ | values, after⟩ <;> rfl
  · rw [callValue, Action.on_bind, collectOn]
    rcases Action.on _ trace with ⟨_ | values, after⟩ <;> rfl

end

/-- From some depth on arguments are not stopped. -/
theorem exists_shallow_collectOn (sheet : Worksheet) (arguments : List Expr) :
    ∃ bound, ∀ depth, bound ≤ depth → Shallow (collectOn sheet (depth + 1) depth [] arguments) := by
  obtain ⟨bound, shallow⟩ := exists_shallow_evaluate sheet (.call "SUM" arguments)
  refine ⟨bound, fun depth enough trace deep => ?_⟩
  apply shallow (depth + 1) (by omega) trace
  have called : Function.named? "SUM" = some .sum := rfl
  rw [on_evaluate_aggregate called (.inl rfl)]
  revert deep
  rcases Action.on _ trace with ⟨_ | values, after⟩
  · exact fun failed => congrArg Except.error (Except.error.inj failed)
  · exact nofun

/-- What ranges list and what arguments give. Between corners in order every cell of the rectangle is
listed, once and row by row, unless there are too many of them; a row with too many digits is not read;
no list is longer than it may be. The values of any arguments are those that each gives, in turn. -/
theorem ranges_exact (sheet : Worksheet) :
    (∀ (range : Range) (first last : Corner), first.WrittenAs range.first →
      last.WrittenAs range.last → first.InOrder last →
      (Range.maxCells < Range.size first last →
        range.addresses = .error (.tooLarge (Range.size first last))) ∧
      (Range.size first last ≤ Range.maxCells →
        ∃ addresses, range.addresses = .ok addresses ∧ Range.Lists first last addresses)) ∧
    (∀ range : Range, maxRowDigits < (rowDigits range.first).length ∨
      maxRowDigits < (rowDigits range.last).length → range.addresses = .error .invalid) ∧
    (∀ (range : Range) (addresses : List Address), range.addresses = .ok addresses →
      (addresses.length : Int) ≤ Range.maxCells) ∧
    ∀ arguments : List Expr,
      (∀ (limit depth : Nat) (path : List Address) (trace : Trace),
        (∀ address ∈ path, ∃ text cached, sheet.cell? address = some (.formula text cached)) →
        Settled sheet trace → Apart path trace →
        ((collectOn sheet limit depth path arguments).on trace).1 ≠ .error .nestedTooDeep →
        ((collectOn sheet limit depth path arguments).on trace).1 = do
          let groups ← arguments.mapM (argumentValues sheet path)
          return groups.flatten) ∧
      ∃ bound, ∀ depth, bound ≤ depth → ∀ trace,
        ((collectOn sheet (depth + 1) depth [] arguments).on trace).1 ≠ .error .nestedTooDeep := by
  refine ⟨fun range first last written writtenLast ordered => ?_,
    fun range long => Range.addresses_eq_invalid long,
    fun range addresses spanned => Range.length_le_of_addresses spanned,
    fun arguments => ⟨fun limit depth path trace formulas settled apart shallow => ?_,
      exists_shallow_collectOn sheet arguments⟩⟩
  · rw [Range.addresses_of_inOrder written writtenLast ordered]
    constructor
    · intro many
      exact if_pos many
    · intro few
      exact ⟨_, if_neg (Int.not_lt.mpr few), Range.lists_cells first last⟩
  · rw [collectOn_eq_afresh settled apart shallow, collect_eq_argumentValues formulas]

/-- A worksheet around the step from one letter to two: a number, a formula with another result kept, a
text and a numeral. -/
def edge : Worksheet :=
  ((((⟨"", .empty⟩ : Worksheet).put "Z9" (.number 1)).put "AA9" (.formula "=Z9+1" (some 8))).put "Z10"
    (.other (.text "x"))).put "AA10" (.other (.text "4"))

theorem ranges_exact_of_edge :
    (⟨"Z9", "AA10"⟩ : Range).addresses = .ok ["Z9", "AA9", "Z10", "AA10"] ∧
    Range.Lists ⟨26, 9⟩ ⟨27, 10⟩ ["Z9", "AA9", "Z10", "AA10"] ∧
    (do let groups ← [Expr.range ⟨"Z9", "AA10"⟩, .number 7].mapM (argumentValues edge [])
        return groups.flatten) = .ok [1, 2, 4, 7] := by
  obtain ⟨listed, _, _, gathered⟩ := ranges_exact edge
  have cell : CellText "Z9".toList :=
    @CellText.intro ['Z'] ['9'] (by decide) (by decide) (List.all_eq_true.mp (by decide)) (by decide)
      (List.all_eq_true.mp (by decide))
  have cellLast : CellText "AA10".toList :=
    @CellText.intro ['A', 'A'] ['1', '0'] (by decide) (by decide) (List.all_eq_true.mp (by decide))
      (by decide) (List.all_eq_true.mp (by decide))
  have first : Corner.WrittenAs ⟨26, 9⟩ "Z9" :=
    ⟨cell, by decide +kernel, by decide +kernel, by decide +kernel⟩
  have last : Corner.WrittenAs ⟨27, 10⟩ "AA10" :=
    ⟨cellLast, by decide +kernel, by decide +kernel, by decide +kernel⟩
  have spanned : (⟨"Z9", "AA10"⟩ : Range).addresses = .ok ["Z9", "AA9", "Z10", "AA10"] := by
    decide +kernel
  obtain ⟨addresses, again, lists⟩ :=
    (listed ⟨"Z9", "AA10"⟩ ⟨26, 9⟩ ⟨27, 10⟩ first last (by decide)).2 (by decide)
  obtain rfl := Except.ok.inj (spanned.symm.trans again)
  have outcome : ((collectOn edge depthLimit depthLimit [] [.range ⟨"Z9", "AA10"⟩, .number 7]).on
      .empty).1 = .ok [1, 2, 4, 7] := by decide +kernel
  refine ⟨spanned, lists, ?_⟩
  rw [← (gathered _).1 depthLimit depthLimit [] .empty nofun (settled_empty edge) nofun
    (outcome ▸ nofun), outcome]

/-- A cell with one more digit in its row than is read. -/
def longRow : Address := String.ofList (['A'] ++ List.replicate (maxRowDigits + 1) '1')

theorem addresses_of_longRow : CellText longRow.toList ∧
    (∃ corner : Corner, corner.Names longRow ∧ corner.InOrder corner ∧
      Range.size corner corner ≤ Range.maxCells) ∧
    (⟨longRow, longRow⟩ : Range).addresses = .error .invalid := by
  have ones : ∀ c ∈ List.replicate (maxRowDigits + 1) '1', c = '1' := fun c => List.eq_of_mem_replicate
  have cell : CellText longRow.toList := by
    rw [longRow, String.toList_ofList]
    refine .intro (by decide) (by decide) (List.all_eq_true.mp (by decide)) (by simp) fun c inside => ?_
    rw [ones c inside]
    decide
  obtain ⟨corner, names⟩ := exists_names cell
  refine ⟨cell, ⟨corner, names, ⟨Nat.le_refl _, Nat.le_refl _⟩, ?_⟩, Range.addresses_eq_invalid (.inl ?_)⟩
  · rw [Range.size, Nat.add_sub_cancel_left, Nat.add_sub_cancel_left]
    decide
  · have plain : ∀ c ∈ List.replicate (maxRowDigits + 1) '1', isPlainDigit c = true := by
      intro c inside
      rw [ones c inside]
      decide
    rw [longRow, (Address.parts_of_plain (List.all_eq_true.mp (by decide)) plain).2, List.length_replicate]
    exact Nat.lt_succ_self _

end SheetPricing.Formula
