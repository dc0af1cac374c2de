import SheetPricing.Proofs.Formula.Absorption
import SheetPricing.Proofs.Formula.Failing

/-! Finite numbers on worksheets and in traces. A cell that is built from the values of a file stands
for a finite number or for none, an input is finite, and the value of a formula in a cell is checked
before it is kept. So nothing else is ever read from a cell, however worksheets are copied and written
to and formulas are evaluated on them in between. -/
namespace SheetPricing.Formula

/-- That all values in a trace are finite. -/
def Trace.Finite (trace : Trace) : Prop :=
  ∀ address value, trace.get? address = some value → value.isFinite = true

section
variable {sheet : Worksheet} {trace before after : Trace} {address : Address} {value : Binary64}

theorem Trace.finite_empty : Trace.Finite .empty := by
  intro address value held
  exact absurd held nofun

theorem Trace.Finite.put (finite : Trace.Finite trace) (address : Address)
    (known : value.isFinite = true) : Trace.Finite (trace.put address value) := by
  intro other number held
  rw [Table.get?_put] at held
  split at held
  · obtain rfl := Option.some.inj held
    exact known
  · exact finite other number held

/-- The content of a cell is worked out to a finite value, however expressions are evaluated. -/
theorem isFinite_of_cellValue (finite : sheet.NumbersFinite) {read : String → Except Failure Expr}
    {evaluate : Expr → EvalM Binary64}
    (ok : (cellValue sheet read evaluate address).on before = (.ok value, after)) :
    value.isFinite = true := by
  unfold cellValue at ok
  split at ok
  · next text cached _ =>
    obtain ⟨tree, _, _, ok⟩ := Action.exists_of_on_bind_eq ok
    obtain ⟨result, _, _, ok⟩ := Action.exists_of_on_bind_eq ok
    cases checked : requireFinite text result with
    | error failure =>
      rw [checked] at ok
      cases ok
    | ok number =>
      rw [checked] at ok
      obtain ⟨inRange, rfl⟩ := finite_of_requireFinite checked
      cases ok
      exact inRange
  · next plain =>
    cases ok
    exact isFinite_plainValue finite plain

/-- That an action leaves the values in a trace finite, whether it fails or not. -/
def bounded : Correspondence EvalM EvalM where
  rel action _ := ∀ before, Trace.Finite before → Trace.Finite (action.on before).2
  pure _ _ finite := finite
  throw _ _ finite := finite
  abort _ _ _ _ finite := finite
  bind first next before finite := by
    have middle := first before finite
    rw [Action.on_bind]
    generalize Action.on _ before = reached at middle
    obtain ⟨_ | value, trace⟩ := reached
    · exact middle
    · exact next value trace middle

theorem bounded_read (limit : Nat) (text : String) :
    bounded.rel (orThrow (readWithin limit text)) (orThrow (readWithin limit text)) := by
  intro before finite
  cases readWithin limit text <;> exact finite

theorem bounded_resolve (finite : sheet.NumbersFinite) {limit : Nat}
    {evaluateOn : List Address → Expr → EvalM Binary64}
    (evaluated : ∀ path tree, bounded.rel (evaluateOn path tree) (evaluateOn path tree))
    (path : List Address) (address : Address) :
    bounded.rel (resolve sheet (readWithin limit) evaluateOn path address)
      (resolve sheet (readWithin limit) evaluateOn path address) := by
  intro before known
  have worked := bounded.cellValue sheet (bounded_read limit) (evaluated (address :: path)) address
    before known
  rw [on_resolve]
  cases before.get? address with
  | some value => exact known
  | none =>
    dsimp only
    split
    · exact known
    · rcases outcome : (cellValue sheet (readWithin limit) (evaluateOn (address :: path)) address).on
        before with ⟨failure | value, middle⟩
      · rw [outcome] at worked
        exact worked
      · rw [outcome] at worked
        exact worked.put address (isFinite_of_cellValue finite outcome)

theorem bounded_evaluate (finite : sheet.NumbersFinite) (limit depth : Nat) (path : List Address)
    (e : Expr) : bounded.rel (evaluate sheet limit depth path e) (evaluate sheet limit depth path e) := by
  induction depth generalizing path e with
  | zero => exact fun _ known => known
  | succ depth ih =>
    exact bounded.step sheet e (fun address _ => bounded_resolve finite ih path address)
      fun part _ => ih path part

theorem Trace.Finite.evaluateFormula (known : Trace.Finite trace) (finite : sheet.NumbersFinite)
    (limit : Nat) (formula : String) :
    Trace.Finite ((Formula.evaluateFormula sheet limit formula).on trace).2 :=
  bounded.formula formula (bounded_read limit formula) (bounded_evaluate finite limit limit []) trace
    known

/-- What is read from a cell is finite, whether it was known or is worked out. -/
theorem isFinite_of_resolve (known : Trace.Finite before) (finite : sheet.NumbersFinite)
    {read : String → Except Failure Expr} {evaluateOn : List Address → Expr → EvalM Binary64}
    {path : List Address}
    (ok : (resolve sheet read evaluateOn path address).on before = (.ok value, after)) :
    value.isFinite = true := by
  rcases resolve_cases ok with ⟨held, _⟩ | ⟨_, _, _, worked, _⟩
  · exact known address value held
  · exact isFinite_of_cellValue finite worked

end

/-- Worksheets that are worked with, and engines: each has the place of its worksheet, and its
trace. -/
structure Desk where
  sheets : List Worksheet
  engines : List (Nat × Trace)

/-- What is done with a worksheet or an engine, given by its place. -/
inductive Move where
  | copy (sheet : Nat)
  /-- Write an input into a cell, if it can be used. -/
  | write (sheet : Nat) (address : Address) (field : String) (input : RawInput)
  | start (sheet : Nat)
  | evaluate (engine : Nat) (formula : String)

def Move.apply (limit : Nat) (desk : Desk) : Move → Desk
  | .copy place =>
    match desk.sheets[place]? with
    | some sheet => { desk with sheets := desk.sheets ++ [sheet] }
    | none => desk
  | .write place address field input =>
    match desk.sheets[place]?, input.positiveField field with
    | some sheet, .ok value =>
      { desk with sheets := desk.sheets.set place (sheet.setNumber address value) }
    | _, _ => desk
  | .start place => { desk with engines := desk.engines ++ [(place, .empty)] }
  | .evaluate engine formula =>
    match desk.engines[engine]? with
    | some (place, trace) =>
      match desk.sheets[place]? with
      | some sheet =>
        let after := ((evaluateFormula sheet limit formula).on trace).2
        { desk with engines := desk.engines.set engine (place, after) }
      | none => desk
    | none => desk

namespace Desk
variable {desk : Desk} {limit : Nat}

/-- That the numbers on all worksheets and in all traces are finite. -/
structure Finite (desk : Desk) : Prop where
  sheets : ∀ sheet ∈ desk.sheets, sheet.Finite
  traces : ∀ engine ∈ desk.engines, Trace.Finite engine.2

theorem finite_of_built {sheets : List Worksheet} (built : ∀ sheet ∈ sheets, sheet.Built) :
    Finite ⟨sheets, []⟩ :=
  ⟨fun sheet inside => (built sheet inside).finite, nofun⟩

theorem Finite.apply (finite : desk.Finite) (limit : Nat) (move : Move) :
    (move.apply limit desk).Finite := by
  cases move with
  | copy place =>
    rw [Move.apply]
    split
    · next sheet found =>
      refine ⟨fun other inside => ?_, finite.traces⟩
      rcases List.mem_append.mp inside with before | last
      · exact finite.sheets other before
      · exact List.mem_singleton.mp last ▸ finite.sheets sheet (List.mem_of_getElem? found)
    · exact finite
  | write place address field input =>
    rw [Move.apply]
    split
    · next sheet value found usable =>
      refine ⟨fun other inside => ?_, finite.traces⟩
      rcases List.mem_or_eq_of_mem_set inside with before | rfl
      · exact finite.sheets other before
      · exact (finite.sheets sheet (List.mem_of_getElem? found)).setNumber address
          (RawInput.isFinite_of_positive usable)
    · exact finite
  | start place =>
    refine ⟨finite.sheets, fun engine inside => ?_⟩
    rcases List.mem_append.mp inside with before | last
    · exact finite.traces engine before
    · exact List.mem_singleton.mp last ▸ Trace.finite_empty
  | evaluate engine formula =>
    rw [Move.apply]
    split
    · next place trace running =>
      split
      · next sheet found =>
        refine ⟨finite.sheets, fun other inside => ?_⟩
        rcases List.mem_or_eq_of_mem_set inside with before | rfl
        · exact finite.traces other before
        · exact (finite.traces _ (List.mem_of_getElem? running)).evaluateFormula
            (finite.sheets sheet (List.mem_of_getElem? found)).numbersFinite limit formula
      · exact finite
    · exact finite

theorem Finite.run (finite : desk.Finite) (limit : Nat) (moves : List Move) :
    (moves.foldl (Move.apply limit) desk).Finite := by
  induction moves generalizing desk with
  | nil => exact finite
  | cons move rest ih => exact ih (finite.apply limit move)

end Desk

/-- Worksheets whose cells were built from values stay finite while they are copied, inputs are written
into them and formulas are evaluated on them, with success or without: each number that a cell stands
for is finite, each value that an engine keeps of a cell is, and so is each value that it reads from a
cell next. -/
theorem isFinite_of_run_of_built {sheets : List Worksheet} (built : ∀ sheet ∈ sheets, sheet.Built)
    (limit : Nat) (moves : List Move) {desk : Desk}
    (reached : moves.foldl (Move.apply limit) ⟨sheets, []⟩ = desk) :
    (∀ sheet ∈ desk.sheets, ∀ address value, sheet.numeric? address = some value →
        value.isFinite = true) ∧
      ∀ place trace, (place, trace) ∈ desk.engines →
        (∀ address value, trace.get? address = some value → value.isFinite = true) ∧
        ∀ sheet, desk.sheets[place]? = some sheet → ∀ depth path address value after,
          (resolve sheet (readWithin limit) (evaluate sheet limit depth) path address).on trace
            = (.ok value, after) → value.isFinite = true := by
  obtain rfl := reached
  have finite := (Desk.finite_of_built built).run limit moves
  refine ⟨finite.sheets, fun place trace running => ?_⟩
  have known := finite.traces (place, trace) running
  refine ⟨known, fun sheet found _ _ _ _ _ ok => ?_⟩
  exact isFinite_of_resolve known
    (finite.sheets sheet (List.mem_of_getElem? found)).numbersFinite ok

/-- A number, a formula, and two values that are no numbers: a text and one out of range. -/
def mixedSheet : Worksheet where
  name := "Prijzen"
  cells := .ofList [("A1", .number 4), ("A2", .formula "=A1*2" none), ("A3", .other (.text "inf")),
    ("A4", .other (.real (.infinity false)))]

/-- An input is written into a copy, and of two formulas on it the second one is out of range. -/
def mixedMoves : List Move :=
  [.copy 0, .write 1 "A1" "length" (.text "1.234,5"), .start 1, .evaluate 0 "=A2+A3+A4",
    .evaluate 0 "=A2*1E308"]

theorem built_mixedSheet : mixedSheet.Built := by
  have number : (Cell.number 4).Built := by
    have finite : (4 : Binary64).isFinite = true := by decide +kernel
    refine ⟨.real 4, .blank, ?_⟩
    rw [Cell.ofRaw, RawValue.finite?, Binary64.finite?, if_pos finite]
    rfl
  have built := ((Worksheet.built_empty "Prijzen").put "A1" number).put "A2"
    ⟨.text "=A1*2", .text "#DIV/0!", rfl⟩
  exact (built.put "A3" ⟨.text "inf", .blank, rfl⟩).put "A4" ⟨.real (.infinity false), .blank, rfl⟩

theorem isFinite_of_run_of_built_of_mixedSheet : mixedSheet.Built ∧
    ∃ desk trace value, mixedMoves.foldl (Move.apply depthLimit) ⟨[mixedSheet], []⟩ = desk ∧
      (1, trace) ∈ desk.engines ∧ trace.get? "A2" = some value ∧
      value = Decimal.toBinary64 ⟨false, 2469, 0⟩ ∧ value.isFinite = true := by
  refine ⟨built_mixedSheet, ?_⟩
  generalize reached : mixedMoves.foldl (Move.apply depthLimit) ⟨[mixedSheet], []⟩ = desk
  have kept : desk.engines.map (fun engine => (engine.1, engine.2.get? "A2"))
      = [(1, some (Decimal.toBinary64 ⟨false, 2469, 0⟩))] := by
    rw [← reached]
    decide +kernel
  obtain ⟨⟨place, trace⟩, rest, engines, same, _⟩ := List.map_eq_cons_iff.mp kept
  obtain ⟨rfl, held⟩ := Prod.mk.inj same
  have running : (1, trace) ∈ desk.engines := engines ▸ List.mem_cons_self
  have built : ∀ sheet ∈ [mixedSheet], sheet.Built := List.forall_mem_singleton.mpr built_mixedSheet
  exact ⟨desk, trace, _, rfl, running, held, rfl,
    ((isFinite_of_run_of_built built depthLimit mixedMoves reached).2 1 trace running).1 "A2" _ held⟩

end SheetPricing.Formula
