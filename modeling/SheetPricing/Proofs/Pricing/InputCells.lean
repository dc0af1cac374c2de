import SheetPricing.Pricing.Template
import SheetPricing.Proofs.Formula.Escape
import SheetPricing.Proofs.Formula.Spelling

/-! The inputs of a price in its formulas. An input is written under the address that the
configuration keeps, and whatever reads that address reads the input. -/
namespace SheetPricing
open Address Formula
variable {sheet work : Worksheet} {cells : PerDimension Address} {values : PerDimension Binary64}
  {dimension : Dimension} {formula : String} {path : List Address} {address : Address}
  {value : Binary64}

/-- The last input of a cell is the one that the cell holds. -/
theorem cell?_writeInputs (last : ∀ later, [dimension, later].Sublist Dimension.all →
      cells.get later ≠ cells.get dimension) :
    (writeInputs sheet cells values).cell? (cells.get dimension)
      = some (.number (values.get dimension)) := by
  have apart (later : Dimension) (behind : [dimension, later].Sublist Dimension.all) :
      (cells.get dimension = cells.get later) = False := eq_false (last later behind).symm
  rw [writeInputs, PerDimension.toList, Dimension.all]
  simp only [List.map_cons, List.map_nil, List.foldl_cons, List.foldl_nil, Worksheet.setNumber,
    Worksheet.cell?_put]
  cases dimension with
  | weight => rw [if_pos rfl]
  | height => simp only [apart .weight (by decide), if_true, if_false]
  | width => simp only [apart .weight (by decide), apart .height (by decide), if_true, if_false]
  | length =>
    simp only [apart .weight (by decide), apart .height (by decide), apart .width (by decide),
      if_true, if_false]

/-- The cells on a path hold formulas. -/
theorem formula_of_mem_path {e : Expr} (reached : Reached work formula path e)
    (inside : address ∈ path) : ∃ text cached, work.cell? address = some (.formula text cached) := by
  induction reached with
  | formula read => cases inside
  | part outer asks ih => exact ih inside
  | cell outer asks free holds read ih =>
    rcases List.mem_cons.mp inside with rfl | before
    · exact ⟨_, _, holds⟩
    · exact ih before

section
variable (holds : work.cell? address = some (.number value))
include holds

theorem resolveAfresh_number (free : address ∉ path)
    (evaluateOn : List Address → Expr → Except Failure Binary64) :
    resolveAfresh work evaluateOn path address = .ok value := by
  rw [resolveAfresh, if_neg free, cellValue, holds]
  simp only [plainValue, holds]
  rfl

/-- A number that is read has its value, also where the trace is asked for it. -/
theorem resolve_number {trace : Trace} (settled : Settled work trace) (free : address ∉ path)
    (read : String → Except Failure Expr) (evaluateOn : List Address → Expr → EvalM Binary64) :
    ((resolve work read evaluateOn path address).on trace).1 = .ok value := by
  rw [resolve, Action.on_bind, Action.on_get]
  dsimp only
  cases kept : trace.get? address with
  | some found =>
    have afresh := settled address found kept [] fun _ inside => absurd inside List.not_mem_nil
    rw [resolveAfresh_number holds List.not_mem_nil] at afresh
    exact afresh.symm
  | none =>
    dsimp only
    rw [if_neg free, cellValue, holds]
    simp only [plainValue, holds]
    rfl

end

/-- What a cell is asked for by other than a reference is a member of a range. -/
theorem isShort_of_asks {answers : Question → Except Failure Binary64} {e : Expr}
    (asks : Asks work answers e (.cell address)) (other : ∀ named, e ≠ .reference named) :
    IsShort address := by
  have member {arguments : List Expr} {question : Question}
      (gathers : Gathers work answers arguments question) (asked : question = .cell address) :
      IsShort address := by
    induction gathers with
    | argument => cases asked
    | behindArgument _ _ _ ih => exact ih asked
    | member listed known =>
      cases asked
      exact isShort_of_members listed (by simp)
    | behindRange _ _ _ ih => exact ih asked
  cases asks with
  | reference => exact absurd rfl (other address)
  | gathers called aggregates gathers => exact member gathers rfl

/-- Wherever the evaluation of a price formula asks for a cell that an input is written into, it gets
the input, the last one if several have the cell. This takes that neither the configuration nor a
reference has zeros before the number of the row; members of ranges never have. -/
theorem answer_of_input {template : Template} {inputs : PerDimension (Option RawInput)}
    {given : PerDimension RawInput} (all : inputs.all? = some given)
    (valid : readDimensions given = .ok values)
    (found : template.workbook.sheet? template.config.sheetName = some sheet)
    {text : String} {cached : Option Binary64}
    (priced : (writeInputs sheet template.config.inputCells values).cell? template.config.priceCell
      = some (.formula text cached))
    (short : IsShort (template.config.inputCells.get dimension))
    (last : ∀ later, [dimension, later].Sublist Dimension.all →
      ¬ SameCell (template.config.inputCells.get later) (template.config.inputCells.get dimension)) :
    let work := writeInputs sheet template.config.inputCells values
    (∀ path e address, Reached work text path e → Asks work (answer work path) e (.cell address) →
      SameCell address (template.config.inputCells.get dimension) →
      IsShort address ∨ (∀ named, e ≠ .reference named) →
      answer work path (.cell address) = .ok (values.get dimension) ∧
        ∀ trace depth, Settled work trace →
          ((resolve work (readWithin depthLimit) (evaluate work depthLimit depth) path address).on
            trace).1 = .ok (values.get dimension)) ∧
      ∀ result, template.calculate inputs = .ok result → ∀ address value,
        SameCell address (template.config.inputCells.get dimension) → IsShort address →
        result.record.resolvedCells.get? address = some value → value = values.get dimension := by
  intro work
  obtain ⟨number, digits⟩ := short
  have own : SameCell (template.config.inputCells.get dimension)
      (template.config.inputCells.get dimension) :=
    ⟨rfl, number, row?_of_rowDigits digits, row?_of_rowDigits digits⟩
  have holds : work.cell? (template.config.inputCells.get dimension)
      = some (.number (values.get dimension)) := by
    refine cell?_writeInputs fun later behind same => last later behind ?_
    rw [same]
    exact own
  refine ⟨fun path e address reached asks same spelled => ?_, ?_⟩
  · have shortAddress : IsShort address := spelled.elim id (isShort_of_asks asks)
    obtain rfl := same.eq_of_isShort shortAddress ⟨number, digits⟩
    have free : template.config.inputCells.get dimension ∉ path := by
      intro inside
      obtain ⟨_, _, formula⟩ := formula_of_mem_path reached inside
      cases holds.symm.trans formula
    exact ⟨resolveAfresh_number holds free _, fun trace depth settled =>
      resolve_number holds settled free _ _⟩
  · intro result ok address value same shortAddress kept
    obtain rfl := same.eq_of_isShort shortAddress ⟨number, digits⟩
    rw [Template.calculate, all] at ok
    dsimp only at ok
    rw [valid] at ok
    dsimp only at ok
    rw [found] at ok
    obtain ⟨output, read, ok⟩ := ok_of_bind ok
    have trace : output.resolvedCells = (run work text .empty).2 := by
      have read := ok_of_mapError read
      rw [readOutput, priced] at read
      obtain ⟨_, _, rfl⟩ := exists_of_map read
      rfl
    have resolved : result.record.resolvedCells = output.resolvedCells := by
      dsimp only at ok
      split at ok
      · obtain rfl := Except.ok.inj ok
        rfl
      · obtain rfl := Except.ok.inj ok
        rfl
    rw [resolved, trace] at kept
    have settled := (settled_evaluateFormula depthLimit text (settled_empty work)).1
    have afresh := settled _ value kept [] fun _ inside => absurd inside List.not_mem_nil
    rw [resolveAfresh_number holds List.not_mem_nil] at afresh
    exact (Except.ok.inj afresh).symm

/-- The fields of a configuration that writes its cells in small letters. -/
def spelledFields : Schema.Fields :=
  [("workbook_ref", .text ""), ("sheet_name", .text "Prices"), ("weight_cell", .text " a4 "),
    ("price_cell", .text "a5")]

/-- The weight is a number in the template, and the price refers to it with marks. -/
def spelledWorkbook : Workbook :=
  ⟨[⟨"Prices", .ofList [("A4", .number 7), ("A5", .formula "=$a$4" none)]⟩], ""⟩

/-- The address that is referred to, if nothing else is there. -/
private def reference? : Expr → Option Address
  | .reference address => some address
  | _ => none

theorem answer_of_input_of_spelledFields : ∃ config, PricingConfig.ofFields spelledFields = .ok config ∧
    ∃ result, Template.calculate ⟨config, spelledWorkbook⟩
        ⟨some (.integer 10), some (.integer 20), some (.integer 30), some (.integer 61)⟩ = .ok result ∧
      result.price = some 61 ∧ result.record.resolvedCells.get? "A4" = some 61 ∧
      answer (writeInputs ⟨"Prices", .ofList [("A4", .number 7), ("A5", .formula "=$a$4" none)]⟩
        config.inputCells ⟨10, 20, 30, 61⟩) [] (.cell "A4") = .ok 61 := by
  have accepted : PricingConfig.ofFields spelledFields
      = .ok ⟨"", "", "Prices", PricingConfig.defaultCells, PricingConfig.defaultPriceCell, none⟩ := by
    decide +kernel
  refine ⟨_, accepted, ?_⟩
  let template : Template :=
    ⟨⟨"", "", "Prices", PricingConfig.defaultCells, PricingConfig.defaultPriceCell, none⟩,
      spelledWorkbook⟩
  have price : (template.calculate
      ⟨some (.integer 10), some (.integer 20), some (.integer 30), some (.integer 61)⟩).map
        (fun result => (result.price, result.record.resolvedCells.get? "A4"))
      = .ok (some 61, some 61) := by decide +kernel
  obtain ⟨result, calculated, shown⟩ := exists_of_map price
  obtain ⟨price, resolved⟩ := Prod.mk.inj shown
  have tree : readWhole "=$a$4" = .ok (.reference "A4") := by
    have named : (readWhole "=$a$4").toOption.bind reference? = some "A4" := by decide +kernel
    cases read : readWhole "=$a$4" with
    | error failure =>
      rw [read] at named
      cases named
    | ok tree =>
      rw [read] at named
      change reference? tree = some "A4" at named
      unfold reference? at named
      split at named
      · rw [Option.some.inj named]
      · cases named
  have valid : readDimensions ⟨.integer 10, .integer 20, .integer 30, .integer 61⟩
      = .ok ⟨10, 20, 30, 61⟩ := by decide +kernel
  have short : IsShort (template.config.inputCells.get .weight) := ⟨4, by decide +kernel⟩
  have last (later : Dimension) (behind : [Dimension.weight, later].Sublist Dimension.all) :
      ¬ SameCell (template.config.inputCells.get later) (template.config.inputCells.get .weight) := by
    cases later <;> exact absurd behind (by decide)
  let inputs : PerDimension (Option RawInput) :=
    ⟨some (.integer 10), some (.integer 20), some (.integer 30), some (.integer 61)⟩
  have all : inputs.all? = some ⟨.integer 10, .integer 20, .integer 30, .integer 61⟩ := rfl
  have found : template.workbook.sheet? template.config.sheetName
      = some ⟨"Prices", .ofList [("A4", .number 7), ("A5", .formula "=$a$4" none)]⟩ := rfl
  have every := (answer_of_input all valid found rfl short last).1
  refine ⟨result, calculated, price, resolved, ?_⟩
  exact (every [] (.reference "A4") "A4" (.formula tree) .reference
    ⟨rfl, 4, by decide +kernel, by decide +kernel⟩ (.inl short)).1

end SheetPricing
