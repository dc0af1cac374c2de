import SheetPricing.Pricing.Session
import SheetPricing.Pricing.Template
import SheetPricing.Proofs.Binary64.Units
import SheetPricing.Proofs.Decimal.Rounding
import SheetPricing.Proofs.Formula.Escape
import SheetPricing.Proofs.Workbook.Finite

/-! What a calculation of a price ends with: a price and no error, or one error and no price. -/
namespace SheetPricing

namespace Binary64

section
variable {negative : Bool} {units : Nat} {fits : Representable units}

theorem lt_zero_iff :
    lt (.finite negative units fits) 0 = true ↔ negative = true ∧ 0 < units := by
  rw [zero_eq, ← signed_neg_iff]
  exact decide_eq_true_iff

theorem zero_le_finite : Binary64.le 0 (.finite false units fits) = true := by
  rw [zero_eq, Binary64.le, Bool.or_eq_true]
  rcases Nat.eq_zero_or_pos units with rfl | positive
  · exact .inr (decide_eq_true (rfl : signed false 0 = signed false 0))
  · exact .inl (decide_eq_true (Int.ofNat_lt.mpr positive))

/-- A sum with zero is the number itself, except that no negative zero is left. -/
theorem finite_add_zero :
    (.finite negative units fits : Binary64) + 0
      = if units = 0 then signedZero false else .finite negative units fits := by
  rw [zero_eq]
  change (if signed negative units + 0 = 0 then signedZero (negative && false)
    else ofUnits (signed negative units + 0)) = _
  rw [Int.add_zero, Bool.and_false]
  rcases Nat.eq_zero_or_pos units with rfl | positive
  · rw [if_pos rfl, if_pos (signed_eq_zero_iff.mpr rfl)]
  · rw [if_neg positive.ne', if_neg (mt signed_eq_zero_iff.mp positive.ne'),
      ofUnits_signed fits positive]

end
end Binary64

/-- A price: a finite number, not below zero and not a negative zero, rounded to cents. -/
structure Binary64.IsPrice (price : Binary64) : Prop where
  finite : price.isFinite = true
  notNegative : Binary64.le 0 price = true
  notNegativeZero : price ≠ .signedZero true
  rounded : price.roundPlaces pricePlaces = .ok price

theorem isPrice_of_priceOf {value price : Binary64} (finite : value.isFinite = true)
    (ok : priceOf (.real value) = .ok price) : price.IsPrice := by
  unfold priceOf at ok
  split at ok
  · cases ok
  · next rounded result =>
    dsimp only at ok
    split at ok
    · cases ok
    · next notBelow =>
      obtain rfl := Except.ok.inj ok
      have inRange := Binary64.isFinite_of_roundPlaces (by decide) finite result
      have same := Binary64.roundPlaces_roundPlaces result inRange
      cases rounded with
      | nan => cases inRange
      | infinity => cases inRange
      | finite negative units fits =>
        rw [Binary64.finite_add_zero] at notBelow ⊢
        rcases Nat.eq_zero_or_pos units with rfl | positive
        · rw [if_pos rfl]
          exact ⟨rfl, Binary64.zero_le_finite, by decide, Binary64.roundPlaces_zero _ _⟩
        · rw [if_neg positive.ne'] at notBelow ⊢
          rw [Binary64.lt_zero_iff] at notBelow
          cases negative with
          | true => exact absurd ⟨rfl, positive⟩ notBelow
          | false => exact ⟨rfl, Binary64.zero_le_finite, by simp [Binary64.signedZero], same⟩

/-- A result without a price, with one error. -/
structure PriceResult.Rejected (result : PriceResult) : Prop where
  noPrice : result.price = none
  noValue : result.record.outputValue = none
  oneError : result.record.errors.length = 1

/-- A result with a price, which is also the value of the output cell, without an error. -/
def PriceResult.Priced (result : PriceResult) : Prop :=
  ∃ price, price.IsPrice ∧ result.price = some price ∧ result.record.outputValue = some price ∧
    result.record.errors = []

theorem PriceResult.Rejected.not_priced {result : PriceResult} (rejected : result.Rejected) :
    ¬result.Priced := by
  rintro ⟨price, _, priced, _⟩
  rw [rejected.noPrice] at priced
  cases priced

theorem CalculationRecord.rejected_rejected {record : CalculationRecord}
    (noValue : record.outputValue = none) (noErrors : record.errors = []) (reason : String) :
    (record.rejected reason).Rejected := by
  refine ⟨rfl, noValue, ?_⟩
  change (record.errors ++ [reason]).length = 1
  rw [noErrors]
  rfl

section
variable {sheet : Worksheet}

theorem isFinite_of_readDimensions {given : PerDimension RawInput}
    {values : PerDimension Binary64} (ok : readDimensions given = .ok values)
    (dimension : Dimension) : (values.get dimension).isFinite = true := by
  obtain ⟨length, first, ok⟩ := ok_of_bind ok
  obtain ⟨width, second, ok⟩ := ok_of_bind ok
  obtain ⟨height, third, ok⟩ := ok_of_bind ok
  obtain ⟨weight, fourth, ok⟩ := ok_of_bind ok
  obtain rfl := Except.ok.inj ok
  cases dimension with
  | length => exact RawInput.isFinite_of_positive first
  | width => exact RawInput.isFinite_of_positive second
  | height => exact RawInput.isFinite_of_positive third
  | weight => exact RawInput.isFinite_of_positive fourth

/-- With finite inputs in its cells a worksheet keeps finite numbers. -/
theorem Worksheet.Finite.writeInputs (finite : sheet.Finite) (cells : PerDimension Address)
    {values : PerDimension Binary64}
    (written : ∀ dimension, (values.get dimension).isFinite = true) :
    (writeInputs sheet cells values).Finite := by
  unfold SheetPricing.writeInputs
  induction cells.toList generalizing sheet with
  | nil => exact finite
  | cons entry rest ih => exact ih (finite.setNumber entry.2 (written entry.1))

theorem isFinite_of_readOutput (finite : sheet.Finite) {address : Address} {output : Output}
    (ok : readOutput sheet address = .ok output) {value : Binary64}
    (held : output.value = .ok value) : value.isFinite = true := by
  unfold readOutput at ok
  split at ok
  · next text cached found =>
    dsimp only at ok
    obtain ⟨outcome, tells, rfl⟩ := exists_of_map ok
    dsimp only at held
    subst held
    unfold Formula.told at tells
    split at tells
    · next result evaluated =>
      obtain rfl := Except.ok.inj (Except.ok.inj tells)
      exact Formula.isFinite_of_evaluateFormula evaluated
    · obtain ⟨message, _, same⟩ := exists_of_map tells
      cases same
  · split at ok
    · next number stands =>
      obtain rfl := Except.ok.inj ok
      obtain rfl := Except.ok.inj held
      exact finite _ _ stands
    · obtain rfl := Except.ok.inj ok
      cases held

end

namespace Template

variable {template : Template} {result : PriceResult}

theorem rejected_or_priced_of_price {sheet : Worksheet} (finite : sheet.Finite)
    {values : PerDimension Binary64} (written : ∀ dimension, (values.get dimension).isFinite = true)
    (ok : template.price sheet values = .ok result) : result.Rejected ∨ result.Priced := by
  obtain ⟨output, read, ok⟩ := ok_of_bind ok
  have read := ok_of_mapError read
  dsimp only at ok
  split at ok
  · next price calculated =>
    obtain rfl := Except.ok.inj ok
    obtain ⟨value, held, isPrice⟩ := ok_of_bind calculated
    have inRange := isFinite_of_readOutput (finite.writeInputs _ written) read held
    exact .inr ⟨price, isPrice_of_priceOf inRange isPrice, rfl, rfl, rfl⟩
  · obtain rfl := Except.ok.inj ok
    exact .inl (CalculationRecord.rejected_rejected rfl rfl _)

/-- Whatever a calculation gives, its record names the workbook, the worksheet and the price cell. -/
theorem record_of_calculate {inputs : PerDimension (Option RawInput)}
    (ok : template.calculate inputs = .ok result) :
    result.record.templateHash = some template.workbook.hash ∧
      result.record.sheetName = template.config.sheetName ∧
      result.record.outputCell = template.config.priceCell := by
  unfold calculate at ok
  split at ok
  · obtain rfl := Except.ok.inj ok
    exact ⟨rfl, rfl, rfl⟩
  split at ok
  · cases ok
  · obtain rfl := Except.ok.inj ok
    exact ⟨rfl, rfl, rfl⟩
  split at ok
  · obtain rfl := Except.ok.inj ok
    exact ⟨rfl, rfl, rfl⟩
  · obtain ⟨output, _, ok⟩ := ok_of_bind ok
    dsimp only at ok
    split at ok
    · obtain rfl := Except.ok.inj ok
      exact ⟨rfl, rfl, rfl⟩
    · obtain rfl := Except.ok.inj ok
      exact ⟨rfl, rfl, rfl⟩

theorem rejected_or_priced_of_calculate (built : template.workbook.Built)
    {inputs : PerDimension (Option RawInput)} (ok : template.calculate inputs = .ok result) :
    result.Rejected ∨ result.Priced := by
  have rejected (reason : String) : (template.record.rejected reason).Rejected :=
    CalculationRecord.rejected_rejected rfl rfl reason
  unfold calculate at ok
  split at ok
  · obtain rfl := Except.ok.inj ok
    exact .inl (rejected _)
  split at ok
  · cases ok
  · obtain rfl := Except.ok.inj ok
    exact .inl (rejected _)
  · next values dimensions =>
    split at ok
    · obtain rfl := Except.ok.inj ok
      exact .inl (rejected _)
    · next sheet found =>
      exact rejected_or_priced_of_price (built.sheet found).finite
        (isFinite_of_readDimensions dimensions) ok

/-- A price depends on nothing of a template but its workbook, its worksheet and its cells. -/
theorem calculate_congr {other : Template} (workbook : template.workbook = other.workbook)
    (sheet : template.config.sheetName = other.config.sheetName)
    (cells : template.config.inputCells = other.config.inputCells)
    (price : template.config.priceCell = other.config.priceCell)
    (inputs : PerDimension (Option RawInput)) : template.calculate inputs = other.calculate inputs := by
  have record : template.record = other.record := by
    rw [record, Template.record, workbook, sheet, price]
  simp only [calculate, Template.price, record, workbook, sheet, cells, price]

end Template

/-- A source all of whose workbooks are built. -/
def Source.Built {ε σ : Type} (source : Source ε σ) : Prop :=
  ∀ config state workbook after, (source.workbook config).on state = (.ok workbook, after) →
    workbook.Built

namespace Session

variable {ε σ : Type} {source : Option (Source ε σ)} {state : Session × σ}

theorem built_of_fetch {source : Source ε σ} (built : source.Built) {template : Template}
    (ok : ((fetch source).on state).1 = .ok (some template)) : template.workbook.Built := by
  obtain ⟨_, _, _, ok⟩ := Action.exists_of_on_bind ok
  obtain ⟨config, _, _, ok⟩ := Action.exists_of_on_bind ok
  cases config with
  | none => cases ok
  | some config =>
    obtain ⟨workbook, _, given, ok⟩ := Action.exists_of_on_bind ok
    obtain ⟨_, _, _, ok⟩ := Action.exists_of_on_bind ok
    obtain rfl := Option.some.inj (Except.ok.inj ok)
    exact built _ _ _ _ given

/-- A template that is held or loaded has a built workbook. -/
theorem built_of_load (held : ∀ template ∈ state.1.template, template.workbook.Built)
    (sources : ∀ given ∈ source, given.Built) {template : Template}
    (ok : ((load source).on state).1 = .ok (some template)) : template.workbook.Built := by
  obtain ⟨current, _, read, ok⟩ := Action.exists_of_on_bind ok
  obtain ⟨same, rfl⟩ := Prod.mk.inj read
  obtain rfl := Except.ok.inj same
  cases present : state.1.template with
  | some kept =>
    rw [present] at ok
    obtain rfl := Option.some.inj (Except.ok.inj ok)
    exact held _ present
  | none =>
    rw [present] at ok
    cases source with
    | none => cases ok
    | some given => exact built_of_fetch (sources given rfl) ok

theorem on_load_of_held {template : Template} (held : state.1.template = some template) :
    (load source).on state = (.ok (some template), state) := by
  unfold load
  rw [Action.on_bind, Action.on_get]
  dsimp only
  rw [held]
  rfl

/-- With a template that is held nothing is loaded. -/
theorem on_calculate_of_held {template : Template} {inputs : PerDimension (Option RawInput)}
    {result : PriceResult} (held : state.1.template = some template)
    (ok : template.calculate inputs = .ok result) :
    (calculate source inputs).on state = (.ok result, state) := by
  unfold calculate
  rw [Action.on_bind, Action.on_attempt, on_load_of_held held]
  dsimp only
  rw [ok]
  rfl

/-- Whenever a calculation gives a result, either there is no price and one error, or there is a
price and no error, and not both. -/
theorem calculate_rejected_xor_priced
    (held : ∀ template ∈ state.1.template, template.workbook.Built)
    (sources : ∀ given ∈ source, given.Built) {inputs : PerDimension (Option RawInput)}
    {result : PriceResult} {after : Session × σ}
    (ok : (calculate source inputs).on state = (.ok result, after)) :
    Xor result.Rejected result.Priced := by
  have either : result.Rejected ∨ result.Priced := by
    have rejected (reason : String) : (CalculationRecord.empty.rejected reason).Rejected :=
      CalculationRecord.rejected_rejected rfl rfl reason
    obtain ⟨outcome, _, loaded, ok⟩ := Action.exists_of_on_bind (congrArg Prod.fst ok)
    rw [Action.on_attempt] at loaded
    obtain rfl := Except.ok.inj (Prod.mk.inj loaded).1
    split at ok
    · obtain rfl := Except.ok.inj ok
      exact .inl (rejected _)
    · cases ok
    · obtain rfl := Except.ok.inj ok
      exact .inl (rejected _)
    · next template found =>
      split at ok
      · next priced calculated =>
        obtain rfl := Except.ok.inj ok
        exact Template.rejected_or_priced_of_calculate (built_of_load held sources found) calculated
      · cases ok
  rcases either with rejected | priced
  · exact .inl ⟨rejected, rejected.not_priced⟩
  · exact .inr ⟨priced, fun rejected => rejected.not_priced priced⟩

/-- A template with a rate for the weight and a minimum. -/
def rateTemplate : Template :=
  let sheet : Worksheet := ⟨"Prices", .ofList [("A5", .formula "=MAX(A4*0.85, 45)" none)]⟩
  ⟨⟨"", "", "Prices", PricingConfig.defaultCells, "A5", none⟩, ⟨[sheet], ""⟩⟩

/-- The inputs of a part of 61 kilograms. -/
def partInputs : PerDimension (Option RawInput) :=
  ⟨some (.integer 1000), some (.integer 500), some (.text "250,5"), some (.integer 61)⟩

theorem built_rateTemplate : rateTemplate.workbook.Built := by
  intro sheet member address cell found
  obtain rfl := List.mem_singleton.mp member
  have found : (Table.put .empty "A5" (Cell.formula "=MAX(A4*0.85, 45)" none)).get? address
    = some cell := found
  rw [Table.get?_put] at found
  split at found
  · obtain rfl := Option.some.inj found
    exact ⟨.text "=MAX(A4*0.85, 45)", .blank, rfl⟩
  · cases found

theorem calculate_rejected_xor_priced_of_rate :
    ∃ result, (calculate (none : Option (Source Unit Unit)) partInputs).on
        (⟨some rateTemplate, 0⟩, ()) = (.ok result, ⟨some rateTemplate, 0⟩, ()) ∧
      result.price = some (Decimal.toBinary64 ⟨false, 5185, -2⟩) ∧
      Xor result.Rejected result.Priced := by
  have price : (rateTemplate.calculate partInputs).map (·.price)
      = .ok (some (Decimal.toBinary64 ⟨false, 5185, -2⟩)) := by decide +kernel
  obtain ⟨result, calculated, price⟩ := exists_of_map price
  have ok : (calculate (none : Option (Source Unit Unit)) partInputs).on
      (⟨some rateTemplate, 0⟩, ()) = (.ok result, ⟨some rateTemplate, 0⟩, ()) :=
    on_calculate_of_held rfl calculated
  refine ⟨result, ok, price, calculate_rejected_xor_priced ?_ ?_ ok⟩
  · intro template held
    obtain rfl := Option.some.inj held
    exact built_rateTemplate
  · intro given absent
    cases absent

end Session
end SheetPricing
