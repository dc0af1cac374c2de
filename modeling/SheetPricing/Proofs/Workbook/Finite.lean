import SheetPricing.Pricing.Input
import SheetPricing.Proofs.Outcome
import SheetPricing.Workbook.Basic

/-! Worksheets whose numbers are finite. What is built from the values of a file is such a
worksheet, and it stays one when finite numbers are written into it. -/
namespace SheetPricing

/-- A cell that is built from a value with its cached result. -/
def Cell.Built (cell : Cell) : Prop := ∃ value cached, Cell.ofRaw value cached = .ok cell

/-- A worksheet with built cells only. -/
def Worksheet.Built (sheet : Worksheet) : Prop :=
  ∀ address cell, sheet.cell? address = some cell → cell.Built

def Workbook.Built (workbook : Workbook) : Prop := ∀ sheet ∈ workbook.sheets, sheet.Built

/-- A worksheet on which every cell that stands for a number stands for a finite one. -/
def Worksheet.Finite (sheet : Worksheet) : Prop :=
  ∀ address value, sheet.numeric? address = some value → value.isFinite = true

/-- A worksheet whose numeric cells are finite; texts that are numerals always are. -/
def Worksheet.NumbersFinite (sheet : Worksheet) : Prop :=
  ∀ address value, sheet.cell? address = some (.number value) → value.isFinite = true

theorem isFinite_of_finite? {value number : Binary64} (held : value.finite? = some number) :
    number.isFinite = true := by
  unfold Binary64.finite? at held
  split at held
  · next finite =>
    obtain rfl := Option.some.inj held
    exact finite
  · cases held

theorem isFinite_of_ofInt? {i : Int} {number : Binary64} (ok : Binary64.ofInt? i = .ok number) :
    number.isFinite = true := by
  unfold Binary64.ofInt? at ok
  dsimp only at ok
  split at ok
  · next finite =>
    obtain rfl := Except.ok.inj ok
    exact finite
  · cases ok

namespace RawValue

theorem isFinite_of_finite? {raw : RawValue} {number : Binary64}
    (ok : raw.finite? = .ok (some number)) : number.isFinite = true := by
  cases raw with
  | integer value =>
    rw [finite?] at ok
    rcases converted : Binary64.ofInt? value with error | converted'
    · rw [converted] at ok
      cases ok
    · rw [converted] at ok
      cases ok
      exact isFinite_of_ofInt? converted
  | real value => exact SheetPricing.isFinite_of_finite? (Except.ok.inj ok)
  | blank => cases ok
  | bool => cases ok
  | text => cases ok
  | other => cases ok

theorem isFinite_of_numeral? {raw : RawValue} {number : Binary64}
    (held : raw.numeral? = some number) : number.isFinite = true := by
  cases raw with
  | text text =>
    obtain ⟨value, _, finite⟩ := Option.bind_eq_some_iff.mp held
    exact SheetPricing.isFinite_of_finite? finite
  | blank => cases held
  | bool => cases held
  | integer => cases held
  | real => cases held
  | other => cases held

end RawValue

/-- An input that can be used is finite. -/
theorem RawInput.isFinite_of_positive {field label : String} {input : RawInput} {value : Binary64}
    (ok : input.positive field label = .ok value) : value.isFinite = true := by
  obtain ⟨number, _, checked⟩ := ok_of_bind ok
  split at checked
  · next usable =>
    obtain rfl := Except.ok.inj checked
    exact (Bool.and_eq_true_iff.mp usable).1
  · cases checked

/-- A built cell stands for a finite number, if it stands for a number. -/
theorem Cell.Built.isFinite {cell : Cell} (built : cell.Built) {number : Binary64}
    (held : cell.numeric? = some number) : number.isFinite = true := by
  obtain ⟨value, cached, made⟩ := built
  unfold Cell.ofRaw at made
  cases value with
  | text text =>
    dsimp only at made
    split at made
    · obtain ⟨kept, converted, rfl⟩ := exists_of_map made
      rw [Cell.numeric?] at held
      subst held
      exact RawValue.isFinite_of_finite? converted
    · obtain rfl := Except.ok.inj made
      rw [Cell.numeric?] at held
      exact RawValue.isFinite_of_numeral? held
  | integer | real =>
    dsimp only at made
    obtain ⟨found, converted, rfl⟩ := exists_of_map made
    cases found with
    | some finite =>
      obtain rfl := Option.some.inj held
      exact RawValue.isFinite_of_finite? converted
    | none =>
      rw [Cell.numeric?] at held
      exact RawValue.isFinite_of_numeral? held
  | blank | bool | other =>
    obtain rfl := Except.ok.inj made
    cases held

namespace Worksheet

variable {sheet : Worksheet}

theorem built_empty (name : String) : Built ⟨name, .empty⟩ := by
  intro address cell held
  exact absurd held nofun

theorem Built.put (built : sheet.Built) (address : Address) {cell : Cell} (made : cell.Built) :
    (sheet.put address cell).Built := by
  intro other found held
  rw [cell?_put] at held
  split at held
  · obtain rfl := Option.some.inj held
    exact made
  · exact built other found held

theorem Built.finite (built : sheet.Built) : sheet.Finite := by
  intro address value held
  obtain ⟨cell, found, stands⟩ := Option.bind_eq_some_iff.mp held
  exact (built address cell found).isFinite stands

theorem Finite.numbersFinite (finite : sheet.Finite) : sheet.NumbersFinite := by
  intro address value held
  refine finite address value ?_
  rw [numeric?, held]
  rfl

theorem Finite.setNumber (finite : sheet.Finite) (address : Address) {value : Binary64}
    (written : value.isFinite = true) : (sheet.setNumber address value).Finite := by
  intro other number held
  rw [numeric?, Worksheet.setNumber, cell?_put] at held
  split at held
  · obtain rfl := Option.some.inj held
    exact written
  · exact finite other number held

end Worksheet

theorem Workbook.Built.sheet {workbook : Workbook} (built : workbook.Built) {name : String}
    {sheet : Worksheet} (found : workbook.sheet? name = some sheet) : sheet.Built :=
  built sheet (List.mem_of_find?_eq_some found)

end SheetPricing
