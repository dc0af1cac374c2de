import SheetPricing.Pricing.Config
import SheetPricing.Proofs.Outcome
import SheetPricing.Proofs.Workbook.Address

/-! A configuration that was accepted is accepted again as it is: the addresses that a check gives
are already trimmed and capitalized. Only the worksheet and the cells count for that, so a
configuration with another reference, file name and digest is accepted as well. -/
namespace SheetPricing.Schema.Checked
variable {α β : Type}

theorem ok_of_apply {f : Checked (α → β)} {x : Checked α} {result : β}
    (ok : apply f x = .ok result) : ∃ change value, f = .ok change ∧ x = .ok value ∧
      result = change value := by
  rcases f with problems | change <;> rcases x with more | value
  · cases ok
  · cases ok
  · cases ok
  · exact ⟨change, value, rfl, rfl, (Except.ok.inj ok).symm⟩

end SheetPricing.Schema.Checked

namespace SheetPricing.Schema
variable {α : Type} {fields : Fields} {name : String} {value : α}
  {check : Json → Except FieldProblem α}

theorem ok_of_required (ok : required fields name check = .ok value) :
    ∃ given, check given = .ok value := by
  rw [required] at ok
  split at ok
  · cases ok
  · next given _ => exact ⟨given, ok_of_mapError ok⟩

theorem ok_of_optional {default : α} (ok : optional fields name default check = .ok value) :
    value = default ∨ ∃ given, check given = .ok value := by
  rw [optional] at ok
  split at ok
  · exact .inl (Except.ok.inj ok).symm
  · next given _ => exact .inr ⟨given, ok_of_mapError ok⟩

end SheetPricing.Schema

namespace SheetPricing.PricingConfig
open Schema

/-- What a check asks of a configuration: addresses in their one form, and a worksheet. -/
structure Accepted (config : PricingConfig) : Prop where
  cells : ∀ dimension, Address.normalize (config.inputCells.get dimension)
    = .ok (config.inputCells.get dimension)
  price : Address.normalize config.priceCell = .ok config.priceCell
  sheet : (Text.trim config.sheetName).isEmpty = false

theorem normalize_of_asAddress {given : Json} {address : Address}
    (ok : asAddress given = .ok address) : Address.normalize address = .ok address := by
  rw [asAddress.eq_def] at ok
  split at ok
  · exact Address.normalize_of_normalize (ok_of_mapError ok)
  · split at ok <;> cases ok

theorem accepted_of_ofFields {fields : Fields} {config : PricingConfig}
    (ok : ofFields fields = .ok config) : config.Accepted := by
  have address {name : String} {default value : Address}
      (plain : Address.normalize default = .ok default)
      (ok : optional fields name default asAddress = .ok value) :
      Address.normalize value = .ok value := by
    rcases ok_of_optional ok with rfl | ⟨given, checked⟩
    · exact plain
    · exact normalize_of_asAddress checked
  obtain ⟨_, hash, hashed, _, rfl⟩ := Checked.ok_of_apply (ok_of_mapError ok)
  obtain ⟨_, price, upToPrice, priced, rfl⟩ := Checked.ok_of_apply hashed
  obtain ⟨_, weight, upToWeight, weighed, rfl⟩ := Checked.ok_of_apply upToPrice
  obtain ⟨_, height, upToHeight, high, rfl⟩ := Checked.ok_of_apply upToWeight
  obtain ⟨_, width, upToWidth, wide, rfl⟩ := Checked.ok_of_apply upToHeight
  obtain ⟨_, length, upToLength, long, rfl⟩ := Checked.ok_of_apply upToWidth
  obtain ⟨_, sheet, upToSheet, named, rfl⟩ := Checked.ok_of_apply upToLength
  obtain ⟨_, fileName, upToFile, _, rfl⟩ := Checked.ok_of_apply upToSheet
  obtain ⟨_, ref, whole, _, rfl⟩ := Checked.ok_of_apply upToFile
  obtain rfl := Except.ok.inj whole
  refine ⟨fun dimension => ?_, address (by decide) priced, ?_⟩
  · cases dimension with
    | length => exact address (by decide) long
    | width => exact address (by decide) wide
    | height => exact address (by decide) high
    | weight => exact address (by decide) weighed
  · obtain ⟨given, named⟩ := ok_of_required named
    obtain ⟨name, _, checked⟩ := ok_of_bind named
    split at checked
    · cases checked
    · next notBlank =>
      obtain rfl := Except.ok.inj checked
      exact eq_false_of_ne_true notBlank

/-- An accepted configuration is read back from its own fields. -/
theorem Accepted.ofFields_fields {config : PricingConfig} (accepted : config.Accepted) :
    ofFields config.fields = .ok config := by
  have address {text : Address} (plain : Address.normalize text = .ok text) :
      asAddress (.text text) = .ok text := by
    rw [asAddress, plain]
    rfl
  have cell (dimension : Dimension) :
      cellField config.fields dimension = .ok (config.inputCells.get dimension) := by
    have here : config.fields.lookup (dimension.name ++ "_cell")
        = some (.text (config.inputCells.get dimension)) := by
      cases dimension <;> rfl
    rw [cellField, Schema.optional, here]
    dsimp only
    rw [address (accepted.cells dimension)]
    rfl
  have price : Schema.optional config.fields "price_cell" defaultPriceCell asAddress
      = .ok config.priceCell := by
    have here : config.fields.lookup "price_cell" = some (.text config.priceCell) := rfl
    rw [Schema.optional, here]
    dsimp only
    rw [address accepted.price]
    rfl
  have sheet : required config.fields "sheet_name" asSheetName = .ok config.sheetName := by
    have here : config.fields.lookup "sheet_name" = some (.text config.sheetName) := rfl
    have named : asSheetName (.text config.sheetName) = .ok config.sheetName := by
      rw [asSheetName, asText, ok_bind, accepted.sheet]
      rfl
    rw [required, here]
    dsimp only
    rw [named]
    rfl
  have hash : Schema.optional config.fields "workbook_hash" none asOptionalText
      = .ok config.workbookHash := by
    have here : config.fields.lookup "workbook_hash" = some (.ofOption .text config.workbookHash) :=
      rfl
    rw [Schema.optional, here]
    cases config.workbookHash <;> rfl
  rw [ofFields, sheet, cell .length, cell .width, cell .height, cell .weight, price, hash]
  rfl

end SheetPricing.PricingConfig
