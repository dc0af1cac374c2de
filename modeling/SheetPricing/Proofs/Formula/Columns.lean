import SheetPricing.Proofs.Formula.Alone

/-! Columns by number and by letters, and corners by number and by address. Letters without a zero count
every number above zero in one way only, so a corner has a single address of its own, however else its
row may be written. -/
namespace SheetPricing.Formula
open Address (isCapital rowDigits IsShort)
open Text (digitValue? isDigit isPlainDigit)

theorem columnLetters_concat (number : Nat) {place : Nat} (small : place < 26) :
    columnLetters (26 * number + (place + 1))
      = columnLetters number ++ [Char.ofNat ('A'.toNat + place)] := by
  rw [columnLetters, if_neg (by omega)]
  congr 4 <;> omega

theorem columnNumber_columnLetters (number : Nat) : columnNumber (columnLetters number) = number := by
  have letter : ∀ place < 26, (Char.ofNat ('A'.toNat + place)).toNat - 'A'.toNat = place := by decide
  induction number using Nat.strongRecOn with
  | ind number ih =>
    rw [columnLetters]
    split
    · next none =>
      rw [none]
      rfl
    · next positive =>
      rw [columnNumber_concat, ih ((number - 1) / 26) (by omega),
        letter _ (Nat.mod_lt _ (by decide))]
      omega

theorem columnLetters_columnNumber {letters : List Char} (capital : ∀ c ∈ letters, isCapital c = true) :
    columnLetters (columnNumber letters) = letters := by
  induction letters using List.reverseRecOn with
  | nil =>
    rw [columnNumber, List.foldl_nil, columnLetters, if_pos rfl]
  | append_singleton letters c ih =>
    have last := capital c (List.mem_append_right _ List.mem_cons_self)
    obtain ⟨small, same⟩ : c.toNat - 'A'.toNat < 26 ∧ Char.ofNat ('A'.toNat + (c.toNat - 'A'.toNat)) = c :=
      of_capital (P := fun c => c.toNat - 'A'.toNat < 26 ∧
        Char.ofNat ('A'.toNat + (c.toNat - 'A'.toNat)) = c) (by decide) last
    rw [columnNumber_concat, columnLetters_concat _ small, same,
      ih fun d inside => capital d (List.mem_append_left _ inside)]

namespace Corner

/-- That an address is of a corner, by the number that its letters count and the one that its digits
write. -/
structure Names (corner : Corner) (address : Address) : Prop where
  column : columnNumber address.column = corner.column
  row : address.row? = some corner.row

variable {corner other : Corner} {address : Address}

theorem Names.unique (names : corner.Names address) (again : other.Names address) : corner = other := by
  obtain ⟨column, row⟩ := corner
  obtain ⟨columnOther, rowOther⟩ := other
  obtain rfl := names.column.symm.trans again.column
  obtain rfl := Option.some.inj (names.row.symm.trans again.row)
  rfl

theorem names_address (corner : Corner) : corner.Names corner.address := by
  obtain ⟨column, row⟩ := corner.parts_address
  exact ⟨by rw [column, columnNumber_columnLetters], Address.row?_of_rowDigits row⟩

theorem isShort_address (corner : Corner) : IsShort corner.address :=
  ⟨corner.row, corner.parts_address.2⟩

theorem address_inj : corner.address = other.address ↔ corner = other := by
  constructor
  · intro same
    exact corner.names_address.unique (same ▸ other.names_address)
  · exact congrArg Corner.address

/-- The address of a corner is the only one of it without leading zeros. -/
theorem eq_address_iff : address = corner.address ↔ corner.Names address ∧ IsShort address := by
  constructor
  · rintro rfl
    exact ⟨corner.names_address, corner.isShort_address⟩
  · rintro ⟨names, short⟩
    have capital : ∀ c ∈ address.column, isCapital c = true :=
      List.all_eq_true.mp List.all_takeWhile
    have column : address.column = corner.address.column := by
      rw [corner.parts_address.1, ← names.column, columnLetters_columnNumber capital]
    have row : ∃ number, address.row? = some number ∧ corner.address.row? = some number :=
      ⟨corner.row, names.row, corner.names_address.row⟩
    exact Address.SameCell.eq_of_isShort ⟨column, row⟩ short corner.isShort_address

end Corner

/-- The letters of a cell, and its digits of any script. -/
theorem CellText.parts {address : Address} (cell : CellText address.toList) :
    address.column ≠ [] ∧ address.column.length ≤ maxColumnLetters ∧
      rowDigits address ≠ [] ∧ ∀ c ∈ rowDigits address, isDigit c = true := by
  have apart {c : Char} (digit : isDigit c = true) : isCapital c = false :=
    of_isDigit (P := fun c => isCapital c = false) (by decide +kernel) digit
  generalize spelled : address.toList = text at cell
  obtain ⟨any, few, capital, some, numbered⟩ := cell
  have stop : Text.Lexeme.Ceases isCapital _ := fun c first =>
    apart (numbered c (List.mem_of_mem_head? first))
  rw [Address.column, rowDigits, spelled, Text.Lexeme.takeWhile_append_of_ceases capital stop,
    Text.Lexeme.dropWhile_append_of_ceases capital stop]
  exact ⟨any, few, some, numbered⟩

theorem exists_digitValues {digits : List Char} (numbered : ∀ c ∈ digits, isDigit c = true) :
    ∃ values, digits.mapM digitValue? = some values := by
  induction digits with
  | nil => exact ⟨[], rfl⟩
  | cons c rest ih =>
    obtain ⟨value, first⟩ := Option.isSome_iff_exists.mp (numbered c List.mem_cons_self)
    obtain ⟨values, others⟩ := ih fun d inside => numbered d (List.mem_cons_of_mem _ inside)
    exact ⟨value :: values, by rw [List.mapM_cons, first, others]; rfl⟩

section
variable {address : Address} {corner : Corner}

theorem exists_names (cell : CellText address.toList) : ∃ corner : Corner, corner.Names address := by
  obtain ⟨values, read⟩ := exists_digitValues cell.parts.2.2.2
  exact ⟨⟨columnNumber address.column, ofDigits values⟩, rfl, by rw [Address.row?, read]; rfl⟩

theorem ofAddress?_eq (cell : CellText address.toList) (long : (rowDigits address).length ≤ maxRowDigits)
    (names : corner.Names address) : Corner.ofAddress? address = some corner := by
  obtain ⟨any, few, some, _⟩ := cell.parts
  have letters : ¬(address.column.isEmpty || decide (maxColumnLetters < address.column.length)) = true := by
    simpa [any] using few
  have digits :
      ¬((rowDigits address).isEmpty || decide (maxRowDigits < (rowDigits address).length)) = true := by
    simpa [some] using long
  unfold Corner.ofAddress?
  rw [← Address.column, ← rowDigits]
  simp only [if_neg letters, if_neg digits]
  obtain ⟨number, read, value⟩ := Option.map_eq_some_iff.mp names.row
  rw [read, Option.map_some, names.column, value]

theorem ofAddress?_eq_none (long : maxRowDigits < (rowDigits address).length) :
    Corner.ofAddress? address = none := by
  have digits :
      ((rowDigits address).isEmpty || decide (maxRowDigits < (rowDigits address).length)) = true := by
    simp [long]
  unfold Corner.ofAddress?
  rw [← Address.column, ← rowDigits]
  simp only [if_pos digits, ite_self]

end
end SheetPricing.Formula
