import SheetPricing.Proofs.Formula.Columns
import SheetPricing.Proofs.Formula.Corners

/-! The rectangle that a range lists. Between two corners in order there are as many cells as its width
times its height, and the count with signs is that product. Each of them is listed once, in its own
spelling, row by row; between corners out of order nothing is, so a list is never too long. -/
namespace SheetPricing.Formula
open Address (rowDigits IsShort)

/-- That a corner comes earlier in a rectangle: in a row above, or further to the left. -/
def Corner.Precedes (corner later : Corner) : Prop :=
  corner.row < later.row ∨ corner.row = later.row ∧ corner.column < later.column

/-- That a text writes a corner: up to three capitals, and digits of any script that are not too
many. -/
structure Corner.WrittenAs (corner : Corner) (text : Address) : Prop where
  cell : CellText text.toList
  digits : (rowDigits text).length ≤ maxRowDigits
  names : corner.Names text

theorem Corner.WrittenAs.read {corner : Corner} {text : Address} (written : corner.WrittenAs text) :
    Corner.ofAddress? text = some corner := ofAddress?_eq written.cell written.digits written.names

namespace Range

/-- How many cells there are between two corners. -/
def size (first last : Corner) : Nat :=
  (last.column + 1 - first.column) * (last.row + 1 - first.row)

/-- That addresses are those of a rectangle, each without leading zeros, each once and row by row. -/
structure Lists (first last : Corner) (addresses : List Address) : Prop where
  each : ∀ address, address ∈ addresses ↔ IsShort address ∧
    ∃ corner : Corner, corner.Names address ∧ first.InOrder corner ∧ corner.InOrder last
  once : addresses.Nodup
  inTurn : addresses.Pairwise fun address next => ∀ corner later : Corner,
    corner.Names address → later.Names next → corner.Precedes later

variable {first last corner : Corner} {range : Range} {addresses : List Address}

theorem mem_span {first last n : Nat} : n ∈ span first last ↔ first ≤ n ∧ n ≤ last := by
  rw [span, List.mem_range'_1]
  omega

theorem pairwise_span (first last : Nat) : (span first last).Pairwise (· < ·) := by
  rw [span]
  exact List.pairwise_lt_range'

theorem cells_eq_flatMap (first last : Corner) : cells first last =
    (span first.row last.row).flatMap fun row =>
      (span first.column last.column).map fun column => ⟨column, row⟩ := by
  rw [cells]
  split
  · next none =>
    rw [List.isEmpty_iff.mp none]
    simp
  · rfl

theorem mem_cells : corner ∈ cells first last ↔ first.InOrder corner ∧ corner.InOrder last := by
  obtain ⟨column, row⟩ := corner
  simp only [cells_eq_flatMap, List.mem_flatMap, List.mem_map, mem_span, Corner.mk.injEq, Corner.InOrder]
  constructor
  · rintro ⟨_, rows, _, columns, rfl, rfl⟩
    exact ⟨⟨columns.1, rows.1⟩, columns.2, rows.2⟩
  · rintro ⟨low, high⟩
    exact ⟨row, ⟨low.2, high.2⟩, column, ⟨low.1, high.1⟩, rfl, rfl⟩

theorem length_cells (first last : Corner) : (cells first last).length = size first last := by
  rw [cells_eq_flatMap, size, List.length_flatMap]
  simp only [List.length_map, span, List.length_range', List.map_const', List.sum_replicate_nat]
  exact Nat.mul_comm _ _

theorem pairwise_cells (first last : Corner) : (cells first last).Pairwise Corner.Precedes := by
  rw [cells_eq_flatMap, List.pairwise_flatMap]
  constructor
  · intro row _
    rw [List.pairwise_map]
    exact (pairwise_span _ _).imp fun less => .inr ⟨rfl, less⟩
  · refine (pairwise_span _ _).imp fun {above below} less => ?_
    simp only [List.mem_map, forall_exists_index, and_imp]
    rintro _ column _ rfl _ later _ rfl
    exact .inl less

/-- Of two corners in order the count with signs is the size. -/
theorem count_eq_size (ordered : first.InOrder last) : count first last = size first last := by
  obtain ⟨columns, rows⟩ := ordered
  rw [count, size, Nat.cast_mul, Nat.cast_sub (by omega), Nat.cast_sub (by omega)]
  push_cast
  congr 1 <;> ring

theorem lists_cells (first last : Corner) : Lists first last ((cells first last).map Corner.address) where
  each address := by
    rw [List.mem_map]
    constructor
    · rintro ⟨corner, inside, rfl⟩
      exact ⟨corner.isShort_address, corner, corner.names_address, mem_cells.mp inside⟩
    · rintro ⟨short, corner, names, between⟩
      exact ⟨corner, mem_cells.mpr between, (Corner.eq_address_iff.mpr ⟨names, short⟩).symm⟩
  once := by
    rw [List.Nodup, List.pairwise_map]
    refine (pairwise_cells first last).imp fun {corner later} precedes same => ?_
    obtain rfl := Corner.address_inj.mp same
    rcases precedes with less | ⟨_, less⟩ <;> exact Nat.lt_irrefl _ less
  inTurn := by
    rw [List.pairwise_map]
    refine (pairwise_cells first last).imp fun precedes corner later names namesLater => ?_
    rwa [names.unique (Corner.names_address _), namesLater.unique (Corner.names_address _)]

theorem addresses_of_inOrder (written : first.WrittenAs range.first)
    (writtenLast : last.WrittenAs range.last) (ordered : first.InOrder last) :
    range.addresses = if maxCells < size first last then .error (.tooLarge (size first last))
      else .ok ((cells first last).map Corner.address) := by
  simp only [addresses, written.read, writtenLast.read, count_eq_size ordered]

theorem addresses_eq_invalid
    (long : maxRowDigits < (rowDigits range.first).length ∨ maxRowDigits < (rowDigits range.last).length) :
    range.addresses = .error .invalid := by
  rw [addresses]
  split
  · next read readLast =>
    rcases long with long | long
    · rw [ofAddress?_eq_none long] at read
      cases read
    · rw [ofAddress?_eq_none long] at readLast
      cases readLast
  · rfl

/-- Whatever is listed is not too long: corners out of order are followed by nothing. -/
theorem length_le_of_addresses (spanned : range.addresses = .ok addresses) :
    (addresses.length : Int) ≤ maxCells := by
  rw [Range.addresses] at spanned
  split at spanned
  · next first last _ _ =>
    split at spanned
    · cases spanned
    · next few =>
      obtain rfl := Except.ok.inj spanned
      rw [List.length_map]
      by_cases ordered : first.InOrder last
      · rw [length_cells, ← count_eq_size ordered]
        exact Int.not_lt.mp few
      · rw [cells_eq_nil ordered]
        decide
  · cases spanned

end Range
end SheetPricing.Formula
