import SheetPricing.Decimal.Layout
import SheetPricing.Decimal.NumeralForm
import SheetPricing.Proofs.Binary64.Shortest
import SheetPricing.Proofs.Formula.Spelling

/-! Numbers that are written and read again. However the shortest decimal of a number is laid out, it is
read as a decimal of the same value, and so as the number. -/
namespace SheetPricing.Numeral
open Text (isPlainDigit isNumberBlank)

/-- The number that digits are written for. -/
def valueOf (digits : List Char) : Nat := ofDigits (digits.map fun c => c.toNat - '0'.toNat)

section
variable {before after digits scale cs : List Char} {exponent : Int} {n : Nat} {d : Decimal}

theorem valueOf_append (before after : List Char) :
    valueOf (before ++ after) = valueOf before * 10 ^ after.length + valueOf after := by
  have shift (start : Nat) (digits : List Nat) :
      digits.foldl (fun value digit => 10 * value + digit) start
        = start * 10 ^ digits.length + ofDigits digits := by
    rw [ofDigits]
    induction digits generalizing start with
    | nil => simp
    | cons digit digits ih =>
      rw [List.foldl_cons, List.foldl_cons, ih, ih (10 * 0 + digit), List.length_cons, Nat.pow_succ]
      ring
  rw [valueOf, List.map_append, ofDigits, List.foldl_append, ← ofDigits, shift, List.length_map]
  rfl

theorem valueOf_replicate (k : Nat) : valueOf (List.replicate k '0') = 0 := by
  induction k with
  | zero => rfl
  | succ k ih =>
    rw [List.replicate_succ', valueOf_append, ih]
    decide

theorem valueOf_toDigits (n : Nat) : valueOf (Nat.toDigits 10 n) = n := by
  have digit : ∀ n < 10, valueOf [Nat.digitChar n] = n := by decide
  induction n using Nat.strongRecOn with
  | ind n ih =>
    rw [Nat.toDigits_eq_if (by decide)]
    split
    · next small => exact digit n small
    · next large =>
      rw [valueOf_append, ih (n / 10) (by omega), digit (n % 10) (Nat.mod_lt n (by decide))]
      simp only [List.length_singleton, Nat.pow_one]
      omega

/-- An exponent, with its text. -/
inductive Exponent : List Char → Int → Prop where
  | none : Exponent [] 0
  | above {digits : List Char} (any : digits ≠ []) (all : ∀ c ∈ digits, isPlainDigit c = true) :
      Exponent ('e' :: '+' :: digits) (valueOf digits)
  | below {digits : List Char} (any : digits ≠ []) (all : ∀ c ∈ digits, isPlainDigit c = true) :
      Exponent ('e' :: '-' :: digits) (-(valueOf digits : Int))

/-- A decimal without a sign, with its text. -/
inductive Spells : List Char → Decimal → Prop where
  | whole {digits scale : List Char} {exponent : Int} (any : digits ≠ [])
      (all : ∀ c ∈ digits, isPlainDigit c = true) (scaled : Exponent scale exponent) :
      Spells (digits ++ scale) ⟨false, valueOf digits, exponent⟩
  | pointed {before after scale : List Char} {exponent : Int} (any : before ≠ [])
      (left : ∀ c ∈ before, isPlainDigit c = true) (right : ∀ c ∈ after, isPlainDigit c = true)
      (scaled : Exponent scale exponent) :
      Spells (before ++ '.' :: (after ++ scale))
        ⟨false, valueOf (before ++ after), exponent - after.length⟩

theorem takeDigits_eq (all : ∀ c ∈ digits, isPlainDigit c = true) :
    takeDigits digits = (digits.map fun c => c.toNat - '0'.toNat, []) := by
  have taken : takeDigits (digits ++ []) = _ := takeDigits_append all nofun
  rwa [List.append_nil] at taken

theorem takeSign_cons {c : Char} (plain : isPlainDigit c = true) (rest : List Char) :
    takeSign (c :: rest) = (false, c :: rest) := by
  unfold takeSign
  split
  · next same => cases same; cases plain
  · next same => cases same; cases plain
  · rfl

theorem Exponent.exponent? (scaled : Exponent scale exponent) :
    Numeral.exponent? scale = some exponent := by
  cases scaled with
  | none => rfl
  | above any all =>
    obtain ⟨c, rest, rfl⟩ := List.exists_cons_of_ne_nil any
    simp [Numeral.exponent?, takeSign, takeDigits_eq all, valueOf]
  | below any all =>
    obtain ⟨c, rest, rfl⟩ := List.exists_cons_of_ne_nil any
    simp [Numeral.exponent?, takeSign, takeDigits_eq all, valueOf]

theorem Exponent.stops (scaled : Exponent scale exponent) :
    ∀ c ∈ scale.head?, isPlainDigit c = false ∧ c ≠ '.' := by
  cases scaled with
  | none => nofun
  | above => rintro _ ⟨⟩; decide
  | below => rintro _ ⟨⟩; decide

theorem Spells.decimal? (spells : Spells cs d) : Numeral.decimal? cs = some d := by
  cases spells with
  | @whole digits scale exponent any all scaled =>
    have stops := scaled.stops
    obtain ⟨c, rest, rfl⟩ := List.exists_cons_of_ne_nil any
    have unsigned : takeSign (c :: rest ++ scale) = (false, c :: rest ++ scale) :=
      takeSign_cons (all c List.mem_cons_self) _
    have fractionless : takeFraction scale = ([], scale) := by
      unfold takeFraction
      split
      · exact absurd rfl (stops '.' rfl).2
      · rfl
    rw [Numeral.decimal?, unsigned]
    dsimp only
    rw [takeDigits_append all fun c head => (stops c head).1]
    dsimp only
    rw [fractionless, scaled.exponent?]
    simp [valueOf]
  | @pointed before after scale exponent any left right scaled =>
    obtain ⟨c, rest, rfl⟩ := List.exists_cons_of_ne_nil any
    have unsigned : takeSign (c :: rest ++ '.' :: (after ++ scale))
        = (false, c :: rest ++ '.' :: (after ++ scale)) := takeSign_cons (left c List.mem_cons_self) _
    have fraction : takeFraction ('.' :: (after ++ scale)) = _ :=
      takeDigits_append right fun c head => (scaled.stops c head).1
    rw [Numeral.decimal?, unsigned]
    dsimp only
    rw [takeDigits_append left (by rintro _ ⟨⟩; decide)]
    dsimp only
    rw [fraction, scaled.exponent?]
    simp [valueOf]

theorem Exponent.mem_or_digit {c : Char} (scaled : Exponent scale exponent) (inside : c ∈ scale) :
    c ∈ ['.', 'e', '+', '-'] ∨ isPlainDigit c = true := by
  cases scaled with
  | none => cases inside
  | above any all =>
    rcases inside with _ | ⟨_, _ | ⟨_, inside⟩⟩
    · exact .inl (by decide)
    · exact .inl (by decide)
    · exact .inr (all c inside)
  | below any all =>
    rcases inside with _ | ⟨_, _ | ⟨_, inside⟩⟩
    · exact .inl (by decide)
    · exact .inl (by decide)
    · exact .inr (all c inside)

theorem Spells.mem_or_digit {c : Char} (spells : Spells cs d) (inside : c ∈ cs) :
    c ∈ ['.', 'e', '+', '-'] ∨ isPlainDigit c = true := by
  cases spells with
  | whole any all scaled =>
    rcases List.mem_append.mp inside with digit | late
    · exact .inr (all c digit)
    · exact scaled.mem_or_digit late
  | pointed any left right scaled =>
    rcases List.mem_append.mp inside with digit | late
    · exact .inr (left c digit)
    rcases List.mem_cons.mp late with rfl | late
    · exact .inl (by decide)
    rcases List.mem_append.mp late with digit | late
    · exact .inr (right c digit)
    · exact scaled.mem_or_digit late

theorem Spells.head (spells : Spells cs d) :
    ∃ c others, cs = c :: others ∧ isPlainDigit c = true := by
  cases spells with
  | whole any all scaled =>
    obtain ⟨c, others, rfl⟩ := List.exists_cons_of_ne_nil any
    exact ⟨c, _, rfl, all c List.mem_cons_self⟩
  | pointed any left right scaled =>
    obtain ⟨c, others, rfl⟩ := List.exists_cons_of_ne_nil any
    exact ⟨c, _, rfl, left c List.mem_cons_self⟩

/-- What spells a decimal is read as the number nearest to it. -/
theorem Spells.read? (spells : Spells cs d) :
    Numeral.read? (String.ofList cs) = some d.toBinary64 := by
  have kind {c : Char} (inside : c ∈ cs) :
      c.toNat < 128 ∧ isNumberBlank c = false ∧ c ≠ '_' := by
    rcases spells.mem_or_digit inside with mark | digit
    · have each : (['.', 'e', '+', '-'].all fun c =>
          decide (c.toNat < 128 ∧ isNumberBlank c = false ∧ c ≠ '_')) = true := by decide
      exact of_decide_eq_true (List.all_eq_true.mp each c mark)
    · refine ⟨?_, of_isPlainDigit digit⟩
      exact Formula.of_plain (P := fun c => c.toNat < 128) (by decide) (.inr digit)
  have plain : plain? cs = some cs := by
    rw [plain?, if_pos (List.all_eq_true.mpr fun c inside => decide_eq_true (kind inside).1)]
  have trimmed : Text.trimList isNumberBlank cs = cs :=
    Text.trimList_eq_self fun c inside => (kind inside).2.1
  have joined := joinDigits?_eq_self (fun inside => (kind (c := '_') inside).2.2 rfl) none
  simp only [Numeral.read?, String.toList_ofList, plain, Option.bind_eq_bind, Option.bind_some,
    trimmed, joined, spells.decimal?]

end
end SheetPricing.Numeral

namespace SheetPricing.NumberLayout
open Decimal Numeral
open Address (isPlainDigit_toDigits toList_toString)
open Text (isPlainDigit)

variable {digits : List Char} {exponent place : Int}

theorem toList_zeros (count : Nat) :
    (zeros count).toList = List.replicate count '0' := String.toList_ofList

theorem isPlainDigit_replicate {count : Nat} {c : Char} (inside : c ∈ List.replicate count '0') :
    isPlainDigit c = true := by
  rw [List.eq_of_mem_replicate inside]
  decide

theorem exponent_exponentText (place : Int) :
    Exponent (amount.exponentText place).toList place := by
  let size := Nat.toDigits 10 place.natAbs
  let padding := List.replicate (2 - (toString place.natAbs).length) '0'
  have any : padding ++ size ≠ [] := by
    simp [size, Nat.toDigits_ne_nil]
  have all : ∀ c ∈ padding ++ size, isPlainDigit c = true := by
    intro c inside
    rcases List.mem_append.mp inside with zero | digit
    · exact isPlainDigit_replicate zero
    · exact isPlainDigit_toDigits digit
  have value : valueOf (padding ++ size) = place.natAbs := by
    rw [valueOf_append, valueOf_replicate, valueOf_toDigits, Nat.zero_mul, Nat.zero_add]
  have text : (amount.exponentText place).toList
      = 'e' :: (if place < 0 then '-' else '+') :: (padding ++ size) := by
    simp only [exponentText, String.toList_append, toList_zeros, toList_toString]
    split <;> rfl
  rw [text]
  split
  · next below =>
    have scaled := Exponent.below any all
    rwa [value, show -(place.natAbs : Int) = place by omega] at scaled
  · next above =>
    have scaled := Exponent.above any all
    rwa [value, show (place.natAbs : Int) = place by omega] at scaled

theorem spells_scientific (any : digits ≠ []) (all : ∀ c ∈ digits, isPlainDigit c = true)
    (place : Int) : Spells (amount.scientific digits place).toList
      ⟨false, valueOf digits, place + 1 - digits.length⟩ := by
  obtain ⟨first, others, rfl⟩ := List.exists_cons_of_ne_nil any
  have scaled := exponent_exponentText place
  have here : ∀ c ∈ [first], isPlainDigit c = true := by simp [all]
  have right : ∀ c ∈ others, isPlainDigit c = true :=
    fun c inside => all c (List.mem_cons_of_mem _ inside)
  cases others with
  | nil =>
    have spells := Spells.whole (List.cons_ne_nil first []) here scaled
    simpa [scientific] using spells
  | cons second others =>
    have spells := Spells.pointed (List.cons_ne_nil first []) here right scaled
    rw [show place + 1 - (first :: second :: others).length = place - (second :: others).length by
      simp only [List.length_cons]; omega]
    simpa [scientific] using spells

theorem isPlainDigit_padded {count : Nat} {c : Char} (all : ∀ c ∈ digits, isPlainDigit c = true)
    (inside : c ∈ digits ∨ c ∈ List.replicate count '0') : isPlainDigit c = true :=
  inside.elim (all c) isPlainDigit_replicate

/-- All digits stand behind the point, perhaps with zeros before them. -/
theorem spells_fraction (all : ∀ c ∈ digits, isPlainDigit c = true) (count : Nat) :
    Spells ("0." ++ zeros count ++ String.ofList digits).toList
      ⟨false, valueOf digits, -(count : Int) - digits.length⟩ := by
  have right : ∀ c ∈ List.replicate count '0' ++ digits, isPlainDigit c = true := fun c inside =>
    isPlainDigit_padded all (List.mem_append.mp inside).symm
  have value : valueOf (['0'] ++ (List.replicate count '0' ++ digits)) = valueOf digits := by
    rw [← List.append_assoc, valueOf_append, List.singleton_append, ← List.replicate_succ,
      valueOf_replicate, Nat.zero_mul, Nat.zero_add]
  have text : ("0." ++ zeros count ++ String.ofList digits).toList
      = ['0'] ++ '.' :: ((List.replicate count '0' ++ digits) ++ []) := by
    simp [toList_zeros]
  have spells := Spells.pointed (List.cons_ne_nil '0' []) (List.forall_mem_singleton.mpr (by decide))
    right .none
  rw [value, List.length_append, List.length_replicate, ← text] at spells
  rwa [show -(count : Int) - digits.length = 0 - (count + digits.length : Nat) by omega]

/-- All digits stand before the point, perhaps with zeros behind them. -/
theorem spells_whole (any : digits ≠ []) (all : ∀ c ∈ digits, isPlainDigit c = true) (count : Nat) :
    ∃ d, Spells (String.ofList digits ++ zeros count ++ amount.wholeMark).toList d ∧
      d.toBinary64 = Decimal.toBinary64 ⟨false, valueOf digits, count⟩ := by
  have before : ∀ c ∈ digits ++ List.replicate count '0', isPlainDigit c = true := fun c inside =>
    isPlainDigit_padded all (List.mem_append.mp inside)
  have value : valueOf (digits ++ List.replicate count '0' ++ ['0'])
      = valueOf digits * 10 ^ (count + 1) := by
    rw [List.append_assoc, ← List.replicate_succ', valueOf_append, valueOf_replicate,
      List.length_replicate, Nat.add_zero]
  have text : (String.ofList digits ++ zeros count ++ amount.wholeMark).toList
      = (digits ++ List.replicate count '0') ++ '.' :: (['0'] ++ []) := by
    simp [toList_zeros, amount]
  rw [text]
  refine ⟨_, .pointed (by simp [any]) before (List.forall_mem_singleton.mpr (by decide)) .none, ?_⟩
  rw [toBinary64_eq_nearest, toBinary64_eq_nearest, value, size_mul_pow]
  congr 2
  simp only [List.length_singleton]
  omega

/-- The point stands among the digits. -/
theorem spells_between (all : ∀ c ∈ digits, isPlainDigit c = true) {whole : Nat} (some : 0 < whole)
    (short : whole < digits.length) :
    Spells (String.ofList (digits.take whole) ++ ("." ++ String.ofList (digits.drop whole))).toList
      ⟨false, valueOf digits, whole - digits.length⟩ := by
  have left : ∀ c ∈ digits.take whole, isPlainDigit c = true :=
    fun c inside => all c (List.mem_of_mem_take inside)
  have right : ∀ c ∈ digits.drop whole, isPlainDigit c = true :=
    fun c inside => all c (List.mem_of_mem_drop inside)
  have before : digits.take whole ≠ [] := by
    rw [← List.length_pos_iff, List.length_take]
    omega
  have text : (String.ofList (digits.take whole) ++ ("." ++ String.ofList (digits.drop whole))).toList
      = digits.take whole ++ '.' :: (digits.drop whole ++ []) := by
    simp
  have spells := Spells.pointed before left right .none
  rw [List.take_append_drop, List.length_drop, ← text] at spells
  rwa [show (whole : Int) - digits.length = 0 - (digits.length - whole : Nat) by omega]

theorem spells_positional (any : digits ≠ []) (all : ∀ c ∈ digits, isPlainDigit c = true)
    (whole : Int) :
    ∃ d, Spells (amount.positional digits whole).toList d ∧
      d.toBinary64 = Decimal.toBinary64 ⟨false, valueOf digits, whole - digits.length⟩ := by
  rw [positional]
  split
  · next small =>
    rw [show whole - digits.length = -(whole.natAbs : Int) - digits.length by omega]
    exact ⟨_, spells_fraction all whole.natAbs, rfl⟩
  · next large =>
    dsimp only
    by_cases short : digits.length ≤ whole.toNat
    · rw [List.take_of_length_le short, List.drop_eq_nil_of_le short, List.isEmpty_nil, if_pos rfl,
        show whole - digits.length = (whole.toNat - digits.length : Nat) by omega]
      exact spells_whole any all _
    · have after : (digits.drop whole.toNat).isEmpty = false := by
        rw [List.isEmpty_eq_false_iff, Ne, List.drop_eq_nil_iff]
        exact short
      have none : zeros (whole.toNat - digits.length) = "" := by
        rw [Nat.sub_eq_zero_of_le (Nat.le_of_not_le short)]
        rfl
      have spells := spells_between all (show 0 < whole.toNat by omega) (Nat.lt_of_not_le short)
      rw [after, if_neg Bool.false_ne_true, none, String.append_empty,
        show whole - digits.length = (whole.toNat : Int) - digits.length by omega]
      exact ⟨_, spells, rfl⟩

/-- However a decimal is laid out, a decimal of the same value is spelled. -/
theorem spells_write {d : Decimal} (unsigned : d.negative = false)
    (zero : d.coefficient = 0 → d.exponent = 0) :
    ∃ other, Spells (amount.write d).toList other ∧
      other.toBinary64 = d.toBinary64 := by
  obtain ⟨_, coefficient, exponent⟩ := d
  obtain rfl := unsigned
  have digits := toList_toString coefficient
  have any : Nat.toDigits 10 coefficient ≠ [] := Nat.toDigits_ne_nil
  have all : ∀ c ∈ Nat.toDigits 10 coefficient, isPlainDigit c = true :=
    fun c inside => isPlainDigit_toDigits inside
  have value := valueOf_toDigits coefficient
  have place : (if coefficient = 0 then 0
      else exponent + ((Nat.toDigits 10 coefficient).length : Int) - 1)
        = exponent + (Nat.toDigits 10 coefficient).length - 1 := by
    split
    · next none =>
      obtain rfl : exponent = 0 := zero none
      rw [none]
      rfl
    · rfl
  simp only [write, digits, place, Bool.false_eq_true, if_false]
  split
  · obtain ⟨other, spells, same⟩ := spells_positional any all
      (exponent + (Nat.toDigits 10 coefficient).length - 1 + 1)
    refine ⟨other, spells, same.trans (congrArg Decimal.toBinary64 ?_)⟩
    rw [value]
    congr 1
    omega
  · refine ⟨_, spells_scientific any all _, congrArg Decimal.toBinary64 ?_⟩
    rw [value]
    congr 1
    omega

end SheetPricing.NumberLayout

namespace SheetPricing.Binary64

/-- A finite number without a sign is read back from its text. -/
theorem spells_text (units : Nat) (fits : Representable units) :
    ∃ d, Numeral.Spells (finite false units fits).text.toList d ∧
      d.toBinary64 = .finite false units fits := by
  have shape : (shortest false units).negative = false ∧
      ((shortest false units).coefficient = 0 →
        (shortest false units).exponent = 0) := by
    rcases Nat.eq_zero_or_pos units with rfl | positive
    · exact ⟨rfl, fun _ => rfl⟩
    · obtain ⟨c, e, written, reads, _⟩ := shortest_spec positive fits.1 false
      rw [written]
      exact ⟨rfl, fun none => absurd none (pos_of_readsBack positive fits.1 reads).ne'⟩
  obtain ⟨d, spells, same⟩ := NumberLayout.spells_write shape.1 shape.2
  exact ⟨d, spells, same.trans (toBinary64_shortest false units fits)⟩

end SheetPricing.Binary64
