import SheetPricing.Decimal.Numeral

/-!
# The form of numerals

Digits with at most one point, and perhaps an exponent behind them, are a numeral whatever scripts
the digits are of.

Main statement: `isSome_read?`.
-/
namespace SheetPricing.Numeral

open Text (digitValue? isBlank isDigit isNumberBlank isPlainDigit trimList trimList_eq_self)

/-- Digits of some kind with at most one point, which has a digit on one of its sides. -/
inductive Mantissa (digit : Char → Bool) : List Char → Prop where
  | whole {digits : List Char} (nonempty : digits ≠ []) (all : ∀ c ∈ digits, digit c = true) :
      Mantissa digit digits
  | pointed {before after : List Char} (nonempty : before ++ after ≠ [])
      (left : ∀ c ∈ before, digit c = true) (right : ∀ c ∈ after, digit c = true) :
      Mantissa digit (before ++ '.' :: after)

/-- Nothing, or an exponent with digits of some kind. -/
inductive Scale (digit : Char → Bool) : List Char → Prop where
  | none : Scale digit []
  | exponent {mark : Char} {sign digits : List Char} (marked : mark = 'e' ∨ mark = 'E')
      (signed : sign = [] ∨ sign = ['+'] ∨ sign = ['-']) (nonempty : digits ≠ [])
      (all : ∀ c ∈ digits, digit c = true) : Scale digit (mark :: (sign ++ digits))

section
variable {p q : Char → Bool} {f : Char → Char} {cs : List Char}

theorem Mantissa.map (digits : ∀ c, p c = true → q (f c) = true) (point : f '.' = '.')
    (mantissa : Mantissa p cs) : Mantissa q (cs.map f) := by
  have mapped {ds : List Char} (all : ∀ c ∈ ds, p c = true) : ∀ c ∈ ds.map f, q c = true := by
    intro c inside
    obtain ⟨d, member, rfl⟩ := List.mem_map.mp inside
    exact digits d (all d member)
  cases mantissa with
  | whole nonempty all => exact .whole (by simpa using nonempty) (mapped all)
  | pointed nonempty left right =>
    rw [List.map_append, List.map_cons, point]
    exact .pointed (by simpa using nonempty) (mapped left) (mapped right)

theorem Scale.map (digits : ∀ c, p c = true → q (f c) = true)
    (marks : ∀ c ∈ ['e', 'E', '+', '-'], f c = c) (scale : Scale p cs) : Scale q (cs.map f) := by
  cases scale with
  | none => exact .none
  | @exponent mark sign ds marked signed nonempty all =>
    have kept : f mark = mark := by rcases marked with rfl | rfl <;> exact marks _ (by simp)
    have same : sign.map f = sign := by
      rcases signed with rfl | rfl | rfl <;> simp [marks]
    rw [List.map_cons, List.map_append, kept, same]
    refine .exponent marked signed (by simpa using nonempty) fun c inside => ?_
    obtain ⟨d, member, rfl⟩ := List.mem_map.mp inside
    exact digits d (all d member)

theorem Mantissa.class_of_mem {c : Char} (mantissa : Mantissa p cs) (inside : c ∈ cs) :
    p c = true ∨ c = '.' := by
  cases mantissa with
  | whole _ all => exact .inl (all c inside)
  | pointed _ left right =>
    rcases List.mem_append.mp inside with early | late
    · exact .inl (left c early)
    · rcases List.mem_cons.mp late with rfl | late
      · exact .inr rfl
      · exact .inl (right c late)

theorem Scale.class_of_mem {c : Char} (scale : Scale p cs) (inside : c ∈ cs) :
    p c = true ∨ c ∈ ['e', 'E', '+', '-'] := by
  cases scale with
  | none => simp at inside
  | exponent marked signed _ all =>
    rcases List.mem_cons.mp inside with rfl | inside
    · rcases marked with rfl | rfl <;> simp
    · rcases List.mem_append.mp inside with inside | inside
      · rcases signed with rfl | rfl | rfl <;> simp_all
      · exact .inl (all c inside)

end

theorem takeDigits_append {digits rest : List Char} (all : ∀ c ∈ digits, isPlainDigit c = true)
    (stops : ∀ c ∈ rest.head?, isPlainDigit c = false) :
    takeDigits (digits ++ rest) = (digits.map fun c => c.toNat - '0'.toNat, rest) := by
  induction digits with
  | nil =>
    cases rest with
    | nil => rfl
    | cons c rest => simp [takeDigits, stops c rfl]
  | cons c digits ih =>
    rw [List.cons_append, takeDigits, if_pos (all c List.mem_cons_self),
      ih fun d inside => all d (List.mem_cons_of_mem c inside)]
    rfl

theorem isSome_exponent? {cs : List Char} (scale : Scale isPlainDigit cs) :
    (exponent? cs).isSome = true := by
  cases scale with
  | none => rfl
  | @exponent mark sign ds marked signed nonempty all =>
    have marked : (mark == 'e' || mark == 'E') = true := by
      rcases marked with rfl | rfl <;> rfl
    have taken : takeDigits (ds ++ []) = (ds.map fun c => c.toNat - '0'.toNat, []) :=
      takeDigits_append all (by simp)
    rw [List.append_nil] at taken
    obtain ⟨d, rest, rfl⟩ := List.exists_cons_of_ne_nil nonempty
    have signless : takeSign (d :: rest) = (false, d :: rest) := by
      have plain := all d List.mem_cons_self
      unfold takeSign
      split
      · next equal => cases equal; simp [isPlainDigit] at plain
      · next equal => cases equal; simp [isPlainDigit] at plain
      · rfl
    rcases signed with rfl | rfl | rfl
    · simp [exponent?, marked, signless, taken]
    · simp [exponent?, marked, takeSign, taken]
    · simp [exponent?, marked, takeSign, taken]

theorem isSome_decimal? {mantissa scale : List Char} (plain : Mantissa isPlainDigit mantissa)
    (scaled : Scale isPlainDigit scale) : (decimal? (mantissa ++ scale)).isSome = true := by
  have stops : ∀ c ∈ scale.head?, isPlainDigit c = false ∧ c ≠ '.' := by
    cases scaled with
    | none => simp
    | exponent marked => rcases marked with rfl | rfl <;> simp [isPlainDigit]
  have exponent := isSome_exponent? scaled
  have signless {c : Char} {rest : List Char} (plain : isPlainDigit c = true ∨ c = '.') :
      takeSign (c :: rest) = (false, c :: rest) := by
    unfold takeSign
    split
    · next equal => cases equal; simp [isPlainDigit] at plain
    · next equal => cases equal; simp [isPlainDigit] at plain
    · rfl
  have unsigned : takeSign (mantissa ++ scale) = (false, mantissa ++ scale) := by
    have nonempty : mantissa ≠ [] := by cases plain <;> simp_all
    obtain ⟨c, rest, rfl⟩ := List.exists_cons_of_ne_nil nonempty
    exact signless (plain.class_of_mem List.mem_cons_self)
  unfold decimal?
  rw [unsigned]
  cases plain with
  | whole nonempty all =>
    have fractionless : takeFraction scale = ([], scale) := by
      unfold takeFraction
      split
      · next rest => exact absurd rfl (stops '.' rfl).2
      · rfl
    simp [takeDigits_append all fun c head => (stops c head).1, fractionless, nonempty, exponent]
  | @pointed before after nonempty left right =>
    have whole : takeDigits (before ++ '.' :: (after ++ scale)) = _ :=
      takeDigits_append left (by simp [isPlainDigit])
    have fraction : takeFraction ('.' :: (after ++ scale)) = _ :=
      takeDigits_append right fun c head => (stops c head).1
    have nonempty : ¬(before = [] ∧ after = []) := by simpa using nonempty
    rw [List.append_assoc, List.cons_append]
    simp [whole, fraction, exponent, nonempty]

theorem joinDigits?_eq_self {cs : List Char} (plain : '_' ∉ cs) (before : Option Char) :
    joinDigits? before cs = some cs := by
  induction cs generalizing before with
  | nil => rfl
  | cons c rest ih =>
    have other : c ≠ '_' := fun equal => plain (equal ▸ List.mem_cons_self)
    rw [joinDigits?, ih fun inside => plain (List.mem_cons_of_mem c inside)]
    · rfl
    · exact other

/-- A character with a digit of any script as a plain one. -/
def plainForm (c : Char) : Char :=
  match digitValue? c with
  | some value => Char.ofNat ('0'.toNat + value)
  | none => c

/-- A run of digits does not reach into the blanks. -/
theorem apart_of_mem_digitZeros {start : Nat} (listed : start ∈ Text.digitZeros) :
    start = 0x30 ∨ (0xa0 < start ∧ start + 9 < 0x1680) ∨ (0x1680 < start ∧ start + 9 < 0x2000)
      ∨ 0x3000 < start := by
  have every : ∀ start ∈ Text.digitZeros.toList, start = 0x30
      ∨ (0xa0 < start ∧ start + 9 < 0x1680) ∨ (0x1680 < start ∧ start + 9 < 0x2000)
      ∨ 0x3000 < start := by decide
  exact every start (Array.mem_toList_iff.mpr listed)

theorem digitValue?_eq_some {c : Char} {value : Nat} (digit : digitValue? c = some value) :
    value ≤ 9 ∧ (c.toNat < 128 → c.toNat = 0x30 + value) ∧ (128 ≤ c.toNat → isBlank c = false) := by
  simp only [digitValue?] at digit
  split at digit
  · next small =>
    split at digit
    · next inside =>
      simp only [Bool.and_eq_true, decide_eq_true_eq, Option.some.injEq] at inside digit
      omega
    · simp at digit
  · next large =>
    obtain ⟨start, found, rfl⟩ := Option.map_eq_some_iff.mp digit
    have near := Array.find?_some found
    have apart := apart_of_mem_digitZeros (Array.mem_of_find?_eq_some found)
    simp only [Bool.and_eq_true, decide_eq_true_eq] at near
    refine ⟨by omega, fun small => by omega, fun _ => ?_⟩
    simp only [isBlank, Bool.or_eq_false_iff, Bool.and_eq_false_iff, decide_eq_false_iff_not,
      beq_eq_false_iff_ne]
    omega

theorem isPlainDigit_plainForm {c : Char} (digit : isDigit c = true) :
    isPlainDigit (plainForm c) = true := by
  obtain ⟨value, is⟩ := Option.isSome_iff_exists.mp digit
  have small := (digitValue?_eq_some is).1
  have each : ∀ value < 10, isPlainDigit (Char.ofNat ('0'.toNat + value)) = true := by decide
  rw [plainForm, is]
  exact each value (by omega)

theorem of_isPlainDigit {c : Char} (digit : isPlainDigit c = true) :
    isNumberBlank c = false ∧ c ≠ '_' := by
  simp only [isPlainDigit, Bool.and_eq_true, decide_eq_true_eq] at digit
  have low : 0x30 ≤ c.toNat := digit.1
  have high : c.toNat ≤ 0x39 := digit.2
  refine ⟨?_, by rintro rfl; exact absurd high (by decide)⟩
  simp only [isNumberBlank, Bool.or_eq_false_iff, Bool.and_eq_false_iff, decide_eq_false_iff_not,
    beq_eq_false_iff_ne]
  omega

theorem plainForm_eq_self {c : Char} (small : c.toNat < 128) : plainForm c = c := by
  unfold plainForm
  split
  · next value digit =>
    have shown := (digitValue?_eq_some digit).2.1 small
    rw [← Char.ofNat_toNat c, shown]
    rfl
  · rfl

theorem plainChar?_eq_some {c : Char} (plain : isDigit c = true ∨ c.toNat < 127) :
    plainChar? c = some (plainForm c) := by
  unfold plainChar?
  split
  · next small => rw [plainForm_eq_self (by omega)]
  · next large =>
    obtain ⟨value, is⟩ := Option.isSome_iff_exists.mp (plain.resolve_right large)
    obtain ⟨_, small, apart⟩ := digitValue?_eq_some is
    simp [apart (by omega), plainForm, is]

theorem mapM_eq_some {f : Char → Char} {cs : List Char} {g : Char → Option Char}
    (each : ∀ c ∈ cs, g c = some (f c)) : cs.mapM g = some (cs.map f) := by
  induction cs with
  | nil => rfl
  | cons c rest ih =>
    simp [each c List.mem_cons_self, ih fun d inside => each d (List.mem_cons_of_mem c inside)]

theorem plain?_eq_map {cs : List Char} (plain : ∀ c ∈ cs, isDigit c = true ∨ c.toNat < 127) :
    plain? cs = some (cs.map plainForm) := by
  unfold plain?
  split
  · next small =>
    have same : ∀ c ∈ cs, plainForm c = c := fun c inside =>
      plainForm_eq_self (of_decide_eq_true (List.all_eq_true.mp small c inside))
    rw [List.map_congr_left same, List.map_id']
  · have each : ∀ c ∈ cs, plainChar? c = some (plainForm c) := fun c inside =>
      plainChar?_eq_some (plain c inside)
    exact mapM_eq_some each

/-- Digits of any script with at most one point, and perhaps an exponent, are a numeral. -/
theorem isSome_read? {mantissa scale : List Char} (digits : Mantissa isDigit mantissa)
    (scaled : Scale isDigit scale) :
    (read? (String.ofList (mantissa ++ scale))).isSome = true := by
  have inside : ∀ c ∈ mantissa ++ scale, isDigit c = true ∨ c ∈ ['.', 'e', 'E', '+', '-'] := by
    intro c inside
    rcases List.mem_append.mp inside with early | late
    · rcases digits.class_of_mem early with digit | rfl
      · exact .inl digit
      · exact .inr (by simp)
    · rcases scaled.class_of_mem late with digit | mark
      · exact .inl digit
      · exact .inr (List.mem_cons_of_mem '.' mark)
  have marks : ∀ c ∈ ['.', 'e', 'E', '+', '-'], c.toNat < 127 ∧ plainForm c = c
      ∧ isNumberBlank c = false ∧ c ≠ '_' := by
    simp only [List.mem_cons, List.not_mem_nil, or_false]
    rintro c (rfl | rfl | rfl | rfl | rfl) <;>
      exact ⟨by decide, plainForm_eq_self (by decide), by decide, by decide⟩
  have plain := plain?_eq_map fun c member =>
    (inside c member).imp_right fun mark => (marks c mark).1
  have formed : ∀ c ∈ (mantissa ++ scale).map plainForm, isNumberBlank c = false ∧ c ≠ '_' := by
    intro c member
    obtain ⟨d, written, rfl⟩ := List.mem_map.mp member
    rcases inside d written with digit | mark
    · exact of_isPlainDigit (isPlainDigit_plainForm digit)
    · rw [(marks d mark).2.1]
      exact (marks d mark).2.2
  have joined : joinDigits? none ((mantissa ++ scale).map plainForm) = some _ :=
    joinDigits?_eq_self (fun member => (formed '_' member).2 rfl) none
  have decimal : (decimal? ((mantissa ++ scale).map plainForm)).isSome = true := by
    rw [List.map_append]
    exact isSome_decimal? (digits.map (fun c => isPlainDigit_plainForm) (marks '.' (by simp)).2.1)
      (scaled.map (fun c => isPlainDigit_plainForm) fun c mark =>
        (marks c (List.mem_cons_of_mem '.' mark)).2.1)
  obtain ⟨value, decimal⟩ := Option.isSome_iff_exists.mp decimal
  simp only [read?, String.toList_ofList, plain, Option.bind_eq_bind, Option.bind_some,
    trimList_eq_self fun c member => (formed c member).1, joined, decimal]
  rfl

end SheetPricing.Numeral
