import SheetPricing.Proofs.Decimal.Writing

/-! Signs and points of numerals. Digits of any script with a point behind some of them are read as the
number nearest to their decimal, turned by a sign in front of them. A text with two points is no
numeral. -/
namespace SheetPricing

namespace Text
variable {blank p : Char → Bool} {cs : List Char}

theorem filter_dropWhile (outside : ∀ c ∈ cs, blank c = true → p c = false) :
    (cs.dropWhile blank).filter p = cs.filter p := by
  have none : (cs.takeWhile blank).filter p = [] := by
    rw [List.filter_eq_nil_iff]
    intro c inside
    have member := (List.takeWhile_sublist blank).subset inside
    exact Bool.not_eq_true _ ▸ outside c member (List.mem_takeWhile_imp inside)
  conv_rhs => rw [← List.takeWhile_append_dropWhile (p := blank) (l := cs)]
  rw [List.filter_append, none, List.nil_append]

/-- What is no blank is left when the blanks around a text are dropped. -/
theorem filter_trimList (outside : ∀ c ∈ cs, blank c = true → p c = false) :
    (trimList blank cs).filter p = cs.filter p := by
  have inner : ∀ c ∈ (cs.dropWhile blank).reverse, blank c = true → p c = false := fun c inside =>
    outside c ((List.dropWhile_sublist blank).subset (List.mem_reverse.mp inside))
  rw [trimList, List.filter_reverse, filter_dropWhile inner, List.filter_reverse, List.reverse_reverse,
    filter_dropWhile outside]

end Text

namespace Numeral
open Text (isBlank isDigit isNumberBlank isPlainDigit trimList)

/-- Nothing, or the sign of a numeral. -/
def IsSign (sign : List Char) : Prop := sign = [] ∨ sign = ['+'] ∨ sign = ['-']

section
variable {sign cs before after : List Char} {d : Decimal}

theorem takeSign_append (signed : IsSign sign) {c : Char} (plain : isPlainDigit c = true)
    (rest : List Char) : takeSign (sign ++ c :: rest) = (decide (sign = ['-']), c :: rest) := by
  rcases signed with rfl | rfl | rfl
  · exact takeSign_cons plain rest
  · rfl
  · rfl

/-- A sign only turns the decimal behind it. -/
theorem Spells.decimal?_append (spells : Spells cs d) (signed : IsSign sign) :
    Numeral.decimal? (sign ++ cs) = some { d with negative := decide (sign = ['-']) } := by
  have unsigned := spells.decimal?
  obtain ⟨c, rest, rfl, plain⟩ := spells.head
  unfold Numeral.decimal? at unsigned ⊢
  rw [takeSign_cons plain] at unsigned
  rw [takeSign_append signed plain]
  dsimp only at unsigned ⊢
  split at unsigned
  · cases unsigned
  · next filled =>
    obtain ⟨exponent, found, same⟩ := Option.map_eq_some_iff.mp unsigned
    rw [if_neg filled, found, ← same]
    rfl

/-- Digits of any script are read as the plain ones that stand for them. -/
theorem read?_of_spells (signed : IsSign sign)
    (shown : ∀ c ∈ cs, isDigit c = true ∨ c.toNat < 127) (spells : Spells (cs.map plainForm) d) :
    Numeral.read? (String.ofList (sign ++ cs))
      = some (Decimal.toBinary64 { d with negative := decide (sign = ['-']) }) := by
  have mark : ∀ c ∈ sign, c.toNat < 127 ∧ isNumberBlank c = false ∧ c ≠ '_' := by
    rcases signed with rfl | rfl | rfl
    · exact nofun
    · exact List.forall_mem_singleton.mpr (by decide)
    · exact List.forall_mem_singleton.mpr (by decide)
  have kind : ∀ c ∈ sign ++ cs.map plainForm, isNumberBlank c = false ∧ c ≠ '_' := by
    intro c inside
    rcases List.mem_append.mp inside with inside | inside
    · exact (mark c inside).2
    rcases spells.mem_or_digit inside with mark | digit
    · have each : (['.', 'e', '+', '-'].all fun c =>
          decide (isNumberBlank c = false ∧ c ≠ '_')) = true := by decide
      exact of_decide_eq_true (List.all_eq_true.mp each c mark)
    · exact of_isPlainDigit digit
  have signForm : sign.map plainForm = sign := by
    have same : ∀ c ∈ sign, plainForm c = c := fun c inside =>
      plainForm_eq_self ((mark c inside).1.trans (by decide))
    rw [List.map_congr_left same, List.map_id']
  have plain : plain? (sign ++ cs) = some (sign ++ cs.map plainForm) := by
    rw [plain?_eq_map, List.map_append, signForm]
    intro c inside
    rcases List.mem_append.mp inside with inside | inside
    · exact .inr (mark c inside).1
    · exact shown c inside
  have trimmed := Text.trimList_eq_self fun c inside => (kind c inside).1
  have joined := joinDigits?_eq_self (fun inside => (kind '_' inside).2 rfl) none
  simp only [Numeral.read?, String.toList_ofList, plain, Option.bind_eq_bind, Option.bind_some,
    trimmed, joined, spells.decimal?_append signed]

theorem toNat_lt_of_isPlainDigit {c : Char} (digit : isPlainDigit c = true) : c.toNat < 127 := by
  simp only [isPlainDigit, Bool.and_eq_true, decide_eq_true_eq] at digit
  have high : c.toNat ≤ 0x39 := digit.2
  omega

theorem map_plainForm (all : ∀ c ∈ cs, isPlainDigit c = true) : cs.map plainForm = cs := by
  have same : ∀ c ∈ cs, plainForm c = c := fun c inside =>
    plainForm_eq_self ((toNat_lt_of_isPlainDigit (all c inside)).trans (by decide))
  rw [List.map_congr_left same, List.map_id']

/-- The decimal that digits write, some before a point and some after it, with a sign. -/
def spelled (sign before after : List Char) : Decimal :=
  ⟨decide (sign = ['-']), valueOf ((before ++ after).map plainForm), -after.length⟩

theorem isPlainDigit_of_mem_map (all : ∀ c ∈ cs, isDigit c = true) :
    ∀ c ∈ cs.map plainForm, isPlainDigit c = true := by
  intro c inside
  obtain ⟨other, member, rfl⟩ := List.mem_map.mp inside
  exact isPlainDigit_plainForm (all other member)

/-- Digits with a point behind some of them are read as the number nearest to their decimal. -/
theorem read?_pointed (signed : IsSign sign) (some : before ≠ [])
    (left : ∀ c ∈ before, isDigit c = true) (right : ∀ c ∈ after, isDigit c = true) :
    Numeral.read? (String.ofList (sign ++ (before ++ '.' :: after)))
      = .some (spelled sign before after).toBinary64 := by
  have point : plainForm '.' = '.' := plainForm_eq_self (by decide)
  have spells : Spells ((before ++ '.' :: after).map plainForm)
      ⟨false, valueOf ((before ++ after).map plainForm), -after.length⟩ := by
    have pointed := Spells.pointed (by simpa using some) (isPlainDigit_of_mem_map left)
      (isPlainDigit_of_mem_map right) .none
    rw [List.append_nil, List.length_map, zero_sub] at pointed
    rwa [List.map_append, List.map_cons, point, List.map_append]
  refine read?_of_spells signed (fun c inside => ?_) spells
  rcases List.mem_append.mp inside with digit | late
  · exact .inl (left c digit)
  rcases List.mem_cons.mp late with rfl | digit
  · exact .inr (by decide)
  · exact .inl (right c digit)

/-- Digits alone are read as the number nearest to the one that they are written for. -/
theorem read?_whole (signed : IsSign sign) (some : cs ≠ []) (all : ∀ c ∈ cs, isDigit c = true) :
    Numeral.read? (String.ofList (sign ++ cs)) = .some (spelled sign cs []).toBinary64 := by
  have spells : Spells (cs.map plainForm) ⟨false, valueOf (cs.map plainForm), 0⟩ := by
    have whole := Spells.whole (by simpa using some) (isPlainDigit_of_mem_map all) .none
    rwa [List.append_nil] at whole
  rw [read?_of_spells signed (fun c inside => .inl (all c inside)) spells, spelled, List.append_nil]
  rfl

theorem count_takeSign (cs : List Char) : (takeSign cs).2.count '.' = cs.count '.' := by
  unfold takeSign
  split <;> simp

theorem count_takeDigits (cs : List Char) : (takeDigits cs).2.count '.' = cs.count '.' := by
  fun_induction takeDigits cs with
  | case1 => rfl
  | case2 c rest digit digits after taken ih =>
    have other : c ≠ '.' := by
      rintro rfl
      cases digit
    rw [List.count_cons_of_ne other, ← ih, taken]
  | case3 => rfl

theorem count_of_exponent? {e : Int} (ok : exponent? cs = some e) : cs.count '.' = 0 := by
  unfold exponent? at ok
  split at ok
  · rfl
  next c rest =>
    split at ok
    · next mark =>
      have other : c ≠ '.' := by
        rintro rfl
        cases mark
      rw [List.count_cons_of_ne other, ← count_takeSign, ← count_takeDigits]
      dsimp only at ok
      split at ok
      · cases ok
      · next taken => rw [taken]; rfl
      · cases ok
    · cases ok

theorem count_le_of_decimal? (ok : decimal? cs = some d) : cs.count '.' ≤ 1 := by
  unfold decimal? at ok
  dsimp only at ok
  split at ok
  · cases ok
  obtain ⟨e, found, _⟩ := Option.map_eq_some_iff.mp ok
  have none := count_of_exponent? found
  rw [← count_takeSign, ← count_takeDigits]
  unfold takeFraction at none
  split at none
  · next rest behind =>
    rw [behind, List.count_cons_self, ← count_takeDigits rest, none]
  · rw [none]
    exact Nat.zero_le 1

theorem notMem_of_word? {value : Binary64} (ok : word? cs = some value) : '.' ∉ cs := by
  intro inside
  have inside : '.' ∈ (takeSign cs).2 := by
    rwa [← List.count_pos_iff, count_takeSign, List.count_pos_iff]
  have lowered : '.' ∈ (takeSign cs).2.map Char.toLower := List.mem_map.mpr ⟨'.', inside, rfl⟩
  have apart (word : String) (plain : '.' ∉ word.toList) :
      (String.ofList ((takeSign cs).2.map Char.toLower) == word) = false := by
    rw [beq_eq_false_iff_ne]
    rintro rfl
    exact plain (by rwa [String.toList_ofList])
  unfold word? at ok
  dsimp only at ok
  rw [apart "inf" (by decide), apart "infinity" (by decide), apart "nan" (by decide)] at ok
  cases ok

theorem count_joinDigits? {last : Option Char} {joined : List Char}
    (ok : joinDigits? last cs = some joined) : joined.count '.' = cs.count '.' := by
  fun_induction joinDigits? last cs generalizing joined with
  | case1 => cases ok; rfl
  | case2 b a rest between ih =>
    rw [ih ok]
    rfl
  | case3 => cases ok
  | case4 => cases ok
  | case5 last c rest other ih =>
    obtain ⟨after, found, rfl⟩ := Option.map_eq_some_iff.mp ok
    rw [List.count_cons, List.count_cons, ih found]

theorem count_le_of_mapM {plain : List Char} (ok : cs.mapM plainChar? = some plain) :
    cs.count '.' ≤ plain.count '.' := by
  induction cs generalizing plain with
  | nil => exact Nat.zero_le _
  | cons c rest ih =>
    rw [List.mapM_cons] at ok
    obtain ⟨d, here, ok⟩ := Option.bind_eq_some_iff.mp ok
    obtain ⟨after, later, ok⟩ := Option.bind_eq_some_iff.mp ok
    cases ok
    have fewer := ih later
    by_cases point : c = '.'
    · subst point
      cases here
      rw [List.count_cons_self, List.count_cons_self]
      exact Nat.succ_le_succ fewer
    · rw [List.count_cons_of_ne point]
      exact fewer.trans List.count_le_count_cons

theorem count_le_plain? {plain : List Char} (ok : plain? cs = some plain) :
    cs.count '.' ≤ plain.count '.' := by
  unfold plain? at ok
  split at ok
  · cases ok
    exact Nat.le_refl _
  · exact count_le_of_mapM ok

/-- A numeral has no second point. -/
theorem count_le_of_read? {value : Binary64} (ok : read? (String.ofList cs) = some value) :
    cs.count '.' ≤ 1 := by
  rw [read?, String.toList_ofList] at ok
  obtain ⟨plain, formed, ok⟩ := Option.bind_eq_some_iff.mp ok
  obtain ⟨numeral, joined, ok⟩ := Option.bind_eq_some_iff.mp ok
  have trimmed : (trimList isNumberBlank plain).count '.' = plain.count '.' := by
    simp only [List.count_eq_length_filter]
    rw [Text.filter_trimList]
    rintro c _ blank
    rw [beq_eq_false_iff_ne]
    rintro rfl
    cases blank
  have same := (count_joinDigits? joined).trans trimmed
  refine (count_le_plain? formed).trans (same ▸ ?_)
  split at ok
  · next found => exact count_le_of_decimal? found
  · rw [List.count_eq_zero_of_not_mem (notMem_of_word? ok)]
    exact Nat.zero_le 1

end
end Numeral
end SheetPricing
