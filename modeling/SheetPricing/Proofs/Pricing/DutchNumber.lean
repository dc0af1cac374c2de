import SheetPricing.Pricing.Input
import SheetPricing.Proofs.Decimal.Exactness
import SheetPricing.Proofs.Decimal.Points

/-! Numbers in Dutch notation. However a decimal is spelled, with points between groups of three digits
and a decimal comma, with the comma alone or with a decimal point alone, it is read as the number nearest
to it. Where a text has a comma and a point, every point has to stand between such groups before the
comma, so that no separator is passed over. -/
namespace SheetPricing.DutchNumber
open Text (isBlank isDigit isPlainDigit trimList)
open Numeral

/-- One to three digits, groups of a point and three digits, a comma and digits, perhaps with a sign. -/
inductive Grouped : List Char → Prop where
  | mk {sign first fraction : List Char} {groups : List (List Char)} (signed : IsSign sign)
      (some : first ≠ []) (few : first.length ≤ 3) (leading : ∀ c ∈ first, isDigit c = true)
      (any : groups ≠ []) (threes : ∀ group ∈ groups, group.length = 3 ∧ ∀ c ∈ group, isDigit c = true)
      (behind : ∀ c ∈ fraction, isDigit c = true) :
      Grouped (sign ++ (first ++ (groups.flatMap ('.' :: ·) ++ ',' :: fraction)))

theorem Grouped.mem_comma {cs : List Char} (grouped : Grouped cs) : ',' ∈ cs := by
  cases grouped
  simp

section
variable {cs sign first fraction : List Char} {groups : List (List Char)}

theorem exists_groups (cs : List Char) : ∃ (groups : List (List Char)) (rest : List Char),
    takeGroups cs = (groups.length, rest) ∧
    (∀ group ∈ groups, group.length = 3 ∧ ∀ c ∈ group, isDigit c = true) ∧
      cs = groups.flatMap ('.' :: ·) ++ rest := by
  fun_induction takeGroups cs with
  | case1 a b c rest digits count after taken ih =>
    obtain ⟨groups, behind, found, threes, split⟩ := ih
    obtain ⟨rfl, rfl⟩ := Prod.mk.inj (taken.symm.trans found)
    simp only [Bool.and_eq_true] at digits
    refine ⟨[a, b, c] :: groups, after, rfl, List.forall_mem_cons.mpr ⟨⟨rfl, ?_⟩, threes⟩, ?_⟩
    · simp [digits]
    · rw [split]
      rfl
  | case2 a b c rest => exact ⟨[], _, rfl, nofun, rfl⟩
  | case3 cs => exact ⟨[], cs, rfl, nofun, rfl⟩

theorem takeGroups_append
    (threes : ∀ group ∈ groups, group.length = 3 ∧ ∀ c ∈ group, isDigit c = true) :
    takeGroups (groups.flatMap ('.' :: ·) ++ ',' :: fraction) = (groups.length, ',' :: fraction) := by
  induction groups with
  | nil => rfl
  | cons group groups ih =>
    obtain ⟨⟨length, digits⟩, others⟩ := List.forall_mem_cons.mp threes
    obtain ⟨a, b, c, rfl⟩ := List.length_eq_three.mp length
    have digits : (isDigit a && isDigit b && isDigit c) = true := by simpa [and_assoc] using digits
    have rest := ih others
    simp only [List.flatMap_cons, List.cons_append, List.nil_append] at rest ⊢
    rw [takeGroups, if_pos digits, rest]
    rfl

theorem exists_sign (cs : List Char) : ∃ sign, IsSign sign ∧ cs = sign ++ withoutSign cs := by
  unfold withoutSign
  split
  · exact ⟨['+'], .inr (.inl rfl), rfl⟩
  · exact ⟨['-'], .inr (.inr rfl), rfl⟩
  · exact ⟨[], .inl rfl, rfl⟩

theorem withoutSign_append (signed : IsSign sign) {c : Char} (digit : isDigit c = true)
    (rest : List Char) : withoutSign (sign ++ c :: rest) = c :: rest := by
  rcases signed with rfl | rfl | rfl
  · rw [List.nil_append]
    unfold withoutSign
    split
    · next same => cases same; cases digit
    · next same => cases same; cases digit
    · rfl
  · rfl
  · rfl

theorem grouped_of_isGrouped (grouped : isGrouped cs = true) : Grouped cs := by
  obtain ⟨sign, signed, whole⟩ := exists_sign cs
  obtain ⟨count, few, grouped⟩ := List.any_eq_true.mp grouped
  simp only [Bool.and_eq_true, beq_iff_eq, List.all_eq_true] at grouped
  obtain ⟨⟨length, leading⟩, behind⟩ := grouped
  -- So many digits in front, and behind them all groups that there are.
  obtain ⟨groups, rest, taken, threes, split⟩ := exists_groups ((withoutSign cs).drop count)
  rw [hasGroups, taken] at behind
  simp only [Bool.and_eq_true, decide_eq_true_eq] at behind
  obtain ⟨any, behind⟩ := behind
  have range : 1 ≤ count ∧ count ≤ 3 := by
    have each : ∀ count ∈ [1, 2, 3], 1 ≤ count ∧ count ≤ 3 := by decide
    exact each count few
  rw [whole, ← List.take_append_drop count (withoutSign cs), split]
  split at behind
  · next fraction =>
    refine .mk signed (fun none => ?_) (length.le.trans range.2) leading (List.ne_nil_of_length_pos any)
      threes (List.all_eq_true.mp behind)
    rw [none] at length
    exact absurd length (Nat.ne_of_lt range.1)
  · cases behind

theorem Grouped.isGrouped (grouped : Grouped cs) : DutchNumber.isGrouped cs = true := by
  cases grouped with
  | @mk sign first fraction groups signed some few leading any threes behind =>
    have unsigned : withoutSign (sign ++ (first ++ (groups.flatMap ('.' :: ·) ++ ',' :: fraction)))
        = first ++ (groups.flatMap ('.' :: ·) ++ ',' :: fraction) := by
      obtain ⟨c, rest, rfl⟩ := List.exists_cons_of_ne_nil some
      exact withoutSign_append signed (leading c List.mem_cons_self) _
    have range : first.length ∈ [1, 2, 3] := by
      have positive := List.length_pos_of_ne_nil some
      simp only [List.mem_cons, List.not_mem_nil, or_false]
      omega
    refine List.any_eq_true.mpr ⟨first.length, range, ?_⟩
    have counted := List.length_pos_of_ne_nil any
    rw [unsigned, List.take_left, List.drop_left, hasGroups, takeGroups_append threes]
    simp only [beq_self_eq_true, List.all_eq_true.mpr leading, List.all_eq_true.mpr behind, counted,
      decide_true, Bool.and_self]

theorem isGrouped_iff : isGrouped cs = true ↔ Grouped cs :=
  ⟨grouped_of_isGrouped, Grouped.isGrouped⟩

end

section
variable {cs text : List Char}

/-- That white space around a text and spaces in it are all that it has more than another one. -/
def Blanked (text cs : List Char) : Prop :=
  ∃ front inner back, text = front ++ inner ++ back ∧ (∀ c ∈ front ++ back, isBlank c = true) ∧
    inner.filter (· != ' ') = cs

theorem filter_trimList_of_blanked (blanked : Blanked text cs) (solid : ∀ c ∈ cs, isBlank c = false) :
    (trimList isBlank text).filter (· != ' ') = cs := by
  obtain ⟨front, inner, back, rfl, blank, rfl⟩ := blanked
  rw [Formula.trimList_append blank, Text.filter_trimList]
  intro c inside space
  by_contra other
  have kept := solid c (List.mem_filter.mpr ⟨inside, Bool.not_eq_false _ ▸ other⟩)
  exact Bool.false_ne_true (kept.symm.trans space)

theorem blanked_filter_trimList (text : List Char) :
    Blanked text ((trimList isBlank text).filter (· != ' ')) := by
  have cut (cs : List Char) : ∃ blanks, (∀ c ∈ blanks, isBlank c = true) ∧
      cs = blanks ++ cs.dropWhile isBlank :=
    ⟨cs.takeWhile isBlank, fun c inside => List.mem_takeWhile_imp inside,
      List.takeWhile_append_dropWhile.symm⟩
  obtain ⟨front, before, split⟩ := cut text
  obtain ⟨back, after, rest⟩ := cut (text.dropWhile isBlank).reverse
  refine ⟨front, trimList isBlank text, back.reverse, ?_, fun c inside => ?_, rfl⟩
  · rw [List.reverse_eq_iff, List.reverse_append] at rest
    rw [trimList, List.append_assoc, ← rest, ← split]
  · rcases List.mem_append.mp inside with inside | inside
    · exact before c inside
    · exact after c (List.mem_reverse.mp inside)

end

/-- The digits of a number with a point in front of each group of three. -/
def pointed : List Char → List Char
  | [] => []
  | c :: rest => if rest ≠ [] ∧ rest.length % 3 = 0 then c :: '.' :: pointed rest else c :: pointed rest

section
variable {digits : List Char}

theorem exists_pointed (some : digits ≠ []) : ∃ (first : List Char) (groups : List (List Char)),
    pointed digits = first ++ groups.flatMap ('.' :: ·) ∧ digits = first ++ groups.flatten ∧
      first ≠ [] ∧ first.length ≤ 3 ∧ ∀ group ∈ groups, group.length = 3 := by
  induction digits with
  | nil => exact absurd rfl some
  | cons c rest ih =>
    by_cases none : rest = []
    · subst none
      exact ⟨[c], [], rfl, rfl, List.cons_ne_nil _ _, Nat.le_add_left 1 2, nofun⟩
    obtain ⟨first, groups, split, whole, any, few, threes⟩ := ih none
    have length : rest.length = first.length + 3 * groups.length := by
      conv_lhs => rw [whole]
      rw [List.length_append, List.length_flatten, List.map_congr_left threes, List.map_const',
        List.sum_replicate_nat, Nat.mul_comm]
    have positive := List.length_pos_of_ne_nil any
    -- A point comes behind the new digit exactly if the digits up to the next point are a full group.
    by_cases full : rest.length % 3 = 0
    · refine ⟨[c], first :: groups, ?_, ?_, List.cons_ne_nil _ _, Nat.le_add_left 1 2,
        List.forall_mem_cons.mpr ⟨by omega, threes⟩⟩
      · rw [pointed, if_pos ⟨none, full⟩, split]
        rfl
      · rw [whole]
        rfl
    · refine ⟨c :: first, groups, ?_, ?_, List.cons_ne_nil _ _, ?_, threes⟩
      · rw [pointed, if_neg fun both => full both.2, split]
        rfl
      · rw [whole]
        rfl
      · rw [List.length_cons]
        omega

end

section
variable {s : String} {cs sign before after : List Char} {groups : List (List Char)}

theorem solid_of_isDigit {c : Char} (digit : isDigit c = true) :
    isBlank c = false ∧ c ≠ '.' ∧ c ≠ ',' :=
  Formula.of_isDigit (P := fun c => isBlank c = false ∧ c ≠ '.' ∧ c ≠ ',') (by decide +kernel) digit

theorem solid_of_isSign (signed : IsSign sign) {c : Char} (inside : c ∈ sign) :
    isBlank c = false ∧ c ≠ '.' ∧ c ≠ ',' := by
  rcases signed with rfl | rfl | rfl
  · cases inside
  · rw [List.mem_singleton.mp inside]
    decide
  · rw [List.mem_singleton.mp inside]
    decide

theorem Grouped.solid (grouped : Grouped cs) : ∀ c ∈ cs, isBlank c = false := by
  cases grouped with
  | mk signed some few leading any threes behind =>
    refine List.forall_mem_append.mpr ⟨fun c inside => (solid_of_isSign signed inside).1,
      List.forall_mem_append.mpr ⟨fun c inside => (solid_of_isDigit (leading c inside)).1,
        List.forall_mem_append.mpr ⟨fun c inside => ?_, List.forall_mem_cons.mpr ⟨by decide,
          fun c inside => (solid_of_isDigit (behind c inside)).1⟩⟩⟩⟩
    obtain ⟨group, listed, member⟩ := List.mem_flatMap.mp inside
    rcases List.mem_cons.mp member with rfl | member
    · decide
    · exact (solid_of_isDigit ((threes group listed).2 c member)).1

theorem exists_grouped_iff {text : List Char} : (∃ cs, Grouped cs ∧ Blanked text cs) ↔
    isGrouped ((trimList isBlank text).filter (· != ' ')) = true := by
  constructor
  · rintro ⟨cs, grouped, blanked⟩
    rw [filter_trimList_of_blanked blanked grouped.solid]
    exact isGrouped_iff.mpr grouped
  · exact fun grouped => ⟨_, isGrouped_iff.mp grouped, blanked_filter_trimList text⟩

theorem plain_of_blanked (blanked : Blanked s.toList cs) (solid : ∀ c ∈ cs, isBlank c = false) :
    plain s = (if isGrouped cs then cs.filter (· != '.') else cs).map
      fun c => if c == ',' then '.' else c := by
  rw [plain, filter_trimList_of_blanked blanked solid]

theorem map_comma (other : ∀ c ∈ cs, c ≠ ',') : cs.map (fun c => if c == ',' then '.' else c) = cs := by
  have same : ∀ c ∈ cs, (if c == ',' then '.' else c) = c := fun c inside =>
    if_neg fun comma => other c inside (beq_iff_eq.mp comma)
  rw [List.map_congr_left same, List.map_id']

theorem filter_groups (digits : ∀ group ∈ groups, ∀ c ∈ group, isDigit c = true) :
    (groups.flatMap ('.' :: ·)).filter (· != '.') = groups.flatten := by
  induction groups with
  | nil => rfl
  | cons group groups ih =>
    obtain ⟨here, others⟩ := List.forall_mem_cons.mp digits
    have kept : group.filter (· != '.') = group := List.filter_eq_self.mpr fun c inside =>
      bne_iff_ne.mpr (solid_of_isDigit (here c inside)).2.1
    rw [List.flatMap_cons, List.filter_append, List.filter_cons_of_neg (by decide), kept, ih others,
      List.flatten_cons]

variable (signed : IsSign sign) (some : before ≠ []) (left : ∀ c ∈ before, isDigit c = true)
  (right : ∀ c ∈ after, isDigit c = true)
include signed some left right

/-- A comma is read as the point of the decimal where no points are left in front of it. -/
theorem read_of_joined (blanked : Blanked s.toList cs) (solid : ∀ c ∈ cs, isBlank c = false)
    (joined : (if isGrouped cs then cs.filter (· != '.') else cs) = sign ++ (before ++ ',' :: after)) :
    read s = (spelled sign before after).toBinary64 := by
  have same : plain s = sign ++ (before ++ '.' :: after) := by
    rw [plain_of_blanked blanked solid, joined, List.map_append, List.map_append, List.map_cons,
      map_comma fun c inside => (solid_of_isSign signed inside).2.2,
      map_comma fun c inside => (solid_of_isDigit (left c inside)).2.2,
      map_comma fun c inside => (solid_of_isDigit (right c inside)).2.2]
    rfl
  rw [read, same, read?_pointed signed some left right]
  rfl

theorem read_of_comma (blanked : Blanked s.toList (sign ++ (before ++ ',' :: after))) :
    read s = (spelled sign before after).toBinary64 := by
  have solid : ∀ c ∈ sign ++ (before ++ ',' :: after), isBlank c = false ∧ c ≠ '.' :=
    List.forall_mem_append.mpr ⟨fun c inside => (solid_of_isSign signed inside).imp_right And.left,
      List.forall_mem_append.mpr ⟨fun c inside => (solid_of_isDigit (left c inside)).imp_right And.left,
        List.forall_mem_cons.mpr ⟨by decide, fun c inside =>
          (solid_of_isDigit (right c inside)).imp_right And.left⟩⟩⟩
  refine read_of_joined signed some left right blanked (fun c inside => (solid c inside).1) ?_
  rw [List.filter_eq_self.mpr fun c inside => bne_iff_ne.mpr (solid c inside).2, ite_self]

theorem read_of_point (blanked : Blanked s.toList (sign ++ (before ++ '.' :: after))) :
    read s = (spelled sign before after).toBinary64 := by
  have solid : ∀ c ∈ sign ++ (before ++ '.' :: after), isBlank c = false ∧ c ≠ ',' :=
    List.forall_mem_append.mpr ⟨fun c inside => (solid_of_isSign signed inside).imp_right And.right,
      List.forall_mem_append.mpr ⟨fun c inside => (solid_of_isDigit (left c inside)).imp_right And.right,
        List.forall_mem_cons.mpr ⟨by decide, fun c inside =>
          (solid_of_isDigit (right c inside)).imp_right And.right⟩⟩⟩
  have ungrouped : isGrouped (sign ++ (before ++ '.' :: after)) = false := by
    rw [Bool.eq_false_iff, Ne, isGrouped_iff]
    intro grouped
    exact (solid ',' grouped.mem_comma).2 rfl
  have same : plain s = sign ++ (before ++ '.' :: after) := by
    rw [plain_of_blanked blanked fun c inside => (solid c inside).1, ungrouped,
      if_neg Bool.false_ne_true, map_comma fun c inside => (solid c inside).2]
  rw [read, same, read?_pointed signed some left right]
  rfl

omit right in
theorem read_of_digits (blanked : Blanked s.toList (sign ++ before)) :
    read s = (spelled sign before []).toBinary64 := by
  have solid : ∀ c ∈ sign ++ before, isBlank c = false ∧ c ≠ '.' ∧ c ≠ ',' :=
    List.forall_mem_append.mpr ⟨fun c inside => solid_of_isSign signed inside,
      fun c inside => solid_of_isDigit (left c inside)⟩
  have same : plain s = sign ++ before := by
    rw [plain_of_blanked blanked fun c inside => (solid c inside).1,
      List.filter_eq_self.mpr fun c inside => bne_iff_ne.mpr (solid c inside).2.1, ite_self,
      map_comma fun c inside => (solid c inside).2.2]
  rw [read, same, read?_whole signed some left]
  rfl

theorem read_of_groups (few : before.length ≤ 3) (any : groups ≠ [])
    (threes : ∀ group ∈ groups, group.length = 3 ∧ ∀ c ∈ group, isDigit c = true)
    (blanked : Blanked s.toList (sign ++ (before ++ (groups.flatMap ('.' :: ·) ++ ',' :: after)))) :
    read s = (spelled sign (before ++ groups.flatten) after).toBinary64 := by
  have inner : ∀ c ∈ groups.flatten, isDigit c = true := by
    intro c inside
    obtain ⟨group, listed, member⟩ := List.mem_flatten.mp inside
    exact (threes group listed).2 c member
  have kept {digits : List Char} (all : ∀ c ∈ digits, isDigit c = true) :
      digits.filter (· != '.') = digits :=
    List.filter_eq_self.mpr fun c inside => bne_iff_ne.mpr (solid_of_isDigit (all c inside)).2.1
  have joined : (sign ++ (before ++ (groups.flatMap ('.' :: ·) ++ ',' :: after))).filter (· != '.')
      = sign ++ ((before ++ groups.flatten) ++ ',' :: after) := by
    rw [List.filter_append, List.filter_append, List.filter_append, List.filter_cons_of_pos (by decide),
      filter_groups fun group listed => (threes group listed).2, kept left, kept right,
      List.filter_eq_self.mpr fun c inside => bne_iff_ne.mpr (solid_of_isSign signed inside).2.1,
      List.append_assoc before]
  have grouped : Grouped _ := .mk signed some few left any threes right
  refine read_of_joined signed (List.append_ne_nil_of_left_ne_nil some _)
    (List.forall_mem_append.mpr ⟨left, inner⟩) right blanked grouped.solid ?_
  rw [if_pos (isGrouped_iff.mpr grouped), joined]

end

section
variable {whole : Nat} {sign fraction body : List Char}

/-- How a decimal is written, without its sign. -/
inductive Spelling (whole : Nat) (fraction : List Char) : List Char → Prop where
  | grouped : Spelling whole fraction (pointed (Nat.toDigits 10 whole) ++ ',' :: fraction)
  | comma : Spelling whole fraction (Nat.toDigits 10 whole ++ ',' :: fraction)
  | point : Spelling whole fraction (Nat.toDigits 10 whole ++ '.' :: fraction)
  | integer (none : fraction = []) : Spelling whole fraction (Nat.toDigits 10 whole)

theorem isPlainDigit_of_toDigits (whole : Nat) :
    ∀ c ∈ Nat.toDigits 10 whole, isPlainDigit c = true :=
  fun _ inside => Address.isPlainDigit_toDigits inside

theorem read_of_spelling (signed : IsSign sign) (plain : ∀ c ∈ fraction, isPlainDigit c = true)
    (spelling : Spelling whole fraction body) {s : String} (blanked : Blanked s.toList (sign ++ body)) :
    read s = (spelled sign (Nat.toDigits 10 whole) fraction).toBinary64 := by
  have some : Nat.toDigits 10 whole ≠ [] := Nat.toDigits_ne_nil
  have left := Formula.isDigit_of_plain (isPlainDigit_of_toDigits whole)
  have right := Formula.isDigit_of_plain plain
  cases spelling with
  | grouped =>
    obtain ⟨first, groups, split, joined, any, few, threes⟩ := exists_pointed some
    rw [split, List.append_assoc] at blanked
    rw [joined] at left ⊢
    obtain ⟨leading, inner⟩ := List.forall_mem_append.mp left
    by_cases none : groups = []
    · subst none
      rw [List.flatten_nil, List.append_nil]
      exact read_of_comma signed any leading right blanked
    · refine read_of_groups signed any leading right few none (fun group listed => ?_) blanked
      exact ⟨threes group listed, fun c inside => inner c (List.mem_flatten.mpr ⟨group, listed, inside⟩)⟩
  | comma => exact read_of_comma signed some left right blanked
  | point => exact read_of_point signed some left right blanked
  | integer none =>
    subst none
    exact read_of_digits signed some left blanked

theorem value_spelled (plain : ∀ c ∈ fraction, isPlainDigit c = true) :
    (spelled sign (Nat.toDigits 10 whole) fraction).value = Binary64.factor (decide (sign = ['-'])) *
      (whole + valueOf fraction / 10 ^ fraction.length) := by
  have digits : ∀ c ∈ Nat.toDigits 10 whole ++ fraction, isPlainDigit c = true :=
    List.forall_mem_append.mpr ⟨isPlainDigit_of_toDigits whole, plain⟩
  rw [Decimal.value, spelled, map_plainForm digits]
  dsimp only
  rw [valueOf_append, valueOf_toDigits, zpow_neg, zpow_natCast]
  push_cast
  field_simp

end

section
variable {s : String} {cs : List Char}

theorem read_of_grouped (grouped : Grouped cs) (blanked : Blanked s.toList cs) :
    ∃ d : Decimal, read s = d.toBinary64 := by
  cases grouped with
  | mk signed some few leading any threes behind =>
    exact ⟨_, read_of_groups signed some leading behind few any threes blanked⟩

theorem count_map_comma (cs : List Char) :
    (cs.map fun c => if c == ',' then '.' else c).count '.' = cs.count '.' + cs.count ',' := by
  induction cs with
  | nil => rfl
  | cons c rest ih =>
    rw [List.map_cons, List.count_cons, List.count_cons, List.count_cons, ih]
    by_cases comma : c = ','
    · subst comma
      simp
      omega
    · simp [comma]
      omega

theorem mem_of_solid {c : Char} (solid : isBlank c = false) (other : c ≠ ' ') (inside : c ∈ cs) :
    c ∈ (trimList isBlank cs).filter (· != ' ') := by
  have apart : ∀ d ∈ cs, isBlank d = true → (d == c) = false := fun d _ blank =>
    beq_eq_false_iff_ne.mpr fun equal => Bool.false_ne_true ((equal ▸ solid).symm.trans blank)
  have kept : c ∈ (trimList isBlank cs).filter (· == c) :=
    Text.filter_trimList apart ▸ List.mem_filter.mpr ⟨inside, beq_self_eq_true c⟩
  exact List.mem_filter.mpr ⟨(List.mem_filter.mp kept).1, bne_iff_ne.mpr other⟩

/-- A comma and a point that do not stand as they do in groups of digits are two points of a numeral. -/
theorem read_eq_nan (comma : ',' ∈ s.toList) (point : '.' ∈ s.toList)
    (loose : ¬ ∃ cs, Grouped cs ∧ Blanked s.toList cs) : read s = .nan := by
  have ungrouped := Bool.eq_false_iff.mpr (exists_grouped_iff.not.mp loose)
  have points : 2 ≤ (plain s).count '.' := by
    rw [plain, ungrouped, if_neg Bool.false_ne_true, count_map_comma]
    exact Nat.add_le_add (List.count_pos_iff.mpr (mem_of_solid (by decide) (by decide) point))
      (List.count_pos_iff.mpr (mem_of_solid (by decide) (by decide) comma))
  rw [read]
  cases found : Numeral.read? (String.ofList (plain s)) with
  | none => rfl
  | some value => exact absurd (points.trans (count_le_of_read? found)) (by decide)

end

/-- However a decimal is spelled and wherever spaces stand in it, it is read as the number nearest to it.
A text with a comma and a point is read as a number exactly if each point stands before a group of three
digits and the comma behind them. -/
theorem read_exact :
    (∀ (sign : List Char) (whole : Nat) (fraction : List Char), IsSign sign →
      (∀ c ∈ fraction, isPlainDigit c = true) →
      ∃ number : Binary64,
        number.IsNearest (Binary64.factor (decide (sign = ['-'])) *
          (whole + valueOf fraction / 10 ^ fraction.length)) ∧
        number.isNegative = decide (sign = ['-']) ∧
        ∀ (body : List Char) (text : String), Spelling whole fraction body →
          Blanked text.toList (sign ++ body) → (RawInput.text text).read = .ok number) ∧
    ∀ text : String, ',' ∈ text.toList → '.' ∈ text.toList →
      ((RawInput.text text).read ≠ .ok .nan ↔ ∃ cs, Grouped cs ∧ Blanked text.toList cs) := by
  constructor
  · intro sign whole fraction signed plain
    refine ⟨(spelled sign (Nat.toDigits 10 whole) fraction).toBinary64, ?_,
      Decimal.isNegative_toBinary64 _, fun body text spelling blanked => ?_⟩
    · rw [← value_spelled plain]
      exact Decimal.isNearest_toBinary64 _
    · rw [RawInput.read, read_of_spelling signed plain spelling blanked]
  · intro text comma point
    constructor
    · intro number
      by_contra loose
      exact number (congrArg Except.ok (read_eq_nan comma point loose))
    · rintro ⟨cs, grouped, blanked⟩ none
      obtain ⟨d, same⟩ := read_of_grouped grouped blanked
      have near := d.isNearest_toBinary64
      rw [← same, Except.ok.inj none] at near
      cases near

theorem read_exact_of_spaced : ∃ number : Binary64,
    number.IsNearest (Binary64.factor true * (1234567 + 25 / 10 ^ 2)) ∧
      (RawInput.text "\t-1.234. 567,25 ").read = .ok number ∧
      (RawInput.text "- 1234567,25").read = .ok number ∧
      (RawInput.text "-1 234 567.25").read = .ok number ∧
      (RawInput.text "-12.34.567,25").read = .ok .nan := by
  obtain ⟨number, near, _, same⟩ := read_exact.1 ['-'] 1234567 ['2', '5'] (.inr (.inr rfl))
    (List.all_eq_true.mp (by decide))
  have value : valueOf ['2', '5'] = 25 := by decide
  rw [value] at near
  have grouped : pointed (Nat.toDigits 10 1234567) = "1.234.567".toList := by decide
  have plain : Nat.toDigits 10 1234567 = "1234567".toList := by decide
  have none : ∀ c ∈ ([] : List Char) ++ [], isBlank c = true := nofun
  refine ⟨number, near,
    same _ _ .grouped ⟨['\t'], "-1.234. 567,25".toList, [' '], by decide, ?_, grouped ▸ by decide⟩,
    same _ _ .comma ⟨[], "- 1234567,25".toList, [], by decide, none, plain ▸ by decide⟩,
    same _ _ .point ⟨[], "-1 234 567.25".toList, [], by decide, none, plain ▸ by decide⟩, ?_⟩
  · exact List.all_eq_true.mp (by decide)
  · have loose : ¬ ∃ cs, Grouped cs ∧ Blanked "-12.34.567,25".toList cs := by
      rw [exists_grouped_iff]
      decide
    exact not_not.mp ((read_exact.2 "-12.34.567,25" (by decide) (by decide)).not.mpr loose)

end SheetPricing.DutchNumber
