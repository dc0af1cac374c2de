import SheetPricing.Text.Lexeme

/-! What lexemes take off a text that begins with what they stand for, when something else follows. -/
namespace SheetPricing.Text.Lexeme

/-- That a text does not go on with a character of a class. -/
def Ceases (p : Char → Bool) (rest : List Char) : Prop := ∀ c ∈ rest.head?, p c = false

section
variable {p q : Char → Bool} {follows : List Char → Bool} {first second : Lexeme}
  {cs taken others middle rest : List Char} {c : Char}

theorem eq_false_of_any (none : cs.any p = false) : ∀ c ∈ cs, p c = false :=
  fun c inside => Bool.eq_false_iff.mpr (List.any_eq_false.mp none c inside)

theorem forall_mem_of_all {P : Char → Prop} [DecidablePred P] (each : cs.all (decide <| P ·) = true) :
    ∀ c ∈ cs, P c :=
  fun c inside => of_decide_eq_true (List.all_eq_true.mp each c inside)

/-- What holds of a class and of one more character holds of each that is one or the other. -/
theorem of_or_beq {P : Char → Prop} {a : Char} {inside : Bool} (either : (inside || c == a) = true)
    (first : inside = true → P c) (second : P a) : P c :=
  (Bool.or_eq_true_iff.mp either).elim first fun same => eq_of_beq same ▸ second

theorem of_beq_or_beq {P : Char → Prop} {a b : Char} (either : (c == a || c == b) = true)
    (first : P a) (second : P b) : P c :=
  of_or_beq either (fun same => eq_of_beq same ▸ first) second

theorem Ceases.mono (ceases : Ceases p rest) (le : ∀ c, q c = true → p c = true) : Ceases q rest :=
  fun c here => Bool.eq_false_iff.mpr fun inside =>
    Bool.false_ne_true ((ceases c here).symm.trans (le c inside))

theorem ceases_cons (outside : p c = false) : Ceases p (c :: rest) := by
  rintro _ ⟨⟩
  exact outside

theorem takeWhile_append_of_ceases (within : ∀ c ∈ taken, p c = true) (ceases : Ceases p rest) :
    (taken ++ rest).takeWhile p = taken := by
  rw [List.takeWhile_append_of_pos within]
  cases rest with
  | nil => simp
  | cons c rest => simp [ceases c rfl]

theorem dropWhile_append_of_ceases (within : ∀ c ∈ taken, p c = true) (ceases : Ceases p rest) :
    (taken ++ rest).dropWhile p = rest := by
  rw [List.dropWhile_append_of_pos within]
  cases rest with
  | nil => rfl
  | cons c rest => simp [ceases c rfl]

theorem take?_one (inside : p c = true) : (one p).take? (c :: rest) = some ([c], rest) := by
  simp [one, inside]

theorem take?_one_of_ceases (ceases : Ceases p rest) : (one p).take? rest = none := by
  cases rest with
  | nil => rfl
  | cons c rest => simp [one, ceases c rfl]

theorem take?_zeroOrMore (within : ∀ c ∈ taken, p c = true) (ceases : Ceases p rest) :
    (zeroOrMore p).take? (taken ++ rest) = some (taken, rest) := by
  simp only [zeroOrMore, takeWhile_append_of_ceases within ceases,
    dropWhile_append_of_ceases within ceases]

theorem take?_zeroOrMore_of_ceases (ceases : Ceases p rest) :
    (zeroOrMore p).take? rest = some ([], rest) := 
  show (zeroOrMore p).take? ([] ++ rest) = some ([], rest) from take?_zeroOrMore nofun ceases

theorem take?_append (front : first.take? cs = some (taken, middle))
    (back : second.take? middle = some (others, rest)) :
    (first ++ second).take? cs = some (taken ++ others, rest) := by
  change (andThen first second).take? cs = _
  simp [andThen, front, back]

theorem take?_append_of_left (fails : first.take? cs = none) : (first ++ second).take? cs = none := by
  change (andThen first second).take? cs = _
  simp [andThen, fails]

theorem take?_append_of_right (front : first.take? cs = some (taken, middle))
    (fails : second.take? middle = none) : (first ++ second).take? cs = none := by
  change (andThen first second).take? cs = _
  simp [andThen, front, fails]

theorem take?_either_of_left (front : first.take? cs = some (taken, rest)) :
    (first <|> second).take? cs = some (taken, rest) := by
  change (either first second).take? cs = _
  simp [either, front]

theorem take?_either_of_right (fails : first.take? cs = none) :
    (first <|> second).take? cs = second.take? cs := by
  change (either first second).take? cs = _
  simp [either, fails]

theorem take?_optional (front : first.take? cs = some (taken, rest)) :
    (optional first).take? cs = some (taken, rest) := by
  simp [optional, either, front]

theorem take?_optional_of_none (fails : first.take? cs = none) :
    (optional first).take? cs = some ([], cs) := by
  simp [optional, either, fails]

theorem take?_oneOrMore (any : taken ≠ []) (within : ∀ c ∈ taken, p c = true)
    (ceases : Ceases p rest) : (oneOrMore p).take? (taken ++ rest) = some (taken, rest) := by
  obtain ⟨c, others, rfl⟩ := List.exists_cons_of_ne_nil any
  exact take?_append (take?_one (within c List.mem_cons_self))
    (take?_zeroOrMore (fun d inside => within d (List.mem_cons_of_mem _ inside)) ceases)

theorem take?_oneOrMore_of_ceases (ceases : Ceases p rest) : (oneOrMore p).take? rest = none :=
  take?_append_of_left (take?_one_of_ceases ceases)

theorem take?_oneAndUpTo {limit : Nat} (any : taken ≠ []) (few : taken.length ≤ limit + 1)
    (within : ∀ c ∈ taken, p c = true) (ceases : Ceases p rest) :
    (oneAndUpTo p limit).take? (taken ++ rest) = some (taken, rest) := by
  induction limit generalizing taken with
  | zero =>
    obtain ⟨c, rfl⟩ := List.length_eq_one_iff.mp
      (Nat.le_antisymm few (List.length_pos_iff.mpr any))
    exact take?_one (within c List.mem_cons_self)
  | succ limit ih =>
    obtain ⟨c, others, rfl⟩ := List.exists_cons_of_ne_nil any
    have here : (one p).take? (c :: (others ++ rest)) = _ := take?_one (within c List.mem_cons_self)
    refine take?_append here ?_
    cases others with
    | nil =>
      refine take?_optional_of_none ?_
      cases limit with
      | zero => exact take?_one_of_ceases ceases
      | succ limit => exact take?_append_of_left (take?_one_of_ceases ceases)
    | cons d others =>
      exact take?_optional (ih nofun (Nat.le_of_succ_le_succ few)
        fun e inside => within e (List.mem_cons_of_mem _ inside))

theorem take?_oneAndUpTo_of_ceases {limit : Nat} (ceases : Ceases p rest) :
    (oneAndUpTo p limit).take? rest = none := by
  cases limit with
  | zero => exact take?_one_of_ceases ceases
  | succ limit => exact take?_append_of_left (take?_one_of_ceases ceases)

theorem take?_before (front : first.take? cs = some (taken, rest)) (holds : follows rest = true) :
    (first.before follows).take? cs = some (taken, rest) := by
  simp [before, front, holds]

theorem take?_before_of_not (front : first.take? cs = some (taken, rest))
    (unfollowed : follows rest = false) : (first.before follows).take? cs = none := by
  simp [before, front, unfollowed]

theorem take?_before_of_none (fails : first.take? cs = none) :
    (first.before follows).take? cs = none := by
  simp [before, fails]

theorem take?_oneOrMoreBefore (any : taken ≠ []) (within : ∀ c ∈ taken, p c = true)
    (ceases : Ceases p rest) (holds : follows rest = true) :
    (oneOrMoreBefore p follows).take? (taken ++ rest) = some (taken, rest) := by
  change longestBefore p follows (taken ++ rest) = _
  induction taken with
  | nil => exact absurd rfl any
  | cons c others ih =>
    rw [List.cons_append, longestBefore, if_pos (within c List.mem_cons_self)]
    cases others with
    | nil =>
      have none : longestBefore p follows rest = none := by
        cases rest with
        | nil => rfl
        | cons d rest => simp [longestBefore, ceases d rfl]
      simp [none, holds]
    | cons d others =>
      rw [ih (List.cons_ne_nil d others) fun e inside => within e (List.mem_cons_of_mem _ inside)]

theorem length_le_of_take?_oneAndUpTo {limit : Nat}
    (took : (oneAndUpTo p limit).take? cs = some (taken, rest)) : taken.length ≤ limit + 1 := by
  induction limit generalizing cs taken with
  | zero =>
    obtain ⟨c, _, rfl⟩ := exists_of_take?_one took
    simp
  | succ limit ih =>
    obtain ⟨front, left, more, first, others, rfl⟩ := exists_of_take?_append took
    obtain ⟨c, _, rfl⟩ := exists_of_take?_one first
    rcases eq_nil_or_of_take?_optional others with rfl | there
    · simp
    · have few := ih there
      simpa using few

theorem within_oneOrMoreBefore (le : ∀ c, q c = true → p c = true) :
    (oneOrMoreBefore q follows).Within p := by
  intro cs taken rest took
  change longestBefore q follows cs = _ at took
  induction cs generalizing taken with
  | nil => cases took
  | cons c more ih =>
    rw [longestBefore] at took
    split at took
    · next here =>
      split at took
      · next found =>
        cases took
        exact List.forall_mem_cons.mpr ⟨le c here, ih found⟩
      · split at took
        · cases took
          exact List.forall_mem_singleton.mpr (le c here)
        · cases took
    · cases took

end
end SheetPricing.Text.Lexeme
