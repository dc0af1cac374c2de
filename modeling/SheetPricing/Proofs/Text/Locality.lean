import SheetPricing.Proofs.Text.Lexeme

/-! How much of a text decides what a lexeme takes off it: the first character tells where it can be
found, and the one behind what is taken tells where it ends. -/
namespace SheetPricing.Text.Lexeme

/-- A lexeme is found only where a character of a class stands first. -/
def Begins (l : Lexeme) (p : Char → Bool) : Prop := ∀ ⦃cs⦄, Ceases p cs → l.take? cs = none

/-- What follows may be another text if it starts alike or with no character of a class. -/
def Alike (p : Char → Bool) (rest other : List Char) : Prop :=
  other.head? = rest.head? ∨ Ceases p other

/-- A lexeme takes the same when what follows is alike. -/
def Local (l : Lexeme) (p : Char → Bool) : Prop :=
  ∀ ⦃taken rest other⦄, l.take? (taken ++ rest) = some (taken, rest) → Alike p rest other →
    l.take? (taken ++ other) = some (taken, other)

section
variable {p q : Char → Bool} {first second : Lexeme} {cs taken rest other : List Char}

theorem ceases_nil : Ceases p [] := by
  rintro _ ⟨⟩

theorem dropWhile_of_ceases (ceases : Ceases p rest) : rest.dropWhile p = rest := by
  have none : ∀ c ∈ ([] : List Char), p c = true := nofun
  exact dropWhile_append_of_ceases none ceases

theorem Begins.head (begins : first.Begins p) (took : first.take? cs = some (taken, rest)) :
    ∃ c ∈ cs.head?, p c = true := by
  cases cs with
  | nil => cases (begins ceases_nil).symm.trans took
  | cons c more =>
    refine ⟨c, rfl, (Bool.not_eq_false _).mp fun outside => ?_⟩
    cases (begins (ceases_cons outside)).symm.trans took

theorem Begins.mono (begins : first.Begins p) (le : ∀ c, p c = true → q c = true) : first.Begins q :=
  fun _ ceases => begins (ceases.mono le)

theorem begins_one : (one p).Begins p := fun _ => take?_one_of_ceases

theorem begins_append (begins : first.Begins p) : (first ++ second).Begins p :=
  fun _ ceases => take?_append_of_left (begins ceases)

theorem begins_optional_append (begins : first.Begins p) (next : second.Begins q) :
    (optional first ++ second).Begins fun c => p c || q c := fun _ ceases =>
  take?_append_of_right (take?_optional_of_none (begins (ceases.mono fun c inside => by simp [inside])))
    (next (ceases.mono fun c inside => by simp [inside]))

theorem begins_either (begins : first.Begins p) (other : second.Begins q) :
    (first <|> second).Begins fun c => p c || q c := fun _ ceases =>
  (take?_either_of_right (begins (ceases.mono fun c inside => by simp [inside]))).trans
    (other (ceases.mono fun c inside => by simp [inside]))

theorem begins_before {follows : List Char → Bool} (begins : first.Begins p) :
    (first.before follows).Begins p := fun _ ceases => take?_before_of_none (begins ceases)

theorem begins_oneAndUpTo {limit : Nat} : (oneAndUpTo p limit).Begins p :=
  fun _ => take?_oneAndUpTo_of_ceases

theorem begins_oneOrMoreBefore {follows : List Char → Bool} : (oneOrMoreBefore p follows).Begins p := by
  intro cs ceases
  change longestBefore p follows cs = none
  cases cs with
  | nil => rfl
  | cons c more => simp [longestBefore, ceases c rfl]

theorem Alike.ceases (alike : Alike p rest other) (ceases : Ceases q rest)
    (le : ∀ c, q c = true → p c = true) : Ceases q other := by
  rcases alike with same | ended
  · exact fun c here => ceases c (same ▸ here)
  · exact ended.mono le

theorem Alike.mono (alike : Alike p rest other) (le : ∀ c, q c = true → p c = true) :
    Alike q rest other := alike.imp_right (·.mono le)

/-- Whatever follows, a text starts alike behind characters that stay. -/
theorem alike_append (some : cs ≠ []) : Alike p (cs ++ rest) (cs ++ other) := by
  obtain ⟨c, more, rfl⟩ := List.exists_cons_of_ne_nil some
  exact .inl rfl

theorem Alike.append (alike : Alike p rest other) : Alike p (cs ++ rest) (cs ++ other) := by
  cases cs with
  | nil => exact alike
  | cons c more => exact .inl rfl

/-- A lexeme takes the front of a text, whichever text it is that begins so. -/
theorem exists_append_of_take?_append
    (took : (first ++ second).take? (taken ++ rest) = some (taken, rest)) :
    ∃ before after, taken = before ++ after ∧
      first.take? (before ++ (after ++ rest)) = some (before, after ++ rest) ∧
      second.take? (after ++ rest) = some (after, rest) := by
  obtain ⟨before, middle, after, front, back, rfl⟩ := exists_of_take?_append took
  obtain rfl := second.splits back
  rw [List.append_assoc] at front
  exact ⟨before, after, rfl, front, back⟩

theorem Local.mono (near : first.Local q) (le : ∀ c, q c = true → p c = true) : first.Local p :=
  fun _ _ _ took alike => near took (alike.mono le)

theorem local_one : (one p).Local q := by
  intro taken rest other took _
  obtain ⟨c, inside, rfl⟩ := exists_of_take?_one took
  exact take?_one inside

theorem ceases_of_take?_zeroOrMore (took : (zeroOrMore p).take? cs = some (taken, rest)) :
    Ceases p rest := by
  simp only [zeroOrMore, Option.some.injEq, Prod.mk.injEq] at took
  obtain ⟨_, rfl⟩ := took
  intro c here
  have some : cs.dropWhile p ≠ [] := List.ne_nil_of_mem (List.mem_of_mem_head? here)
  rw [List.head?_eq_some_head some, Option.mem_some] at here
  exact here ▸ List.head_dropWhile_not p some

theorem local_zeroOrMore : (zeroOrMore p).Local p := by
  intro taken rest other took alike
  exact take?_zeroOrMore (within_zeroOrMore (fun _ => id) took)
    (alike.ceases (ceases_of_take?_zeroOrMore took) fun _ => id)

theorem local_append (front : first.Local p) (back : second.Local p) : (first ++ second).Local p := by
  intro taken rest other took alike
  obtain ⟨before, after, rfl, left, right⟩ := exists_append_of_take?_append took
  rw [List.append_assoc]
  exact take?_append (front left alike.append) (back right alike)

theorem local_append_of_nonempty (nonempty : second.Nonempty) (front : first.Local q)
    (back : second.Local p) : (first ++ second).Local p := by
  intro taken rest other took alike
  obtain ⟨before, after, rfl, left, right⟩ := exists_append_of_take?_append took
  rw [List.append_assoc]
  exact take?_append (front left (alike_append (nonempty right))) (back right alike)

theorem local_oneOrMore : (oneOrMore p).Local p := local_append local_one local_zeroOrMore

theorem ceases_of_take?_oneOrMore (took : (oneOrMore p).take? cs = some (taken, rest)) :
    Ceases p rest := by
  obtain ⟨before, middle, after, front, back, rfl⟩ := exists_of_take?_append took
  exact ceases_of_take?_zeroOrMore back

theorem ceases_of_take?_one (none : (one p).take? cs = none) : Ceases p cs := by
  rintro c here
  obtain ⟨more, rfl⟩ := List.head?_eq_some_iff.mp here
  exact Bool.eq_false_iff.mpr fun inside => nomatch none.symm.trans (take?_one inside)

theorem take?_of_take?_optional (took : (optional first).take? cs = some (taken, rest)) :
    first.take? cs = some (taken, rest) ∨ first.take? cs = none ∧ taken = [] ∧ rest = cs := by
  change (either first _).take? cs = _ at took
  rcases Option.or_eq_some_iff.mp took with there | ⟨none, nothing⟩
  · exact .inl there
  · cases nothing
    exact .inr ⟨none, rfl, rfl⟩

theorem local_optional_one : (optional (one p)).Local p := by
  intro taken rest other took alike
  rcases take?_of_take?_optional took with there | ⟨none, rfl, _⟩
  · exact take?_optional (local_one there alike)
  · exact take?_optional_of_none (take?_one_of_ceases
      (alike.ceases (ceases_of_take?_one none) fun _ => id))

theorem local_word (classes : List (Char → Bool)) : (word classes).Local p := by
  induction classes with
  | nil =>
    intro taken rest other took _
    cases took
    rfl
  | cons q others ih => exact local_append local_one ih

theorem take?_of_take?_either (took : (first <|> second).take? cs = some (taken, rest)) :
    first.take? cs = some (taken, rest) ∨
      first.take? cs = none ∧ second.take? cs = some (taken, rest) := by
  change (either first second).take? cs = _ at took
  rcases Option.or_eq_some_iff.mp took with front | ⟨none, back⟩
  · exact .inl front
  · exact .inr ⟨none, back⟩

theorem within_either (front : first.Within p) (back : second.Within p) :
    (first <|> second).Within p := by
  intro cs taken rest took
  rcases take?_or_of_take?_either took with there | there
  · exact front there
  · exact back there

/-- Of two lexemes the second still takes the same if the first still fails. -/
theorem local_either (front : first.Local p) (back : second.Local p)
    (fails : ∀ ⦃taken rest other⦄, second.take? (taken ++ rest) = some (taken, rest) →
      first.take? (taken ++ rest) = none → Alike p rest other → first.take? (taken ++ other) = none) :
    (first <|> second).Local p := by
  intro taken rest other took alike
  rcases take?_of_take?_either took with there | ⟨none, there⟩
  · exact take?_either_of_left (front there alike)
  · exact (take?_either_of_right (fails there none alike)).trans (back there alike)

theorem of_take?_before {follows : List Char → Bool}
    (took : (first.before follows).take? cs = some (taken, rest)) :
    first.take? cs = some (taken, rest) ∧ follows rest = true :=
  Option.filter_eq_some_iff.mp took

theorem local_before {follows : List Char → Bool} (near : first.Local p)
    (still : ∀ ⦃rest other⦄, follows rest = true → Alike p rest other → follows other = true) :
    (first.before follows).Local p := by
  intro taken rest other took alike
  obtain ⟨front, holds⟩ := of_take?_before took
  exact take?_before (near front alike) (still holds alike)

theorem exists_cons_of_take?_word {classes : List (Char → Bool)}
    (took : (word (p :: classes)).take? cs = some (taken, rest)) :
    ∃ c after middle, taken = c :: after ∧ p c = true ∧
      (word classes).take? middle = some (after, rest) := by
  obtain ⟨before, middle, after, front, back, rfl⟩ := exists_of_take?_append took
  obtain ⟨c, inside, rfl⟩ := exists_of_take?_one front
  exact ⟨c, after, middle, rfl, inside, back⟩

theorem ends_of_take?_oneOrMoreBefore {follows : List Char → Bool}
    (took : (oneOrMoreBefore p follows).take? cs = some (taken, rest)) : follows rest = true := by
  change longestBefore p follows cs = _ at took
  induction cs generalizing taken with
  | nil => cases took
  | cons c more ih =>
    rw [longestBefore] at took
    split at took
    · split at took
      · next found =>
        cases took
        exact ih found
      · split at took
        · next holds =>
          cases took
          exact holds
        · cases took
    · cases took

theorem exists_take?_optional (l : Lexeme) (cs : List Char) :
    ∃ taken rest, (optional l).take? cs = some (taken, rest) := by
  cases there : l.take? cs with
  | none => exact ⟨[], cs, take?_optional_of_none there⟩
  | some found => exact ⟨found.1, found.2, take?_optional there⟩

theorem exists_take?_oneOrMoreBefore {follows : List Char → Bool} (any : taken ≠ [])
    (within : ∀ c ∈ taken, p c = true) (holds : follows rest = true) :
    ∃ front left, (oneOrMoreBefore p follows).take? (taken ++ rest) = some (front, left) := by
  change ∃ front left, longestBefore p follows (taken ++ rest) = some (front, left)
  induction taken with
  | nil => exact absurd rfl any
  | cons c others ih =>
    rw [List.cons_append, longestBefore, if_pos (within c List.mem_cons_self)]
    cases longer : longestBefore p follows (others ++ rest) with
    | some found => exact ⟨_, _, rfl⟩
    | none =>
      cases others with
      | nil => exact ⟨_, _, if_pos holds⟩
      | cons d more =>
        obtain ⟨front, left, took⟩ :=
          ih (List.cons_ne_nil d more) fun e inside => within e (List.mem_cons_of_mem _ inside)
        cases longer.symm.trans took

end
end SheetPricing.Text.Lexeme
