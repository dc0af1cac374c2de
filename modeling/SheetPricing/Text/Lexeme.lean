/-!
# Taking lexemes off the front of a text

A `Lexeme` says how much of the front of a text is taken. What is taken and what is left make up the
text; this is part of the type, so that no combination of lexemes loses a character.

Main statement: `Nonempty.length_lt` (a lexeme that is never empty leaves a shorter text).
-/
namespace SheetPricing.Text

/-- A way to take a lexeme off the front of a text. -/
structure Lexeme where
  take? : List Char → Option (List Char × List Char)
  splits : ∀ {cs taken rest}, take? cs = some (taken, rest) → cs = taken ++ rest

namespace Lexeme

/-- Whether a lexeme takes at least one character wherever it takes something. -/
def Nonempty (l : Lexeme) : Prop := ∀ {cs taken rest}, l.take? cs = some (taken, rest) → taken ≠ []

theorem Nonempty.length_lt {l : Lexeme} (nonempty : l.Nonempty) {cs taken rest : List Char}
    (took : l.take? cs = some (taken, rest)) : rest.length < cs.length := by
  have := List.length_pos_iff.mpr (nonempty took)
  rw [l.splits took, List.length_append]
  omega

/-- One character of a class. -/
def one (p : Char → Bool) : Lexeme where
  take?
    | [] => none
    | c :: rest => if p c then some ([c], rest) else none
  splits := by
    intro cs taken rest took
    match cs with
    | [] => simp at took
    | c :: more =>
      by_cases fits : p c
      · simp only [fits, if_true, Option.some.injEq, Prod.mk.injEq] at took
        obtain ⟨rfl, rfl⟩ := took
        rfl
      · simp [fits] at took

theorem exists_of_take?_one {p : Char → Bool} {cs taken rest : List Char}
    (took : (one p).take? cs = some (taken, rest)) : ∃ c, p c = true ∧ taken = [c] := by
  match cs with
  | [] => simp [one] at took
  | c :: more =>
    by_cases fits : p c
    · simp only [one, fits, if_true, Option.some.injEq, Prod.mk.injEq] at took
      exact ⟨c, fits, took.1.symm⟩
    · simp [one, fits] at took

theorem nonempty_one (p : Char → Bool) : (one p).Nonempty := by
  intro cs taken rest took
  obtain ⟨c, _, rfl⟩ := exists_of_take?_one took
  simp

def char (c : Char) : Lexeme := one (· == c)

/-- As many characters of a class as there are, perhaps none. -/
def zeroOrMore (p : Char → Bool) : Lexeme where
  take? cs := some (cs.takeWhile p, cs.dropWhile p)
  splits := by
    intro cs taken rest took
    simp only [Option.some.injEq, Prod.mk.injEq] at took
    obtain ⟨rfl, rfl⟩ := took
    exact List.takeWhile_append_dropWhile.symm

/-- One lexeme after another. -/
def andThen (first second : Lexeme) : Lexeme where
  take? cs := do
    let (before, middle) ← first.take? cs
    let (after, rest) ← second.take? middle
    return (before ++ after, rest)
  splits := by
    intro cs taken rest took
    simp only [Option.bind_eq_bind, Option.bind_eq_some_iff, Prod.exists, Option.pure_def,
      Option.some.injEq, Prod.mk.injEq] at took
    obtain ⟨before, middle, front, after, last, back, rfl, rfl⟩ := took
    rw [first.splits front, second.splits back, List.append_assoc]

instance : Append Lexeme := ⟨andThen⟩

theorem exists_of_take?_append {first second : Lexeme} {cs taken rest : List Char}
    (took : (first ++ second).take? cs = some (taken, rest)) :
    ∃ before middle after, first.take? cs = some (before, middle) ∧
      second.take? middle = some (after, rest) ∧ taken = before ++ after := by
  change (andThen first second).take? cs = _ at took
  simp only [andThen, Option.bind_eq_bind, Option.bind_eq_some_iff, Prod.exists, Option.pure_def,
    Option.some.injEq, Prod.mk.injEq] at took
  obtain ⟨before, middle, front, after, last, back, rfl, rfl⟩ := took
  exact ⟨before, middle, after, front, back, rfl⟩

theorem nonempty_append_left {first second : Lexeme} (nonempty : first.Nonempty) :
    (first ++ second).Nonempty := by
  intro cs taken rest took
  obtain ⟨before, middle, after, front, back, rfl⟩ := exists_of_take?_append took
  simp [nonempty front]

theorem nonempty_append_right {first second : Lexeme} (nonempty : second.Nonempty) :
    (first ++ second).Nonempty := by
  intro cs taken rest took
  obtain ⟨before, middle, after, front, back, rfl⟩ := exists_of_take?_append took
  simp [nonempty back]

/-- The first of two lexemes that takes something. -/
def either (first second : Lexeme) : Lexeme where
  take? cs := (first.take? cs).or (second.take? cs)
  splits := by
    intro cs taken rest took
    rcases Option.or_eq_some_iff.mp took with front | ⟨_, back⟩
    · exact first.splits front
    · exact second.splits back

instance : OrElse Lexeme := ⟨fun first second => either first (second ())⟩

theorem take?_or_of_take?_either {first second : Lexeme} {cs taken rest : List Char}
    (took : (first <|> second).take? cs = some (taken, rest)) :
    first.take? cs = some (taken, rest) ∨ second.take? cs = some (taken, rest) := by
  change (either first second).take? cs = _ at took
  rcases Option.or_eq_some_iff.mp took with front | ⟨_, back⟩
  · exact .inl front
  · exact .inr back

theorem nonempty_either {first second : Lexeme} (nonempty : first.Nonempty)
    (other : second.Nonempty) : (first <|> second).Nonempty := by
  intro cs taken rest took
  rcases take?_or_of_take?_either took with front | back
  · exact nonempty front
  · exact other back

/-- A lexeme if it is there, nothing otherwise. -/
def optional (l : Lexeme) : Lexeme := either l ⟨fun cs => some ([], cs), by simp⟩

theorem eq_nil_or_of_take?_optional {l : Lexeme} {cs taken rest : List Char}
    (took : (optional l).take? cs = some (taken, rest)) :
    taken = [] ∨ l.take? cs = some (taken, rest) := by
  change (either l _).take? cs = _ at took
  rcases Option.or_eq_some_iff.mp took with there | ⟨_, none⟩
  · exact .inr there
  · simp only [Option.some.injEq, Prod.mk.injEq] at none
    exact .inl none.1.symm

/-- At least one character of a class, and as many as there are. -/
def oneOrMore (p : Char → Bool) : Lexeme := one p ++ zeroOrMore p

theorem nonempty_oneOrMore (p : Char → Bool) : (oneOrMore p).Nonempty :=
  nonempty_append_left (nonempty_one p)

/-- One character of a class and up to so many more. -/
def oneAndUpTo (p : Char → Bool) : Nat → Lexeme
  | 0 => one p
  | more + 1 => one p ++ optional (oneAndUpTo p more)

theorem nonempty_oneAndUpTo (p : Char → Bool) : (limit : Nat) → (oneAndUpTo p limit).Nonempty
  | 0 => nonempty_one p
  | _ + 1 => nonempty_append_left (nonempty_one p)

/-- Whether a lexeme takes characters of a class only. -/
def Within (l : Lexeme) (p : Char → Bool) : Prop :=
  ∀ ⦃cs taken rest⦄, l.take? cs = some (taken, rest) → ∀ c ∈ taken, p c = true

section
variable {p q : Char → Bool}

theorem within_one (le : ∀ c, q c = true → p c = true) : (one q).Within p := by
  intro cs taken rest took c inside
  obtain ⟨d, fits, rfl⟩ := exists_of_take?_one took
  obtain rfl := List.mem_singleton.mp inside
  exact le c fits

theorem within_zeroOrMore (le : ∀ c, q c = true → p c = true) : (zeroOrMore q).Within p := by
  intro cs taken rest took c inside
  simp only [zeroOrMore, Option.some.injEq, Prod.mk.injEq] at took
  obtain ⟨rfl, _⟩ := took
  exact le c (List.all_eq_true.mp List.all_takeWhile c inside)

theorem within_append {first second : Lexeme} (left : first.Within p) (right : second.Within p) :
    (first ++ second).Within p := by
  intro cs taken rest took c inside
  obtain ⟨before, middle, after, front, back, rfl⟩ := exists_of_take?_append took
  rcases List.mem_append.mp inside with early | late
  · exact left front c early
  · exact right back c late

theorem within_optional {l : Lexeme} (within : l.Within p) : (optional l).Within p := by
  intro cs taken rest took c inside
  rcases eq_nil_or_of_take?_optional took with rfl | there
  · exact absurd inside List.not_mem_nil
  · exact within there c inside

theorem within_oneOrMore (le : ∀ c, q c = true → p c = true) : (oneOrMore q).Within p :=
  within_append (within_one le) (within_zeroOrMore le)

theorem within_oneAndUpTo (le : ∀ c, q c = true → p c = true) :
    (limit : Nat) → (oneAndUpTo q limit).Within p
  | 0 => within_one le
  | more + 1 => within_append (within_one le) (within_optional (within_oneAndUpTo le more))

end

/-- A lexeme whose following text is of some form. -/
def before (l : Lexeme) (follows : List Char → Bool) : Lexeme where
  take? cs := (l.take? cs).filter fun (_, rest) => follows rest
  splits := by
    intro cs taken rest took
    exact l.splits (Option.filter_eq_some_iff.mp took).1

theorem nonempty_before {l : Lexeme} (nonempty : l.Nonempty) (follows : List Char → Bool) :
    (l.before follows).Nonempty := fun took => nonempty (Option.filter_eq_some_iff.mp took).1

/-- At least one character of a class, and as many as there are before a text of some form. -/
def longestBefore (p : Char → Bool) (follows : List Char → Bool) :
    List Char → Option (List Char × List Char)
  | [] => none
  | c :: rest =>
    if p c then
      match longestBefore p follows rest with
      | some (more, after) => some (c :: more, after)
      | none => if follows rest then some ([c], rest) else none
    else none

theorem longestBefore_splits {p : Char → Bool} {follows : List Char → Bool}
    {cs taken rest : List Char} (took : longestBefore p follows cs = some (taken, rest)) :
    cs = taken ++ rest := by
  induction cs generalizing taken with
  | nil => simp [longestBefore] at took
  | cons c more ih =>
    simp only [longestBefore] at took
    split at took
    · split at took
      · next found =>
        simp only [Option.some.injEq, Prod.mk.injEq] at took
        obtain ⟨rfl, rfl⟩ := took
        rw [List.cons_append, ← ih found]
      · split at took
        · simp only [Option.some.injEq, Prod.mk.injEq] at took
          obtain ⟨rfl, rfl⟩ := took
          rfl
        · simp at took
    · simp at took

/-- As `oneOrMore`, but shorter where a text of some form must follow. -/
def oneOrMoreBefore (p : Char → Bool) (follows : List Char → Bool) : Lexeme :=
  ⟨longestBefore p follows, longestBefore_splits⟩

theorem nonempty_oneOrMoreBefore (p : Char → Bool) (follows : List Char → Bool) :
    (oneOrMoreBefore p follows).Nonempty := by
  intro cs taken rest took
  change longestBefore p follows cs = _ at took
  match cs with
  | [] => simp [longestBefore] at took
  | c :: more =>
    simp only [longestBefore] at took
    split at took
    · split at took
      · simp only [Option.some.injEq, Prod.mk.injEq] at took
        simp [← took.1]
      · split at took
        · simp only [Option.some.injEq, Prod.mk.injEq] at took
          simp [← took.1]
        · simp at took
    · simp at took

/-- One character after another, each of its class. -/
def word : List (Char → Bool) → Lexeme
  | [] => ⟨fun cs => some ([], cs), by simp⟩
  | p :: rest => one p ++ word rest

end Lexeme
end SheetPricing.Text
