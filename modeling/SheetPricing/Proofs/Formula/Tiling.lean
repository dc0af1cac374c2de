import SheetPricing.Proofs.Formula.Following
import SheetPricing.Proofs.Outcome

/-! Tokens and the text that they are taken from. The tokens of a text lie in it one behind the other
with nothing but blanks between them, and they are the tokens again of a text that spells them with
blanks between them. -/
namespace SheetPricing.Formula
open Text (isBlank isDigit)
open Text.Lexeme

/-- The place behind a token. -/
def Token.stop (token : Token) : Nat := token.position + token.text.toList.length

/-- From one place to another a text is made up of tokens, in order and apart, and of blanks. -/
structure Tiled (text : List Char) (start stop : Nat) (tokens : List Token) : Prop where
  bound : start ≤ stop ∧ stop ≤ text.length
  nonempty : ∀ token ∈ tokens, token.text ≠ ""
  slice : ∀ token ∈ tokens,
    (text.drop token.position).take token.text.toList.length = token.text.toList
  /-- Each token is the one that fits at its place. -/
  fits : ∀ token ∈ tokens, next? (text.drop token.position)
    = some (some token.kind, token.text.toList, text.drop token.stop)
  within : ∀ token ∈ tokens, start ≤ token.position ∧ token.stop ≤ stop
  apart : tokens.Pairwise fun earlier later => earlier.stop ≤ later.position
  blank : ∀ place c, text[place]? = some c → start ≤ place → place < stop →
    (∀ token ∈ tokens, place < token.position ∨ token.stop ≤ place) → isBlank c = true

section
variable {text cs taken rest : List Char} {start middle stop position : Nat} {tokens : List Token}
  {kind : TokenKind}

theorem Tiled.nil (bound : start ≤ text.length) : Tiled text start start [] where
  bound := ⟨Nat.le_refl _, bound⟩
  nonempty := nofun
  slice := nofun
  fits := nofun
  within := nofun
  apart := .nil
  blank _ _ _ behind before := absurd behind (Nat.not_le.mpr before)

theorem Tiled.skip (tiled : Tiled text middle stop tokens) (le : start ≤ middle)
    (blank : ∀ place c, text[place]? = some c → start ≤ place → place < middle → isBlank c = true) :
    Tiled text start stop tokens where
  bound := ⟨le.trans tiled.bound.1, tiled.bound.2⟩
  nonempty := tiled.nonempty
  slice := tiled.slice
  fits := tiled.fits
  within token inside := ⟨le.trans (tiled.within token inside).1, (tiled.within token inside).2⟩
  apart := tiled.apart
  blank place c here behind before outside := by
    by_cases early : place < middle
    · exact blank place c here behind early
    · exact tiled.blank place c here (Nat.not_lt.mp early) before outside

theorem Tiled.cons {token : Token} (tiled : Tiled text token.stop stop tokens)
    (fits : next? (text.drop token.position)
      = some (some token.kind, token.text.toList, text.drop token.stop)) :
    Tiled text token.position stop (token :: tokens) := by
  have split := splits_of_next? fits
  have slice : (text.drop token.position).take token.text.toList.length = token.text.toList := by
    rw [split, List.take_left]
  have nonempty : token.text ≠ "" := by
    obtain ⟨c, others, some, _⟩ := head_of_next? fits
    rintro empty
    rw [empty] at some
    cases some
  refine ⟨⟨?_, tiled.bound.2⟩, ?_, ?_, ?_, ?_, ?_, ?_⟩
  · exact (Nat.le_add_right _ _).trans tiled.bound.1
  · exact List.forall_mem_cons.mpr ⟨nonempty, tiled.nonempty⟩
  · exact List.forall_mem_cons.mpr ⟨slice, tiled.slice⟩
  · exact List.forall_mem_cons.mpr ⟨fits, tiled.fits⟩
  · refine List.forall_mem_cons.mpr ⟨⟨Nat.le_refl _, tiled.bound.1⟩, fun other inside => ?_⟩
    obtain ⟨low, high⟩ := tiled.within other inside
    exact ⟨(Nat.le_add_right _ _).trans low, high⟩
  · exact .cons (fun other inside => (tiled.within other inside).1) tiled.apart
  · intro place c here behind before outside
    obtain ⟨first, others⟩ := List.forall_mem_cons.mp outside
    have late : token.stop ≤ place := first.resolve_left (Nat.not_lt.mpr behind)
    exact tiled.blank place c here late before others

/-- Where scanning stops for a reason: no token fits at the place that is reported, no blank stands
there, and up to it the text is tiled. -/
def StopsAt (text : List Char) (start : Nat) (reason : Malformation) : Prop :=
  ∃ place c tokens, reason = .unsupported place (String.ofList ((text.drop place).take excerptLength)) ∧
    text[place]? = some c ∧ isBlank c = false ∧ next? (text.drop place) = none ∧
    Tiled text start place tokens

theorem tiled_scan (front : List Char) (here : position = front.length) :
    match scan position cs with
    | .ok tokens => Tiled (front ++ cs) position (front ++ cs).length tokens
    | .error reason => StopsAt (front ++ cs) position reason := by
  induction position, cs using scan.induct generalizing front with
  | case1 position cs empty =>
    obtain rfl := List.isEmpty_iff.mp empty
    rw [scan, if_pos empty, here, List.append_nil]
    exact Tiled.nil (Nat.le_refl _)
  | case2 position cs filled fails =>
    obtain ⟨c, more, rfl⟩ := List.exists_cons_of_ne_nil (by simpa using filled)
    rw [scan_of_none fails (List.cons_ne_nil c more)]
    refine ⟨position, c, [], ?_, ?_, ?_, ?_, Tiled.nil ?_⟩
    · rw [here, List.drop_left]
    · simp [here]
    · refine Bool.eq_false_iff.mpr fun blank => ?_
      exact Option.some_ne_none _ ((next?_of_blank blank more).symm.trans fails)
    · rw [here, List.drop_left, fails]
    · simp [here]
  | case3 position cs filled taken rest found ih =>
    have blank := blank_of_next? found
    obtain rfl := splits_of_next? found
    have behind := ih (front ++ taken) (by simp [here])
    have skip {stop : Nat} {tokens : List Token}
        (tiled : Tiled (front ++ (taken ++ rest)) (position + taken.length) stop tokens) :
        Tiled (front ++ (taken ++ rest)) position stop tokens := by
      refine tiled.skip (Nat.le_add_right _ _) fun place c held low high => blank c ?_
      rw [List.getElem?_append_right (here ▸ low), List.getElem?_append_left (by omega)] at held
      exact List.mem_of_getElem? held
    rw [List.append_assoc] at behind
    rw [scan_of_blanks found]
    cases result : scan (position + taken.length) rest with
    | ok tokens =>
      rw [result] at behind
      exact skip behind
    | error reason =>
      rw [result] at behind
      obtain ⟨place, c, tokens, told, held, solid, fails, tiled⟩ := behind
      exact ⟨place, c, tokens, told, held, solid, fails, skip tiled⟩
  | case4 position cs filled kind taken rest found ih =>
    obtain rfl := splits_of_next? found
    have behind := ih (front ++ taken) (by simp [here])
    let token : Token := ⟨kind, String.ofList taken, position, promises_of_next? found⟩
    have ends : token.stop = position + taken.length := by simp [token, Token.stop]
    have cons {stop : Nat} {tokens : List Token}
        (tiled : Tiled (front ++ (taken ++ rest)) (position + taken.length) stop tokens) :
        Tiled (front ++ (taken ++ rest)) position stop (token :: tokens) := by
      refine (Tiled.cons (ends ▸ tiled) ?_ : Tiled _ token.position stop (token :: tokens))
      have later : (front ++ (taken ++ rest)).drop token.stop = rest := by
        rw [ends, here, ← List.append_assoc, ← List.length_append, List.drop_left]
      have now : (front ++ (taken ++ rest)).drop token.position = taken ++ rest := by
        rw [show token.position = front.length from here, List.drop_left]
      rw [later, now, found, String.toList_ofList]
    rw [List.append_assoc] at behind
    rw [scan_of_token found]
    cases result : scan (position + taken.length) rest with
    | ok tokens =>
      rw [result] at behind
      exact cons behind
    | error reason =>
      rw [result] at behind
      obtain ⟨place, c, tokens, told, held, solid, fails, tiled⟩ := behind
      exact ⟨place, c, token :: tokens, told, held, solid, fails, cons tiled⟩

/-- Tokens written one behind the other, each behind a blank. -/
def spread (tokens : List Token) : List Char := tokens.flatMap fun token => ' ' :: token.text.toList

/-- What a token is but for its place. -/
def Token.spelling (token : Token) : TokenKind × String := (token.kind, token.text)

theorem head_of_scan (ok : scan position cs = .ok tokens) :
    (cs.dropWhile isBlank).head? = ((spread tokens).dropWhile isBlank).head? ∧
      ((spread tokens).dropWhile isBlank).head? ≠ some ':' := by
  induction position, cs using scan.induct generalizing tokens with
  | case1 position cs empty =>
    obtain rfl := List.isEmpty_iff.mp empty
    rw [scan, if_pos empty] at ok
    cases ok
    exact ⟨rfl, (Option.some_ne_none _).symm⟩
  | case2 position cs filled fails =>
    rw [scan_of_none fails (by simpa using filled)] at ok
    cases ok
  | case3 position cs filled taken rest found ih =>
    rw [scan_of_blanks found] at ok
    rw [splits_of_next? found, List.dropWhile_append_of_pos (blank_of_next? found)]
    exact ih ok
  | case4 position cs filled kind taken rest found ih =>
    rw [scan_of_token found] at ok
    obtain ⟨others, _, rfl⟩ := exists_of_map ok
    obtain ⟨c, more, rfl, opens⟩ := head_of_next? found
    obtain rfl := splits_of_next? found
    have solid := solid_of_next? found
    have colon : c ≠ ':' := by
      rintro rfl
      cases kind <;> exact absurd opens (by decide)
    simp [spread, solid, colon, show isBlank ' ' = true by decide]

theorem ended_spread (tokens : List Token) : Ceases (fun c => !isBlank c) (spread tokens) := by
  cases tokens with
  | nil => exact ceases_nil
  | cons token others => exact ceases_cons (by decide)

/-- Instead of the rest of a text its tokens may follow, each behind a blank. -/
theorem follows_spread (ok : scan position cs = .ok tokens) : Follows cs (spread tokens) := by
  obtain ⟨same, other⟩ := head_of_scan ok
  refine .of_ended (ended_spread tokens) ?_ fun _ => take?_span_of_head other
  rw [opens, opens, same]

theorem toList_intercalate_texts (tokens : List Token) :
    (" ".intercalate (tokens.map Token.text)).toList = (spread tokens).drop 1 := by
  induction tokens with
  | nil => rfl
  | cons token others ih =>
    cases others with
    | nil => simp [spread]
    | cons next more =>
      rw [List.map_cons, List.map_cons, String.intercalate_cons_cons, ← List.map_cons,
        String.toList_append, String.toList_append, ih]
      simp [spread]

/-- The tokens of a text are those of their texts with blanks between them. -/
theorem scan_spread (ok : scan position cs = .ok tokens) (place : Nat) :
    ∃ again, scan place ((spread tokens).drop 1) = .ok again ∧
      again.map Token.spelling = tokens.map Token.spelling := by
  induction position, cs using scan.induct generalizing tokens place with
  | case1 position cs empty =>
    obtain rfl := List.isEmpty_iff.mp empty
    rw [scan, if_pos empty] at ok
    cases ok
    exact ⟨[], by rw [spread, List.flatMap_nil, List.drop_nil, scan]; rfl, rfl⟩
  | case2 position cs filled fails =>
    rw [scan_of_none fails (by simpa using filled)] at ok
    cases ok
  | case3 position cs filled taken rest found ih =>
    rw [scan_of_blanks found] at ok
    exact ih ok place
  | case4 position cs filled kind taken rest found ih =>
    rw [scan_of_token found] at ok
    obtain ⟨others, behind, rfl⟩ := exists_of_map ok
    have ceases : Ceases isDigit (spread others) :=
      (ended_spread others).mono fun c digit => by rw [solid_of_isDigit digit]; rfl
    have here := (follows_spread behind).next? (fun _ => ceases) (splits_of_next? found ▸ found)
    have text : (spread (⟨kind, String.ofList taken, position, promises_of_next? found⟩ :: others)).drop 1
        = taken ++ spread others := by simp [spread]
    -- The blank before the next token only moves it.
    obtain ⟨again, scanned, same⟩ : ∃ again, scan (place + taken.length) (spread others) = .ok again ∧
        again.map Token.spelling = others.map Token.spelling := by
      cases others with
      | nil => exact ih behind _
      | cons token more =>
        have blank : ∀ c ∈ [' '], isBlank c = true := List.forall_mem_singleton.mpr (by decide)
        have moved := scan_append_of_blank blank ((spread (token :: more)).drop 1) (place + taken.length)
        obtain ⟨again, scanned, same⟩ := ih behind (place + taken.length + 1)
        exact ⟨again, moved.trans scanned, same⟩
    rw [text, scan_of_token here, scanned]
    exact ⟨_, rfl, congrArg (_ :: ·) same⟩

end

/-- The tokens of a text lie in it in order and apart with only blanks between them, and a text that
spells them with single blanks between them has the same tokens. Where a text has no tokens it is tiled
in that way up to the place that is reported, and no blank stands there. -/
theorem tokenize_tiles (formula : String) :
    match tokenize formula with
    | .ok tokens => Tiled formula.toList 0 formula.toList.length tokens ∧
      ∃ again, tokenize (" ".intercalate (tokens.map Token.text)) = .ok again ∧
        again.map Token.spelling = tokens.map Token.spelling
    | .error reason => StopsAt formula.toList 0 reason := by
  have tiled := @tiled_scan formula.toList 0 [] rfl
  rw [List.nil_append] at tiled
  cases result : tokenize formula with
  | error reason =>
    rw [tokenize] at result
    rw [result] at tiled
    exact tiled
  | ok tokens =>
    rw [tokenize] at result
    rw [result] at tiled
    refine ⟨tiled, ?_⟩
    rw [tokenize, toList_intercalate_texts]
    exact scan_spread result 0

end SheetPricing.Formula
