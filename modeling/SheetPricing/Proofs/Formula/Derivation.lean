import SheetPricing.Proofs.Formula.Grammar
import SheetPricing.Proofs.Outcome

/-! What the readers read is derived. Each reader takes tokens off the front, and those make an
expression of its level: for a row of operators this is shown for what was read so far together
with what follows. -/
namespace SheetPricing.Formula

/-- A reader that takes tokens of a level. -/
def Sound (level : Level) (reader : Reader Expr) : Prop :=
  ∀ tokens value rest fewer, reader tokens = .ok ⟨value, rest, fewer⟩ →
    ∃ front, tokens = front ++ rest ∧ Derives level front value

section
variable {level next : Level} {operand : Reader Expr} (below : level.tighter? = some next)
  (sound : Sound next operand)
include below sound

private theorem derives_extendRow {left value : Expr} {before rest : List Token}
    (tokens : List Token) {within : rest.length ≤ tokens.length}
    (first : Derives level before left)
    (read : extendRow level.operators operand left tokens = .ok ⟨value, rest, within⟩) :
    ∃ front, tokens = front ++ rest ∧ Derives level (before ++ front) value := by
  induction size : tokens.length using Nat.strongRecOn generalizing left before tokens with
  | ind size' ih =>
    subst size
    match tokens with
    | [] =>
      rw [extendRow] at read
      obtain ⟨rfl, rfl⟩ := Kept.mk.inj (Except.ok.inj read)
      exact ⟨[], rfl, by simpa using first⟩
    | token :: tokens =>
      rw [extendRow] at read
      split at read
      · obtain ⟨rfl, rfl⟩ := Kept.mk.inj (Except.ok.inj read)
        exact ⟨[], rfl, by simpa using first⟩
      · next operator found =>
        obtain ⟨⟨right, middle, fewer⟩, taken, read⟩ := ok_of_bind read
        obtain ⟨⟨row, after, within⟩, extended, read⟩ := ok_of_bind read
        obtain ⟨rfl, rfl⟩ := Kept.mk.inj (Except.ok.inj read)
        obtain ⟨others, rfl, second⟩ := sound tokens right middle fewer taken
        obtain ⟨listed, between⟩ := Token.among_eq_some_iff.mp found
        have joined := Derives.row first listed between below second
        obtain ⟨front, split, derived⟩ := ih _ (Nat.lt_succ_of_lt fewer) middle joined extended rfl
        refine ⟨token :: others ++ front, by simp [split], ?_⟩
        simpa only [List.append_assoc] using derived

theorem sound_readRow : Sound level (readRow level.operators operand) := by
  intro tokens value rest fewer read
  obtain ⟨⟨first, middle, _⟩, taken, read⟩ := ok_of_bind read
  obtain ⟨⟨row, after, _⟩, extended, read⟩ := ok_of_bind read
  obtain ⟨rfl, rfl⟩ := Taken.mk.inj (Except.ok.inj read)
  obtain ⟨before, rfl, derived⟩ := sound tokens first middle _ taken
  obtain ⟨front, split, whole⟩ :=
    derives_extendRow below sound middle (.tighter below derived) extended
  exact ⟨before ++ front, by simp [split], whole⟩

end

section
variable {reader : Reader Expr}

theorem sound_readSum (sound : Sound .signed reader) : Sound .sum (readSum reader) := by
  have power : Sound .power (readPower reader) := sound_readRow rfl sound
  have product : Sound .product (readProduct reader) := sound_readRow rfl power
  exact sound_readRow rfl product

theorem sound_readComparison (sound : Sound .signed reader) :
    Sound .comparison (readComparison reader) := by
  intro tokens value rest fewer read
  obtain ⟨⟨left, middle, _⟩, first, read⟩ := ok_of_bind read
  obtain ⟨before, rfl, derived⟩ := sound_readSum sound tokens left middle _ first
  match middle with
  | [] =>
    obtain ⟨rfl, rfl⟩ := Taken.mk.inj (Except.ok.inj read)
    exact ⟨before, rfl, .tighter rfl derived⟩
  | token :: others =>
    dsimp only at read
    split at read
    · obtain ⟨rfl, rfl⟩ := Taken.mk.inj (Except.ok.inj read)
      exact ⟨before, rfl, .tighter rfl derived⟩
    · next operator found =>
      obtain ⟨⟨right, after, _⟩, second, read⟩ := ok_of_bind read
      obtain ⟨rfl, rfl⟩ := Taken.mk.inj (Except.ok.inj read)
      obtain ⟨front, rfl, derivedRight⟩ := sound_readSum sound others right after _ second
      have between := Token.comparison?_eq_some_iff.mp found
      exact ⟨before ++ token :: front, by simp, .compared derived between derivedRight⟩

private theorem derives_readPercents {operand : Expr} {before : List Token} (tokens : List Token)
    (first : Derives .percent before operand) :
    ∃ front, tokens = front ++ (readPercents operand tokens).rest ∧
      Derives .percent (before ++ front) (readPercents operand tokens).value := by
  induction tokens generalizing operand before with
  | nil => exact ⟨[], rfl, by simpa [readPercents] using first⟩
  | cons token rest ih =>
    rw [readPercents]
    split
    · next percent =>
      have joined := first.percent (Token.isPercent_iff.mp percent)
      obtain ⟨front, split, derived⟩ := ih joined
      exact ⟨token :: front, by rw [List.cons_append, ← split], by simpa using derived⟩
    · exact ⟨[], rfl, by simpa using first⟩

private theorem eq_cons_of_readToken {kind : TokenKind} {tokens rest : List Token} {token : Token}
    {fewer : rest.length < tokens.length}
    (read : readToken kind tokens = .ok ⟨token, rest, fewer⟩) :
    tokens = token :: rest ∧ token.kind = kind := by
  cases tokens with
  | nil => cases read
  | cons first others =>
    rw [readToken] at read
    split at read
    · next same =>
      obtain ⟨rfl, rfl⟩ := Taken.mk.inj (Except.ok.inj read)
      exact ⟨rfl, same⟩
    · cases read

variable (sound : Sound .comparison reader)
include sound

/-- Arguments up to the closing parenthesis, with the pieces of the tokens they are derived from. -/
private theorem derives_readArguments {function : String} {values : List Expr} {rest : List Token}
    (tokens : List Token) {fewer : rest.length < tokens.length}
    (read : readArguments reader function tokens = .ok ⟨values, rest, fewer⟩) :
    ∃ (pieces : List (List Token × Expr)) (front : List Token) (closing : Token),
      tokens = front ++ closing :: rest ∧ closing.kind = .rightParenthesis ∧
      Separated (pieces.map Prod.fst) front ∧ pieces ≠ [] ∧ values = pieces.map Prod.snd ∧
      ∀ piece ∈ pieces, Derives .comparison piece.1 piece.2 := by
  induction size : tokens.length using Nat.strongRecOn generalizing tokens values with
  | ind size' ih =>
    subst size
    rw [readArguments] at read
    obtain ⟨⟨first, middle, fewer⟩, here, read⟩ := ok_of_bind read
    obtain ⟨front, rfl, derived⟩ := sound tokens first middle fewer here
    match middle with
    | [] => exact absurd read nofun
    | token :: others =>
      dsimp only at read
      split at read
      · next closes =>
        obtain ⟨rfl, rfl⟩ := Taken.mk.inj (Except.ok.inj read)
        refine ⟨[(front, first)], front, token, rfl, closes, .one front, by simp, rfl, ?_⟩
        intro piece inside
        obtain rfl := List.mem_singleton.mp inside
        exact derived
      · split at read
        · next separates =>
          obtain ⟨⟨more, after, shorter⟩, later, read⟩ := ok_of_bind read
          obtain ⟨rfl, rfl⟩ := Taken.mk.inj (Except.ok.inj read)
          have smaller : others.length < (front ++ token :: others).length := by
            simp only [List.length_append, List.length_cons]
            omega
          obtain ⟨pieces, behind, closing, split, closes, separated, some, values, each⟩ :=
            ih _ smaller others later rfl
          refine ⟨(front, first) :: pieces, front ++ token :: behind, closing, by simp [split],
            closes, ?_, by simp, by simp [values], ?_⟩
          · obtain ⟨⟨piece, value⟩, others, rfl⟩ := List.exists_cons_of_ne_nil some
            exact .more front separates separated
          · intro piece inside
            rcases List.mem_cons.mp inside with rfl | inside
            · exact derived
            · exact each piece inside
        · exact absurd read nofun

private theorem derives_readArgumentList {function : String} {values : List Expr}
    {rest : List Token} (tokens : List Token) {fewer : rest.length < tokens.length}
    (read : readArgumentList reader function tokens = .ok ⟨values, rest, fewer⟩) :
    ∃ (pieces : List (List Token × Expr)) (front : List Token) (closing : Token),
      tokens = front ++ closing :: rest ∧ closing.kind = .rightParenthesis ∧
      Separated (pieces.map Prod.fst) front ∧ values = pieces.map Prod.snd ∧
      ∀ piece ∈ pieces, Derives .comparison piece.1 piece.2 := by
  match tokens with
  | [] =>
    obtain ⟨pieces, front, closing, split, closes, separated, _, values, each⟩ :=
      derives_readArguments sound [] read
    exact ⟨pieces, front, closing, split, closes, separated, values, each⟩
  | token :: tokens =>
    rw [readArgumentList] at read
    split at read
    · next closes =>
      obtain ⟨rfl, rfl⟩ := Taken.mk.inj (Except.ok.inj read)
      exact ⟨[], [], token, rfl, closes, .none, rfl,
        fun _ inside => absurd inside List.not_mem_nil⟩
    · obtain ⟨pieces, front, closing, split, closes, separated, _, values, each⟩ :=
        derives_readArguments sound (token :: tokens) read
      exact ⟨pieces, front, closing, split, closes, separated, values, each⟩

private theorem derives_readCall {function : String} {value : Expr} {tokens rest : List Token}
    {fewer : rest.length < tokens.length}
    (read : readCall reader function tokens = .ok ⟨value, rest, fewer⟩) :
    ∃ (pieces : List (List Token × Expr)) (opening : Token) (front : List Token) (closing : Token),
      tokens = opening :: (front ++ closing :: rest) ∧ opening.kind = .leftParenthesis ∧
      closing.kind = .rightParenthesis ∧ Separated (pieces.map Prod.fst) front ∧
      value = .call function (pieces.map Prod.snd) ∧
      ∀ piece ∈ pieces, Derives .comparison piece.1 piece.2 := by
  obtain ⟨⟨opening, others, _⟩, opened, read⟩ := ok_of_bind read
  obtain ⟨⟨values, after, _⟩, list, read⟩ := ok_of_bind read
  obtain ⟨rfl, rfl⟩ := Taken.mk.inj (Except.ok.inj read)
  obtain ⟨rfl, opens⟩ := eq_cons_of_readToken opened
  dsimp only at list
  obtain ⟨pieces, front, closing, split, closes, separated, listed, each⟩ :=
    derives_readArgumentList sound others list
  exact ⟨pieces, opening, front, closing, by simp [split], opens, closes, separated,
    by simp [listed], each⟩

theorem sound_readPrimary : Sound .primary (readPrimary reader) := by
  intro tokens value rest fewer read
  match tokens with
  | [] => exact absurd read nofun
  | token :: tokens =>
    unfold readPrimary at read
    dsimp only at read
    split at read
    · next kind =>
      obtain ⟨rfl, rfl⟩ := Taken.mk.inj (Except.ok.inj read)
      exact ⟨[token], rfl, .number kind (Token.read?_text kind)⟩
    · next kind =>
      obtain ⟨rfl, rfl⟩ := Taken.mk.inj (Except.ok.inj read)
      exact ⟨[token], rfl, .truth kind⟩
    · next kind =>
      obtain ⟨rfl, rfl⟩ := Taken.mk.inj (Except.ok.inj read)
      exact ⟨[token], rfl, .cell kind⟩
    · next kind =>
      obtain ⟨rfl, rfl⟩ := Taken.mk.inj (Except.ok.inj read)
      exact ⟨[token], rfl, .range kind⟩
    · next kind =>
      obtain ⟨⟨call, after, _⟩, called, read⟩ := ok_of_bind read
      obtain ⟨rfl, rfl⟩ := Taken.mk.inj (Except.ok.inj read)
      obtain ⟨pieces, opening, front, closing, rfl, opens, closes, separated, rfl, each⟩ :=
        derives_readCall sound called
      exact ⟨token :: opening :: (front ++ [closing]), by simp,
        .call pieces kind opens each separated closes⟩
    · next kind =>
      obtain ⟨⟨inner, middle, _⟩, grouped, read⟩ := ok_of_bind read
      obtain ⟨⟨closing, after, _⟩, closed, read⟩ := ok_of_bind read
      obtain ⟨rfl, rfl⟩ := Taken.mk.inj (Except.ok.inj read)
      obtain ⟨front, rfl, derived⟩ := sound tokens inner middle _ grouped
      obtain ⟨rfl, closes⟩ := eq_cons_of_readToken closed
      exact ⟨token :: (front ++ [closing]), by simp, .group kind derived closes⟩
    · exact absurd read nofun

theorem sound_readUnsigned : Sound .percent (readUnsigned reader) := by
  intro tokens value rest fewer read
  obtain ⟨⟨operand, middle, _⟩, first, read⟩ := ok_of_bind read
  obtain ⟨rfl, rfl⟩ := Taken.mk.inj (Except.ok.inj read)
  obtain ⟨before, rfl, derived⟩ := sound_readPrimary sound tokens operand middle _ first
  obtain ⟨front, split, whole⟩ := derives_readPercents middle (.tighter rfl derived)
  exact ⟨before ++ front, by rw [List.append_assoc, ← split], whole⟩

end

theorem sound_readSigned (depth : Nat) : Sound .signed (readSigned depth) := by
  induction depth with
  | zero => exact fun tokens _ _ _ read => by cases tokens <;> exact absurd read nofun
  | succ depth ih =>
    intro tokens value rest fewer read
    match tokens with
    | [] => exact absurd read nofun
    | token :: tokens =>
      rw [readSigned] at read
      split at read
      · obtain ⟨front, split, derived⟩ :=
          sound_readUnsigned (sound_readComparison ih) _ value rest fewer read
        exact ⟨front, split, .tighter rfl derived⟩
      · next operator found =>
        obtain ⟨⟨operand, after, _⟩, signed, read⟩ := ok_of_bind read
        obtain ⟨rfl, rfl⟩ := Taken.mk.inj (Except.ok.inj read)
        obtain ⟨front, rfl, derived⟩ := ih tokens operand after _ signed
        obtain ⟨listed, before⟩ := Token.sign?_eq_some_iff.mp found
        exact ⟨token :: front, rfl, .sign listed before derived⟩

/-- An expression that is read from tokens is derived from all of them. -/
theorem derives_of_ofTokens {limit : Nat} {tokens : List Token} {tree : Expr}
    (read : Expr.ofTokens limit tokens = .ok tree) : Derives .comparison tokens tree := by
  unfold Expr.ofTokens at read
  split at read
  · cases read
  · obtain ⟨⟨value, rest, _⟩, whole, read⟩ := ok_of_bind read
    obtain ⟨front, rfl, derived⟩ :=
      sound_readComparison (sound_readSigned limit) tokens value rest _ whole
    dsimp only at read
    split at read
    · obtain rfl := Except.ok.inj read
      simpa using derived
    · cases read

end SheetPricing.Formula
