import Mathlib.Data.List.Forall2
import SheetPricing.Formula.Reading

/-! Tokens that mean the same. What is read from tokens depends on their places only in what is told of
a failure, and on the text of a range only as far as its corners are looked at. -/
namespace SheetPricing.Formula

mutual

/-- An expression with its ranges changed. -/
def Expr.mapRanges (change : Range → Range) : Expr → Expr
  | .number value => .number value
  | .reference address => .reference address
  | .range range => .range (change range)
  | .unary operator operand => .unary operator (operand.mapRanges change)
  | .binary operator left right => .binary operator (left.mapRanges change) (right.mapRanges change)
  | .call name arguments => .call name (mapAllRanges change arguments)

def mapAllRanges (change : Range → Range) : List Expr → List Expr
  | [] => []
  | argument :: rest => argument.mapRanges change :: mapAllRanges change rest

end

mutual

theorem Expr.mapRanges_id : (e : Expr) → e.mapRanges id = e
  | .number _ => rfl
  | .reference _ => rfl
  | .range _ => rfl
  | .unary _ operand => by rw [Expr.mapRanges, operand.mapRanges_id]
  | .binary _ left right => by rw [Expr.mapRanges, left.mapRanges_id, right.mapRanges_id]
  | .call _ arguments => by rw [Expr.mapRanges, mapAllRanges_id arguments]

theorem mapAllRanges_id : (es : List Expr) → mapAllRanges id es = es
  | [] => rfl
  | e :: rest => by rw [mapAllRanges, e.mapRanges_id, mapAllRanges_id rest]

end

/-- That two tokens mean the same: of a range its corners as they are looked at count, of others the
whole text. -/
structure Token.SameAs (change : Range → Range) (token other : Token) : Prop where
  kind : token.kind = other.kind
  text : token.kind ≠ .range → token.text = other.text
  range : token.kind = .range → change (cleanRange token.text) = change (cleanRange other.text)

abbrev SameAll (change : Range → Range) : List Token → List Token → Prop :=
  List.Forall₂ (Token.SameAs change)

/-- That two computations both fail, or yield values that are related. -/
inductive Agree {α β : Type} (related : α → β → Prop) :
    Except Malformation α → Except Malformation β → Prop
  | ok {value other} (holds : related value other) : Agree related (.ok value) (.ok other)
  | error (reason other) : Agree related (.error reason) (.error other)

section
variable {α β γ δ : Type} {related : α → β → Prop} {then_ : γ → δ → Prop}

theorem Agree.bind {first : Except Malformation α} {other : Except Malformation β}
    {next : α → Except Malformation γ} {otherNext : β → Except Malformation δ}
    (agree : Agree related first other)
    (behind : ∀ value twin, related value twin → Agree then_ (next value) (otherNext twin)) :
    Agree then_ (first >>= next) (other >>= otherNext) := by
  cases agree with
  | ok holds => exact behind _ _ holds
  | error reason other => exact .error reason other

theorem Agree.map {first : Except Malformation α} {other : Except Malformation β} {change : α → γ}
    {otherChange : β → δ} (agree : Agree related first other)
    (behind : ∀ value twin, related value twin → then_ (change value) (otherChange twin)) :
    Agree then_ (first.map change) (other.map otherChange) := by
  cases agree with
  | ok holds => exact .ok (behind _ _ holds)
  | error reason other => exact .error reason other

end

namespace Token.SameAs
variable {change : Range → Range} {token other : Token} (same : token.SameAs change other)
include same

theorem sign? : token.sign? = other.sign? := by
  rw [Token.sign?, Token.sign?, ← same.kind]
  split
  · rfl
  · next operator => rw [same.text (by simp [Decidable.not_not.mp operator])]

theorem isPercent : token.isPercent = other.isPercent := by
  rw [Token.isPercent, Token.isPercent, ← same.kind]
  by_cases operator : token.kind = .operator
  · rw [same.text (by simp [operator])]
  · rw [beq_eq_false_iff_ne.mpr operator, Bool.false_and, Bool.false_and]

theorem among (operators : List Arithmetic) : token.among operators = other.among operators := by
  rw [Token.among, Token.among, ← same.kind]
  split
  · next operator => rw [same.text (by simp [operator])]
  · rfl

theorem comparison? : token.comparison? = other.comparison? := by
  rw [Token.comparison?, Token.comparison?, ← same.kind]
  split
  · next operator => rw [same.text (by simp [operator])]
  · rfl

end Token.SameAs

section
variable {α : Type} (change : Range → Range) (view : α → α)

/-- That values are read that look the same, and tokens that mean the same are left. -/
def Taken.SameAs {tokens others : List Token} (taken : Taken α tokens) (other : Taken α others) : Prop :=
  view taken.value = view other.value ∧ SameAll change taken.rest other.rest

def Kept.SameAs {tokens others : List Token} (kept : Kept α tokens) (other : Kept α others) : Prop :=
  view kept.value = view other.value ∧ SameAll change kept.rest other.rest

/-- A reader that goes by what tokens mean. -/
def Respects (reader : Reader α) : Prop :=
  ∀ ⦃tokens others⦄, SameAll change tokens others →
    Agree (Taken.SameAs change view) (reader tokens) (reader others)

end

section
variable {change : Range → Range}

theorem agree_readToken (kind : TokenKind) {tokens others : List Token}
    (same : SameAll change tokens others) :
    Agree (fun taken other => SameAll change taken.rest other.rest) (readToken kind tokens)
      (readToken kind others) := by
  cases same with
  | nil => exact .error _ _
  | cons first rest =>
    rw [readToken, readToken, ← first.kind]
    split
    · exact .ok rest
    · exact .error _ _

theorem sameAs_readPercents {operand twin : Expr} {tokens others : List Token}
    (alike : operand.mapRanges change = twin.mapRanges change) (same : SameAll change tokens others) :
    (readPercents operand tokens).SameAs change (Expr.mapRanges change) (readPercents twin others) := by
  induction same generalizing operand twin with
  | nil => exact ⟨alike, .nil⟩
  | cons first rest ih =>
    rw [readPercents, readPercents, ← first.isPercent]
    split
    · exact ih (by rw [Expr.mapRanges, Expr.mapRanges, alike])
    · exact ⟨alike, .cons first rest⟩

end

section
variable {change : Range → Range} {reader : Reader Expr}
  (respects : Respects change (Expr.mapRanges change) reader)
include respects

theorem agree_extendRow (operators : List Arithmetic) {left twin : Expr} {tokens others : List Token}
    (alike : left.mapRanges change = twin.mapRanges change) (same : SameAll change tokens others) :
    Agree (Kept.SameAs change (Expr.mapRanges change)) (extendRow operators reader left tokens)
      (extendRow operators reader twin others) := by
  -- The row is extended by the count of tokens, and so the induction goes.
  induction size : tokens.length using Nat.strongRecOn generalizing left twin tokens others with
  | ind size' ih =>
    subst size
    rw [extendRow.eq_def operators reader left tokens, extendRow.eq_def operators reader twin others]
    cases same with
    | nil => exact .ok ⟨alike, .nil⟩
    | @cons token other rest otherRest first behind =>
      dsimp only
      rw [← first.among]
      split
      · exact .ok ⟨alike, .cons first behind⟩
      · refine (respects behind).bind fun right twin agree => ?_
        have shorter : right.rest.length < (token :: rest).length := Nat.lt_succ_of_lt right.fewer
        refine (ih _ shorter ?_ agree.2 rfl).bind fun _ _ agree => .ok agree
        rw [Expr.mapRanges, Expr.mapRanges, alike, agree.1]

theorem respects_readRow (operators : List Arithmetic) :
    Respects change (Expr.mapRanges change) (readRow operators reader) :=
  fun _ _ same => (respects same).bind fun _ _ agree =>
    (agree_extendRow respects operators agree.1 agree.2).bind fun _ _ agree => .ok agree

theorem respects_readSum : Respects change (Expr.mapRanges change) (readSum reader) :=
  respects_readRow (respects_readRow (respects_readRow respects _) _) _

theorem respects_readComparison : Respects change (Expr.mapRanges change) (readComparison reader) := by
  intro tokens others same
  refine (respects_readSum respects same).bind fun left twin agree => ?_
  obtain ⟨value, rest, fewer⟩ := left
  obtain ⟨twinValue, twinRest, twinFewer⟩ := twin
  obtain ⟨alike, behind⟩ := agree
  dsimp only at alike behind ⊢
  cases behind with
  | nil => exact .ok ⟨alike, .nil⟩
  | cons first behind =>
    dsimp only
    rw [← first.comparison?]
    split
    · exact .ok ⟨alike, .cons first behind⟩
    · refine (respects_readSum respects behind).bind fun right twin agree => .ok ⟨?_, agree.2⟩
      rw [Expr.mapRanges, Expr.mapRanges, alike, agree.1]

theorem agree_readArguments (function : String) {tokens others : List Token}
    (same : SameAll change tokens others) :
    Agree (Taken.SameAs change (mapAllRanges change)) (readArguments reader function tokens)
      (readArguments reader function others) := by
  induction size : tokens.length using Nat.strongRecOn generalizing tokens others with
  | ind size' ih =>
    subst size
    rw [readArguments, readArguments]
    refine (respects same).bind fun first twin agree => ?_
    obtain ⟨value, rest, fewer⟩ := first
    obtain ⟨twinValue, twinRest, twinFewer⟩ := twin
    obtain ⟨alike, behind⟩ := agree
    dsimp only at alike behind ⊢
    cases behind with
    | nil => exact .error _ _
    | cons first behind =>
      dsimp only
      rw [← first.kind]
      split
      · exact .ok ⟨by rw [mapAllRanges, mapAllRanges, alike]; rfl, behind⟩
      · split
        · refine (ih _ (Nat.lt_of_succ_lt fewer) behind rfl).bind fun more twin agree => .ok ⟨?_, agree.2⟩
          rw [mapAllRanges, mapAllRanges, alike, agree.1]
        · exact .error _ _

theorem respects_readArgumentList (function : String) :
    Respects change (mapAllRanges change) (readArgumentList reader function) := by
  intro tokens others same
  cases same with
  | nil => exact agree_readArguments respects function .nil
  | cons first rest =>
    rw [readArgumentList, readArgumentList, ← first.kind]
    split
    · exact .ok ⟨rfl, rest⟩
    · exact agree_readArguments respects function (.cons first rest)

theorem respects_readCall (function : String) :
    Respects change (Expr.mapRanges change) (readCall reader function) :=
  fun _ _ same => (agree_readToken .leftParenthesis same).bind fun _ _ agree =>
    (respects_readArgumentList respects function agree).bind fun _ _ agree =>
      .ok ⟨by rw [Expr.mapRanges, Expr.mapRanges, agree.1], agree.2⟩

theorem respects_readPrimary : Respects change (Expr.mapRanges change) (readPrimary reader) := by
  intro tokens others same
  cases same with
  | nil => exact .error _ _
  | @cons token other rest otherRest first behind =>
    unfold readPrimary
    dsimp only
    rw [← first.kind]
    have text (plain : token.kind ≠ .range) : token.text = other.text := first.text plain
    split
    · next kind =>
      refine .ok ⟨?_, behind⟩
      rw [Token.number, Token.number, text (by simp [kind])]
    · next kind =>
      refine .ok ⟨?_, behind⟩
      rw [text (by simp [kind])]
    · next kind =>
      refine .ok ⟨?_, behind⟩
      rw [text (by simp [kind])]
    · next kind =>
      refine .ok ⟨?_, behind⟩
      rw [Expr.mapRanges, Expr.mapRanges, first.range kind]
    · next kind =>
      rw [text (by simp [kind])]
      exact (respects_readCall respects _ behind).bind fun _ _ agree => .ok agree
    · exact (respects behind).bind fun _ _ agree =>
        (agree_readToken .rightParenthesis agree.2).bind fun _ _ rest => .ok ⟨agree.1, rest⟩
    · exact .error _ _

theorem respects_readUnsigned : Respects change (Expr.mapRanges change) (readUnsigned reader) :=
  fun _ _ same => (respects_readPrimary respects same).bind fun _ _ agree =>
    .ok (sameAs_readPercents agree.1 agree.2)

end

section
variable {change : Range → Range}

theorem respects_readSigned (depth : Nat) :
    Respects change (Expr.mapRanges change) (readSigned depth) := by
  induction depth with
  | zero => exact fun _ _ _ => .error _ _
  | succ depth ih =>
    intro tokens others same
    cases same with
    | nil => exact .error _ _
    | cons first rest =>
      rw [readSigned, readSigned, ← first.sign?]
      split
      · exact respects_readUnsigned (respects_readComparison ih) (.cons first rest)
      · refine (ih rest).bind fun operand twin agree => .ok ⟨?_, agree.2⟩
        rw [Expr.mapRanges, Expr.mapRanges, agree.1]

/-- From tokens that mean the same the same expression is read, or from neither is any. -/
theorem agree_ofTokens (limit : Nat) {tokens others : List Token} (same : SameAll change tokens others) :
    Agree (fun e twin => e.mapRanges change = twin.mapRanges change) (Expr.ofTokens limit tokens)
      (Expr.ofTokens limit others) := by
  have whole := respects_readComparison (respects_readSigned limit) same
  cases same with
  | nil => exact .error _ _
  | cons first rest =>
    unfold Expr.ofTokens
    refine whole.bind fun taken twin agree => ?_
    obtain ⟨value, left, fewer⟩ := taken
    obtain ⟨twinValue, twinLeft, twinFewer⟩ := twin
    obtain ⟨alike, behind⟩ := agree
    dsimp only at alike behind ⊢
    cases behind with
    | nil => exact .ok alike
    | cons => exact .error _ _

end
end SheetPricing.Formula
