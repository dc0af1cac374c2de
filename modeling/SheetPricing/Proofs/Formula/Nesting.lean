import SheetPricing.Formula.Engine

/-! How deep a reader may go. A reader that is allowed more depth changes its answer only where it
ran out of depth, and depth beyond the count of tokens never runs out. -/
namespace SheetPricing.Formula

/-- The outcomes of reading some tokens with a limit and with one level more. -/
structure Deepens {α : Type} (limit length : Nat) (shallow deep : Except Malformation α) :
    Prop where
  enough : length < limit → shallow ≠ .error .nestedTooDeep
  same : shallow ≠ .error .nestedTooDeep → deep = shallow

namespace Deepens
variable {α β : Type} {limit length : Nat} {shallow deep : Except Malformation α}

theorem of_ne {result : Except Malformation α} (ne : result ≠ .error .nestedTooDeep) :
    Deepens limit length result result := ⟨fun _ => ne, fun _ => rfl⟩

theorem ok (value : α) : Deepens limit length (.ok value) (.ok value) := of_ne (by simp)

theorem error {malformation : Malformation} (other : malformation ≠ .nestedTooDeep) :
    Deepens limit length (.error malformation : Except Malformation α) (.error malformation) :=
  of_ne fun equal => other (Except.error.inj equal)

theorem longer {more : Nat} (reading : Deepens limit length shallow deep) (le : length ≤ more) :
    Deepens limit more shallow deep :=
  ⟨fun inside => reading.enough (by omega), reading.same⟩

theorem succ (reading : Deepens limit length shallow deep) :
    Deepens (limit + 1) (length + 1) shallow deep :=
  ⟨fun inside => reading.enough (by omega), reading.same⟩

theorem bind {next other : α → Except Malformation β} (first : Deepens limit length shallow deep)
    (then_ : ∀ value, Deepens limit length (next value) (other value)) :
    Deepens limit length (shallow >>= next) (deep >>= other) := by
  cases shallow with
  | ok value =>
    obtain rfl := first.same nofun
    exact then_ value
  | error malformation =>
    constructor
    · intro inside failed
      exact first.enough inside (by simpa [Bind.bind, Except.bind] using failed)
    · intro shallow
      have same := first.same (by simpa [Bind.bind, Except.bind] using shallow)
      rw [same]
      rfl

end Deepens

theorem readToken_ne_nestedTooDeep (kind : TokenKind) (tokens : List Token) :
    readToken kind tokens ≠ .error .nestedTooDeep := by
  cases tokens with
  | nil => simp [readToken]
  | cons token rest =>
    rw [readToken]
    split <;> simp

section
variable {limit : Nat} {reader other : Reader Expr}
  (readers : ∀ tokens, Deepens limit tokens.length (reader tokens) (other tokens))
include readers

theorem deepens_extendRow (operators : List Arithmetic) (left : Expr) (tokens : List Token) :
    Deepens limit tokens.length (extendRow operators reader left tokens)
      (extendRow operators other left tokens) := by
  induction size : tokens.length using Nat.strongRecOn generalizing left tokens with
  | ind size' ih =>
    subst size
    rw [extendRow.eq_def operators reader, extendRow.eq_def operators other]
    match tokens with
    | [] => exact .ok _
    | token :: rest =>
      dsimp only
      split
      · exact .ok _
      · refine ((readers rest).longer (Nat.le_succ _)).bind fun right => ?_
        have shorter : right.rest.length < (token :: rest).length := by
          have := right.fewer
          simp only [List.length_cons]
          omega
        exact ((ih _ shorter _ right.rest rfl).longer (Nat.le_of_lt shorter)).bind fun row => .ok _

theorem deepens_readRow (operators : List Arithmetic) (tokens : List Token) :
    Deepens limit tokens.length (readRow operators reader tokens)
      (readRow operators other tokens) := by
  refine (readers tokens).bind fun first => ?_
  have rest := deepens_extendRow readers operators first.value first.rest
  exact (rest.longer (Nat.le_of_lt first.fewer)).bind fun row => .ok _

theorem deepens_readSum (tokens : List Token) :
    Deepens limit tokens.length (readSum reader tokens) (readSum other tokens) := by
  refine deepens_readRow ?_ _ tokens
  refine deepens_readRow ?_ _
  exact deepens_readRow readers _

theorem deepens_readComparison (tokens : List Token) :
    Deepens limit tokens.length (readComparison reader tokens) (readComparison other tokens) := by
  refine (deepens_readSum readers tokens).bind fun left => ?_
  have fewer := left.fewer
  split
  · exact .ok _
  · next token rest shape =>
    split
    · exact .ok _
    · have shorter : rest.length ≤ tokens.length := by
        rw [shape, List.length_cons] at fewer
        omega
      exact ((deepens_readSum readers rest).longer shorter).bind fun right => .ok _

theorem deepens_readArguments (function : String) (tokens : List Token) :
    Deepens limit tokens.length (readArguments reader function tokens)
      (readArguments other function tokens) := by
  induction size : tokens.length using Nat.strongRecOn generalizing tokens with
  | ind size' ih =>
    subst size
    rw [readArguments, readArguments]
    refine (readers tokens).bind fun first => ?_
    have fewer := first.fewer
    split
    · exact .error (by simp)
    · next token rest shape =>
      dsimp only
      split
      · exact .ok _
      · split
        · have shorter : rest.length < tokens.length := by
            rw [shape, List.length_cons] at fewer
            omega
          exact ((ih _ shorter rest rfl).longer (Nat.le_of_lt shorter)).bind fun more => .ok _
        · exact .error (by simp)

theorem deepens_readCall (function : String) (tokens : List Token) :
    Deepens limit tokens.length (readCall reader function tokens)
      (readCall other function tokens) := by
  refine (Deepens.of_ne (readToken_ne_nestedTooDeep _ tokens)).bind fun opened => ?_
  refine Deepens.bind ?_ fun arguments => .ok _
  refine Deepens.longer ?_ (Nat.le_of_lt opened.fewer)
  match opened.rest with
  | [] => exact deepens_readArguments readers function []
  | token :: rest =>
    unfold readArgumentList
    dsimp only
    split
    · exact .ok _
    · exact deepens_readArguments readers function (token :: rest)

theorem deepens_readPrimary (tokens : List Token) :
    Deepens (limit + 1) tokens.length (readPrimary reader tokens) (readPrimary other tokens) := by
  match tokens with
  | [] => exact .error (by simp)
  | token :: rest =>
    unfold readPrimary
    dsimp only
    split
    · exact .ok _
    · exact .ok _
    · exact .ok _
    · exact .ok _
    · exact (deepens_readCall readers _ rest).succ.bind fun call => .ok _
    · refine (readers rest).succ.bind fun value => ?_
      exact (Deepens.of_ne (readToken_ne_nestedTooDeep _ _)).bind fun closed => .ok _
    · exact .error (by simp)

theorem deepens_readUnsigned (tokens : List Token) :
    Deepens (limit + 1) tokens.length (readUnsigned reader tokens) (readUnsigned other tokens) := by
  exact (deepens_readPrimary readers tokens).bind fun operand => .ok _

end

/-- The depth is spent on signs and on what stands in parentheses, both behind a token. -/
theorem deepens_readSigned (depth : Nat) (tokens : List Token) :
    Deepens depth tokens.length (readSigned depth tokens) (readSigned (depth + 1) tokens) := by
  induction depth generalizing tokens with
  | zero =>
    constructor
    · intro inside
      exact absurd inside (Nat.not_lt_zero _)
    · intro shallow
      exact absurd (by cases tokens <;> rfl) shallow
  | succ depth ih =>
    match tokens with
    | [] => exact .error (by simp)
    | token :: rest =>
      rw [readSigned, readSigned]
      split
      · exact deepens_readUnsigned (deepens_readComparison ih) _
      · exact (ih rest).succ.bind fun operand => .ok _

theorem deepens_ofTokens (limit : Nat) (tokens : List Token) :
    Deepens limit tokens.length (Expr.ofTokens limit tokens)
      (Expr.ofTokens (limit + 1) tokens) := by
  unfold Expr.ofTokens
  split
  · exact .error (by simp)
  · refine (deepens_readComparison (deepens_readSigned limit) tokens).bind fun whole => ?_
    split
    · exact .ok _
    · exact .error (by simp)

/-- With a limit above the count of its tokens an expression is read however deep it is nested. -/
theorem ofTokens_ne_nestedTooDeep {limit : Nat} {tokens : List Token}
    (enough : tokens.length < limit) : Expr.ofTokens limit tokens ≠ .error .nestedTooDeep :=
  (deepens_ofTokens limit tokens).enough enough

/-- Where a limit does not stop the reading, every greater one leads to the same outcome. -/
theorem ofTokens_of_le {limit more : Nat} {tokens : List Token} (le : limit ≤ more)
    (shallow : Expr.ofTokens limit tokens ≠ .error .nestedTooDeep) :
    Expr.ofTokens more tokens = Expr.ofTokens limit tokens := by
  induction le with
  | refl => rfl
  | @step more le ih =>
    rw [← ih]
    exact (deepens_ofTokens more tokens).same (ih ▸ shallow)

end SheetPricing.Formula
