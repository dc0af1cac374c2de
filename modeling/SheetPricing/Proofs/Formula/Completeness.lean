import SheetPricing.Proofs.Formula.Derivation
import SheetPricing.Proofs.Formula.Nesting

/-! What is derived is read. The induction is on the derivation. A row of operators is derived from
the left, so when its first operand is read the reader goes on with the rest of the row: each level
says how it goes on behind an expression, and what it makes of that expression and the tokens behind
it is what it makes of all the tokens. -/
namespace SheetPricing.Formula

/-- That a reader reads a value and leaves some tokens. -/
def Reads {α : Type} (reader : Reader α) (tokens : List Token) (value : α) (rest : List Token) :
    Prop :=
  ∃ fewer, reader tokens = .ok ⟨value, rest, fewer⟩

/-- The reader of a level, with its nested expressions read to a depth. -/
def readerAt (depth : Nat) : Level → Reader Expr
  | .comparison => readComparison (readSigned (depth + 1))
  | .sum => readSum (readSigned (depth + 1))
  | .product => readProduct (readSigned (depth + 1))
  | .power => readPower (readSigned (depth + 1))
  | .signed => readSigned (depth + 1)
  | .percent => readUnsigned (readComparison (readSigned depth))
  | .primary => readPrimary (readComparison (readSigned depth))

/-- The operators behind an expression with which its level or a tighter one goes on. -/
def Level.marks : Level → List String
  | .comparison => ["=", "<>", "<", ">", "<=", ">=", "+", "-", "*", "/", "^", "%"]
  | .sum => ["+", "-", "*", "/", "^", "%"]
  | .product => ["*", "/", "^", "%"]
  | .power => ["^", "%"]
  | .signed => ["%"]
  | .percent => ["%"]
  | .primary => []

/-- That no expression of a level goes on with some tokens. -/
def Stops (level : Level) (tokens : List Token) : Prop :=
  ∀ token ∈ tokens.head?, ∀ symbol ∈ level.marks, ¬token.IsOperator symbol

theorem Token.IsOperator.unique {token : Token} {a b : String} (first : token.IsOperator a)
    (second : token.IsOperator b) : a = b := first.2.symm.trans second.2

theorem Stops.tighter {level next : Level} {tokens : List Token} (stops : Stops level tokens)
    (below : level.tighter? = some next) : Stops next tokens := by
  intro token head symbol marked
  have fewer : ∀ symbol ∈ next.marks, symbol ∈ level.marks := by
    cases level <;> cases below <;> decide
  exact stops token head symbol (fewer symbol marked)

/-- An operator of a level is none with which a tighter level goes on. -/
theorem stops_of_mem_operators {level next : Level} {token : Token} {tokens : List Token}
    {operator : Arithmetic} (below : level.tighter? = some next)
    (listed : operator ∈ level.operators) (between : token.IsOperator operator.symbol) :
    Stops next (token :: tokens) := by
  intro token' head symbol marked is
  obtain rfl := Option.some.inj head
  have apart : ∀ operator ∈ level.operators, operator.symbol ∉ next.marks := by
    cases level <;> cases below <;> decide
  exact apart operator listed (between.unique is ▸ marked)

theorem stops_of_comparison {token : Token} {tokens : List Token} {operator : Comparison}
    (between : token.IsOperator operator.symbol) : Stops .sum (token :: tokens) := by
  intro token' head symbol marked is
  obtain rfl := Option.some.inj head
  have apart : operator.symbol ∉ Level.sum.marks := by cases operator <;> decide
  exact apart (between.unique is ▸ marked)

theorem stops_of_kind {level : Level} {token : Token} {tokens : List Token}
    (other : token.kind ≠ .operator) : Stops level (token :: tokens) := by
  intro token' head symbol _ is
  obtain rfl := Option.some.inj head
  exact other is.1

theorem among_eq_none_of_stops {level : Level} {token : Token} {tokens : List Token}
    (stops : Stops level (token :: tokens)) : token.among level.operators = none := by
  have marked : ∀ operator ∈ level.operators, operator.symbol ∈ level.marks := by
    cases level <;> decide
  cases found : token.among level.operators with
  | none => rfl
  | some operator =>
    obtain ⟨listed, is⟩ := Token.among_eq_some_iff.mp found
    exact absurd is (stops token rfl _ (marked operator listed))

theorem comparison?_eq_none_of_stops {token : Token} {tokens : List Token}
    (stops : Stops .comparison (token :: tokens)) : token.comparison? = none := by
  cases found : token.comparison? with
  | none => rfl
  | some operator =>
    have is := Token.comparison?_eq_some_iff.mp found
    have marked : operator.symbol ∈ Level.comparison.marks := by cases operator <;> decide
    exact absurd is (stops token rfl _ marked)

theorem isPercent_eq_false_of_stops {level : Level} {token : Token} {tokens : List Token}
    (marked : "%" ∈ level.marks) (stops : Stops level (token :: tokens)) :
    token.isPercent = false := by
  cases found : token.isPercent with
  | false => rfl
  | true => exact absurd (Token.isPercent_iff.mp found) (stops token rfl _ marked)

/-- How the reader of a level goes on behind an expression: with more of a row, with percents, or
not at all. -/
inductive Resumes (depth : Nat) : Level → Expr → List Token → Expr → List Token → Prop
  | row {level next e tokens value rest} (below : level.tighter? = some next)
      (rows : level.operators ≠ []) (stops : Stops next tokens) (within)
      (extended : extendRow level.operators (readerAt depth next) e tokens
        = .ok ⟨value, rest, within⟩) : Resumes depth level e tokens value rest
  | percents {e tokens} : Resumes depth .percent e tokens (readPercents e tokens).value
      (readPercents e tokens).rest
  | stop {level e tokens} (rowless : level.operators = []) (other : level ≠ .percent)
      (stops : Stops level tokens) : Resumes depth level e tokens e tokens

theorem Resumes.of_stops {depth : Nat} {level : Level} {e : Expr} {tokens : List Token}
    (stops : Stops level tokens) : Resumes depth level e tokens e tokens := by
  by_cases rowless : level.operators = []
  · by_cases percent : level = .percent
    · subst percent
      have still : readPercents e tokens = ⟨e, tokens, Nat.le_refl _⟩ := by
        cases tokens with
        | nil => rfl
        | cons token rest =>
          rw [readPercents, if_neg]
          simp [isPercent_eq_false_of_stops (by decide) stops]
      have resumed : Resumes depth .percent e tokens _ _ := .percents
      rw [still] at resumed
      exact resumed
    · exact .stop rowless percent stops
  · obtain ⟨next, below⟩ : ∃ next, level.tighter? = some next := by
      cases level <;> first | exact ⟨_, rfl⟩ | exact absurd rfl rowless
    refine .row below rowless (stops.tighter below) (Nat.le_refl _) ?_
    cases tokens with
    | nil => rw [extendRow]
    | cons token rest => rw [extendRow, among_eq_none_of_stops stops]

/-- An expression begins with a token that closes nothing; only signs make it begin with an
operator. -/
theorem Derives.head {level : Level} {tokens : List Token} {e : Expr}
    (derived : Derives level tokens e) : ∃ token rest, tokens = token :: rest ∧
      token.kind ≠ .rightParenthesis ∧
      (level = .percent ∨ level = .primary → token.kind ≠ .operator) := by
  induction derived with
  | tighter below _ ih =>
    obtain ⟨token, rest, rfl, open_, plain⟩ := ih
    refine ⟨token, rest, rfl, open_, fun tight => plain ?_⟩
    rcases tight with rfl | rfl <;> cases below
    exact .inr rfl
  | row _ listed _ _ _ ih =>
    obtain ⟨token, rest, rfl, open_, plain⟩ := ih
    exact ⟨token, _, rfl, open_, plain⟩
  | compared _ _ _ ih =>
    obtain ⟨token, rest, rfl, open_, plain⟩ := ih
    refine ⟨token, _, rfl, open_, fun tight => ?_⟩
    rcases tight with tight | tight <;> cases tight
  | @sign tokens token _ _ _ before =>
    refine ⟨token, tokens, rfl, by simp [before.1], fun tight => ?_⟩
    rcases tight with tight | tight <;> cases tight
  | percent _ _ ih =>
    obtain ⟨token, rest, rfl, open_, plain⟩ := ih
    exact ⟨token, _, rfl, open_, plain⟩
  | number kind => exact ⟨_, [], rfl, by simp [kind], fun _ => by simp [kind]⟩
  | truth kind => exact ⟨_, [], rfl, by simp [kind], fun _ => by simp [kind]⟩
  | cell kind => exact ⟨_, [], rfl, by simp [kind], fun _ => by simp [kind]⟩
  | range kind => exact ⟨_, [], rfl, by simp [kind], fun _ => by simp [kind]⟩
  | call _ kind => exact ⟨_, _, rfl, by simp [kind], fun _ => by simp [kind]⟩
  | group opens => exact ⟨_, _, rfl, by simp [opens], fun _ => by simp [opens]⟩

theorem reads_readToken {kind : TokenKind} {token : Token} {rest : List Token}
    (same : token.kind = kind) : Reads (readToken kind) (token :: rest) token rest :=
  ⟨Nat.lt_succ_self _, by rw [readToken, if_pos same]⟩

theorem Separated.begins {text : List Token} {others : List (List Token)} {tokens : List Token}
    (separated : Separated (text :: others) tokens) : ∃ behind, tokens = text ++ behind := by
  cases separated with
  | one => exact ⟨[], (List.append_nil text).symm⟩
  | more => exact ⟨_, rfl⟩

theorem Separated.length_le {texts : List (List Token)} {tokens : List Token}
    (separated : Separated texts tokens) : ∀ text ∈ texts, text.length ≤ tokens.length := by
  induction separated with
  | none => exact fun text inside => absurd inside List.not_mem_nil
  | one piece =>
    intro text inside
    exact Nat.le_of_eq (congrArg List.length (List.mem_singleton.mp inside))
  | more piece _ _ ih =>
    intro text inside
    rw [List.length_append, List.length_cons]
    rcases List.mem_cons.mp inside with rfl | inside
    · omega
    · have := ih text inside
      omega

section
variable {reader : Reader Expr}

theorem reads_readArguments {function : String} {closing : Token} {rest : List Token}
    (closes : closing.kind = .rightParenthesis) {texts : List (List Token)} {tokens : List Token}
    (separated : Separated texts tokens) (pieces : List (List Token × Expr))
    (same : pieces.map Prod.fst = texts) (some : pieces ≠ [])
    (each : ∀ piece ∈ pieces, ∀ token behind, token.kind ≠ .operator →
      Reads reader (piece.1 ++ token :: behind) piece.2 (token :: behind)) :
    Reads (readArguments reader function) (tokens ++ closing :: rest) (pieces.map Prod.snd)
      rest := by
  induction separated generalizing pieces with
  | none => exact absurd (List.map_eq_nil_iff.mp same) some
  | one text =>
    obtain ⟨piece, others, rfl⟩ := List.exists_cons_of_ne_nil some
    obtain ⟨rfl, none⟩ := List.cons.inj same
    obtain rfl := List.map_eq_nil_iff.mp none
    obtain ⟨_, read⟩ := each piece List.mem_cons_self closing rest (by simp [closes])
    refine ⟨by simp only [List.length_append, List.length_cons]; omega, ?_⟩
    rw [readArguments, read]
    simp only [bind, Except.bind, if_pos closes]
    rfl
  | @more text next others separator tokens separates _ ih =>
    obtain ⟨piece, later, rfl⟩ := List.exists_cons_of_ne_nil some
    obtain ⟨rfl, remaining⟩ := List.cons.inj same
    have several : later ≠ [] := by
      rintro rfl
      cases remaining
    obtain ⟨_, read⟩ := each piece List.mem_cons_self separator (tokens ++ closing :: rest)
      (by simp [separates])
    obtain ⟨_, behind⟩ := ih later remaining several fun piece inside =>
      each piece (List.mem_cons_of_mem _ inside)
    have other : separator.kind ≠ .rightParenthesis := by simp [separates]
    rw [List.append_assoc, List.cons_append]
    refine ⟨by simp only [List.length_append, List.length_cons]; omega, ?_⟩
    rw [readArguments, read]
    simp only [bind, Except.bind, if_neg other, if_pos separates, behind]
    rfl

theorem reads_readRow {operators : List Arithmetic} {tokens middle rest : List Token}
    {left value : Expr} {within} (first : Reads reader tokens left middle)
    (extended : extendRow operators reader left middle = .ok ⟨value, rest, within⟩) :
    Reads (readRow operators reader) tokens value rest := by
  obtain ⟨fewer, read⟩ := first
  refine ⟨Nat.lt_of_le_of_lt within fewer, ?_⟩
  simp only [readRow, read, bind, Except.bind, extended]
  rfl

theorem extendRow_operator {operators : List Arithmetic} {operator : Arithmetic} {token : Token}
    {tokens middle rest : List Token} {left right value : Expr} {within}
    (found : token.among operators = some operator) (second : Reads reader tokens right middle)
    (extended : extendRow operators reader (.binary (.arithmetic operator) left right) middle
      = .ok ⟨value, rest, within⟩) :
    ∃ within, extendRow operators reader left (token :: tokens) = .ok ⟨value, rest, within⟩ := by
  obtain ⟨fewer, read⟩ := second
  refine ⟨by simp only [List.length_cons]; omega, ?_⟩
  rw [extendRow]
  simp only [found, read, bind, Except.bind, extended]
  rfl

theorem reads_readComparison_stop {tokens rest : List Token} {e : Expr}
    (sum : Reads (readSum reader) tokens e rest) (stops : Stops .comparison rest) :
    Reads (readComparison reader) tokens e rest := by
  obtain ⟨fewer, read⟩ := sum
  refine ⟨fewer, ?_⟩
  cases rest with
  | nil => simp only [readComparison, read, bind, Except.bind]; rfl
  | cons token rest =>
    simp only [readComparison, read, bind, Except.bind, comparison?_eq_none_of_stops stops]
    rfl

theorem reads_readComparison {operator : Comparison} {token : Token}
    {tokens middle rest : List Token} {left right : Expr}
    (first : Reads (readSum reader) tokens left (token :: middle))
    (found : token.comparison? = some operator)
    (second : Reads (readSum reader) middle right rest) :
    Reads (readComparison reader) tokens (.binary (.comparison operator) left right) rest := by
  obtain ⟨fewer, readLeft⟩ := first
  obtain ⟨shorter, readRight⟩ := second
  refine ⟨by simp only [List.length_cons] at fewer; omega, ?_⟩
  simp only [readComparison, readLeft, bind, Except.bind, found, readRight]
  rfl

theorem reads_readUnsigned {tokens rest : List Token} {e : Expr}
    (primary : Reads (readPrimary reader) tokens e rest) :
    Reads (readUnsigned reader) tokens (readPercents e rest).value (readPercents e rest).rest := by
  obtain ⟨fewer, read⟩ := primary
  refine ⟨Nat.lt_of_le_of_lt (readPercents e rest).within fewer, ?_⟩
  simp only [readUnsigned, read, bind, Except.bind]
  rfl

theorem reads_group {opening closing : Token} {tokens rest : List Token} {e : Expr}
    (opens : opening.kind = .leftParenthesis) (closes : closing.kind = .rightParenthesis)
    (inner : Reads reader tokens e (closing :: rest)) :
    Reads (readPrimary reader) (opening :: tokens) e rest := by
  obtain ⟨fewer, read⟩ := inner
  obtain ⟨_, closed⟩ : Reads (readToken .rightParenthesis) (closing :: rest) closing rest :=
    reads_readToken closes
  refine ⟨by simp only [List.length_cons] at fewer ⊢; omega, ?_⟩
  simp only [readPrimary, opens, read, bind, Except.bind, closed]
  rfl

theorem reads_call {name opening : Token} {tokens rest : List Token} {values : List Expr}
    (kind : name.kind = .function) (opens : opening.kind = .leftParenthesis)
    (arguments : Reads (readArgumentList reader (Text.capitalize name.text)) tokens values rest) :
    Reads (readPrimary reader) (name :: opening :: tokens)
      (.call (Text.capitalize name.text) values) rest := by
  obtain ⟨fewer, read⟩ := arguments
  obtain ⟨_, opened⟩ : Reads (readToken .leftParenthesis) (opening :: tokens) opening tokens :=
    reads_readToken opens
  refine ⟨by simp only [List.length_cons]; omega, ?_⟩
  simp only [readPrimary, kind, readCall, opened, bind, Except.bind, read]
  rfl

theorem reads_readArgumentList {function : String} {closing : Token} {tokens rest : List Token}
    (closes : closing.kind = .rightParenthesis) (pieces : List (List Token × Expr))
    (separated : Separated (pieces.map Prod.fst) tokens)
    (derived : ∀ piece ∈ pieces, Derives .comparison piece.1 piece.2)
    (each : ∀ piece ∈ pieces, ∀ token behind, token.kind ≠ .operator →
      Reads reader (piece.1 ++ token :: behind) piece.2 (token :: behind)) :
    Reads (readArgumentList reader function) (tokens ++ closing :: rest) (pieces.map Prod.snd)
      rest := by
  cases pieces with
  | nil =>
    cases separated
    rw [List.nil_append]
    exact ⟨Nat.lt_succ_self _, by rw [readArgumentList, if_pos closes]; rfl⟩
  | cons piece others =>
    obtain ⟨head, behind, shape, open_, _⟩ := (derived piece List.mem_cons_self).head
    obtain ⟨later, rfl⟩ := separated.begins
    have read : Reads (readArguments reader function) _ _ rest :=
      reads_readArguments closes separated (piece :: others) rfl (List.cons_ne_nil _ _) each
    rw [shape, List.cons_append, List.cons_append] at read ⊢
    obtain ⟨fewer, read⟩ := read
    exact ⟨fewer, by rw [readArgumentList, if_neg open_]; exact read⟩

end

theorem readerAt_row {depth : Nat} {level next : Level} (below : level.tighter? = some next)
    (rows : level.operators ≠ []) :
    readerAt depth level = readRow level.operators (readerAt depth next) := by
  cases level <;> cases below <;> first | rfl | exact absurd rfl rows

theorem reads_tighter {level next : Level} {tokens rest after : List Token} {e value : Expr}
    {depth : Nat} (below : level.tighter? = some next)
    (head : next = .percent → ∃ token behind, tokens = token :: behind ∧ token.kind ≠ .operator)
    (reads : ∀ value after, Resumes depth next e rest value after →
      Reads (readerAt depth next) (tokens ++ rest) value after)
    (resumes : Resumes depth level e rest value after) :
    Reads (readerAt depth level) (tokens ++ rest) value after := by
  cases resumes with
  | row below' rows stops within extended =>
    obtain rfl := Option.some.inj (below.symm.trans below')
    rw [readerAt_row below rows]
    exact reads_readRow (reads e rest (.of_stops stops)) extended
  | percents =>
    cases below
    exact reads_readUnsigned (reads e rest (.of_stops fun _ _ _ none => nomatch none))
  | stop rowless other stops =>
    have inner := reads e rest (.of_stops (stops.tighter below))
    cases level with
    | comparison => cases below; exact reads_readComparison_stop inner stops
    | signed =>
      cases below
      obtain ⟨token, behind, rfl, plain⟩ := head rfl
      obtain ⟨fewer, read⟩ := inner
      have unsigned : token.sign? = none := by rw [Token.sign?, if_pos plain]
      refine ⟨fewer, ?_⟩
      simp only [readerAt, List.cons_append, readSigned, unsigned]
      exact read
    | percent => exact absurd rfl other
    | primary => cases below
    | _ => exact absurd rowless (by decide)

/-- What is derived is read, and the reader goes on behind it. -/
theorem reads_of_derives {level : Level} {tokens : List Token} {e : Expr}
    (derived : Derives level tokens e) (depth : Nat) (rest : List Token) (value : Expr)
    (after : List Token) (enough : tokens.length ≤ depth)
    (resumes : Resumes depth level e rest value after) :
    Reads (readerAt depth level) (tokens ++ rest) value after := by
  induction derived generalizing depth rest value after with
  | @tighter level next tokens e below inner ih =>
    refine reads_tighter below (fun percent => ?_)
      (fun value after => ih depth rest value after enough) resumes
    obtain ⟨token, behind, shape, _, plain⟩ := inner.head
    exact ⟨token, behind, shape, plain (.inl percent)⟩
  | @row level next tokens others token left right operator _ listed between below _ first second =>
    cases resumes with
    | row below' rows stops within extended =>
      obtain rfl := Option.some.inj (below.symm.trans below')
      simp only [List.length_append, List.length_cons] at enough
      have found := Token.among_eq_some_iff.mpr ⟨listed, between⟩
      have operand := second depth rest right rest (by omega) (.of_stops stops)
      obtain ⟨_, goesOn⟩ := extendRow_operator found operand extended
      rw [List.append_assoc, List.cons_append]
      exact first depth _ value after (by omega)
        (.row below rows (stops_of_mem_operators below listed between) _ goesOn)
    | percents => exact absurd listed List.not_mem_nil
    | stop rowless => exact absurd (rowless ▸ listed) List.not_mem_nil
  | @compared tokens others token left right operator _ between _ first second =>
    cases resumes with
    | row _ rows => exact absurd rfl rows
    | stop _ _ stops =>
      simp only [List.length_append, List.length_cons] at enough
      rw [List.append_assoc, List.cons_append]
      exact reads_readComparison
        (first depth _ left _ (by omega) (.of_stops (stops_of_comparison between)))
        (Token.comparison?_eq_some_iff.mpr between)
        (second depth rest right rest (by omega) (.of_stops (stops.tighter rfl)))
  | @sign tokens token operand operator listed before _ ih =>
    cases resumes with
    | row _ rows => exact absurd rfl rows
    | stop _ _ stops =>
      obtain ⟨shallower, rfl⟩ : ∃ shallower, depth = shallower + 1 :=
        ⟨depth - 1, by simp only [List.length_cons] at enough; omega⟩
      obtain ⟨fewer, read⟩ := ih shallower rest operand rest
        (by simpa using enough) (.of_stops stops)
      have found := Token.sign?_eq_some_iff.mpr ⟨listed, before⟩
      refine ⟨by simp only [List.length_append, List.length_cons]; omega, ?_⟩
      simp only [readerAt, List.cons_append] at read ⊢
      rw [readSigned]
      simp only [found, read, bind, Except.bind]
      rfl
  | @percent tokens token operand _ behind ih =>
    cases resumes with
    | row _ rows => exact absurd rfl rows
    | stop _ other => exact absurd rfl other
    | percents =>
      simp only [List.length_append, List.length_cons] at enough
      rw [List.append_assoc, List.singleton_append]
      have found := Token.isPercent_iff.mpr behind
      have goesOn : Resumes depth .percent operand (token :: rest) _ _ := .percents
      rw [readPercents, if_pos found] at goesOn
      exact ih depth _ _ _ (by omega) goesOn
  | @number token number kind read =>
    cases resumes with
    | row _ rows => exact absurd rfl rows
    | stop =>
      have same : token.number = number := by simp [Token.number, read]
      exact ⟨Nat.lt_succ_self _, by simp [readerAt, readPrimary, kind, same]⟩
  | truth kind =>
    cases resumes with
    | row _ rows => exact absurd rfl rows
    | stop => exact ⟨Nat.lt_succ_self _, by simp [readerAt, readPrimary, kind]⟩
  | cell kind =>
    cases resumes with
    | row _ rows => exact absurd rfl rows
    | stop => exact ⟨Nat.lt_succ_self _, by simp [readerAt, readPrimary, kind]⟩
  | range kind =>
    cases resumes with
    | row _ rows => exact absurd rfl rows
    | stop => exact ⟨Nat.lt_succ_self _, by simp [readerAt, readPrimary, kind]⟩
  | @call name opening closing tokens pieces kind opens each separated closes ih =>
    cases resumes with
    | row _ rows => exact absurd rfl rows
    | stop =>
      obtain ⟨shallower, rfl⟩ : ∃ shallower, depth = shallower + 1 :=
        ⟨depth - 1, by simp only [List.length_cons] at enough; omega⟩
      simp only [List.length_append, List.length_cons] at enough
      have arguments : Reads
          (readArgumentList (readerAt shallower .comparison) (Text.capitalize name.text))
          (tokens ++ closing :: rest) _ rest := reads_readArgumentList closes pieces separated each
        fun piece inside token behind plain =>
          ih piece inside shallower (token :: behind) piece.2 _
            (by have := separated.length_le _ (List.mem_map_of_mem inside); omega)
            (.of_stops (stops_of_kind plain))
      rw [List.cons_append, List.cons_append, List.append_assoc, List.singleton_append]
      exact reads_call kind opens arguments
  | @group opening closing tokens e opens _ closes ih =>
    cases resumes with
    | row _ rows => exact absurd rfl rows
    | stop =>
      obtain ⟨shallower, rfl⟩ : ∃ shallower, depth = shallower + 1 :=
        ⟨depth - 1, by simp only [List.length_cons] at enough; omega⟩
      simp only [List.length_append, List.length_cons] at enough
      have inner := ih shallower (closing :: rest) e _ (by omega)
        (.of_stops (stops_of_kind (by simp [closes])))
      rw [List.cons_append, List.append_assoc, List.singleton_append]
      exact reads_group opens closes inner

theorem ofTokens_of_derives {limit : Nat} {tokens : List Token} {tree : Expr}
    (derived : Derives .comparison tokens tree) (enough : tokens.length < limit) :
    Expr.ofTokens limit tokens = .ok tree := by
  obtain ⟨depth, rfl⟩ : ∃ depth, limit = depth + 1 := ⟨limit - 1, by omega⟩
  have stops : Stops .comparison [] := fun _ none => nomatch none
  have reading := reads_of_derives derived depth [] tree [] (by omega) (.of_stops stops)
  rw [List.append_nil, readerAt] at reading
  obtain ⟨_, read⟩ := reading
  obtain ⟨token, rest, rfl, _⟩ := derived.head
  simp only [Expr.ofTokens, List.isEmpty_cons, read, bind, Except.bind]
  rfl

/-- With any limit that does not stop it, reading yields the expression that is derived. -/
theorem ofTokens_eq_ok_iff {limit : Nat} {tokens : List Token}
    (shallow : Expr.ofTokens limit tokens ≠ .error .nestedTooDeep) (tree : Expr) :
    Expr.ofTokens limit tokens = .ok tree ↔ Derives .comparison tokens tree := by
  constructor
  · exact derives_of_ofTokens
  · intro derived
    have same : Expr.ofTokens (max limit (tokens.length + 1)) tokens = Expr.ofTokens limit tokens :=
      ofTokens_of_le (Nat.le_max_left _ _) shallow
    rw [← same]
    exact ofTokens_of_derives derived (by omega)

/-- No tokens have two derivations of different expressions. -/
theorem Derives.unique {tokens : List Token} {first second : Expr}
    (one : Derives .comparison tokens first) (other : Derives .comparison tokens second) :
    first = second := by
  have read := ofTokens_of_derives one (Nat.lt_succ_self _)
  rw [ofTokens_of_derives other (Nat.lt_succ_self _)] at read
  exact (Except.ok.inj read).symm

/-- A row of tokens is read as the one expression that is derived from all of it, and reported as
malformed if there is none. Only a limit below the count of tokens can stop the reading early. -/
theorem ofTokens_exact (tokens : List Token) :
    (∀ limit, Expr.ofTokens limit tokens ≠ .error .nestedTooDeep →
      (∀ tree, Expr.ofTokens limit tokens = .ok tree ↔ Derives .comparison tokens tree) ∧
      ((¬∃ tree, Derives .comparison tokens tree) → ∃ malformation, ∀ formula,
        (Expr.ofTokens limit tokens).mapError (Failure.ofMalformation formula)
          = .error (.malformed formula malformation))) ∧
    (∀ limit, tokens.length < limit → Expr.ofTokens limit tokens ≠ .error .nestedTooDeep) ∧
    (∀ first second, Derives .comparison tokens first → Derives .comparison tokens second →
      first = second) := by
  refine ⟨fun limit shallow => ⟨ofTokens_eq_ok_iff shallow, fun underivable => ?_⟩,
    fun limit => ofTokens_ne_nestedTooDeep, fun first second => Derives.unique⟩
  cases read : Expr.ofTokens limit tokens with
  | ok tree => exact absurd ⟨tree, derives_of_ofTokens read⟩ underivable
  | error malformation =>
    refine ⟨malformation, fun formula => ?_⟩
    have other : malformation ≠ .nestedTooDeep := fun deep => shallow (deep ▸ read)
    change Except.error (Failure.ofMalformation formula malformation) = _
    cases malformation <;> first | rfl | exact absurd rfl other

end SheetPricing.Formula
