import SheetPricing.Proofs.Formula.Afresh

/-! What an expression asks for. Its step asks for the values of parts and cells in a certain
order, and each answer decides what it asks for next. A fault of the step is one that a call makes
itself, or one of an answer: nothing else makes a fault, and nothing stops one. -/
namespace SheetPricing.Formula

/-- What an expression can ask for: the value of a part, or the value of a cell. -/
inductive Question where
  | part (e : Expr)
  | cell (address : Address)

/-- The answer to a question on a path. -/
def answer (sheet : Worksheet) (path : List Address) : Question → Except Failure Binary64
  | .part e => evaluateAfresh sheet path e
  | .cell address => resolveAfresh sheet (evaluateAfresh sheet) path address

section
variable (sheet : Worksheet) (answers : Question → Except Failure Binary64)

/-- The step of an expression that gets answers. -/
def Expr.answered (e : Expr) : Except Failure Binary64 :=
  e.step sheet (fun part => answers (.part part)) fun address => answers (.cell address)

/-- The values of the arguments of an aggregate that gets answers. -/
def gathered (arguments : List Expr) : Except Failure (List Binary64) :=
  collect sheet (fun part => answers (.part part)) (fun address => answers (.cell address))
    arguments

/-- What the arguments of an aggregate ask for. -/
inductive Gathers : List Expr → Question → Prop
  | argument {e rest} (single : ∀ corners, e ≠ .range corners) : Gathers (e :: rest) (.part e)
  | behindArgument {e rest value question} (single : ∀ corners, e ≠ .range corners)
      (known : answers (.part e) = .ok value) (later : Gathers rest question) :
      Gathers (e :: rest) question
  | member {corners rest before address behind values}
      (listed : members sheet corners = .ok (before ++ address :: behind))
      (known : before.mapM (fun address => answers (.cell address)) = .ok values) :
      Gathers (.range corners :: rest) (.cell address)
  | behindRange {corners rest addresses values question}
      (listed : members sheet corners = .ok addresses)
      (known : addresses.mapM (fun address => answers (.cell address)) = .ok values)
      (later : Gathers rest question) : Gathers (.range corners :: rest) question

/-- What an expression asks for. -/
inductive Asks : Expr → Question → Prop
  | reference {address} : Asks (.reference address) (.cell address)
  | operand {operator operand} : Asks (.unary operator operand) (.part operand)
  | left {operator left right} : Asks (.binary operator left right) (.part left)
  | right {operator left right x} (known : answers (.part left) = .ok x) :
      Asks (.binary operator left right) (.part right)
  | condition {name condition chosen} (otherwise : Option Expr)
      (called : Function.named? name = some .choose) :
      Asks (.call name (condition :: chosen :: otherwise.toList)) (.part condition)
  | chosen {name condition chosen test} (otherwise : Option Expr)
      (called : Function.named? name = some .choose)
      (known : answers (.part condition) = .ok test) (holds : test.equals 0 = false) :
      Asks (.call name (condition :: chosen :: otherwise.toList)) (.part chosen)
  | otherwise {name condition chosen otherwise test}
      (called : Function.named? name = some .choose)
      (known : answers (.part condition) = .ok test) (fails : test.equals 0 = true) :
      Asks (.call name [condition, chosen, otherwise]) (.part otherwise)
  | magnitude {name argument} (called : Function.named? name = some .abs) :
      Asks (.call name [argument]) (.part argument)
  | amount {name argument places} (called : Function.named? name = some .round) :
      Asks (.call name [argument, places]) (.part argument)
  | places {name argument places value} (called : Function.named? name = some .round)
      (known : answers (.part argument) = .ok value) :
      Asks (.call name [argument, places]) (.part places)
  | gathers {name function arguments question} (called : Function.named? name = some function)
      (aggregates : function.Aggregates) (gathers : Gathers sheet answers arguments question) :
      Asks (.call name arguments) question

/-- That a call makes a fault itself: the values of a sum have no exact sum within range, or a range
has a count too long to be written. -/
inductive Breaks : Expr → Fault → Prop
  | sum {name arguments values failure} (called : Function.named? name = some .sum)
      (known : gathered sheet answers arguments = .ok values)
      (fails : Binary64.sum values = .error failure) :
      Breaks (.call name arguments) (.sum failure)
  | count {name function before corners behind values count}
      (called : Function.named? name = some function) (aggregates : function.Aggregates)
      (known : gathered sheet answers before = .ok values)
      (large : corners.addresses = .error (.tooLarge count))
      (long : maxCountDigits < digitCount count.natAbs) :
      Breaks (.call name (before ++ .range corners :: behind)) .countTooLong

end

section
variable {sheet : Worksheet} {answers : Question → Except Failure Binary64} {cause : Fault}

theorem apply_ne_fault (operator : BinaryOperator) (x y : Binary64) :
    operator.apply x y ≠ .error (.fault cause) := by
  cases operator with
  | comparison operator => simp [BinaryOperator.apply]
  | arithmetic operator =>
    cases operator <;> simp only [BinaryOperator.apply, Arithmetic.apply, ne_eq, reduceCtorEq,
      not_false_eq_true]
    · split <;> simp
    · refine mapError_ne (fun failure => ?_) _
      cases failure <;> simp [powerFailure]

theorem requireFinite_ne_fault (formula : String) (value : Binary64) :
    requireFinite formula value ≠ .error (.fault cause) := by
  unfold requireFinite
  split <;> simp

theorem roundTo_ne_fault (value digits : Binary64) :
    roundTo value digits ≠ .error (.fault cause) := by
  intro failed
  rcases error_of_bind failed with failed | ⟨digits, _, failed⟩
  · exact requireFinite_ne_fault _ _ failed
  · rcases error_of_bind failed with failed | ⟨value, _, failed⟩
    · exact requireFinite_ne_fault _ _ failed
    · exact mapError_ne (fun amount => by simp) _ failed

theorem members_eq_fault_iff {corners : Range} : members sheet corners = .error (.fault cause) ↔
    cause = .countTooLong ∧ ∃ count, corners.addresses = .error (.tooLarge count) ∧
      maxCountDigits < digitCount count.natAbs := by
  unfold members
  rcases corners.addresses with problem | addresses
  · cases problem with
    | invalid => simp [Failure.ofRange]
    | tooLarge count =>
      by_cases long : maxCountDigits < digitCount count.natAbs
      · simp [Failure.ofRange, long, eq_comm]
      · simp [Failure.ofRange, long]
  · simp

theorem mapM_eq_error {α β : Type} {f : α → Except Failure β} {xs : List α} {failure : Failure}
    (failed : xs.mapM f = .error failure) : ∃ before x behind values,
      xs = before ++ x :: behind ∧ before.mapM f = .ok values ∧ f x = .error failure := by
  induction xs with
  | nil => cases failed
  | cons x rest ih =>
    rw [List.mapM_cons] at failed
    rcases error_of_bind failed with failed | ⟨value, known, failed⟩
    · exact ⟨[], x, rest, [], rfl, rfl, failed⟩
    · rcases error_of_bind failed with failed | ⟨values, _, failed⟩
      · obtain ⟨before, y, behind, values, rfl, earlier, failed⟩ := ih failed
        refine ⟨x :: before, y, behind, value :: values, rfl, ?_, failed⟩
        rw [List.mapM_cons, known, earlier]
        rfl
      · cases failed

theorem mapM_append_error {α β : Type} {f : α → Except Failure β} {before behind : List α}
    {x : α} {values : List β} {failure : Failure} (known : before.mapM f = .ok values)
    (failed : f x = .error failure) : (before ++ x :: behind).mapM f = .error failure := by
  rw [List.mapM_append, known, List.mapM_cons, failed]
  rfl

theorem gathered_single {e : Expr} (single : ∀ corners, e ≠ .range corners) (rest : List Expr) :
    gathered sheet answers (e :: rest) = do
      let value ← answers (.part e)
      let others ← gathered sheet answers rest
      return value :: others :=
  collect_single single rest

theorem gathered_range (corners : Range) (rest : List Expr) :
    gathered sheet answers (.range corners :: rest) = do
      let addresses ← members sheet corners
      let values ← addresses.mapM fun address => answers (.cell address)
      let others ← gathered sheet answers rest
      return values ++ others := by
  rw [gathered, collect, orThrow_eq]
  rfl

theorem gathered_append (before behind : List Expr) :
    gathered sheet answers (before ++ behind) = do
      let values ← gathered sheet answers before
      let others ← gathered sheet answers behind
      return values ++ others :=
  collect_append before behind

/-- A fault behind the arguments of an aggregate is in an answer, or in a range's count. -/
theorem gathers_of_fault {arguments : List Expr}
    (failed : gathered sheet answers arguments = .error (.fault cause)) :
    (∃ question, Gathers sheet answers arguments question ∧
      answers question = .error (.fault cause)) ∨
    ∃ before corners behind values, arguments = before ++ .range corners :: behind ∧
      gathered sheet answers before = .ok values ∧
      members sheet corners = .error (.fault cause) := by
  induction arguments with
  | nil => cases failed
  | cons e rest ih =>
    rcases range_or_single e with ⟨corners, rfl⟩ | single
    · rw [gathered_range] at failed
      rcases error_of_bind failed with failed | ⟨addresses, listed, failed⟩
      · exact .inr ⟨[], corners, rest, [], rfl, rfl, failed⟩
      rcases error_of_bind failed with failed | ⟨values, known, failed⟩
      · obtain ⟨before, address, behind, values, rfl, known, failed⟩ := mapM_eq_error failed
        exact .inl ⟨.cell address, .member listed known, failed⟩
      rcases error_of_bind failed with failed | ⟨others, _, failed⟩
      · rcases ih failed with ⟨question, gathers, failed⟩
          | ⟨before, inner, behind, more, rfl, first, failed⟩
        · exact .inl ⟨question, .behindRange listed known gathers, failed⟩
        · refine .inr ⟨.range corners :: before, inner, behind, values ++ more, rfl, ?_, failed⟩
          rw [gathered_range, listed, ok_bind, known, ok_bind, first]
          rfl
      · cases failed
    · rw [gathered_single single] at failed
      rcases error_of_bind failed with failed | ⟨value, known, failed⟩
      · exact .inl ⟨.part e, .argument single, failed⟩
      rcases error_of_bind failed with failed | ⟨others, _, failed⟩
      · rcases ih failed with ⟨question, gathers, failed⟩
          | ⟨before, inner, behind, more, rfl, first, failed⟩
        · exact .inl ⟨question, .behindArgument single known gathers, failed⟩
        · refine .inr ⟨e :: before, inner, behind, value :: more, rfl, ?_, failed⟩
          rw [gathered_single single, known, ok_bind, first]
          rfl
      · cases failed

/-- A failing answer is the failure of the arguments. -/
theorem gathered_eq_error {arguments : List Expr} {question : Question} {failure : Failure}
    (gathers : Gathers sheet answers arguments question)
    (failed : answers question = .error failure) :
    gathered sheet answers arguments = .error failure := by
  induction gathers with
  | argument single =>
    rw [gathered_single single, failed]
    rfl
  | behindArgument single known _ ih =>
    rw [gathered_single single, known, ok_bind, ih failed]
    rfl
  | member listed known =>
    rw [gathered_range, listed, ok_bind, mapM_append_error known failed]
    rfl
  | behindRange listed known _ ih =>
    rw [gathered_range, listed, ok_bind, known, ok_bind, ih failed]
    rfl

theorem answered_call {name : String} {function : Function} {arguments : List Expr}
    (called : Function.named? name = some function) :
    (Expr.call name arguments).answered sheet answers
      = callValue sheet (fun part => answers (.part part)) (fun address => answers (.cell address))
          function arguments := by
  simp only [Expr.answered, Expr.step, called]

/-- An aggregate fails where its arguments do, or where its values have no sum. -/
theorem answered_aggregate {name : String} {function : Function} {arguments : List Expr}
    (called : Function.named? name = some function) (aggregates : function.Aggregates) :
    (Expr.call name arguments).answered sheet answers = do
      let values ← gathered sheet answers arguments
      match function with
      | .sum => (Binary64.sum values).mapError fun failure => .fault (.sum failure)
      | .max => return greatest values
      | _ => return least values := by
  rw [answered_call called]
  rcases aggregates with rfl | rfl | rfl
  · simp only [callValue, orThrow_eq]
    rfl
  · rfl
  · rfl

private theorem asks_of_fault {name : String} {function : Function} {arguments : List Expr}
    (called : Function.named? name = some function) (plain : ¬function.Aggregates)
    (failed : (Expr.call name arguments).answered sheet answers = .error (.fault cause)) :
    ∃ question, Asks sheet answers (.call name arguments) question ∧
      answers question = .error (.fault cause) := by
  rw [answered_call called] at failed
  cases function with
  | sum => exact absurd (.inl rfl) plain
  | max => exact absurd (.inr (.inl rfl)) plain
  | min => exact absurd (.inr (.inr rfl)) plain
  | choose =>
    rcases arguments with _ | ⟨condition, _ | ⟨chosen, _ | ⟨otherwise, _ | ⟨extra, more⟩⟩⟩⟩
    · cases failed
    · cases failed
    · rcases error_of_bind failed with failed | ⟨test, known, failed⟩
      · exact ⟨_, .condition none called, failed⟩
      · split at failed
        · cases failed
        · next holds =>
          exact ⟨_, .chosen none called known (by simpa using holds), failed⟩
    · rcases error_of_bind failed with failed | ⟨test, known, failed⟩
      · exact ⟨_, .condition (some otherwise) called, failed⟩
      · split at failed
        · next fails => exact ⟨_, .otherwise called known fails, failed⟩
        · next holds =>
          exact ⟨_, .chosen (some otherwise) called known (by simpa using holds), failed⟩
    · cases failed
  | abs =>
    rcases arguments with _ | ⟨argument, _ | ⟨extra, more⟩⟩
    · cases failed
    · rcases error_of_bind failed with failed | ⟨value, _, failed⟩
      · exact ⟨_, .magnitude called, failed⟩
      · cases failed
    · cases failed
  | round =>
    rcases arguments with _ | ⟨argument, _ | ⟨places, _ | ⟨extra, more⟩⟩⟩
    · cases failed
    · cases failed
    · rcases error_of_bind failed with failed | ⟨value, known, failed⟩
      · exact ⟨_, .amount called, failed⟩
      rcases error_of_bind failed with failed | ⟨digits, _, failed⟩
      · exact ⟨_, .places called known, failed⟩
      · rw [orThrow_eq] at failed
        exact absurd failed (roundTo_ne_fault value digits)
    · cases failed

/-- A fault of an expression is one that it makes itself, or one of an answer. -/
theorem breaks_or_asks {e : Expr} (failed : e.answered sheet answers = .error (.fault cause)) :
    Breaks sheet answers e cause ∨
      ∃ question, Asks sheet answers e question ∧ answers question = .error (.fault cause) := by
  cases e with
  | number value => cases failed
  | reference address => exact .inr ⟨_, .reference, failed⟩
  | range corners => cases failed
  | unary operator operand =>
    rcases error_of_bind failed with failed | ⟨value, _, failed⟩
    · exact .inr ⟨_, .operand, failed⟩
    · cases failed
  | binary operator left right =>
    rcases error_of_bind failed with failed | ⟨x, known, failed⟩
    · exact .inr ⟨_, .left, failed⟩
    rcases error_of_bind failed with failed | ⟨y, _, failed⟩
    · exact .inr ⟨_, .right known, failed⟩
    · rw [orThrow_eq] at failed
      exact absurd failed (apply_ne_fault operator x y)
  | call name arguments =>
    cases called : Function.named? name with
    | none =>
      simp only [Expr.answered, Expr.step, called] at failed
      cases failed
    | some function =>
      by_cases aggregates : function.Aggregates
      · rw [answered_aggregate called aggregates] at failed
        rcases error_of_bind failed with failed | ⟨values, known, failed⟩
        · rcases gathers_of_fault failed with ⟨question, gathers, failed⟩
            | ⟨before, corners, behind, values, rfl, known, failed⟩
          · exact .inr ⟨question, .gathers called aggregates gathers, failed⟩
          · obtain ⟨rfl, count, large, long⟩ := members_eq_fault_iff.mp failed
            exact .inl (.count called aggregates known large long)
        · rcases aggregates with rfl | rfl | rfl
          · cases summed : Binary64.sum values with
            | ok total => simp only [summed] at failed; cases failed
            | error failure =>
              simp only [summed] at failed
              cases failed
              exact .inl (.sum called known summed)
          · cases failed
          · cases failed
      · exact .inr (asks_of_fault called aggregates failed)

/-- A failing answer is the failure of the expression that asks for it. -/
theorem answered_eq_error {e : Expr} {question : Question} {failure : Failure}
    (asks : Asks sheet answers e question) (failed : answers question = .error failure) :
    e.answered sheet answers = .error failure := by
  cases asks with
  | reference => exact failed
  | operand =>
    change answers _ >>= _ = _
    rw [failed]
    rfl
  | left =>
    change answers _ >>= _ = _
    rw [failed]
    rfl
  | right known =>
    change answers _ >>= (fun x => answers _ >>= _) = _
    rw [known, ok_bind, failed]
    rfl
  | condition otherwise called =>
    rw [answered_call called]
    cases otherwise <;> simp only [Option.toList, callValue, failed] <;> rfl
  | chosen otherwise called known holds =>
    rw [answered_call called]
    cases otherwise <;> simp only [Option.toList, callValue, known, ok_bind, holds] <;> exact failed
  | otherwise called known fails =>
    rw [answered_call called]
    simp only [callValue, known, ok_bind, fails]
    exact failed
  | magnitude called =>
    rw [answered_call called]
    simp only [callValue, failed]
    rfl
  | amount called =>
    rw [answered_call called]
    simp only [callValue, failed]
    rfl
  | places called known =>
    rw [answered_call called]
    simp only [callValue, known, ok_bind, failed]
    rfl
  | gathers called aggregates gathers =>
    rw [answered_aggregate called aggregates, gathered_eq_error gathers failed]
    rfl

/-- An expression that makes a fault ends with it. -/
theorem answered_eq_fault {e : Expr} (breaks : Breaks sheet answers e cause) :
    e.answered sheet answers = .error (.fault cause) := by
  cases breaks with
  | sum called known fails =>
    rw [answered_aggregate called (.inl rfl), known, ok_bind]
    simp only [fails]
    rfl
  | count called aggregates known large long =>
    have listed : members sheet _ = .error (.fault .countTooLong) :=
      members_eq_fault_iff.mpr ⟨rfl, _, large, long⟩
    rw [answered_aggregate called aggregates, gathered_append, known, ok_bind, gathered_range,
      listed]
    rfl

end

end SheetPricing.Formula
