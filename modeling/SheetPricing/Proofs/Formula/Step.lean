import Mathlib.Data.List.Forall2
import SheetPricing.Formula.Evaluation
import SheetPricing.Proofs.Outcome

/-! Two evaluators whose parts and cells correspond have corresponding steps. A correspondence is
any relation between the computations of two monads that values, failures and sequences keep; every
fact about all evaluated parts of an expression is an instance of `Correspondence.step`. The evaluators
may work on two worksheets, as long as the same cells count in ranges. -/
namespace SheetPricing.Formula

/-- The expressions from which an expression is composed. -/
def Expr.parts : Expr → List Expr
  | .unary _ operand => [operand]
  | .binary _ left right => [left, right]
  | .call _ arguments => arguments
  | _ => []

mutual

def Expr.size : Expr → Nat
  | .unary _ operand => operand.size + 1
  | .binary _ left right => left.size + right.size + 1
  | .call _ arguments => sizes arguments + 1
  | _ => 1

def Expr.sizes : List Expr → Nat
  | [] => 0
  | first :: rest => first.size + sizes rest

end

theorem Expr.size_pos (e : Expr) : 0 < e.size := by cases e <;> simp [Expr.size]

theorem Expr.size_le_sizes {e : Expr} {es : List Expr} (inside : e ∈ es) :
    e.size ≤ Expr.sizes es := by
  induction es with
  | nil => exact absurd inside List.not_mem_nil
  | cons first rest ih =>
    rw [Expr.sizes]
    rcases List.mem_cons.mp inside with rfl | later
    · omega
    · have := ih later
      omega

theorem Expr.size_lt_of_mem_parts {e part : Expr} (inside : part ∈ e.parts) :
    part.size < e.size := by
  cases e with
  | unary operator operand =>
    obtain rfl := List.mem_singleton.mp inside
    simp [Expr.size]
  | binary operator left right =>
    simp only [Expr.parts, List.mem_cons, List.not_mem_nil, or_false] at inside
    rcases inside with rfl | rfl <;> simp only [Expr.size] <;> omega
  | call name arguments =>
    have : part.size ≤ Expr.sizes arguments := Expr.size_le_sizes inside
    rw [Expr.size]
    omega
  | _ => exact absurd inside List.not_mem_nil

/-- A function that takes any number of arguments, ranges among them. -/
def Function.Aggregates (function : Function) : Prop :=
  function = .sum ∨ function = .max ∨ function = .min

/-- The cells that an expression refers to, by name or within a range that is expanded. -/
inductive Expr.RefersTo : Expr → Address → Prop
  | reference {address} : RefersTo (.reference address) address
  | member {name function arguments corners addresses address}
      (called : Function.named? name = some function) (aggregates : function.Aggregates)
      (argument : .range corners ∈ arguments) (spanned : corners.addresses = .ok addresses)
      (inside : address ∈ addresses) : RefersTo (.call name arguments) address
  | part {e part address} (inside : part ∈ e.parts) (refers : RefersTo part address) :
      RefersTo e address

theorem Expr.RefersTo.eq_of_reference {address target : Address}
    (refers : (Expr.reference address).RefersTo target) : target = address := by
  cases refers with
  | reference => rfl
  | part inside => cases inside

/-- A failure that a step makes itself. Evaluators make the others, where they run out of depth or
come back to a cell. -/
def Failure.IsOwn : Failure → Prop
  | .nestedTooDeep => False
  | .circular _ => False
  | _ => True

/-- A result that only fails as a step does itself. -/
def FailsOwn {α : Type} (result : Except Failure α) : Prop :=
  ∀ failure, result = .error failure → failure.IsOwn

theorem failsOwn_ok {α : Type} (value : α) : FailsOwn (.ok value : Except Failure α) := by
  intro failure same
  cases same

theorem failsOwn_error {α : Type} {failure : Failure} (own : failure.IsOwn) :
    FailsOwn (.error failure : Except Failure α) :=
  fun _ same => Except.error.inj same ▸ own

theorem failsOwn_mapError {α ε : Type} {change : ε → Failure} (own : ∀ error, (change error).IsOwn)
    (result : Except ε α) : FailsOwn (result.mapError change) := by
  cases result with
  | ok value => exact failsOwn_ok value
  | error error => exact failsOwn_error (own error)

theorem FailsOwn.bind {α β : Type} {first : Except Failure α} {next : α → Except Failure β}
    (here : FailsOwn first) (later : ∀ value, FailsOwn (next value)) :
    FailsOwn (first >>= next) := by
  intro failure failed
  rcases error_of_bind failed with failed | ⟨value, _, failed⟩
  · exact here failure failed
  · exact later value failure failed

theorem failsOwn_apply (operator : BinaryOperator) (x y : Binary64) :
    FailsOwn (operator.apply x y) := by
  cases operator with
  | comparison operator => exact failsOwn_ok _
  | arithmetic operator =>
    cases operator with
    | divide =>
      rw [BinaryOperator.apply, Arithmetic.apply]
      split
      · exact failsOwn_error trivial
      · exact failsOwn_ok _
    | power => exact failsOwn_mapError (fun failure => by cases failure <;> trivial) _
    | _ => exact failsOwn_ok _

theorem failsOwn_requireFinite (formula : String) (value : Binary64) :
    FailsOwn (requireFinite formula value) := by
  unfold requireFinite
  split
  · exact failsOwn_ok _
  · exact failsOwn_error trivial

theorem failsOwn_roundTo (value digits : Binary64) : FailsOwn (roundTo value digits) :=
  (failsOwn_requireFinite _ _).bind fun _ => (failsOwn_requireFinite _ _).bind fun _ =>
    failsOwn_mapError (by exact fun _ => trivial) _

theorem failsOwn_members (sheet : Worksheet) (corners : Range) :
    FailsOwn (members sheet corners) := by
  unfold members
  rcases corners.addresses with problem | addresses
  · refine failsOwn_error ?_
    cases problem with
    | invalid => trivial
    | tooLarge count =>
      rw [Failure.ofRange]
      split <;> trivial
  · exact failsOwn_ok _

theorem failsOwn_sum (values : List Binary64) :
    FailsOwn ((Binary64.sum values).mapError fun failure => Failure.fault (.sum failure)) :=
  failsOwn_mapError (by exact fun _ => trivial) _

/-- The members of a range that count are among its members. -/
theorem exists_addresses_of_members {sheet : Worksheet} {corners : Range} {listed : List Address}
    (ok : members sheet corners = .ok listed) :
    ∃ addresses, corners.addresses = .ok addresses ∧ ∀ address ∈ listed, address ∈ addresses := by
  rw [members] at ok
  split at ok
  · cases ok
  · next addresses spanned =>
    obtain rfl := Except.ok.inj ok
    exact ⟨addresses, spanned, fun address inside => (List.mem_filter.mp inside).1⟩

/-- Ranges have the same members on worksheets on which the same cells count. -/
theorem members_congr {sheet other : Worksheet} {corners : Range}
    (counted : ∀ addresses, corners.addresses = .ok addresses → ∀ address ∈ addresses,
      counts sheet address = counts other address) :
    members sheet corners = members other corners := by
  unfold members
  rcases spanned : corners.addresses with problem | addresses
  · rfl
  · exact congrArg Except.ok (List.filter_congr (counted addresses spanned))

theorem range_or_single (e : Expr) :
    (∃ corners, e = .range corners) ∨ ∀ corners, e ≠ .range corners := by
  cases e with
  | range corners => exact .inl ⟨corners, rfl⟩
  | _ => exact .inr fun corners equal => by cases equal

theorem orThrow_eq {α : Type} (result : Except Failure α) :
    (orThrow result : Except Failure α) = result := by cases result <;> rfl

section
variable {m n : Type → Type} [Monad m] [Monad n] [MonadExceptOf Failure m]
  [MonadExceptOf Failure n]

theorem collect_single {sheet : Worksheet} {part : Expr → m Binary64} {read : Address → m Binary64}
    {e : Expr} (single : ∀ corners, e ≠ .range corners) (rest : List Expr) :
    collect sheet part read (e :: rest) = do
      let value ← part e
      let others ← collect sheet part read rest
      return value :: others := by
  cases e with
  | range corners => exact absurd rfl (single corners)
  | _ => rfl

theorem collect_append [LawfulMonad m] {sheet : Worksheet} {part : Expr → m Binary64}
    {read : Address → m Binary64} (before behind : List Expr) :
    collect sheet part read (before ++ behind) = do
      let values ← collect sheet part read before
      let others ← collect sheet part read behind
      return values ++ others := by
  induction before with
  | nil => simp only [List.nil_append, collect, pure_bind, bind_pure]
  | cons e rest ih =>
    rw [List.cons_append]
    rcases range_or_single e with ⟨corners, rfl⟩ | single
    · rw [collect, collect, ih]
      simp only [bind_assoc, pure_bind, List.append_assoc]
    · rw [collect_single single, collect_single single, ih]
      simp only [bind_assoc, pure_bind, List.cons_append]

/-- A relation between the computations of two evaluators that holds through their steps. Running
out of depth and coming back to a cell are left to the evaluators. -/
structure Correspondence (m n : Type → Type) [Monad m] [Monad n] [MonadExceptOf Failure m]
    [MonadExceptOf Failure n] where
  rel {α : Type} : m α → n α → Prop
  pure {α : Type} (value : α) : rel (pure value) (pure value)
  throw {α : Type} {failure : Failure} (own : failure.IsOwn) :
    rel (throw failure : m α) (throw failure)
  /-- What follows a failure does not count. -/
  abort {α β : Type} {failure : Failure} (own : failure.IsOwn) (f : α → m β) (g : α → n β) :
    rel (MonadExcept.throw failure >>= f) (MonadExcept.throw failure >>= g)
  bind {α β : Type} {x : m α} {y : n α} {f : α → m β} {g : α → n β} :
    rel x y → (∀ value, rel (f value) (g value)) → rel (x >>= f) (y >>= g)

namespace Correspondence

/-- Equality, where what follows a failure makes no difference. -/
def equality (abort : ∀ {α β : Type} (failure : Failure) (f g : α → m β),
    (MonadExcept.throw failure >>= f) = (MonadExcept.throw failure >>= g)) : Correspondence m m where
  rel x y := x = y
  pure _ := rfl
  throw _ := rfl
  abort _ f g := abort _ f g
  bind first next := by
    subst first
    congr 1
    exact funext next

variable (c : Correspondence m n)

theorem orThrow {α : Type} {result : Except Failure α} (own : FailsOwn result) :
    c.rel (orThrow result) (orThrow result) := by
  cases result with
  | ok value => exact c.pure value
  | error failure => exact c.throw (own failure rfl)

section
variable [LawfulMonad m] [LawfulMonad n] {sheet other : Worksheet}
  {part : Expr → m Binary64} {otherPart : Expr → n Binary64}
  {read : Address → m Binary64} {otherRead : Address → n Binary64}

theorem orThrow_bind {α β : Type} {result : Except Failure α} (own : FailsOwn result)
    {f : α → m β} {g : α → n β} (next : ∀ value, result = .ok value → c.rel (f value) (g value)) :
    c.rel (Formula.orThrow result >>= f) (Formula.orThrow result >>= g) := by
  cases result with
  | ok value =>
    rw [Formula.orThrow, Formula.orThrow, pure_bind, pure_bind]
    exact next value rfl
  | error failure => exact c.abort (own failure rfl) f g

theorem mapM {addresses : List Address}
    (reads : ∀ address ∈ addresses, c.rel (read address) (otherRead address)) :
    c.rel (addresses.mapM read) (addresses.mapM otherRead) := by
  induction addresses with
  | nil =>
    rw [List.mapM_nil, List.mapM_nil]
    exact c.pure []
  | cons address rest ih =>
    rw [List.mapM_cons, List.mapM_cons]
    refine c.bind (reads address List.mem_cons_self) fun value => ?_
    have others := ih fun other inside => reads other (List.mem_cons_of_mem _ inside)
    exact c.bind others fun values => c.pure _

/-- Arguments that give an aggregate corresponding values: a range with the same members that count,
or what is no range. -/
inductive Alike (sheet other : Worksheet) (part : Expr → m Binary64) (otherPart : Expr → n Binary64)
    (read : Address → m Binary64) (otherRead : Address → n Binary64) : Expr → Expr → Prop
  | range {corners} (same : members sheet corners = members other corners)
      (reads : ∀ listed, members sheet corners = .ok listed → ∀ address ∈ listed,
        c.rel (read address) (otherRead address)) :
      Alike sheet other part otherPart read otherRead (.range corners) (.range corners)
  | single {e twin} (here : ∀ corners, e ≠ .range corners) (there : ∀ corners, twin ≠ .range corners)
      (value : c.rel (part e) (otherPart twin)) :
      Alike sheet other part otherPart read otherRead e twin

theorem collect_of_alike {arguments twins : List Expr}
    (alike : List.Forall₂ (c.Alike sheet other part otherPart read otherRead) arguments twins) :
    c.rel (Formula.collect sheet part read arguments)
      (Formula.collect other otherPart otherRead twins) := by
  induction alike with
  | nil => exact c.pure []
  | cons first _ ih =>
    cases first with
    | @range corners same reads =>
      rw [Formula.collect, Formula.collect, ← same]
      refine c.orThrow_bind (failsOwn_members sheet corners) fun addresses listed => ?_
      refine c.bind (c.mapM (reads addresses listed)) fun values => ?_
      exact c.bind ih fun rest => c.pure _
    | single here there value =>
      rw [collect_single here, collect_single there]
      refine c.bind value fun value => ?_
      exact c.bind ih fun rest => c.pure _

variable (sheet) in
theorem collect (arguments : List Expr)
    (reads : ∀ corners, .range corners ∈ arguments → ∀ listed, members sheet corners = .ok listed →
      ∀ address ∈ listed, c.rel (read address) (otherRead address))
    (related : ∀ e ∈ arguments, c.rel (part e) (otherPart e)) :
    c.rel (collect sheet part read arguments) (collect sheet otherPart otherRead arguments) := by
  refine c.collect_of_alike (List.forall₂_same.mpr fun e inside => ?_)
  rcases range_or_single e with ⟨corners, rfl⟩ | single
  · exact .range rfl (reads corners inside)
  · exact .single single single (related e inside)

/-- Where the arguments of a call correspond one by one, the call does. -/
theorem callValue (function : Function) {arguments twins : List Expr}
    (values : List.Forall₂ (fun e twin => c.rel (part e) (otherPart twin)) arguments twins)
    (alike : function.Aggregates →
      List.Forall₂ (c.Alike sheet other part otherPart read otherRead) arguments twins) :
    c.rel (callValue sheet part read function arguments)
      (callValue other otherPart otherRead function twins) := by
  have collected (aggregates : function.Aggregates) := c.collect_of_alike (alike aggregates)
  cases function with
  | sum =>
    refine c.bind (collected (.inl rfl)) fun values => ?_
    exact c.orThrow (failsOwn_sum values)
  | max => exact c.bind (collected (.inr (.inl rfl))) fun values => c.pure _
  | min => exact c.bind (collected (.inr (.inr rfl))) fun values => c.pure _
  | choose =>
    match values with
    | .cons condition (.cons chosen .nil) =>
      refine c.bind condition fun test => ?_
      split
      · exact c.pure 0
      · exact chosen
    | .cons condition (.cons chosen (.cons otherwise .nil)) =>
      refine c.bind condition fun test => ?_
      split
      · exact otherwise
      · exact chosen
    | .nil | .cons _ .nil => exact c.throw trivial
    | .cons _ (.cons _ (.cons _ (.cons _ more))) =>
      simp only [Formula.callValue, List.length_cons, more.length_eq]
      exact c.throw trivial
  | abs =>
    match values with
    | .cons argument .nil => exact c.bind argument fun value => c.pure _
    | .nil => exact c.throw trivial
    | .cons _ (.cons _ more) =>
      simp only [Formula.callValue, List.length_cons, more.length_eq]
      exact c.throw trivial
  | round =>
    match values with
    | .cons argument (.cons places .nil) =>
      refine c.bind argument fun value => ?_
      refine c.bind places fun digits => ?_
      exact c.orThrow (failsOwn_roundTo value digits)
    | .nil | .cons _ .nil => exact c.throw trivial
    | .cons _ (.cons _ (.cons _ more)) =>
      simp only [Formula.callValue, List.length_cons, more.length_eq]
      exact c.throw trivial

/-- Where the parts of an expression correspond, the cells that it refers to do, and the same of them
count on two worksheets, the expression does. -/
theorem step_of_counts (e : Expr)
    (counted : ∀ address, e.RefersTo address → counts sheet address = counts other address)
    (reads : ∀ address, e.RefersTo address → c.rel (read address) (otherRead address))
    (related : ∀ p ∈ e.parts, c.rel (part p) (otherPart p)) :
    c.rel (e.step sheet part read) (e.step other otherPart otherRead) := by
  cases e with
  | number value => exact c.pure value
  | reference address => exact reads address .reference
  | range corners => exact c.throw trivial
  | unary operator operand =>
    exact c.bind (related operand (by simp [Expr.parts])) fun value => c.pure _
  | binary operator left right =>
    refine c.bind (related left (by simp [Expr.parts])) fun x => ?_
    refine c.bind (related right (by simp [Expr.parts])) fun y => ?_
    exact c.orThrow (failsOwn_apply operator x y)
  | call name arguments =>
    unfold Expr.step
    dsimp only
    split
    · exact c.throw trivial
    · next function called =>
      refine c.callValue function (List.forall₂_same.mpr related) fun aggregates =>
        List.forall₂_same.mpr fun e inside => ?_
      rcases range_or_single e with ⟨corners, rfl⟩ | single
      · have refers {addresses : List Address} (spanned : corners.addresses = .ok addresses)
            {address : Address} (among : address ∈ addresses) :
            (Expr.call name arguments).RefersTo address :=
          .member called aggregates inside spanned among
        refine .range (members_congr fun addresses spanned address among =>
          counted address (refers spanned among)) fun listed ok address among => ?_
        obtain ⟨addresses, spanned, all⟩ := exists_addresses_of_members ok
        exact reads address (refers spanned (all address among))
      · exact .single single single (related e inside)

variable (sheet) in
/-- Where the parts of an expression correspond and the cells that it refers to do, the expression
does. -/
theorem step (e : Expr)
    (reads : ∀ address, e.RefersTo address → c.rel (read address) (otherRead address))
    (related : ∀ p ∈ e.parts, c.rel (part p) (otherPart p)) :
    c.rel (e.step sheet part read) (e.step sheet otherPart otherRead) :=
  c.step_of_counts e (fun _ _ => rfl) reads related

variable {readText otherText : String → Except Failure Expr} {address : Address}

omit [LawfulMonad m] [LawfulMonad n] in
theorem formula (text : String) {result other : Except Failure Expr}
    (read : c.rel (Formula.orThrow result) (Formula.orThrow other))
    (related : ∀ tree, c.rel (part tree) (otherPart tree)) :
    c.rel (do
        let tree ← Formula.orThrow result
        let value ← part tree
        Formula.orThrow (requireFinite text value))
      (do
        let tree ← Formula.orThrow other
        let value ← otherPart tree
        Formula.orThrow (requireFinite text value)) := by
  refine c.bind read fun tree => ?_
  refine c.bind (related tree) fun value => ?_
  exact c.orThrow (failsOwn_requireFinite text value)

/-- Where the expression that was read is evaluated in correspondence, a formula has corresponding
values. -/
theorem formula_of_read (text : String) {result : Except Failure Expr}
    (fails : ∀ failure, result = .error failure → ∀ (f : Expr → m Binary64) (g : Expr → n Binary64),
      c.rel (MonadExcept.throw failure >>= f) (MonadExcept.throw failure >>= g))
    (related : ∀ tree, result = .ok tree → c.rel (part tree) (otherPart tree)) :
    c.rel (do
        let tree ← Formula.orThrow result
        let value ← part tree
        Formula.orThrow (requireFinite text value))
      (do
        let tree ← Formula.orThrow result
        let value ← otherPart tree
        Formula.orThrow (requireFinite text value)) := by
  cases result with
  | error failure => exact fails failure rfl _ _
  | ok tree =>
    simp only [Formula.orThrow, pure_bind]
    refine c.bind (related tree rfl) fun value => ?_
    exact c.orThrow (failsOwn_requireFinite text value)

variable (sheet) in
omit [LawfulMonad m] [LawfulMonad n] in
theorem cellValue
    (texts : ∀ text, c.rel (Formula.orThrow (readText text)) (Formula.orThrow (otherText text)))
    (related : ∀ tree, c.rel (part tree) (otherPart tree)) (address : Address) :
    c.rel (cellValue sheet readText part address)
      (cellValue sheet otherText otherPart address) := by
  unfold Formula.cellValue
  split
  · next text cached holds => exact c.formula text (texts text) related
  · exact c.pure _

theorem cellValue_of_read
    (fails : ∀ text cached failure, sheet.cell? address = some (.formula text cached) →
      readText text = .error failure → ∀ (f : Expr → m Binary64) (g : Expr → n Binary64),
      c.rel (MonadExcept.throw failure >>= f) (MonadExcept.throw failure >>= g))
    (related : ∀ text cached tree, sheet.cell? address = some (.formula text cached) →
      readText text = .ok tree → c.rel (part tree) (otherPart tree)) :
    c.rel (Formula.cellValue sheet readText part address)
      (Formula.cellValue sheet readText otherPart address) := by
  unfold Formula.cellValue
  split
  · next text cached holds =>
    exact c.formula_of_read text (fun failure => fails text cached failure holds)
      fun tree => related text cached tree holds
  · exact c.pure _

end
end Correspondence
end

end SheetPricing.Formula
