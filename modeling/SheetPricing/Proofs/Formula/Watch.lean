import SheetPricing.Proofs.Formula.Cycles

/-! Evaluation under watch: the engine with notes about what it does, which change neither outcome nor
trace. As long as nothing fails, all that was asked for is known afterwards, and so are the members
that count of every range that was expanded. -/
namespace SheetPricing.Formula

/-- What is noted while a formula is evaluated: the cells whose contents were taken up, each cell
that was asked for with the path on which it was, and the expressions that were evaluated. -/
structure Watch where
  trace : Trace
  opened : List Address
  asked : List (List Address × Address)
  met : List Expr

abbrev WatchM := Action Failure Watch

namespace Watch

def empty : Watch := ⟨.empty, [], [], []⟩

def meet (e : Expr) (watch : Watch) : Watch := { watch with met := watch.met ++ [e] }

def ask (path : List Address) (address : Address) (watch : Watch) : Watch :=
  { watch with asked := watch.asked ++ [(path, address)] }

def take (address : Address) (watch : Watch) : Watch :=
  { watch with opened := watch.opened ++ [address] }

def keep (address : Address) (value : Binary64) (watch : Watch) : Watch :=
  { watch with trace := watch.trace.put address value }

section
variable {watch : Watch} {path other : List Address} {address cell : Address}

theorem mem_met_meet {e part : Expr} : part ∈ (watch.meet e).met ↔ part ∈ watch.met ∨ part = e := by
  simp [meet]

theorem mem_asked_ask : (other, cell) ∈ (watch.ask path address).asked ↔
    (other, cell) ∈ watch.asked ∨ other = path ∧ cell = address := by
  simp [ask]

theorem mem_opened_take :
    cell ∈ (watch.take address).opened ↔ cell ∈ watch.opened ∨ cell = address := by
  simp [take]

theorem mem_keys_keep {value : Binary64} : cell ∈ (watch.keep address value).trace.keys ↔
    cell ∈ watch.trace.keys ∨ cell = address :=
  Table.mem_keys_put

theorem keys_keep (new : address ∉ watch.trace.keys) (value : Binary64) :
    (watch.keep address value).trace.keys = watch.trace.keys ++ [address] := by
  rw [keep, Table.keys_put, if_neg new]

end
end Watch

/-- The value of a cell, with notes that it was asked for and that its content was taken up. -/
def watchResolve (sheet : Worksheet) (read : String → Except Failure Expr)
    (evaluateOn : List Address → Expr → WatchM Binary64)
    (path : List Address) (address : Address) : WatchM Binary64 := do
  modify (·.ask path address)
  match (← get).trace.get? address with
  | some value => return value
  | none =>
    if address ∈ path then throw (.circular address)
    modify (·.take address)
    let value ← cellValue sheet read (evaluateOn (address :: path)) address
    modify (·.keep address value)
    return value

/-- The value of an expression, with a note that it was evaluated. -/
def watchEvaluate (sheet : Worksheet) (limit : Nat) :
    (depth : Nat) → List Address → Expr → WatchM Binary64
  | 0, _, _ => throw .nestedTooDeep
  | depth + 1, path, e => do
    modify (·.meet e)
    e.step sheet (watchEvaluate sheet limit depth path)
      (watchResolve sheet (readWithin limit) (watchEvaluate sheet limit depth) path)

def watchFormula (sheet : Worksheet) (limit : Nat) (formula : String) : WatchM Binary64 := do
  let tree ← orThrow (readWithin limit formula)
  let value ← watchEvaluate sheet limit limit [] tree
  orThrow (requireFinite formula value)

section
variable {sheet : Worksheet} {limit : Nat}

theorem on_watchResolve (read : String → Except Failure Expr)
    (evaluateOn : List Address → Expr → WatchM Binary64) (path : List Address) (address : Address)
    (watch : Watch) : (watchResolve sheet read evaluateOn path address).on watch =
      match watch.trace.get? address with
      | some value => (.ok value, watch.ask path address)
      | none =>
        if address ∈ path then (.error (.circular address), watch.ask path address)
        else match (cellValue sheet read (evaluateOn (address :: path)) address).on
            ((watch.ask path address).take address) with
          | (.ok value, after) => (.ok value, after.keep address value)
          | (.error failure, after) => (.error failure, after) := by
  simp only [watchResolve, Action.on_bind, Action.on_modify, Action.on_get]
  change (match watch.trace.get? address with | some value => _ | none => _ : WatchM Binary64).on _ = _
  cases watch.trace.get? address with
  | some value => rfl
  | none =>
    by_cases inside : address ∈ path
    · simp only [if_pos inside]
      rfl
    · simp only [if_neg inside, Action.on_bind, Action.on_modify]
      rcases Action.on _ _ with ⟨_ | value, after⟩ <;> rfl

/-- The same outcome and the same trace, as a relation that steps keep. -/
private def sameTrace : Correspondence WatchM EvalM where
  rel action plain := ∀ watch, plain.on watch.trace
    = ((action.on watch).1, (action.on watch).2.trace)
  pure _ _ := rfl
  throw _ _ := rfl
  abort _ _ _ _ := rfl
  bind first next watch := by
    rw [Action.on_bind, Action.on_bind, first watch]
    rcases Action.on _ watch with ⟨_ | value, middle⟩
    · rfl
    · exact next value middle

private theorem sameTrace_read (limit : Nat) (text : String) :
    sameTrace.rel (orThrow (readWithin limit text)) (orThrow (readWithin limit text)) := by
  intro watch
  cases readWithin limit text <;> rfl

private theorem sameTrace_resolve {watched : List Address → Expr → WatchM Binary64}
    {plain : List Address → Expr → EvalM Binary64}
    (same : ∀ path tree, sameTrace.rel (watched path tree) (plain path tree))
    (path : List Address) (address : Address) :
    sameTrace.rel (watchResolve sheet (readWithin limit) watched path address)
      (resolve sheet (readWithin limit) plain path address) := by
  intro watch
  rw [on_watchResolve, on_resolve]
  cases watch.trace.get? address with
  | some value => rfl
  | none =>
    by_cases inside : address ∈ path
    · simp only [if_pos inside]
      rfl
    · have cell := sameTrace.cellValue sheet (sameTrace_read limit) (same (address :: path)) address
        ((watch.ask path address).take address)
      change Action.on _ watch.trace = _ at cell
      simp only [if_neg inside, cell]
      rcases Action.on _ ((watch.ask path address).take address) with ⟨_ | value, after⟩ <;> rfl

private theorem sameTrace_evaluate (depth : Nat) (path : List Address) (e : Expr) :
    sameTrace.rel (watchEvaluate sheet limit depth path e) (evaluate sheet limit depth path e) := by
  induction depth generalizing path e with
  | zero => exact fun _ => rfl
  | succ depth ih =>
    intro watch
    exact sameTrace.step sheet e (fun address _ => sameTrace_resolve ih path address)
      (fun part _ => ih path part) (watch.meet e)

theorem on_evaluateFormula_eq_watch (sheet : Worksheet) (limit : Nat) (formula : String)
    (watch : Watch) : (evaluateFormula sheet limit formula).on watch.trace
      = (((watchFormula sheet limit formula).on watch).1,
          ((watchFormula sheet limit formula).on watch).2.trace) :=
  sameTrace.formula formula (sameTrace_read limit formula) (sameTrace_evaluate limit []) watch

end

/-- The cells that count in the ranges of an aggregate. -/
inductive Expr.Expands (sheet : Worksheet) : Expr → Address → Prop
  | member {name function arguments corners listed address}
      (called : Function.named? name = some function) (aggregates : function.Aggregates)
      (argument : .range corners ∈ arguments) (counted : members sheet corners = .ok listed)
      (inside : address ∈ listed) : Expands sheet (.call name arguments) address

/-- What a success leaves: values stay known, and what was asked for or expanded since is known. -/
structure Watch.Fills (sheet : Worksheet) (before after : Watch) : Prop where
  keys : ∀ address ∈ before.trace.keys, address ∈ after.trace.keys
  asked : ∀ path address, (path, address) ∈ after.asked →
    (path, address) ∈ before.asked ∨ address ∈ after.trace.keys
  met : ∀ e ∈ after.met, e ∈ before.met ∨ ∀ address, e.Expands sheet address →
    address ∈ after.trace.keys

section
variable {sheet : Worksheet} {limit : Nat} {before middle after : Watch}

theorem Watch.Fills.refl (watch : Watch) : watch.Fills sheet watch where
  keys _ inside := inside
  asked _ _ inside := .inl inside
  met _ inside := .inl inside

theorem Watch.Fills.trans (first : before.Fills sheet middle) (second : middle.Fills sheet after) :
    before.Fills sheet after where
  keys address inside := second.keys address (first.keys address inside)
  asked path address inside := by
    rcases second.asked path address inside with earlier | known
    · exact (first.asked path address earlier).imp_right (second.keys address)
    · exact .inr known
  met e inside := by
    rcases second.met e inside with earlier | known
    · exact (first.met e earlier).imp_right fun known address expands =>
        second.keys address (known address expands)
    · exact .inr known

/-- What every success of an action leaves. -/
def filling (sheet : Worksheet) : Correspondence WatchM WatchM where
  rel action _ := ∀ before value after, action.on before = (.ok value, after) →
    before.Fills sheet after
  pure value before result after ok := by
    cases ok
    exact .refl before
  throw own before value after ok := nomatch ok
  abort own f g before value after ok := nomatch ok
  bind first next before value after ok := by
    obtain ⟨given, middle, here, ok⟩ := Action.exists_of_on_bind_eq ok
    exact (first before given middle here).trans (next given middle value after ok)

variable {part : Expr → WatchM Binary64} {read : Address → WatchM Binary64}
  (parts : ∀ e, (filling sheet).rel (part e) (part e))
  (reads : ∀ address, (filling sheet).rel (read address) (read address))
  (known : ∀ address before value after, (read address).on before = (.ok value, after) →
    address ∈ after.trace.keys)
include reads known

theorem mem_keys_of_mapM {addresses : List Address} {values : List Binary64}
    (ok : (addresses.mapM read).on before = (.ok values, after)) :
    ∀ address ∈ addresses, address ∈ after.trace.keys := by
  induction addresses generalizing before values with
  | nil => simp
  | cons first rest ih =>
    rw [List.mapM_cons] at ok
    obtain ⟨value, middle, here, ok⟩ := Action.exists_of_on_bind_eq ok
    obtain ⟨others, last, there, ok⟩ := Action.exists_of_on_bind_eq ok
    cases ok
    intro address inside
    rcases List.mem_cons.mp inside with rfl | inside
    · have later := (filling sheet).mapM (fun address _ => reads address) middle others after there
      exact later.keys address (known address before value middle here)
    · exact ih there address inside

include parts

theorem mem_keys_of_collect {arguments : List Expr} {values : List Binary64}
    (ok : (collect sheet part read arguments).on before = (.ok values, after))
    {corners : Range} (argument : .range corners ∈ arguments) {listed : List Address}
    (counted : members sheet corners = .ok listed) :
    ∀ address ∈ listed, address ∈ after.trace.keys := by
  induction arguments generalizing before values with
  | nil => cases argument
  | cons first rest ih =>
    have later {middle : Watch} {others : List Binary64}
        (there : (collect sheet part read rest).on middle = (.ok others, after)) :
        middle.Fills sheet after :=
      (filling sheet).collect sheet rest (fun _ _ _ _ address _ => reads address)
        (fun e _ => parts e) middle others after there
    rcases List.mem_cons.mp argument with rfl | behind
    · rw [collect, counted, orThrow, pure_bind] at ok
      obtain ⟨found, middle, here, ok⟩ := Action.exists_of_on_bind_eq ok
      obtain ⟨others, last, there, ok⟩ := Action.exists_of_on_bind_eq ok
      cases ok
      intro address inside
      exact (later there).keys address (mem_keys_of_mapM reads known here address inside)
    · cases first with
      | range other =>
        rw [collect] at ok
        obtain ⟨addresses, middle, _, ok⟩ := Action.exists_of_on_bind_eq ok
        obtain ⟨found, middle, _, ok⟩ := Action.exists_of_on_bind_eq ok
        obtain ⟨others, last, there, ok⟩ := Action.exists_of_on_bind_eq ok
        cases ok
        exact ih there behind
      | _ =>
        obtain ⟨value, middle, _, ok⟩ := Action.exists_of_on_bind_eq ok
        obtain ⟨others, last, there, ok⟩ := Action.exists_of_on_bind_eq ok
        cases ok
        exact ih there behind

theorem mem_keys_of_step {e : Expr} {value : Binary64}
    (ok : (e.step sheet part read).on before = (.ok value, after)) :
    ∀ address, e.Expands sheet address → address ∈ after.trace.keys := by
  intro address expands
  obtain @⟨name, function, arguments, _, _, _, called, aggregates, argument, counted, inside⟩ :=
    expands
  simp only [Expr.step, called] at ok
  have gathered : ∃ values middle,
      (collect sheet part read arguments).on before = (.ok values, middle) ∧
        middle.Fills sheet after := by
    rcases aggregates with rfl | rfl | rfl
    · obtain ⟨values, middle, here, ok⟩ := Action.exists_of_on_bind_eq ok
      exact ⟨values, middle, here, (filling sheet).orThrow (failsOwn_sum values) _ _ _ ok⟩
    · obtain ⟨values, middle, here, ok⟩ := Action.exists_of_on_bind_eq ok
      exact ⟨values, middle, here, (filling sheet).pure _ _ _ _ ok⟩
    · obtain ⟨values, middle, here, ok⟩ := Action.exists_of_on_bind_eq ok
      exact ⟨values, middle, here, (filling sheet).pure _ _ _ _ ok⟩
  obtain ⟨values, middle, here, later⟩ := gathered
  exact later.keys address (mem_keys_of_collect parts reads known here argument counted address inside)

end

section
variable {sheet : Worksheet} {limit : Nat} {read : String → Except Failure Expr}
  {evaluateOn : List Address → Expr → WatchM Binary64} {path : List Address} {address : Address}

/-- A cell whose value is asked for with success: it was known, or its content was worked out. -/
theorem watchResolve_cases {before after : Watch} {value : Binary64}
    (ok : (watchResolve sheet read evaluateOn path address).on before = (.ok value, after)) :
    (address ∈ before.trace.keys ∧ after = before.ask path address) ∨
    (address ∉ before.trace.keys ∧ address ∉ path ∧ ∃ middle,
      (cellValue sheet read (evaluateOn (address :: path)) address).on
        ((before.ask path address).take address) = (.ok value, middle) ∧
      after = middle.keep address value) := by
  rw [on_watchResolve] at ok
  cases found : before.trace.get? address with
  | some known =>
    rw [found] at ok
    cases ok
    exact .inl ⟨Table.mem_keys_of_get? found, rfl⟩
  | none =>
    rw [found] at ok
    dsimp only at ok
    split at ok
    · cases ok
    · next free =>
      refine .inr ⟨Table.get?_eq_none_iff.mp found, free, ?_⟩
      rcases outcome : Action.on _ ((before.ask path address).take address)
        with ⟨_ | value, middle⟩
      · rw [outcome] at ok
        cases ok
      · rw [outcome] at ok
        cases ok
        exact ⟨middle, rfl, rfl⟩

theorem mem_keys_of_watchResolve (address : Address) (before : Watch) (value : Binary64)
    (after : Watch)
    (ok : (watchResolve sheet read evaluateOn path address).on before = (.ok value, after)) :
    address ∈ after.trace.keys := by
  rcases watchResolve_cases ok with ⟨known, rfl⟩ | ⟨_, _, middle, _, rfl⟩
  · exact known
  · exact Watch.mem_keys_keep.mpr (.inr rfl)

theorem filling_read (limit : Nat) (text : String) :
    (filling sheet).rel (orThrow (readWithin limit text)) (orThrow (readWithin limit text)) := by
  cases readWithin limit text with
  | error failure => exact fun _ _ _ ok => nomatch ok
  | ok tree => exact (filling sheet).pure tree

theorem filling_resolve
    (evaluated : ∀ longer tree, (filling sheet).rel (evaluateOn longer tree) (evaluateOn longer tree))
    (address : Address) :
    (filling sheet).rel (watchResolve sheet (readWithin limit) evaluateOn path address)
      (watchResolve sheet (readWithin limit) evaluateOn path address) := by
  intro before value after ok
  rcases watchResolve_cases ok with ⟨known, rfl⟩ | ⟨_, _, middle, worked, rfl⟩
  · refine ⟨fun _ inside => inside, fun longer other inside => ?_, fun e inside => .inl inside⟩
    rcases Watch.mem_asked_ask.mp inside with earlier | ⟨rfl, rfl⟩
    · exact .inl earlier
    · exact .inr known
  · have fills := (filling sheet).cellValue sheet (filling_read limit) (evaluated (address :: path))
      address _ value middle worked
    have kept (other : Address) (inside : other ∈ middle.trace.keys) :
        other ∈ (middle.keep address value).trace.keys := Watch.mem_keys_keep.mpr (.inl inside)
    refine ⟨fun other inside => kept other (fills.keys other inside), fun longer other inside => ?_,
      fun e inside => ?_⟩
    · rcases fills.asked longer other inside with asked | known
      · rcases Watch.mem_asked_ask.mp asked with earlier | ⟨rfl, rfl⟩
        · exact .inl earlier
        · exact .inr (Watch.mem_keys_keep.mpr (.inr rfl))
      · exact .inr (kept other known)
    · exact (fills.met e inside).imp_right fun known other expands =>
        kept other (known other expands)

theorem filling_evaluate (depth : Nat) (path : List Address) (e : Expr) :
    (filling sheet).rel (watchEvaluate sheet limit depth path e)
      (watchEvaluate sheet limit depth path e) := by
  induction depth generalizing path e with
  | zero => exact fun _ _ _ ok => nomatch ok
  | succ depth ih =>
    intro before value after ok
    have stepped := (filling sheet).step sheet e (fun address _ => filling_resolve ih address)
      (fun part _ => ih path part) (before.meet e) value after ok
    refine ⟨stepped.keys, stepped.asked, fun other inside => ?_⟩
    rcases stepped.met other inside with met | known
    · rcases Watch.mem_met_meet.mp met with earlier | rfl
      · exact .inl earlier
      · exact .inr (mem_keys_of_step (ih path) (fun address => filling_resolve ih address)
          mem_keys_of_watchResolve ok)
    · exact .inr known

theorem filling_formula (sheet : Worksheet) (limit : Nat) (formula : String) :
    (filling sheet).rel (watchFormula sheet limit formula) (watchFormula sheet limit formula) :=
  (filling sheet).formula formula (filling_read limit formula) (filling_evaluate limit [])

end
end SheetPricing.Formula
