import SheetPricing.Proofs.Formula.Pinning
import SheetPricing.Proofs.Formula.Trace

/-! Evaluation with more known. A trace in which each value follows from the others by the contents of
the cells has all that an evaluation of its cells would find. So whatever is evaluated with success from
a trace is evaluated with the same success from each such trace that holds more, at the same depth. -/
namespace SheetPricing.Formula

section
variable {sheet : Worksheet} {known trace more before after : Trace}

theorem recalled_within (within : Within known more) (e : Expr) :
    implying.rel (recalled sheet known e) (recalled sheet more e) := by
  induction size : e.size using Nat.strongRecOn generalizing e with
  | ind n ih =>
    subst size
    rw [recalled_eq, recalled_eq]
    refine implying.step sheet e (fun address _ value held => ?_) fun part inside =>
      ih _ (Expr.size_lt_of_mem_parts inside) part rfl
    rw [remembered_eq_ok_iff] at held ⊢
    exact within address value held

theorem Founded.mono (founded : Founded sheet known trace) (within : Within known more) :
    Founded sheet more trace := by
  intro address value held
  refine implying.cellValue sheet (fun text => ?_) (recalled_within within) address value
    (founded address value held)
  exact implying.orThrow (failsOwn_readWhole text)

/-- That evaluation from memory, where it succeeds, has the value that evaluation has, and that this
finds nothing which the memory does not hold. -/
def staying (known : Trace) : Correspondence EvalM (Except Failure) where
  rel action result := ∀ before value after found, Within before known →
    action.on before = (.ok value, after) → result = .ok found → value = found ∧ Within after known
  pure value before given after found within ok same := by
    cases ok
    exact ⟨Except.ok.inj same, within⟩
  throw _ _ _ _ _ _ ok := nomatch ok
  abort _ _ _ _ _ _ _ _ ok := nomatch ok
  bind first next before value after found within ok same := by
    obtain ⟨given, middle, here, ok⟩ := Action.exists_of_on_bind_eq ok
    obtain ⟨recalled, there, same⟩ := ok_of_bind same
    obtain ⟨rfl, within⟩ := first before given middle recalled within here there
    exact next given middle value after found within ok same

theorem staying_read {limit : Nat} (text : String) :
    (staying known).rel (orThrow (readWithin limit text)) (orThrow (readWhole text)) := by
  rcases read : readWithin limit text with failure | tree
  · exact fun _ _ _ _ _ ok => nomatch ok
  · rw [readWhole_of_readWithin read]
    exact (staying known).pure tree

theorem staying_evaluate (founded : Founded sheet known known) (limit depth : Nat)
    (path : List Address) (e : Expr) :
    (staying known).rel (evaluate sheet limit depth path e) (recalled sheet known e) := by
  induction depth generalizing path e with
  | zero => exact fun _ _ _ _ _ ok => nomatch ok
  | succ depth ih =>
    rw [recalled_eq]
    refine (staying known).step sheet e (fun address _ => ?_) fun part _ => ih path part
    intro before value after found within ok held
    rw [remembered_eq_ok_iff] at held
    rcases resolve_cases ok with ⟨kept, rfl⟩ | ⟨_, _, middle, worked, rfl⟩
    · exact ⟨Option.some.inj ((within address value kept).symm.trans held), within⟩
    · obtain ⟨rfl, within⟩ := (staying known).cellValue sheet staying_read (ih (address :: path)) address
        before value middle found within worked (founded address found held)
      exact ⟨rfl, within.put held⟩

/-- What an action leaves of a trace that was ahead of another. -/
structure Leads (sheet : Worksheet) (path : List Address) (after more much : Trace) : Prop where
  ahead : Within after much
  founded : Founded sheet much much
  apart : Apart path much
  grows : Within more much

/-- That what succeeds from one trace succeeds from each founded one that is ahead of it. -/
def leading (sheet : Worksheet) (path : List Address) : Correspondence EvalM EvalM where
  rel action other := ∀ before more value after, Within before more → Founded sheet more more →
    Apart path more → action.on before = (.ok value, after) →
    ∃ much, other.on more = (.ok value, much) ∧ Leads sheet path after more much
  pure value before more given after within founded apart ok := by
    cases ok
    exact ⟨more, rfl, within, founded, apart, .refl more⟩
  throw _ _ _ _ _ _ _ _ ok := nomatch ok
  abort _ _ _ _ _ _ _ _ _ _ ok := nomatch ok
  bind first next before more value after within founded apart ok := by
    obtain ⟨given, middle, here, ok⟩ := Action.exists_of_on_bind_eq ok
    obtain ⟨much, there, early⟩ := first before more given middle within founded apart here
    obtain ⟨last, again, late⟩ := next given middle much value after early.ahead early.founded
      early.apart ok
    refine ⟨last, ?_, late.ahead, late.founded, late.apart, early.grows.trans late.grows⟩
    rw [Action.on_bind, there]
    exact again

variable {path : List Address} {limit depth : Nat}

theorem leading_orThrow {α : Type} (result : Except Failure α) :
    (leading sheet path).rel (orThrow result) (orThrow result) := by
  cases result with
  | error failure => exact fun _ _ _ _ _ _ _ ok => nomatch ok
  | ok value => exact (leading sheet path).pure value

theorem leading_resolve
    (evaluated : ∀ path e, (leading sheet path).rel (evaluate sheet limit depth path e)
      (evaluate sheet limit depth path e)) (address : Address) :
    (leading sheet path).rel (resolve sheet (readWithin limit) (evaluate sheet limit depth) path address)
      (resolve sheet (readWithin limit) (evaluate sheet limit depth) path address) := by
  intro before more value after within founded apart ok
  rcases resolve_cases ok with ⟨held, rfl⟩ | ⟨_, free, middle, worked, rfl⟩
  · exact ⟨more, on_resolve_of_known (within address value held), within, founded, apart, .refl more⟩
  cases held : more.get? address with
  | some found =>
    -- The cell is known in front, so its content finds nothing there that is not known.
    obtain ⟨rfl, kept⟩ := (staying more).cellValue sheet staying_read
      (staying_evaluate founded limit depth (address :: path)) address before value middle found within
      worked (founded address found held)
    exact ⟨more, on_resolve_of_known held, kept.put held, founded, apart, .refl more⟩
  | none =>
    have longer := apart.cons held
    obtain ⟨much, again, leads⟩ := (leading sheet (address :: path)).cellValue sheet
      (fun text => leading_orThrow (readWithin limit text)) (evaluated (address :: path)) address before
      more value middle within founded longer worked
    have new : Within much (much.put address value) :=
      within_put (leads.apart address List.mem_cons_self)
    have own : (much.put address value).get? address = some value := by simp [Table.get?_put]
    have content := ((recalling sheet (much.put address value) (address :: path)).cellValue sheet
      recalling_read (recalling_evaluate depth (address :: path)) address more value much longer
      again).same new
    have off : Apart path much := fun other inside =>
      leads.apart other (List.mem_cons_of_mem _ inside)
    refine ⟨much.put address value, ?_, (leads.ahead.trans new).put own, fun other found there => ?_,
      off.put free value, leads.grows.trans new⟩
    · rw [on_resolve, held]
      simp only [if_neg free, again]
    · rw [Table.get?_put] at there
      split at there
      · next same =>
        cases there
        exact same ▸ content
      · exact leads.founded.mono new other found there

theorem leading_evaluate (limit depth : Nat) (path : List Address) (e : Expr) :
    (leading sheet path).rel (evaluate sheet limit depth path e) (evaluate sheet limit depth path e) := by
  induction depth generalizing path e with
  | zero => exact fun _ _ _ _ _ _ _ ok => nomatch ok
  | succ depth ih =>
    exact (leading sheet path).step sheet e (fun address _ => leading_resolve ih address)
      fun part _ => ih path part

theorem leading_collectOn (limit depth : Nat) (path : List Address) (arguments : List Expr) :
    (leading sheet path).rel (collectOn sheet limit depth path arguments)
      (collectOn sheet limit depth path arguments) :=
  (leading sheet path).collect sheet arguments
    (fun _ _ _ _ address _ => leading_resolve (leading_evaluate limit depth) address)
    fun e _ => leading_evaluate limit depth path e

/-- Arguments that each give values by themselves give all of them together, one after another. -/
theorem collectOn_of_each {arguments : List Expr} {gives : Expr → List Binary64}
    (each : ∀ e ∈ arguments, ((collectOn sheet limit depth path [e]).on trace).1 = .ok (gives e))
    (within : Within trace more) (founded : Founded sheet more more) (apart : Apart path more) :
    ((collectOn sheet limit depth path arguments).on more).1 = .ok (arguments.flatMap gives) := by
  induction arguments generalizing more with
  | nil => rfl
  | cons e rest ih =>
    have alone : (collectOn sheet limit depth path [e]).on trace = (.ok (gives e), _) :=
      Prod.ext (each e List.mem_cons_self) rfl
    obtain ⟨much, first, leads⟩ := leading_collectOn limit depth path [e] trace more (gives e) _ within
      founded apart alone
    have others := ih (fun e inside => each e (List.mem_cons_of_mem _ inside))
      (within.trans leads.grows) leads.founded leads.apart
    have split : collectOn sheet limit depth path (e :: rest) = do
        let values ← collectOn sheet limit depth path [e]
        let others ← collectOn sheet limit depth path rest
        return values ++ others := collect_append [e] rest
    rw [split, Action.on_bind, first]
    dsimp only
    rw [Action.on_bind]
    rcases rows : Action.on _ much with ⟨failure | values, last⟩
    · rw [rows] at others
      cases others
    · rw [rows] at others
      obtain rfl := Except.ok.inj others
      rfl

end
end SheetPricing.Formula
