import SheetPricing.Proofs.Formula.Cycles

/-! Evaluation from memory alone. Each cell has the value that a trace holds for it, and a cell that
the trace does not hold stops the evaluation. What an engine found with success it finds again from
the trace that it left: the value of the formula, and of each cell in the trace from the content of
the cell. -/
namespace SheetPricing.Formula

def remembered (known : Trace) (address : Address) : Except Failure Binary64 :=
  match known.get? address with
  | some value => .ok value
  | none => .error (.circular address)

/-- The value of an expression from the known values of cells. The tests whether a part is smaller
always hold. -/
def recalled (sheet : Worksheet) (known : Trace) (e : Expr) : Except Failure Binary64 :=
  e.step sheet
    (fun part => if part.size < e.size then recalled sheet known part else .error .nestedTooDeep)
    (remembered known)
termination_by e.size

/-- The finite value of a formula from the known values of cells. -/
def recalledFormula (sheet : Worksheet) (known : Trace) (formula : String) :
    Except Failure Binary64 := do
  let tree ← readWhole formula
  let value ← recalled sheet known tree
  requireFinite formula value

/-- That a trace holds all that another holds. -/
def Within (few many : Trace) : Prop :=
  ∀ address value, few.get? address = some value → many.get? address = some value

/-- That each cell of a trace has its value there by its content and the known values of cells. -/
def Founded (sheet : Worksheet) (known trace : Trace) : Prop :=
  ∀ address value, trace.get? address = some value →
    cellValue sheet readWhole (recalled sheet known) address = .ok value

section
variable {sheet : Worksheet} {known trace before middle after : Trace} {address : Address}
  {value : Binary64}

theorem remembered_eq_ok_iff : remembered known address = .ok value ↔ known.get? address = some value := by
  unfold remembered
  cases known.get? address <;> simp

theorem recalled_eq (sheet : Worksheet) (known : Trace) (e : Expr) :
    recalled sheet known e = e.step sheet (recalled sheet known) (remembered known) := by
  rw [recalled]
  exact (Correspondence.equality fun _ _ _ => rfl).step sheet e (fun _ _ => rfl) fun part inside =>
    if_pos (Expr.size_lt_of_mem_parts inside)

theorem Within.refl (trace : Trace) : Within trace trace := fun _ _ held => held

theorem Within.trans (first : Within before middle) (second : Within middle after) :
    Within before after := fun address value held => second address value (first address value held)

theorem within_empty (trace : Trace) : Within .empty trace := fun _ _ held => nomatch held

theorem within_put (absent : trace.get? address = none) : Within trace (trace.put address value) := by
  intro other held found
  rw [Table.get?_put, if_neg]
  · exact found
  · rintro rfl
    cases absent.symm.trans found

theorem Within.put (within : Within trace known) (held : known.get? address = some value) :
    Within (trace.put address value) known := by
  intro other found
  rw [Table.get?_put]
  split
  · next same =>
    rintro ⟨⟩
    exact same ▸ held
  · exact within other found

end

/-- What an action on a path leaves where it succeeds, and what there is to recall of it as soon as all
that it leaves is known. -/
structure Recalls (sheet : Worksheet) (known : Trace) (path : List Address) (before after : Trace)
    {α : Type} (result : Except Failure α) (value : α) : Prop where
  apart : Apart path after
  grows : Within before after
  founded : Within after known → Founded sheet known before → Founded sheet known after
  same : Within after known → result = .ok value

/-- Evaluation with success against evaluation from what is known in the end. -/
def recalling (sheet : Worksheet) (known : Trace) (path : List Address) :
    Correspondence EvalM (Except Failure) where
  rel action result := ∀ before value after, Apart path before →
    action.on before = (.ok value, after) → Recalls sheet known path before after result value
  pure value before result after apart ok := by
    cases ok
    exact ⟨apart, .refl before, fun _ founded => founded, fun _ => rfl⟩
  throw _ _ _ _ _ ok := nomatch ok
  abort _ _ _ _ _ _ _ ok := nomatch ok
  bind first next before value after apart ok := by
    obtain ⟨given, middle, here, ok⟩ := Action.exists_of_on_bind_eq ok
    have early := first before given middle apart here
    have late := next given middle value after early.apart ok
    refine ⟨late.apart, early.grows.trans late.grows, fun within founded => ?_, fun within => ?_⟩
    · exact late.founded within (early.founded (late.grows.trans within) founded)
    · rw [early.same (late.grows.trans within), ok_bind]
      exact late.same within

section
variable {sheet : Worksheet} {known : Trace} {path : List Address} {limit : Nat}

theorem recalling_read (text : String) :
    (recalling sheet known path).rel (orThrow (readWithin limit text)) (orThrow (readWhole text)) := by
  rcases read : readWithin limit text with failure | tree
  · exact fun _ _ _ _ ok => nomatch ok
  · rw [readWhole_of_readWithin read]
    exact (recalling sheet known path).pure tree

theorem recalling_resolve {evaluateOn : List Address → Expr → EvalM Binary64}
    (evaluated : ∀ longer tree, (recalling sheet known longer).rel (evaluateOn longer tree)
      (recalled sheet known tree)) (address : Address) :
    (recalling sheet known path).rel (resolve sheet (readWithin limit) evaluateOn path address)
      (remembered known address) := by
  intro before value after apart ok
  rcases resolve_cases ok with ⟨held, rfl⟩ | ⟨absent, free, middle, worked, rfl⟩
  · exact ⟨apart, .refl after, fun _ founded => founded,
      fun within => remembered_eq_ok_iff.mpr (within address value held)⟩
  · have cell := (recalling sheet known (address :: path)).cellValue sheet recalling_read
      (evaluated (address :: path)) address before value middle (apart.cons absent) worked
    -- The cell was on the path while its content was worked out, so its value replaces no other.
    have new : Within middle (middle.put address value) :=
      within_put (cell.apart address List.mem_cons_self)
    have own : (middle.put address value).get? address = some value := by simp [Table.get?_put]
    have apart : Apart path middle := fun other inside =>
      cell.apart other (List.mem_cons_of_mem _ inside)
    refine ⟨apart.put free value, cell.grows.trans new, fun within founded other held => ?_,
      fun within => remembered_eq_ok_iff.mpr (within address value own)⟩
    rw [Table.get?_put]
    split
    · next same =>
      rintro ⟨⟩
      rw [same]
      exact cell.same (new.trans within)
    · exact cell.founded (new.trans within) founded other held

theorem recalling_evaluate (depth : Nat) (path : List Address) (e : Expr) :
    (recalling sheet known path).rel (evaluate sheet limit depth path e) (recalled sheet known e) := by
  induction depth generalizing path e with
  | zero => exact fun _ _ _ _ ok => nomatch ok
  | succ depth ih =>
    rw [recalled_eq]
    exact (recalling sheet known path).step sheet e (fun address _ => recalling_resolve ih address)
      fun part _ => ih path part

/-- A formula that is evaluated afresh with success has its value from what it leaves known, and so has
each known cell. -/
theorem recalled_of_evaluateFormula {formula : String} {value : Binary64}
    (ok : (evaluateFormula sheet limit formula).on .empty = (.ok value, known)) :
    Founded sheet known known ∧ recalledFormula sheet known formula = .ok value := by
  have left := (recalling sheet known []).formula formula (recalling_read formula)
    (recalling_evaluate limit []) .empty value known nofun ok
  have same := left.same (.refl known)
  simp only [orThrow_eq] at same
  exact ⟨left.founded (.refl known) fun _ _ held => (nomatch held), same⟩

end
end SheetPricing.Formula
