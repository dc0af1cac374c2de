import SheetPricing.Proofs.Formula.Watch

/-! What is taken up once and known in order. While nothing has failed, the cells that were taken up
are on the path or known, so no cell is taken up twice; and when a cell becomes known, so is all that
was asked for on paths through it. After a failure nothing is taken up or becomes known any more. -/
namespace SheetPricing.Formula
namespace Watch

/-- No cell was taken up twice, and what was asked for on the way to a cell stands before it. -/
structure Sound (watch : Watch) : Prop where
  once : watch.opened.Nodup
  ordered : ∀ path address, (path, address) ∈ watch.asked → ∀ earlier ∈ path,
    earlier ∈ watch.trace.keys → [address, earlier].Sublist watch.trace.keys

/-- That an evaluation on a path goes on. -/
structure Current (path : List Address) (watch : Watch) : Prop extends Sound watch where
  apart : ∀ address ∈ path, address ∉ watch.trace.keys
  onPath : ∀ address ∈ path, address ∈ watch.opened
  closed : ∀ address ∈ watch.opened, address ∈ path ∨ address ∈ watch.trace.keys
  asking : ∀ other address, (other, address) ∈ watch.asked → ∀ earlier ∈ other,
    earlier ∈ watch.opened

theorem current_empty : Current [] .empty where
  once := List.nodup_nil
  ordered := nofun
  apart := nofun
  onPath := nofun
  closed := nofun
  asking := nofun

section
variable {sheet : Worksheet} {path : List Address} {address : Address} {watch middle : Watch}

theorem Current.ask (current : Current path watch) (address : Address) :
    Current path (watch.ask path address) where
  once := current.once
  ordered other asked inside earlier onPath known := by
    rcases mem_asked_ask.mp inside with before | ⟨rfl, rfl⟩
    · exact current.ordered other asked before earlier onPath known
    · exact absurd known (current.apart earlier onPath)
  apart := current.apart
  onPath := current.onPath
  closed := current.closed
  asking other asked inside earlier onPath := by
    rcases mem_asked_ask.mp inside with before | ⟨rfl, rfl⟩
    · exact current.asking other asked before earlier onPath
    · exact current.onPath earlier onPath

theorem Current.fresh (current : Current path watch) (free : address ∉ path)
    (unknown : address ∉ watch.trace.keys) : address ∉ watch.opened := fun opened =>
  (current.closed address opened).elim free unknown

theorem Current.take (current : Current path watch) (free : address ∉ path)
    (unknown : address ∉ watch.trace.keys) : Current (address :: path) (watch.take address) where
  once := by
    refine List.nodup_append.mpr ⟨current.once, by simp, ?_⟩
    rintro other opened _ last rfl
    exact current.fresh free unknown (List.mem_singleton.mp last ▸ opened)
  ordered := current.ordered
  apart := List.forall_mem_cons.mpr ⟨unknown, current.apart⟩
  onPath := by
    refine List.forall_mem_cons.mpr ⟨mem_opened_take.mpr (.inr rfl), fun other inside => ?_⟩
    exact mem_opened_take.mpr (.inl (current.onPath other inside))
  closed other opened := by
    rcases mem_opened_take.mp opened with before | rfl
    · exact (current.closed other before).imp_left (List.mem_cons_of_mem _)
    · exact .inl List.mem_cons_self
  asking other asked inside earlier onPath :=
    mem_opened_take.mpr (.inl (current.asking other asked inside earlier onPath))

/-- When a cell becomes known, all that was asked for since it was taken up stands before it. -/
theorem Current.keep (current : Current path watch) (free : address ∉ path)
    (unknown : address ∉ watch.trace.keys) (longer : Current (address :: path) middle)
    (fills : (watch.take address).Fills sheet middle) (value : Binary64) :
    Current path (middle.keep address value) where
  once := longer.once
  ordered other asked inside earlier onPath known := by
    rw [keys_keep (longer.apart address List.mem_cons_self)]
    rcases mem_keys_keep.mp known with known | rfl
    · exact (longer.ordered other asked inside earlier onPath known).trans
        (List.sublist_append_left _ _)
    · -- What was asked for before the cell was taken up had no path through it.
      rcases fills.asked other asked inside with before | filled
      · have opened := current.asking other asked before earlier onPath
        exact absurd opened (current.fresh free unknown)
      · exact (List.singleton_sublist.mpr filled).append (List.Sublist.refl [earlier])
  apart other inside known := by
    rcases mem_keys_keep.mp known with known | rfl
    · exact longer.apart other (List.mem_cons_of_mem _ inside) known
    · exact free inside
  onPath other inside := longer.onPath other (List.mem_cons_of_mem _ inside)
  closed other opened := by
    rcases longer.closed other opened with inside | known
    · rcases List.mem_cons.mp inside with rfl | inside
      · exact .inr (mem_keys_keep.mpr (.inr rfl))
      · exact .inl inside
    · exact .inr (mem_keys_keep.mpr (.inl known))
  asking := longer.asking

end
end Watch

section
variable {sheet : Worksheet} {limit : Nat} {path : List Address}

/-- That an action on a path leaves a sound state, and one that goes on if it succeeds. -/
def orderly (path : List Address) : Correspondence WatchM WatchM where
  rel action _ := ∀ before, before.Current path → (action.on before).2.Sound ∧
    ∀ value, (action.on before).1 = .ok value → (action.on before).2.Current path
  pure _ _ current := ⟨current.toSound, fun _ _ => current⟩
  throw _ _ current := ⟨current.toSound, fun _ ok => nomatch ok⟩
  abort _ _ _ _ current := ⟨current.toSound, fun _ ok => nomatch ok⟩
  bind first next before current := by
    obtain ⟨sound, goesOn⟩ := first before current
    rw [Action.on_bind]
    generalize Action.on _ before = reached at sound goesOn
    obtain ⟨_ | value, middle⟩ := reached
    · exact ⟨sound, fun _ ok => nomatch ok⟩
    · exact next value middle (goesOn value rfl)

private theorem orderly_read (path : List Address) (limit : Nat) (text : String) :
    (orderly path).rel (orThrow (readWithin limit text)) (orThrow (readWithin limit text)) := by
  intro before current
  cases readWithin limit text with
  | error failure => exact ⟨current.toSound, fun _ ok => nomatch ok⟩
  | ok tree => exact ⟨current.toSound, fun _ _ => current⟩

theorem orderly_resolve {evaluateOn : List Address → Expr → WatchM Binary64}
    (filled : ∀ longer tree, (filling sheet).rel (evaluateOn longer tree) (evaluateOn longer tree))
    (evaluated : ∀ longer tree, (orderly longer).rel (evaluateOn longer tree)
      (evaluateOn longer tree)) (path : List Address) (address : Address) :
    (orderly path).rel (watchResolve sheet (readWithin limit) evaluateOn path address)
      (watchResolve sheet (readWithin limit) evaluateOn path address) := by
  intro before current
  have asked := current.ask address
  rw [on_watchResolve]
  cases found : before.trace.get? address with
  | some value => exact ⟨asked.toSound, fun _ _ => asked⟩
  | none =>
    have unknown : address ∉ before.trace.keys := Table.get?_eq_none_iff.mp found
    by_cases inside : address ∈ path
    · simp only [if_pos inside]
      exact ⟨asked.toSound, fun _ ok => nomatch ok⟩
    · simp only [if_neg inside]
      have worked := (orderly (address :: path)).cellValue sheet
        (orderly_read (address :: path) limit) (evaluated (address :: path)) address
        ((before.ask path address).take address) (asked.take inside unknown)
      have fills := (filling sheet).cellValue sheet (filling_read limit) (filled (address :: path))
        address ((before.ask path address).take address)
      generalize Action.on _ ((before.ask path address).take address) = reached at worked fills
      obtain ⟨failure | value, middle⟩ := reached
      · exact ⟨worked.1, fun _ ok => nomatch ok⟩
      · have kept := asked.keep inside unknown (worked.2 value rfl) (fills value middle rfl) value
        exact ⟨kept.toSound, fun _ _ => kept⟩

theorem orderly_evaluate (depth : Nat) (path : List Address) (e : Expr) :
    (orderly path).rel (watchEvaluate sheet limit depth path e)
      (watchEvaluate sheet limit depth path e) := by
  induction depth generalizing path e with
  | zero => exact fun before current => ⟨current.toSound, fun _ ok => nomatch ok⟩
  | succ depth ih =>
    intro before current
    have met : (before.meet e).Current path := { current with }
    exact (orderly path).step sheet e
      (fun address _ => orderly_resolve (fun longer tree => filling_evaluate depth longer tree) ih path
        address) (fun part _ => ih path part) (before.meet e) met

/-- A formula that is evaluated afresh takes up each cell at most once, whether it fails or not, and
what it asks for on the way to a cell becomes known before the cell. -/
theorem sound_watchFormula (sheet : Worksheet) (limit : Nat) (formula : String) :
    ((watchFormula sheet limit formula).on .empty).2.Sound := by
  have whole : (orderly []).rel (watchFormula sheet limit formula)
      (watchFormula sheet limit formula) :=
    (orderly []).formula formula (orderly_read [] limit formula) (orderly_evaluate limit [])
  exact (whole .empty Watch.current_empty).1

end

/-- Evaluation afresh ends within some depth. It takes up the content of each cell at most once, the
formula in it included. What it reports as circular is a formula cell on a cycle of references, so
where no cycle is within reach it reports nothing as circular. -/
theorem opened_once_and_circular_on_cycle (sheet : Worksheet) (formula : String) :
    (∃ bound, ∀ limit, bound ≤ limit →
      ((evaluateFormula sheet limit formula).on .empty).1 ≠ .error .nestedTooDeep) ∧
    ∀ limit, ∃ outcome watch, (watchFormula sheet limit formula).on .empty = (outcome, watch) ∧
      (evaluateFormula sheet limit formula).on .empty = (outcome, watch.trace) ∧
      watch.opened.Nodup ∧
      (∀ address, outcome = .error (.circular address) →
        (∃ text cached, sheet.cell? address = some (.formula text cached)) ∧
          OnCycle sheet address) ∧
      ((∀ tree, readWhole formula = .ok tree → ∀ address, tree.Reaches sheet address →
          ¬OnCycle sheet address) →
        ∀ address, outcome ≠ .error (.circular address)) := by
  constructor
  · obtain ⟨bound, shallow⟩ := exists_shallow_evaluateFormula sheet formula
    exact ⟨bound, fun limit le => shallow limit le .empty⟩
  · intro limit
    have same := on_evaluateFormula_eq_watch sheet limit formula .empty
    have sound := sound_watchFormula sheet limit formula
    rcases noted : (watchFormula sheet limit formula).on .empty with ⟨outcome, watch⟩
    rw [noted] at same sound
    have cyclic (address : Address) (failed : outcome = .error (.circular address)) :=
      cyclic_of_evaluateFormula ((congrArg Prod.fst same).trans failed)
    refine ⟨outcome, watch, rfl, same, sound.once, fun address failed => ?_, ?_⟩
    · have cycle := (cyclic address failed).1
      exact ⟨cycle.exists_formula, cycle⟩
    · intro acyclic address failed
      obtain ⟨cycle, tree, read, reaches⟩ := cyclic address failed
      exact acyclic tree read address reaches cycle

end SheetPricing.Formula
