import SheetPricing.Proofs.Formula.Dependence

/-! A part of an expression moved into a cell of its own. Where the part stood stands a reference to
the cell, and the cell holds the text of the part as its formula. Whatever surrounds the part, the
expression has the value that it had, if it had one: the cell is evaluated on a longer path, but
references do not lead back to it. -/
namespace SheetPricing.Formula

/-- That one expression is another in which a part is replaced, at one place, by a reference to a
cell. -/
inductive Moves (part : Expr) (cell : Address) : Expr → Expr → Prop
  | whole : Moves part cell part (.reference cell)
  | operand (operator : UnaryOperator) {operand moved} (inner : Moves part cell operand moved) :
      Moves part cell (.unary operator operand) (.unary operator moved)
  | left (operator : BinaryOperator) {left moved} (right : Expr) (inner : Moves part cell left moved) :
      Moves part cell (.binary operator left right) (.binary operator moved right)
  | right (operator : BinaryOperator) (left : Expr) {right moved}
      (inner : Moves part cell right moved) :
      Moves part cell (.binary operator left right) (.binary operator left moved)
  | argument (name : String) (before : List Expr) {argument moved} (behind : List Expr)
      (inner : Moves part cell argument moved) :
      Moves part cell (.call name (before ++ argument :: behind)) (.call name (before ++ moved :: behind))

theorem Moves.single {part e moved : Expr} {cell : Address} (moves : Moves part cell e moved)
    (single : ∀ corners, part ≠ .range corners) :
    (∀ corners, e ≠ .range corners) ∧ ∀ corners, moved ≠ .range corners := by
  cases moves with
  | whole => exact ⟨single, nofun⟩
  | _ => exact ⟨nofun, nofun⟩

/-- The same values on both sides, whatever the failures. -/
def agreeing : Correspondence (Except Failure) (Except Failure) where
  rel result other := ∀ value, result = .ok value ↔ other = .ok value
  pure _ _ := .rfl
  throw _ _ := .rfl
  abort _ _ _ _ := ⟨nofun, nofun⟩
  bind first next value := by
    constructor
    · intro ok
      obtain ⟨given, here, later⟩ := ok_of_bind ok
      rw [(first given).mp here]
      exact (next given value).mp later
    · intro ok
      obtain ⟨given, here, later⟩ := ok_of_bind ok
      rw [(first given).mpr here]
      exact (next given value).mpr later

theorem agreeing_of_eq {result other : Except Failure Binary64} (same : result = other) :
    agreeing.rel result other := fun _ => same ▸ .rfl

section
variable {sheet : Worksheet} {e : Expr} {cell : Address}
  (unreferred : ∀ address, ¬Refers sheet address cell)
include unreferred

theorem ne_of_reaches (unnamed : ¬e.RefersTo cell) {address : Address}
    (reaches : e.Reaches sheet address) : address ≠ cell := by
  refine reaches.induction (motive := (· ≠ cell)) ?_ ?_
  · rintro _ refers rfl
    exact unnamed refers
  · rintro other _ _ refers rfl
    exact unreferred other refers

/-- What changes at a cell changes nothing where no reference leads to the cell. -/
theorem seesSame_put (unnamed : ¬e.RefersTo cell) (content : Cell) :
    e.SeesSame sheet (sheet.put cell content) := by
  intro address reaches
  rw [Worksheet.cell?_put, if_neg (ne_of_reaches unreferred unnamed reaches)]

theorem evaluateAfresh_put (unnamed : ¬e.RefersTo cell) (content : Cell) {path : List Address}
    (only : ∀ address ∈ path, address = cell) :
    evaluateAfresh sheet [] e = evaluateAfresh (sheet.put cell content) path e := by
  refine evaluateAfresh_congr (seesSame_put unreferred unnamed content) fun address reaches => ?_
  have other : address ≠ cell := ne_of_reaches unreferred unnamed reaches
  exact iff_of_false List.not_mem_nil fun inside => other (only address inside)

theorem resolveAfresh_put {address : Address} (other : address ≠ cell) (content : Cell) :
    resolveAfresh sheet (evaluateAfresh sheet) [] address
      = resolveAfresh (sheet.put cell content) (evaluateAfresh (sheet.put cell content)) [] address := by
  have unnamed : ¬(Expr.reference address).RefersTo cell := fun refers =>
    other refers.eq_of_reference.symm
  have same := evaluateAfresh_put unreferred unnamed content (List.forall_mem_nil _)
  rwa [evaluateAfresh_reference, evaluateAfresh_reference] at same

/-- An argument of an aggregate that does not refer to a cell gives the same values whatever the cell
holds. -/
theorem alike_put {name : String} {function : Function} {arguments : List Expr}
    (called : Function.named? name = some function) (aggregates : function.Aggregates)
    (unnamed : ¬(Expr.call name arguments).RefersTo cell) (content : Cell) {argument : Expr}
    (inside : argument ∈ arguments) :
    agreeing.Alike sheet (sheet.put cell content) (evaluateAfresh sheet [])
      (evaluateAfresh (sheet.put cell content) []) (resolveAfresh sheet (evaluateAfresh sheet) [])
      (resolveAfresh (sheet.put cell content) (evaluateAfresh (sheet.put cell content)) [])
      argument argument := by
  rcases range_or_single argument with ⟨corners, rfl⟩ | single
  · have other {addresses : List Address} (spanned : corners.addresses = .ok addresses)
        {address : Address} (among : address ∈ addresses) : address ≠ cell := by
      rintro rfl
      exact unnamed (.member called aggregates inside spanned among)
    refine .range (members_congr fun addresses spanned address among => counts_congr ?_)
      fun listed ok address among => ?_
    · rw [Worksheet.cell?_put, if_neg (other spanned among)]
    · obtain ⟨addresses, spanned, all⟩ := exists_addresses_of_members ok
      exact agreeing_of_eq
        (resolveAfresh_put unreferred (other spanned (all address among)) content)
  · exact .single single single (agreeing_of_eq
      (evaluateAfresh_put unreferred (fun refers => unnamed (.part inside refers)) content
        (List.forall_mem_nil _)))

variable {text : String} {part moved : Expr} {cached : Option Binary64}
  (read : readWhole text = .ok part)
  (finite : ∀ value, evaluateAfresh sheet [] part = .ok value → value.isFinite = true)
include read finite

theorem evaluateAfresh_reference_moved (unnamed : ¬part.RefersTo cell) :
    agreeing.rel (evaluateAfresh sheet [] part)
      (evaluateAfresh (sheet.put cell (.formula text cached)) [] (.reference cell)) := by
  -- The cell is on the path of its own formula, which does not lead back to it.
  have longer := evaluateAfresh_put unreferred unnamed (.formula text cached)
    (fun address inside => List.mem_singleton.mp inside)
  rw [evaluateAfresh_reference, resolveAfresh, if_neg List.not_mem_nil, cellValue, Worksheet.cell?_put, if_pos rfl]
  dsimp only
  rw [read, orThrow, pure_bind, ← longer]
  rcases evaluated : evaluateAfresh sheet [] part with failure | result
  · intro value
    constructor <;> exact fun same => by cases same
  · rw [ok_bind, requireFinite, if_pos (finite result evaluated)]
    exact agreeing.pure result

theorem evaluateAfresh_moved (single : ∀ corners, part ≠ .range corners)
    (moves : Moves part cell e moved) (unnamed : ¬e.RefersTo cell) :
    agreeing.rel (evaluateAfresh sheet [] e)
      (evaluateAfresh (sheet.put cell (.formula text cached)) [] moved) := by
  have kept {p : Expr} (unnamed : ¬p.RefersTo cell) : agreeing.rel (evaluateAfresh sheet [] p)
      (evaluateAfresh (sheet.put cell (.formula text cached)) [] p) :=
    agreeing_of_eq (evaluateAfresh_put unreferred unnamed _ nofun)
  induction moves with
  | whole => exact evaluateAfresh_reference_moved unreferred read finite unnamed
  | @operand operator operand moved inner ih =>
    rw [evaluateAfresh_eq, evaluateAfresh_eq (sheet.put _ _)]
    refine agreeing.bind (ih fun refers => unnamed (.part ?_ refers)) fun value => agreeing.pure _
    exact List.mem_singleton_self operand
  | @left operator left moved right inner ih =>
    rw [evaluateAfresh_eq, evaluateAfresh_eq (sheet.put _ _)]
    refine agreeing.bind (ih fun refers => unnamed (.part ?_ refers)) fun x => ?_
    · exact List.mem_cons_self
    refine agreeing.bind (kept fun refers => unnamed (.part ?_ refers)) fun y => ?_
    · exact List.mem_cons_of_mem _ List.mem_cons_self
    exact agreeing.orThrow (failsOwn_apply operator x y)
  | @right operator left right moved inner ih =>
    rw [evaluateAfresh_eq, evaluateAfresh_eq (sheet.put _ _)]
    refine agreeing.bind (kept fun refers => unnamed (.part ?_ refers)) fun x => ?_
    · exact List.mem_cons_self
    refine agreeing.bind (ih fun refers => unnamed (.part ?_ refers)) fun y => ?_
    · exact List.mem_cons_of_mem _ List.mem_cons_self
    exact agreeing.orThrow (failsOwn_apply operator x y)
  -- Arguments that stay give the same values; an aggregate sees no range come or go.
  | @argument name before argument moved behind inner ih =>
    have unnamedPart {p : Expr} (inside : p ∈ before ++ argument :: behind) : ¬p.RefersTo cell :=
      fun refers => unnamed (.part inside refers)
    have here := ih (unnamedPart (by simp))
    have earlier {p : Expr} (inside : p ∈ before) : p ∈ before ++ argument :: behind := by
      simp [inside]
    have later {p : Expr} (inside : p ∈ behind) : p ∈ before ++ argument :: behind := by
      simp [inside]
    rw [evaluateAfresh_eq, evaluateAfresh_eq (sheet.put _ _)]
    unfold Expr.step
    dsimp only
    split
    · exact agreeing.throw trivial
    · next function called =>
      refine agreeing.callValue function ?_ fun aggregates => ?_
      · refine List.rel_append (List.forall₂_same.mpr fun p inside => kept (unnamedPart (earlier inside)))
          (.cons here (List.forall₂_same.mpr fun p inside => kept (unnamedPart (later inside))))
      · obtain ⟨stood, stands⟩ := inner.single single
        have alike {p : Expr} (inside : p ∈ before ++ argument :: behind) :=
          alike_put unreferred called aggregates unnamed (.formula text cached) inside
        exact List.rel_append (List.forall₂_same.mpr fun p inside => alike (earlier inside))
          (.cons (.single stood stands here)
            (List.forall₂_same.mpr fun p inside => alike (later inside)))

end

/-- An expression and the expression in which a part is moved into a cell of its own, that nothing
refers to otherwise, have the same value or none with every limit that stops neither, and from some
limit on none does. -/
theorem evaluate_moved {sheet : Worksheet} {cell : Address} {text : String}
    (cached : Option Binary64) {part e moved : Expr} (moves : Moves part cell e moved)
    (single : ∀ corners, part ≠ .range corners) (unnamed : ¬e.RefersTo cell)
    (unreferred : ∀ address, ¬Refers sheet address cell) (read : readWhole text = .ok part)
    (finite : ∀ limit value, ((evaluate sheet limit limit [] part).on .empty).1 = .ok value →
      value.isFinite = true) :
    (∀ limit, ((evaluate sheet limit limit [] e).on .empty).1 ≠ .error .nestedTooDeep →
      ((evaluate (sheet.put cell (.formula text cached)) limit limit [] moved).on .empty).1
        ≠ .error .nestedTooDeep →
      ∀ value, ((evaluate sheet limit limit [] e).on .empty).1 = .ok value ↔
        ((evaluate (sheet.put cell (.formula text cached)) limit limit [] moved).on .empty).1
          = .ok value) ∧
    ∃ bound, ∀ limit, bound ≤ limit →
      ((evaluate sheet limit limit [] e).on .empty).1 ≠ .error .nestedTooDeep ∧
      ((evaluate (sheet.put cell (.formula text cached)) limit limit [] moved).on .empty).1
        ≠ .error .nestedTooDeep := by
  constructor
  · intro limit here there
    have alone (value : Binary64) (ok : evaluateAfresh sheet [] part = .ok value) :
        value.isFinite = true := by
      obtain ⟨bound, shallow⟩ := exists_shallow_evaluate sheet part
      have same := evaluate_eq_afresh (shallow bound (Nat.le_refl bound) .empty)
      exact finite bound value (same.trans ok)
    rw [evaluate_eq_afresh here, evaluate_eq_afresh there]
    exact evaluateAfresh_moved unreferred read alone single moves unnamed
  · obtain ⟨first, shallow⟩ := exists_shallow_evaluate sheet e
    obtain ⟨second, shallowMoved⟩ :=
      exists_shallow_evaluate (sheet.put cell (.formula text cached)) moved
    exact ⟨max first second, fun limit le =>
      ⟨shallow limit (by omega) .empty, shallowMoved limit (by omega) .empty⟩⟩

theorem evaluate_moved_of_chain :
    readWhole "=-A1" = .ok (.unary .minus (.reference "A1")) ∧
    ∃ bound, ∀ limit, bound ≤ limit → ∀ value,
      ((evaluate (chain 2) limit limit []
        (.call "MAX" [.range ⟨"A1", "A2"⟩, .unary .minus (.reference "A1")])).on .empty).1 = .ok value ↔
      ((evaluate ((chain 2).put "B1" (.formula "=-A1" none)) limit limit []
        (.call "MAX" [.range ⟨"A1", "A2"⟩, .reference "B1"])).on .empty).1 = .ok value := by
  have top : inColumn 1 = "A1" := by
    simp [inColumn, Corner.address, columnLetters]
    rfl
  have read : readWhole "=-A1" = .ok (.unary .minus (.reference "A1")) := by
    have cell : PlainCell "A1".toList := plainCell_of_all ['A'] ['1'] (by decide)
    have plain : (Expr.unary .minus (.reference "A1")).Plain := .unary _ (.reference cell)
    have within : readWithin depthLimit "=-A1" = _ := plain.readWithin_eq (by decide +kernel) (by decide)
    exact readWhole_of_readWithin within
  have moves : Moves (.unary .minus (.reference "A1")) "B1"
      (.call "MAX" [.range ⟨"A1", "A2"⟩, .unary .minus (.reference "A1")])
      (.call "MAX" [.range ⟨"A1", "A2"⟩, .reference "B1"]) :=
    .argument "MAX" [.range ⟨"A1", "A2"⟩] [] .whole
  have single (corners : Range) : Expr.unary .minus (.reference "A1") ≠ .range corners := by simp
  have off (row : Nat) : "B1" ≠ inColumn row := ne_inColumn (by decide) row
  have spanned : Range.addresses ⟨"A1", "A2"⟩ = .ok ((List.range' 1 2).map inColumn) :=
    addresses_column (by decide +kernel) (by decide +kernel) (by decide)
  have unnamed : ¬(Expr.call "MAX" [.range ⟨"A1", "A2"⟩, .unary .minus (.reference "A1")]).RefersTo
      "B1" := by
    intro refers
    cases refers with
    | member _ _ argument listed inside =>
      obtain ⟨rfl⟩ : _ = _ := by simpa using argument
      obtain rfl := Except.ok.inj (spanned.symm.trans listed)
      obtain ⟨row, _, same⟩ := List.mem_map.mp inside
      exact off row same.symm
    | part inside refers =>
      rcases List.mem_pair.mp inside with rfl | rfl
      · cases refers with
        | part inside => cases inside
      · cases refers with
        | part inside refers =>
          obtain rfl := List.mem_singleton.mp inside
          exact absurd refers.eq_of_reference (by decide)
  have unreferred (address : Address) : ¬Refers (chain 2) address "B1" := fun refers =>
    (exists_row_of_refers_chain refers).elim off
  have finite (limit : Nat) (value : Binary64) (ok : ((evaluate (chain 2) limit limit []
      (.unary .minus (.reference "A1"))).on .empty).1 = .ok value) : value.isFinite = true := by
    have one : evaluateAfresh (chain 2) [] (.reference "A1") = .ok 1 := by
      rw [evaluateAfresh_reference, ← top]
      exact cellValue_chain_top (by decide)
    have minus : evaluateAfresh (chain 2) [] (.unary .minus (.reference "A1")) = .ok (-1) := by
      rw [evaluateAfresh_eq, Expr.step, one]
      rfl
    have same : ((evaluate (chain 2) limit limit [] (.unary .minus (.reference "A1"))).on .empty).1
        = evaluateAfresh (chain 2) [] (.unary .minus (.reference "A1")) :=
      evaluate_eq_afresh (by simp [ok])
    rw [ok, minus] at same
    rw [Except.ok.inj same]
    decide +kernel
  obtain ⟨same, bound, shallow⟩ := evaluate_moved none moves single unnamed unreferred read finite
  exact ⟨read, bound, fun limit le => same limit (shallow limit le).1 (shallow limit le).2⟩

end SheetPricing.Formula
