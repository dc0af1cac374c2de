import SheetPricing.Proofs.Binary64.Propagation
import SheetPricing.Proofs.Formula.Escape
import SheetPricing.Proofs.Workbook.Finite

/-! Where a number that is not finite is lost. Finiteness is asked for at the end of a formula, for
the value of a formula in a cell and for the arguments of a rounding. Between these places the
operators pass what is not finite on, but for those that absorb it: a comparison, a divisor, a
power, a condition, and the greatest or least of some values. An evaluation that succeeds has finite
values everywhere else. -/
namespace SheetPricing.Formula

/-- The places of an expression at which a value that is not finite can be lost. -/
inductive Absorbs : Expr → Expr → Prop
  | comparison {operator left right side} (stands : side = left ∨ side = right) :
      Absorbs (.binary (.comparison operator) left right) side
  | divisor {left right} : Absorbs (.binary (.arithmetic .divide) left right) right
  | power {left right side} (stands : side = left ∨ side = right) :
      Absorbs (.binary (.arithmetic .power) left right) side
  | condition {name condition behind} (called : Function.named? name = some .choose) :
      Absorbs (.call name (condition :: behind)) condition
  | extremum {name function arguments argument} (called : Function.named? name = some function)
      (extremal : function = .max ∨ function = .min) (inside : argument ∈ arguments) :
      Absorbs (.call name arguments) argument

/-- What the evaluation of a formula reaches in vain: an expression at such a place whose value is
not finite, with all that it asks for. -/
inductive Absorbed (sheet : Worksheet) (formula : String) : List Address → Expr → Prop
  | lost {path e part value} (reached : Reached sheet formula path e)
      (asks : Asks sheet (answer sheet path) e (.part part)) (place : Absorbs e part)
      (known : evaluateAfresh sheet path part = .ok value) (unbounded : value.isFinite = false) :
      Absorbed sheet formula path part
  | within {path e part} (outer : Absorbed sheet formula path e)
      (asks : Asks sheet (answer sheet path) e (.part part)) : Absorbed sheet formula path part

section
variable {sheet : Worksheet} {answers : Question → Except Failure Binary64}

theorem exists_answer_of_asks {e : Expr} {question : Question} {result : Binary64}
    (asks : Asks sheet answers e question) (ok : e.answered sheet answers = .ok result) :
    ∃ value, answers question = .ok value := by
  cases given : answers question with
  | ok value => exact ⟨value, rfl⟩
  | error failure =>
    rw [answered_eq_error asks given] at ok
    cases ok

/-- The answer about an argument is among the values of the arguments. -/
theorem mem_of_gathers {arguments : List Expr} {part : Expr} {value : Binary64}
    {values : List Binary64} (gathers : Gathers sheet answers arguments (.part part))
    (given : answers (.part part) = .ok value)
    (known : gathered sheet answers arguments = .ok values) : value ∈ values := by
  generalize asked : Question.part part = question at gathers
  induction gathers generalizing values with
  | argument single =>
    cases asked
    rw [gathered_single single, given, ok_bind] at known
    obtain ⟨others, _, known⟩ := ok_of_bind known
    obtain rfl := Except.ok.inj known
    exact List.mem_cons_self
  | behindArgument single first _ ih =>
    rw [gathered_single single, first, ok_bind] at known
    obtain ⟨others, later, known⟩ := ok_of_bind known
    obtain rfl := Except.ok.inj known
    exact List.mem_cons_of_mem _ (ih later asked)
  | member => cases asked
  | behindRange listed read _ ih =>
    rw [gathered_range, listed, ok_bind, read, ok_bind] at known
    obtain ⟨others, later, known⟩ := ok_of_bind known
    obtain rfl := Except.ok.inj known
    exact List.mem_append_right _ (ih later asked)

theorem finite_of_requireFinite {formula : String} {value result : Binary64}
    (ok : requireFinite formula value = .ok result) : value.isFinite = true ∧ value = result := by
  unfold requireFinite at ok
  split at ok
  · next finite => exact ⟨finite, Except.ok.inj ok⟩
  · cases ok

theorem isFinite_operand {operator : UnaryOperator} {x : Binary64}
    (finite : (operator.apply x).isFinite = true) : x.isFinite = true := by
  cases operator with
  | plus => exact finite
  | minus => exact Binary64.isFinite_of_neg finite
  | percent => exact Binary64.isFinite_dividend finite

/-- Of the two operands of an operator with a finite result one that is not finite is absorbed. -/
theorem absorbs_of_apply {operator : BinaryOperator} {left right side : Expr}
    {x y result : Binary64} (ok : operator.apply x y = .ok result) (finite : result.isFinite = true)
    (stands : (side = left ∧ x.isFinite = false) ∨ (side = right ∧ y.isFinite = false)) :
    Absorbs (.binary operator left right) side := by
  have either : side = left ∨ side = right := stands.imp And.left And.left
  have clash (finiteLeft : x.isFinite = true) (finiteRight : y.isFinite = true) : False := by
    rcases stands with ⟨_, unbounded⟩ | ⟨_, unbounded⟩
    · exact absurd (finiteLeft.symm.trans unbounded) nofun
    · exact absurd (finiteRight.symm.trans unbounded) nofun
  cases operator with
  | comparison operator => exact .comparison either
  | arithmetic operator =>
    cases operator with
    | power => exact .power either
    | add =>
      obtain rfl := Except.ok.inj ok
      have operands := Binary64.isFinite_of_add finite
      exact (clash operands.1 operands.2).elim
    | subtract =>
      obtain rfl := Except.ok.inj ok
      have operands := Binary64.isFinite_of_sub finite
      exact (clash operands.1 operands.2).elim
    | multiply =>
      obtain rfl := Except.ok.inj ok
      have operands := Binary64.isFinite_of_mul finite
      exact (clash operands.1 operands.2).elim
    | divide =>
      simp only [BinaryOperator.apply, Arithmetic.apply] at ok
      split at ok
      · cases ok
      obtain rfl := Except.ok.inj ok
      have dividend := Binary64.isFinite_dividend finite
      rcases stands with ⟨_, unbounded⟩ | ⟨rfl, _⟩
      · exact absurd (dividend.symm.trans unbounded) nofun
      · exact .divisor

/-- A rounding that succeeds had finite arguments. -/
theorem isFinite_of_roundTo {value digits result : Binary64}
    (ok : roundTo value digits = .ok result) : value.isFinite = true ∧ digits.isFinite = true := by
  obtain ⟨_, checkedDigits, ok⟩ := ok_of_bind ok
  obtain ⟨_, checkedValue, _⟩ := ok_of_bind ok
  exact ⟨(finite_of_requireFinite checkedValue).1, (finite_of_requireFinite checkedDigits).1⟩

/-- Where an expression with a finite value asks for one that is not finite, it absorbs it. -/
theorem absorbs_of_asks {e part : Expr} {value result : Binary64}
    (asks : Asks sheet answers e (.part part)) (given : answers (.part part) = .ok value)
    (unbounded : value.isFinite = false) (ok : e.answered sheet answers = .ok result)
    (finite : result.isFinite = true) : Absorbs e part := by
  have clash (held : value.isFinite = true) : False := absurd (held.symm.trans unbounded) nofun
  cases asks with
  | operand =>
    obtain ⟨x, known, ok⟩ := ok_of_bind ok
    obtain rfl := Except.ok.inj (given.symm.trans known)
    obtain rfl := Except.ok.inj ok
    exact (clash (isFinite_operand finite)).elim
  | left =>
    obtain ⟨x, known, ok⟩ := ok_of_bind ok
    obtain rfl := Except.ok.inj (given.symm.trans known)
    obtain ⟨y, _, ok⟩ := ok_of_bind ok
    rw [orThrow_eq] at ok
    exact absorbs_of_apply ok finite (.inl ⟨rfl, unbounded⟩)
  | right first =>
    obtain ⟨x, _, ok⟩ := ok_of_bind ok
    obtain ⟨y, known, ok⟩ := ok_of_bind ok
    obtain rfl := Except.ok.inj (given.symm.trans known)
    rw [orThrow_eq] at ok
    exact absorbs_of_apply ok finite (.inr ⟨rfl, unbounded⟩)
  | condition otherwise called => exact .condition called
  | chosen otherwise called known holds =>
    rw [answered_call called] at ok
    -- The branch that is taken has the value of the whole call.
    have same : answers (.part part) = .ok result := by
      cases otherwise <;> simpa only [Option.toList, callValue, known, ok_bind, holds,
        Bool.false_eq_true, if_false] using ok
    obtain rfl := Except.ok.inj (given.symm.trans same)
    exact (clash finite).elim
  | otherwise called known fails =>
    rw [answered_call called] at ok
    have same : answers (.part part) = .ok result := by
      simpa only [callValue, known, ok_bind, fails, if_true] using ok
    obtain rfl := Except.ok.inj (given.symm.trans same)
    exact (clash finite).elim
  | magnitude called =>
    rw [answered_call called] at ok
    obtain ⟨x, known, ok⟩ := ok_of_bind ok
    obtain rfl := Except.ok.inj (given.symm.trans known)
    obtain rfl := Except.ok.inj ok
    exact (clash (Binary64.isFinite_of_abs finite)).elim
  | amount called =>
    rw [answered_call called] at ok
    obtain ⟨x, known, ok⟩ := ok_of_bind ok
    obtain rfl := Except.ok.inj (given.symm.trans known)
    obtain ⟨digits, _, ok⟩ := ok_of_bind ok
    rw [orThrow_eq] at ok
    exact (clash (isFinite_of_roundTo ok).1).elim
  | places called first =>
    rw [answered_call called] at ok
    obtain ⟨x, _, ok⟩ := ok_of_bind ok
    obtain ⟨digits, known, ok⟩ := ok_of_bind ok
    obtain rfl := Except.ok.inj (given.symm.trans known)
    rw [orThrow_eq] at ok
    exact (clash (isFinite_of_roundTo ok).2).elim
  | gathers called aggregates gathers =>
    rw [answered_aggregate called aggregates] at ok
    obtain ⟨values, known, summed⟩ := ok_of_bind ok
    rcases aggregates with rfl | rfl | rfl
    · have finiteSummands := Binary64.isFinite_of_sum (ok_of_mapError summed) finite
      exact (clash (finiteSummands value (mem_of_gathers gathers given known))).elim
    · exact .extremum called (.inl rfl) gathers.mem
    · exact .extremum called (.inr rfl) gathers.mem

end

/-- A cell that is no formula counts for a finite number. -/
theorem isFinite_plainValue {sheet : Worksheet} (finite : sheet.NumbersFinite) {address : Address}
    (plain : ∀ text cached, sheet.cell? address ≠ some (.formula text cached)) :
    (plainValue sheet address).isFinite = true := by
  unfold plainValue
  split
  · next value holds => exact finite address value holds
  · next other =>
    cases kept : (sheet.numeric? address).filter fun value => !value.isZero with
    | none => decide +kernel
    | some value =>
      obtain ⟨held, _⟩ := Option.filter_eq_some_iff.mp kept
      obtain ⟨cell, holds, stands⟩ := Option.bind_eq_some_iff.mp held
      cases cell with
      | number number => exact absurd holds (other number)
      | formula text cached => exact absurd holds (plain text cached)
      | other raw => exact RawValue.isFinite_of_numeral? stands

/-- The value of a cell is finite, and so is the value of the formula in it. -/
theorem isFinite_of_resolveAfresh {sheet : Worksheet} (finite : sheet.NumbersFinite)
    {path : List Address} {address : Address} {value : Binary64}
    (ok : resolveAfresh sheet (evaluateAfresh sheet) path address = .ok value) :
    value.isFinite = true := by
  unfold resolveAfresh at ok
  split at ok
  · cases ok
  unfold cellValue at ok
  split at ok
  · obtain ⟨tree, _, ok⟩ := ok_of_bind ok
    obtain ⟨result, _, ok⟩ := ok_of_bind ok
    rw [orThrow_eq] at ok
    obtain ⟨inRange, rfl⟩ := finite_of_requireFinite ok
    exact inRange
  · next plain =>
    obtain rfl := Except.ok.inj ok
    exact isFinite_plainValue finite plain

section
variable {sheet : Worksheet} {formula : String} {path : List Address}

theorem isFinite_of_cell {address : Address} {text : String} {cached : Option Binary64}
    {tree : Expr} {value : Binary64} (free : address ∉ path)
    (holds : sheet.cell? address = some (.formula text cached)) (read : readWhole text = .ok tree)
    (ok : resolveAfresh sheet (evaluateAfresh sheet) path address = .ok value) :
    ∃ result, evaluateAfresh sheet (address :: path) tree = .ok result ∧
      result.isFinite = true := by
  rw [resolveAfresh, if_neg free] at ok
  simp only [cellValue, holds, orThrow_eq, read, ok_bind] at ok
  obtain ⟨result, known, ok⟩ := ok_of_bind ok
  exact ⟨result, known, (finite_of_requireFinite ok).1⟩

/-- In an evaluation that succeeds every expression that is reached has a value, which is finite
unless it is absorbed. -/
theorem finite_or_absorbed {value : Binary64} (ok : evaluateFormulaAfresh sheet formula = .ok value)
    {e : Expr} (reached : Reached sheet formula path e) :
    ∃ result, evaluateAfresh sheet path e = .ok result ∧
      (result.isFinite = true ∨ Absorbed sheet formula path e) := by
  induction reached with
  | formula read =>
    unfold evaluateFormulaAfresh at ok
    rw [read, ok_bind] at ok
    obtain ⟨result, known, ok⟩ := ok_of_bind ok
    exact ⟨result, known, .inl ((finite_of_requireFinite ok).1)⟩
  | cell outer asks free holds read ih =>
    obtain ⟨result, known, _⟩ := ih
    rw [← answered_answer] at known
    obtain ⟨content, given⟩ := exists_answer_of_asks asks known
    obtain ⟨inner, known, finite⟩ := isFinite_of_cell free holds read given
    exact ⟨inner, known, .inl finite⟩
  | @part path e part outer asks ih =>
    obtain ⟨result, known, finite⟩ := ih
    rw [← answered_answer] at known
    obtain ⟨inner, given⟩ := exists_answer_of_asks asks known
    refine ⟨inner, given, ?_⟩
    -- A finite value can only come from what is finite or absorbed here; what was lost before is
    -- lost with all its parts.
    rcases finite with finite | absorbed
    · cases bounded : inner.isFinite with
      | true => exact .inl rfl
      | false =>
        have place := absorbs_of_asks asks given bounded known finite
        exact .inr (.lost outer asks place given bounded)
    · exact .inr (.within absorbed asks)

end

/-- A formula that has a value has a finite one. Every expression that its evaluation reached has a
value, which is finite except where it is absorbed, and every cell that it read has a finite
value. -/
theorem isFinite_of_reached_unless_absorbed {sheet : Worksheet} (built : sheet.Built)
    {limit : Nat} {formula : String} {trace : Trace} (settled : Settled sheet trace)
    {value : Binary64} (ok : ((evaluateFormula sheet limit formula).on trace).1 = .ok value) :
    value.isFinite = true ∧ ∀ path e, Reached sheet formula path e →
      (∃ result, evaluateAfresh sheet path e = .ok result ∧
        (result.isFinite = true ∨ Absorbed sheet formula path e)) ∧
      ∀ address, Asks sheet (answer sheet path) e (.cell address) →
        ∃ content, resolveAfresh sheet (evaluateAfresh sheet) path address = .ok content ∧
          content.isFinite = true := by
  refine ⟨isFinite_of_evaluateFormula ok, fun path e reached => ?_⟩
  have same := (settled_evaluateFormula limit formula settled).2 (by rw [ok]; exact nofun)
  have afresh : evaluateFormulaAfresh sheet formula = .ok value := same.symm.trans ok
  have reachedValue := finite_or_absorbed afresh reached
  refine ⟨reachedValue, fun address asks => ?_⟩
  obtain ⟨result, known, _⟩ := reachedValue
  rw [← answered_answer] at known
  obtain ⟨content, given⟩ := exists_answer_of_asks asks known
  exact ⟨content, given, isFinite_of_resolveAfresh built.finite.numbersFinite given⟩

/-- A condition that compares a product out of range. -/
def lostOverflow : String := "=IF(1E308*10>1,1,2)"

/-- The operands of a product that a condition with three parts compares. -/
private def comparedProduct? : Expr → Option (String × Binary64 × Binary64)
  | .call name [.binary (.comparison _) (.binary (.arithmetic .multiply) (.number x) (.number y)) _,
      _, _] => some (name, x, y)
  | _ => none

private theorem readWhole_lostOverflow : ∃ operator x y z chosen otherwise,
    readWhole lostOverflow = .ok (.call "IF" [.binary (.comparison operator)
      (.binary (.arithmetic .multiply) (.number x) (.number y)) z, chosen, otherwise]) ∧
    x * y = .infinity false := by
  have compared : ((readWhole lostOverflow).toOption.bind comparedProduct?).any
      (fun (name, x, y) => decide (name = "IF" ∧ x * y = .infinity false)) = true := by
    decide +kernel
  cases read : readWhole lostOverflow with
  | error failure =>
    rw [read] at compared
    cases compared
  | ok tree =>
    rw [read] at compared
    change (comparedProduct? tree).any _ = true at compared
    unfold comparedProduct? at compared
    split at compared
    · next name operator x y z chosen otherwise =>
      obtain ⟨rfl, product⟩ := of_decide_eq_true compared
      exact ⟨operator, x, y, z, chosen, otherwise, rfl, product⟩
    · cases compared

theorem isFinite_of_reached_unless_absorbed_of_lostOverflow :
    (run ⟨"", .empty⟩ lostOverflow .empty).1 = .ok 1 ∧
      ∃ e, Reached ⟨"", .empty⟩ lostOverflow [] e ∧
        evaluateAfresh ⟨"", .empty⟩ [] e = .ok (.infinity false) ∧
        Absorbed ⟨"", .empty⟩ lostOverflow [] e := by
  have ok : (run ⟨"", .empty⟩ lostOverflow .empty).1 = .ok 1 := by decide +kernel
  obtain ⟨operator, x, y, z, chosen, otherwise, read, product⟩ := readWhole_lostOverflow
  have whole : Reached ⟨"", .empty⟩ lostOverflow [] _ := .formula read
  have condition := whole.part (.condition (some otherwise) rfl)
  have reached := condition.part .left
  have built : Worksheet.Built ⟨"", .empty⟩ := fun address cell holds => nomatch holds
  have every := (isFinite_of_reached_unless_absorbed built (settled_empty _) ok).2
  obtain ⟨⟨result, known, finite⟩, _⟩ := every [] _ reached
  have number (value : Binary64) : evaluateAfresh ⟨"", .empty⟩ [] (.number value) = .ok value := by
    rw [evaluateAfresh_eq]
    rfl
  have overflow : evaluateAfresh ⟨"", .empty⟩ []
      (.binary (.arithmetic .multiply) (.number x) (.number y)) = .ok (.infinity false) := by
    rw [evaluateAfresh_eq, Expr.step, number, ok_bind, number, ok_bind, ← product]
    rfl
  obtain rfl := Except.ok.inj (known.symm.trans overflow)
  refine ⟨ok, _, reached, overflow, ?_⟩
  rcases finite with finite | absorbed
  · cases finite
  · exact absorbed

end SheetPricing.Formula
