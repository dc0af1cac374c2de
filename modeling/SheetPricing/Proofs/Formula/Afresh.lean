import SheetPricing.Proofs.Formula.Nesting
import SheetPricing.Proofs.Formula.Step

/-! Evaluation that remembers nothing: the formula of a cell is evaluated each time the cell is
read, and only the cells on the path to it are known. Nothing bounds the nesting. What is still to
be evaluated gets less on the way down, since no cell comes twice on a path. -/
namespace SheetPricing.Formula

/-- The expression of a formula, however deep it is nested. -/
def readWhole (formula : String) : Except Failure Expr :=
  ((tokenize (body formula)).bind fun tokens =>
    Expr.ofTokens (tokens.length + 1) tokens).mapError (.ofMalformation (body formula))

/-- The value of a cell, given how an expression is evaluated on a longer path. -/
def resolveAfresh (sheet : Worksheet)
    (evaluateOn : List Address → Expr → Except Failure Binary64)
    (path : List Address) (address : Address) : Except Failure Binary64 :=
  if address ∈ path then .error (.circular address)
  else cellValue sheet readWhole (evaluateOn (address :: path)) address

/-- The size of the formula in a cell. -/
def formulaSize (sheet : Worksheet) (address : Address) : Nat :=
  match sheet.cell? address with
  | some (.formula text _) => match readWhole text with
    | .ok tree => tree.size
    | .error _ => 0
  | _ => 0

/-- The sum of a count over the keys off a path. -/
def offPath (count : Address → Nat) (path keys : List Address) : Nat :=
  keys.foldr (fun address rest => (if address ∈ path then 0 else count address) + rest) 0

/-- How much there is to evaluate at most: an expression and the formulas off its path. -/
def pending (sheet : Worksheet) (path : List Address) (e : Expr) : Nat :=
  e.size + offPath (formulaSize sheet) path sheet.cells.keys

/-- The value of an expression on a path of cells. The tests whether less is pending always hold. -/
def evaluateAfresh (sheet : Worksheet) (path : List Address) (e : Expr) :
    Except Failure Binary64 :=
  e.step sheet
    (fun part =>
      if pending sheet path part < pending sheet path e then evaluateAfresh sheet path part
      else .error .nestedTooDeep)
    (resolveAfresh sheet
      (fun longer tree =>
        if pending sheet longer tree < pending sheet path e then evaluateAfresh sheet longer tree
        else .error .nestedTooDeep) path)
termination_by pending sheet path e

/-- The finite value of a formula. -/
def evaluateFormulaAfresh (sheet : Worksheet) (formula : String) : Except Failure Binary64 := do
  let tree ← readWhole formula
  let value ← evaluateAfresh sheet [] tree
  requireFinite formula value

private theorem mapError_eq_nestedTooDeep {α : Type} {formula : String}
    {result : Except Malformation α}
    (failed : result.mapError (Failure.ofMalformation formula) = .error .nestedTooDeep) :
    result = .error .nestedTooDeep := by
  cases result with
  | ok value => cases failed
  | error malformation =>
    have failed := Except.error.inj failed
    cases malformation <;> simp_all [Failure.ofMalformation]

theorem tokenize_ne_nestedTooDeep (formula : String) :
    tokenize formula ≠ .error .nestedTooDeep := by
  suffices scanned : ∀ position cs, scan position cs ≠ .error .nestedTooDeep from scanned _ _
  intro position cs
  induction size : cs.length using Nat.strongRecOn generalizing position cs with
  | ind size' ih =>
    subst size
    rw [scan]
    split
    · simp
    · split
      · simp
      · next taken rest found =>
        exact ih _ (length_lt_of_next? found) (position + taken.length) rest rfl
      · next kind taken rest found =>
        have shorter := ih _ (length_lt_of_next? found) (position + taken.length) rest rfl
        intro failed
        apply shorter
        generalize scan (position + taken.length) rest = scanned at failed ⊢
        cases scanned <;> simp_all [Except.map]

theorem readWhole_ne_nestedTooDeep (formula : String) :
    readWhole formula ≠ .error .nestedTooDeep := by
  intro failed
  have read := mapError_eq_nestedTooDeep failed
  rcases scanned : tokenize (body formula) with malformation | tokens
  · rw [scanned] at read
    have failed : malformation = .nestedTooDeep := Except.error.inj read
    exact tokenize_ne_nestedTooDeep _ (failed ▸ scanned)
  · rw [scanned] at read
    exact ofTokens_ne_nestedTooDeep (Nat.lt_succ_self _) read

theorem failsOwn_readWhole (formula : String) : FailsOwn (readWhole formula) := by
  intro failure failed
  cases failure with
  | nestedTooDeep => exact readWhole_ne_nestedTooDeep formula failed
  | circular address =>
    refine absurd failed (mapError_ne (fun malformation => ?_) _)
    cases malformation <;> simp [Failure.ofMalformation]
  | _ => trivial

/-- A formula that a limit does not stop is read as it is without one. -/
theorem readWithin_eq_readWhole {limit : Nat} {formula : String}
    (shallow : readWithin limit formula ≠ .error .nestedTooDeep) :
    readWithin limit formula = readWhole formula := by
  unfold readWithin readWhole Expr.read at *
  generalize tokenize (body formula) = scanned at *
  rcases scanned with malformation | tokens
  · simp only [Except.bind]
  · simp only [Except.bind] at *
    have shallow : Expr.ofTokens limit tokens ≠ .error .nestedTooDeep := by
      intro failed
      rw [failed] at shallow
      exact shallow rfl
    congr 1
    rcases Nat.le_total limit (tokens.length + 1) with le | le
    · exact (ofTokens_of_le le shallow).symm
    · exact ofTokens_of_le le (ofTokens_ne_nestedTooDeep (Nat.lt_succ_self _))

/-- Each formula is read in full with every limit from some limit on. -/
theorem exists_readWithin_eq (formula : String) :
    ∃ bound, ∀ limit, bound ≤ limit → readWithin limit formula = readWhole formula := by
  rcases scanned : tokenize (body formula) with malformation | tokens
  · refine ⟨0, fun limit _ => ?_⟩
    simp only [readWithin, readWhole, Expr.read, scanned, Except.bind]
  · refine ⟨tokens.length + 1, fun limit le => ?_⟩
    have same := ofTokens_of_le le (ofTokens_ne_nestedTooDeep (Nat.lt_succ_self _))
    simp only [readWithin, readWhole, Expr.read, scanned, Except.bind, same]

theorem pending_part {sheet : Worksheet} {path : List Address} {e part : Expr}
    (inside : part ∈ e.parts) : pending sheet path part < pending sheet path e :=
  Nat.add_lt_add_right (Expr.size_lt_of_mem_parts inside) _

private theorem offPath_longer (count : Address → Nat) {address : Address} {path : List Address}
    (free : address ∉ path) (keys : List Address) :
    offPath count (address :: path) keys + (if address ∈ keys then count address else 0)
      ≤ offPath count path keys := by
  induction keys with
  | nil => simp [offPath]
  | cons key rest ih =>
    simp only [offPath, List.foldr_cons] at ih ⊢
    by_cases here : key = address
    · subst here
      simp only [List.mem_cons_self, if_true, if_neg free]
      omega
    · have elsewhere : (address ∈ key :: rest) = (address ∈ rest) := by simp [Ne.symm here]
      have inside : (key ∈ address :: path) = (key ∈ path) := by simp [here]
      simp only [elsewhere, inside]
      omega

theorem mem_keys_of_cell? {sheet : Worksheet} {address : Address} {cell : Cell}
    (holds : sheet.cell? address = some cell) : address ∈ sheet.cells.keys :=
  Table.mem_keys_of_get? holds

theorem pending_cell {sheet : Worksheet} {path : List Address} {address : Address} {text : String}
    {cached : Option Binary64} {tree : Expr} (e : Expr) (free : address ∉ path)
    (holds : sheet.cell? address = some (.formula text cached)) (read : readWhole text = .ok tree) :
    pending sheet (address :: path) tree < pending sheet path e := by
  have held := mem_keys_of_cell? holds
  have less := offPath_longer (formulaSize sheet) free sheet.cells.keys
  have size : formulaSize sheet address = tree.size := by simp [formulaSize, holds, read]
  have positive := e.size_pos
  rw [if_pos held] at less
  unfold pending
  omega

/-- What evaluation without memory means: one step on the values of the parts and of the cells. -/
theorem evaluateAfresh_eq (sheet : Worksheet) (path : List Address) (e : Expr) :
    evaluateAfresh sheet path e
      = e.step sheet (evaluateAfresh sheet path)
          (resolveAfresh sheet (evaluateAfresh sheet) path) := by
  rw [evaluateAfresh]
  refine (Correspondence.equality fun _ _ _ => rfl).step sheet e (fun address _ => ?_) fun part inside =>
    if_pos (pending_part inside)
  change resolveAfresh _ _ _ _ = resolveAfresh _ _ _ _
  unfold resolveAfresh
  split
  · rfl
  · next free =>
    unfold cellValue
    split
    · next text cached holds =>
      rcases read : readWhole text with failure | tree
      · rfl
      · simp only [orThrow, pure_bind, if_pos (pending_cell e free holds read)]
    · rfl

theorem evaluateAfresh_reference (sheet : Worksheet) (path : List Address) (address : Address) :
    evaluateAfresh sheet path (.reference address)
      = resolveAfresh sheet (evaluateAfresh sheet) path address :=
  evaluateAfresh_eq sheet path (.reference address)

end SheetPricing.Formula
