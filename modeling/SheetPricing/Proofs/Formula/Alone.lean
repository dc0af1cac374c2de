import SheetPricing.Proofs.Formula.Following
import SheetPricing.Proofs.Formula.Trace
import SheetPricing.Proofs.Formula.Writing

/-! Cells as formulas. Whatever a formula refers to is spelled as a cell, in its own text or by a range
that spans it; so each cell that becomes known is a formula by itself, behind an equals sign. -/
namespace SheetPricing.Formula
open Address (isCapital)
open Text (isDigit isPlainLetter)
open Text.Lexeme

theorem tokenize_reference {text : String} (spelled : ReferenceText text.toList) :
    ∃ token, Derives .comparison [token] (.reference (cleanAddress text.toList)) ∧
      tokenize (body ("=" ++ text)) = .ok [token] := by
  have scans := scans_reference spelled
  have ends : Ends [] := nofun
  obtain ⟨token, kind, same, yields⟩ := exists_token text.toList (spelled.next? ends) 0
  have derived := Derives.cell kind
  rw [same, String.toList_ofList] at derived
  rw [(body_of_scans scans).2]
  exact ⟨token, derived.comparison, tokenize_of_yields yields⟩

/-- A reference behind an equals sign is read as a reference to the cell that it means. -/
theorem readWithin_reference {text : String} (spelled : ReferenceText text.toList) {limit : Nat}
    (enough : 1 < limit) :
    readWithin limit ("=" ++ text) = .ok (.reference (cleanAddress text.toList)) := by
  obtain ⟨token, derived, tokenized⟩ := tokenize_reference spelled
  rw [readWithin, Expr.read, tokenized]
  simp only [Except.bind, ofTokens_of_derives derived enough]
  rfl

theorem readWithin_cell {address : Address} (cell : CellText address.toList) {limit : Nat}
    (enough : 1 < limit) : readWithin limit ("=" ++ address) = .ok (.reference address) := by
  have read := readWithin_reference cell.referenceText enough
  rwa [cell.cleanAddress, String.ofList_toList] at read

theorem readWhole_cell {address : Address} (cell : CellText address.toList) :
    readWhole ("=" ++ address) = .ok (.reference address) := by
  obtain ⟨token, derived, tokenized⟩ := tokenize_reference cell.referenceText
  rw [cell.cleanAddress, String.ofList_toList] at derived
  rw [readWhole, tokenized]
  simp only [Except.bind, ofTokens_of_derives derived (Nat.lt_succ_self _)]
  rfl

/-- A plain expression is read from its text with every limit above the length of the text. -/
theorem Expr.Plain.readWithin_eq {e : Expr} (plain : e.Plain) {text : String}
    (written : e.formula .sparse true = text) {limit : Nat} (enough : text.length < limit) :
    readWithin limit text = .ok e := by
  subst written
  rw [readWithin, plain.read_of_length_lt .sparse true enough]
  rfl

/-- The number of the last column with so many letters. -/
def lastColumn : Nat → Nat
  | 0 => 0
  | letters + 1 => 26 * (lastColumn letters + 1)

theorem lastColumn_le {few many : Nat} (le : few ≤ many) : lastColumn few ≤ lastColumn many := by
  induction le with
  | refl => exact Nat.le_refl _
  | step _ ih =>
    rw [lastColumn]
    omega

theorem columnNumber_concat (letters : List Char) (c : Char) :
    columnNumber (letters ++ [c]) = 26 * columnNumber letters + (c.toNat - 'A'.toNat + 1) := by
  simp [columnNumber]

theorem columnNumber_le {letters : List Char} (capital : ∀ c ∈ letters, isCapital c = true) :
    columnNumber letters ≤ lastColumn letters.length := by
  induction letters using List.reverseRecOn with
  | nil => exact Nat.le_refl 0
  | append_singleton letters c ih =>
    have before := ih fun d inside => capital d (List.mem_append_left _ inside)
    have last : c.toNat - 'A'.toNat + 1 ≤ 26 :=
      of_capital (P := fun c => c.toNat - 'A'.toNat + 1 ≤ 26) (by decide)
        (capital c (List.mem_append_right _ List.mem_cons_self))
    rw [columnNumber_concat, List.length_append, List.length_singleton, lastColumn]
    omega

theorem columnNumber_pos {letters : List Char} (any : letters ≠ []) : 0 < columnNumber letters := by
  obtain ⟨before, c, rfl⟩ := List.eq_nil_or_concat letters |>.resolve_left any
  rw [List.concat_eq_append, columnNumber_concat]
  omega

theorem length_columnLetters_le {number letters : Nat} (le : number ≤ lastColumn letters) :
    (columnLetters number).length ≤ letters := by
  induction letters generalizing number with
  | zero =>
    obtain rfl := Nat.le_zero.mp le
    simp [columnLetters]
  | succ letters ih =>
    rw [columnLetters]
    split
    · simp
    · rw [lastColumn] at le
      have front : (columnLetters ((number - 1) / 26)).length ≤ letters := ih (by omega)
      simpa using front

theorem columnLetters_ne_nil {number : Nat} (positive : 0 < number) : columnLetters number ≠ [] := by
  rw [columnLetters, if_neg (by omega)]
  simp

theorem cellText_address {corner : Corner} (positive : 0 < corner.column)
    (few : corner.column ≤ lastColumn maxColumnLetters) : CellText corner.address.toList := by
  rw [Corner.address, String.toList_append, String.toList_ofList]
  refine .intro (columnLetters_ne_nil positive) (length_columnLetters_le few)
    (fun c inside => isCapital_columnLetters inside) ?_ ?_
  · rw [Address.toList_toString]
    exact Nat.toDigits_ne_nil
  · rw [Address.toList_toString]
    exact isDigit_of_plain fun c inside => Address.isPlainDigit_toDigits inside

theorem column_of_ofAddress? {address : Address} {corner : Corner}
    (read : Corner.ofAddress? address = some corner) :
    0 < corner.column ∧ corner.column ≤ lastColumn maxColumnLetters := by
  unfold Corner.ofAddress? at read
  dsimp only at read
  split at read
  · cases read
  · next proper =>
    split at read
    · cases read
    · obtain ⟨digits, _, rfl⟩ := Option.map_eq_some_iff.mp read
      have capital : ∀ c ∈ address.toList.takeWhile isCapital, isCapital c = true :=
        List.all_eq_true.mp List.all_takeWhile
      simp only [Bool.or_eq_true, decide_eq_true_eq, not_or, Nat.not_lt] at proper
      obtain ⟨any, few⟩ := proper
      have bound := columnNumber_le capital
      have mono : lastColumn (address.toList.takeWhile isCapital).length
          ≤ lastColumn maxColumnLetters := lastColumn_le few
      exact ⟨columnNumber_pos (by simpa using any), bound.trans mono⟩

theorem cellText_of_addresses {corners : Range} {addresses : List Address}
    (spanned : corners.addresses = .ok addresses) {address : Address}
    (inside : address ∈ addresses) : CellText address.toList := by
  unfold Range.addresses at spanned
  split at spanned
  · next first last readFirst readLast =>
    split at spanned
    · cases spanned
    · obtain rfl := Except.ok.inj spanned
      obtain ⟨corner, among, rfl⟩ := List.mem_map.mp inside
      have between : first.column ≤ corner.column ∧ corner.column ≤ last.column := by
        unfold Range.cells at among
        dsimp only at among
        split at among
        · cases among
        · obtain ⟨row, _, among⟩ := List.mem_flatMap.mp among
          obtain ⟨column, listed, rfl⟩ := List.mem_map.mp among
          have := List.mem_range'_1.mp listed
          dsimp only
          omega
      -- Between two columns of at most three letters each column has at most three.
      have low := column_of_ofAddress? readFirst
      have high := column_of_ofAddress? readLast
      exact cellText_address (by omega) (by omega)
  · cases spanned

/-- Each token of a text is a lexeme somewhere in it. -/
theorem exists_next?_of_scan {position : Nat} {cs : List Char} {tokens : List Token}
    (ok : scan position cs = .ok tokens) : ∀ token ∈ tokens, ∃ before after,
      next? before = some (some token.kind, token.text.toList, after) := by
  induction size : cs.length using Nat.strongRecOn generalizing position cs tokens with
  | ind n ih =>
    subst size
    rw [scan] at ok
    split at ok
    · obtain rfl := Except.ok.inj ok
      simp
    · split at ok
      · cases ok
      · next taken rest found => exact ih _ (length_lt_of_next? found) ok rfl
      · next kind taken rest found =>
        obtain ⟨others, inner, rfl⟩ := exists_of_map ok
        intro token inside
        rcases List.mem_cons.mp inside with rfl | inside
        · exact ⟨cs, rest, by simpa using found⟩
        · exact ih _ (length_lt_of_next? found) inner rfl token inside

theorem ReferenceText.cellText {cs : List Char} (spelled : ReferenceText cs) :
    CellText (cleanAddress cs).toList := by
  obtain ⟨columnMark, any, few, plain, rowMark, some, numbered⟩ := spelled
  next fixColumn letters fixRow digits =>
  have mark {fix : List Char} (shape : fix = [] ∨ fix = ['$']) : ∀ c ∈ fix, c = '$' := by
    rcases shape with rfl | rfl <;> simp
  have marks := List.forall_mem_append.mpr ⟨mark columnMark, mark rowMark⟩
  rw [cleanAddress_spelled plain numbered marks, String.toList_ofList]
  refine .intro (by simpa using any) (by simpa using few) (fun c inside => ?_) some numbered
  obtain ⟨letter, among, rfl⟩ := List.mem_map.mp inside
  exact of_plain (P := fun c => isPlainLetter c = true → isCapital c.toUpper = true) (by decide)
    (.inl (plain letter among)) (plain letter among)

/-- The tokens of references are spelled as references. -/
theorem referenceText_of_scan {position : Nat} {cs : List Char} {tokens : List Token}
    (ok : scan position cs = .ok tokens) {token : Token} (inside : token ∈ tokens)
    (kind : token.kind = .reference) : ReferenceText token.text.toList := by
  obtain ⟨before, after, found⟩ := exists_next?_of_scan ok token inside
  obtain ⟨lexeme, listed, took⟩ := mem_of_next? found
  obtain rfl : lexeme = reference := by simpa [lexemes, kind] using listed
  exact (referenceText_of_take?_reference took).1

theorem Separated.mem {pieces : List (List Token)} {tokens : List Token}
    (separated : Separated pieces tokens) {piece : List Token} (inside : piece ∈ pieces)
    {token : Token} (among : token ∈ piece) : token ∈ tokens := by
  induction separated with
  | none => cases inside
  | one single => exact List.mem_singleton.mp inside ▸ among
  | more first _ _ ih =>
    rcases List.mem_cons.mp inside with rfl | inside
    · exact List.mem_append_left _ among
    · exact List.mem_append_right _ (List.mem_cons_of_mem _ (ih inside))

/-- Where the references among some tokens are spelled as cells, so is all that their expression
refers to. -/
theorem Derives.cellText {level : Level} {tokens : List Token} {e : Expr}
    (derived : Derives level tokens e)
    (spelled : ∀ token ∈ tokens, token.kind = .reference →
      CellText (cleanAddress token.text.toList).toList) {address : Address}
    (refers : e.RefersTo address) : CellText address.toList := by
  induction derived with
  | tighter _ _ ih => exact ih spelled refers
  | row _ _ _ _ _ first second | compared _ _ _ first second =>
    obtain ⟨spelledFirst, spelledSecond⟩ := List.forall_mem_append.mp spelled
    cases refers with
    | part inside refers =>
      rcases List.mem_pair.mp inside with rfl | rfl
      · exact first spelledFirst refers
      · exact second (List.forall_mem_cons.mp spelledSecond).2 refers
  | sign _ _ _ ih =>
    cases refers with
    | part inside refers =>
      obtain rfl := List.mem_singleton.mp inside
      exact ih (List.forall_mem_cons.mp spelled).2 refers
  | percent _ _ ih =>
    cases refers with
    | part inside refers =>
      obtain rfl := List.mem_singleton.mp inside
      exact ih (List.forall_mem_append.mp spelled).1 refers
  | cell kind =>
    obtain rfl := refers.eq_of_reference
    exact spelled _ List.mem_cons_self kind
  | number | truth | range =>
    cases refers with
    | part inside => cases inside
  | call pieces _ _ _ separated _ ih =>
    cases refers with
    | member _ _ _ spanned inside => exact cellText_of_addresses spanned inside
    | part inside refers =>
      obtain ⟨piece, among, rfl⟩ := List.mem_map.mp inside
      refine ih piece among (fun token here => spelled token ?_) refers
      have within := separated.mem (List.mem_map_of_mem among) here
      simp [within]
  | group _ _ _ ih =>
    refine ih (fun token here => spelled token ?_) refers
    simp [here]

/-- All that a formula refers to is spelled as a cell. -/
theorem cellText_of_readWhole {formula : String} {tree : Expr}
    (read : readWhole formula = .ok tree) {address : Address} (refers : tree.RefersTo address) :
    CellText address.toList := by
  have read := ok_of_mapError read
  obtain ⟨tokens, tokenized, read⟩ := ok_of_bind read
  exact (derives_of_ofTokens read).cellText
    (fun token inside kind => (referenceText_of_scan tokenized inside kind).cellText) refers

end SheetPricing.Formula
