import SheetPricing.Proofs.Binary64.Total
import SheetPricing.Proofs.Formula.Extremes
import SheetPricing.Proofs.Formula.Gathering

/-! Ranges of one cell. An aggregate of a range from a cell to itself reads the cell by the address that
the range lists, whatever way the corners are written; a reference reads it by the address as it is
written. The two are one address where the row is written in plain digits without leading zeros. -/
namespace SheetPricing.Formula
open Address (IsShort rowDigits)
open Binary64 (equals_of_rank)

/-- The call of an aggregate with the range from a cell to itself. -/
def overItself (function : Function) (text : String) : String :=
  function.name ++ "(" ++ (text ++ ":" ++ text) ++ ")"

section
variable {function : Function} {text : String}

theorem Function.Aggregates.plainName (aggregates : function.Aggregates) :
    PlainName function.name.toList := by
  rcases aggregates with rfl | rfl | rfl <;>
    exact .intro (.inl (by decide)) (List.all_eq_true.mp (by decide))

theorem Function.Aggregates.named? (aggregates : function.Aggregates) :
    Function.named? function.name = some function := by
  rcases aggregates with rfl | rfl | rfl <;> rfl

theorem tokenize_overItself (aggregates : function.Aggregates) (spelled : ReferenceText text.toList) :
    ∃ tokens, tokens.length = 4 ∧
      Derives .comparison tokens (.call function.name
        [.range ⟨cleanAddress text.toList, cleanAddress text.toList⟩]) ∧
      tokenize (body ("=" ++ overItself function text)) = .ok tokens := by
  have named := aggregates.plainName
  have written : (overItself function text).toList = function.name.toList ++
      ('(' :: (text.toList ++ ':' :: text.toList ++ [')'])) := by
    simp [overItself, String.toList_append]
  have scans := scans_range spelled spelled
  have solid : ∀ c ∈ (overItself function text).toList, Text.isBlank c = false := by
    rw [written]
    exact List.forall_mem_append.mpr ⟨named.solid, solid_enclosed scans.solid⟩
  have starts := named.starts ('(' :: (text.toList ++ ':' :: text.toList ++ [')']))
  rw [← written] at starts
  have ends : Ends ([')'] ++ []) := ends_cons (by decide) []
  obtain ⟨name, kind, spelledName, first⟩ := exists_token function.name.toList
    (named.next? (text.toList ++ ':' :: text.toList ++ [')'] ++ [])) 0
  obtain ⟨opening, opens, _, second⟩ := exists_token ['(']
    (next?_leftParenthesis (text.toList ++ ':' :: text.toList ++ [')'] ++ [])) (0 + function.name.toList.length)
  obtain ⟨corners, range, spelledRange, third⟩ := exists_token (text.toList ++ ':' :: text.toList)
    (spelled.next?_range spelled ends) (0 + function.name.toList.length + 1)
  obtain ⟨closing, closes, _, last⟩ := exists_token [')'] (next?_rightParenthesis []) _
  have argument := Derives.range range
  rw [spelledRange, cleanRange_corners spelled] at argument
  have derived : Derives .primary (name :: opening :: ([corners] ++ [closing])) _ :=
    .call [([corners], _)] kind opens (List.forall_mem_singleton.mpr argument.comparison)
      (.one [corners]) closes
  rw [spelledName, String.ofList_toList, named.capitalize] at derived
  have yields := Yields.append first (Yields.append second (Yields.append third last))
  refine ⟨_, rfl, derived.comparison, ?_⟩
  rw [(body_of_solid starts solid).2]
  apply tokenize_of_yields
  rw [written]
  exact yields

theorem readWithin_overItself (aggregates : function.Aggregates) (spelled : ReferenceText text.toList)
    {limit : Nat} (enough : 4 < limit) :
    readWithin limit ("=" ++ overItself function text) = .ok (.call function.name
      [.range ⟨cleanAddress text.toList, cleanAddress text.toList⟩]) := by
  obtain ⟨tokens, four, derived, tokenized⟩ := tokenize_overItself aggregates spelled
  rw [readWithin, Expr.read, tokenized]
  simp only [Except.bind, ofTokens_of_derives derived (four ▸ enough)]
  rfl

end

theorem Range.cells_self (corner : Corner) : Range.cells corner corner = [corner] := by
  have one (n : Nat) : Range.span n n = [n] := by
    rw [Range.span, Nat.add_sub_cancel_left, List.range'_one]
  rw [Range.cells_eq_flatMap, one, one]
  rfl

section
variable {sheet : Worksheet} {corner : Corner} {named address : Address}

theorem members_oneCell (written : corner.WrittenAs named) :
    members sheet ⟨named, named⟩ = .ok ([corner.address].filter (counts sheet)) := by
  have spanned : (⟨named, named⟩ : Range).addresses = .ok [corner.address] := by
    rw [Range.addresses_of_inOrder written written ⟨Nat.le_refl _, Nat.le_refl _⟩, if_neg,
      Range.cells_self]
    · rfl
    · rw [Range.size, Nat.add_sub_cancel_left, Nat.add_sub_cancel_left]
      decide
  rw [members, spanned]

theorem collectOn_oneCell (written : corner.WrittenAs named) (limit depth : Nat) (path : List Address) :
    collectOn sheet limit depth path [.range ⟨named, named⟩] =
      if counts sheet corner.address then do
        let value ← resolve sheet (readWithin limit) (evaluate sheet limit depth) path corner.address
        return [value]
      else pure [] := by
  rw [collectOn, collect, members_oneCell written, List.filter_cons]
  cases counts sheet corner.address with
  | true =>
    simp only [if_true, List.filter_nil, orThrow, pure_bind, List.mapM_cons, List.mapM_nil, collect,
      bind_assoc, List.append_nil]
  | false => simp only [List.filter_nil, orThrow, pure_bind, collect, List.append_nil]; rfl

/-- A cell that does not count in a range is zero where it is referred to. -/
theorem cellValue_of_not_counts {m : Type → Type} [Monad m] [MonadExceptOf Failure m]
    (passed : counts sheet address = false) (read : String → Except Failure Expr)
    (evaluate : Expr → m Binary64) : cellValue sheet read evaluate address = pure 0 := by
  unfold counts at passed
  unfold cellValue plainValue Worksheet.numeric?
  cases holds : sheet.cell? address with
  | none => rfl
  | some cell =>
    rw [holds] at passed
    cases cell with
    | number value => cases passed
    | formula text cached => cases passed
    | other raw =>
      have none : raw.numeral? = none := by simpa using passed
      simp [Cell.numeric?, none]

variable {read : String → Except Failure Expr} {evaluateOn : List Address → Expr → EvalM Binary64}
  {trace after : Trace} {value : Binary64}

theorem eq_zero_of_not_counts (settled : Settled sheet trace) (passed : counts sheet address = false)
    (ok : (resolve sheet read evaluateOn [] address).on trace = (.ok value, after)) : value = 0 := by
  rcases resolve_cases ok with ⟨held, _⟩ | ⟨_, _, middle, worked, _⟩
  · have afresh := settled address value held [] nofun
    rw [resolveAfresh, if_neg List.not_mem_nil, cellValue_of_not_counts passed] at afresh
    exact (Except.ok.inj afresh).symm
  · rw [cellValue_of_not_counts passed] at worked
    exact (Except.ok.inj (congrArg Prod.fst worked)).symm

end

theorem equals_self {value : Binary64} (finite : value.isFinite = true) : value.equals value = true :=
  equals_of_rank (by rintro rfl; cases finite) (by rintro rfl; cases finite) rfl

section
variable {function : Function} (aggregates : function.Aggregates)
include aggregates

theorem aggregate_nil : function.aggregate [] = .ok 0 := by
  rcases aggregates with rfl | rfl | rfl
  · decide +kernel
  · rfl
  · rfl

theorem exists_aggregate_singleton {value : Binary64} (finite : value.isFinite = true) :
    ∃ result, function.aggregate [value] = .ok result ∧ result.isFinite = true ∧
      result.equals value = true := by
  rcases aggregates with rfl | rfl | rfl
  · cases value with
    | nan => cases finite
    | infinity => cases finite
    | finite negative units fits =>
      rw [Function.aggregate, Binary64.sum_singleton fits]
      rcases Nat.eq_zero_or_pos units with rfl | positive
      · rw [if_pos rfl]
        refine ⟨_, rfl, rfl, ?_⟩
        cases negative <;> rfl
      · rw [if_neg positive.ne']
        exact ⟨_, rfl, rfl, equals_self rfl⟩
  · exact ⟨value, rfl, finite, equals_self finite⟩
  · exact ⟨value, rfl, finite, equals_self finite⟩

section
variable {sheet : Worksheet} {text : String} {limit : Nat} {trace : Trace}
  (spelled : ReferenceText text.toList) (enough : 4 < limit)
include spelled enough

/-- What an aggregate over one cell gives in terms of what its range gives. -/
theorem on_evaluateFormula_overItself {depth : Nat} (deep : limit = depth + 1) :
    ((evaluateFormula sheet limit ("=" ++ overItself function text)).on trace).1 =
      ((collectOn sheet limit depth [] [.range ⟨cleanAddress text.toList, cleanAddress text.toList⟩]).on
        trace).1 >>= fun values => function.aggregate values >>=
          requireFinite ("=" ++ overItself function text) := by
  rw [on_evaluateFormula (readWithin_overItself aggregates spelled enough)]
  subst deep
  rw [on_evaluate_aggregate aggregates.named? aggregates]
  rcases Action.on _ trace with ⟨_ | values, after⟩
  · rfl
  · dsimp only
    rw [ok_bind]
    cases function.aggregate values <;> rfl

theorem overItself_of_long
    (long : maxRowDigits < (rowDigits (cleanAddress text.toList)).length) :
    ((evaluateFormula sheet limit ("=" ++ overItself function text)).on trace).1
      = .error (.ofRange ⟨cleanAddress text.toList, cleanAddress text.toList⟩ .invalid) := by
  obtain ⟨depth, rfl⟩ : ∃ depth, limit = depth + 1 := ⟨limit - 1, by omega⟩
  have invalid : (⟨cleanAddress text.toList, cleanAddress text.toList⟩ : Range).addresses
      = .error .invalid := Range.addresses_eq_invalid (.inl long)
  rw [on_evaluateFormula_overItself aggregates spelled enough rfl, collectOn, collect, members, invalid]
  rfl

/-- A reference that is read as the address which the range lists has the value of the aggregate. -/
theorem overItself_of_reference (settled : Settled sheet trace) {corner : Corner}
    (written : corner.WrittenAs (cleanAddress text.toList)) {formula : String}
    (read : readWithin limit formula = .ok (.reference corner.address)) {value : Binary64}
    (ok : ((evaluateFormula sheet limit formula).on trace).1 = .ok value) :
    ∃ result, ((evaluateFormula sheet limit ("=" ++ overItself function text)).on trace).1 = .ok result ∧
      result.equals value = true := by
  obtain ⟨depth, rfl⟩ : ∃ depth, limit = depth + 1 := ⟨limit - 1, by omega⟩
  rw [on_evaluateFormula read, evaluate_reference] at ok
  rw [on_evaluateFormula_overItself aggregates spelled enough rfl, collectOn_oneCell written]
  rcases resolved : (resolve sheet (readWithin (depth + 1)) (evaluate sheet (depth + 1) depth) []
    corner.address).on trace with ⟨failure | found, after⟩
  · rw [resolved] at ok
    cases ok
  rw [resolved] at ok
  have finite : found.isFinite = true ∧ found = value := by
    dsimp only [requireFinite] at ok
    split at ok
    · next finite => exact ⟨finite, Except.ok.inj ok⟩
    · cases ok
  obtain ⟨finite, rfl⟩ := finite
  cases counted : counts sheet corner.address with
  | true =>
    obtain ⟨result, aggregated, inRange, same⟩ := exists_aggregate_singleton aggregates finite
    refine ⟨result, ?_, same⟩
    simp only [if_true, Action.on_bind, resolved, Action.on_pure, ok_bind, aggregated]
    rw [requireFinite, if_pos inRange]
  | false =>
    refine ⟨0, ?_, ?_⟩
    · simp only [Bool.false_eq_true, if_false, Action.on_pure, ok_bind, aggregate_nil aggregates]
      exact if_pos (by decide +kernel)
    · rw [eq_zero_of_not_counts settled counted resolved]
      decide +kernel

end
end

/-- An aggregate of the range from a cell to itself, the cell written in any way that is read as a
reference. It is invalid where the row has too many digits. Otherwise it has the value of the cell, if
the cell has one, by the address that the range lists; this is the address that the reference means if
and only if the row is written in plain digits without leading zeros. -/
theorem overItself_eq_reference {sheet : Worksheet} {trace : Trace} (settled : Settled sheet trace)
    {text : String} {token : Token} (accepted : tokenize text = .ok [token])
    (kind : token.kind = .reference) (whole : token.text = text) {function : Function}
    (aggregates : function.Aggregates) {limit : Nat} (enough : 4 < limit) :
    ∃ corner : Corner, corner.Names (cleanAddress text.toList) ∧
      (corner.address = cleanAddress text.toList ↔ IsShort (cleanAddress text.toList)) ∧
      (maxRowDigits < (rowDigits (cleanAddress text.toList)).length →
        ((evaluateFormula sheet limit ("=" ++ overItself function text)).on trace).1
          = .error (.invalidRange ⟨cleanAddress text.toList, cleanAddress text.toList⟩)) ∧
      ((rowDigits (cleanAddress text.toList)).length ≤ maxRowDigits →
        (∀ value, ((evaluateFormula sheet limit ("=" ++ corner.address)).on trace).1 = .ok value →
          ∃ result, ((evaluateFormula sheet limit ("=" ++ overItself function text)).on trace).1
            = .ok result ∧ result.equals value = true) ∧
        (IsShort (cleanAddress text.toList) →
          ∀ value, ((evaluateFormula sheet limit ("=" ++ text)).on trace).1 = .ok value →
          ∃ result, ((evaluateFormula sheet limit ("=" ++ overItself function text)).on trace).1
            = .ok result ∧ result.equals value = true)) := by
  have spelled : ReferenceText text.toList :=
    whole ▸ referenceText_of_scan accepted List.mem_cons_self kind
  obtain ⟨corner, names⟩ := exists_names spelled.cellText
  have short : corner.address = cleanAddress text.toList ↔ IsShort (cleanAddress text.toList) := by
    rw [eq_comm, Corner.eq_address_iff]
    exact and_iff_right names
  refine ⟨corner, names, short, overItself_of_long aggregates spelled enough, fun few => ?_⟩
  have written : corner.WrittenAs (cleanAddress text.toList) := ⟨spelled.cellText, few, names⟩
  have columns := column_of_ofAddress? written.read
  have cell : CellText corner.address.toList := cellText_address columns.1 columns.2
  constructor
  · intro value ok
    have read : readWithin limit ("=" ++ corner.address) = .ok (.reference corner.address) :=
      readWithin_cell cell (by omega)
    exact overItself_of_reference aggregates spelled enough settled written read ok
  · intro plain value ok
    have read : readWithin limit ("=" ++ text) = .ok (.reference corner.address) := by
      rw [readWithin_reference spelled (by omega), short.mpr plain]
    exact overItself_of_reference aggregates spelled enough settled written read ok

/-- A worksheet with one number. -/
def oneNumber : Worksheet := (⟨"", .empty⟩ : Worksheet).put "A1" (.number 5)

theorem overItself_eq_reference_of_oneNumber :
    ∃ result, ((evaluateFormula oneNumber depthLimit ("=" ++ overItself .sum "$a$1")).on .empty).1
      = .ok result ∧ result.equals 5 = true := by
  have accepted : tokenize "$a$1" = .ok [⟨.reference, "$a$1", 0, trivial⟩] := by decide +kernel
  obtain ⟨corner, names, short, _, same⟩ := overItself_eq_reference (settled_empty oneNumber) accepted
    rfl rfl (.inl rfl) (show 4 < depthLimit by decide)
  have plain : IsShort (cleanAddress "$a$1".toList) := ⟨1, by decide +kernel⟩
  exact (same (by decide +kernel)).2 plain 5 (by decide +kernel)

end SheetPricing.Formula
