import Mathlib.Data.List.DropRight
import SheetPricing.Proofs.Formula.Cutting
import SheetPricing.Proofs.Formula.Escape
import SheetPricing.Proofs.Formula.Failing
import SheetPricing.Proofs.Formula.Writing

/-! Formulas with other blanks. Around a formula and between its tokens blanks do not count. By the
colon of a range spaces do not count either, but blanks of another kind stay in the corners. -/
namespace SheetPricing.Formula
open Text (isBlank isPlainLetter capitals foreignCapitals trim)
open Text.Lexeme

/-- The same formula with other blanks: around it, between its tokens, and of a class of blanks by the
colons of its ranges. -/
inductive Spaced (free : Char → Bool) (formula : String) : String → Prop
  | intro {front inner back} (blank : ∀ c ∈ (front ++ back).toList, isBlank c = true)
      (respaced : Respaced free (trim formula).toList (trim inner).toList) :
      Spaced free formula (front ++ inner ++ back)

/-- A text without its blanks. -/
def withoutBlanks (s : String) : String := String.ofList (s.toList.filter (!isBlank ·))

/-- A range without blanks in its corners. -/
def Range.tidy (range : Range) : Range := ⟨withoutBlanks range.first, withoutBlanks range.last⟩

section
variable {free : Char → Bool} {cs ds rest more : List Char} {c d : Char} {f g : String}

theorem isBlank_of_mem_capitals (inside : d ∈ capitals c) : isBlank d = isBlank c := by
  have foreign : ∀ entry ∈ foreignCapitals,
      (entry.2.toList.all fun d => isBlank d == isBlank (Char.ofNat entry.1)) = true := by decide
  rw [capitals] at inside
  split at inside
  · next small =>
    have letter : isPlainLetter c = true := by simp [isPlainLetter, small]
    rw [List.mem_singleton.mp inside]
    exact of_plain (P := fun c => isPlainLetter c = true → isBlank c.toUpper = isBlank c) (by decide)
      (.inl letter) letter
  · split at inside
    · next letters found =>
      obtain ⟨before, behind, entries, _⟩ := List.lookup_eq_some_iff.mp found
      have same := foreign (c.toNat, letters) (by simp [entries])
      rw [Char.ofNat_toNat] at same
      exact eq_of_beq (List.all_eq_true.mp same d inside)
    · rw [List.mem_singleton.mp inside]

theorem filter_capitals (cs : List Char) : (cs.flatMap capitals).filter (!isBlank ·)
    = (cs.filter (!isBlank ·)).flatMap capitals := by
  induction cs with
  | nil => rfl
  | cons c rest ih =>
    rw [List.flatMap_cons, List.filter_append, ih]
    cases blank : isBlank c with
    | true =>
      have none : (capitals c).filter (!isBlank ·) = [] :=
        List.filter_eq_nil_iff.mpr fun d inside => by simp [isBlank_of_mem_capitals inside, blank]
      rw [none, List.nil_append, List.filter_cons_of_neg (by simp [blank])]
    | false =>
      have all : (capitals c).filter (!isBlank ·) = capitals c :=
        List.filter_eq_self.mpr fun d inside => by simp [isBlank_of_mem_capitals inside, blank]
      rw [all, List.filter_cons_of_pos (by simp [blank]), List.flatMap_cons]

theorem withoutBlanks_cleanAddress (cs : List Char) :
    withoutBlanks (cleanAddress (cs.filter (!isBlank ·))) = withoutBlanks (cleanAddress cs) := by
  have clean (cs : List Char) : withoutBlanks (cleanAddress cs)
      = cleanAddress (cs.filter (!isBlank ·)) := by
    rw [withoutBlanks, cleanAddress, Text.capitalize, String.toList_ofList, String.toList_ofList,
      filter_capitals, cleanAddress, Text.capitalize, String.toList_ofList, List.filter_filter,
      List.filter_filter]
    simp only [Bool.and_comm]
  rw [clean, clean, List.filter_filter]
  simp only [Bool.and_self]

/-- Spaces in an address do not count. -/
theorem cleanAddress_filter (cs : List Char) :
    cleanAddress (cs.filter fun c => !(c == ' ')) = cleanAddress cs := by
  rw [cleanAddress, List.filter_filter, cleanAddress]
  simp only [bne, Bool.and_assoc, Bool.and_self]

theorem WrittenRange.cleanRange (written : WrittenRange) :
    cleanRange (String.ofList written.text) = ⟨cleanAddress (written.first ++ written.before),
      cleanAddress (written.behind ++ written.last)⟩ := by
  rw [WrittenRange.text, ← List.append_assoc]
  refine cleanRange_of_apart (List.forall_mem_append.mpr ⟨fun c inside => ?_, fun c inside => ?_⟩)
  · exact (written.start.apart c inside).2.2.1
  · rintro rfl
    exact absurd (written.blank _ (List.mem_append_left _ inside)) (by decide)

/-- Where the blanks of a class are passed over, the corners of a respaced range look alike. -/
theorem WrittenRange.Respaces.look {α : Type} {written twin : WrittenRange}
    (respaces : written.Respaces free twin) (look : List Char → α)
    (passes : ∀ cs, look (cs.filter (!free ·)) = look cs) :
    look (written.first ++ written.before) = look (twin.first ++ twin.before) ∧
      look (written.behind ++ written.last) = look (twin.behind ++ twin.last) := by
  constructor
  · rw [← passes, ← passes (twin.first ++ twin.before), List.filter_append, List.filter_append,
      respaces.first, respaces.before]
  · rw [← passes, ← passes (twin.behind ++ twin.last), List.filter_append, List.filter_append,
      respaces.last, respaces.behind]

theorem ceases_trim (s : String) : Ceases isBlank (trim s).toList := by
  intro c first
  have front := List.head?_dropWhile_not isBlank s.toList
  obtain ⟨behind, split⟩ := List.rdropWhile_prefix isBlank (s.toList.dropWhile isBlank)
  rw [trim, String.toList_ofList] at first
  rw [← split, List.head?_append, show (List.rdropWhile isBlank _).head? = some c from first] at front
  simpa using front

theorem spaced_around {front back : String} (blank : ∀ c ∈ (front ++ back).toList, isBlank c = true) :
    Spaced free f (front ++ f ++ back) := .intro blank (.refl _)

theorem Spaced.respaced (spaced : Spaced free f g) : Respaced free (trim f).toList (trim g).toList := by
  obtain ⟨blank, respaced⟩ := spaced
  next front inner back =>
  rw [String.toList_append] at blank
  rwa [show trim (front ++ inner ++ back) = trim inner by
    rw [trim, String.toList_append, String.toList_append, trimList_append blank, trim]]

theorem Widens.of_solid {gap other : List Char} (blanks : Widens gap other) (solid : isBlank c = false)
    (same : gap ++ cs = c :: rest) (sameToo : other ++ ds = c :: more) : gap = [] ∧ other = [] := by
  have near {gap cs rest : List Char} (blank : ∀ c ∈ gap, isBlank c = true)
      (same : gap ++ cs = c :: rest) : gap = [] := by
    cases gap with
    | nil => rfl
    | cons d others =>
      obtain ⟨rfl, -⟩ := List.cons.inj same
      exact absurd (blank d List.mem_cons_self) (Bool.eq_false_iff.mp solid)
  exact ⟨near blanks.blank same, near blanks.blankToo sameToo⟩

theorem Respaced.of_equals (respaced : Respaced free cs ds) (same : cs = '=' :: rest)
    (sameToo : ds = '=' :: more) : Respaced free rest more := by
  have sign (cs : List Char) : next? ('=' :: cs) = some (some .operator, ['='], cs) := rfl
  cases respaced with
  | stop blanks ends =>
    obtain ⟨rfl, rfl⟩ := blanks.of_solid (by decide) same sameToo
    rw [List.nil_append] at same
    rw [same, sign] at ends
    cases ends
  | token blanks plain found behind =>
    obtain ⟨rfl, rfl⟩ := blanks.of_solid (by decide) same sameToo
    rw [List.nil_append] at same sameToo
    rw [same, sign] at found
    cases found
    cases sameToo
    exact behind
  | @range _ _ _ _ written twin blanks range ends behind =>
    obtain ⟨rfl, rfl⟩ := blanks.of_solid (by decide) same sameToo
    obtain ⟨c, d, front, first, _⟩ := written.start.exists_cons_cons
    obtain ⟨_, _, _, other, _⟩ := written.start.apart c (first ▸ List.mem_cons_self)
    rw [List.nil_append, WrittenRange.text, first] at same
    exact absurd (List.cons.inj same).1 other

theorem Spaced.body (spaced : Spaced free f g) : Respaced free (body f).toList (body g).toList := by
  have respaced := spaced.respaced
  -- No blank stands first in a trimmed text, so both have the equals sign or neither has it.
  have heads : (trim g).toList.head? = (trim f).toList.head? := by
    have heads := respaced.head
    rwa [dropWhile_of_ceases (ceases_trim f), dropWhile_of_ceases (ceases_trim g)] at heads
  unfold Formula.body
  generalize (trim f).toList = cs at respaced heads ⊢
  generalize (trim g).toList = ds at respaced heads ⊢
  split
  · next rest =>
    obtain ⟨more, rfl⟩ := List.head?_eq_some_iff.mp heads
    rw [String.toList_ofList]
    change Respaced free rest (String.ofList more).toList
    rw [String.toList_ofList]
    exact respaced.of_equals rfl rfl
  · next plain =>
    split
    · next more =>
      obtain ⟨rest, rfl⟩ := List.head?_eq_some_iff.mp heads.symm
      exact absurd rfl (plain rest)
    · rwa [String.toList_ofList, String.toList_ofList]

theorem Spaced.agree {change : Range → Range}
    (ranges : ∀ written twin : WrittenRange, written.Respaces free twin →
      change (Formula.cleanRange (String.ofList written.text))
        = change (Formula.cleanRange (String.ofList twin.text)))
    (spaced : Spaced free f g) (limit : Nat) :
    Agree (fun e twin => e.mapRanges change = twin.mapRanges change) (Expr.read limit f)
      (Expr.read limit g) := by
  rcases spaced.body.agree_scan ranges 0 0 with agree | ⟨broken, brokenToo⟩
  · exact agree.bind fun _ _ same => agree_ofTokens limit same
  · obtain ⟨reason, failed⟩ := broken.exists_error limit 0
    obtain ⟨reasonToo, failedToo⟩ := brokenToo.exists_error limit 0
    rw [Expr.read, Expr.read, tokenize, tokenize, failed, failedToo]
    exact .error reason reasonToo

end

/-- That two outcomes are alike: the same value, or failures that are the same fault or no faults. -/
inductive OutcomesAlike : Except Failure Binary64 → Except Failure Binary64 → Prop
  | value (value) : OutcomesAlike (.ok value) (.ok value)
  | failure {failure other} (fault : ∀ cause, failure = .fault cause ↔ other = .fault cause) :
      OutcomesAlike (.error failure) (.error other)

/-- That two formulas are evaluated alike, with the same cells read on the way; the messages that are
collected may differ. -/
structure EvaluatedAlike (sheet : Worksheet) (f g : String) : Prop where
  outcome : ∀ limit trace, OutcomesAlike ((evaluateFormula sheet limit f).on trace).1
    ((evaluateFormula sheet limit g).on trace).1
  trace : ∀ limit trace, ((evaluateFormula sheet limit f).on trace).2
    = ((evaluateFormula sheet limit g).on trace).2
  value : ∀ collected, ((evaluateCollecting sheet f).on collected).1
    = ((evaluateCollecting sheet g).on collected).1
  references : ∀ collected, ((evaluateCollecting sheet f).on collected).2.references
    = ((evaluateCollecting sheet g).on collected).2.references
  errors : ∀ collected, ((evaluateCollecting sheet f).on collected).2.errors.length
    = ((evaluateCollecting sheet g).on collected).2.errors.length

section
variable {sheet : Worksheet} {limit : Nat} {f g : String}

theorem Agree.on_evaluateFormula (agree : Agree Eq (Expr.read limit f) (Expr.read limit g))
    (sheet : Worksheet) (trace : Trace) :
    OutcomesAlike ((evaluateFormula sheet limit f).on trace).1
        ((evaluateFormula sheet limit g).on trace).1 ∧
      ((evaluateFormula sheet limit f).on trace).2 = ((evaluateFormula sheet limit g).on trace).2 := by
  generalize read : Expr.read limit f = here at agree
  generalize readToo : Expr.read limit g = there at agree
  cases agree with
  | error reason other =>
    have fails {formula : String} {reason : Malformation}
        (read : Expr.read limit formula = .error reason) : readWithin limit formula
          = .error (.ofMalformation (body formula) reason) := by rw [readWithin, read]; rfl
    rw [on_evaluateFormula_of_error (fails read), on_evaluateFormula_of_error (fails readToo)]
    refine ⟨.failure fun cause => ?_, rfl⟩
    exact iff_of_false (ofMalformation_ne_fault _ _) (ofMalformation_ne_fault _ _)
  | @ok tree twin same =>
    subst same
    have reads {formula : String} (read : Expr.read limit formula = .ok tree) :
        readWithin limit formula = .ok tree := by rw [readWithin, read]; rfl
    rw [Formula.on_evaluateFormula (reads read), Formula.on_evaluateFormula (reads readToo)]
    rcases (evaluate sheet limit limit [] tree).on trace with ⟨failure | value, after⟩
    · exact ⟨.failure fun _ => Iff.rfl, rfl⟩
    · refine ⟨?_, rfl⟩
      dsimp only
      rw [requireFinite, requireFinite]
      split
      · exact .value value
      · exact .failure fun cause => iff_of_false (by simp) (by simp)

theorem EvaluatedAlike.of_agree (agree : ∀ limit, Agree Eq (Expr.read limit f) (Expr.read limit g)) :
    EvaluatedAlike sheet f g := by
  have collected (collected : Collected) :
      ((evaluateCollecting sheet f).on collected).1 = ((evaluateCollecting sheet g).on collected).1 ∧
      ((evaluateCollecting sheet f).on collected).2.references
        = ((evaluateCollecting sheet g).on collected).2.references ∧
      ((evaluateCollecting sheet f).on collected).2.errors.length
        = ((evaluateCollecting sheet g).on collected).2.errors.length := by
    obtain ⟨alike, same⟩ := (agree depthLimit).on_evaluateFormula sheet .empty
    rw [on_evaluateCollecting, on_evaluateCollecting, run, run, same]
    generalize ((evaluateFormula sheet depthLimit f).on .empty).1 = here at alike
    generalize ((evaluateFormula sheet depthLimit g).on .empty).1 = there at alike
    cases alike with
    | value value => exact ⟨rfl, rfl, rfl⟩
    | @failure failure other fault =>
      rw [told, told]
      rcases reported : failure.report f with cause | message
      · have there := (fault cause).mp (report_eq_error_iff.mp reported)
        rw [report_eq_error_iff.mpr there]
        exact ⟨rfl, rfl, rfl⟩
      · rcases reportedToo : other.report g with cause | messageToo
        · have here := (fault cause).mpr (report_eq_error_iff.mp reportedToo)
          rw [report_eq_error_iff.mpr here] at reported
          cases reported
        · exact ⟨rfl, rfl, by simp [Except.map]⟩
  exact ⟨fun limit trace => ((agree limit).on_evaluateFormula sheet trace).1,
    fun limit trace => ((agree limit).on_evaluateFormula sheet trace).2,
    fun before => (collected before).1, fun before => (collected before).2.1,
    fun before => (collected before).2.2⟩

end

/-- A formula with other blanks around it and between its tokens is read as the same expression but for
the blanks in the corners of its ranges, or neither is read. If only spaces are put in or left out by
the colons of ranges, the expressions are the same and both formulas are evaluated alike on every
worksheet. -/
theorem read_spaced (f g : String) :
    (Spaced isBlank f g → ∀ limit,
      Agree (fun e twin => e.mapRanges Range.tidy = twin.mapRanges Range.tidy) (Expr.read limit f)
        (Expr.read limit g)) ∧
    (Spaced (· == ' ') f g → (∀ limit, Agree Eq (Expr.read limit f) (Expr.read limit g)) ∧
      ∀ sheet, EvaluatedAlike sheet f g) := by
  refine ⟨fun spaced limit => spaced.agree (fun written twin respaces => ?_) limit, fun spaced => ?_⟩
  · obtain ⟨first, last⟩ := respaces.look (withoutBlanks <| cleanAddress ·) withoutBlanks_cleanAddress
    rw [written.cleanRange, twin.cleanRange, Range.tidy, Range.tidy, first, last]
  · have ranges (written twin : WrittenRange) (respaces : written.Respaces (· == ' ') twin) :
        id (cleanRange (String.ofList written.text)) = id (cleanRange (String.ofList twin.text)) := by
      obtain ⟨first, last⟩ := respaces.look cleanAddress cleanAddress_filter
      rw [written.cleanRange, twin.cleanRange, first, last]
    have agree (limit : Nat) : Agree Eq (Expr.read limit f) (Expr.read limit g) := by
      simpa only [Expr.mapRanges_id] using spaced.agree ranges limit
    exact ⟨agree, fun sheet => .of_agree agree⟩

/-- By the colon a tab stays in the corner. -/
example : ((Expr.read depthLimit "=SUM(A1\t:B2)").map Expr.outline).toOption
    = some "(SUM() [A1\t:B2] )" := by decide +kernel

/-- The range of two corners with blanks by its colon. -/
def cornersApart (before behind : List Char) (blank : (before ++ behind).all isBlank = true) :
    WrittenRange where
  first := ['A', '1']
  before := before
  behind := behind
  last := ['B', '2']
  start := (plainCell_of_all ['A'] ['1'] (by decide)).cellText.referenceText
  blank := List.all_eq_true.mp blank
  stop := (plainCell_of_all ['B'] ['2'] (by decide)).cellText.referenceText

theorem spaced_sum {free : Char → Bool} {before behind : List Char} {inner : String}
    (blank : (before ++ behind).all isBlank = true) (put : (before ++ behind).all free = true)
    (text : (trim inner).toList = ['=', ' ', 'S', 'U', 'M', '\n', '(']
      ++ ((cornersApart before behind blank).text ++ [' ', ')'])) :
    Spaced free "=SUM(A1:B2)" ("\t" ++ inner ++ " ") := by
  have gone {cs : List Char} (put : ∀ c ∈ cs, free c = true) : cs.filter (!free ·) = [] :=
    List.filter_eq_nil_iff.mpr fun c inside => by simp [put c inside]
  obtain ⟨putBefore, putBehind⟩ := List.forall_mem_append.mp (List.all_eq_true.mp put)
  have range : (cornersApart [] [] rfl).Respaces free (cornersApart before behind blank) :=
    ⟨rfl, rfl, gone putBefore, gone putBehind⟩
  have none : Widens [] [] := ⟨nofun, nofun, fun _ => rfl⟩
  have put (other : List Char) (blank : other.all isBlank = true) : Widens [] other :=
    ⟨nofun, List.all_eq_true.mp blank, fun _ => rfl⟩
  have closing := @Respaced.token free [] [' '] [')'] [] [] .rightParenthesis (put _ (by decide)) nofun rfl
    (.refl [])
  have inside := @Respaced.range free [] [] _ _ _ _ none range (ceases_cons (by decide)) closing
  have opening := @Respaced.token free [] ['\n'] ['('] _ _ .leftParenthesis (put _ (by decide)) nofun rfl
    inside
  have name := @Respaced.token free [] [' '] ['S', 'U', 'M'] _ _ .function (put _ (by decide)) nofun rfl
    opening
  have whole := @Respaced.token free [] [] ['='] _ _ .operator none nofun rfl name
  refine .intro (List.all_eq_true.mp (by decide)) ?_
  rw [text, show (trim "=SUM(A1:B2)").toList = "=SUM(A1:B2)".toList by decide]
  exact whole

theorem read_spaced_of_sum :
    Spaced isBlank "=SUM(A1:B2)" ("\t" ++ "= SUM\n(A1\t:B2 )" ++ " ") ∧
    (∀ limit, Agree (fun e twin => e.mapRanges Range.tidy = twin.mapRanges Range.tidy)
      (Expr.read limit "=SUM(A1:B2)") (Expr.read limit ("\t" ++ "= SUM\n(A1\t:B2 )" ++ " "))) ∧
    Spaced (· == ' ') "=SUM(A1:B2)" ("\t" ++ "= SUM\n(A1 : B2 )" ++ " ") ∧
    (∀ limit, Agree Eq (Expr.read limit "=SUM(A1:B2)")
      (Expr.read limit ("\t" ++ "= SUM\n(A1 : B2 )" ++ " "))) ∧
    ∀ sheet, EvaluatedAlike sheet "=SUM(A1:B2)" ("\t" ++ "= SUM\n(A1 : B2 )" ++ " ") := by
  have tabbed := @spaced_sum isBlank ['\t'] [] "= SUM\n(A1\t:B2 )" (by decide) (by decide) (by decide)
  have spaced := @spaced_sum (· == ' ') [' '] [' '] "= SUM\n(A1 : B2 )" (by decide) (by decide)
    (by decide)
  exact ⟨tabbed, (read_spaced _ _).1 tabbed, spaced, (read_spaced _ _).2 spaced⟩

end SheetPricing.Formula
