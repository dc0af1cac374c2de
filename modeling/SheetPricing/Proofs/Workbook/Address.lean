import Mathlib.Data.List.Basic
import SheetPricing.Proofs.Formula.Spelling

/-! The form of an address, and the two checks of it. Normalizing gives texts of that form only, and
leaves exactly these as they are; the check for being an address also accepts them with one line
break behind. -/
namespace SheetPricing.Address
open Text

/-- The form of an address: letters from `A` to `Z` and then digits from `0` to `9`, at least one of
each. -/
def HasForm (s : String) : Prop :=
  ∃ letters digits : List Char, letters ≠ [] ∧ digits ≠ [] ∧ (∀ c ∈ letters, 'A' ≤ c ∧ c ≤ 'Z') ∧
    (∀ c ∈ digits, '0' ≤ c ∧ c ≤ '9') ∧ s = String.ofList (letters ++ digits)

theorem isCapital_iff {c : Char} : isCapital c = true ↔ 'A' ≤ c ∧ c ≤ 'Z' := by
  rw [isCapital, Bool.and_eq_true, decide_eq_true_iff, decide_eq_true_iff]

theorem isPlainDigit_iff {c : Char} : isPlainDigit c = true ↔ '0' ≤ c ∧ c ≤ '9' := by
  rw [isPlainDigit, Bool.and_eq_true, decide_eq_true_iff, decide_eq_true_iff]

theorem plain_of_isRow {cs : List Char} (row : isRow cs = true) :
    cs ≠ [] ∧ ∀ c ∈ cs, isPlainDigit c = true := by
  induction cs with
  | nil => cases row
  | cons c rest ih =>
    refine ⟨List.cons_ne_nil _ _, ?_⟩
    cases rest with
    | nil => exact List.forall_mem_singleton.mpr row
    | cons d more =>
      obtain ⟨here, later⟩ := Bool.and_eq_true_iff.mp row
      exact List.forall_mem_cons.mpr ⟨here, (ih later).2⟩

theorem exists_of_isPlain {cs : List Char} (plain : isPlain cs = true) :
    ∃ letters digits, letters ≠ [] ∧ digits ≠ [] ∧ (∀ c ∈ letters, isCapital c = true) ∧
      (∀ c ∈ digits, isPlainDigit c = true) ∧ cs = letters ++ digits := by
  induction cs with
  | nil => cases plain
  | cons c rest ih =>
    obtain ⟨capital, later⟩ := Bool.and_eq_true_iff.mp plain
    rcases Bool.or_eq_true_iff.mp later with row | more
    · obtain ⟨some, numbered⟩ := plain_of_isRow row
      exact ⟨[c], rest, List.cons_ne_nil _ _, some, List.forall_mem_singleton.mpr capital, numbered,
        rfl⟩
    · obtain ⟨letters, digits, _, any, capitals, numbered, rfl⟩ := ih more
      exact ⟨c :: letters, digits, List.cons_ne_nil _ _, any,
        List.forall_mem_cons.mpr ⟨capital, capitals⟩, numbered, rfl⟩

theorem hasForm_iff {s : String} : HasForm s ↔ isPlain s.toList = true := by
  constructor
  · rintro ⟨letters, digits, some, any, capital, numbered, rfl⟩
    rw [String.toList_ofList]
    exact Formula.isPlain_spelled some any (fun c inside => isCapital_iff.mpr (capital c inside))
      fun c inside => isPlainDigit_iff.mpr (numbered c inside)
  · intro plain
    obtain ⟨letters, digits, some, any, capital, numbered, text⟩ := exists_of_isPlain plain
    refine ⟨letters, digits, some, any, fun c inside => isCapital_iff.mp (capital c inside),
      fun c inside => isPlainDigit_iff.mp (numbered c inside), ?_⟩
    rw [← text, String.ofList_toList]

theorem plain_of_isPlain {cs : List Char} (plain : isPlain cs = true) :
    ∀ c ∈ cs, isCapital c = true ∨ isPlainDigit c = true := by
  obtain ⟨letters, digits, _, _, capital, numbered, rfl⟩ := exists_of_isPlain plain
  intro c inside
  exact (List.mem_append.mp inside).imp (capital c) (numbered c)

theorem capitals_spec (c : Char) : capitals c ≠ [] ∧ ('\n' ∈ capitals c → c = '\n') := by
  have foreign : ∀ entry ∈ foreignCapitals, entry.2.toList ≠ [] ∧ '\n' ∉ entry.2.toList := by
    decide
  rw [capitals]
  split
  · next small =>
    have letter : isPlainLetter c = true := by simp [isPlainLetter, small]
    have other : '\n' ≠ c.toUpper :=
      Formula.of_plain (P := fun c => isPlainLetter c = true → '\n' ≠ c.toUpper) (by decide)
        (.inl letter) letter
    exact ⟨List.cons_ne_nil _ _, fun inside => absurd (List.mem_singleton.mp inside) other⟩
  · split
    · next letters found =>
      obtain ⟨before, behind, entries, _⟩ := List.lookup_eq_some_iff.mp found
      obtain ⟨some, apart⟩ := foreign (c.toNat, letters) (by simp [entries])
      exact ⟨some, fun inside => absurd inside apart⟩
    · exact ⟨List.cons_ne_nil _ _, fun inside => (List.mem_singleton.mp inside).symm⟩

/-- Without blanks around it no text ends in a line break, in capitals neither. -/
theorem getLast?_capitalize_trim (s : String) :
    (capitalize (trim s)).toList.getLast? ≠ some '\n' := by
  have solid : ∀ c ∈ (trimList isBlank s.toList).getLast?, isBlank c = false := by
    intro c last
    rw [trimList, List.getLast?_reverse] at last
    have front := List.head?_dropWhile_not isBlank (List.dropWhile isBlank s.toList).reverse
    rw [last] at front
    simpa using front
  rw [capitalize, trim, String.toList_ofList, String.toList_ofList]
  rcases List.eq_nil_or_concat' (trimList isBlank s.toList) with none | ⟨before, c, split⟩
  · rw [none]
    exact (Option.some_ne_none _).symm
  · rw [split] at solid ⊢
    obtain ⟨some, broken⟩ := capitals_spec c
    rw [List.flatMap_append, List.flatMap_singleton, List.getLast?_append_of_ne_nil _ some]
    intro last
    have solidHere := solid c (by simp)
    rw [broken (List.mem_of_getLast? last)] at solidHere
    exact absurd solidHere (by decide)

theorem isPlain_of_isAddress {s : String} (accepted : isAddress s = true)
    (unbroken : s.toList.getLast? ≠ some '\n') : isPlain s.toList = true := by
  rcases Bool.or_eq_true_iff.mp accepted with plain | broken
  · exact plain
  · rwa [dropFinalBreak, if_neg unbroken] at broken

theorem isPlain_of_normalize {s : String} {address : Address} (ok : normalize s = .ok address) :
    isPlain address.toList = true := by
  rw [normalize] at ok
  split at ok
  · next accepted =>
    obtain rfl := Except.ok.inj ok
    exact isPlain_of_isAddress accepted (getLast?_capitalize_trim s)
  · cases ok

/-- What has the form of an address is trimmed and capitalized. -/
theorem normalize_of_isPlain {address : Address} (plain : isPlain address.toList = true) :
    normalize address = .ok address := by
  have each {P : Char → Prop} (holds : ∀ n < 128, isCapital (Char.ofNat n) = true ∨
      isPlainDigit (Char.ofNat n) = true → P (Char.ofNat n)) : ∀ c ∈ address.toList, P c := by
    intro c inside
    have here := plain_of_isPlain plain c inside
    refine Formula.of_plain (P := fun c => isCapital c = true ∨ isPlainDigit c = true → P c) holds
      (here.imp_left fun capital => ?_) here
    rw [isPlainLetter, Bool.or_eq_true]
    exact .inl capital
  have trimmed : trim address = address := by
    rw [trim, trimList_eq_self (each (by decide)), String.ofList_toList]
  have capital : capitalize address = address := by
    rw [capitalize, List.flatMap_congr (each (P := fun c => capitals c = [c]) (by decide)),
      List.flatMap_singleton', String.ofList_toList]
  have accepted : isAddress address = true := by
    rw [isAddress, plain, Bool.true_or]
  rw [normalize, trimmed, capital, if_pos accepted]

/-- The address that a text means is what it means itself. -/
theorem normalize_of_normalize {s : String} {address : Address}
    (ok : normalize s = .ok address) : normalize address = .ok address :=
  normalize_of_isPlain (isPlain_of_normalize ok)

theorem normalize_eq_self_iff {s : String} : normalize s = .ok s ↔ HasForm s :=
  ⟨fun ok => hasForm_iff.mpr (isPlain_of_normalize ok),
    fun form => normalize_of_isPlain (hasForm_iff.mp form)⟩

theorem isAddress_iff {s : String} :
    isAddress s = true ↔ HasForm s ∨ ∃ address, HasForm address ∧ s = address ++ "\n" := by
  rw [isAddress, Bool.or_eq_true, ← hasForm_iff]
  refine or_congr_right' fun formless => ?_
  constructor
  · intro plain
    rw [dropFinalBreak] at plain
    split at plain
    · next broken =>
      obtain ⟨before, text⟩ := List.getLast?_eq_some_iff.mp broken
      rw [text, List.dropLast_concat] at plain
      refine ⟨String.ofList before, hasForm_iff.mpr (by rwa [String.toList_ofList]), ?_⟩
      rw [← String.ofList_toList (s := s), text, String.ofList_append]
    · exact absurd (hasForm_iff.mpr plain) formless
  · rintro ⟨address, form, rfl⟩
    have text : (address ++ "\n").toList = address.toList ++ ['\n'] := String.toList_append
    rw [dropFinalBreak, text, if_pos List.getLast?_concat, List.dropLast_concat]
    exact hasForm_iff.mp form

/-- A text is left as it is by normalizing if and only if it has the form of an address, and what
normalizing gives is left as it is. The check for being an address accepts the same texts, as long as
they do not end in a line break: it overlooks one there. -/
theorem checks_agree_but_for_final_break (s : String) :
    (normalize s = .ok s ↔ HasForm s) ∧
      (isAddress s = true ↔ HasForm s ∨ ∃ address, HasForm address ∧ s = address ++ "\n") ∧
      (s.toList.getLast? ≠ some '\n' → (isAddress s = true ↔ normalize s = .ok s)) ∧
      ∀ address, normalize s = .ok address → normalize address = .ok address := by
  refine ⟨normalize_eq_self_iff, isAddress_iff, fun unbroken => ⟨fun accepted => ?_, fun ok => ?_⟩,
    fun address => normalize_of_normalize⟩
  · exact normalize_of_isPlain (isPlain_of_isAddress accepted unbroken)
  · exact isAddress_iff.mpr (.inl (normalize_eq_self_iff.mp ok))

example : isAddress "A1\n" = true ∧ normalize "A1\n" = .ok "A1" := by decide +kernel

end SheetPricing.Address
