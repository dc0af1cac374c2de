import Mathlib.Algebra.GroupWithZero.Nat
import Mathlib.Algebra.Order.BigOperators.Group.List
import Mathlib.Algebra.Order.Group.Nat
import Mathlib.Data.List.Induction
import SheetPricing.Storage.Path

/-! Texts of paths and steps back. A relative path of plain names is read back from its text; a path
without its steps back has none left and is no longer than before. -/
namespace SheetPricing.Text

theorem splitList_of_notMem {separator : Char} {cs : List Char} (absent : separator ∉ cs) :
    splitList separator cs = [cs] := by
  induction cs with
  | nil => rfl
  | cons c rest ih =>
    obtain ⟨other, absent⟩ := not_or.mp (List.mem_cons.not.mp absent)
    have plain : (c == separator) = false := beq_eq_false_iff_ne.mpr (Ne.symm other)
    rw [splitList, plain, ih absent]
    rfl

theorem splitList_append {separator : Char} {cs : List Char} (absent : separator ∉ cs)
    (rest : List Char) :
    splitList separator (cs ++ separator :: rest) = cs :: splitList separator rest := by
  induction cs with
  | nil => simp [splitList]
  | cons c more ih =>
    obtain ⟨other, absent⟩ := not_or.mp (List.mem_cons.not.mp absent)
    have plain : (c == separator) = false := beq_eq_false_iff_ne.mpr (Ne.symm other)
    rw [List.cons_append, splitList, plain, ih absent]
    rfl

/-- Parts without the separator are read back from the text that they are joined to. -/
theorem split_intercalate {parts : List String} (some : parts ≠ [])
    (plain : ∀ part ∈ parts, '/' ∉ part.toList) : split '/' ("/".intercalate parts) = parts := by
  induction parts with
  | nil => exact absurd rfl some
  | cons part rest ih =>
    have here := plain part List.mem_cons_self
    cases rest with
    | nil =>
      rw [split, String.intercalate_singleton, splitList_of_notMem here]
      simp
    | cons next others =>
      have later := ih (List.cons_ne_nil _ _) fun other inside =>
        plain other (List.mem_cons_of_mem _ inside)
      have text : ("/".intercalate (part :: next :: others)).toList
          = part.toList ++ '/' :: ("/".intercalate (next :: others)).toList := by
        rw [String.intercalate_cons_cons, String.toList_append, String.toList_append]
        simp
      rw [split, text, splitList_append here, List.map_cons, String.ofList_toList]
      exact congrArg (part :: ·) later

theorem mem_of_mem_intercalate {c : Char} {parts : List String}
    (inside : c ∈ ("/".intercalate parts).toList) : c = '/' ∨ ∃ part ∈ parts, c ∈ part.toList := by
  induction parts with
  | nil => simp at inside
  | cons part rest ih =>
    cases rest with
    | nil =>
      rw [String.intercalate_singleton] at inside
      exact .inr ⟨part, List.mem_cons_self, inside⟩
    | cons next others =>
      simp only [String.intercalate_cons_cons, String.toList_append, List.mem_append] at inside
      rcases inside with (here | slash) | later
      · exact .inr ⟨part, List.mem_cons_self, here⟩
      · exact .inl (by simpa using slash)
      · exact (ih later).imp_right fun ⟨other, member, held⟩ =>
          ⟨other, List.mem_cons_of_mem _ member, held⟩

end SheetPricing.Text

namespace SheetPricing.Storage.Path

/-- A name as it is read from a text: not empty, not a single point, without a slash. -/
def IsName (name : String) : Prop := name ≠ "" ∧ name ≠ "." ∧ '/' ∉ name.toList

theorem anchorOf_of_notMem {cs : List Char} (absent : '/' ∉ cs) (rest : List Char) :
    cs ≠ [] → anchorOf (cs ++ rest) = "" := by
  intro some
  cases cs with
  | nil => exact absurd rfl some
  | cons c more =>
    have other : c ≠ '/' := fun same => absent (same ▸ List.mem_cons_self)
    rw [List.cons_append]
    unfold anchorOf
    split <;> simp_all

theorem text_relative {names : List String} (some : names ≠ []) :
    text ⟨"", names⟩ = "/".intercalate names := by
  cases names with
  | nil => exact absurd rfl some
  | cons name rest => simp [text]

/-- A relative path of names is read back from its text. -/
theorem ofText_text {names : List String} (some : names ≠ [])
    (plain : ∀ name ∈ names, IsName name) :
    ofText (text ⟨"", names⟩) = ⟨"", names⟩ := by
  have anchor : anchorOf ("/".intercalate names).toList = "" := by
    cases names with
    | nil => exact absurd rfl some
    | cons name rest =>
      obtain ⟨nonempty, _, slashless⟩ := plain name List.mem_cons_self
      have filled : name.toList ≠ [] := by simpa using nonempty
      cases rest with
      | nil =>
        rw [String.intercalate_singleton]
        simpa using anchorOf_of_notMem slashless [] filled
      | cons next others =>
        rw [String.intercalate_cons_cons, String.append_assoc, String.toList_append]
        exact anchorOf_of_notMem slashless _ filled
  have parts := Text.split_intercalate some fun name inside => (plain name inside).2.2
  rw [text_relative some, ofText, anchor, parts]
  congr 1
  rw [List.filter_eq_self]
  intro name inside
  obtain ⟨nonempty, notPoint, _⟩ := plain name inside
  simp [nonempty, notPoint]

theorem append_eq {other : Path} (relative : other.anchor = "") (path : Path) :
    path ++ other = ⟨path.anchor, path.names ++ other.names⟩ := by
  change append path other = _
  rw [append, relative]
  rfl

theorem isBelow_append (anchor : String) (names : List String) {more : List String}
    (further : more ≠ []) : isBelow ⟨anchor, names ++ more⟩ ⟨anchor, names⟩ = true := by
  simp [isBelow, further]

theorem resolveNames_append (before after : List String) :
    resolveNames (before ++ after) = after.foldl
      (fun before name => if name = back then before.dropLast else before ++ [name])
      (resolveNames before) := List.foldl_append

theorem resolveNames_concat (before : List String) (name : String) :
    resolveNames (before ++ [name])
      = if name = back then (resolveNames before).dropLast else resolveNames before ++ [name] := by
  rw [resolveNames_append]
  rfl

theorem resolveNames_sublist (names : List String) : (resolveNames names).Sublist names := by
  induction names using List.reverseRecOn with
  | nil => exact .slnil
  | append_singleton before name ih =>
    rw [resolveNames_concat]
    split
    · exact ((List.dropLast_sublist _).trans ih).trans (List.sublist_append_left _ _)
    · exact ih.append_right [name]

/-- No step back is left. -/
theorem back_notMem_resolveNames (names : List String) : back ∉ resolveNames names := by
  induction names using List.reverseRecOn with
  | nil => exact List.not_mem_nil
  | append_singleton before name ih =>
    rw [resolveNames_concat]
    split
    · exact fun inside => ih (List.dropLast_subset _ inside)
    · next other => simp [ih, Ne.symm other]

theorem resolveNames_eq_self {names : List String} (forward : back ∉ names) :
    resolveNames names = names := by
  induction names using List.reverseRecOn with
  | nil => rfl
  | append_singleton before name ih =>
    simp only [List.mem_append, List.mem_singleton, not_or] at forward
    rw [resolveNames_concat, ih forward.1, if_neg (Ne.symm forward.2)]

theorem resolveNames_back {before : List String} (forward : back ∉ before) (rest : List String) :
    resolveNames (before ++ back :: rest) = resolveNames (before.dropLast ++ rest) := by
  have earlier : back ∉ before.dropLast := fun inside => forward (List.dropLast_subset _ inside)
  rw [List.append_cons, resolveNames_append, resolveNames_concat, if_pos rfl,
    resolveNames_eq_self forward, resolveNames_append, resolveNames_eq_self earlier]

/-- Steps back may be carried out in between. -/
theorem resolveNames_resolveNames_append (before rest : List String) :
    resolveNames (resolveNames before ++ rest) = resolveNames (before ++ rest) := by
  rw [resolveNames_append, resolveNames_append,
    resolveNames_eq_self (back_notMem_resolveNames before)]

private theorem size_intercalate (name : String) (rest : List String) :
    ("/".intercalate (name :: rest)).utf8ByteSize
      = ((name :: rest).map String.utf8ByteSize).sum + rest.length := by
  induction rest generalizing name with
  | nil => simp
  | cons next others ih =>
    have slash : "/".utf8ByteSize = 1 := rfl
    rw [String.intercalate_cons_cons, String.utf8ByteSize_append, String.utf8ByteSize_append, ih,
      slash]
    simp only [List.map_cons, List.sum_cons, List.length_cons]
    omega

/-- Of two paths with one anchor, that with fewer names has the shorter text. -/
theorem size_text_le {anchor : String} {fewer names : List String} (some : fewer ≠ [])
    (sublist : fewer.Sublist names) :
    (text ⟨anchor, fewer⟩).utf8ByteSize ≤ (text ⟨anchor, names⟩).utf8ByteSize := by
  obtain ⟨first, rest, rfl⟩ := List.exists_cons_of_ne_nil some
  obtain ⟨other, others, rfl⟩ := List.exists_cons_of_ne_nil (List.ne_nil_of_mem
    (sublist.subset List.mem_cons_self))
  have total := (sublist.map String.utf8ByteSize).sum_le_sum fun _ _ => Nat.zero_le _
  have count := sublist.length_le
  simp only [text, List.isEmpty_cons, Bool.and_false, Bool.false_eq_true, if_false,
    String.utf8ByteSize_append, size_intercalate]
  simp only [List.length_cons] at count
  omega

/-- The size of a text depends on the sizes of the names only. -/
theorem size_text_congr (anchor : String) {names others : List String}
    (same : names.map String.utf8ByteSize = others.map String.utf8ByteSize) :
    (text ⟨anchor, names⟩).utf8ByteSize = (text ⟨anchor, others⟩).utf8ByteSize := by
  rcases names with _ | ⟨name, rest⟩ <;> rcases others with _ | ⟨other, more⟩
  · rfl
  · cases same
  · cases same
  · have length := congrArg List.length same
    simp only [List.length_map, List.length_cons, Nat.add_right_cancel_iff] at length
    simp only [text, List.isEmpty_cons, Bool.and_false, Bool.false_eq_true, if_false,
      String.utf8ByteSize_append, size_intercalate, same, length]

end SheetPricing.Storage.Path
