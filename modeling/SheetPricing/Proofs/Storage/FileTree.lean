import SheetPricing.Proofs.Outcome
import SheetPricing.Proofs.Storage.Path
import SheetPricing.Storage.FileTree

/-! Trees of files and directories. In a well-formed tree every entry stands in a directory that is
there, and no name is a file and a directory at once. Making directories and writing, reading and
removing files keep a tree so and change no other file. -/
namespace SheetPricing.Storage.FileTree
open Path
variable {β : Type} {tree : FileTree β} {names before rest : List String} {name : String} {data : β}

/-- A directory is there; the one that everything starts from is not listed. -/
def Stands (tree : FileTree β) (names : List String) : Prop := names = [] ∨ names ∈ tree.directories

/-- Names that an entry of a directory may have. -/
def Entered (tree : FileTree β) (names : List String) : Prop :=
  ∃ before name, names = before ++ [name] ∧ tree.Stands before ∧ name ≠ back ∧
    isTooLong name = false

structure WellFormed (tree : FileTree β) : Prop where
  apart : ∀ names ∈ tree.directories, tree.files.get? names = none
  directories : ∀ names ∈ tree.directories, tree.Entered names
  files : ∀ names data, tree.files.get? names = some data → tree.Entered names

theorem entered_concat_iff : tree.Entered (before ++ [name]) ↔
    tree.Stands before ∧ name ≠ back ∧ isTooLong name = false := by
  constructor
  · rintro ⟨other, last, same, stands, forward, fits⟩
    obtain ⟨rfl, equal⟩ := List.append_inj' same rfl
    obtain rfl := List.singleton_inj.mp equal
    exact ⟨stands, forward, fits⟩
  · exact fun ⟨stands, forward, fits⟩ => ⟨before, name, rfl, stands, forward, fits⟩

theorem wellFormed_empty : (⟨.empty, []⟩ : FileTree β).WellFormed where
  apart _ inside := nomatch inside
  directories _ inside := nomatch inside
  files _ _ held := nomatch held

theorem held_of_walk (forward : back ∉ rest) (ends : tree.walk before rest = .ok (.file data)) :
    tree.files.get? (before ++ rest) = some data := by
  induction rest generalizing before with
  | nil => cases ends
  | cons name rest ih =>
    obtain ⟨here, later⟩ := not_or.mp (List.mem_cons.not.mp forward)
    rw [walk, if_neg (Ne.symm here)] at ends
    split at ends
    · cases ends
    · dsimp only at ends
      split at ends
      · next found held =>
        split at ends
        · next last =>
          cases ends
          rwa [List.isEmpty_iff.mp last]
        · cases ends
      · split at ends
        · rw [List.append_cons]
          exact ih later ends
        · cases ends

theorem held_of_read {path : Path} (forward : back ∉ path.names)
    (ok : tree.read [] path = .ok data) : tree.files.get? path.names = some data := by
  rw [read] at ok
  split at ok
  · next found ends =>
    cases ok
    rw [find] at ends
    split at ends
    · cases ends
    · rw [ite_self] at ends
      exact held_of_walk forward ends
  · cases ok
  · cases ok

namespace WellFormed
variable (formed : tree.WellFormed)
include formed

theorem entered (stands : tree.Stands (before ++ [name])) : tree.Entered (before ++ [name]) := by
  rcases stands with empty | inside
  · simp at empty
  · exact formed.directories _ inside

theorem stands_dropLast (stands : tree.Stands names) : tree.Stands names.dropLast := by
  induction names using List.reverseRecOn with
  | nil => exact stands
  | append_singleton before name _ =>
    rw [List.dropLast_concat]
    exact (entered_concat_iff.mp (formed.entered stands)).1

theorem back_notMem (stands : tree.Stands names) : back ∉ names := by
  induction names using List.reverseRecOn with
  | nil => exact List.not_mem_nil
  | append_singleton before name ih =>
    obtain ⟨earlier, forward, _⟩ := entered_concat_iff.mp (formed.entered stands)
    simp [ih earlier, Ne.symm forward]

/-- A walk passes the directories that are there. -/
theorem walk_append (stands : tree.Stands names) :
    tree.walk [] (names ++ rest) = tree.walk names rest := by
  induction names using List.reverseRecOn generalizing rest with
  | nil => rfl
  | append_singleton before name ih =>
    obtain ⟨earlier, forward, fits⟩ := entered_concat_iff.mp (formed.entered stands)
    have inside : before ++ [name] ∈ tree.directories := by
      rcases stands with empty | inside
      · simp at empty
      · exact inside
    rw [List.append_assoc, ih earlier, List.singleton_append, walk, if_neg forward, fits]
    simp [formed.apart _ inside, inside]

theorem walk_file (held : tree.files.get? names = some data) :
    tree.walk [] names = .ok (.file data) := by
  obtain ⟨before, name, rfl, stands, forward, fits⟩ := formed.files names data held
  rw [formed.walk_append stands, walk, if_neg forward, fits]
  simp [held]

/-- Where a walk ends at a directory, the directory is there. -/
theorem stands_of_walk (stands : tree.Stands before)
    (ends : tree.walk before rest = .ok .directory) :
    tree.Stands (resolveNames (before ++ rest)) := by
  have forward := formed.back_notMem stands
  induction rest generalizing before with
  | nil => rwa [List.append_nil, resolveNames_eq_self forward]
  | cons name rest ih =>
    rw [walk] at ends
    split at ends
    · next same =>
      have earlier := formed.stands_dropLast stands
      rw [same, resolveNames_back forward]
      exact ih earlier ends (formed.back_notMem earlier)
    · split at ends
      · cases ends
      · rw [List.append_cons]
        dsimp only at ends
        split at ends
        · split at ends <;> cases ends
        · split at ends
          · next inside => exact ih (.inr inside) ends (formed.back_notMem (.inr inside))
          · cases ends

theorem find_file {anchor : String} (held : tree.files.get? names = some data)
    (short : (text ⟨anchor, names⟩).utf8ByteSize ≤ maxPathBytes) :
    tree.find [] ⟨anchor, names⟩ = .ok (.file data) := by
  rw [find, if_neg (Nat.not_lt.mpr short), ite_self]
  exact formed.walk_file held

theorem reached (stands : tree.Stands before) {found : List String}
    (ok : tree.reach before rest = .ok found) :
    found = resolveNames (before ++ rest) ∧ tree.Stands found := by
  have forward := formed.back_notMem stands
  induction rest generalizing before with
  | nil =>
    obtain rfl := Except.ok.inj ok
    exact ⟨by rw [List.append_nil, resolveNames_eq_self forward], stands⟩
  | cons name rest ih =>
    rw [reach] at ok
    split at ok
    · next same =>
      have earlier := formed.stands_dropLast stands
      rw [same, resolveNames_back forward]
      exact ih earlier ok (formed.back_notMem earlier)
    · split at ok
      · cases ok
      · rw [List.append_cons]
        dsimp only at ok
        split at ok
        · cases ok
        · split at ok
          · next inside => exact ih (.inr inside) ok (formed.back_notMem (.inr inside))
          · cases ok

end WellFormed

theorem mem_addDirectory {other : List String} :
    other ∈ (tree.addDirectory names).directories ↔ other = names ∨ other ∈ tree.directories := by
  rw [addDirectory]
  split
  · next inside => exact ⟨.inr, fun either => either.elim (· ▸ inside) id⟩
  · simp [or_comm]

@[simp] theorem files_addDirectory : (tree.addDirectory names).files = tree.files := by
  rw [addDirectory]
  split <;> rfl

theorem Stands.addDirectory (stands : tree.Stands before) :
    (tree.addDirectory names).Stands before :=
  stands.imp_right fun inside => mem_addDirectory.mpr (.inr inside)

theorem Entered.addDirectory (entered : tree.Entered before) :
    (tree.addDirectory names).Entered before := by
  obtain ⟨earlier, name, rfl, stands, rest⟩ := entered
  exact ⟨earlier, name, rfl, stands.addDirectory, rest⟩

theorem WellFormed.addDirectory (formed : tree.WellFormed) (entered : tree.Entered names)
    (free : tree.files.get? names = none) : (tree.addDirectory names).WellFormed where
  apart other inside := by
    rw [files_addDirectory]
    rcases mem_addDirectory.mp inside with rfl | inside
    · exact free
    · exact formed.apart other inside
  directories other inside := by
    rcases mem_addDirectory.mp inside with rfl | inside
    · exact entered.addDirectory
    · exact (formed.directories other inside).addDirectory
  files other data held := by
    rw [files_addDirectory] at held
    exact (formed.files other data held).addDirectory

/-- What making directories leaves: a well-formed tree with the same files, where the directory is
there if it could be made. -/
structure Made (tree : FileTree β) (path : Path) (outcome : Except FileError Unit)
    (made : FileTree β) : Prop where
  formed : made.WellFormed
  files : made.files = tree.files
  stands : outcome = .ok () → made.Stands (resolveNames path.names)

namespace WellFormed
variable {path : Path} (formed : tree.WellFormed)
include formed

theorem makeOne {made : FileTree β} (ok : tree.makeOne [] path = .ok made) :
    Made tree path (.ok ()) made := by
  rw [FileTree.makeOne] at ok
  split at ok
  · cases ok
  obtain ⟨before, reached, ok⟩ := ok_of_bind ok
  rw [ite_self] at reached
  obtain ⟨rfl, stands⟩ := formed.reached (.inl rfl) reached
  split at ok
  · cases ok
  next name last =>
    dsimp only at ok
    split at ok
    · cases ok
    next forward =>
      split at ok
      · cases ok
      next fits =>
        split at ok
        · cases ok
        next free =>
          obtain rfl := Except.ok.inj ok
          obtain ⟨before, names⟩ := List.getLast?_eq_some_iff.mp last
          rw [names, List.dropLast_concat, List.nil_append] at stands free ⊢
          simp only [Bool.or_eq_true, not_or, Table.contains, Option.not_isSome_iff_eq_none]
            at free
          have entered : tree.Entered (resolveNames before ++ [name]) :=
            entered_concat_iff.mpr ⟨stands, forward, eq_false_of_ne_true fits⟩
          refine ⟨formed.addDirectory entered free.1, files_addDirectory, fun _ => ?_⟩
          rw [names, resolveNames_concat, if_neg forward]
          exact .inr (mem_addDirectory.mpr (.inl rfl))

/-- A directory that could not be made may still be there. -/
theorem stands_unlessDirectory {problem : FileProblem}
    (ok : tree.unlessDirectory [] path problem = .ok ()) :
    tree.Stands (resolveNames path.names) := by
  rw [unlessDirectory] at ok
  split at ok
  · next found =>
    rw [find, ite_self] at found
    split at found
    · cases found
    · exact formed.stands_of_walk (.inl rfl) found
  · cases ok
  · cases ok

theorem makeDirectory (path : Path) :
    Made tree path (tree.makeDirectory [] path).1 (tree.makeDirectory [] path).2 := by
  -- A missing directory before it is made first; where both fail, it may be there all the same.
  fun_induction FileTree.makeDirectory tree [] path with
  | case1 path made one => exact formed.makeOne one
  | case2 path problem _ _ error made earlier ih =>
    rw [earlier] at ih
    exact ⟨ih.formed, ih.files, nofun⟩
  | case3 path problem _ _ made earlier all one ih =>
    rw [earlier] at ih
    have last := ih.formed.makeOne one
    exact ⟨last.formed, last.files.trans ih.files, last.stands⟩
  | case4 path problem _ _ made earlier later _ ih =>
    rw [earlier] at ih
    exact ⟨ih.formed, ih.files, ih.formed.stands_unlessDirectory⟩
  | case5 path problem _ _ => exact ⟨formed, rfl, formed.stands_unlessDirectory⟩

theorem put (entered : tree.Entered names) (free : names ∉ tree.directories) :
    ({ tree with files := tree.files.put names data } : FileTree β).WellFormed where
  apart other inside := by
    have ne : other ≠ names := fun same => free (same ▸ inside)
    rw [Table.get?_put, if_neg ne]
    exact formed.apart other inside
  directories := formed.directories
  files other found held := by
    rw [Table.get?_put] at held
    split at held
    · next same => exact same ▸ entered
    · exact formed.files other found held

theorem remove : (tree.remove path).WellFormed where
  apart other inside := by
    rw [FileTree.remove, Table.get?_erase]
    split
    · rfl
    · exact formed.apart other inside
  directories := formed.directories
  files other found held := by
    rw [FileTree.remove, Table.get?_erase] at held
    split at held
    · cases held
    · exact formed.files other found held

theorem write (names : path.names = before ++ [name]) (forward : name ≠ back)
    (stands : tree.Stands (resolveNames before)) {written : FileTree β}
    (ok : tree.write path data = .ok written) :
    written.WellFormed ∧ written.files = tree.files.put path.resolve.names data ∧
      path.text.utf8ByteSize ≤ maxPathBytes := by
  have last : path.name = name := by simp [Path.name, names]
  have resolved : path.resolve.names = resolveNames before ++ [name] := by
    rw [resolve, names, resolveNames_concat, if_neg forward]
  rw [FileTree.write] at ok
  split at ok
  · cases ok
  next fits =>
    simp only [last, Bool.or_eq_true, decide_eq_true_eq, not_or, Nat.not_lt] at fits
    split at ok
    · cases ok
    next free =>
      obtain rfl := Except.ok.inj ok
      have entered : tree.Entered path.resolve.names :=
        resolved ▸ entered_concat_iff.mpr ⟨stands, forward, eq_false_of_ne_true fits.1⟩
      exact ⟨formed.put entered free, rfl, fits.2⟩

/-- A file is written, or no file has changed. -/
theorem place_cases (data : β) (names : path.names = before ++ [name]) (forward : name ≠ back) :
    (∃ error made, tree.place path data = (.error error, made) ∧ made.WellFormed ∧
        made.files = tree.files) ∨
      ∃ written, tree.place path data = (.ok (), written) ∧ written.WellFormed ∧
        written.files = tree.files.put path.resolve.names data ∧
        path.text.utf8ByteSize ≤ maxPathBytes := by
  have parent : path.parent.names = before := by simp [Path.parent, names]
  have made := formed.makeDirectory path.parent
  rcases outcome : tree.makeDirectory [] path.parent with ⟨error | _, after⟩
  · rw [outcome] at made
    exact .inl ⟨error, after, by rw [place, outcome], made.formed, made.files⟩
  · rw [outcome] at made
    have stands := made.stands rfl
    rw [parent] at stands
    cases result : after.write path data with
    | error error =>
      refine .inl ⟨error, after, ?_, made.formed, made.files⟩
      simp only [place, outcome, result]
    | ok written =>
      obtain ⟨formed, files, short⟩ := made.formed.write names forward stands result
      refine .inr ⟨written, ?_, formed, ?_, short⟩
      · simp only [place, outcome, result]
      · rw [files, made.files]

end WellFormed
end SheetPricing.Storage.FileTree
