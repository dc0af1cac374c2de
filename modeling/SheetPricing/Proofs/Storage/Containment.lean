import SheetPricing.Proofs.Storage.BlobStore

/-! Where the directories of the owners lie. A safe name is empty or a step back where the last name
of what it is made from is, and never a single point. So a blob lies in one directory below the
directory of all owners, unless the last name of its owner is missing or a step back: then it lies
in the directory of all owners itself, or in the root. -/
namespace SheetPricing.Storage
open Path

/-- The last name of a path text, empty if there is none; an empty text has the name that stands in
for it. -/
def lastName (name : String) : String :=
  (ofText (if name.isEmpty then fallbackName else name)).name

theorem toList_safeName (name : String) :
    (safeName name).toList = (lastName name).toList.map fun c => if isSafe c then c else '_' :=
  String.toList_ofList

theorem lastName_ne_point (name : String) : lastName name ≠ "." := by
  rw [lastName, Path.name]
  cases last : (ofText (if name.isEmpty then fallbackName else name)).names.getLast? with
  | none => decide
  | some held =>
    have inside := List.mem_filter.mp (List.mem_of_getLast? last)
    simp only [Bool.and_eq_true, bne_iff_ne] at inside
    exact inside.2.2

theorem safeName_eq_iff {name text : String} (safe : IsSafe text)
    (plain : '_' ∉ text.toList) : safeName name = text ↔ lastName name = text := by
  have kept {cs : List Char} (each : ∀ c ∈ cs, isSafe c = true) :
      cs.map (fun c => if isSafe c then c else '_') = cs :=
    (List.map_congr_left fun c inside => if_pos (each c inside)).trans (List.map_id cs)
  rw [← String.toList_inj, toList_safeName, ← String.toList_inj]
  constructor
  · intro same
    rw [← same, kept]
    intro c inside
    -- A character that is not safe became an underscore, and there is none.
    by_contra replaced
    apply plain
    rw [← same]
    exact List.mem_map.mpr ⟨c, inside, if_neg replaced⟩
  · intro same
    rw [same, kept safe]

/-- A name that goes one step on, in safe characters. -/
def IsComponent (name : String) : Prop := name ≠ "" ∧ name ≠ "." ∧ name ≠ back ∧ IsSafe name

theorem isComponent_leaf {stamp : String} (proper : isStamp stamp = true) (fileName : String) :
    IsComponent (leaf fileName stamp) :=
  ⟨leaf_ne (by decide) _ _, leaf_ne (by decide) _ _, leaf_ne (by decide) _ _,
    isSafe_leaf proper fileName⟩

/-- Names behind the root of a file that lies in a directory of its own below the directory of all
owners. -/
def IsContained (names : List String) : Prop :=
  ∃ directory file, names = ["pricing", directory, file] ∧
    IsComponent directory ∧ IsComponent file

theorem resolveNames_ownerNames (root : List String) (owner : String) :
    ∃ middle, resolveNames (root ++ ownerNames owner) = resolveNames root ++ middle ∧
      (lastName owner = "" ∧ middle = ["pricing"] ∨
        lastName owner = back ∧ middle = [] ∨
        lastName owner ≠ "" ∧ lastName owner ≠ back ∧ IsComponent (safeName owner) ∧
          middle = ["pricing", safeName owner]) := by
  have one : resolveNames (root ++ ["pricing"]) = resolveNames root ++ ["pricing"] := by
    rw [resolveNames_concat, if_neg (by decide)]
  have safe := isSafe_safeName owner
  have missing : safeName owner = "" ↔ lastName owner = "" :=
    safeName_eq_iff (List.all_eq_true.mp (by decide)) (by decide)
  have goesBack : safeName owner = back ↔ lastName owner = back :=
    safeName_eq_iff (List.all_eq_true.mp (by decide)) (by decide)
  have notPoint : safeName owner ≠ "." := by
    rw [Ne, safeName_eq_iff (List.all_eq_true.mp (by decide)) (by decide)]
    exact lastName_ne_point owner
  have names : (ofText (safeName owner)).names
      = if lastName owner = "" then [] else [safeName owner] := by
    simp only [(ofText_of_slash_notMem safe.slash_notMem).2, missing, notPoint, or_false]
  rw [ownerNames, names]
  by_cases none : lastName owner = ""
  · rw [if_pos none]
    exact ⟨_, one, .inl ⟨none, rfl⟩⟩
  rw [if_neg none, List.append_cons, resolveNames_concat, one]
  by_cases step : lastName owner = back
  · rw [if_pos (goesBack.mpr step), List.dropLast_concat]
    exact ⟨[], (List.append_nil _).symm, .inr (.inl ⟨step, rfl⟩)⟩
  · have forward := goesBack.not.mpr step
    rw [if_neg forward, List.append_assoc]
    exact ⟨_, rfl, .inr (.inr ⟨none, step, ⟨missing.not.mpr none, notPoint, forward, safe⟩, rfl⟩)⟩

namespace BlobStore
variable {β : Type} {store after : BlobStore β} {owner fileName stamp path : String} {data : β}

/-- A saved blob lies in a directory of its own below the directory of all owners exactly if what its
owner is called has a last name that is not a step back. -/
theorem WellFormed.isContained_iff_of_save (formed : store.WellFormed)
    (proper : isStamp stamp = true)
    (saved : store.save owner fileName stamp data = (.ok path, after)) :
    ∃ names,
      after.resolve path = .ok ⟨store.root.anchor, resolveNames store.root.names ++ names⟩ ∧
      after.tree.files = store.tree.files.put (resolveNames store.root.names ++ names) data ∧
      (IsContained names ↔ lastName owner ≠ "" ∧ lastName owner ≠ back) ∧
      (lastName owner = "" → ∃ file, IsComponent file ∧ names = ["pricing", file]) ∧
      (lastName owner = back → ∃ file, IsComponent file ∧ names = [file]) := by
  rcases formed.save_cases owner fileName stamp data with
    ⟨error, other, failed, _⟩ | ⟨other, ok, _, root, files⟩
  · rw [saved] at failed
    cases failed
  rw [saved] at ok
  obtain ⟨rfl, rfl⟩ : path = storagePath owner fileName stamp ∧ after = other := by
    simpa using ok
  have file := isComponent_leaf proper fileName
  have found := resolve_storagePath after owner fileName proper
  obtain ⟨middle, directory, cases⟩ := resolveNames_ownerNames store.root.names owner
  have placed : store.place owner fileName stamp
      = resolveNames store.root.names ++ (middle ++ [leaf fileName stamp]) := by
    rw [place, resolveNames_branch, directory, List.append_assoc]
  rw [place_congr root, root, placed] at found
  rw [placed] at files
  refine ⟨_, found, files, ?_⟩
  rcases cases with ⟨none, rfl⟩ | ⟨step, rfl⟩ | ⟨some, forward, own, rfl⟩
  · refine ⟨⟨?_, fun apart => absurd none apart.1⟩, fun _ => ⟨_, file, rfl⟩, fun step => ?_⟩
    · rintro ⟨_, _, same, _⟩
      simp at same
    · exact absurd (none.symm.trans step) (by decide)
  · refine ⟨⟨?_, fun apart => absurd step apart.2⟩, fun none => ?_, fun _ => ⟨_, file, rfl⟩⟩
    · rintro ⟨_, _, same, _⟩
      simp at same
    · exact absurd (none.symm.trans step) (by decide)
  · exact ⟨⟨fun _ => ⟨some, forward⟩, fun _ => ⟨_, _, rfl, own, file⟩⟩,
      fun none => absurd none some, fun step => absurd step forward⟩

/-- What an owner of two points uploads is held in the root, what another one uploads in a directory
of its own. -/
theorem isContained_iff_of_save_of_backOwner :
    let stamp := "20250101_000000_000000"
    let store : BlobStore String := .empty ⟨"/", ["data"]⟩
    let escaped := (store.save ".." "p.xlsx" stamp "x").2
    let kept := (store.save "a/owner-1" "p.xlsx" stamp "x").2
    (∃ names, escaped.resolve "pricing/../20250101_000000_000000_p.xlsx"
          = .ok ⟨"/", ["data"] ++ names⟩ ∧ ¬ IsContained names) ∧
      ∃ names, kept.resolve "pricing/owner-1/20250101_000000_000000_p.xlsx"
          = .ok ⟨"/", ["data"] ++ names⟩ ∧ IsContained names := by
  intro stamp store escaped kept
  have formed : store.WellFormed := wellFormed_empty _
  have proper : isStamp stamp = true := by decide
  constructor
  · have saved : store.save ".." "p.xlsx" stamp "x"
        = (.ok "pricing/../20250101_000000_000000_p.xlsx", escaped) :=
      Prod.ext (by decide +kernel) rfl
    obtain ⟨names, found, _, iff, _⟩ := formed.isContained_iff_of_save proper saved
    exact ⟨names, found, fun contained => (iff.mp contained).2 (by decide +kernel)⟩
  · have saved : store.save "a/owner-1" "p.xlsx" stamp "x"
        = (.ok "pricing/owner-1/20250101_000000_000000_p.xlsx", kept) :=
      Prod.ext (by decide +kernel) rfl
    obtain ⟨names, found, _, iff, _⟩ := formed.isContained_iff_of_save proper saved
    exact ⟨names, found, iff.mpr (by decide +kernel)⟩

end BlobStore
end SheetPricing.Storage
