import SheetPricing.Proofs.Storage.FileTree
import SheetPricing.Storage.BlobStore

/-! Where the blobs of a store are. A text leads to one place strictly below the root, or it is
refused. A blob is saved under the names of its storage path behind the root, with the steps back in
the name of its owner carried out; from the path alone it is found, read and removed again. The time
stamp that its last name starts with tells it from blobs that were saved under other stamps. -/
namespace SheetPricing.Storage
open Path

/-- A moment down to the microsecond, in digits and underscores. -/
def isStamp (stamp : String) : Bool :=
  stamp.toList.length == 22 && stamp.toList.all fun c => Text.isPlainDigit c || c == '_'

/-- A text of characters that may stand in a stored name. -/
def IsSafe (name : String) : Prop := ∀ c ∈ name.toList, isSafe c = true

theorem IsSafe.append {first second : String} (left : IsSafe first) (right : IsSafe second) :
    IsSafe (first ++ second) := by
  intro c inside
  rw [String.toList_append] at inside
  exact (List.mem_append.mp inside).elim (left c) (right c)

theorem IsSafe.slash_notMem {name : String} (safe : IsSafe name) : '/' ∉ name.toList := by
  intro inside
  exact absurd (safe '/' inside) (by decide)

theorem IsSafe.nul_notMem {name : String} (safe : IsSafe name) : '\x00' ∉ name.toList := by
  intro inside
  exact absurd (safe '\x00' inside) (by decide)

theorem isSafe_of_isStamp {stamp : String} (proper : isStamp stamp = true) : IsSafe stamp := by
  intro c inside
  have each := List.all_eq_true.mp (Bool.and_eq_true_iff.mp proper).2 c inside
  simp only [Bool.or_eq_true] at each
  rcases each with digit | underscore
  · simp [isSafe, Text.isPlainWord, digit]
  · simp [isSafe, Text.isPlainWord, underscore]

theorem isSafe_safeName (name : String) : IsSafe (safeName name) := by
  intro c inside
  simp only [safeName, String.toList_ofList, List.mem_map] at inside
  obtain ⟨other, _, rfl⟩ := inside
  split
  · assumption
  · decide

theorem isSafe_safeFileName (name : String) : IsSafe (safeFileName name) := by
  have safe := isSafe_safeName name
  have extension : IsSafe ".unknown" := List.all_eq_true.mp (by decide)
  rw [safeFileName]
  split
  · exact safe
  · exact safe.append extension

/-- The last name of a blob. -/
def leaf (fileName stamp : String) : String := stamp ++ "_" ++ safeFileName fileName

theorem isSafe_leaf {stamp : String} (proper : isStamp stamp = true) (fileName : String) :
    IsSafe (leaf fileName stamp) := by
  have underscore : IsSafe "_" := List.all_eq_true.mp (by decide)
  exact ((isSafe_of_isStamp proper).append underscore).append (isSafe_safeFileName fileName)

theorem leaf_ne {name : String} (plain : '_' ∉ name.toList) (fileName stamp : String) :
    leaf fileName stamp ≠ name := by
  intro same
  apply plain
  rw [← same, leaf, String.toList_append, String.toList_append]
  simp

/-- Last names with one stamp each have the same stamp. -/
theorem stamp_of_leaf {fileName other stamp later : String} (proper : isStamp stamp = true)
    (properLater : isStamp later = true) (same : leaf fileName stamp = leaf other later) :
    stamp = later := by
  have length := beq_iff_eq.mp (Bool.and_eq_true_iff.mp proper).1
  have lengthLater := beq_iff_eq.mp (Bool.and_eq_true_iff.mp properLater).1
  have characters := congrArg String.toList same
  simp only [leaf, String.toList_append, List.append_assoc] at characters
  exact String.toList_inj.mp (List.append_inj_left characters (length.trans lengthLater.symm))

/-- The names of the directory of an owner behind the root. -/
def ownerNames (owner : String) : List String := "pricing" :: (ofText (safeName owner)).names

/-- The names of a blob behind the root, where steps back are not carried out yet. -/
def branch (owner fileName stamp : String) : List String :=
  ownerNames owner ++ [leaf fileName stamp]

/-- The text that a blob is addressed by. -/
def storagePath (owner fileName stamp : String) : String := text ⟨"", branch owner fileName stamp⟩

theorem ofText_of_slash_notMem {name : String} (absent : '/' ∉ name.toList) :
    (ofText name).anchor = "" ∧
      (ofText name).names = if name = "" ∨ name = "." then [] else [name] := by
  have anchor : anchorOf name.toList = "" := by
    cases characters : name.toList with
    | nil => rfl
    | cons c rest =>
      rw [characters] at absent
      simpa using anchorOf_of_notMem absent [] (List.cons_ne_nil c rest)
  have parts : Text.split '/' name = [name] := by
    rw [Text.split, Text.splitList_of_notMem absent]
    simp
  rw [ofText, anchor, parts]
  refine ⟨rfl, ?_⟩
  by_cases empty : name = "" <;> by_cases point : name = "." <;> simp [empty, point]

theorem mem_ownerNames {owner name : String} (inside : name ∈ ownerNames owner) :
    IsName name ∧ IsSafe name := by
  rcases List.mem_cons.mp inside with rfl | inside
  · have named : IsName "pricing" := by
      unfold IsName
      decide
    exact ⟨named, List.all_eq_true.mp (by decide)⟩
  · have safe := isSafe_safeName owner
    rw [(ofText_of_slash_notMem safe.slash_notMem).2] at inside
    split at inside
    · cases inside
    · next kept =>
      obtain ⟨nonempty, notPoint⟩ := not_or.mp kept
      obtain rfl := List.mem_singleton.mp inside
      exact ⟨⟨nonempty, notPoint, safe.slash_notMem⟩, safe⟩

theorem mem_branch {owner fileName stamp name : String} (proper : isStamp stamp = true)
    (inside : name ∈ branch owner fileName stamp) : IsName name ∧ IsSafe name := by
  rcases List.mem_append.mp inside with inside | inside
  · exact mem_ownerNames inside
  · obtain rfl := List.mem_singleton.mp inside
    have safe := isSafe_leaf proper fileName
    exact ⟨⟨leaf_ne (by decide) _ _, leaf_ne (by decide) _ _, safe.slash_notMem⟩, safe⟩

theorem resolveNames_branch (root : List String) (owner fileName stamp : String) :
    resolveNames (root ++ branch owner fileName stamp)
      = resolveNames (root ++ ownerNames owner) ++ [leaf fileName stamp] := by
  rw [branch, ← List.append_assoc, resolveNames_concat, if_neg (leaf_ne (by decide) _ _)]

/-- The directory of an owner does not lie above the root, even if its name is a step back. -/
theorem exists_resolveNames_ownerNames (root : List String) (owner : String) :
    ∃ middle, resolveNames (root ++ ownerNames owner) = resolveNames root ++ middle := by
  have one : resolveNames (root ++ ["pricing"]) = resolveNames root ++ ["pricing"] := by
    rw [resolveNames_concat, if_neg (by decide)]
  have names := (ofText_of_slash_notMem (isSafe_safeName owner).slash_notMem).2
  rw [ownerNames, names]
  split
  · exact ⟨["pricing"], one⟩
  · rw [List.append_cons, resolveNames_concat, one]
    split
    · exact ⟨[], by simp⟩
    · exact ⟨["pricing", safeName owner], by simp⟩

theorem branch_ne_nil (owner fileName stamp : String) : branch owner fileName stamp ≠ [] := by
  simp [branch]

theorem storagePath_eq (owner fileName stamp : String) : storagePath owner fileName stamp
    = "/".intercalate (branch owner fileName stamp) := text_relative (branch_ne_nil _ _ _)

theorem nul_notMem_storagePath {stamp : String} (proper : isStamp stamp = true)
    (owner fileName : String) : '\x00' ∉ (storagePath owner fileName stamp).toList := by
  rw [storagePath_eq]
  intro inside
  rcases Text.mem_of_mem_intercalate inside with slash | ⟨name, member, held⟩
  · exact absurd slash (by decide)
  · exact (mem_branch proper member).2.nul_notMem held

/-- Names of a file that was saved under a stamp. -/
def Stamped (stamp : String) (names : List String) : Prop :=
  ∃ before fileName, names = before ++ [leaf fileName stamp]

theorem Stamped.unique {stamp later : String} {names : List String} (first : Stamped stamp names)
    (second : Stamped later names) (proper : isStamp stamp = true)
    (properLater : isStamp later = true) : stamp = later := by
  obtain ⟨before, fileName, rfl⟩ := first
  obtain ⟨other, otherName, same⟩ := second
  obtain ⟨_, last⟩ := List.append_inj' same rfl
  exact stamp_of_leaf proper properLater (List.singleton_inj.mp last)

/-- That a text leads to a place strictly below a root, when every step back is carried out. -/
structure Leads (root : Path) (text : String) (names : List String) : Prop where
  plain : '\x00' ∉ text.toList
  anchor : (root ++ ofText text).anchor = root.anchor
  resolved : names = resolveNames (root ++ ofText text).names
  below : ∃ more, more ≠ [] ∧ names = resolveNames root.names ++ more

/-- What is told of a text that does not lead below the root. -/
def refusalOf (text : String) : StoreError :=
  if text.toList.contains '\x00' then .nulCharacter else .escapes text

theorem Leads.back_notMem {root : Path} {text : String} {names : List String}
    (leads : Leads root text names) : back ∉ names :=
  leads.resolved ▸ back_notMem_resolveNames _

namespace BlobStore
variable {β : Type} {store : BlobStore β} {owner fileName stamp address : String}
  {names : List String} {data : β}

theorem resolve_of_leads (leads : Leads store.root address names) :
    store.resolve address = .ok ⟨store.root.anchor, names⟩ := by
  obtain ⟨plain, anchor, same, more, some, split⟩ := leads
  have whole : (store.root ++ ofText address).resolve = ⟨store.root.anchor, names⟩ := by
    rw [Path.resolve, anchor, same]
  have below : isBelow ⟨store.root.anchor, names⟩ store.root.resolve = true := by
    rw [split]
    exact isBelow_append _ _ some
  rw [resolve, if_neg (by simpa using plain), whole]
  dsimp only
  rw [if_pos below]

theorem resolve_of_leads_nowhere (nowhere : ∀ names, ¬ Leads store.root address names) :
    store.resolve address = .error (refusalOf address) := by
  rw [resolve, refusalOf]
  split
  · rfl
  next plain =>
    dsimp only
    split
    · next below =>
      simp only [isBelow, Bool.and_eq_true, beq_iff_eq, bne_iff_ne, List.isPrefixOf_iff_prefix] at below
      obtain ⟨⟨anchor, more, split⟩, apart⟩ := below
      refine absurd ⟨by simpa using plain, anchor, rfl, more, ?_, split.symm⟩ (nowhere _)
      rintro rfl
      exact apart (by rw [← split, List.append_nil])
    · rfl

theorem exists_leads_of_resolve {resolved : Path} (ok : store.resolve address = .ok resolved) :
    ∃ names, resolved = ⟨store.root.anchor, names⟩ ∧ Leads store.root address names := by
  by_cases somewhere : ∃ names, Leads store.root address names
  · obtain ⟨names, leads⟩ := somewhere
    exact ⟨names, Except.ok.inj (ok.symm.trans (resolve_of_leads leads)), leads⟩
  · cases ok.symm.trans (resolve_of_leads_nowhere (not_exists.mp somewhere))

/-- The names of the file that holds a blob. -/
def place (store : BlobStore β) (owner fileName stamp : String) : List String :=
  resolveNames (store.root.names ++ branch owner fileName stamp)

theorem place_congr {other : BlobStore β} (root : other.root = store.root)
    (owner fileName stamp : String) :
    other.place owner fileName stamp = store.place owner fileName stamp := by
  rw [place, place, root]

theorem resolve_congr {other : BlobStore β} (root : other.root = store.root) (path : String) :
    other.resolve path = store.resolve path := by
  rw [resolve, resolve, root]

structure WellFormed (store : BlobStore β) : Prop where
  tree : store.tree.WellFormed
  short : ∀ names data, store.tree.files.get? names = some data →
    (text ⟨store.root.anchor, names⟩).utf8ByteSize ≤ FileTree.maxPathBytes

theorem files_empty (root : Path) : (empty root : BlobStore β).tree.files = .empty :=
  (FileTree.wellFormed_empty.makeDirectory (root.child "pricing")).files

theorem wellFormed_empty (root : Path) : (empty root : BlobStore β).WellFormed where
  tree := (FileTree.wellFormed_empty.makeDirectory (root.child "pricing")).formed
  short names data held := by
    rw [files_empty] at held
    cases held

theorem stamped_place (store : BlobStore β) (owner fileName stamp : String) :
    Stamped stamp (store.place owner fileName stamp) :=
  ⟨_, fileName, resolveNames_branch _ _ _ _⟩

/-- Two blobs of one owner that are held by one file have one storage path. -/
theorem storagePath_of_place {other later : String}
    (same : store.place owner fileName stamp = store.place owner other later) :
    storagePath owner fileName stamp = storagePath owner other later := by
  simp only [place, resolveNames_branch] at same
  obtain ⟨_, last⟩ := List.append_inj' same rfl
  rw [storagePath, storagePath, branch, branch, last]

theorem blobPath_eq (store : BlobStore β) (owner fileName stamp : String) :
    store.blobPath owner fileName stamp
      = ⟨store.root.anchor, store.root.names ++ branch owner fileName stamp⟩ := by
  have anchor := (ofText_of_slash_notMem (isSafe_safeName owner).slash_notMem).1
  rw [blobPath, ownerDirectory, append_eq anchor]
  simp [directory, child, branch, ownerNames, leaf]

theorem leads_storagePath (store : BlobStore β) (owner fileName : String)
    (proper : isStamp stamp = true) :
    Leads store.root (storagePath owner fileName stamp) (store.place owner fileName stamp) := by
  have read : ofText (storagePath owner fileName stamp) = ⟨"", branch owner fileName stamp⟩ :=
    ofText_text (branch_ne_nil _ _ _) fun name inside => (mem_branch proper inside).1
  have whole : store.root ++ ofText (storagePath owner fileName stamp)
      = ⟨store.root.anchor, store.root.names ++ branch owner fileName stamp⟩ := by
    rw [read, append_eq rfl]
  -- A step back in the name of the owner stays in the root, and the last name comes after it.
  obtain ⟨middle, names⟩ := exists_resolveNames_ownerNames store.root.names owner
  refine ⟨nul_notMem_storagePath proper owner fileName, ?_, ?_, middle ++ [leaf fileName stamp],
    by simp, ?_⟩
  · rw [whole]
  · rw [whole, place]
  · rw [place, resolveNames_branch, names, List.append_assoc]

theorem resolve_storagePath (store : BlobStore β) (owner fileName : String)
    (proper : isStamp stamp = true) :
    store.resolve (storagePath owner fileName stamp)
      = .ok ⟨store.root.anchor, store.place owner fileName stamp⟩ :=
  resolve_of_leads (store.leads_storagePath owner fileName proper)

/-- Whatever the store holds, what is saved in it gets the path of its owner, name and stamp. -/
theorem storagePath_of_save {data : β} {path : String} {after : BlobStore β}
    (ok : store.save owner fileName stamp data = (.ok path, after)) :
    path = storagePath owner fileName stamp := by
  rw [save] at ok
  split at ok
  · cases ok
  · obtain ⟨placed, _⟩ := Prod.mk.inj ok
    obtain ⟨_, _, rfl⟩ := exists_of_map placed
    rw [blobPath_eq, dropNames, List.drop_left]
    rfl

/-- A blob is saved under its names, or no file has changed. -/
theorem WellFormed.save_cases (formed : store.WellFormed) (owner fileName stamp : String)
    (data : β) :
    (∃ error after, store.save owner fileName stamp data = (.error error, after) ∧
        after.WellFormed ∧ after.root = store.root ∧ after.tree.files = store.tree.files) ∨
      ∃ after,
        store.save owner fileName stamp data = (.ok (storagePath owner fileName stamp), after) ∧
        after.WellFormed ∧ after.root = store.root ∧
        after.tree.files = store.tree.files.put (store.place owner fileName stamp) data := by
  rw [save]
  split
  · next error _ => exact .inl ⟨error, store, rfl, formed, rfl, rfl⟩
  have path := blobPath_eq store owner fileName stamp
  have names : (store.blobPath owner fileName stamp).names
      = (store.root.names ++ ownerNames owner) ++ [leaf fileName stamp] := by
    rw [path]
    exact (List.append_assoc _ _ _).symm
  have placing := formed.tree.place_cases data names (leaf_ne (by decide) _ _)
  rw [path] at placing
  rcases placing with
    ⟨error, tree, placed, sound, files⟩ | ⟨tree, placed, sound, files, short⟩
  · refine .inl ⟨error, { store with tree }, ?_, ⟨sound, ?_⟩, rfl, files⟩
    · simp only [path, placed]
      rfl
    · simpa only [files] using formed.short
  · refine .inr ⟨{ store with tree }, ?_, ⟨sound, ?_⟩, rfl, files⟩
    · simp only [path, placed, dropNames, List.drop_left]
      rfl
    · intro other found held
      simp only [files, Table.get?_put] at held
      split at held
      · next same =>
        subst same
        have some : resolveNames (store.root.names ++ branch owner fileName stamp) ≠ [] := by
          simp [resolveNames_branch]
        exact (size_text_le some (resolveNames_sublist _)).trans short
      · exact formed.short other found held

/-- What is read is the data of the file that the path leads to. -/
theorem held_of_read {path : String} (ok : store.read path = .ok data) :
    ∃ names, store.resolve path = .ok ⟨store.root.anchor, names⟩ ∧
      store.tree.files.get? names = some data := by
  obtain ⟨resolved, found, ok⟩ := ok_of_bind ok
  obtain ⟨names, rfl, leads⟩ := exists_leads_of_resolve found
  exact ⟨names, found, FileTree.held_of_read leads.back_notMem (ok_of_mapError ok)⟩

theorem WellFormed.remove (formed : store.WellFormed) (path : Path) :
    ({ store with tree := store.tree.remove path } : BlobStore β).WellFormed where
  tree := formed.tree.remove
  short names data held := by
    rw [FileTree.remove, Table.get?_erase] at held
    split at held
    · cases held
    · exact formed.short names data held

theorem WellFormed.find_eq_file_iff (formed : store.WellFormed) (forward : back ∉ names) :
    store.tree.find [] ⟨store.root.anchor, names⟩ = .ok (.file data) ↔
      store.tree.files.get? names = some data := by
  constructor
  · intro found
    have ok : store.tree.read [] ⟨store.root.anchor, names⟩ = .ok data := by rw [FileTree.read, found]
    exact FileTree.held_of_read forward ok
  · exact fun held => formed.tree.find_file held (formed.short _ _ held)

section
variable (formed : store.WellFormed) (leads : Leads store.root address names)
include formed leads

theorem WellFormed.read_eq_ok_iff :
    store.read address = .ok data ↔ store.tree.files.get? names = some data := by
  have resolved := resolve_of_leads leads
  constructor
  · intro ok
    obtain ⟨other, also, held⟩ := held_of_read ok
    cases resolved.symm.trans also
    exact held
  · intro held
    rw [read, resolved, ok_bind, FileTree.read, (formed.find_eq_file_iff leads.back_notMem).mpr held]
    rfl

/-- A text that leads to a place removes the blob there, if there is one, and no other. -/
theorem WellFormed.delete_of_leads :
    ∃ removed after, store.delete address = .ok (removed, after) ∧ after.WellFormed ∧
      after.root = store.root ∧ (removed = true ↔ (store.tree.files.get? names).isSome) ∧
      after.tree.files = store.tree.files.erase names := by
  have found (data : β) : store.tree.find [] ⟨store.root.anchor, names⟩ = .ok (.file data) ↔
      store.tree.files.get? names = some data := formed.find_eq_file_iff leads.back_notMem
  let path : Path := ⟨store.root.anchor, names⟩
  cases held : store.tree.files.get? names with
  | some data =>
    refine ⟨true, { store with tree := store.tree.remove path }, ?_, formed.remove path, rfl,
      iff_of_true rfl rfl, ?_⟩
    · rw [delete, resolve_of_leads leads, ok_bind, (found data).mpr held]
      rfl
    · exact congrArg store.tree.files.erase (resolveNames_eq_self leads.back_notMem)
  | none =>
    refine ⟨false, store, ?_, formed, rfl, iff_of_false Bool.false_ne_true Bool.false_ne_true,
      (Table.erase_eq_self held).symm⟩
    rw [delete, resolve_of_leads leads, ok_bind]
    split
    · next data here => cases held.symm.trans ((found data).mp here)
    · rfl

end

theorem WellFormed.read_storagePath (formed : store.WellFormed) (proper : isStamp stamp = true)
    (held : store.tree.files.get? (store.place owner fileName stamp) = some data) :
    store.read (storagePath owner fileName stamp) = .ok data :=
  (formed.read_eq_ok_iff (store.leads_storagePath owner fileName proper)).mpr held

/-- Nothing is left where a blob was deleted, and no other file has changed. -/
theorem WellFormed.delete_storagePath (formed : store.WellFormed) (proper : isStamp stamp = true)
    (owner fileName : String) :
    ∃ removed after, store.delete (storagePath owner fileName stamp) = .ok (removed, after) ∧
      after.WellFormed ∧ after.root = store.root ∧
      after.tree.files = store.tree.files.erase (store.place owner fileName stamp) := by
  obtain ⟨removed, after, deleted, sound, root, _, files⟩ :=
    formed.delete_of_leads (store.leads_storagePath owner fileName proper)
  exact ⟨removed, after, deleted, sound, root, files⟩

end BlobStore
end SheetPricing.Storage
