import SheetPricing.Proofs.Storage.Directories

/-! Which blobs can be saved. Only the lengths of the names decide, as long as no blob stands where a
directory is needed, and no directory where a blob is saved. -/
namespace SheetPricing.Storage
open Path

theorem size_of_isStamp {stamp : String} (proper : isStamp stamp = true) :
    stamp.utf8ByteSize = 22 := by
  have digits (cs : List Char) (each : ∀ c ∈ cs, (Text.isPlainDigit c || c == '_') = true) :
      (String.ofList cs).utf8ByteSize = cs.length := by
    induction cs with
    | nil => rfl
    | cons c rest ih =>
      have one : c.utf8Size = 1 := by
        have here := each c List.mem_cons_self
        simp only [Text.isPlainDigit, Bool.or_eq_true, Bool.and_eq_true, decide_eq_true_eq,
          beq_iff_eq] at here
        rcases here with ⟨_, last⟩ | rfl
        · have small : c.val ≤ 0x7f := UInt32.le_trans last (by decide)
          exact Char.utf8Size_eq_one_iff.mpr small
        · rfl
      rw [String.ofList_cons, String.utf8ByteSize_append, String.utf8ByteSize_singleton, one,
        ih fun other inside => each other (List.mem_cons_of_mem _ inside), List.length_cons,
        Nat.add_comm]
  obtain ⟨length, each⟩ := Bool.and_eq_true_iff.mp proper
  have size := digits stamp.toList (List.all_eq_true.mp each)
  rwa [String.ofList_toList, beq_iff_eq.mp length] at size

/-- The path of a blob from the root on. -/
def blobAt (root : Path) (owner fileName stamp : String) : Path :=
  ⟨root.anchor, root.names ++ branch owner fileName stamp⟩

/-- Whether the path of a blob fits does not depend on the stamp. -/
theorem fits_blobAt_iff {stamp later : String} (proper : isStamp stamp = true)
    (properLater : isStamp later = true) (root : Path) (owner fileName : String) :
    (blobAt root owner fileName stamp).Fits ↔ (blobAt root owner fileName later).Fits := by
  have one {stamp later : String} (proper : isStamp stamp = true)
      (properLater : isStamp later = true) (fits : (blobAt root owner fileName stamp).Fits) :
      (blobAt root owner fileName later).Fits := by
    have size : (leaf fileName stamp).utf8ByteSize = (leaf fileName later).utf8ByteSize := by
      simp only [leaf, String.utf8ByteSize_append, size_of_isStamp proper,
        size_of_isStamp properLater]
    refine ⟨?_, fun name inside => ?_⟩
    · have text : (blobAt root owner fileName stamp).text.utf8ByteSize
          = (blobAt root owner fileName later).text.utf8ByteSize :=
        size_text_congr _ (by simp [branch, size])
      exact text ▸ fits.text
    · have member {stamp : String} (other : name ∈ root.names ++ ownerNames owner) :
          name ∈ (blobAt root owner fileName stamp).names := by
        rw [blobAt, branch, ← List.append_assoc]
        exact List.mem_append_left _ other
      rw [blobAt, branch, ← List.append_assoc] at inside
      rcases List.mem_append.mp inside with inside | inside
      · exact fits.names name (member inside)
      · have short := fits.names (leaf fileName stamp) (by simp [blobAt, branch])
        rw [List.mem_singleton.mp inside, FileTree.isTooLong, ← size]
        exact short
  exact ⟨one proper properLater, one properLater proper⟩

/-- No way to one of the directories behind the root passes a place of the blobs behind it. -/
def Apart (root : List String) (directories blobs : List (List String)) : Prop :=
  ∀ directory ∈ directories, ∀ front, front <+: root ++ directory →
    ∀ blob ∈ blobs, resolveNames front ≠ resolveNames (root ++ blob)

/-- Apart are directories and blobs if no directory on the way has the name of a blob. -/
theorem apart_of_notMem {root : List String} {directories blobs : List (List String)}
    (saved : ∀ blob ∈ blobs, ∃ owner fileName stamp, blob = branch owner fileName stamp)
    (differ : ∀ blob ∈ blobs, ∀ name ∈ blob.getLast?,
      name ∉ root ∧ ∀ directory ∈ directories, name ∉ directory) :
    Apart root directories blobs := by
  intro directory member front prior blob inside same
  obtain ⟨owner, fileName, stamp, rfl⟩ := saved blob inside
  obtain ⟨notRoot, notDirectory⟩ := differ _ inside (leaf fileName stamp) (by simp [branch])
  have last : leaf fileName stamp ∈ resolveNames front := by
    rw [same, resolveNames_branch]
    exact List.mem_append_right _ (List.mem_singleton_self _)
  rcases List.mem_append.mp (prior.subset ((resolveNames_sublist front).subset last)) with
    within | within
  · exact notRoot within
  · exact notDirectory directory member within

namespace BlobStore
variable {β : Type} {store after : BlobStore β} {directories blobs : List (List String)}
  {owner fileName stamp : String} {data : β}

/-- A store that can be written to, with blobs at given places and directories on the way to given
ones, all behind the root. -/
structure Ready (directories blobs : List (List String)) (store : BlobStore β) : Prop where
  writable : store.refusal = none
  files : ∀ names data, store.tree.files.get? names = some data →
    ∃ blob ∈ blobs, names = resolveNames (store.root.names ++ blob)
  directories : ∀ names ∈ store.tree.directories,
    ∃ directory ∈ directories, ∃ front, front <+: store.root.names ++ directory ∧
      names = resolveNames front

theorem ready_empty (root : Path) (blobs : List (List String))
    (common : ["pricing"] ∈ directories) : (empty root : BlobStore β).Ready directories blobs where
  writable := rfl
  files names data held := by
    rw [files_empty] at held
    cases held
  directories names inside := by
    rcases FileTree.directories_makeDirectory FileTree.wellFormed_empty (root.child "pricing")
      names inside with before | ⟨front, prior, same⟩
    · cases before
    · exact ⟨["pricing"], common, front, prior, same⟩

theorem Ready.remove (ready : store.Ready directories blobs) (path : Path) :
    ({ store with tree := store.tree.remove path } : BlobStore β).Ready directories blobs where
  writable := ready.writable
  files names data held := by
    rw [FileTree.remove, Table.get?_erase] at held
    split at held
    · cases held
    · exact ready.files names data held
  directories := ready.directories

theorem Ready.delete (ready : store.Ready directories blobs) {path : String} {removed : Bool}
    (ok : store.delete path = .ok (removed, after)) : after.Ready directories blobs := by
  obtain ⟨resolved, _, ok⟩ := ok_of_bind ok
  split at ok
  · cases ok
    exact ready.remove resolved
  · cases ok
    exact ready

theorem Ready.save (ready : store.Ready directories blobs) (formed : store.WellFormed)
    (house : ownerNames owner ∈ directories) (blob : branch owner fileName stamp ∈ blobs)
    (data : β) : (store.save owner fileName stamp data).2.Ready directories blobs := by
  have saving := formed.save_cases owner fileName stamp data
  have root : (store.save owner fileName stamp data).2.root = store.root := by
    rcases saving with ⟨_, _, ok, _, root, _⟩ | ⟨_, ok, _, root, _⟩ <;> rw [ok, root]
  have files (names : List String) (found : β)
      (held : (store.save owner fileName stamp data).2.tree.files.get? names = some found) :
      names = store.place owner fileName stamp ∨ store.tree.files.get? names = some found := by
    rcases saving with ⟨_, _, ok, _, _, files⟩ | ⟨_, ok, _, _, files⟩
    · rw [ok, files] at held
      exact .inr held
    · rw [ok, files, Table.get?_put] at held
      split at held
      · next same => exact .inl same
      · exact .inr held
  have way : (store.blobPath owner fileName stamp).parent.names
      = store.root.names ++ ownerNames owner := by
    rw [blobPath_eq, parent, branch, ← List.append_assoc, List.dropLast_concat]
  have saved : store.save owner fileName stamp data
      = ((store.tree.place (store.blobPath owner fileName stamp) data).1.map fun () =>
          ((store.blobPath owner fileName stamp).dropNames store.root.names.length).text,
        { store with tree := (store.tree.place (store.blobPath owner fileName stamp) data).2 }) := by
    rw [BlobStore.save, ready.writable]
  refine ⟨?_, fun names found held => ?_, fun names inside => ?_⟩
  · rw [saved]
    exact ready.writable
  · rw [root]
    rcases files names found held with here | before
    · exact ⟨_, blob, here⟩
    · exact ready.files names found before
  · rw [root]
    rw [saved] at inside
    dsimp only at inside
    rw [FileTree.directories_place] at inside
    rcases FileTree.directories_makeDirectory formed.tree _ names inside with
      before | ⟨front, prior, same⟩
    · exact ready.directories names before
    · exact ⟨_, house, front, way ▸ prior, same⟩

/-- A blob is saved if and only if its path fits. -/
theorem Ready.save_eq_ok_iff (ready : store.Ready directories blobs) (formed : store.WellFormed)
    (apart : Apart store.root.names directories blobs)
    (house : ownerNames owner ∈ directories) (blob : branch owner fileName stamp ∈ blobs)
    (data : β) : (store.save owner fileName stamp data).1 = .ok (storagePath owner fileName stamp) ↔
      (blobAt store.root owner fileName stamp).Fits := by
  have path : store.blobPath owner fileName stamp = blobAt store.root owner fileName stamp :=
    blobPath_eq store owner fileName stamp
  have names : (blobAt store.root owner fileName stamp).names
      = (store.root.names ++ ownerNames owner) ++ [leaf fileName stamp] :=
    (List.append_assoc _ _ _).symm
  have way : (blobAt store.root owner fileName stamp).parent.names
      = store.root.names ++ ownerNames owner := by
    rw [parent, names, List.dropLast_concat]
  have clear : store.tree.Clear [] (blobAt store.root owner fileName stamp).parent.names := by
    intro front prior
    rw [List.nil_append]
    by_contra held
    obtain ⟨found, held⟩ := Option.ne_none_iff_exists'.mp held
    obtain ⟨other, member, same⟩ := ready.files _ _ held
    exact apart _ house front (way ▸ prior) other member same
  have free : (blobAt store.root owner fileName stamp).resolve.names ∉
      (store.tree.makeDirectory [] (blobAt store.root owner fileName stamp).parent).2.directories := by
    intro inside
    rcases FileTree.directories_makeDirectory formed.tree _ _ inside with
      before | ⟨front, prior, same⟩
    · obtain ⟨directory, member, front, prior, same⟩ := ready.directories _ before
      exact apart directory member front prior _ blob same.symm
    · exact apart _ house front (way ▸ prior) _ blob same.symm
  rw [← FileTree.place_eq_ok_iff formed.tree names clear free data, BlobStore.save, ready.writable]
  dsimp only
  have text : ((blobAt store.root owner fileName stamp).dropNames store.root.names.length).text
      = storagePath owner fileName stamp := by
    rw [blobAt, dropNames, List.drop_left]
    rfl
  rw [path, text]
  rcases (store.tree.place (blobAt store.root owner fileName stamp) data).1 with error | done
  · constructor
    · rintro ⟨⟩
    · rintro ⟨⟩
  · exact iff_of_true rfl rfl

end BlobStore
end SheetPricing.Storage
