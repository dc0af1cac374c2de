import SheetPricing.Proofs.Storage.BlobStore

/-! The blob store as a map. All texts that lead to one place below the root name one blob; it is put
there when it is saved, and stays until it is deleted by one of them. Nothing is read or removed under a
text that leads anywhere else. -/
namespace SheetPricing.Storage
open Path

namespace BlobStore
variable {β : Type} {store : BlobStore β} {text : String} {names : List String} {data : β}

/-- What comes of the calls with a text that leads to a place: they act on the blob there. -/
structure Serves (store : BlobStore β) (text : String) (names : List String) : Prop where
  read : ∀ data, store.read text = .ok data ↔ store.tree.files.get? names = some data
  hasFile : store.hasFile text = .ok true ↔ (store.tree.files.get? names).isSome
  delete : ∃ removed after, store.delete text = .ok (removed, after) ∧
    (removed = true ↔ (store.tree.files.get? names).isSome) ∧
    after.tree.files = store.tree.files.erase names

/-- What comes of the calls with a text that leads nowhere: they are refused. -/
structure Refuses (store : BlobStore β) (text : String) : Prop where
  read : store.read text = .error (refusalOf text)
  hasFile : store.hasFile text = .error (refusalOf text)
  delete : store.delete text = .error (refusalOf text)

theorem refuses_of_leads_nowhere (nowhere : ∀ names, ¬ Leads store.root text names) :
    store.Refuses text := by
  have refused := resolve_of_leads_nowhere nowhere
  exact ⟨by rw [read, refused]; rfl, by rw [hasFile, refused]; rfl, by rw [delete, refused]; rfl⟩

section
variable (formed : store.WellFormed) (leads : Leads store.root text names)
include formed leads

theorem WellFormed.hasFile_eq_true_iff :
    store.hasFile text = .ok true ↔ (store.tree.files.get? names).isSome := by
  have found (data : β) : store.tree.find [] ⟨store.root.anchor, names⟩ = .ok (.file data) ↔
      store.tree.files.get? names = some data := formed.find_eq_file_iff leads.back_notMem
  rw [hasFile, resolve_of_leads leads, ok_bind, Option.isSome_iff_exists]
  split
  · next data here => exact iff_of_true rfl ⟨data, (found data).mp here⟩
  · next failed =>
    constructor
    · rintro ⟨⟩
    · rintro ⟨data, held⟩
      cases failed.symm.trans ((found data).mpr held)
  · next other _ =>
    constructor
    · rintro ⟨⟩
    · rintro ⟨data, held⟩
      exact absurd ((found data).mpr held) (other data)

theorem WellFormed.serves_of_leads : store.Serves text names where
  read _ := formed.read_eq_ok_iff leads
  hasFile := formed.hasFile_eq_true_iff leads
  delete := by
    obtain ⟨removed, after, deleted, _, _, told, files⟩ := formed.delete_of_leads leads
    exact ⟨removed, after, deleted, told, files⟩

end

/-- What a store is used for, in an environment that may refuse to write at times. -/
inductive Use (β : Type) where
  | save (owner fileName stamp : String) (data : β)
  | read (text : String)
  | hasFile (text : String)
  | delete (text : String)
  /-- From now on no blob can be written, or they can be written again. -/
  | refusal (error : Option FileError)

/-- The stamps that are used up. -/
def Use.stamps : Use β → List String
  | .save _ _ stamp _ => [stamp]
  | _ => []

/-- A store after it was used. -/
def apply (store : BlobStore β) : Use β → BlobStore β
  | .save owner fileName stamp data => (store.save owner fileName stamp data).2
  | .read _ => store
  | .hasFile _ => store
  | .delete text => match store.delete text with
    | .ok (_, after) => after
    | .error _ => store
  | .refusal error => { store with refusal := error }

def run (store : BlobStore β) (uses : List (Use β)) : BlobStore β := uses.foldl apply store

/-- What holds of a store at all times: its blobs lie below the root, each under a stamp that was used. -/
structure Kept (root : Path) (used : List String) (store : BlobStore β) : Prop where
  formed : store.WellFormed
  rooted : store.root = root
  below : ∀ names data, store.tree.files.get? names = some data →
    ∃ more, more ≠ [] ∧ names = resolveNames root.names ++ more
  stamped : ∀ names data, store.tree.files.get? names = some data → ∃ stamp ∈ used, Stamped stamp names

section
variable {root : Path} {used : List String} {use : Use β} {uses : List (Use β)}

theorem kept_empty (root : Path) : (empty root : BlobStore β).Kept root [] where
  formed := wellFormed_empty root
  rooted := rfl
  below names data held := by
    rw [files_empty] at held
    cases held
  stamped names data held := by
    rw [files_empty] at held
    cases held

/-- A use adds at most one blob, under its own stamp. -/
theorem Kept.extend {after : BlobStore β} {more : List String} (kept : store.Kept root used)
    (formed : after.WellFormed) (same : after.root = root)
    (files : ∀ names data, after.tree.files.get? names = some data →
      store.tree.files.get? names = some data ∨
        (∃ further, further ≠ [] ∧ names = resolveNames root.names ++ further) ∧
          ∃ stamp ∈ more, Stamped stamp names) : after.Kept root (used ++ more) where
  formed := formed
  rooted := same
  below names data held := (files names data held).elim (kept.below names data) And.left
  stamped names data held := by
    rcases files names data held with before | ⟨_, stamp, member, stamped⟩
    · obtain ⟨stamp, member, stamped⟩ := kept.stamped names data before
      exact ⟨stamp, List.mem_append_left _ member, stamped⟩
    · exact ⟨stamp, List.mem_append_right _ member, stamped⟩

theorem Kept.apply (kept : store.Kept root used) (use : Use β)
    (proper : ∀ stamp ∈ use.stamps, isStamp stamp = true) :
    (store.apply use).Kept root (used ++ use.stamps) := by
  cases use with
  | save owner fileName stamp data =>
    rcases kept.formed.save_cases owner fileName stamp data with
      ⟨error, after, failed, formed, same, files⟩ | ⟨after, saved, formed, same, files⟩
    · rw [BlobStore.apply, failed]
      exact kept.extend formed (same.trans kept.rooted) fun names data held => .inl (files ▸ held)
    · rw [BlobStore.apply, saved]
      refine kept.extend formed (same.trans kept.rooted) fun names found held => ?_
      rw [files, Table.get?_put] at held
      split at held
      · next here =>
        have leads := store.leads_storagePath owner fileName (proper stamp (List.mem_singleton_self _))
        rw [here, ← kept.rooted]
        exact .inr ⟨leads.below, stamp, List.mem_singleton_self _, store.stamped_place _ _ _⟩
      · exact .inl held
  | read text => exact kept.extend kept.formed kept.rooted fun _ _ => .inl
  | hasFile text => exact kept.extend kept.formed kept.rooted fun _ _ => .inl
  | delete text =>
    rw [BlobStore.apply]
    by_cases somewhere : ∃ names, Leads store.root text names
    · obtain ⟨place, leads⟩ := somewhere
      obtain ⟨removed, after, deleted, formed, same, _, files⟩ := kept.formed.delete_of_leads leads
      rw [deleted]
      refine kept.extend formed (same.trans kept.rooted) fun names data held => .inl ?_
      rw [files, Table.get?_erase] at held
      split at held
      · cases held
      · exact held
    · rw [(refuses_of_leads_nowhere (not_exists.mp somewhere)).delete]
      exact kept.extend kept.formed kept.rooted fun _ _ => .inl
  | refusal error =>
    exact kept.extend ⟨kept.formed.tree, kept.formed.short⟩ kept.rooted fun _ _ => .inl

theorem Kept.run (kept : store.Kept root used)
    (proper : ∀ stamp ∈ uses.flatMap Use.stamps, isStamp stamp = true) :
    (store.run uses).Kept root (used ++ uses.flatMap Use.stamps) := by
  induction uses generalizing store used with
  | nil =>
    rw [List.flatMap_nil, List.append_nil]
    exact kept
  | cons use uses ih =>
    rw [List.flatMap_cons] at proper ⊢
    obtain ⟨here, later⟩ := List.forall_mem_append.mp proper
    rw [← List.append_assoc]
    exact ih (kept.apply use here) later

/-- A save under a new stamp puts one blob where none is, or it changes none. -/
theorem Kept.save_cases (kept : store.Kept root used) (proper : ∀ stamp ∈ used, isStamp stamp = true)
    {stamp : String} (properToo : isStamp stamp = true) (new : stamp ∉ used) (owner fileName : String)
    (data : β) :
    (∃ error after, store.save owner fileName stamp data = (.error error, after) ∧
      after.tree.files = store.tree.files) ∨
    ∃ path after names, store.save owner fileName stamp data = (.ok path, after) ∧
      Leads root path names ∧ Stamped stamp names ∧ store.tree.files.get? names = none ∧
      after.tree.files = store.tree.files.put names data := by
  rcases kept.formed.save_cases owner fileName stamp data with
    ⟨error, after, failed, _, _, files⟩ | ⟨after, saved, _, _, files⟩
  · exact .inl ⟨error, after, failed, files⟩
  have stamped := store.stamped_place owner fileName stamp
  refine .inr ⟨_, after, _, saved, ?_, stamped, ?_, files⟩
  · exact kept.rooted ▸ store.leads_storagePath owner fileName properToo
  · by_contra held
    obtain ⟨other, held⟩ := Option.ne_none_iff_exists'.mp held
    obtain ⟨earlier, member, also⟩ := kept.stamped _ _ held
    obtain rfl := stamped.unique also properToo (proper earlier member)
    exact new member

/-- A blob stays where it is in a use that neither saves under its stamp nor deletes it. -/
theorem Kept.get?_apply (kept : store.Kept root used) (held : store.tree.files.get? names = some data)
    (unsaved : ∀ stamp ∈ use.stamps, ¬ Stamped stamp names)
    (undeleted : ∀ text, use = .delete text → ¬ Leads root text names) :
    (store.apply use).tree.files.get? names = some data := by
  cases use with
  | save owner fileName stamp other =>
    rcases kept.formed.save_cases owner fileName stamp other with
      ⟨error, after, failed, _, _, files⟩ | ⟨after, saved, _, _, files⟩
    · rw [BlobStore.apply, failed, files, held]
    · rw [BlobStore.apply, saved, files, Table.get?_put, if_neg, held]
      rintro rfl
      exact unsaved stamp (List.mem_singleton_self _) (store.stamped_place _ _ _)
  | read text => exact held
  | hasFile text => exact held
  | delete text =>
    rw [BlobStore.apply]
    by_cases somewhere : ∃ names, Leads store.root text names
    · obtain ⟨place, leads⟩ := somewhere
      obtain ⟨removed, after, deleted, _, _, _, files⟩ := kept.formed.delete_of_leads leads
      rw [deleted, files, Table.get?_erase, if_neg, held]
      rintro rfl
      exact undeleted text rfl (kept.rooted ▸ leads)
    · rw [(refuses_of_leads_nowhere (not_exists.mp somewhere)).delete, held]
  | refusal error => exact held

theorem Kept.get?_run (kept : store.Kept root used) (held : store.tree.files.get? names = some data)
    (proper : ∀ stamp ∈ uses.flatMap Use.stamps, isStamp stamp = true)
    (unsaved : ∀ stamp ∈ uses.flatMap Use.stamps, ¬ Stamped stamp names)
    (undeleted : ∀ text, .delete text ∈ uses → ¬ Leads root text names) :
    (store.run uses).tree.files.get? names = some data := by
  induction uses generalizing store used with
  | nil => exact held
  | cons use uses ih =>
    rw [List.flatMap_cons] at proper unsaved
    obtain ⟨here, later⟩ := List.forall_mem_append.mp proper
    obtain ⟨unsavedHere, unsavedLater⟩ := List.forall_mem_append.mp unsaved
    have still := kept.get?_apply held unsavedHere fun text same =>
      undeleted text (same ▸ List.mem_cons_self)
    exact ih (kept.apply use here) still later unsavedLater fun text inside =>
      undeleted text (List.mem_cons_of_mem _ inside)

end

end BlobStore
end SheetPricing.Storage
