import SheetPricing.Proofs.Archive.Storing
import SheetPricing.Proofs.Loading.Digest

/-! Runs of operations on an archive that starts empty, where at any time writing a blob may be
refused and files may get lost. Whatever came before, an operation that fails leaves the rows and
the blobs as they were. -/
namespace SheetPricing.Archive
open Action Loading Storage
variable {β : Type} {format : FileFormat β} {known : β → Prop} {archive after : Archive β}
  {used more : List String}

/-- What is asked of an archive. -/
inductive Operation (β : Type) where
  | store (owner : String) (config : PricingConfig) (upload : Option (Upload β)) (moment : Moment)
    (commit : Commit)
  | clear (owner : String) (commit : Commit)
  | get (owner : String)
  | load (config : PricingConfig)
  | clearCache

namespace Operation

def act (format : FileFormat β) : Operation β → ArchiveM β Unit
  | .store owner config upload moment commit =>
    discard (Archive.store format owner config upload moment commit)
  | .clear owner commit => Archive.clear owner commit
  | .get owner => discard (return (← MonadState.get).config? owner : ArchiveM β _)
  | .load config => discard (orLoadError (loadWorkbook format config))
  | .clearCache => modify fun archive => { archive with loader := archive.loader.clear }

def stamps : Operation β → List String
  | .store _ _ upload moment _ => stampsOf upload moment
  | _ => []

def uploads : Operation β → List β
  | .store _ _ upload _ _ => (upload.map Upload.data).toList
  | _ => []

/-- The owner whose configuration is to be changed. -/
def owner? : Operation β → Option String
  | .store owner _ _ _ _ => some owner
  | .clear owner _ => some owner
  | _ => none

theorem known_of_store {owner : String} {config : PricingConfig} {upload : Option (Upload β)}
    {moment : Moment} {commit : Commit}
    (held : ∀ data ∈ (store owner config upload moment commit).uploads, known data) :
    ∀ given ∈ upload, known given.data := by
  rintro given ⟨⟩
  exact held given.data (List.mem_singleton_self _)

end Operation

/-- What happens to an archive. -/
inductive Event (β : Type) where
  | operation (asked : Operation β)
  /-- From now on no blob can be written, or they can be written again. -/
  | refusal (error : Option FileError)
  /-- A file gets lost. -/
  | loss (path : Path)

namespace Event

def apply (format : FileFormat β) : Event β → Archive β → Archive β
  | .operation asked, archive => ((asked.act format).on archive).2
  | .refusal error, archive =>
    { archive with blobs := { archive.blobs with refusal := error } }
  | .loss path, archive =>
    { archive with blobs := { archive.blobs with tree := archive.blobs.tree.remove path } }

def stamps : Event β → List String
  | .operation asked => asked.stamps
  | _ => []

def uploads : Event β → List β
  | .operation asked => asked.uploads
  | _ => []

end Event

/-- An archive without any rows and blobs. -/
def opened (root : Path) (timeout : Amount) (retries : Int) (replies : List (Reply β)) :
    Archive β :=
  ⟨.empty, .empty root, .new timeout retries replies⟩

def run (format : FileFormat β) (events : List (Event β)) (archive : Archive β) : Archive β :=
  events.foldl (fun archive event => event.apply format archive) archive

theorem orderly_opened (root : Path) (timeout : Amount) (retries : Int) {replies : List (Reply β)}
    (answers : ∀ status reason body, .response status reason body ∈ replies → known body) :
    (opened root timeout retries replies).Orderly format known [] where
  blobs := BlobStore.wellFormed_empty root
  loader := ⟨fun _ _ => nofun, answers⟩
  held names data held := by
    change (BlobStore.empty root).tree.files.get? names = some data at held
    rw [BlobStore.files_empty] at held
    cases held
  proper := nofun
  stamped names data held := by
    change (BlobStore.empty root).tree.files.get? names = some data at held
    rw [BlobStore.files_empty] at held
    cases held
  referred _ _ held := nomatch held

theorem IsReference.append {owner path : String} (reference : IsReference used owner path)
    (more : List String) : IsReference (used ++ more) owner path :=
  reference.imp_right fun ⟨fileName, stamp, member, same⟩ =>
    ⟨fileName, stamp, List.mem_append_left more member, same⟩

/-- Every file and every reference is one from before or belongs to a new stamp. -/
theorem Orderly.extend (orderly : archive.Orderly format known used)
    (proper : ∀ stamp ∈ more, isStamp stamp = true) (sound : after.Sound format known)
    (files : ∀ names, (after.blobs.tree.files.get? names).isSome →
      (archive.blobs.tree.files.get? names).isSome ∨ ∃ stamp ∈ more, Stamped stamp names)
    (rows : ∀ owner row, after.row? owner = some row → archive.row? owner = some row ∨
      IsReference (used ++ more) owner row.storagePath) :
    after.Orderly format known (used ++ more) where
  toSound := sound
  proper stamp member := (List.mem_append.mp member).elim (orderly.proper stamp) (proper stamp)
  stamped names data held := by
    rcases files names (by rw [held]; rfl) with before | ⟨stamp, member, stamped⟩
    · obtain ⟨other, before⟩ := Option.isSome_iff_exists.mp before
      obtain ⟨stamp, member, stamped⟩ := orderly.stamped names other before
      exact ⟨stamp, List.mem_append_left more member, stamped⟩
    · exact ⟨stamp, List.mem_append_right used member, stamped⟩
  referred owner row current := by
    rcases rows owner row current with before | reference
    · exact (orderly.referred owner row before).append more
    · exact reference

theorem Orderly.undisturbed (orderly : archive.Orderly format known used)
    (same : Undisturbed archive after) (keeps : after.loader.Keeps format known)
    (more : List String) (proper : ∀ stamp ∈ more, isStamp stamp = true) :
    after.Orderly format known (used ++ more) := by
  refine orderly.extend proper (same.sound orderly.toSound keeps) ?_ ?_
  · rw [same.blobs]
    exact fun _ held => .inl held
  · intro owner row current
    rw [row?, same.rows] at current
    exact .inl current

theorem Orderly.reverted {owner : String} {stamps : List String}
    (orderly : archive.Orderly format known used)
    (reverted : Reverted archive after owner stamps) (sound : after.Sound format known)
    (more : List String) (proper : ∀ stamp ∈ more, isStamp stamp = true) :
    after.Orderly format known (used ++ more) := by
  refine orderly.extend proper sound (fun names held => ?_) fun owner row current => ?_
  · left
    rcases reverted.files with same | ⟨stamp, _, name, data, files⟩
    · rwa [same] at held
    · rw [files, Table.get?_erase] at held
      split at held
      · cases held
      · next elsewhere => rwa [Table.get?_put, if_neg elsewhere] at held
  · rw [row?, reverted.rows] at current
    exact .inl current

theorem Orderly.stored {owner : String} {config : PricingConfig} {upload : Option (Upload β)}
    {moment : Moment} {parsed : Parsed} {row : Row} (orderly : archive.Orderly format known used)
    (proper : ∀ stamp ∈ stampsOf upload moment, isStamp stamp = true)
    (stored : Stored format known owner config upload moment archive after parsed row) :
    after.Orderly format known (used ++ stampsOf upload moment) := by
  refine orderly.extend proper stored.sound (fun names held => ?_) fun other found current => ?_
  · cases stored.origin with
    | uploaded given name here path hash saved gone kept =>
      by_cases new : names = archive.blobs.place owner name moment.stamp
      · right
        rw [here, new]
        exact ⟨_, List.mem_singleton_self _, BlobStore.stamped_place _ _ _ _⟩
      · left
        by_cases left : Abandoned archive.blobs (archive.row? owner) row.storagePath names
        · rw [gone names new left] at held
          cases held
        · rwa [kept names new left] at held
    | stored old without here path hash files => exact .inl (by rwa [files] at held)
    | remote without new url hash files => exact .inl (by rwa [files] at held)
  · rw [row?, stored.rows, Table.get?_put] at current
    split at current
    · next same =>
      obtain rfl := Option.some.inj current
      right
      rw [same]
      cases stored.origin with
      | uploaded given name here path =>
        exact .inr ⟨name, moment.stamp, by simp [here, stampsOf], path⟩
      | stored old without here path =>
        rw [path]
        exact (orderly.referred owner old here).append _
      | remote without new url => exact .inl url
    · exact .inl current

theorem Orderly.perform (orderly : archive.Orderly format known used) (asked : Operation β)
    (proper : ∀ stamp ∈ asked.stamps, isStamp stamp = true)
    (held : ∀ data ∈ asked.uploads, known data) :
    ((asked.act format).on archive).2.Orderly format known (used ++ asked.stamps) := by
  cases asked with
  | store owner config upload moment commit =>
    have uploads := Operation.known_of_store held
    rw [Operation.act, on_discard]
    rcases outcome : (store format owner config upload moment commit).on archive with
      ⟨error | stored, after⟩
    · obtain ⟨reverted, sound⟩ := store_error orderly uploads proper outcome
      exact orderly.reverted reverted sound _ proper
    · obtain ⟨parsed, row, _, stored⟩ := store_ok orderly uploads proper outcome
      exact orderly.stored proper stored
  | clear owner commit =>
    rcases clear_cases orderly owner commit with
      ⟨error, failed⟩ | ⟨after, ok, sound, rows, root, gone, kept⟩
    · rw [Operation.act, failed]
      exact orderly.undisturbed ⟨rfl, rfl⟩ orderly.loader _ proper
    · rw [Operation.act, ok]
      refine orderly.extend proper sound (fun names held => ?_) fun other found current => ?_
      · by_cases refers : archive.Refers owner names
        · rw [gone names refers] at held
          cases held
        · exact .inl (by rwa [kept names refers] at held)
      · rw [row?, rows, Table.get?_erase] at current
        split at current
        · cases current
        · exact .inl current
  | get owner => exact orderly.undisturbed ⟨rfl, rfl⟩ orderly.loader _ proper
  | load config =>
    rw [Operation.act, on_discard]
    exact orderly.undisturbed (undisturbed_loadWorkbook format config archive)
      (orderly.toSound.loadWorkbook config).loader _ proper
  | clearCache =>
    have same : Undisturbed archive { archive with loader := archive.loader.clear } := ⟨rfl, rfl⟩
    exact orderly.undisturbed same orderly.loader.clear _ proper

theorem Orderly.apply (orderly : archive.Orderly format known used) (event : Event β)
    (proper : ∀ stamp ∈ event.stamps, isStamp stamp = true)
    (held : ∀ data ∈ event.uploads, known data) :
    (event.apply format archive).Orderly format known (used ++ event.stamps) := by
  cases event with
  | operation asked => exact orderly.perform asked proper held
  | refusal error =>
    have blobs : BlobStore.WellFormed { archive.blobs with refusal := error } :=
      ⟨orderly.blobs.tree, orderly.blobs.short⟩
    exact orderly.extend proper ⟨blobs, orderly.loader, orderly.held⟩ (fun _ held => .inl held)
      fun _ _ current => .inl current
  | loss path =>
    -- Losing a file uses no stamp, and what is left was there before.
    have fewer {names : List String} {data : β}
        (held : (archive.blobs.tree.remove path).files.get? names = some data) :
        archive.blobs.tree.files.get? names = some data := by
      rw [FileTree.remove, Table.get?_erase] at held
      split at held
      · cases held
      · exact held
    refine orderly.extend proper
      ⟨orderly.blobs.remove path, orderly.loader, fun names data held => ?_⟩
      (fun names held => ?_) fun _ _ current => .inl current
    · exact orderly.held names data (fewer held)
    · obtain ⟨data, held⟩ := Option.isSome_iff_exists.mp held
      exact .inl (by rw [fewer held]; rfl)

theorem Orderly.run (orderly : archive.Orderly format known used) (events : List (Event β))
    (proper : ∀ stamp ∈ events.flatMap Event.stamps, isStamp stamp = true)
    (held : ∀ data ∈ events.flatMap Event.uploads, known data) :
    (Archive.run format events archive).Orderly format known
      (used ++ events.flatMap Event.stamps) := by
  induction events generalizing used archive with
  | nil => simpa [Archive.run] using orderly
  | cons event rest ih =>
    rw [List.flatMap_cons] at proper held
    have next := orderly.apply event
      (fun stamp member => proper stamp (List.mem_append_left _ member))
      (fun data member => held data (List.mem_append_left _ member))
    rw [List.flatMap_cons, ← List.append_assoc]
    exact ih next (fun stamp member => proper stamp (List.mem_append_right _ member))
      (fun data member => held data (List.mem_append_right _ member))

theorem error_of_discard {α : Type} {action : ArchiveM β α} {error : ArchiveError}
    (failed : (discard action).on archive = (.error error, after)) :
    action.on archive = (.error error, after) := by
  rw [on_discard] at failed
  obtain ⟨outcome, state⟩ := Prod.mk.inj failed
  refine Prod.ext ?_ state
  cases result : (action.on archive).1 with
  | error other =>
    rw [result] at outcome
    exact congrArg Except.error (Except.error.inj outcome)
  | ok value =>
    rw [result] at outcome
    cases outcome

theorem Orderly.intact_of_error (orderly : archive.Orderly format known used)
    (asked : Operation β) (proper : ∀ stamp ∈ asked.stamps, isStamp stamp = true)
    (new : ∀ stamp ∈ asked.stamps, stamp ∉ used) (held : ∀ data ∈ asked.uploads, known data)
    {error : ArchiveError} (failed : (asked.act format).on archive = (.error error, after)) :
    Intact archive after := by
  cases asked with
  | store owner config upload moment commit =>
    have reverted := store_error orderly (Operation.known_of_store held) proper
      (error_of_discard failed)
    exact reverted.1.intact orderly proper new
  | clear owner commit =>
    rcases clear_cases orderly owner commit with ⟨other, unchanged⟩ | ⟨_, ok, _⟩
    · cases unchanged.symm.trans failed
      exact ⟨rfl, rfl, rfl⟩
    · cases ok.symm.trans failed
  | get owner => cases failed
  | load config =>
    have same := undisturbed_loadWorkbook format config archive
    rw [Operation.act, on_discard] at failed
    obtain ⟨_, rfl⟩ := Prod.mk.inj failed
    exact same.intact
  | clearCache => cases failed

/-- Whatever happened before and whatever an operation fails for, it leaves all rows and all blobs
with their contents as they were, if an upload is saved under a new stamp. -/
theorem rows_and_files_of_error {root : Path} {timeout : Amount} {retries : Int}
    {replies : List (Reply β)} {events : List (Event β)} {asked : Operation β}
    {error : ArchiveError}
    (proper : ∀ stamp ∈ events.flatMap Event.stamps ++ asked.stamps, isStamp stamp = true)
    (new : ∀ stamp ∈ asked.stamps, stamp ∉ events.flatMap Event.stamps)
    (failed : (asked.act format).on (run format events (opened root timeout retries replies))
      = (.error error, after)) :
    after.rows = (run format events (opened root timeout retries replies)).rows ∧
      after.blobs.tree.files
        = (run format events (opened root timeout retries replies)).blobs.tree.files := by
  have start : (opened root timeout retries replies).Orderly format (fun _ => True) [] :=
    orderly_opened root timeout retries fun _ _ _ _ => trivial
  have orderly := start.run events
    (fun stamp member => proper stamp (List.mem_append_left _ member)) fun _ _ => trivial
  have intact := orderly.intact_of_error asked
    (fun stamp member => proper stamp (List.mem_append_right _ member)) new (fun _ _ => trivial)
    failed
  exact ⟨intact.rows, intact.files⟩

/-- An archive at `/data`, with the replies to the requests to come. -/
def sampleStart (replies : List (Reply Json)) : Archive Json :=
  opened (Path.ofText "/data") (.real 5) 0 replies

/-- An owner stores a configuration with an upload, in some minute of a day. -/
def sampleStore (owner sheet : String) (number : Int) (minute : Char) (commit : Commit) :
    Operation Json :=
  let config : PricingConfig :=
    ⟨"", "", sheet, PricingConfig.defaultCells, PricingConfig.defaultPriceCell, none⟩
  let stamp := String.ofList ("20240131_08000".toList ++ minute :: "_000000".toList)
  .store owner config (some ⟨oneCellFile "Prijzen" number, some "prijzen.xlsx"⟩)
    ⟨stamp, "2024-01-31"⟩ commit

theorem rows_and_files_of_error_of_commit :
    let before := run cellFormat [.operation (sampleStore "anna" "Prijzen" 1 '1' (.ok ()))]
      (sampleStart [])
    let step := ((sampleStore "anna" "Prijzen" 2 '2' (.error "commit failed")).act cellFormat).on
      before
    before.blobs.paths = ["pricing/anna/20240131_080001_000000_prijzen.xlsx"] ∧
      step.1 = .error (.commit "commit failed") ∧
      step.2.rows = before.rows ∧ step.2.blobs.tree.files = before.blobs.tree.files := by
  intro before step
  have paths : before.blobs.paths = ["pricing/anna/20240131_080001_000000_prijzen.xlsx"] := by
    decide +kernel
  have failed : step.1 = .error (.commit "commit failed") := by decide +kernel
  exact ⟨paths, failed, rows_and_files_of_error (by decide) (by decide) (Prod.ext failed rfl)⟩

end SheetPricing.Archive
