import SheetPricing.Proofs.Archive.Caching
import SheetPricing.Proofs.Archive.Consistency

/-! What an archive remembers of the workbooks at URLs. Only digests are ever dropped from the cache,
so a workbook that was downloaded once stays, and a row with its URL is served without the network
until the cache is cleared. -/
namespace SheetPricing.Loading.Loader
open Action
variable {β : Type} {format : FileFormat β} {loader after last : Loader β} {data : β}
  {key url : String} {parsed : Parsed} {workbook other : Workbook}

/-- Nothing has changed that a download depends on, nor what is kept under URLs. -/
structure SameRemote (loader after : Loader β) : Prop where
  urls : ∀ url, isUrl url = true → after.cache.get? url = loader.cache.get? url
  network : after.network = loader.network
  timeout : after.timeout = loader.timeout
  retries : after.retries = loader.retries

theorem SameRemote.refl (loader : Loader β) : SameRemote loader loader :=
  ⟨fun _ _ => rfl, rfl, rfl, rfl⟩

theorem SameRemote.trans (first : SameRemote loader after) (second : SameRemote after last) :
    SameRemote loader last :=
  ⟨fun url remote => (second.urls url remote).trans (first.urls url remote),
    second.network.trans first.network, second.timeout.trans first.timeout,
    second.retries.trans first.retries⟩

theorem sameRemote_evict (plain : isUrl key = false) : SameRemote loader (loader.evict key) := by
  refine ⟨fun url remote => ?_, rfl, rfl, rfl⟩
  have apart : url ≠ key := by
    rintro rfl
    exact absurd (plain.symm.trans remote) Bool.false_ne_true
  rw [evict, Table.get?_erase, if_neg apart]

theorem sameRemote_loadBytes (noUrl : ∀ data, isUrl (format.digest data) = false) (data : β)
    (loader : Loader β) : SameRemote loader ((loadBytes format data).on loader).2 := by
  cases cached : loader.cache.get? (format.digest data) with
  | some found =>
    rw [on_loadBytes_of_cached cached]
    exact .refl loader
  | none =>
    rw [on_loadBytes_of_new cached]
    split
    · exact .refl loader
    · refine ⟨fun url remote => ?_, rfl, rfl, rfl⟩
      have apart : url ≠ format.digest data := by
        rintro rfl
        exact absurd ((noUrl data).symm.trans remote) Bool.false_ne_true
      rw [keep, Table.get?_put, if_neg apart]

/-- What is kept under a URL is kept. -/
def Retains (loader after : Loader β) : Prop :=
  ∀ url parsed, isUrl url = true → loader.cache.get? url = some parsed →
    after.cache.get? url = some parsed

theorem SameRemote.retains (same : SameRemote loader after) : Retains loader after :=
  fun url _ remote cached => (same.urls url remote).trans cached

theorem retains_loadUrl (noUrl : ∀ data, isUrl (format.digest data) = false) (url : String)
    (loader : Loader β) : Retains loader ((loadUrl format url).on loader).2 := by
  cases cached : loader.cache.get? url with
  | some found =>
    rw [on_loadUrl_of_cached cached]
    exact fun _ _ _ held => held
  | none =>
    intro other parsed remote held
    have fetched := (fetched_download url loader).cache
    have apart : other ≠ url := by
      rintro rfl
      cases cached.symm.trans held
    rw [on_loadUrl_of_new cached]
    generalize (download url).on loader = downloaded at fetched ⊢
    rcases downloaded with ⟨_ | data, fetched'⟩
    · exact fetched ▸ held
    · have read := (sameRemote_loadBytes noUrl data fetched').urls other remote
      dsimp only at fetched ⊢
      generalize (loadBytes format data).on fetched' = outcome at read ⊢
      rcases outcome with ⟨_ | workbook, final⟩
      · exact read.trans (fetched ▸ held)
      · dsimp only at read ⊢
        rw [keep, Table.get?_put, if_neg apart, read, fetched, held]

/-- A workbook is at hand under a key. -/
def Offers (loader : Loader β) (key : String) (workbook : Workbook) : Prop :=
  ∃ parsed, loader.cache.get? key = some parsed ∧ parsed.workbook = workbook

theorem Offers.unique (first : loader.Offers key workbook) (second : loader.Offers key other) :
    workbook = other := by
  obtain ⟨parsed, cached, rfl⟩ := first
  obtain ⟨found, cachedToo, rfl⟩ := second
  rw [Option.some.inj (cached.symm.trans cachedToo)]

theorem Offers.retained (offers : loader.Offers url workbook) (retains : loader.Retains after)
    (remote : isUrl url = true) : after.Offers url workbook := by
  obtain ⟨parsed, cached, same⟩ := offers
  exact ⟨parsed, retains url parsed remote cached, same⟩

/-- Whatever a loader keeps afterwards was read from some data, and what it kept under URLs stays. -/
structure Lasting (format : FileFormat β) (loader after : Loader β) : Prop where
  keeps : after.Keeps format fun _ => True
  retains : loader.Retains after

theorem Lasting.trans (first : Lasting format loader after) (second : Lasting format after last) :
    Lasting format loader last :=
  ⟨second.keeps, fun url parsed remote held =>
    second.retains url parsed remote (first.retains url parsed remote held)⟩

namespace Keeps
variable (keeps : loader.Keeps format fun _ => True)
  (noUrl : ∀ data, isUrl (format.digest data) = false)
include keeps

theorem lasting : Lasting format loader loader := ⟨keeps, fun _ _ _ held => held⟩

theorem lasting_evict (plain : isUrl key = false) : Lasting format loader (loader.evict key) :=
  ⟨keeps.evict key, (sameRemote_evict plain).retains⟩

include noUrl

theorem lasting_loadBytes (data : β) :
    Lasting format loader ((Loader.loadBytes format data).on loader).2 :=
  ⟨keeps.loadBytes trivial, (sameRemote_loadBytes noUrl data loader).retains⟩

theorem lasting_loadUrl (remote : isUrl url = true) :
    Lasting format loader ((Loader.loadUrl format url).on loader).2 :=
  ⟨keeps.loadUrl remote, retains_loadUrl noUrl url loader⟩

theorem isUrl_hash (cached : loader.cache.get? key = some parsed) :
    isUrl parsed.workbook.hash = false := by
  obtain ⟨data, _, opened, _⟩ := keeps.cached key parsed cached
  rw [hash_of_open opened, noUrl]

end Keeps

end SheetPricing.Loading.Loader

namespace SheetPricing.Archive
open Action Loading Storage
variable {β : Type} {format : FileFormat β} {known : β → Prop} {archive after : Archive β}
  {used : List String} {owner : String} {config : PricingConfig} {moment : Moment}
  {commit : Commit} {given : Upload β} {row : Row}

/-- The digest of a row with a blob is no URL. -/
theorem Backed.plain_hash (backed : archive.Backed format known)
    (noUrl : ∀ data, isUrl (format.digest data) = false) (current : archive.row? owner = some row)
    (stored : isUrl row.storagePath = false) : isUrl row.workbookHash = false := by
  obtain ⟨data, _, _, digest, _⟩ := backed.vouched owner row current stored
  rw [← digest, noUrl]

section
variable (orderly : archive.Orderly format known used) (backed : archive.Backed format known)
  (noUrl : ∀ data, isUrl (format.digest data) = false)
include orderly backed noUrl

/-- An upload leaves what is kept under URLs as it is. -/
theorem sameRemote_storeUpload (held : known given.data) (proper : isStamp moment.stamp = true) :
    Loader.SameRemote archive.loader
      ((store format owner config (some given) moment commit).on archive).2.loader := by
  have loaded := Loader.sameRemote_loadBytes noUrl given.data archive.loader
  have settles := settles_store owner config given commit orderly held proper
  have spare : Loader.SameRemote archive.loader (withoutSpare (format.digest given.data)
      (archive.row? owner) ((Loader.loadBytes format given.data).on archive.loader).2) := by
    rw [withoutSpare]
    split
    · exact loaded.trans (Loader.sameRemote_evict (noUrl given.data))
    · exact loaded
  have replaced : Loader.SameRemote archive.loader (withoutReplaced (format.digest given.data)
      (archive.row? owner) ((Loader.loadBytes format given.data).on archive.loader).2) := by
    cases current : archive.row? owner with
    | none => exact loaded
    | some row =>
      rw [withoutReplaced]
      split
      · exact loaded
      · next stored =>
        have plain := backed.plain_hash noUrl current (eq_false_of_ne_true stored)
        split
        · exact loaded.trans (Loader.sameRemote_evict plain)
        · exact loaded
  generalize ((store format owner config (some given) moment commit).on archive).1 = outcome
    at settles
  generalize ((store format owner config (some given) moment commit).on archive).2.loader = final
    at settles ⊢
  cases settles with
  | unreadable => exact .refl _
  | rejected => exact spare
  | refused => exact loaded
  | lost => exact spare
  | stored => exact replaced

theorem sameRemote_clear (owner : String) (commit : Commit) :
    Loader.SameRemote archive.loader ((clear owner commit).on archive).2.loader := by
  cases current : archive.row? owner with
  | none =>
    rw [clear, on_bind, on_get]
    dsimp only
    rw [current]
    exact .refl _
  | some row =>
    rcases commit with message | done
    · rw [clear, on_bind, on_get]
      dsimp only
      rw [current]
      exact .refl _
    · by_cases remote : isUrl row.storagePath = true
      · rw [clear, on_bind, on_get]
        dsimp only
        rw [current]
        dsimp only
        rw [on_bind, on_modify]
        dsimp only
        rw [if_pos remote]
        exact .refl _
      · have stored := eq_false_of_ne_true remote
        rw [loader_clear orderly current stored]
        exact Loader.sameRemote_evict (backed.plain_hash noUrl current stored)

end

theorem sameRemote_loadWorkbook (noUrl : ∀ data, isUrl (format.digest data) = false)
    (stored : isUrl config.workbookRef = false) (archive : Archive β) :
    Loader.SameRemote archive.loader ((loadWorkbook format config).on archive).2.loader := by
  rw [on_loadWorkbook_of_stored stored]
  split
  · exact .refl _
  · exact Loader.sameRemote_loadBytes noUrl _ _

theorem retains_loadWorkbook (noUrl : ∀ data, isUrl (format.digest data) = false)
    (config : PricingConfig) (archive : Archive β) :
    Loader.Retains archive.loader ((loadWorkbook format config).on archive).2.loader := by
  by_cases remote : isUrl config.workbookRef = true
  · rw [on_loadWorkbook_of_remote remote]
    exact Loader.retains_loadUrl noUrl _ _
  · exact (sameRemote_loadWorkbook noUrl (eq_false_of_ne_true remote) archive).retains

/-- Only clearing the cache loses what is kept under a URL. -/
theorem retains_perform (orderly : archive.Orderly format known used)
    (backed : archive.Backed format known) (noUrl : ∀ data, isUrl (format.digest data) = false)
    (asked : Operation β) (kept : asked ≠ .clearCache)
    (proper : ∀ stamp ∈ asked.stamps, isStamp stamp = true)
    (held : ∀ data ∈ asked.uploads, known data) :
    Loader.Retains archive.loader ((asked.act format).on archive).2.loader := by
  cases asked with
  | store owner config upload moment commit =>
    rw [Operation.act, on_discard]
    rcases upload with _ | given
    · dsimp only
      rw [loader_store_of_none]
      generalize archive.row? owner = old
      rcases old with _ | row
      · rw [checked]
        split
        · exact Loader.retains_loadUrl noUrl _ _
        · exact (Loader.SameRemote.refl _).retains
      · exact retains_loadWorkbook noUrl row.config archive
    · exact (sameRemote_storeUpload orderly backed noUrl
        (held given.data (List.mem_singleton_self _))
        (proper moment.stamp (List.mem_singleton_self _))).retains
  | clear owner commit => exact (sameRemote_clear orderly backed noUrl owner commit).retains
  | get owner => exact (Loader.SameRemote.refl _).retains
  | load config =>
    rw [Operation.act, on_discard]
    exact retains_loadWorkbook noUrl config archive
  | clearCache => exact absurd rfl kept

/-- The workbook of each row with a URL is at hand and has the digest of the row. -/
def Remembered (archive : Archive β) : Prop :=
  ∀ owner row, archive.row? owner = some row → isUrl row.storagePath = true →
    ∃ parsed, archive.loader.cache.get? row.storagePath = some parsed ∧
      parsed.workbook.hash = row.workbookHash

theorem Remembered.perform (remembered : archive.Remembered)
    (orderly : archive.Orderly format known used) (backed : archive.Backed format known)
    (noUrl : ∀ data, isUrl (format.digest data) = false) (asked : Operation β)
    (kept : asked ≠ .clearCache) (proper : ∀ stamp ∈ asked.stamps, isStamp stamp = true)
    (new : ∀ stamp ∈ asked.stamps, stamp ∉ used) (held : ∀ data ∈ asked.uploads, known data) :
    ((asked.act format).on archive).2.Remembered := by
  have retains := retains_perform orderly backed noUrl asked kept proper held
  have before {other : String} {found : Row} (current : archive.row? other = some found)
      (remote : isUrl found.storagePath = true) : ∃ parsed,
        ((asked.act format).on archive).2.loader.cache.get? found.storagePath = some parsed ∧
          parsed.workbook.hash = found.workbookHash := by
    obtain ⟨parsed, cached, hash⟩ := remembered other found current remote
    exact ⟨parsed, retains _ _ remote cached, hash⟩
  rcases outcome : (asked.act format).on archive with ⟨error | done, after⟩
  · have intact := orderly.intact_of_error asked proper new held outcome
    intro other found current remote
    rw [outcome] at before
    rw [row?, intact.rows] at current
    exact before current remote
  · rw [outcome] at before
    cases asked with
    | store owner config upload moment commit =>
      have uploads := Operation.known_of_store held
      rw [Operation.act, on_discard] at outcome
      rcases storing : (store format owner config upload moment commit).on archive with
        ⟨error | config, final⟩
      · rw [storing] at outcome
        cases outcome
      · rw [storing] at outcome
        cases outcome
        obtain ⟨parsed, row, _, stored⟩ := store_ok orderly uploads proper storing
        intro other found current remote
        rw [row?_put stored.rows] at current
        split at current
        · obtain rfl := Option.some.inj current
          cases stored.origin with
          | uploaded given name here path =>
            rw [path, isUrl_storagePath] at remote
            cases remote
          | stored old without here path hash =>
            rw [path, hash]
            exact before here (path ▸ remote)
          | remote without new url hash =>
            cases stored.serves with
            | remote _ cached => exact ⟨parsed, cached, hash.symm⟩
            | stored blob => exact absurd (blob.symm.trans remote) Bool.false_ne_true
        · exact before current remote
    | clear owner commit =>
      rcases clear_cases orderly owner commit with ⟨error, failed⟩ | ⟨final, ok, _, rows, _⟩
      · cases failed.symm.trans outcome
      · cases ok.symm.trans outcome
        intro other found current remote
        rw [row?, rows, Table.get?_erase] at current
        split at current
        · cases current
        · exact before current remote
    | get owner =>
      cases outcome
      exact fun _ _ current => before current
    | load config =>
      have same := undisturbed_loadWorkbook format config archive
      rw [Operation.act, on_discard] at outcome
      obtain ⟨_, rfl⟩ := Prod.mk.inj outcome
      intro other found current remote
      exact before ((congrArg (Table.get? · other) same.rows).symm.trans current) remote
    | clearCache => exact absurd rfl kept

/-- An archive in which the workbook of every row is at hand. -/
structure Reliable (format : FileFormat β) (known : β → Prop) (used : List String)
    (archive : Archive β) : Prop extends Orderly format known used archive where
  backed : archive.Backed format known
  complete : archive.Complete
  remembered : archive.Remembered

theorem reliable_opened (root : Path) (timeout : Amount) (retries : Int) {replies : List (Reply β)}
    (answers : ∀ status reason body, .response status reason body ∈ replies → known body) :
    (opened root timeout retries replies).Reliable format known [] where
  toOrderly := orderly_opened root timeout retries answers
  backed := backed_opened root timeout retries replies
  complete := complete_opened root timeout retries replies
  remembered _ _ current := by cases current

namespace Reliable
variable (reliable : archive.Reliable format known used)
  (noUrl : ∀ data, isUrl (format.digest data) = false)
include reliable noUrl

theorem perform (asked : Operation β) (kept : asked ≠ .clearCache)
    (proper : ∀ stamp ∈ asked.stamps, isStamp stamp = true)
    (new : ∀ stamp ∈ asked.stamps, stamp ∉ used) (held : ∀ data ∈ asked.uploads, known data) :
    ((asked.act format).on archive).2.Reliable format known (used ++ asked.stamps) where
  toOrderly := reliable.toOrderly.perform asked proper held
  backed := reliable.backed.apply reliable.toOrderly noUrl (.operation asked) proper new held
  complete := reliable.complete.apply reliable.backed reliable.toOrderly noUrl (.operation asked)
    (by rintro path ⟨⟩) proper new held
  remembered := reliable.remembered.perform reliable.toOrderly reliable.backed noUrl asked kept
    proper new held

/-- The workbook of a row loads, and it is that of some known data with the digest of the row. -/
theorem load_row (told : ∀ a b, known a → known b → format.digest a = format.digest b →
      format.sheets a = format.sheets b) (current : archive.row? owner = some row) :
    ∃ parsed after data, (loadWorkbook format row.config).on archive = (.ok parsed, after) ∧
      known data ∧ format.open data = .ok parsed.workbook ∧
      format.digest data = row.workbookHash := by
  have sound := reliable.toSound.loadWorkbook row.config
  by_cases remote : isUrl row.storagePath = true
  · obtain ⟨parsed, cached, hash⟩ := reliable.remembered owner row current remote
    have serves : Serves format archive row.config.workbookRef parsed := .remote remote cached
    obtain ⟨data, held, opened, _⟩ := reliable.loader.cached _ _ cached
    exact ⟨parsed, archive, data, on_loadWorkbook_of_serves serves, held, opened,
      (Loader.hash_of_open opened).symm.trans hash⟩
  · have stored := eq_false_of_ne_true remote
    obtain ⟨data, workbook, read, digest, opened, _⟩ :=
      (consistent_of_backed reliable.toOrderly reliable.backed reliable.complete told).stored
        owner row current stored
    have loads : ∃ parsed, (loadWorkbook format row.config).on archive
        = (.ok parsed, ((loadWorkbook format row.config).on archive).2) := by
      have reads : archive.blobs.read row.config.workbookRef = .ok data := read
      have plain : isUrl row.config.workbookRef = false := stored
      rw [on_loadWorkbook_of_stored plain, reads]
      dsimp only
      rw [withLoader, on_within]
      cases cached : archive.loader.cache.get? (format.digest data) with
      | some found =>
        rw [Loader.on_loadBytes_of_cached cached]
        exact ⟨found, rfl⟩
      | none =>
        rw [Loader.on_loadBytes_of_new cached, opened]
        exact ⟨_, rfl⟩
    obtain ⟨parsed, ok⟩ := loads
    have serves := serves_of_loadWorkbook ok
    cases serves with
    | remote url => exact absurd url remote
    | stored _ other readAfter cached =>
      have same := (undisturbed_loadWorkbook format row.config archive).blobs
      rw [same] at readAfter
      obtain rfl := Except.ok.inj (read.symm.trans readAfter)
      obtain ⟨seen, held, openedSeen, named⟩ := sound.loader.cached _ _ cached
      exact ⟨parsed, _, seen, ok, held, openedSeen, (named (noUrl data)).trans digest⟩

end Reliable

section
variable {upload : Option (Upload β)} {old : Option Row} {placed : Placed}

/-- The digests of the rows are no URLs. This is all that has to be known of an archive for what is
kept under URLs to stay: whatever becomes of the blobs, only digests are dropped. -/
def Digested (archive : Archive β) : Prop :=
  ∀ owner row, archive.row? owner = some row → isUrl row.workbookHash = false

/-- Where rows with URLs are afterwards, they were before. -/
def RemoteFrom (archive after : Archive β) : Prop :=
  ∀ owner row, after.row? owner = some row → isUrl row.storagePath = true →
    archive.row? owner = some row

theorem row?_of_erase (rows : after.rows = archive.rows.erase owner) {other : String}
    (current : after.row? other = some row) : archive.row? other = some row := by
  rw [row?, rows, Table.get?_erase] at current
  split at current
  · cases current
  · exact current

theorem remoteFrom_of_rows (rows : after.rows = archive.rows) : RemoteFrom archive after := by
  intro owner row current _
  rwa [row?, ← rows]

theorem remoteFrom_of_erase (rows : after.rows = archive.rows.erase owner) :
    RemoteFrom archive after := fun _ _ current _ => row?_of_erase rows current

theorem remoteFrom_of_put (rows : after.rows = archive.rows.put owner row)
    (stored : isUrl row.storagePath = false) : RemoteFrom archive after := by
  intro other found current remote
  rw [row?_put rows] at current
  split at current
  · obtain rfl := Option.some.inj current
    exact absurd (stored.symm.trans remote) Bool.false_ne_true
  · exact current

namespace Digested
variable (digested : archive.Digested)
include digested

theorem of_rows (rows : after.rows = archive.rows) : after.Digested := by
  intro owner row current
  rw [row?, rows] at current
  exact digested owner row current

theorem erase (rows : after.rows = archive.rows.erase owner) : after.Digested :=
  fun other row current => digested other row (row?_of_erase rows current)

theorem put (rows : after.rows = archive.rows.put owner row)
    (plain : isUrl row.workbookHash = false) : after.Digested := by
  intro other found current
  rw [row?_put rows] at current
  split at current
  · exact Option.some.inj current ▸ plain
  · exact digested other found current

end Digested

/-- A workbook that is ready for a row: its digest is no URL, an upload is at no URL, and without an
upload a row that is there keeps its workbook. -/
structure Readied (upload : Option (Upload β)) (old : Option Row) (placed : Placed) : Prop where
  plain : isUrl placed.workbookHash = false
  stored : upload.isSome = true → isUrl placed.storagePath = false
  unchanged : upload = none → ∀ row ∈ old, row.storagePath = placed.storagePath ∧
    row.workbookHash = placed.workbookHash

theorem readied_of_error {error : ArchiveError} (placed : Placed)
    (failed : (.error error : Except ArchiveError Placed) = .ok placed) :
    Readied upload old placed := by
  cases failed

section
variable (keeps : archive.loader.Keeps format fun _ => True)
  (noUrl : ∀ data, isUrl (format.digest data) = false)
include keeps

theorem lasting_evict {hash : String} (plain : isUrl hash = false) (drop : Prop) [Decidable drop] :
    ((if drop then evict hash else pure ⟨⟩ : ArchiveM β PUnit).on archive).2.rows = archive.rows ∧
      Loader.Lasting format archive.loader
        ((if drop then evict hash else pure ⟨⟩ : ArchiveM β PUnit).on archive).2.loader := by
  split
  · exact ⟨rfl, keeps.lasting_evict plain⟩
  · exact ⟨rfl, keeps.lasting⟩

theorem lasting_cleanUp (placed : Placed) {row : Row} (plain : isUrl row.workbookHash = false) :
    ((cleanUp placed row).on archive).2.rows = archive.rows ∧
      Loader.Lasting format archive.loader ((cleanUp placed row).on archive).2.loader := by
  rw [cleanUp]
  split
  · exact ⟨rfl, keeps.lasting⟩
  dsimp only
  split
  · obtain ⟨blobs, deleted⟩ := deleteBlob_blobs row.storagePath archive
    have kept : ({ archive with blobs } : Archive β).loader.Keeps format fun _ => True := keeps
    rw [on_bind]
    generalize (discard (deleteBlob row.storagePath)).on archive = outcome at deleted
    obtain ⟨failed | done, ready⟩ := outcome
    · subst deleted
      exact ⟨rfl, keeps.lasting⟩
    · subst deleted
      exact lasting_evict kept plain (row.workbookHash ≠ placed.workbookHash)
  · exact lasting_evict keeps plain (row.workbookHash ≠ placed.workbookHash)

theorem lasting_writeRow (placed : Placed) (plain : ∀ row ∈ old, isUrl row.workbookHash = false)
    (row : Row) :
    ((writeRow owner placed old row).on archive).2.rows = archive.rows.put owner row ∧
      Loader.Lasting format archive.loader
        ((writeRow owner placed old row).on archive).2.loader := by
  rw [writeRow, on_bind, on_modify]
  rcases old with _ | before
  · exact ⟨rfl, keeps.lasting⟩
  have written : ({ archive with rows := archive.rows.put owner row } : Archive β).loader.Keeps
      format fun _ => True := keeps
  have cleaned := lasting_cleanUp written placed (plain before rfl)
  dsimp only
  rw [on_bind]
  generalize (cleanUp placed before).on { archive with rows := archive.rows.put owner row } = outcome
    at cleaned ⊢
  obtain ⟨failed | done, final⟩ := outcome <;> exact cleaned

/-- Whether a row is cleared away or its blob cannot be removed, none comes. -/
theorem lasting_clear (digested : archive.Digested) (owner : String) :
    Loader.Lasting format archive.loader ((clear owner (.ok ())).on archive).2.loader ∧
      ((clear owner (.ok ())).on archive).2.Digested ∧
      RemoteFrom archive ((clear owner (.ok ())).on archive).2 := by
  rw [clear, on_bind, on_get]
  dsimp only
  cases current : archive.row? owner with
  | none => exact ⟨keeps.lasting, digested, remoteFrom_of_rows rfl⟩
  | some row =>
    have plain := digested owner row current
    dsimp only
    rw [on_bind, on_modify]
    dsimp only
    split
    · exact ⟨keeps.lasting, digested.erase rfl, remoteFrom_of_erase rfl⟩
    obtain ⟨blobs, deleted⟩ :=
      deleteBlob_blobs row.storagePath { archive with rows := archive.rows.erase owner }
    rw [on_bind]
    generalize (discard (deleteBlob row.storagePath)).on
      { archive with rows := archive.rows.erase owner } = outcome at deleted
    obtain ⟨failed | done, ready⟩ := outcome
    · subst deleted
      exact ⟨keeps.lasting, digested.erase rfl, remoteFrom_of_erase rfl⟩
    · subst deleted
      exact ⟨keeps.lasting_evict plain, digested.erase rfl, remoteFrom_of_erase rfl⟩

include noUrl

theorem lasting_loadWorkbook (config : PricingConfig) :
    Loader.Lasting format archive.loader ((loadWorkbook format config).on archive).2.loader := by
  by_cases remote : isUrl config.workbookRef = true
  · rw [on_loadWorkbook_of_remote remote]
    exact keeps.lasting_loadUrl noUrl remote
  · rw [on_loadWorkbook_of_stored (eq_false_of_ne_true remote)]
    split
    · exact keeps.lasting
    · exact keeps.lasting_loadBytes noUrl _

theorem lasting_checked (config : PricingConfig) (upload : Option (Upload β)) (old : Option Row) :
    Undisturbed archive ((checked format config upload old).on archive).2 ∧
      Loader.Lasting format archive.loader
        ((checked format config upload old).on archive).2.loader := by
  rcases upload with _ | given
  · rcases old with _ | row
    · rw [checked]
      split
      · next remote => exact ⟨undisturbed_withLoader _ _, keeps.lasting_loadUrl noUrl remote⟩
      · exact ⟨⟨rfl, rfl⟩, keeps.lasting⟩
    · exact ⟨undisturbed_loadWorkbook format row.config archive,
        lasting_loadWorkbook keeps noUrl row.config⟩
  · exact ⟨undisturbed_withLoader _ _, keeps.lasting_loadBytes noUrl given.data⟩

theorem lasting_place (owner : String) (config : PricingConfig) (upload : Option (Upload β))
    (moment : Moment) (digests : ∀ row ∈ old, isUrl row.workbookHash = false) :
    ((place format owner config upload old moment).on archive).2.rows = archive.rows ∧
      Loader.Lasting format archive.loader
        ((place format owner config upload old moment).on archive).2.loader ∧
      ∀ placed, ((place format owner config upload old moment).on archive).1 = .ok placed →
        Readied upload old placed := by
  obtain ⟨same, lasting⟩ := lasting_checked keeps noUrl config upload old
  rw [place_eq, on_bind]
  rcases checking : (checked format config upload old).on archive with ⟨error | parsed, loaded⟩
  · rw [checking] at same lasting
    exact ⟨same.rows, lasting, readied_of_error⟩
  rw [checking] at same lasting
  dsimp only at same lasting ⊢
  cases checkSheet parsed.workbook config.sheetName with
  | error error =>
    rcases upload with _ | given
    · exact ⟨same.rows, lasting, readied_of_error⟩
    · dsimp only
      rw [refuse]
      dsimp only
      split
      · exact ⟨same.rows, lasting.trans (lasting.keeps.lasting_evict (noUrl given.data)),
          readied_of_error⟩
      · exact ⟨same.rows, lasting, readied_of_error⟩
  | ok done =>
    rcases upload with _ | given
    · rcases old with _ | row
      · refine ⟨same.rows, lasting, ?_⟩
        rintro placed ⟨⟩
        obtain ⟨remote, serves⟩ := (serves_of_checked checking).2.2 rfl rfl
        cases serves with
        | remote _ cached =>
          exact ⟨lasting.keeps.isUrl_hash noUrl cached, by rintro ⟨⟩, by rintro _ row ⟨⟩⟩
        | stored blob => exact absurd (blob.symm.trans remote) Bool.false_ne_true
      · refine ⟨same.rows, lasting, ?_⟩
        rintro placed ⟨⟩
        refine ⟨digests row rfl, by rintro ⟨⟩, ?_⟩
        rintro _ before ⟨⟩
        exact ⟨rfl, rfl⟩
    · dsimp only
      rw [settle]
      generalize firstNonempty [given.name.getD "", config.fileName] "workbook.xlsx" = name
      rw [on_bind, on_get]
      dsimp only
      rcases saved : loaded.blobs.save owner name moment.stamp given.data with ⟨error | path, blobs⟩
      · exact ⟨same.rows, lasting, readied_of_error⟩
      · refine ⟨same.rows, lasting, ?_⟩
        rintro placed ⟨⟩
        refine ⟨noUrl given.data, fun _ => ?_, by rintro ⟨⟩⟩
        rw [BlobStore.storagePath_of_save saved]
        exact isUrl_storagePath owner name moment.stamp

/-- Only a configuration that is stored with success can give an owner a row with a URL. -/
theorem lasting_store (digested : archive.Digested) (owner : String) (config : PricingConfig)
    (upload : Option (Upload β)) (moment : Moment) :
    Loader.Lasting format archive.loader
        ((store format owner config upload moment (.ok ())).on archive).2.loader ∧
      ((store format owner config upload moment (.ok ())).on archive).2.Digested ∧
      (∀ other ≠ owner, ((store format owner config upload moment (.ok ())).on archive).2.row? other
        = archive.row? other) ∧
      ∀ error, ((store format owner config upload moment (.ok ())).on archive).1 = .error error →
        RemoteFrom archive ((store format owner config upload moment (.ok ())).on archive).2 := by
  obtain ⟨rows, lasting, ready⟩ :=
    lasting_place keeps noUrl owner config upload moment (digested owner)
  rw [on_store]
  have before := digested owner
  generalize archive.row? owner = old at *
  generalize (place format owner config upload old moment).on archive = outcome at rows lasting ready ⊢
  obtain ⟨error | placed, loaded⟩ := outcome
  · refine ⟨lasting, digested.of_rows rows, fun other _ => ?_, fun _ _ =>
      remoteFrom_of_rows rows⟩
    dsimp only at rows ⊢
    rw [row?, row?, rows]
  · obtain ⟨plain, stored, unchanged⟩ := ready placed rfl
    dsimp only at rows lasting ⊢
    have others {final : Archive β}
        (written : final.rows = archive.rows.put owner (newRow config placed moment)) :
        ∀ other ≠ owner, final.row? other = archive.row? other := by
      intro other apart
      rw [row?_put written, if_neg apart]
    rcases upload with _ | given
    · rw [on_writeRow_of_same _ (unchanged rfl)]
      have written : ({ loaded with rows := loaded.rows.put owner (newRow config placed moment) } :
          Archive β).rows = archive.rows.put owner (newRow config placed moment) := by rw [← rows]
      exact ⟨lasting, digested.put written plain, others written, by rintro error ⟨⟩⟩
    · obtain ⟨written, kept⟩ := lasting_writeRow lasting.keeps placed before (newRow config placed moment)
      rw [rows] at written
      exact ⟨lasting.trans kept, digested.put written plain, others written,
        fun _ _ => remoteFrom_of_put written (stored rfl)⟩

end

end

end SheetPricing.Archive
