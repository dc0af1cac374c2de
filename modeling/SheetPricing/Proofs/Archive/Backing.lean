import SheetPricing.Proofs.Archive.Run

/-! Rows and blobs belong together. A blob is stored for one row and has the digest that the row
says; it is removed when no row refers to it any more. -/
namespace SheetPricing.Archive
open Action Loading Storage
variable {β : Type} {format : FileFormat β} {known : β → Prop} {archive after : Archive β}
  {used : List String} {owner : String} {names : List String}

/-- Some known data with the digest of a row hold the worksheet that the row selects. -/
def Vouched (format : FileFormat β) (known : β → Prop) (row : Row) : Prop :=
  ∃ data workbook, known data ∧ format.digest data = row.workbookHash ∧
    format.open data = .ok workbook ∧ workbook.hasSheet row.selectedSheet = true

/-- Every blob is that of one row and has its digest. A blob may have been lost. -/
structure Backed (format : FileFormat β) (known : β → Prop) (archive : Archive β) : Prop where
  hashed : ∀ owner row names data, archive.row? owner = some row →
    Holds archive.blobs row.storagePath names →
    archive.blobs.tree.files.get? names = some data → format.digest data = row.workbookHash
  apart : ∀ owner other names, archive.Refers owner names → archive.Refers other names →
    owner = other
  named : ∀ names data, archive.blobs.tree.files.get? names = some data →
    ∃ owner, archive.Refers owner names
  vouched : ∀ owner row, archive.row? owner = some row → isUrl row.storagePath = false →
    Vouched format known row

/-- No blob that a row refers to is missing. -/
def Complete (archive : Archive β) : Prop :=
  ∀ owner names, archive.Refers owner names → (archive.blobs.tree.files.get? names).isSome

theorem Backed.fewer (backed : archive.Backed format known) (rows : after.rows = archive.rows)
    (root : after.blobs.root = archive.blobs.root)
    (files : ∀ names data, after.blobs.tree.files.get? names = some data →
      archive.blobs.tree.files.get? names = some data) : after.Backed format known := by
  have same (owner : String) : after.row? owner = archive.row? owner := by rw [row?, row?, rows]
  have refers (owner : String) (names : List String) :
      after.Refers owner names ↔ archive.Refers owner names := by
    simp only [Refers, same, holds_congr root]
  refine ⟨?_, ?_, ?_, ?_⟩
  · intro owner row names data current holds held
    exact backed.hashed owner row names data (same owner ▸ current) ((holds_congr root).mp holds)
      (files names data held)
  · intro owner other names first second
    exact backed.apart owner other names ((refers _ _).mp first) ((refers _ _).mp second)
  · intro names data held
    obtain ⟨owner, referred⟩ := backed.named names data (files names data held)
    exact ⟨owner, (refers _ _).mpr referred⟩
  · intro owner row current
    exact backed.vouched owner row (same owner ▸ current)

/-- What a change of the row of one owner does: the blob of the old row goes and that of the new row
is new, unless it is the same one. -/
structure Change (format : FileFormat β) (known : β → Prop) (archive after : Archive β)
    (owner : String) : Prop where
  root : after.blobs.root = archive.blobs.root
  others : ∀ other ≠ owner, after.row? other = archive.row? other
  kept : ∀ names, ¬ archive.Refers owner names → ¬ after.Refers owner names →
    after.blobs.tree.files.get? names = archive.blobs.tree.files.get? names
  gone : ∀ names, archive.Refers owner names → ¬ after.Refers owner names →
    after.blobs.tree.files.get? names = none
  new : ∀ names, after.Refers owner names → archive.Refers owner names ∨
    ∀ other, ¬ archive.Refers other names
  hashed : ∀ row, after.row? owner = some row → ∀ names data,
    Holds after.blobs row.storagePath names →
    after.blobs.tree.files.get? names = some data → format.digest data = row.workbookHash
  vouched : ∀ row, after.row? owner = some row → isUrl row.storagePath = false →
    Vouched format known row

namespace Change
variable (change : Change format known archive after owner) (backed : archive.Backed format known)
  {other : String}
include change

theorem refers_iff (apart : other ≠ owner) :
    after.Refers other names ↔ archive.Refers other names := by
  simp only [Refers, change.others other apart, holds_congr change.root]

include backed

/-- The blob of another owner is not the one that comes or goes. -/
theorem files_of_other (apart : other ≠ owner) (refers : archive.Refers other names) :
    after.blobs.tree.files.get? names = archive.blobs.tree.files.get? names := by
  have old : ¬ archive.Refers owner names := fun owned => apart (backed.apart _ _ _ refers owned)
  apply change.kept names old
  intro owned
  rcases change.new names owned with before | unused
  · exact old before
  · exact unused other refers

theorem unshared (apart : other ≠ owner) (owned : after.Refers owner names) :
    ¬ after.Refers other names := by
  rw [change.refers_iff apart]
  intro refers
  rcases change.new names owned with before | unused
  · exact apart (backed.apart _ _ _ refers before)
  · exact unused other refers

theorem backed_after : after.Backed format known := by
  refine ⟨?_, ?_, ?_, ?_⟩
  · intro other row names data current holds held
    by_cases same : other = owner
    · subst same
      exact change.hashed row current names data holds held
    · rw [change.others other same] at current
      rw [holds_congr change.root] at holds
      rw [change.files_of_other backed same ⟨row, current, holds⟩] at held
      exact backed.hashed other row names data current holds held
  · intro first second names left right
    by_cases same : first = owner
    · subst same
      by_contra differ
      exact change.unshared backed (Ne.symm differ) left right
    · by_cases again : second = owner
      · subst again
        exact absurd left (change.unshared backed same right)
      · exact backed.apart _ _ _ ((change.refers_iff same).mp left)
          ((change.refers_iff again).mp right)
  · intro names data held
    by_cases now : after.Refers owner names
    · exact ⟨owner, now⟩
    · by_cases before : archive.Refers owner names
      · rw [change.gone names before now] at held
        cases held
      · rw [change.kept names before now] at held
        obtain ⟨other, refers⟩ := backed.named names data held
        have apart : other ≠ owner := fun same => before (same ▸ refers)
        exact ⟨other, (change.refers_iff apart).mpr refers⟩
  · intro other row current stored
    by_cases same : other = owner
    · subst same
      exact change.vouched row current stored
    · rw [change.others other same] at current
      exact backed.vouched other row current stored

theorem complete_after (complete : archive.Complete)
    (present : ∀ names, after.Refers owner names → (after.blobs.tree.files.get? names).isSome) :
    after.Complete := by
  intro other names refers
  by_cases same : other = owner
  · exact present names (same ▸ refers)
  · rw [change.refers_iff same] at refers
    rw [change.files_of_other backed same refers]
    exact complete other names refers

end Change

theorem row?_put {row : Row} (rows : after.rows = archive.rows.put owner row) (other : String) :
    after.row? other = if other = owner then some row else archive.row? other := by
  rw [row?, rows, Table.get?_put]
  rfl

section
variable {config : PricingConfig} {upload : Option (Upload β)} {moment : Moment} {parsed : Parsed}
  {row : Row} (stored : Stored format known owner config upload moment archive after parsed row)
include stored

theorem Stored.refers_iff :
    after.Refers owner names ↔ Holds archive.blobs row.storagePath names := by
  simp [Refers, row?_put stored.rows, holds_congr stored.root]

theorem Stored.vouched (noUrl : ∀ data, isUrl (format.digest data) = false)
    (hashed : ∀ names data, Holds after.blobs row.storagePath names →
      after.blobs.tree.files.get? names = some data → format.digest data = row.workbookHash)
    (blob : isUrl row.storagePath = false) : Vouched format known row := by
  cases stored.serves with
  | remote url => exact absurd (blob.symm.trans url) Bool.false_ne_true
  | stored _ data read cached =>
    obtain ⟨names, resolved, held⟩ := BlobStore.held_of_read read
    have digest := hashed names data ⟨blob, resolved⟩ held
    obtain ⟨other, known, opened, named⟩ := stored.sound.loader.cached _ _ cached
    refine ⟨other, parsed.workbook, known, (named (noUrl data)).trans digest, opened, ?_⟩
    rw [stored.selected]
    exact stored.sheet

end

section
variable {config : PricingConfig} {upload : Option (Upload β)} {moment : Moment} {parsed : Parsed}
  {row : Row} (orderly : archive.Orderly format known used)
  (proper : ∀ stamp ∈ stampsOf upload moment, isStamp stamp = true)
  (new : ∀ stamp ∈ stampsOf upload moment, stamp ∉ used)
include orderly proper new

/-- No row refers to the blob of a new stamp. -/
theorem unused_place {given : Upload β} (here : upload = some given) (name other : String) :
    ¬ archive.Refers other (archive.blobs.place owner name moment.stamp) := by
  have member : moment.stamp ∈ stampsOf upload moment := by simp [stampsOf, here]
  rintro ⟨row, current, stored, resolved⟩
  rcases orderly.referred other row current with remote | ⟨fileName, stamp, earlier, path⟩
  · exact absurd (stored.symm.trans remote) Bool.false_ne_true
  · have holds : Holds archive.blobs (storagePath other fileName stamp)
        (archive.blobs.place owner name moment.stamp) := by
      rw [← path]
      exact ⟨stored, resolved⟩
    -- The last name of a file tells its stamp, so this one would have been used before.
    rw [holds_storagePath_iff _ _ _ (orderly.proper stamp earlier)] at holds
    have saved := BlobStore.stamped_place archive.blobs owner name moment.stamp
    have before := BlobStore.stamped_place archive.blobs other fileName stamp
    rw [← holds] at before
    have same := saved.unique before (proper _ member) (orderly.proper stamp earlier)
    rw [← same] at earlier
    exact new _ member earlier

/-- The row is changed with its blob, wherever the workbook comes from. -/
theorem Stored.change
    (stored : Stored format known owner config upload moment archive after parsed row)
    (backed : archive.Backed format known) (noUrl : ∀ data, isUrl (format.digest data) = false) :
    Change format known archive after owner := by
  have current : after.row? owner = some row := by rw [row?_put stored.rows, if_pos rfl]
  have others (other : String) (apart : other ≠ owner) :
      after.row? other = archive.row? other := by rw [row?_put stored.rows, if_neg apart]
  have only {Q : Row → Prop} (holds : Q row) (found : Row) (here : after.row? owner = some found) :
      Q found := Option.some.inj (current.symm.trans here) ▸ holds
  cases stored.origin with
  | uploaded given name here path hash saved gone kept =>
    have held (names : List String) : Holds archive.blobs row.storagePath names ↔
        names = archive.blobs.place owner name moment.stamp := by
      rw [path, holds_storagePath_iff _ _ _ (proper _ (by simp [stampsOf, here]))]
    have now (names : List String) : after.Refers owner names ↔
        names = archive.blobs.place owner name moment.stamp := by
      rw [stored.refers_iff, held]
    have hashed : ∀ names data, Holds after.blobs row.storagePath names →
        after.blobs.tree.files.get? names = some data → format.digest data = row.workbookHash := by
      intro names data holds found
      rw [holds_congr stored.root, held] at holds
      rw [holds, saved] at found
      rw [hash, Option.some.inj found]
    refine ⟨stored.root, others, ?_, ?_, ?_, only hashed, only (stored.vouched noUrl hashed)⟩
    · intro names before absent
      rw [now] at absent
      refine kept names absent ?_
      rintro ⟨old, here, _, holds⟩
      exact before ⟨old, here, holds⟩
    -- The old blob is removed unless its path is the new one, where the two have one place.
    · rintro names ⟨old, before, holds⟩ absent
      rw [now] at absent
      refine gone names absent ⟨old, before, fun same => absent ?_, holds⟩
      rwa [same, held] at holds
    · intro names refers
      rw [now] at refers
      rw [refers]
      exact .inr fun other => unused_place orderly proper new here name other
  | stored old without here path hash files =>
    have now (names : List String) : after.Refers owner names ↔ archive.Refers owner names := by
      rw [stored.refers_iff, path]
      simp [Refers, here]
    have hashed : ∀ names data, Holds after.blobs row.storagePath names →
        after.blobs.tree.files.get? names = some data → format.digest data = row.workbookHash := by
      intro names data holds found
      rw [holds_congr stored.root, path] at holds
      rw [files] at found
      rw [hash]
      exact backed.hashed owner old names data here holds found
    refine ⟨stored.root, others, ?_, ?_, ?_, only hashed, only (stored.vouched noUrl hashed)⟩
    · exact fun names _ _ => by rw [files]
    · exact fun names before absent => absurd ((now names).mpr before) absent
    · exact fun names refers => .inl ((now names).mp refers)
  | remote without fresh url hash files =>
    have blobless : isUrl row.storagePath ≠ false := by
      rw [url]
      exact Bool.noConfusion
    refine ⟨stored.root, others, ?_, ?_, ?_, only ?_, only ?_⟩
    · exact fun names _ _ => by rw [files]
    · rintro names ⟨old, before, _⟩
      cases fresh.symm.trans before
    · exact fun names refers => absurd (stored.refers_iff.mp refers).1 blobless
    · exact fun names data holds => absurd holds.1 blobless
    · exact fun blob => absurd blob blobless

end

theorem Backed.intact (backed : archive.Backed format known) (intact : Intact archive after) :
    after.Backed format known :=
  backed.fewer intact.rows intact.root fun names data held => by rwa [intact.files] at held

theorem Complete.intact (complete : archive.Complete) (intact : Intact archive after) :
    after.Complete := by
  rintro owner names ⟨row, current, holds⟩
  rw [row?, intact.rows] at current
  rw [holds_congr intact.root] at holds
  rw [intact.files]
  exact complete owner names ⟨row, current, holds⟩

theorem Stored.present {config : PricingConfig} {upload : Option (Upload β)} {moment : Moment}
    {parsed : Parsed} {row : Row}
    (stored : Stored format known owner config upload moment archive after parsed row)
    (proper : ∀ stamp ∈ stampsOf upload moment, isStamp stamp = true) (complete : archive.Complete)
    (names : List String) (refers : after.Refers owner names) :
    (after.blobs.tree.files.get? names).isSome := by
  have holds := stored.refers_iff.mp refers
  cases stored.origin with
  | uploaded given name here path hash saved gone kept =>
    rw [path, holds_storagePath_iff _ _ _ (proper _ (by simp [stampsOf, here]))] at holds
    rw [holds, saved]
    rfl
  | stored old without here path hash files =>
    rw [files]
    rw [path] at holds
    exact complete owner names ⟨old, here, holds⟩
  | remote without fresh url hash files => exact absurd (holds.1.symm.trans url) Bool.false_ne_true

/-- An operation changes nothing, or the row of its owner with its blob. -/
theorem perform_cases (orderly : archive.Orderly format known used)
    (backed : archive.Backed format known) (noUrl : ∀ data, isUrl (format.digest data) = false)
    (asked : Operation β) (proper : ∀ stamp ∈ asked.stamps, isStamp stamp = true)
    (new : ∀ stamp ∈ asked.stamps, stamp ∉ used) (held : ∀ data ∈ asked.uploads, known data) :
    Intact archive ((asked.act format).on archive).2 ∨
      ∃ owner, asked.owner? = some owner ∧
        Change format known archive ((asked.act format).on archive).2 owner ∧
        (archive.Complete → ∀ names, ((asked.act format).on archive).2.Refers owner names →
          (((asked.act format).on archive).2.blobs.tree.files.get? names).isSome) := by
  rcases outcome : (asked.act format).on archive with ⟨error | done, after⟩
  · exact .inl (orderly.intact_of_error asked proper new held outcome)
  · cases asked with
    | store owner config upload moment commit =>
      have uploads := Operation.known_of_store held
      rw [Operation.act, on_discard] at outcome
      rcases storing : (store format owner config upload moment commit).on archive with
        ⟨error | config, final⟩
      · rw [storing] at outcome
        cases outcome
      · rw [storing] at outcome
        cases outcome
        obtain ⟨parsed, row, _, stored⟩ := store_ok orderly uploads proper storing
        exact .inr
          ⟨owner, rfl, stored.change orderly proper new backed noUrl, stored.present proper⟩
    | clear owner commit =>
      rcases clear_cases orderly owner commit with
        ⟨error, failed⟩ | ⟨final, ok, sound, rows, root, gone, kept⟩
      · cases failed.symm.trans outcome
      · cases ok.symm.trans outcome
        have row (other : String) : after.row? other
            = if other = owner then none else archive.row? other := by
          rw [row?, rows, Table.get?_erase]
          rfl
        have none : after.row? owner = none := by rw [row, if_pos rfl]
        have never {names : List String} : ¬ after.Refers owner names := by
          rintro ⟨found, current, _⟩
          cases none.symm.trans current
        refine .inr ⟨owner, rfl, ⟨root, ?_, ?_, ?_, ?_, ?_, ?_⟩,
          fun _ names refers => absurd refers never⟩
        · exact fun other apart => by rw [row, if_neg apart]
        · exact fun names before _ => kept names before
        · exact fun names before _ => gone names before
        · exact fun names refers => absurd refers never
        · intro found current
          cases none.symm.trans current
        · intro found current
          cases none.symm.trans current
    | get owner =>
      cases outcome
      exact .inl ⟨rfl, rfl, rfl⟩
    | load config =>
      have same := undisturbed_loadWorkbook format config archive
      rw [Operation.act, on_discard] at outcome
      obtain ⟨_, rfl⟩ := Prod.mk.inj outcome
      exact .inl same.intact
    | clearCache =>
      cases outcome
      exact .inl ⟨rfl, rfl, rfl⟩

end SheetPricing.Archive
