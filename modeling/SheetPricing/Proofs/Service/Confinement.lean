import SheetPricing.Proofs.Archive.Effects
import SheetPricing.Proofs.Service.Step
import SheetPricing.Proofs.Storage.Saving

/-! What is done for an owner is confined to the owner: nobody else's row changes, no session of a
treatment, and nothing that is kept under URLs. As long as all workbooks of owners are uploaded, the
service stays one in which this is so. -/
namespace SheetPricing.Service
open Action App Archive Loading Storage
variable {β : Type} {format : FileFormat β} {known : β → Prop} {used : List String}
  {houses places : List (List String)} {app after : App β} {moment : Moment} {owner : String}

/-- What is asked for an owner. -/
inductive Errand (β : Type) where
  | config
  | store (submission : Submission β)
  | clear
  | sheets
  | price (inputs : PerDimension (Option RawInput))

/-- What is asked, with the owner. -/
def Errand.task (owner : String) : Errand β → Task β
  | .config => .config owner
  | .store submission => .store owner submission
  | .clear => .clear owner
  | .sheets => .sheets owner
  | .price inputs => .price owner inputs

/-- A service in which every workbook of an owner was uploaded and blobs can be saved: no blob is in the
way of a directory. -/
structure Steady (format : FileFormat β) (known : β → Prop) (used : List String)
    (houses places : List (List String)) (app : App β) : Prop where
  inStep : InStep format known used app
  ready : app.archive.blobs.Ready houses places
  apart : Apart app.archive.blobs.root.names houses places
  stored : ∀ owner row, app.archive.row? owner = some row → isUrl row.storagePath = false

/-- Only what one owner has stored may have changed, beside what is kept of blobs. -/
structure Confined (owner : String) (app after : App β) : Prop where
  others : ∀ other ≠ owner, after.archive.row? other = app.archive.row? other
  treatments : after.treatments = app.treatments
  remote : Loader.SameRemote app.archive.loader after.archive.loader
  root : after.archive.blobs.root = app.archive.blobs.root

theorem Confined.refl (owner : String) (app : App β) : Confined owner app app :=
  ⟨fun _ _ => rfl, rfl, .refl _, rfl⟩

/-- Whether nothing but uploads is stored: a submission without an upload has no URL either. -/
def Task.isLocal : Task β → Bool
  | .store _ submission => submission.upload.isSome || !isUrl submission.config.workbookRef
  | _ => true

/-- The directory that an upload is saved in. -/
def Task.directories : Task β → List (List String)
  | .store owner submission => (submission.upload.map fun _ => ownerNames owner).toList
  | _ => []

/-- The blob that an upload is saved as. -/
def Task.blobs (moment : Moment) : Task β → List (List String)
  | .store owner submission => (submission.upload.map fun given =>
      branch owner (savedName submission.config given) moment.stamp).toList
  | _ => []

/-- What a task needs that is done when some stamps are used up already: an upload is known and saved
under a new stamp, in a directory and as a blob that are provided for. -/
structure Task.Granted (known : β → Prop) (houses places : List (List String)) (used : List String)
    (moment : Moment) (task : Task β) : Prop where
  plain : task.isLocal = true
  proper : ∀ stamp ∈ task.stamps moment, isStamp stamp = true
  new : ∀ stamp ∈ task.stamps moment, stamp ∉ used
  held : ∀ data ∈ task.uploads, known data
  housed : ∀ names ∈ task.directories, names ∈ houses
  placed : ∀ names ∈ task.blobs moment, names ∈ places

theorem Task.Granted.uploads {submission : Submission β}
    (granted : Task.Granted known houses places used moment (.store owner submission)) :
    ∀ given ∈ submission.upload, known given.data := fun given inside =>
  granted.held given.data (Option.mem_toList.mpr (Option.map_eq_some_iff.mpr ⟨given, inside, rfl⟩))

theorem Task.Granted.noUrl {submission : Submission β}
    (granted : Task.Granted known houses places used moment (.store owner submission))
    (without : submission.upload = none) : isUrl submission.config.workbookRef = false := by
  simpa [isLocal, without] using granted.plain

/-- The archive after the template for a price of an owner was asked for. -/
theorem archive_loadOwner (format : FileFormat β) (owner : String) (app : App β) :
    (loadOwner format owner app).2.2 = app.archive ∨
      ∃ row, app.archive.row? owner = some row ∧
        (loadOwner format owner app).2.2 = ((loadWorkbook format row.config).on app.archive).2 := by
  have supplies := Session.supplies_ownerSource format owner app.archive
  rw [loadOwner]
  cases held : (Registry.session app.owners owner).template with
  | some template =>
    rw [Session.on_load_of_held held]
    exact .inl rfl
  | none =>
    rw [config?] at supplies
    cases current : app.archive.row? owner with
    | none =>
      rw [current, Option.map_none] at supplies
      rw [Session.on_load_of_nothing supplies held]
      exact .inl rfl
    | some row =>
      rw [current, Option.map_some] at supplies
      rw [Session.on_load_of_supplies supplies held]
      refine .inr ⟨row, rfl, ?_⟩
      rcases (loadWorkbook format row.config).on app.archive with ⟨failure | parsed, final⟩ <;> rfl

theorem archive_showSheets (format : FileFormat β) (owner : String) (app : App β) :
    ((showSheets format owner).on app).2.archive = app.archive ∨
      ∃ row, app.archive.row? owner = some row ∧ ((showSheets format owner).on app).2.archive
        = ((loadWorkbook format row.config).on app.archive).2 := by
  rw [on_showSheets]
  cases app.archive.row? owner with
  | none => exact .inl rfl
  | some row =>
    refine .inr ⟨row, rfl, ?_⟩
    dsimp only
    rcases (loadWorkbook format row.config).on app.archive with ⟨failure | parsed, final⟩ <;> rfl

/-- The archive after the template for a price of a treatment was asked for. -/
theorem archive_loadTreatment (format : FileFormat β) (treatment : Treatment) (url : String)
    (app : App β) : (loadTreatment format treatment url app).2.2 = app.archive ∨
      (loadTreatment format treatment url app).2.2
        = ((withLoader (Loader.loadUrl format url)).on app.archive).2 := by
  rw [loadTreatment]
  cases held : (Registry.session app.treatments treatment.sheetName).template with
  | some template =>
    rw [Session.on_load_of_held held]
    exact .inl rfl
  | none =>
    rw [Session.on_load_of_supplies (Session.supplies_treatmentSource format treatment url _) held]
    right
    change _ = ((withLoader (Loader.loadUrl format (treatment.config url).workbookRef)).on
      app.archive).2
    rcases (withLoader (Loader.loadUrl format (treatment.config url).workbookRef)).on app.archive
      with ⟨failure | parsed, final⟩ <;> rfl

theorem archive_storeSubmission (format : FileFormat β) (moment : Moment) (owner : String)
    (submission : Submission β) (app : App β) :
    ((storeSubmission format moment owner submission).on app).2.archive
      = ((store format owner submission.config submission.upload moment (.ok ())).on
          app.archive).2 := by
  rw [on_storeSubmission]
  rcases (store format owner submission.config submission.upload moment (.ok ())).on app.archive with
    ⟨error | config, final⟩
  · rfl
  · dsimp only
    rw [on_showConfig]

theorem archive_clearConfig (owner : String) (app : App β) :
    ((clearConfig owner).on app).2.archive = ((clear owner (.ok ())).on app.archive).2 := by
  rw [on_clearConfig]
  rcases (clear owner (.ok ())).on app.archive with ⟨error | done, final⟩ <;> rfl

/-- What is done for an owner leaves the sessions of the treatments alone. -/
theorem treatments_errand (format : FileFormat β) (moment : Moment) (errand : Errand β)
    (owner : String) (app : App β) :
    (((errand.task owner).perform format moment).on app).2.treatments = app.treatments := by
  cases errand with
  | config => rw [Errand.task, Task.perform, on_showConfig]
  | store submission =>
    rw [Errand.task, Task.perform, on_storeSubmission]
    split
    · rfl
    · rw [on_showConfig]
  | clear =>
    rw [Errand.task, Task.perform, on_clearConfig]
    split <;> rfl
  | sheets =>
    rw [Errand.task, Task.perform, on_showSheets]
    split
    · rfl
    · split <;> rfl
  | price inputs => rw [Errand.task, Task.perform, on_ownerPrice]

/-- Apart from storing and clearing, only the loader and sessions are at work. -/
theorem undisturbed_perform (format : FileFormat β) (moment : Moment) (task : Task β) (app : App β)
    (noStore : ∀ owner submission, task ≠ .store owner submission)
    (noClear : ∀ owner, task ≠ .clear owner) :
    Undisturbed app.archive ((task.perform format moment).on app).2.archive := by
  have same : Undisturbed app.archive app.archive := ⟨rfl, rfl⟩
  cases task with
  | health => exact same
  | database => exact same
  | config owner =>
    rw [Task.perform, on_showConfig]
    exact same
  | store owner submission => exact absurd rfl (noStore owner submission)
  | clear owner => exact absurd rfl (noClear owner)
  | sheets owner =>
    rw [Task.perform]
    rcases archive_showSheets format owner app with kept | ⟨row, _, loaded⟩
    · exact kept.symm ▸ same
    · exact loaded.symm ▸ undisturbed_loadWorkbook format row.config app.archive
  | price owner inputs =>
    rw [Task.perform, on_ownerPrice]
    rcases archive_loadOwner format owner app with kept | ⟨row, _, loaded⟩
    · exact kept.symm ▸ same
    · exact loaded.symm ▸ undisturbed_loadWorkbook format row.config app.archive
  | treatment kind inputs =>
    rw [Task.perform, on_treatmentPrice]
    split
    · exact same
    · next url _ =>
      rcases archive_loadTreatment format kind url app with kept | loaded
      · exact kept.symm ▸ same
      · exact loaded.symm ▸ undisturbed_withLoader _ _

section
variable (steady : Steady format known used houses places app)
  (noUrl : ∀ data, isUrl (format.digest data) = false)
include steady noUrl

theorem Steady.sameRemote_load {row : Row} (current : app.archive.row? owner = some row) :
    Loader.SameRemote app.archive.loader
      ((loadWorkbook format row.config).on app.archive).2.loader := by
  have stored : isUrl row.config.workbookRef = false := steady.stored owner row current
  exact sameRemote_loadWorkbook noUrl stored app.archive

/-- What storing for an owner leaves as it is. -/
theorem Steady.store_frame {submission : Submission β}
    (granted : Task.Granted known houses places used moment (.store owner submission))
    {outcome : Except ArchiveError PricingConfig} {archive : Archive β}
    (ended : (store format owner submission.config submission.upload moment (.ok ())).on app.archive
      = (outcome, archive)) :
    (∀ other ≠ owner, archive.row? other = app.archive.row? other) ∧
      Loader.SameRemote app.archive.loader archive.loader ∧
      archive.blobs.root = app.archive.blobs.root ∧
      ∀ row, archive.row? owner = some row → isUrl row.storagePath = false := by
  have orderly := steady.inStep.archive.toOrderly
  have remote : Loader.SameRemote app.archive.loader archive.loader := by
    rw [show archive = ((store format owner submission.config submission.upload moment
      (.ok ())).on app.archive).2 by rw [ended]]
    rcases upload : submission.upload with _ | given
    · rw [loader_store_of_none]
      cases current : app.archive.row? owner with
      | none =>
        rw [checked, granted.noUrl upload]
        exact .refl _
      | some row => exact steady.sameRemote_load noUrl current
    · exact sameRemote_storeUpload orderly steady.inStep.archive.backed noUrl
        (granted.uploads given upload)
        (granted.proper moment.stamp (by simp [Task.stamps, stampsOf, upload]))
  rcases outcome with error | config
  · obtain ⟨reverted, _⟩ := store_error orderly granted.uploads granted.proper ended
    refine ⟨fun other _ => by rw [row?, row?, reverted.rows], remote, reverted.root,
      fun row current => ?_⟩
    rw [row?, reverted.rows] at current
    exact steady.stored owner row current
  · obtain ⟨parsed, row, _, stored⟩ := store_ok orderly granted.uploads granted.proper ended
    refine ⟨fun other apart => by rw [row?_put stored.rows, if_neg apart], remote, stored.root,
      fun found current => ?_⟩
    rw [row?_put stored.rows, if_pos rfl] at current
    obtain rfl := Option.some.inj current
    cases stored.origin with
    | uploaded given name here path =>
      rw [path]
      exact isUrl_storagePath _ _ _
    | stored old without here path =>
      rw [path]
      exact steady.stored owner old here
    | remote without new =>
      obtain ⟨loaded, ok⟩ := stored.checked
      rw [without, new, checked, granted.noUrl without] at ok
      cases ok

theorem Steady.clear_frame (owner : String) {archive : Archive β}
    (ended : (clear owner (.ok ())).on app.archive = (.ok ⟨⟩, archive)) :
    archive.row? owner = none ∧
      (∀ other ≠ owner, archive.row? other = app.archive.row? other) ∧
      Loader.SameRemote app.archive.loader archive.loader ∧
      archive.blobs.root = app.archive.blobs.root := by
  have orderly := steady.inStep.archive.toOrderly
  have remote := sameRemote_clear orderly steady.inStep.archive.backed noUrl owner (.ok ())
  rcases clear_cases orderly owner (.ok ()) with ⟨error, failed⟩ | ⟨final, ok, _, rows, root, _⟩
  · cases failed.symm.trans ended
  · obtain ⟨_, rfl⟩ := Prod.mk.inj (ok.symm.trans ended)
    rw [ok] at remote
    refine ⟨?_, fun other apart => ?_, remote, root⟩
    · rw [row?, rows, Table.get?_erase, if_pos rfl]
    · rw [row?, row?, rows, Table.get?_erase, if_neg apart]

/-- What is done for an owner is confined to the owner. -/
theorem Steady.confined (errand : Errand β)
    (granted : (errand.task owner).Granted known houses places used moment) :
    Confined owner app (((errand.task owner).perform format moment).on app).2 := by
  have treatments := treatments_errand format moment errand owner app
  have loading {archive : Archive β} (loads : archive = app.archive ∨
      ∃ row, app.archive.row? owner = some row ∧
        archive = ((loadWorkbook format row.config).on app.archive).2) :
      (∀ other ≠ owner, archive.row? other = app.archive.row? other) ∧
        Loader.SameRemote app.archive.loader archive.loader ∧
        archive.blobs.root = app.archive.blobs.root := by
    rcases loads with rfl | ⟨row, current, rfl⟩
    · exact ⟨fun _ _ => rfl, .refl _, rfl⟩
    · have same := undisturbed_loadWorkbook format row.config app.archive
      refine ⟨fun other _ => ?_, steady.sameRemote_load noUrl current, congrArg _ same.blobs⟩
      rw [row?, row?, same.rows]
  cases errand with
  | config =>
    rw [Errand.task, Task.perform, on_showConfig]
    exact .refl owner app
  | store submission =>
    obtain ⟨others, remote, root, _⟩ := steady.store_frame noUrl granted rfl
    have archive := archive_storeSubmission format moment owner submission app
    exact ⟨archive ▸ others, treatments, archive ▸ remote, archive ▸ root⟩
  | clear =>
    obtain ⟨final, ended⟩ := clear_ok steady.inStep.archive.toOrderly owner
    obtain ⟨_, others, remote, root⟩ := steady.clear_frame noUrl owner ended
    have archive := archive_clearConfig owner app
    rw [ended] at archive
    exact ⟨archive ▸ others, treatments, archive ▸ remote, archive ▸ root⟩
  | sheets =>
    obtain ⟨others, remote, root⟩ := loading (archive_showSheets format owner app)
    exact ⟨others, treatments, remote, root⟩
  | price inputs =>
    obtain ⟨others, remote, root⟩ := loading (archive_loadOwner format owner app)
    rw [Errand.task, Task.perform, on_ownerPrice] at treatments ⊢
    exact ⟨others, treatments, remote, root⟩

variable (told : ∀ a b, known a → known b → format.digest a = format.digest b →
    format.sheets a = format.sheets b)
include told

/-- Whatever is asked for without a URL, the service stays steady. -/
theorem Steady.perform (shared : app.HasTemplateUrl) (task : Task β)
    (granted : task.Granted known houses places used moment) :
    Steady format known (used ++ task.stamps moment) houses places
      ((task.perform format moment).on app).2 := by
  have orderly := steady.inStep.archive.toOrderly
  have next := steady.inStep.perform noUrl told shared task granted.proper granted.new granted.held
  have unchanging (noStore : ∀ owner submission, task ≠ .store owner submission)
      (noClear : ∀ owner, task ≠ .clear owner) :
      Steady format known (used ++ task.stamps moment) houses places
        ((task.perform format moment).on app).2 := by
    have same := undisturbed_perform format moment task app noStore noClear
    refine ⟨next, same.blobs ▸ steady.ready, same.blobs ▸ steady.apart, fun owner row current => ?_⟩
    rw [row?, same.rows] at current
    exact steady.stored owner row current
  have deletes (blobs : BlobStore β) (path : String) (removed : Bool) (final : BlobStore β)
      (ready : blobs.Ready houses places) (ok : blobs.delete path = .ok (removed, final)) :
      final.Ready houses places := ready.delete ok
  cases task with
  | store owner submission =>
    have blobs : ((store format owner submission.config submission.upload moment (.ok ())).on
        app.archive).2.blobs.Ready houses places := by
      refine blobs_store deletes steady.ready fun given inside => ?_
      have upload : submission.upload = some given := inside
      exact steady.ready.save orderly.blobs (granted.housed _ (by simp [Task.directories, upload]))
        (granted.placed _ (by simp [Task.blobs, upload])) given.data
    have archive := archive_storeSubmission format moment owner submission app
    rcases ended : (store format owner submission.config submission.upload moment (.ok ())).on
      app.archive with ⟨outcome, final⟩
    obtain ⟨others, _, root, own⟩ := steady.store_frame noUrl granted ended
    rw [ended] at blobs archive
    refine ⟨next, ?_, ?_, fun other row current => ?_⟩
    · rw [Task.perform, archive]
      exact blobs
    · rw [Task.perform, archive, root]
      exact steady.apart
    · rw [Task.perform, archive] at current
      by_cases same : other = owner
      · exact own row (same ▸ current)
      · exact steady.stored other row ((others other same).symm.trans current)
  | clear owner =>
    obtain ⟨archive, ended⟩ := clear_ok orderly owner
    obtain ⟨none, others, _, root⟩ := steady.clear_frame noUrl owner ended
    refine ⟨next, ?_, ?_, fun other row current => ?_⟩
    · rw [Task.perform, archive_clearConfig]
      exact blobs_clear deletes owner steady.ready
    · rw [Task.perform, archive_clearConfig, ended, root]
      exact steady.apart
    · rw [Task.perform, archive_clearConfig, ended] at current
      by_cases same : other = owner
      · rw [same, none] at current
        cases current
      · exact steady.stored other row ((others other same).symm.trans current)
  | health => exact unchanging (by rintro _ _ ⟨⟩) (by rintro _ ⟨⟩)
  | database => exact unchanging (by rintro _ _ ⟨⟩) (by rintro _ ⟨⟩)
  | config owner => exact unchanging (by rintro _ _ ⟨⟩) (by rintro _ ⟨⟩)
  | sheets owner => exact unchanging (by rintro _ _ ⟨⟩) (by rintro _ ⟨⟩)
  | price owner inputs => exact unchanging (by rintro _ _ ⟨⟩) (by rintro _ ⟨⟩)
  | treatment kind inputs => exact unchanging (by rintro _ _ ⟨⟩) (by rintro _ ⟨⟩)

end

end SheetPricing.Service
