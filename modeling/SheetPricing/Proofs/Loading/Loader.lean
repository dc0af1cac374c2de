import SheetPricing.Loading.Loader
import SheetPricing.Proofs.Outcome

/-! What a loader keeps. Every workbook in the cache was read from data that is known, and under a
digest there is a workbook with that digest. What was loaded once is loaded again from the cache. -/
namespace SheetPricing.Loading.Loader
open Action
variable {β : Type} {format : FileFormat β} {known : β → Prop} {loader after : Loader β}
  {data : β} {url : String} {parsed : Parsed}

/-- The cache holds workbooks of known data, and the network answers with known data only. -/
structure Keeps (format : FileFormat β) (known : β → Prop) (loader : Loader β) : Prop where
  cached : ∀ key parsed, loader.cache.get? key = some parsed → ∃ data, known data ∧
    format.open data = .ok parsed.workbook ∧ (isUrl key = false → format.digest data = key)
  replies : ∀ status reason body, .response status reason body ∈ loader.network.replies → known body

theorem hash_of_open {workbook : Workbook} (ok : format.open data = .ok workbook) :
    workbook.hash = format.digest data := by
  rw [FileFormat.open] at ok
  split at ok
  · exact congrArg Workbook.hash (Except.ok.inj ok).symm
  · cases ok
  · cases ok

namespace Keeps
variable (keeps : loader.Keeps format known)
include keeps

theorem evict (key : String) : (loader.evict key).Keeps format known where
  cached other parsed held := by
    rw [Loader.evict, Table.get?_erase] at held
    split at held
    · cases held
    · exact keeps.cached other parsed held
  replies := keeps.replies

theorem clear : loader.clear.Keeps format known where
  cached _ _ held := nomatch held
  replies := keeps.replies

theorem keep {key : String} (held : known data) (opened : format.open data = .ok parsed.workbook)
    (named : isUrl key = false → format.digest data = key) :
    (loader.keep key parsed).Keeps format known where
  cached other found cached := by
    rw [Loader.keep, Table.get?_put] at cached
    split at cached
    · next same =>
      obtain rfl := Option.some.inj cached
      exact ⟨data, held, opened, same ▸ named⟩
    · exact keeps.cached other found cached
  replies := keeps.replies

end Keeps

theorem on_loadBytes_of_cached (cached : loader.cache.get? (format.digest data) = some parsed) :
    (loadBytes format data).on loader = (.ok parsed, loader) := by
  rw [loadBytes, on_bind, on_get]
  dsimp only
  rw [cached]
  rfl

theorem on_loadUrl_of_cached (cached : loader.cache.get? url = some parsed) :
    (loadUrl format url).on loader = (.ok parsed, loader) := by
  rw [loadUrl, on_bind, on_get]
  dsimp only
  rw [cached]
  rfl

theorem on_loadBytes_of_new (new : loader.cache.get? (format.digest data) = none) :
    (loadBytes format data).on loader = match format.open data with
      | .error failure => (.error failure, loader)
      | .ok workbook => (.ok ⟨workbook, loader.parses⟩,
          { loader.keep (format.digest data) ⟨workbook, loader.parses⟩ with
            parses := loader.parses + 1 }) := by
  rw [loadBytes, on_bind, on_get]
  dsimp only
  rw [new]
  dsimp only
  cases format.open data <;> rfl

theorem cached_of_loadBytes (ok : (loadBytes format data).on loader = (.ok parsed, after)) :
    after.cache.get? (format.digest data) = some parsed := by
  cases cached : loader.cache.get? (format.digest data) with
  | some found =>
    rw [on_loadBytes_of_cached cached] at ok
    cases ok
    exact cached
  | none =>
    rw [on_loadBytes_of_new cached] at ok
    split at ok
    · cases ok
    · cases ok
      rw [keep, Table.get?_put, if_pos rfl]

theorem Keeps.loadBytes (keeps : loader.Keeps format known) (held : known data) :
    ((loadBytes format data).on loader).2.Keeps format known := by
  cases cached : loader.cache.get? (format.digest data) with
  | some found =>
    rw [on_loadBytes_of_cached cached]
    exact keeps
  | none =>
    rw [on_loadBytes_of_new cached]
    split
    · exact keeps
    · next workbook opened =>
      have kept : (loader.keep (format.digest data) ⟨workbook, loader.parses⟩).Keeps format known :=
        keeps.keep held opened fun _ => rfl
      exact ⟨kept.cached, kept.replies⟩

/-- What comes of a download: the cache is left alone and what is downloaded was answered. -/
structure Fetched (loader : Loader β) (outcome : Except (LoadFailure LoadFault) β)
    (after : Loader β) : Prop where
  cache : after.cache = loader.cache
  replies : after.network.replies ⊆ loader.network.replies
  body : ∀ data, outcome = .ok data →
    ∃ status reason, .response status reason data ∈ loader.network.replies

theorem Fetched.of_sent {outcome : Except (LoadFailure LoadFault) β} {request : Request}
    (fetched : Fetched { loader with network := (loader.network.send request).2 } outcome after) :
    Fetched loader outcome after where
  cache := fetched.cache
  replies := List.Subset.trans fetched.replies (List.drop_subset 1 _)
  body data ok := by
    obtain ⟨status, reason, inside⟩ := fetched.body data ok
    exact ⟨status, reason, List.drop_subset 1 _ inside⟩

theorem fetched_downloadTrying (url : String) (tries : Nat) (last : String) (loader : Loader β) :
    Fetched loader ((downloadTrying url tries last).on loader).1
      ((downloadTrying url tries last).on loader).2 := by
  -- Each try takes one reply, so what a later one is answered was to come at the start.
  induction tries generalizing last loader with
  | zero => exact ⟨rfl, List.Subset.refl _, nofun⟩
  | succ tries ih =>
    have sent : (request url : LoaderM β _).on loader
        = (.ok (loader.network.send ⟨url, loader.timeout⟩).1,
          { loader with network := (loader.network.send ⟨url, loader.timeout⟩).2 }) := rfl
    rw [downloadTrying, on_bind, sent]
    dsimp only
    cases reply : (loader.network.send ⟨url, loader.timeout⟩).1 with
    | connectionFailure message => exact (ih message _).of_sent
    | timedOut message => exact (ih message _).of_sent
    | requestFailure message => exact ⟨rfl, List.drop_subset 1 _, nofun⟩
    | response status reason body =>
      dsimp only
      split
      · exact (ih _ _).of_sent
      · split
        · exact ⟨rfl, List.drop_subset 1 _, nofun⟩
        · refine ⟨rfl, List.drop_subset 1 _, fun data ok => ?_⟩
          obtain rfl := Except.ok.inj ok
          refine ⟨status, reason, ?_⟩
          cases first : loader.network.replies.head? with
          | none =>
            rw [Network.send, first] at reply
            cases reply
          | some answer =>
            rw [Network.send, first] at reply
            exact reply ▸ List.mem_of_head? first

theorem fetched_download (url : String) (loader : Loader β) :
    Fetched loader ((download url).on loader).1 ((download url).on loader).2 := by
  rw [download, on_bind, on_get]
  exact fetched_downloadTrying url _ _ loader

theorem Keeps.download (keeps : loader.Keeps format known) (url : String) :
    ((download url).on loader).2.Keeps format known := by
  have fetched := fetched_download url loader
  refine ⟨?_, fun status reason body inside => ?_⟩
  · rw [fetched.cache]
    exact keeps.cached
  · exact keeps.replies status reason body (fetched.replies inside)

theorem on_loadUrl_of_new (new : loader.cache.get? url = none) :
    (loadUrl format url).on loader = match (download url).on loader with
      | (.error failure, fetched) => (.error failure, fetched)
      | (.ok data, fetched) => match (loadBytes format data).on fetched with
        | (.error failure, read) => (.error failure, read)
        | (.ok parsed, read) => (.ok parsed, read.keep url parsed) := by
  rw [loadUrl, on_bind, on_get]
  dsimp only
  rw [new]
  dsimp only
  rw [on_bind]
  rcases (download url).on loader with ⟨_ | data, fetched⟩
  · rfl
  · dsimp only
    rw [on_bind]
    rcases (loadBytes format data).on fetched with ⟨_ | parsed, read⟩ <;> rfl

theorem cached_of_loadUrl (ok : (loadUrl format url).on loader = (.ok parsed, after)) :
    after.cache.get? url = some parsed := by
  cases cached : loader.cache.get? url with
  | some found =>
    rw [on_loadUrl_of_cached cached] at ok
    cases ok
    exact cached
  | none =>
    rw [on_loadUrl_of_new cached] at ok
    split at ok
    · cases ok
    · split at ok
      · cases ok
      · cases ok
        rw [keep, Table.get?_put, if_pos rfl]

/-- A URL may be kept with the workbook of any data that the network answered with. -/
theorem Keeps.loadUrl (keeps : loader.Keeps format known) (remote : isUrl url = true) :
    ((loadUrl format url).on loader).2.Keeps format known := by
  cases cached : loader.cache.get? url with
  | some found =>
    rw [on_loadUrl_of_cached cached]
    exact keeps
  | none =>
    have sound := keeps.download url
    have origin := (fetched_download url loader).body
    rw [on_loadUrl_of_new cached]
    generalize (Loader.download url).on loader = downloaded at sound origin ⊢
    rcases downloaded with ⟨_ | data, fetched⟩
    · exact sound
    · obtain ⟨status, reason, answered⟩ := origin data rfl
      have held := keeps.replies status reason data answered
      have read := sound.loadBytes held
      dsimp only
      rcases outcome : (Loader.loadBytes format data).on fetched with ⟨_ | parsed, after⟩
      · rw [outcome] at read
        exact read
      · rw [outcome] at read
        -- The cache may give a workbook of other data with the digest of what was downloaded.
        obtain ⟨other, known, opened, _⟩ := read.cached _ _ (cached_of_loadBytes outcome)
        exact read.keep known opened fun notRemote => absurd (remote.symm.trans notRemote) nofun

/-- A workbook under a digest has that digest. -/
theorem Keeps.hash (keeps : loader.Keeps format known) {key : String}
    (cached : loader.cache.get? key = some parsed) (digest : isUrl key = false) :
    parsed.workbook.hash = key := by
  obtain ⟨data, _, opened, named⟩ := keeps.cached key parsed cached
  exact (hash_of_open opened).trans (named digest)

end SheetPricing.Loading.Loader
