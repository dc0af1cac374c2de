import SheetPricing.Proofs.Archive.Remembering

/-! Two loaders that agree on URLs. What they load from data is what the data hold, whatever else they
keep, and what they download is the same; so they go on agreeing. -/
namespace SheetPricing.Loading.Loader
open Action
variable {β : Type} {format : FileFormat β} {known : β → Prop} {loader other after last : Loader β}
  {data more : β} {url : String} {parsed : Parsed}

/-- The same workbooks are kept under URLs, and the same downloads will come. -/
structure Agree (loader other : Loader β) : Prop where
  urls : ∀ url, isUrl url = true →
    (other.cache.get? url).map Parsed.workbook = (loader.cache.get? url).map Parsed.workbook
  network : other.network = loader.network
  timeout : other.timeout = loader.timeout
  retries : other.retries = loader.retries

theorem Agree.refl (loader : Loader β) : Agree loader loader := ⟨fun _ _ => rfl, rfl, rfl, rfl⟩

theorem Agree.of_sameRemote (agree : Agree loader other) (same : SameRemote loader after)
    (sameToo : SameRemote other last) : Agree after last where
  urls url remote := by rw [same.urls url remote, sameToo.urls url remote, agree.urls url remote]
  network := by rw [same.network, sameToo.network, agree.network]
  timeout := by rw [same.timeout, sameToo.timeout, agree.timeout]
  retries := by rw [same.retries, sameToo.retries, agree.retries]

theorem Agree.keep (agree : Agree loader other) {first second : Parsed}
    (same : second.workbook = first.workbook) (key : String) :
    Agree (loader.keep key first) (other.keep key second) := by
  refine ⟨fun url remote => ?_, agree.network, agree.timeout, agree.retries⟩
  rw [Loader.keep, Loader.keep, Table.get?_put, Table.get?_put]
  split
  · exact congrArg some same
  · exact agree.urls url remote

theorem Agree.downloadTrying (agree : Agree loader other) (url : String) (tries : Nat)
    (last : String) : ((downloadTrying url tries last).on other).1
        = ((downloadTrying url tries last).on loader).1 ∧
      Agree ((downloadTrying url tries last).on loader).2
        ((downloadTrying url tries last).on other).2 := by
  induction tries generalizing last loader other with
  | zero => exact ⟨rfl, agree⟩
  | succ tries ih =>
    have sent (loader : Loader β) : (request url : LoaderM β _).on loader
        = (.ok (loader.network.send ⟨url, loader.timeout⟩).1,
          { loader with network := (loader.network.send ⟨url, loader.timeout⟩).2 }) := rfl
    rw [Loader.downloadTrying, on_bind, on_bind, sent, sent, agree.network, agree.timeout]
    have next (network : Network β) :
        Agree { loader with network } { other with network, timeout := loader.timeout } :=
      ⟨agree.urls, rfl, rfl, agree.retries⟩
    dsimp only
    cases (loader.network.send ⟨url, loader.timeout⟩).1 with
    | connectionFailure message => exact ih (next _) message
    | timedOut message => exact ih (next _) message
    | requestFailure message => exact ⟨rfl, next _⟩
    | response status reason body =>
      dsimp only
      split
      · exact ih (next _) _
      · split
        · exact ⟨rfl, next _⟩
        · exact ⟨rfl, next _⟩

theorem Agree.download (agree : Agree loader other) (url : String) :
    ((download url).on other).1 = ((download url).on loader).1 ∧
      Agree ((download url).on loader).2 ((download url).on other).2 := by
  rw [Loader.download, on_bind, on_bind, on_get, on_get]
  dsimp only
  rw [agree.retries]
  exact agree.downloadTrying url _ _

section
variable (told : ∀ a b, known a → known b → format.digest a = format.digest b →
  format.sheets a = format.sheets b)
include told

/-- Known data with one digest hold one workbook. -/
theorem open_eq_of_digest (held : known data) (heldToo : known more)
    (same : format.digest data = format.digest more) : format.open data = format.open more := by
  rw [FileFormat.open, FileFormat.open, told data more held heldToo same, same]

variable (noUrl : ∀ data, isUrl (format.digest data) = false)
include noUrl

/-- What is loaded from data is what the data hold, whether it is read or was kept. -/
theorem workbook_of_loadBytes (keeps : loader.Keeps format known) (held : known data) :
    ((loadBytes format data).on loader).1.map Parsed.workbook = format.open data := by
  cases cached : loader.cache.get? (format.digest data) with
  | some found =>
    obtain ⟨seen, heldToo, opened, named⟩ := keeps.cached _ _ cached
    rw [on_loadBytes_of_cached cached,
      open_eq_of_digest told held heldToo (named (noUrl data)).symm, opened]
    rfl
  | none =>
    rw [on_loadBytes_of_new cached]
    cases format.open data <;> rfl

/-- Loaders that agree load the same from a URL, and agree afterwards. -/
theorem Agree.loadUrl (agree : Agree loader other) (keeps : loader.Keeps format known)
    (keepsToo : other.Keeps format known) (remote : isUrl url = true) :
    ((loadUrl format url).on other).1.map Parsed.workbook
        = ((loadUrl format url).on loader).1.map Parsed.workbook ∧
      Agree ((loadUrl format url).on loader).2 ((loadUrl format url).on other).2 := by
  have urls := agree.urls url remote
  cases cached : loader.cache.get? url with
  | some found =>
    rw [cached] at urls
    obtain ⟨foundToo, cachedToo, same⟩ := Option.map_eq_some_iff.mp urls
    rw [on_loadUrl_of_cached cached, on_loadUrl_of_cached cachedToo]
    exact ⟨congrArg Except.ok same, agree⟩
  | none =>
    rw [cached] at urls
    rw [on_loadUrl_of_new cached, on_loadUrl_of_new (Option.map_eq_none_iff.mp urls)]
    have fetched := (fetched_download url loader).body
    have keepsFetched := keeps.download url
    have keepsFetchedToo := keepsToo.download url
    have downloads := agree.download url
    generalize (Loader.download url).on loader = first at fetched keepsFetched downloads ⊢
    generalize (Loader.download url).on other = second at keepsFetchedToo downloads ⊢
    obtain ⟨outcomeToo, fetchedLoader⟩ := first
    obtain ⟨outcome, fetchedOther⟩ := second
    obtain ⟨same, agreeFetched⟩ := downloads
    dsimp only at same agreeFetched keepsFetched keepsFetchedToo
    subst same
    rcases outcome with failure | data
    · exact ⟨rfl, agreeFetched⟩
    · obtain ⟨status, reason, answered⟩ := fetched data rfl
      have held := keeps.replies status reason data answered
      have reads := workbook_of_loadBytes told noUrl keepsFetched held
      have readsToo := workbook_of_loadBytes told noUrl keepsFetchedToo held
      have agreeRead := agreeFetched.of_sameRemote (sameRemote_loadBytes noUrl data fetchedLoader)
        (sameRemote_loadBytes noUrl data fetchedOther)
      dsimp only
      generalize (Loader.loadBytes format data).on fetchedLoader = read at reads agreeRead ⊢
      generalize (Loader.loadBytes format data).on fetchedOther = readToo at readsToo agreeRead ⊢
      rcases read with ⟨failure | parsed, final⟩ <;>
        rcases readToo with ⟨failureToo | parsedToo, finalToo⟩ <;>
        rw [← reads] at readsToo
      · exact ⟨readsToo, agreeRead⟩
      · cases readsToo
      · cases readsToo
      · exact ⟨readsToo, agreeRead.keep (Except.ok.inj readsToo) url⟩

end

end SheetPricing.Loading.Loader
