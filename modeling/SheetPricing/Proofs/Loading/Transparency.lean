import SheetPricing.Proofs.Loading.Agreement
import SheetPricing.Proofs.Loading.Digest

/-! A cache that does not show. Whatever was loaded before, dropped or not to be had, data come to the
workbook that they hold, and under a URL there is the workbook of what was last downloaded from it. -/
namespace SheetPricing.Loading.Loader
open Action

/-- What is loaded: data, what is at a URL, or what is at a place that may also be a file. -/
inductive Call (β : Type) where
  | bytes (data : β)
  | url (url : String) (remote : isUrl url = true)
  | source (source : WorkbookSource β) (read : Storage.Path → Except Storage.FileError β)

inductive Use (β : Type) where
  | call (call : Call β)
  | evict (key : String)
  | clear

inductive Happening (β : Type) where
  | given (data : β)
  | downloaded (url : String) (body : β)
  | dropped (key : String)
  | cleared

/-- What happened, the latest first. -/
abbrev History (β : Type) := List (Happening β)

section
variable {β : Type}

def Happening.data? : Happening β → Option β
  | given data => some data
  | downloaded _ body => some body
  | dropped _ => none
  | cleared => none

def History.data (history : History β) : List β := history.filterMap Happening.data?

/-- The last download from a URL since what was kept under it was last dropped. -/
def lastDownload (url : String) : History β → Option β
  | [] => none
  | .given _ :: earlier => lastDownload url earlier
  | .downloaded other body :: earlier => if url = other then some body else lastDownload url earlier
  | .dropped key :: earlier => if url = key then none else lastDownload url earlier
  | .cleared :: _ => none

def replied : Reply β → Option β
  | .response status _ body => if anyFailure ≤ status then none else some body
  | .connectionFailure _ => none
  | .timedOut _ => none
  | .requestFailure _ => none

/-- What is downloaded with requests that are answered in order. -/
def downloads (replies : List (Reply β)) (requests : List Request) : List (String × β) :=
  (requests.zip replies).filterMap fun (request, reply) => (replied reply).map (request.url, ·)

/-- The data of a file, or why it has none. -/
def fileData (read : Storage.Path → Except Storage.FileError β) (path : Storage.Path) : Option β :=
  if path.text.toList.contains '\x00' then none else (read path).toOption

namespace Call

def perform (format : FileFormat β) : Call β → LoaderM β Parsed
  | .bytes data => loadBytes format data
  | .url place _ => loadUrl format place
  | .source given read => load format read given

/-- The data that are loaded if nothing is downloaded. -/
def data? : Call β → Option β
  | .bytes data => some data
  | .url _ _ => none
  | .source (.bytes data) _ => some data
  | .source (.path path) read => fileData read path
  | .source (.text place) read =>
    if isUrl place then none else fileData read (Storage.Path.ofText place)

end Call

/-- What was downloaded from when a loader was as it was before. -/
def downloadedSince (before after : Loader β) : History β :=
  ((downloads before.network.replies
    (after.network.requests.drop before.network.requests.length)).map
      fun (url, body) => .downloaded url body).reverse

def Use.perform (format : FileFormat β) : Use β → Loader β × History β → Loader β × History β
  | .call asked, (loader, history) =>
    let after := ((asked.perform format).on loader).2
    (after, downloadedSince loader after ++ (asked.data?.map .given).toList ++ history)
  | .evict key, (loader, history) => (loader.evict key, .dropped key :: history)
  | .clear, (loader, history) => (loader.clear, .cleared :: history)

def performAll (format : FileFormat β) : List (Use β) → Loader β × History β → Loader β × History β
  | [], state => state
  | use :: rest, state => performAll format rest (use.perform format state)

/-- That the digests tell the data of a history apart. -/
def Apart (format : FileFormat β) (history : History β) : Prop :=
  ∀ a b, a ∈ history.data → b ∈ history.data → format.digest a = format.digest b →
    format.sheets a = format.sheets b

/-- That a cache holds what the history says. -/
structure Faithful (format : FileFormat β) (history : History β) (loader : Loader β) : Prop where
  digests : ∀ key parsed, isUrl key = false → loader.cache.get? key = some parsed →
    ∃ data ∈ history.data, format.digest data = key ∧ format.open data = .ok parsed.workbook
  urls : ∀ url parsed, isUrl url = true → loader.cache.get? url = some parsed →
    ∃ body, lastDownload url history = some body ∧ format.open body = .ok parsed.workbook

variable {format : FileFormat β} {history : History β} {loader : Loader β}

theorem downloads_cons (network : Network β) (request : Request) (sent : List Request) :
    downloads network.replies (request :: sent)
      = ((replied (network.send request).1).map (request.url, ·)).toList
        ++ downloads (network.send request).2.replies sent := by
  obtain ⟨replies, requests⟩ := network
  cases replies with
  | nil => simp [downloads, Network.send, Network.exhausted, replied]
  | cons reply replies =>
    cases answer : replied reply <;>
      simp [downloads, Network.send, answer]

theorem downloads_downloadTrying (url : String) (tries : Nat) (last : String) (loader : Loader β) :
    ∃ sent, ((downloadTrying url tries last).on loader).2.network.requests
        = loader.network.requests ++ sent ∧
      downloads loader.network.replies sent
        = (((downloadTrying url tries last).on loader).1.toOption.map (url, ·)).toList := by
  induction tries generalizing last loader with
  | zero => exact ⟨[], (List.append_nil _).symm, rfl⟩
  | succ tries ih =>
    have again (last : String) (unanswered :
        replied (loader.network.send ⟨url, loader.timeout⟩).1 = none) :
        let next := (downloadTrying url tries last).on
          { loader with network := (loader.network.send ⟨url, loader.timeout⟩).2 }
        ∃ sent, next.2.network.requests = loader.network.requests ++ sent ∧
          downloads loader.network.replies sent = (next.1.toOption.map (url, ·)).toList := by
      obtain ⟨sent, requests, bodies⟩ :=
        ih last { loader with network := (loader.network.send ⟨url, loader.timeout⟩).2 }
      refine ⟨⟨url, loader.timeout⟩ :: sent, requests.trans (List.append_cons ..).symm, ?_⟩
      rw [downloads_cons, unanswered]
      exact bodies
    have sent : (request url : LoaderM β _).on loader
        = (.ok (loader.network.send ⟨url, loader.timeout⟩).1,
          { loader with network := (loader.network.send ⟨url, loader.timeout⟩).2 }) := rfl
    rw [downloadTrying, on_bind, sent]
    dsimp only
    cases reply : (loader.network.send ⟨url, loader.timeout⟩).1 with
    | connectionFailure message => exact again message (by rw [reply]; rfl)
    | timedOut message => exact again message (by rw [reply]; rfl)
    | requestFailure message =>
      refine ⟨[⟨url, loader.timeout⟩], rfl, ?_⟩
      rw [downloads_cons, reply]
      rfl
    | response status reason body =>
      dsimp only
      split
      · next failed =>
        have any : anyFailure ≤ status := le_trans (by decide) failed
        exact again _ (by rw [reply, replied, if_pos any])
      · split
        · next any =>
          refine ⟨[⟨url, loader.timeout⟩], rfl, ?_⟩
          rw [downloads_cons, reply, replied, if_pos any]
          rfl
        · next success =>
          refine ⟨[⟨url, loader.timeout⟩], rfl, ?_⟩
          rw [downloads_cons, reply, replied, if_neg success]
          rfl

theorem downloads_download (url : String) (loader : Loader β) :
    ∃ sent, ((download url).on loader).2.network.requests = loader.network.requests ++ sent ∧
      downloads loader.network.replies sent
        = (((download url).on loader).1.toOption.map (url, ·)).toList := by
  rw [download, on_bind, on_get]
  exact downloads_downloadTrying url _ _ loader

theorem downloadedSince_of_same {after : Loader β} (same : after.network = loader.network) :
    downloadedSince loader after = [] := by
  simp [downloadedSince, downloads, same]

theorem downloadedSince_of_download {url : String} {after : Loader β}
    (same : after.network = ((download url).on loader).2.network) :
    downloadedSince loader after
      = (((download url).on loader).1.toOption.map (.downloaded url)).toList := by
  obtain ⟨sent, requests, bodies⟩ := downloads_download url loader
  rw [downloadedSince, same, requests, List.drop_left, bodies]
  cases ((download url).on loader).1.toOption <;> rfl

namespace Faithful
variable (faithful : Faithful format history loader)
include faithful

theorem given (data : β) : Faithful format (.given data :: history) loader where
  digests key parsed plain cached := by
    obtain ⟨seen, inside, found⟩ := faithful.digests key parsed plain cached
    exact ⟨seen, List.mem_cons_of_mem _ inside, found⟩
  urls := faithful.urls

theorem downloaded {url : String} (new : loader.cache.get? url = none) (body : β) :
    Faithful format (.downloaded url body :: history) loader where
  digests key parsed plain cached := by
    obtain ⟨seen, inside, found⟩ := faithful.digests key parsed plain cached
    exact ⟨seen, List.mem_cons_of_mem _ inside, found⟩
  urls other parsed remote cached := by
    have apart : other ≠ url := by
      rintro rfl
      cases new.symm.trans cached
    rw [lastDownload, if_neg apart]
    exact faithful.urls other parsed remote cached

theorem evict (key : String) : Faithful format (.dropped key :: history) (loader.evict key) where
  digests other parsed plain cached := by
    rw [Loader.evict, Table.get?_erase] at cached
    split at cached
    · cases cached
    · exact faithful.digests other parsed plain cached
  urls other parsed remote cached := by
    rw [Loader.evict, Table.get?_erase] at cached
    split at cached
    · cases cached
    · next apart =>
      rw [lastDownload, if_neg apart]
      exact faithful.urls other parsed remote cached

theorem congr {after : Loader β} (same : after.cache = loader.cache) :
    Faithful format history after := by
  constructor
  · rw [same]
    exact faithful.digests
  · rw [same]
    exact faithful.urls

theorem keepDigest {data : β} {parsed : Parsed} (noUrl : isUrl (format.digest data) = false)
    (inside : data ∈ history.data) (opened : format.open data = .ok parsed.workbook) :
    Faithful format history (loader.keep (format.digest data) parsed) where
  digests key found plain cached := by
    rw [keep, Table.get?_put] at cached
    split at cached
    · next same =>
      obtain rfl := Option.some.inj cached
      exact ⟨data, inside, same.symm, opened⟩
    · exact faithful.digests key found plain cached
  urls url found remote cached := by
    have apart : url ≠ format.digest data := by
      rintro rfl
      exact absurd (noUrl.symm.trans remote) Bool.false_ne_true
    rw [keep, Table.get?_put, if_neg apart] at cached
    exact faithful.urls url found remote cached

theorem keepUrl {url : String} {body : β} {parsed : Parsed} (remote : isUrl url = true)
    (last : lastDownload url history = some body) (opened : format.open body = .ok parsed.workbook) :
    Faithful format history (loader.keep url parsed) where
  digests key found plain cached := by
    have apart : key ≠ url := by
      rintro rfl
      exact absurd (plain.symm.trans remote) Bool.false_ne_true
    rw [keep, Table.get?_put, if_neg apart] at cached
    exact faithful.digests key found plain cached
  urls other found remoteToo cached := by
    rw [keep, Table.get?_put] at cached
    split at cached
    · next same =>
      obtain rfl := Option.some.inj cached
      exact ⟨body, same ▸ last, opened⟩
    · exact faithful.urls other found remoteToo cached

end Faithful

structure Read (format : FileFormat β) (data : β) (history : History β) (before : Loader β)
    (outcome : Except (LoadFailure LoadFault) Parsed) (after : Loader β) : Prop where
  workbook : outcome.map Parsed.workbook = format.open data
  faithful : Faithful format history after
  network : after.network = before.network
  failed : ∀ failure, outcome = Except.error failure → after.cache = before.cache

/-- How a call loads: the data that it has, or what is at a URL, or not at all. -/
inductive Loads (format : FileFormat β) : Option β → LoaderM β Parsed → Prop where
  | data (data : β) : Loads format (some data) (loadBytes format data)
  | url (url : String) (remote : isUrl url = true) : Loads format none (loadUrl format url)
  | failure (failure : LoadFailure LoadFault) : Loads format none (throw failure)

theorem loads_loadFile (read : Storage.Path → Except Storage.FileError β) (path : Storage.Path) :
    Loads format (fileData read path) (loadFile format read path) := by
  rw [fileData, loadFile]
  split
  · exact .failure _
  · cases read path with
    | ok data => exact .data data
    | error error => exact .failure _

theorem loads_perform (format : FileFormat β) (call : Call β) :
    Loads format call.data? (call.perform format) := by
  cases call with
  | bytes data => exact .data data
  | url place remote => exact .url place remote
  | source given read =>
    cases given with
    | bytes data => exact .data data
    | path path => exact loads_loadFile read path
    | text place =>
      rw [Call.data?, Call.perform, load]
      split
      · next remote => exact .url place remote
      · exact loads_loadFile read (Storage.Path.ofText place)

variable (noUrl : ∀ data, isUrl (format.digest data) = false)
include noUrl

theorem Faithful.loadBytes (faithful : Faithful format history loader)
    (apart : Apart format history) {data : β} (inside : data ∈ history.data) :
    Read format data history loader ((loadBytes format data).on loader).1
      ((loadBytes format data).on loader).2 := by
  cases cached : loader.cache.get? (format.digest data) with
  | some parsed =>
    -- Other data may have come first, but then they have the digest and so the sheets of these.
    obtain ⟨seen, insideToo, same, opened⟩ := faithful.digests _ _ (noUrl data) cached
    rw [on_loadBytes_of_cached cached]
    refine ⟨?_, faithful, rfl, fun failure failed => by cases failed⟩
    rw [FileFormat.open, apart data seen inside insideToo same.symm, ← same]
    exact opened.symm
  | none =>
    rw [on_loadBytes_of_new cached]
    split
    · next failure opened => exact ⟨opened.symm, faithful, rfl, fun _ _ => rfl⟩
    · next workbook opened =>
      have holds : format.open data = .ok (Parsed.mk workbook loader.parses).workbook := opened
      have kept := faithful.keepDigest (noUrl data) inside holds
      exact ⟨opened.symm, kept.congr rfl, rfl, fun failure failed => by cases failed⟩

structure Loaded (format : FileFormat β) (history : History β) (before : Loader β)
    (outcome : Except (LoadFailure LoadFault) Parsed) (after : Loader β) : Prop where
  faithful : Faithful format history after
  failed : ∀ failure, outcome = Except.error failure → after.cache = before.cache

theorem Faithful.loadUrl (faithful : Faithful format history loader) {url : String}
    (remote : isUrl url = true) {outcome : Except (LoadFailure LoadFault) Parsed} {after : Loader β}
    (loads : (Loader.loadUrl format url).on loader = (outcome, after))
    (apart : Apart format (downloadedSince loader after ++ history)) :
    Loaded format (downloadedSince loader after ++ history) loader outcome after := by
  cases cached : loader.cache.get? url with
  | some parsed =>
    rw [on_loadUrl_of_cached cached] at loads
    obtain ⟨rfl, rfl⟩ := Prod.mk.inj loads
    rw [downloadedSince_of_same rfl]
    exact ⟨faithful, nofun⟩
  | none =>
    rw [on_loadUrl_of_new cached] at loads
    have since (network : after.network = ((download url).on loader).2.network) :=
      downloadedSince_of_download network
    have cache := (fetched_download url loader).cache
    rcases downloaded : (download url).on loader with ⟨failure | body, fetched⟩ <;>
      rw [downloaded] at loads since cache
    · obtain ⟨rfl, rfl⟩ := Prod.mk.inj loads
      rw [since rfl]
      exact ⟨faithful.congr cache, fun _ _ => cache⟩
    · have ready : Faithful format (.downloaded url body :: history) fetched :=
        (faithful.downloaded cached body).congr cache
      have last : lastDownload url (.downloaded url body :: history) = some body := by
        rw [lastDownload, if_pos rfl]
      have network := (sameRemote_loadBytes noUrl body fetched).network
      dsimp only at loads
      -- What was downloaded is kept under its digest first, and under the URL only if it was read.
      rcases reading : (Loader.loadBytes format body).on fetched with ⟨failure | parsed, kept⟩ <;>
        rw [reading] at loads network
      · obtain ⟨rfl, rfl⟩ := Prod.mk.inj loads
        rw [since network] at apart ⊢
        have read := ready.loadBytes noUrl apart List.mem_cons_self
        rw [reading] at read
        exact ⟨read.faithful, fun _ _ => (read.failed failure rfl).trans cache⟩
      · obtain ⟨rfl, rfl⟩ := Prod.mk.inj loads
        rw [since network] at apart ⊢
        have read := ready.loadBytes noUrl apart List.mem_cons_self
        rw [reading] at read
        exact ⟨read.faithful.keepUrl remote last read.workbook.symm, nofun⟩

theorem Faithful.call (faithful : Faithful format history loader) (call : Call β)
    {outcome : Except (LoadFailure LoadFault) Parsed} {after : Loader β}
    (performs : (call.perform format).on loader = (outcome, after))
    (apart : Apart format (downloadedSince loader after ++ (call.data?.map .given).toList ++ history)) :
    Loaded format (downloadedSince loader after ++ (call.data?.map .given).toList ++ history) loader
        outcome after ∧
      ∀ data, call.data? = some data → outcome.map Parsed.workbook = format.open data := by
  have loads := loads_perform format call
  generalize call.perform format = load at performs loads
  generalize call.data? = data at apart loads ⊢
  cases loads with
  | data data =>
    have network := (sameRemote_loadBytes noUrl data loader).network
    rw [performs] at network
    rw [downloadedSince_of_same network] at apart ⊢
    have read := (faithful.given data).loadBytes noUrl apart List.mem_cons_self
    rw [performs] at read
    refine ⟨⟨read.faithful, read.failed⟩, ?_⟩
    rintro _ ⟨⟩
    exact read.workbook
  | url url remote =>
    rw [Option.map_none, Option.toList_none, List.append_nil] at apart ⊢
    exact ⟨faithful.loadUrl noUrl remote performs apart, nofun⟩
  | failure failure =>
    obtain ⟨rfl, rfl⟩ := Prod.mk.inj performs
    rw [downloadedSince_of_same rfl]
    exact ⟨⟨faithful, fun _ _ => rfl⟩, nofun⟩

omit noUrl

theorem Apart.of_append {later : History β} (apart : Apart format (later ++ history)) :
    Apart format history := by
  have inside {data : β} (member : data ∈ history.data) : data ∈ (later ++ history).data := by
    rw [History.data, List.filterMap_append]
    exact List.mem_append_right _ member
  exact fun a b first second => apart a b (inside first) (inside second)

theorem performAll_append (earlier later : List (Use β)) (state : Loader β × History β) :
    performAll format (earlier ++ later) state
      = performAll format later (performAll format earlier state) := by
  induction earlier generalizing state with
  | nil => rfl
  | cons use earlier ih => exact ih _

theorem exists_history_perform (format : FileFormat β) (use : Use β) (state : Loader β × History β) :
    ∃ later, (use.perform format state).2 = later ++ state.2 := by
  cases use with
  | call call => exact ⟨_, rfl⟩
  | evict key => exact ⟨[.dropped key], rfl⟩
  | clear => exact ⟨[.cleared], rfl⟩

theorem exists_history_performAll (format : FileFormat β) (uses : List (Use β))
    (state : Loader β × History β) :
    ∃ later, (performAll format uses state).2 = later ++ state.2 := by
  induction uses generalizing state with
  | nil => exact ⟨[], rfl⟩
  | cons use rest ih =>
    obtain ⟨first, here⟩ := exists_history_perform format use state
    obtain ⟨later, there⟩ := ih (use.perform format state)
    exact ⟨later ++ first, by rw [performAll, there, here, List.append_assoc]⟩

include noUrl

theorem Faithful.perform {state : Loader β × History β} (faithful : Faithful format state.2 state.1)
    (use : Use β) (apart : Apart format (use.perform format state).2) :
    Faithful format (use.perform format state).2 (use.perform format state).1 := by
  cases use with
  | call call => exact (faithful.call noUrl call rfl apart).1.faithful
  | evict key => exact faithful.evict key
  | clear => exact ⟨nofun, nofun⟩

theorem Faithful.performAll {state : Loader β × History β}
    (faithful : Faithful format state.2 state.1) (uses : List (Use β))
    (apart : Apart format (performAll format uses state).2) :
    Faithful format (performAll format uses state).2 (performAll format uses state).1 := by
  induction uses generalizing state with
  | nil => exact faithful
  | cons use rest ih =>
    obtain ⟨later, grown⟩ := exists_history_performAll format rest
      (use.perform format state)
    have first : Apart format (later ++ (use.perform format state).2) := grown ▸ apart
    exact ih (faithful.perform noUrl use first.of_append) apart

/-- However a loader was used and whatever the network answered, as long as digests tell the data
apart that it came upon: what is kept under a digest is what some of the data with that digest hold,
and what is kept under a URL was last downloaded from there since it was last dropped; it is loaded
again without the network. Each call with data comes to the workbook that they hold, or fails as
reading them does, and a call that fails leaves the cache as it was. -/
theorem transparent_of_apart (timeout : Amount) (retries : Int) (replies : List (Reply β))
    (uses : List (Use β))
    (apart : Apart format (Loader.performAll format uses (new timeout retries replies, [])).2) :
    let reached := Loader.performAll format uses (new timeout retries replies, [])
    (∀ key parsed, isUrl key = false → reached.1.cache.get? key = some parsed →
      ∃ data ∈ reached.2.data, format.digest data = key ∧
        format.open data = .ok parsed.workbook) ∧
    (∀ url parsed, isUrl url = true → reached.1.cache.get? url = some parsed →
      (∃ body, lastDownload url reached.2 = some body ∧ format.open body = .ok parsed.workbook) ∧
        (Loader.loadUrl format url).on reached.1 = (.ok parsed, reached.1)) ∧
    ∀ earlier call later, uses = earlier ++ .call call :: later →
      let before := (Loader.performAll format earlier (new timeout retries replies, [])).1
      (∀ data, call.data? = some data →
        ((call.perform format).on before).1.map Parsed.workbook = format.open data) ∧
      ∀ failure, ((call.perform format).on before).1 = .error failure →
        ((call.perform format).on before).2.cache = before.cache := by
  have start : Faithful format [] (new timeout retries replies) := ⟨nofun, nofun⟩
  have reached := start.performAll noUrl uses apart
  refine ⟨reached.digests, fun url parsed remote cached => ?_, ?_⟩
  · exact ⟨reached.urls url parsed remote cached, on_loadUrl_of_cached cached⟩
  · rintro earlier call later rfl
    rw [performAll_append] at apart
    obtain ⟨after, grown⟩ := exists_history_performAll format later
      ((Use.call call).perform format
        (Loader.performAll format earlier (new timeout retries replies, [])))
    rw [Loader.performAll, grown] at apart
    have here := apart.of_append
    have before := start.performAll noUrl earlier here.of_append
    have loaded := before.call noUrl call rfl here
    exact ⟨loaded.2, loaded.1.failed⟩

end

/-- A file behind a URL that changes, while another is loaded and dropped again. -/
def sampleUses : List (Use Int) :=
  [.call (.url "https://example.com/prijzen.xlsx" (by decide)), .call (.bytes 1),
    .evict (numberFormat.digest 2), .evict "https://example.com/prijzen.xlsx",
    .call (.url "https://example.com/prijzen.xlsx" (by decide)),
    .call (.url "https://example.com/prijzen.xlsx" (by decide))]

theorem transparent_of_sampleUses :
    let replies := [.response 503 "Busy" 9, .response 200 "OK" 2, .response 404 "Not Found" 9,
      .response 200 "OK" 3]
    let reached := performAll numberFormat sampleUses (new (.whole 2) 1 replies, [])
    reached.2.data = [3, 1, 2] ∧ ∃ parsed,
      reached.1.cache.get? "https://example.com/prijzen.xlsx" = some parsed ∧
      numberFormat.open 3 = .ok parsed.workbook := by
  intro replies reached
  have state : (reached.2.data, (reached.1.cache.get? "https://example.com/prijzen.xlsx").isSome,
      lastDownload "https://example.com/prijzen.xlsx" reached.2) = ([3, 1, 2], true, some 3) := by
    decide +kernel
  obtain ⟨data, rest⟩ := Prod.mk.inj state
  obtain ⟨cached, last⟩ := Prod.mk.inj rest
  obtain ⟨parsed, cached⟩ := Option.isSome_iff_exists.mp cached
  have digests : ∀ a ∈ [3, 1, 2], ∀ b ∈ [3, 1, 2],
      numberFormat.digest a = numberFormat.digest b → a = b := by decide +kernel
  have apart : Apart numberFormat reached.2 := by
    intro a b first second same
    rw [data] at first second
    rw [digests a first b second same]
  have noUrl (number : Int) : isUrl (numberFormat.digest number) = false := isUrl_digest _
  obtain ⟨_, urls, _⟩ := transparent_of_apart noUrl (.whole 2) 1 replies sampleUses apart
  obtain ⟨⟨body, lastToo, opened⟩, _⟩ := urls _ parsed (by decide) cached
  obtain rfl := Option.some.inj (last.symm.trans lastToo)
  exact ⟨data, parsed, cached, opened⟩

end SheetPricing.Loading.Loader
