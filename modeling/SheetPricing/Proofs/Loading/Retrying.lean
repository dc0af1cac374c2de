import SheetPricing.Proofs.Loading.Digest
import SheetPricing.Proofs.Loading.Loader

/-! Downloads that are tried again. Requests are sent until a reply settles the matter or no try is left,
and the last reply decides what comes of them. -/
namespace SheetPricing.Loading

section
variable {β : Type}

/-- What is told of a failure that may pass; a reply that settles the matter has none. -/
def Reply.passing? : Reply β → Option String
  | .connectionFailure message => some message
  | .timedOut message => some message
  | .requestFailure _ => none
  | .response status _ _ =>
    if Loader.serverFailure ≤ status then some s!"Server error {status}" else none

namespace Network

/-- The reply to each request that is still to be sent. -/
def reply (network : Network β) (place : Nat) : Reply β := network.replies[place]?.getD exhausted

/-- The place of the first reply that settles the matter. -/
def settledAt? (network : Network β) : Option Nat :=
  network.replies.findIdx? fun reply => reply.passing?.isNone

/-- How many requests are sent with so many tries. -/
def sends (network : Network β) (tries : Nat) : Nat :=
  match network.settledAt? with
  | some place => min tries (place + 1)
  | none => tries

/-- A network after some equal requests. -/
def afterSending (network : Network β) (request : Request) (count : Nat) : Network β :=
  ⟨network.replies.drop count, network.requests ++ List.replicate count request⟩

variable (network : Network β) (request : Request)

theorem send_eq : network.send request = (network.reply 0, network.afterSending request 1) := by
  cases network with
  | mk replies requests => cases replies <;> rfl

theorem reply_afterSending (count place : Nat) :
    (network.afterSending request count).reply place = network.reply (count + place) := by
  rw [reply, reply, afterSending, List.getElem?_drop]

theorem afterSending_afterSending (count more : Nat) :
    (network.afterSending request count).afterSending request more
      = network.afterSending request (count + more) := by
  simp only [afterSending, List.drop_drop, List.append_assoc, List.replicate_append_replicate]

variable {network}

theorem sends_succ_of_settled (tries : Nat) (settled : (network.reply 0).passing? = none) :
    network.sends (tries + 1) = 1 := by
  obtain ⟨replies, requests⟩ := network
  cases replies with
  | nil => cases settled
  | cons first rest =>
    have settled : first.passing? = none := settled
    simp [sends, settledAt?, List.findIdx?_cons, settled]

theorem sends_succ_of_passing {message : String} (tries : Nat)
    (passing : (network.reply 0).passing? = some message) :
    network.sends (tries + 1) = (network.afterSending request 1).sends tries + 1 := by
  obtain ⟨replies, requests⟩ := network
  cases replies with
  | nil => rfl
  | cons first rest =>
    have passing : first.passing? = some message := passing
    simp only [sends, settledAt?, afterSending, List.findIdx?_cons, passing, List.drop_succ_cons,
      List.drop_zero]
    cases rest.findIdx? fun reply => reply.passing?.isNone with
    | none => rfl
    | some place => exact Nat.add_min_add_right tries (place + 1) 1

theorem sends_zero : network.sends 0 = 0 := by
  rw [sends]
  split
  · exact Nat.zero_min _
  · rfl

theorem sends_pos {tries : Nat} : 0 < network.sends (tries + 1) := by
  rw [sends]
  split
  · exact Nat.lt_min.mpr ⟨tries.succ_pos, Nat.succ_pos _⟩
  · exact tries.succ_pos

/-- No reply settles the matter within so many tries. -/
def Unsettled (network : Network β) (tries : Nat) : Prop :=
  ∀ place, network.settledAt? = some place → tries ≤ place

theorem sends_of_settled {tries place : Nat} (settled : network.settledAt? = some place)
    (within : place < tries) : network.sends tries = place + 1 := by
  rw [sends, settled]
  exact Nat.min_eq_right within

theorem sends_of_unsettled {tries : Nat} (unsettled : network.Unsettled tries) :
    network.sends tries = tries := by
  rw [sends]
  split
  · next place settled => exact Nat.min_eq_left (Nat.le_succ_of_le (unsettled place settled))
  · rfl

theorem passing_of_settled {place : Nat} (settled : network.settledAt? = some place) :
    (network.reply place).passing? = none := by
  obtain ⟨bound, settling, _⟩ := List.findIdx?_eq_some_iff_getElem.mp settled
  rw [reply, List.getElem?_eq_getElem bound, Option.getD_some]
  exact Option.isNone_iff_eq_none.mp settling

theorem passing_of_unsettled {tries place : Nat} (unsettled : network.Unsettled tries)
    (within : place < tries) : ∃ message, (network.reply place).passing? = some message := by
  rw [← Option.isSome_iff_exists, ← Option.isNone_eq_false_iff, reply]
  cases inside : network.replies[place]? with
  | none => rfl
  | some reply =>
    obtain ⟨bound, rfl⟩ := List.getElem?_eq_some_iff.mp inside
    cases settled : network.settledAt? with
    | none => exact List.findIdx?_eq_none_iff.mp settled _ (List.getElem_mem bound)
    | some first =>
      obtain ⟨_, _, before⟩ := List.findIdx?_eq_some_iff_getElem.mp settled
      have late := Nat.lt_of_lt_of_le within (unsettled first settled)
      exact (Bool.not_eq_true _).mp (before place late)

end Network

namespace Loader
open Action
variable {format : FileFormat β} {loader : Loader β} {url : String}

/-- A loader after some requests to a URL. -/
def afterSending (loader : Loader β) (url : String) (count : Nat) : Loader β :=
  { loader with network := loader.network.afterSending ⟨url, loader.timeout⟩ count }

/-- What a reply means where it is the last one: the data, or why there are none. -/
def answer (url : String) : Reply β → Except (LoadFailure LoadFault) β
  | .connectionFailure message => .error (downloadError url message)
  | .timedOut message => .error (downloadError url message)
  | .requestFailure message => .error (.broken (.request message))
  | .response status reason body =>
    if serverFailure ≤ status then .error (downloadError url s!"Server error {status}")
    else if anyFailure ≤ status then .error (downloadError url s!"HTTP {status} {reason}")
    else .ok body

theorem reply_afterSending (loader : Loader β) (url : String) (count place : Nat) :
    (loader.afterSending url count).network.reply place = loader.network.reply (count + place) :=
  Network.reply_afterSending loader.network _ count place

theorem afterSending_afterSending (loader : Loader β) (url : String) (count more : Nat) :
    (loader.afterSending url count).afterSending url more = loader.afterSending url (count + more) :=
  congrArg (fun network => ({ loader with network } : Loader β))
    (Network.afterSending_afterSending loader.network _ count more)

theorem answer_of_passing {reply : Reply β} {message : String}
    (passing : reply.passing? = some message) :
    answer url reply = .error (downloadError url message) := by
  cases reply with
  | connectionFailure told => rw [answer, Option.some.inj passing]
  | timedOut told => rw [answer, Option.some.inj passing]
  | requestFailure told => cases passing
  | response status reason body =>
    rw [Reply.passing?] at passing
    split at passing
    · next failed => rw [answer, if_pos failed, Option.some.inj passing]
    · cases passing

theorem on_request (loader : Loader β) : (request url : LoaderM β _).on loader
    = (.ok (loader.network.reply 0), loader.afterSending url 1) := by
  have sent := loader.network.send_eq ⟨url, loader.timeout⟩
  rw [request, on_bind, on_get]
  dsimp only
  rw [sent]
  rfl

theorem on_downloadTrying_of_passing {message : String}
    (passing : (loader.network.reply 0).passing? = some message) (tries : Nat) (last : String) :
    (downloadTrying url (tries + 1) last).on loader
      = (downloadTrying url tries message).on (loader.afterSending url 1) := by
  rw [downloadTrying, on_bind, on_request]
  dsimp only
  cases reply : loader.network.reply 0 with
  | connectionFailure told =>
    rw [reply] at passing
    rw [← Option.some.inj passing]
  | timedOut told =>
    rw [reply] at passing
    rw [← Option.some.inj passing]
  | requestFailure told =>
    rw [reply] at passing
    cases passing
  | response status reason body =>
    rw [reply, Reply.passing?] at passing
    dsimp only
    split at passing
    · next failed => rw [← Option.some.inj passing, if_pos failed]
    · cases passing

theorem on_downloadTrying_of_settled (settled : (loader.network.reply 0).passing? = none) (tries : Nat)
    (last : String) : (downloadTrying url (tries + 1) last).on loader
      = (answer url (loader.network.reply 0), loader.afterSending url 1) := by
  rw [downloadTrying, on_bind, on_request]
  dsimp only
  cases reply : loader.network.reply 0 with
  | connectionFailure told =>
    rw [reply] at settled
    cases settled
  | timedOut told =>
    rw [reply] at settled
    cases settled
  | requestFailure told => rfl
  | response status reason body =>
    rw [reply, Reply.passing?] at settled
    dsimp only
    split at settled
    · cases settled
    · next passed =>
      rw [answer, if_neg passed, if_neg passed]
      split <;> rfl

/-- The last reply decides what comes of a download. -/
theorem on_downloadTrying (tries : Nat) (last : String) (loader : Loader β) :
    (downloadTrying url (tries + 1) last).on loader
      = (answer url (loader.network.reply (loader.network.sends (tries + 1) - 1)),
        loader.afterSending url (loader.network.sends (tries + 1))) := by
  induction tries generalizing last loader with
  | zero =>
    cases first : (loader.network.reply 0).passing? with
    | none =>
      rw [on_downloadTrying_of_settled first, Network.sends_succ_of_settled 0 first]
    | some message =>
      have sent : (loader.network.afterSending ⟨url, loader.timeout⟩ 1).sends 0 = 0 :=
        Network.sends_zero
      rw [on_downloadTrying_of_passing first, Network.sends_succ_of_passing ⟨url, loader.timeout⟩ 0 first,
        sent, answer_of_passing first]
      rfl
  | succ tries ih =>
    cases first : (loader.network.reply 0).passing? with
    | none =>
      rw [on_downloadTrying_of_settled first, Network.sends_succ_of_settled (tries + 1) first]
    | some message =>
      have sent := Network.sends_succ_of_passing ⟨url, loader.timeout⟩ (tries + 1) first
      have pos : 0 < (loader.afterSending url 1).network.sends (tries + 1) := Network.sends_pos
      have place : 1 + ((loader.afterSending url 1).network.sends (tries + 1) - 1)
          = loader.network.sends (tries + 1 + 1) - 1 := by
        rw [sent]
        exact Nat.add_sub_of_le pos
      rw [on_downloadTrying_of_passing first, ih, afterSending_afterSending, reply_afterSending, place,
        sent, Nat.add_comm 1]
      rfl

theorem on_download (loader : Loader β) (url : String) (bound : 0 ≤ loader.retries) :
    (download url).on loader
      = (answer url (loader.network.reply (loader.network.sends (loader.retries.toNat + 1) - 1)),
        loader.afterSending url (loader.network.sends (loader.retries.toNat + 1))) := by
  have tries : (loader.retries + 1).toNat = loader.retries.toNat + 1 := by omega
  rw [download, on_bind, on_get]
  dsimp only
  rw [tries]
  exact on_downloadTrying loader.retries.toNat "None" loader

/-- The workbook in data, which is not read if one is kept under the digest of the data. -/
def reading (format : FileFormat β) (loader : Loader β) (data : β) :
    Except (LoadFailure LoadFault) Parsed :=
  match loader.cache.get? (format.digest data) with
  | some parsed => .ok parsed
  | none => (format.open data).map (⟨·, loader.parses⟩)

/-- The cache of a loader is that of another, but for a workbook under some keys. -/
def Caches (loader : Loader β) (keys : List String) (parsed : Parsed) (after : Loader β) : Prop :=
  ∀ key, after.cache.get? key = if key ∈ keys then some parsed else loader.cache.get? key

theorem Caches.keep {keys : List String} (caches : loader.Caches keys parsed after) (key : String) :
    loader.Caches (key :: keys) parsed (after.keep key parsed) := fun other => by
  rw [Loader.keep, Table.get?_put, caches other]
  by_cases same : other = key <;> simp [same]

theorem on_loadBytes (format : FileFormat β) (loader : Loader β) (data : β) :
    match loader.reading format data with
    | .error failure => (loadBytes format data).on loader = (.error failure, loader)
    | .ok parsed => ∃ after, (loadBytes format data).on loader = (.ok parsed, after) ∧
      after.network = loader.network ∧ loader.Caches [format.digest data] parsed after := by
  cases cached : loader.cache.get? (format.digest data) with
  | some parsed =>
    have read : loader.reading format data = .ok parsed := by rw [reading, cached]
    rw [read, on_loadBytes_of_cached cached]
    refine ⟨loader, rfl, rfl, fun key => ?_⟩
    by_cases same : key = format.digest data
    · simp [same, cached]
    · simp [same]
  | none =>
    have read : loader.reading format data = (format.open data).map (⟨·, loader.parses⟩) := by
      rw [reading, cached]
    rw [read, on_loadBytes_of_new cached]
    cases format.open data with
    | error failure => rfl
    | ok workbook =>
      refine ⟨_, rfl, rfl, fun key => ?_⟩
      rw [Loader.keep, Table.get?_put]
      simp

variable (format) in
theorem on_loadUrl_of_downloaded {data : β} {count : Nat} (new : loader.cache.get? url = none)
    (downloaded : (download url).on loader = (.ok data, loader.afterSending url count)) :
    ∃ after, (loadUrl format url).on loader = (loader.reading format data, after) ∧
      after.network = loader.network.afterSending ⟨url, loader.timeout⟩ count ∧
      match loader.reading format data with
      | .error _ => after.cache = loader.cache
      | .ok parsed => loader.Caches [url, format.digest data] parsed after := by
  have read := on_loadBytes format (loader.afterSending url count) data
  have same : (loader.afterSending url count).reading format data = loader.reading format data := rfl
  rw [on_loadUrl_of_new new, downloaded]
  dsimp only
  rw [same] at read
  cases outcome : loader.reading format data with
  | error failure =>
    rw [outcome] at read
    dsimp only at read
    rw [read]
    exact ⟨_, rfl, rfl, rfl⟩
  | ok parsed =>
    rw [outcome] at read
    obtain ⟨after, read, network, caches⟩ := read
    rw [read]
    exact ⟨after.keep url parsed, rfl, network, caches.keep url⟩

/-- What comes of loading a new URL follows from the last reply. -/
theorem loadUrl_decided (format : FileFormat β) (bound : 0 ≤ loader.retries)
    (new : loader.cache.get? url = none) :
    let sent := loader.network.sends (loader.retries.toNat + 1)
    let loaded := (loadUrl format url).on loader
    loaded.2.network = loader.network.afterSending ⟨url, loader.timeout⟩ sent ∧
    (∀ failure, loaded.1 = .error failure → loaded.2.cache = loader.cache) ∧
    match answer url (loader.network.reply (sent - 1)) with
    | .error failure => loaded.1 = .error failure
    | .ok data => loaded.1 = loader.reading format data ∧
      ∀ parsed, loaded.1 = .ok parsed → loader.Caches [url, format.digest data] parsed loaded.2 := by
  intro sent loaded
  have downloaded := on_download loader url bound
  cases answered : answer url (loader.network.reply (sent - 1)) with
  | error failure =>
    rw [answered] at downloaded
    have failed : (loadUrl format url).on loader = (.error failure, loader.afterSending url sent) := by
      rw [on_loadUrl_of_new new, downloaded]
    have failed : loaded = _ := failed
    rw [failed]
    exact ⟨rfl, fun _ _ => rfl, rfl⟩
  | ok data =>
    rw [answered] at downloaded
    obtain ⟨after, read, network, kept⟩ := on_loadUrl_of_downloaded format new downloaded
    have read : loaded = (loader.reading format data, after) := read
    rw [read]
    refine ⟨network, fun failure failed => ?_, rfl, fun parsed ok => ?_⟩
    · dsimp only at failed
      rw [failed] at kept
      exact kept
    · dsimp only at ok
      rw [ok] at kept
      exact kept

variable (format url) in
/-- A download is tried again, as often as the loader allows, until a reply settles the matter. That
reply alone decides what comes of it; if there is none, the last failure is told. A workbook that is
read is kept under the URL and under its digest, and a failure leaves the cache as it is. -/
theorem loadUrl_retries (loader : Loader β) (bound : 0 ≤ loader.retries)
    (new : loader.cache.get? url = none) :
    let tries := loader.retries.toNat + 1
    let outcome := ((loadUrl format url).on loader).1
    let after := ((loadUrl format url).on loader).2
    after.network
      = loader.network.afterSending ⟨url, loader.timeout⟩ (loader.network.sends tries) ∧
    (∀ place, loader.network.settledAt? = some place → place < tries →
      match loader.network.reply place with
      | .connectionFailure _ | .timedOut _ => False
      | .requestFailure message => outcome = .error (.broken (.request message))
      | .response status reason body => status < serverFailure ∧
        if anyFailure ≤ status then outcome = .error (.unavailable
          ⟨"Failed to download template: " ++ s!"HTTP {status} {reason}", some url⟩)
        else outcome = loader.reading format body ∧ ∀ parsed, outcome = .ok parsed →
          loader.Caches [url, format.digest body] parsed after) ∧
    (loader.network.Unsettled tries → ∃ message,
      (loader.network.reply loader.retries.toNat).passing? = some message ∧
      outcome = .error (.unavailable ⟨"Failed to download template: " ++ message, some url⟩)) ∧
    ∀ failure, outcome = .error failure → after.cache = loader.cache := by
  intro tries outcome after
  obtain ⟨network, cache, decided⟩ := loadUrl_decided format bound new
  refine ⟨network, fun place settled within => ?_, fun unsettled => ?_, cache⟩
  · rw [Network.sends_of_settled settled within, Nat.add_sub_cancel] at decided
    have settling := Network.passing_of_settled settled
    cases reply : loader.network.reply place with
    | connectionFailure message =>
      rw [reply] at settling
      cases settling
    | timedOut message =>
      rw [reply] at settling
      cases settling
    | requestFailure message =>
      rw [reply] at decided
      exact decided
    | response status reason body =>
      rw [reply, Reply.passing?] at settling
      rw [reply, answer] at decided
      split at settling
      · cases settling
      · next passed =>
        rw [if_neg passed] at decided
        refine ⟨Int.not_le.mp passed, ?_⟩
        split
        · next failed =>
          rw [if_pos failed] at decided
          exact decided
        · next ok =>
          rw [if_neg ok] at decided
          exact decided
  · obtain ⟨message, passing⟩ :=
      Network.passing_of_unsettled unsettled (Nat.lt_succ_self loader.retries.toNat)
    rw [Network.sends_of_unsettled unsettled, Nat.add_sub_cancel, answer_of_passing passing] at decided
    exact ⟨message, passing, decided⟩

theorem loadUrl_retries_of_recovery :
    let loader := new (.whole 2) 1 [.response 503 "Unavailable" 2, .response 200 "OK" 3]
    let url := "https://example.com/prijzen.xlsx"
    let loaded := (loadUrl numberFormat url).on loader
    0 ≤ loader.retries ∧ loader.cache.get? url = none ∧
      loaded.2.network.requests = [⟨url, .whole 2⟩, ⟨url, .whole 2⟩] ∧
      loaded.1 = loader.reading numberFormat 3 := by
  intro loader url loaded
  have bound : 0 ≤ loader.retries := by decide
  obtain ⟨network, decided, _⟩ := loadUrl_retries numberFormat url loader bound rfl
  obtain ⟨_, outcome, _⟩ := decided 1 rfl (by decide)
  exact ⟨bound, rfl, congrArg Network.requests network, outcome⟩

end Loader
end
end SheetPricing.Loading
