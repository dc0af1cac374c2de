import SheetPricing.Proofs.Archive.Supply
import SheetPricing.Proofs.Loading.Retrying

/-! Templates that cannot be had. Whatever the network replies, a download that does not succeed ends with
an error that a calculation reports, unless the reply that settles it is a failure of another kind or a
file that breaks its reader. -/
namespace SheetPricing
open Loading Action

namespace Loading.Loader
variable {β : Type} {format : FileFormat β} {loader : Loader β} {url : String} {reply other : Reply β}
  {fault : LoadFault}

/-- That a reply settles a download before the tries of a loader are used up. -/
def SettledBy (loader : Loader β) (reply : Reply β) : Prop :=
  ∃ place : Nat, loader.network.settledAt? = some place ∧ place ≤ loader.retries ∧
    loader.network.reply place = reply

/-- What breaks a download, so that it is not an unavailable workbook that is told. -/
inductive Escapes (format : FileFormat β) (url : String) (loader : Loader β) : LoadFault → Prop where
  | request {message : String} (new : loader.cache.get? url = none)
      (settled : loader.SettledBy (.requestFailure message)) :
      Escapes format url loader (.request message)
  | body {status : Int} {reason : String} {data : β} {fault : BrokenFile}
      (new : loader.cache.get? url = none) (settled : loader.SettledBy (.response status reason data))
      (succeeded : status < anyFailure) (unread : loader.cache.get? (format.digest data) = none)
      (broken : format.sheets data = .error (.broken fault)) :
      Escapes format url loader (.file fault)

theorem Escapes.new (escapes : Escapes format url loader fault) : loader.cache.get? url = none := by
  cases escapes with
  | request new => exact new
  | body new => exact new

theorem Escapes.settled (escapes : Escapes format url loader fault) :
    ∃ reply, loader.SettledBy reply := by
  cases escapes with
  | request _ settled => exact ⟨_, settled⟩
  | body _ settled => exact ⟨_, settled⟩

theorem SettledBy.unique (settled : loader.SettledBy reply) (also : loader.SettledBy other) :
    reply = other := by
  obtain ⟨place, first, _, rfl⟩ := settled
  obtain ⟨place, same, _, rfl⟩ := also
  rw [Option.some.inj (first.symm.trans same)]

theorem SettledBy.answered (settled : loader.SettledBy reply) (new : loader.cache.get? url = none) :
    ((loadUrl format url).on loader).1 = match answer url reply with
      | .error failure => .error failure
      | .ok data => loader.reading format data := by
  obtain ⟨place, first, within, rfl⟩ := settled
  have bound : 0 ≤ loader.retries := (Int.natCast_nonneg place).trans within
  obtain ⟨_, _, decided⟩ := loadUrl_decided format bound new
  rw [Network.sends_of_settled first (by omega), Nat.add_sub_cancel] at decided
  cases answered : answer url (loader.network.reply place) with
  | error failure =>
    rw [answered] at decided
    exact decided
  | ok data =>
    rw [answered] at decided
    exact decided.1

theorem reading_eq_broken_iff {data : β} : loader.reading format data = .error (.broken fault) ↔
    loader.cache.get? (format.digest data) = none ∧
      ∃ broken, format.sheets data = .error (.broken broken) ∧ fault = .file broken := by
  rw [reading]
  cases loader.cache.get? (format.digest data) with
  | some parsed =>
    constructor
    · rintro ⟨⟩
    · rintro ⟨⟨⟩, _⟩
  | none =>
    rw [FileFormat.open]
    rcases format.sheets data with (reason | broken) | sheets
    · constructor
      · rintro ⟨⟩
      · rintro ⟨_, _, ⟨⟩, _⟩
    · constructor
      · rintro ⟨⟩
        exact ⟨rfl, broken, rfl, rfl⟩
      · rintro ⟨_, _, ⟨⟩, rfl⟩
        rfl
    · constructor
      · rintro ⟨⟩
      · rintro ⟨_, _, ⟨⟩, _⟩

theorem answer_eq_broken_iff : answer url reply = .error (.broken fault) ↔
    ∃ message, reply = .requestFailure message ∧ fault = .request message := by
  constructor
  · intro told
    cases reply with
    | connectionFailure message => cases told
    | timedOut message => cases told
    | requestFailure message =>
      cases told
      exact ⟨message, rfl, rfl⟩
    | response status reason body =>
      rw [answer] at told
      split at told
      · cases told
      · split at told <;> cases told
  · rintro ⟨message, rfl, rfl⟩
    rfl

theorem answer_eq_ok_iff {data : β} : answer url reply = .ok data ↔
    ∃ status reason, reply = .response status reason data ∧ status < anyFailure := by
  constructor
  · intro told
    cases reply with
    | connectionFailure message => cases told
    | timedOut message => cases told
    | requestFailure message => cases told
    | response status reason body =>
      rw [answer] at told
      split at told
      · cases told
      split at told
      · cases told
      · next succeeded =>
        cases told
        exact ⟨status, reason, rfl, Int.not_le.mp succeeded⟩
  · rintro ⟨status, reason, rfl, succeeded⟩
    have ordered : anyFailure ≤ serverFailure := by decide
    rw [answer, if_neg (Int.not_le.mpr (succeeded.trans_le ordered)), if_neg (Int.not_le.mpr succeeded)]

/-- Of a settled download the reply decides whether it escapes. -/
theorem SettledBy.escapes_iff (settled : loader.SettledBy reply) (new : loader.cache.get? url = none) :
    Escapes format url loader fault ↔ answer url reply = .error (.broken fault) ∨
      ∃ data, answer url reply = .ok data ∧ loader.reading format data = .error (.broken fault) := by
  constructor
  · intro escapes
    cases escapes with
    | request _ failed => exact .inl (answer_eq_broken_iff.mpr ⟨_, settled.unique failed, rfl⟩)
    | body _ answered succeeded unread broken =>
      exact .inr ⟨_, answer_eq_ok_iff.mpr ⟨_, _, settled.unique answered, succeeded⟩,
        reading_eq_broken_iff.mpr ⟨unread, _, broken, rfl⟩⟩
  · rintro (told | ⟨data, told, read⟩)
    · obtain ⟨message, rfl, rfl⟩ := answer_eq_broken_iff.mp told
      exact .request new settled
    · obtain ⟨status, reason, rfl, succeeded⟩ := answer_eq_ok_iff.mp told
      obtain ⟨unread, broken, failed, rfl⟩ := reading_eq_broken_iff.mp read
      exact .body new settled succeeded unread failed

variable (format) in
theorem unavailable_of_unsettled (unsettled : ∀ reply, ¬ loader.SettledBy reply)
    (new : loader.cache.get? url = none) :
    ∃ error, ((loadUrl format url).on loader).1 = .error (.unavailable error) := by
  by_cases bound : 0 ≤ loader.retries
  · have late : loader.network.Unsettled (loader.retries.toNat + 1) := by
      intro place first
      by_contra within
      exact unsettled _ ⟨place, first, by omega, rfl⟩
    obtain ⟨_, _, decided⟩ := loadUrl_decided format bound new
    obtain ⟨message, passing⟩ := Network.passing_of_unsettled late (Nat.lt_succ_self _)
    rw [Network.sends_of_unsettled late, Nat.add_sub_cancel, answer_of_passing passing] at decided
    exact ⟨_, decided⟩
  · -- Nothing is requested at all without a try.
    have tries : (loader.retries + 1).toNat = 0 := by omega
    have failed : (download url).on loader = (.error (downloadError url "None"), loader) := by
      rw [download, on_bind, on_get]
      dsimp only
      rw [tries]
      rfl
    rw [on_loadUrl_of_new new, failed]
    exact ⟨_, rfl⟩

/-- Loading a URL fails as an unavailable workbook, whatever the network replies, but for what escapes. -/
theorem loadUrl_eq_broken_iff :
    ((loadUrl format url).on loader).1 = .error (.broken fault) ↔ Escapes format url loader fault := by
  cases new : loader.cache.get? url with
  | some parsed =>
    rw [on_loadUrl_of_cached new]
    exact iff_of_false nofun fun escapes => nomatch new.symm.trans escapes.new
  | none =>
    by_cases any : ∃ reply, loader.SettledBy reply
    · obtain ⟨reply, settled⟩ := any
      rw [settled.answered new, settled.escapes_iff new]
      cases answer url reply with
      | error failure =>
        constructor
        · rintro ⟨⟩
          exact .inl rfl
        · rintro (⟨⟨⟩⟩ | ⟨_, ⟨⟩, _⟩)
          rfl
      | ok data =>
        refine ⟨fun read => .inr ⟨data, rfl, read⟩, ?_⟩
        rintro (⟨⟨⟩⟩ | ⟨_, ⟨⟩, read⟩)
        exact read
    · obtain ⟨error, told⟩ := unavailable_of_unsettled format (not_exists.mp any) new
      rw [told]
      exact iff_of_false nofun fun escapes => any escapes.settled

end Loading.Loader
namespace Session
open Loader
variable {β σ : Type} {format : FileFormat β} {source : Source LoadFault σ} {session : Session}
  {world : σ} {config : PricingConfig} {middle : Session × σ}

theorem load_of_given (empty : session.template = none)
    (given : source.config.on (session, world) = (.ok (some config), middle)) :
    ((load (some source)).on (session, world)).1
      = ((source.workbook config).on middle).1.map fun workbook => some ⟨config, workbook⟩ := by
  rw [on_load_of_given empty given]
  rcases (source.workbook config).on middle with ⟨failure | workbook, after⟩ <;> rfl

theorem workbook_treatmentSource (treatment : Treatment) (url : String) (config : PricingConfig)
    (state : Session × Archive β) :
    (((Archive.treatmentSource format treatment url).workbook config).on state).1
      = ((loadUrl format config.workbookRef).on state.2.loader).1.map Parsed.workbook := by
  rw [(supplies_treatmentSource format treatment url state.2).workbook, on_bind, Archive.besideSession,
    on_within, Archive.withLoader, on_within]
  dsimp only
  rcases ((loadUrl format config.workbookRef).on state.2.loader).1 with failure | parsed <;> rfl

theorem priced_eq_broken_iff {inputs : PerDimension (Option RawInput)} {fault : LoadFault}
    {loaded : Except (LoadFailure LoadFault) (Option Template)} :
    priced inputs loaded = .error (.broken fault) ↔ loaded = .error (.broken fault) := by
  rcases loaded with (error | error) | (_ | template)
  · constructor <;> rintro ⟨⟩
  · rw [priced, Except.error.injEq, Except.error.injEq, PriceFailure.broken.injEq,
      LoadFailure.broken.injEq]
  · constructor <;> rintro ⟨⟩
  · constructor
    · exact fun told => absurd told (mapError_ne (fun _ => by rintro ⟨⟩) _)
    · rintro ⟨⟩

/-- Loading a URL ends with a workbook or with an error that a calculation reports, for every reply of the
network to every request, unless a request fails in another way or a body breaks its reader. -/
theorem reported_unless_escaping (format : FileFormat β) :
    (∀ (url : String) (loader : Loader β) (fault : LoadFault),
      ((loadUrl format url).on loader).1 = .error (.broken fault) ↔ Escapes format url loader fault) ∧
    ∀ {σ : Type} (source : Source LoadFault σ) (part : σ → Loader β) (url : String) (session : Session)
      (world : σ) (config : PricingConfig) (middle : Session × σ)
      (inputs : PerDimension (Option RawInput)), session.template = none →
      source.config.on (session, world) = (.ok (some config), middle) →
      ((source.workbook config).on middle).1
        = ((loadUrl format url).on (part middle.2)).1.map Parsed.workbook →
      let outcome := ((calculate (some source) inputs).on (session, world)).1
      (∀ error, ((loadUrl format url).on (part middle.2)).1 = .error (.unavailable error) →
        outcome = .ok (CalculationRecord.empty.rejected
          ("Cannot load pricing template: " ++ error.message))) ∧
      ∀ fault, outcome = .error (.broken fault) ↔ Escapes format url (part middle.2) fault := by
  refine ⟨fun url loader fault => loadUrl_eq_broken_iff, ?_⟩
  intro σ source part url session world config middle inputs empty given loads outcome
  have priced : outcome = priced inputs _ := congrArg Prod.fst (on_calculate (some source) inputs _)
  rw [load_of_given empty given, loads] at priced
  refine ⟨fun error told => ?_, fun fault => ?_⟩
  · rw [priced, told]
    rfl
  · rw [priced, priced_eq_broken_iff, map_eq_error_iff, map_eq_error_iff, loadUrl_eq_broken_iff]

theorem reported_unless_escaping_of_redirects :
    let archive : List (Reply Int) → Archive Int := fun replies =>
      ⟨.empty, .empty ⟨"/", ["data"]⟩, .new (.whole 2) 1 replies⟩
    let url := "https://example.com/prijzen.xlsx"
    let source := Archive.treatmentSource numberFormat .galvanizing url
    let outcome := fun replies => ((calculate (some source)
      ⟨some (.integer 10), some (.integer 20), some (.integer 30), some (.integer 61)⟩).on
        (empty, archive replies)).1
    outcome [.connectionFailure "reset", .timedOut "too late"] = .ok (CalculationRecord.empty.rejected
        "Cannot load pricing template: Failed to download template: too late") ∧
      outcome [.requestFailure "too many redirects"]
        = .error (.broken (.request "too many redirects")) := by
  intro archive url source outcome
  have exact := fun replies => (reported_unless_escaping numberFormat).2 source Archive.loader url empty
    (archive replies) (Treatment.galvanizing.config url) (empty, archive replies)
    ⟨some (.integer 10), some (.integer 20), some (.integer 30), some (.integer 61)⟩ rfl rfl (workbook_treatmentSource _ _ _ _)
  refine ⟨(exact _).1 ⟨"Failed to download template: too late", some url⟩ ?_, ((exact _).2 _).mpr ?_⟩
  · rfl
  · exact .request rfl ⟨0, rfl, by decide, rfl⟩

end Session
end SheetPricing
