import SheetPricing.Proofs.Archive.Supply

/-! A session that is used while a template is on its way to it. A source may change the session, load
and calculate before it gives its workbook, and the sources of those loads may do the same. All of this
is written down, with the template that is held at each moment, and a rule that knows of no count of
changes says from what was written down which template that is. -/
namespace SheetPricing.Session
open Action

/-- What a source gives: its configuration, and its workbook or the reason why there is none. -/
structure Offer (ε : Type) where
  config : Option PricingConfig
  workbook : Except (LoadFailure ε) Workbook

def Offer.template? {ε : Type} (offer : Offer ε) : Option Template :=
  offer.config.bind fun config => offer.workbook.toOption.map (⟨config, ·⟩)

/-- What is done with a session. Where a source is asked, something is done before its workbook is
given. -/
inductive Deed (ε : Type) where
  | replace (template : Template)
  | invalidate
  | load (offer : Option (Offer ε)) (meanwhile : List (Deed ε))
  | calculate (offer : Option (Offer ε)) (meanwhile : List (Deed ε))
      (inputs : PerDimension (Option RawInput))

inductive Event where
  | replaced (template : Template)
  | invalidated
  | told (config : Option PricingConfig)
  /-- A call is back that asked for an offer unless a template was held; it began so many events
  ago. -/
  | returned (span : Nat) (offered : Option Template)

def Event.isChange : Event → Bool
  | replaced _ => true
  | invalidated => true
  | told _ => false
  | returned _ _ => false

/-- An event with the template that is held behind it. -/
structure Noted where
  event : Event
  template : Option Template

abbrev Journal := List Noted

def Journal.events (journal : Journal) : List Event := journal.map Noted.event

theorem Journal.events_append (journal earlier : Journal) :
    (journal ++ earlier).events = journal.events ++ earlier.events := List.map_append

/-- The template that is held after some events. A change settles it; an offer is taken if nothing is
held and nothing changed the session since the call for it began. -/
def held (before : Option Template) : List Event → Option Template
  | [] => before
  | .replaced template :: _ => some template
  | .invalidated :: _ => none
  | .told _ :: earlier => held before earlier
  | .returned span offered :: earlier =>
    (held before earlier).or (if (earlier.take span).any Event.isChange then none else offered)

section
variable {ε ε' α : Type}

def note (event : Event) : SourceM ε Journal Unit :=
  modify fun (session, journal) => (session, ⟨event, session.template⟩ :: journal)

def Offer.source (offer : Offer ε) (work : SourceM ε Journal Unit) : Source ε Journal where
  config := do
    note (.told offer.config)
    return offer.config
  workbook _ := do
    work
    Action.ofExcept offer.workbook

/-- Make a call that may ask for an offer, and write down that it is back, whatever came of it. -/
def recorded (offer : Option (Offer ε)) (call : Action ε' (Session × Journal) α) :
    SourceM ε Journal Unit := do
  let (_, start) ← get
  discard call.attempt
  let (_, now) ← get
  note (.returned (now.length - start.length) (offer.bind Offer.template?))

mutual

def Deed.perform : Deed ε → SourceM ε Journal Unit
  | .replace template => do
    modify fun (session, journal) => (session.replace template, journal)
    note (.replaced template)
  | .invalidate => do
    modify fun (session, journal) => (session.invalidate, journal)
    note .invalidated
  | .load offer meanwhile =>
    recorded offer (load (offer.map fun offer => offer.source (performAll meanwhile)))
  | .calculate offer meanwhile inputs =>
    recorded offer (calculate (offer.map fun offer => offer.source (performAll meanwhile)) inputs)

def performAll : List (Deed ε) → SourceM ε Journal Unit
  | [] => return
  | deed :: rest => do
    deed.perform
    performAll rest

end

/-- That no call began before the events. -/
def Fits : List Event → Prop
  | [] => True
  | .returned span _ :: earlier => span ≤ earlier.length ∧ Fits earlier
  | _ :: earlier => Fits earlier

/-- That each moment has the template that is held by the rule. -/
def Told (before : Option Template) : Journal → Prop
  | [] => True
  | moment :: earlier =>
    moment.template = held before (Journal.events (moment :: earlier)) ∧ Told before earlier

theorem held_append {events : List Event} (fits : Fits events) (before : Option Template)
    (earlier : List Event) : held before (events ++ earlier) = held (held before earlier) events := by
  induction events with
  | nil => rfl
  | cons event events ih =>
    cases event with
    | replaced template => rfl
    | invalidated => rfl
    | told config => exact ih fits
    | returned span offered =>
      simp only [List.cons_append, held, ih fits.2, List.take_append_of_le_length fits.1]

theorem Fits.append {events earlier : List Event} (fits : Fits events) (fitsToo : Fits earlier) :
    Fits (events ++ earlier) := by
  induction events with
  | nil => exact fitsToo
  | cons event events ih =>
    cases event with
    | replaced template => exact ih fits
    | invalidated => exact ih fits
    | told config => exact ih fits
    | returned span offered =>
      have within : span ≤ (events ++ earlier).length := by
        rw [List.length_append]
        exact Nat.le_add_right_of_le fits.1
      exact ⟨within, ih fits.2⟩

theorem Told.append {moments earlier : Journal} {before : Option Template}
    (fits : Fits moments.events) (told : Told (held before earlier.events) moments)
    (toldToo : Told before earlier) : Told before (moments ++ earlier) := by
  induction moments with
  | nil => exact toldToo
  | cons moment moments ih =>
    have rest : Fits (Journal.events moments) := by
      cases moment with
      | mk event template =>
        cases event with
        | returned span offered => exact fits.2
        | _ => exact fits
    refine ⟨?_, ih rest told.2⟩
    rw [told.1, ← held_append fits, ← Journal.events_append]
    rfl

/-- What happened from one session to another. -/
structure Course (start : Session) (moments : Journal) (final : Session) : Prop where
  fits : Fits moments.events
  told : Told start.template moments
  template : final.template = held start.template moments.events
  generation : final.generation = start.generation + moments.events.countP Event.isChange

theorem Course.refl (session : Session) : Course session [] session := ⟨trivial, trivial, rfl, rfl⟩

theorem Course.trans {start middle final : Session} {earlier later : Journal}
    (first : Course start earlier middle) (second : Course middle later final) :
    Course start (later ++ earlier) final where
  fits := by
    rw [Journal.events_append]
    exact second.fits.append first.fits
  told := by
    have told := second.told
    rw [first.template] at told
    exact told.append second.fits first.told
  template := by
    rw [Journal.events_append, held_append second.fits, ← first.template]
    exact second.template
  generation := by
    rw [Journal.events_append, List.countP_append, second.generation, first.generation]
    omega

def Recorded (action : SourceM ε Journal Unit) : Prop :=
  ∀ session journal, ∃ final moments,
    action.on (session, journal) = (.ok ⟨⟩, (final, moments ++ journal)) ∧
      Course session moments final

variable {session : Session} {journal : Journal} {offer : Option (Offer ε)}
  {work : SourceM ε Journal Unit}

theorem on_load_of_offer (generation : Nat) (journal : Journal) (offer : Offer ε)
    (work : SourceM ε Journal Unit) :
    (load (some (offer.source work))).on (⟨none, generation⟩, journal) = match offer.config with
      | none => (.ok none, (⟨none, generation⟩, ⟨.told none, none⟩ :: journal))
      | some config => match work.on (⟨none, generation⟩, ⟨.told (some config), none⟩ :: journal) with
        | (.error failure, after) => (.error failure, after)
        | (.ok _, (during, after)) => match offer.workbook with
          | .error failure => (.error failure, (during, after))
          | .ok workbook => (.ok (some ⟨config, workbook⟩),
              (during.install generation ⟨config, workbook⟩, after)) := by
  rw [load, on_bind, on_get]
  dsimp only
  rw [fetch, on_bind, on_get]
  dsimp only
  rw [on_bind, Offer.source, on_bind, note, on_modify]
  dsimp only [on_pure]
  cases offer.config with
  | none => rfl
  | some config =>
    dsimp only
    rw [on_bind, on_bind]
    rcases work.on (⟨none, generation⟩, ⟨.told (some config), none⟩ :: journal) with
      ⟨failure | _, during, after⟩
    · rfl
    · dsimp only
      rw [on_ofExcept]
      cases offer.workbook with
      | error failure => rfl
      | ok workbook =>
        dsimp only
        rw [on_bind, on_modify]
        rfl

/-- An offer that comes back is taken unless the session was changed or a template is held. -/
structure Taken (offered : Option Template) (moments : Journal) (during final : Session) : Prop where
  template : final.template
    = during.template.or (if moments.events.any Event.isChange then none else offered)
  generation : final.generation = during.generation

theorem taken_none (moments : Journal) (session : Session) :
    Taken none moments session session := ⟨by simp, rfl⟩

theorem taken_install {start during : Session} {moments : Journal}
    (course : Course start moments during) (template : Template) :
    Taken (some template) moments during (during.install start.generation template) := by
  -- The generation counts the changes, so it is the old one if and only if there was none.
  have unchanged : during.generation = start.generation ↔
      ¬moments.events.any Event.isChange = true := by
    rw [course.generation, Nat.add_eq_left, List.countP_eq_zero, List.any_eq_true]
    simp
  constructor
  · by_cases changed : moments.events.any Event.isChange = true
    · simp [install, unchanged, changed]
    · cases holds : during.template <;> simp [install, unchanged, changed, holds]
  · unfold install
    split <;> rfl

theorem taken_load (recorded : Recorded work) (session : Session) (journal : Journal)
    (offer : Option (Offer ε)) :
    ∃ outcome during final moments, (load (offer.map (·.source work))).on (session, journal)
        = (outcome, (final, moments ++ journal)) ∧
      Course session moments during ∧ Taken (offer.bind Offer.template?) moments during final := by
  obtain ⟨template, generation⟩ := session
  cases template with
  | some template =>
    exact ⟨_, _, _, [], on_load_of_held rfl, .refl _, rfl, rfl⟩
  | none =>
    cases offer with
    | none => exact ⟨.ok none, _, _, [], rfl, .refl _, taken_none _ _⟩
    | some offer =>
      have told (config : Option PricingConfig) :
          Course ⟨none, generation⟩ [⟨.told config, none⟩] ⟨none, generation⟩ :=
        ⟨trivial, ⟨rfl, trivial⟩, rfl, rfl⟩
      obtain ⟨config, workbook⟩ := offer
      rw [Option.map_some, on_load_of_offer]
      dsimp only [Option.bind_some]
      cases config with
      | none => exact ⟨.ok none, _, _, [_], rfl, told none, taken_none _ _⟩
      | some config =>
        obtain ⟨during, moments, worked, course⟩ :=
          recorded ⟨none, generation⟩ (⟨.told (some config), none⟩ :: journal)
        have whole := (told (some config)).trans course
        dsimp only
        rw [worked, List.append_cons]
        cases workbook with
        | error failure => exact ⟨.error failure, _, _, _, rfl, whole, taken_none _ _⟩
        | ok workbook => exact ⟨_, _, _, _, rfl, whole, taken_install whole ⟨config, workbook⟩⟩

theorem recorded_recorded {ε' α : Type} {call : Action ε' (Session × Journal) α}
    {offer : Option (Offer ε)}
    (called : ∀ session journal, ∃ outcome during final moments,
      call.on (session, journal) = (outcome, (final, moments ++ journal)) ∧
      Course session moments during ∧ Taken (offer.bind Offer.template?) moments during final) :
    Recorded (recorded offer call : SourceM ε Journal Unit) := by
  intro session journal
  obtain ⟨outcome, during, final, moments, done, course, taken⟩ := called session journal
  have template : final.template = held session.template
      (.returned moments.length (offer.bind Offer.template?) :: moments.events) := by
    have all : moments.events.take moments.length = moments.events := by
      simp [Journal.events]
    rw [taken.template, course.template, held, all]
  refine ⟨final, ⟨.returned moments.length (offer.bind Offer.template?), final.template⟩ :: moments,
    ?_, ⟨?_, course.fits⟩, ⟨template, course.told⟩, template, ?_⟩
  · rw [recorded, on_bind, on_get]
    dsimp only
    rw [on_bind, on_discard, on_attempt, done]
    dsimp only [Except.map]
    rw [on_bind, on_get]
    simp [note]
  · simp
  · rw [taken.generation, course.generation]
    rfl

mutual

-- The induction follows the deeds inside deeds: what a source does meanwhile is a course of its own.
theorem Deed.recorded_perform (deed : Deed ε) : Recorded deed.perform := by
  cases deed with
  | replace template =>
    intro session journal
    refine ⟨session.replace template, [⟨.replaced template, some template⟩], ?_,
      trivial, ⟨rfl, trivial⟩, rfl, rfl⟩
    rw [Deed.perform, on_bind, on_modify]
    rfl
  | invalidate =>
    intro session journal
    refine ⟨session.invalidate, [⟨.invalidated, none⟩], ?_, trivial, ⟨rfl, trivial⟩, rfl, rfl⟩
    rw [Deed.perform, on_bind, on_modify]
    rfl
  | load offer meanwhile =>
    rw [Deed.perform]
    exact recorded_recorded fun session journal =>
      taken_load (recorded_performAll meanwhile) session journal offer
  | calculate offer meanwhile inputs =>
    rw [Deed.perform]
    refine recorded_recorded fun session journal => ?_
    obtain ⟨outcome, during, final, moments, loaded, course, taken⟩ :=
      taken_load (recorded_performAll meanwhile) session journal offer
    exact ⟨priced inputs outcome, during, final, moments, by rw [on_calculate, loaded], course, taken⟩

theorem recorded_performAll (deeds : List (Deed ε)) : Recorded (performAll deeds) := by
  intro session journal
  cases deeds with
  | nil =>
    rw [performAll]
    exact ⟨session, [], rfl, .refl session⟩
  | cons deed rest =>
    obtain ⟨middle, earlier, first, course⟩ := deed.recorded_perform session journal
    obtain ⟨final, later, second, courseToo⟩ := recorded_performAll rest middle (earlier ++ journal)
    refine ⟨final, later ++ earlier, ?_, course.trans courseToo⟩
    rw [performAll, on_bind, first]
    dsimp only
    rw [second, List.append_assoc]

end

def Event.offered? : Event → Option Template
  | returned _ offered => offered
  | _ => none

/-- As long as nothing changes a session, the first offer stays. -/
theorem held_of_unchanged {events : List Event} (unchanged : events.any Event.isChange = false) :
    held none events = events.reverse.findSome? Event.offered? := by
  induction events with
  | nil => rfl
  | cons event earlier ih =>
    rw [List.any_cons, Bool.or_eq_false_iff] at unchanged
    obtain ⟨here, before⟩ := unchanged
    rw [List.reverse_cons, List.findSome?_append, ← ih before]
    cases event with
    | replaced template => cases here
    | invalidated => cases here
    | told config => simp [held, Event.offered?]
    | returned span offered =>
      have still : (earlier.take span).any Event.isChange = false := by
        rw [List.any_eq_false] at before ⊢
        exact fun event inside => before event (List.mem_of_mem_take inside)
      simp [held, still, Event.offered?]

theorem Told.template {later earlier : Journal} {moment : Noted} {before : Option Template}
    (told : Told before (later ++ moment :: earlier)) :
    moment.template = held before (Journal.events (moment :: earlier)) := by
  induction later with
  | nil => exact told.1
  | cons first later ih => exact ih told.2

/-- A call that is back puts its offer where nothing was held, if nothing changed meanwhile. -/
theorem Told.offered_of_moved {later earlier : Journal} {span : Nat}
    {offered template before : Option Template}
    (told : Told before (later ++ ⟨.returned span offered, template⟩ :: earlier))
    (moved : template ≠ held before earlier.events) :
    template = offered ∧ ∀ event ∈ earlier.events.take span, event.isChange = false := by
  have rule : template = (held before earlier.events).or
      (if (earlier.events.take span).any Event.isChange then none else offered) := told.template
  cases holds : held before earlier.events with
  | some kept =>
    rw [holds, Option.some_or] at rule
    exact absurd (rule.trans holds.symm) moved
  | none =>
    rw [holds, Option.none_or] at rule
    split at rule
    · exact absurd (rule.trans holds.symm) moved
    · next unchanged =>
      rw [Bool.not_eq_true, List.any_eq_false] at unchanged
      exact ⟨rule, fun event inside => Bool.eq_false_iff.mpr (unchanged event inside)⟩

/-- A source may use the session, with sources of other loads, before it gives its workbook. The load
gives what its own source told and gave. Afterwards the template is held that was held when the
workbook came back, if there was a change; else that of the first load in between that came to one;
else the one just loaded. At each moment the rule says which template is held, so a call puts its
offer there only if nothing changed the session since the call began, before its source told its
configuration. -/
theorem load_amid_changes (generation : Nat) (config : PricingConfig) (workbook : Workbook)
    (deeds : List (Deed ε)) :
    ∃ (during after : Session) (journal : Journal),
      (performAll deeds).on (⟨none, generation⟩, [⟨.told (some config), none⟩])
        = (.ok ⟨⟩, (during, journal)) ∧
      (load (some (Offer.source ⟨some config, .ok workbook⟩ (performAll deeds)))).on
        (⟨none, generation⟩, []) = (.ok (some ⟨config, workbook⟩), (after, journal)) ∧
      during.template = held none journal.events ∧
      (journal.events.any Event.isChange = true → after.template = during.template) ∧
      (journal.events.any Event.isChange = false → after.template
        = (journal.events.reverse.findSome? Event.offered?).or (some ⟨config, workbook⟩)) ∧
      (∀ later moment earlier, journal = later ++ moment :: earlier →
        moment.template = held none (Journal.events (moment :: earlier))) ∧
      (∀ later span offered template earlier,
        journal = later ++ ⟨.returned span offered, template⟩ :: earlier →
        template ≠ held none (Journal.events earlier) →
        template = offered ∧
          ∀ event ∈ (Journal.events earlier).take span, event.isChange = false) := by
  obtain ⟨during, moments, worked, course⟩ :=
    recorded_performAll deeds ⟨none, generation⟩ [⟨.told (some config), none⟩]
  have asked : Course ⟨none, generation⟩ [⟨.told (some config), none⟩] ⟨none, generation⟩ :=
    ⟨trivial, ⟨rfl, trivial⟩, rfl, rfl⟩
  have whole := asked.trans course
  have taken := taken_install whole ⟨config, workbook⟩
  generalize journal : moments ++ [⟨.told (some config), none⟩] = all at *
  refine ⟨during, during.install generation ⟨config, workbook⟩, all, worked, ?_, whole.template,
    ?_, ?_, ?_, ?_⟩
  · rw [on_load_of_offer]
    dsimp only
    rw [worked]
  · intro changed
    simp [taken.template, changed]
  · intro unchanged
    rw [taken.template, whole.template, held_of_unchanged unchanged, unchanged]
    rfl
  · intro later moment earlier split
    have told := whole.told
    rw [split] at told
    exact told.template
  · intro later span offered template earlier split moved
    have told := whole.told
    rw [split] at told
    exact told.offered_of_moved moved

example (early late outer : Template) :
    ((load (some (Offer.source ⟨some outer.config, .ok outer.workbook⟩ (performAll (ε := Empty)
      [.load (some ⟨some early.config, .ok early.workbook⟩) [.replace outer, .invalidate],
        .load (some ⟨some late.config, .ok late.workbook⟩) []])))).on (empty, [])).2.1.template
      = some late := rfl

end
end SheetPricing.Session
