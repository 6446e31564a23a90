import RideHitch.Proposer
import RideHitch.Provenance

/-! # Access to the location

    Every add-trip screen proposes access to the location when it opens.  Its two
    actions run on that screen, at once or after the delegate was told: `agreed`
    makes the manager whose deliveries set the location.

    Section 1 is the screens and the proposer together, Section 2 takes their runs
    apart again.  Section 3 says that nothing is located without permission,
    Section 4 what becomes of a screen whose proposal was replaced. -/

namespace RideHitch

/-! ## Section 1: Model -/

/-- The `i`-th screen makes the `i`-th proposal. -/
structure LocationAccess where
  app : App := {}
  proposer : Proposer := {}

/-- `viewDidLoad` comes with what `authorizationStatus` and `locationServicesEnabled`
    return. -/
inductive AccessEvent where
  | viewDidLoad (status : CLAuthorizationStatus) (locationServicesEnabled : Bool)
  | didChangeAuthorization (status : CLAuthorizationStatus)
  | runMain
  | app (e : Event)

/-- The calls that are left to `viewDidLoad` and to the answers of the proposer. -/
def Event.ofAccess : Event → Bool
  | .viewDidLoad => true
  | .screen _ .locationAgreed => true
  | .screen _ .locationRejected => true
  | _ => false

namespace LocationAccess

variable (describe : Double → String) (realm : DateSort)

/-- The action that `requestLocationData` handed over for an answer. -/
def action (answer : ProposerAnswer) : Event :=
  .screen answer.proposal (if answer.agreed then .locationAgreed else .locationRejected)

/-- The actions that were called between two states of the proposer. -/
def actions (proposer proposer' : Proposer) : List Event :=
  (proposer'.answers.drop proposer.answers.length).map action

def proposerStep (access : LocationAccess) (e : ProposerEvent) :
    Except Trap LocationAccess := do
  let proposer := access.proposer.step e
  let app ← (App.machine describe realm).run access.app (actions access.proposer proposer)
  return ⟨app, proposer⟩

def requestLocationData (access : LocationAccess) (status : CLAuthorizationStatus)
    (locationServicesEnabled : Bool) : Except Trap LocationAccess :=
  access.proposerStep describe realm
    (.propose (.location .whenInUse) status locationServicesEnabled)

def step (access : LocationAccess) : AccessEvent → Except Trap LocationAccess
  | .viewDidLoad status enabled => do
      let app ← access.app.step describe realm .viewDidLoad
      requestLocationData describe realm { access with app := app } status enabled
  | .didChangeAuthorization status =>
      access.proposerStep describe realm (.didChangeAuthorization status)
  | .runMain => access.proposerStep describe realm .runMain
  | .app e =>
      if e.ofAccess then .ok access
      else do
        let app ← access.app.step describe realm e
        return { access with app := app }

def machine : Machine LocationAccess AccessEvent Trap where
  init := {}
  step := step describe realm

/-! ## Section 2: The two parts -/

variable {describe realm}

/-- What the proposer is told by an event. -/
def proposerEvents : AccessEvent → List ProposerEvent
  | .viewDidLoad status enabled => [.propose (.location .whenInUse) status enabled]
  | .didChangeAuthorization status => [.didChangeAuthorization status]
  | .runMain => [.runMain]
  | .app _ => []

/-- What the screens are told by an event, before any answers. -/
def appEvents : AccessEvent → List Event
  | .viewDidLoad _ _ => [.viewDidLoad]
  | .app e => if e.ofAccess then [] else [e]
  | _ => []

theorem actions_self (proposer : Proposer) : actions proposer proposer = [] := by
  rw [actions, List.drop_length, List.map_nil]

theorem proposerStep_eq_ok {access access' : LocationAccess} {e : ProposerEvent}
    (h : access.proposerStep describe realm e = .ok access') :
    access'.proposer = access.proposer.step e ∧ (App.machine describe realm).run access.app
      (actions access.proposer access'.proposer) = .ok access'.app := by
  obtain ⟨app, hrun, rfl⟩ := bind_pure_eq_ok.mp h
  exact ⟨rfl, hrun⟩

/-- **Steps.** The proposer takes its events, and the screens theirs and the actions of
    the answers that were given meanwhile. -/
theorem parts_of_step {access access' : LocationAccess} {ae : AccessEvent}
    (h : access.step describe realm ae = .ok access') :
    access'.proposer = (proposerEvents ae).foldl Proposer.step access.proposer ∧
    (App.machine describe realm).run access.app
      (appEvents ae ++ actions access.proposer access'.proposer) = .ok access'.app := by
  cases ae with
  | viewDidLoad status enabled =>
    obtain ⟨app, happ, h⟩ := bind_eq_ok.mp h
    obtain ⟨hproposer, hrun⟩ := proposerStep_eq_ok h
    exact ⟨hproposer, (Machine.run_cons_of_ok _ _ happ).trans hrun⟩
  | didChangeAuthorization status => exact proposerStep_eq_ok h
  | runMain => exact proposerStep_eq_ok h
  | app e =>
    simp only [step] at h
    split_ifs at h with hof
    · rw [← Except.ok.inj h, actions_self]
      simp [proposerEvents, appEvents, hof]
    · obtain ⟨app, hstep, rfl⟩ := bind_pure_eq_ok.mp h
      refine ⟨rfl, ?_⟩
      simp only [appEvents, hof, actions_self]
      exact Machine.run_cons_of_ok _ [] hstep

end LocationAccess

/-! ## Section 3: No location without permission -/

namespace App

variable {describe : Double → String} {realm : DateSort}

/-- The screen has been given a manager, which may have delivered by now. -/
def Managed (app : App) (i : ℕ) : Prop :=
  ∃ vc, app.screens[i]? = some vc ∧ (vc.locationManager.isSome ∨ vc.currentLocation.isSome)

/-- Only the agreed action gives a screen a manager, and only that delivers. -/
theorem managed_of_moves {app : App} {rc' : RouteCalculator} {i : ℕ} {e : Event}
    {vc vc' : AddTripWithMapVC} (h : Moves realm app rc' i e vc vc')
    (hmanaged : vc'.locationManager.isSome ∨ vc'.currentLocation.isSome) :
    vc.locationManager.isSome ∨ vc.currentLocation.isSome ∨ e = .screen i .locationAgreed := by
  have hkept : vc'.locationManager = vc.locationManager →
      vc'.currentLocation = vc.currentLocation →
      vc.locationManager.isSome ∨ vc.currentLocation.isSome ∨ e = .screen i .locationAgreed := by
    intro hmanager hlocation
    rw [hmanager, hlocation] at hmanaged
    exact hmanaged.imp_right .inl
  cases h with
  | @handled e' vc vc' h =>
    cases AddTripWithMapVC.handled_of_handle h with
    | agreed => exact .inr (.inr rfl)
    | located hmanager => exact .inl hmanager
    | _ => exact hkept rfl rfl
  | tapped _ h =>
    obtain ⟨rfl, _⟩ := AddTripWithMapVC.didSelectRowAt_eq_ok h
    exact hkept rfl rfl
  | fetched _ _ h =>
    obtain ⟨rfl, _⟩ := AddTripWithMapVC.placeFetched_eq_ok h
    exact hkept rfl rfl
  | notified h =>
    obtain ⟨_, _, _, _, _, _, _, _, rfl⟩ := AddTripWithMapVC.routesReady_eq_ok h
    exact hkept rfl rfl
  | kept => exact hkept rfl rfl
  | typed => exact hkept rfl rfl
  | predicted _ => exact hkept rfl rfl

theorem managed_of_step {app app' : App} {e : Event} (h : step describe realm app e = .ok app')
    {i : ℕ} (hmanaged : app'.Managed i) : app.Managed i ∨ e = .screen i .locationAgreed := by
  obtain ⟨vc', hi, hvc'⟩ := hmanaged
  rcases screens_of_step h hi with ⟨_, _, rfl⟩ | ⟨vc, hvc, hmove⟩
  · simp [AddTripWithMapVC.viewDidLoad] at hvc'
  · rcases managed_of_moves hmove hvc' with hmanager | hlocation | he
    · exact .inl ⟨vc, hvc, .inl hmanager⟩
    · exact .inl ⟨vc, hvc, .inr hlocation⟩
    · exact .inr he

theorem managed_of_location {app : App} {i : ℕ} {location : CLLocationCoordinate2D}
    (h : app.locationOf i = some location) : app.Managed i := by
  obtain ⟨vc, hi, hlocation⟩ := Option.bind_eq_some_iff.mp h
  exact ⟨vc, hi, .inr (by rw [hlocation]; rfl)⟩

/-- `K` are the screens that may be given a manager: all that is asked for starts from a
    location that was delivered to one of them. -/
structure Admits (D : Event → Prop) (K : ℕ → Prop) (app : App) : Prop where
  delivered : app.Delivered D
  screens : ∀ i, app.Managed i → K i
  directions : ∀ r ∈ app.directions.outstanding, ∃ i, K i ∧ Located D i r.2.source
  answered : ∀ last ∈ app.answered, ∃ i, K i ∧ Located D i last.request.source
  built : ∀ b ∈ app.built, ∃ i, K i ∧
    Located D i ⟨b.trip.originLatitude, b.trip.originLongitude⟩

variable {D : Event → Prop} {K K' : ℕ → Prop}

theorem Admits.mono {app : App} (h : app.Admits D K) (himp : ∀ i, K i → K' i) :
    app.Admits D K' where
  delivered := h.delivered
  screens := fun i hi => himp i (h.screens i hi)
  directions := by
    intro r hr
    obtain ⟨i, hi, hlocated⟩ := h.directions r hr
    exact ⟨i, himp i hi, hlocated⟩
  answered := by
    intro last hlast
    obtain ⟨i, hi, hlocated⟩ := h.answered last hlast
    exact ⟨i, himp i hi, hlocated⟩
  built := by
    intro b hb
    obtain ⟨i, hi, hlocated⟩ := h.built b hb
    exact ⟨i, himp i hi, hlocated⟩

theorem admits_step {app app' : App} {e : Event} (hs : app.Admits D K)
    (he : e = .viewDidLoad ∨ D e) (hagreed : ∀ i, e = .screen i .locationAgreed → K i)
    (h : step describe realm app e = .ok app') : app'.Admits D K where
  delivered := delivered_step hs.delivered he h
  screens := by
    intro i hmanaged
    rcases managed_of_step h hmanaged with hold | hnew
    · exact hs.screens i hold
    · exact hagreed i hnew
  directions := by
    intro r hr
    rcases directions_of_step h hr with hold | ⟨i, _, _, hlocation, _, _⟩
    · exact hs.directions r hold
    · exact ⟨i, hs.screens i (managed_of_location hlocation),
        hs.delivered.locations i _ hlocation⟩
  answered := by
    intro last hlast
    rcases answered_from_step h hlast with hold | ⟨serial, hrequest⟩
    · exact hs.answered last hold
    · exact hs.directions _ hrequest
  built := by
    intro b hb
    rcases built_of_step h with ⟨hsame, _⟩ | ⟨i, _, _, _, vc, trip, _, hi, _, htrip, happend⟩
    · exact hs.built b (hsame ▸ hb)
    · rw [happend] at hb
      rcases List.mem_append.mp hb with hb | hb
      · exact hs.built b hb
      · -- the trip starts where the screen of the tap is
        rw [List.mem_singleton.mp hb]
        obtain ⟨origin, horigin, htrip⟩ := bind_eq_ok.mp htrip
        obtain ⟨_, _, htrip⟩ := bind_eq_ok.mp htrip
        obtain ⟨_, _, rfl⟩ := bind_pure_eq_ok.mp htrip
        have hlocation : app.locationOf i = some origin := by
          simp [locationOf, hi, unwrap_eq_ok.mp horigin]
        exact ⟨i, hs.screens i (managed_of_location hlocation),
          hs.delivered.locations i origin hlocation⟩

end App

namespace LocationAccess

variable {describe : Double → String} {realm : DateSort} {es : List AccessEvent}

/-- The calls made to the screens: by the events, and by the answers to proposals. -/
def calls (es : List AccessEvent) (e : Event) : Prop := e.ofAccess = true ∨ .app e ∈ es

/-- The proposal of the screen was agreed to. -/
def Agreed (access : LocationAccess) (i : ℕ) : Prop := ⟨i, true⟩ ∈ access.proposer.answers

theorem agreed_of_action {access : LocationAccess} {answer : ProposerAnswer} {i : ℕ}
    (hanswer : answer ∈ access.proposer.answers)
    (h : action answer = .screen i .locationAgreed) : access.Agreed i := by
  obtain ⟨proposal, agreed⟩ := answer
  cases agreed with
  | false => simp [action] at h
  | true =>
    simp only [action, Event.screen.injEq] at h
    rw [Agreed, ← h.1]
    exact hanswer

theorem ofAccess_action (answer : ProposerAnswer) : (action answer).ofAccess = true := by
  unfold action
  split_ifs
  · rfl
  · rfl

end LocationAccess

namespace Proposer

theorem answers_runBlock (p : Proposer) (block : MainBlock) :
    p.answers <+: (p.runBlock block).answers := by
  cases block with
  | granted answer => exact List.prefix_append _ _
  | didChangeAuthorization delegate status =>
    simp only [runBlock]
    split
    · exact List.prefix_append _ _
    · exact List.prefix_rfl

/-- Answers are only added. -/
theorem answers_step (p : Proposer) (e : ProposerEvent) : p.answers <+: (p.step e).answers := by
  cases e with
  | propose resource status enabled =>
    cases resource with
    | location usage =>
      cases status with
      | notDetermined =>
        cases enabled with
        | true => exact List.prefix_rfl
        | false => exact List.prefix_append _ _
      | _ => exact List.prefix_append _ _
    | _ => exact List.prefix_rfl
  | requestReturned proposal granted =>
    simp only [step, requestReturned]
    split_ifs
    · exact List.prefix_rfl
    · exact List.prefix_rfl
  | didChangeAuthorization status =>
    simp only [step, didChangeAuthorization]
    split
    · exact List.prefix_rfl
    · exact List.prefix_rfl
  | runMain =>
    simp only [step, runMain]
    split
    · next block mainQueue _ => exact answers_runBlock { p with mainQueue := mainQueue } block
    · exact List.prefix_rfl

end Proposer

/-! ### Both parts together -/

namespace Proposer

theorem proposed_proposeToAccess (p : Proposer) (resource : PrivateResource)
    (status : CLAuthorizationStatus) (enabled : Bool) :
    (p.proposeToAccess resource status enabled).proposed = p.proposed ++ [resource] := by
  cases resource with
  | location usage =>
    cases status with
    | notDetermined =>
      cases enabled with
      | true => rfl
      | false => rfl
    | _ => rfl
  | _ => rfl

theorem proposed_didChangeAuthorization (p : Proposer) (status : CLAuthorizationStatus) :
    (p.didChangeAuthorization status).proposed = p.proposed := by
  unfold didChangeAuthorization
  split
  · rfl
  · rfl

theorem proposed_runMain (p : Proposer) : p.runMain.proposed = p.proposed := by
  unfold runMain
  split
  · next block mainQueue _ =>
    cases block with
    | granted answer => rfl
    | didChangeAuthorization delegate status =>
      simp only [runBlock]
      split
      · rfl
      · rfl
  · rfl

end Proposer

namespace LocationAccess

variable {describe : Double → String} {realm : DateSort} {es : List AccessEvent}

theorem ne_viewDidLoad_of_mem_actions {proposer proposer' : Proposer} {e : Event}
    (he : e ∈ actions proposer proposer') : e ≠ .viewDidLoad := by
  obtain ⟨answer, _, rfl⟩ := List.mem_map.mp he
  simp [action]

/-- What holds of the two parts after the events `es`. -/
structure AccessInv (es : List AccessEvent) (access : LocationAccess) : Prop where
  admits : access.app.Admits (calls es) access.Agreed
  numbered : access.proposer.Numbered
  usage : ∀ resource ∈ access.proposer.proposed, resource = .location .whenInUse
  /-- The `i`-th screen makes the `i`-th proposal. -/
  length : access.proposer.proposed.length = access.app.screens.length

theorem accessInv_init : AccessInv es {} where
  admits := ⟨App.delivered_init, by simp [App.Managed], by simp [Requests.empty], by simp, by simp⟩
  numbered := Proposer.numbered_init
  usage := by simp
  length := rfl

theorem screens_length_of_run {app app' : App} {calls : List Event}
    (hcalls : ∀ e ∈ calls, e ≠ .viewDidLoad)
    (h : (App.machine describe realm).run app calls = .ok app') :
    app'.screens.length = app.screens.length := by
  have hstep : ∀ app₁ e app₂, e ≠ .viewDidLoad → app₁.screens.length = app.screens.length →
      (App.machine describe realm).step app₁ e = .ok app₂ →
      app₂.screens.length = app.screens.length := by
    intro app₁ e app₂ hne hlength hstep
    exact (App.screens_length_of_step hstep hne).trans hlength
  exact Machine.run_preserves_on hstep hcalls rfl h

/-- A screen that opens makes a proposal, and nothing else does. -/
theorem proposed_of_step {access access' : LocationAccess} {ae : AccessEvent}
    (h : access.step describe realm ae = .ok access') :
    (access'.proposer.proposed = access.proposer.proposed ∧
      access'.app.screens.length = access.app.screens.length) ∨
    (access'.proposer.proposed = access.proposer.proposed ++ [.location .whenInUse] ∧
      access'.app.screens.length = access.app.screens.length + 1) := by
  obtain ⟨hproposer, hrun⟩ := parts_of_step h
  have hactions : ∀ e ∈ actions access.proposer access'.proposer, e ≠ .viewDidLoad :=
    fun e he => ne_viewDidLoad_of_mem_actions he
  cases ae with
  | viewDidLoad status enabled =>
    obtain ⟨app, happ, hrun⟩ := (App.machine describe realm).run_cons_eq_ok.mp hrun
    refine .inr ⟨?_, ?_⟩
    · rw [hproposer]
      show (access.proposer.proposeToAccess (.location .whenInUse) status enabled).proposed = _
      exact Proposer.proposed_proposeToAccess access.proposer _ status enabled
    · rw [screens_length_of_run hactions hrun, ← Except.ok.inj happ]
      simp
  | didChangeAuthorization status =>
    refine .inl ⟨?_, screens_length_of_run hactions hrun⟩
    rw [hproposer]
    exact Proposer.proposed_didChangeAuthorization _ status
  | runMain =>
    refine .inl ⟨?_, screens_length_of_run hactions hrun⟩
    rw [hproposer]
    exact Proposer.proposed_runMain _
  | app e =>
    refine .inl ⟨by rw [hproposer]; rfl, screens_length_of_run ?_ hrun⟩
    intro e' he'
    rcases List.mem_append.mp he' with he' | he'
    · simp only [appEvents] at he'
      split_ifs at he' with hof
      · cases he'
      · rw [List.mem_singleton.mp he']
        rintro rfl
        exact hof rfl
    · exact hactions e' he'

/-- What the proposer keeps in each of its steps, it keeps in a step of both parts. -/
theorem proposer_of_step {I : Proposer → Prop} {access access' : LocationAccess}
    {ae : AccessEvent} (hstep : ∀ p, I p → ∀ e ∈ proposerEvents ae, I (p.step e))
    (hs : I access.proposer) (h : access.step describe realm ae = .ok access') :
    I access'.proposer := by
  rw [(parts_of_step h).1]
  exact List.foldlRecOn _ _ hs hstep

theorem answers_of_step {access access' : LocationAccess} {ae : AccessEvent}
    (h : access.step describe realm ae = .ok access') :
    access.proposer.answers <+: access'.proposer.answers := by
  apply proposer_of_step (I := fun p => access.proposer.answers <+: p.answers) ?_
    List.prefix_rfl h
  intro p hp e _
  exact hp.trans (Proposer.answers_step p e)

/-- The calls of a step are calls of its event or of answers that were given by then. -/
theorem mem_calls_of_step {access' : LocationAccess} {proposer : Proposer} {ae : AccessEvent}
    (hae : ae ∈ es) {e : Event} (he : e ∈ appEvents ae ++ actions proposer access'.proposer) :
    (e = .viewDidLoad ∨ calls es e) ∧ ∀ i, e = .screen i .locationAgreed → access'.Agreed i := by
  rcases List.mem_append.mp he with he | he
  · cases ae with
    | viewDidLoad status enabled =>
      rw [List.mem_singleton.mp he]
      exact ⟨.inl rfl, by simp⟩
    | app e' =>
      simp only [appEvents] at he
      split_ifs at he with hof
      · cases he
      · rw [List.mem_singleton.mp he]
        refine ⟨.inr (.inr hae), ?_⟩
        rintro i rfl
        exact absurd rfl hof
    | _ => cases he
  · obtain ⟨answer, hanswer, rfl⟩ := List.mem_map.mp he
    refine ⟨.inr (.inl (ofAccess_action answer)), ?_⟩
    intro i hi
    exact agreed_of_action (List.mem_of_mem_drop hanswer) hi

/-- **One step** keeps the invariant. -/
theorem accessInv_step {access access' : LocationAccess} {ae : AccessEvent} (hae : ae ∈ es)
    (hs : access.AccessInv es) (h : access.step describe realm ae = .ok access') :
    access'.AccessInv es := by
  obtain ⟨_, hrun⟩ := parts_of_step h
  have hmono : ∀ i, access.Agreed i → access'.Agreed i :=
    fun i hi => (answers_of_step h).subset hi
  have hcalls : ∀ app e app', ((e = .viewDidLoad ∨ calls es e) ∧
      ∀ i, e = .screen i .locationAgreed → access'.Agreed i) →
      app.Admits (calls es) access'.Agreed → (App.machine describe realm).step app e = .ok app' →
      app'.Admits (calls es) access'.Agreed := by
    intro app e app' he happ hstep
    exact App.admits_step happ he.1 he.2 hstep
  refine ⟨?_, ?_, ?_, ?_⟩
  · exact Machine.run_preserves_on hcalls (fun e he => mem_calls_of_step hae he)
      (hs.admits.mono hmono) hrun
  · apply proposer_of_step (fun p hp e _ => ?_) hs.numbered h
    obtain ⟨_, hchange, _⟩ := Proposer.change_of_step p e
    exact Proposer.numbered_of_change hp hchange
  · rcases proposed_of_step h with ⟨hsame, _⟩ | ⟨hnew, _⟩
    · rw [hsame]
      exact hs.usage
    · rw [hnew]
      intro resource hresource
      rcases List.mem_append.mp hresource with hresource | hresource
      · exact hs.usage resource hresource
      · exact List.mem_singleton.mp hresource
  · rcases proposed_of_step h with ⟨hsame, hlength⟩ | ⟨hnew, hlength⟩
    · rw [hsame, hlength]
      exact hs.length
    · rw [hnew, hlength, List.length_append, hs.length]
      rfl

theorem accessInv_of_run {access : LocationAccess}
    (h : (machine describe realm).run {} es = .ok access) : access.AccessInv es := by
  have hstep : ∀ access ae access', ae ∈ es → AccessInv es access →
      (machine describe realm).step access ae = .ok access' → AccessInv es access' := by
    intro access ae access' hae hs hstep
    exact accessInv_step hae hs hstep
  exact Machine.run_preserves_on hstep (fun ae hae => hae) accessInv_init h

/-- A status was reported that permits the use of the location while the app is open. -/
def Permitted (es : List AccessEvent) : Prop :=
  ∃ status, Proposer.Sufficient .whenInUse status ∧
    ((∃ enabled, .viewDidLoad status enabled ∈ es) ∨ .didChangeAuthorization status ∈ es)

/-- The proposer runs on its own events. -/
theorem proposer_run {access : LocationAccess}
    (h : (machine describe realm).run {} es = .ok access) :
    Proposer.machine.run {} (es.flatMap proposerEvents) = .ok access.proposer := by
  have hstep : ∀ es ae access access', (machine describe realm).run {} es = .ok access →
      Proposer.machine.run {} (es.flatMap proposerEvents) = .ok access.proposer →
      (machine describe realm).step access ae = .ok access' →
      Proposer.machine.run {} ((es ++ [ae]).flatMap proposerEvents) = .ok access'.proposer := by
    intro es ae access access' _ hrun hstep
    have hfold : ∀ (p : Proposer) events,
        Proposer.machine.run p events = .ok (events.foldl Proposer.step p) := by
      intro p events
      induction events generalizing p with
      | nil => rfl
      | cons e events ih => exact ih (p.step e)
    rw [List.flatMap_append, Proposer.machine.run_append_of_ok hrun, hfold,
      (parts_of_step hstep).1, List.flatMap_singleton]
  exact @Machine.run_history _ _ _ _
    (fun es access => Proposer.machine.run {} (es.flatMap proposerEvents) = .ok access.proposer)
    _ _ _ rfl hstep h

theorem permitted_of_agreed {access : LocationAccess}
    (h : (machine describe realm).run {} es = .ok access) {i : ℕ} (hagreed : access.Agreed i) :
    Permitted es := by
  obtain ⟨resource, hproposed, hback⟩ :=
    (Proposer.informed_of_run (proposer_run h)).answers _ hagreed
  obtain rfl := (accessInv_of_run h).usage resource (List.mem_of_getElem? hproposed)
  obtain ⟨status, enabled, hmade, hstatus⟩ := hback
  -- the proposer was told by an event of the screens
  rcases hstatus with ⟨_, _, status', hcalled, _, _, hsufficient⟩ | ⟨_, hsufficient⟩
  · refine ⟨status', (hsufficient.mp rfl).1, .inr ?_⟩
    obtain ⟨before, _, after, _, hes, _, rfl, _⟩ := hcalled
    have htold : ProposerEvent.didChangeAuthorization status' ∈ es.flatMap proposerEvents := by
      rw [hes]
      exact List.mem_append_right _ List.mem_cons_self
    obtain ⟨ae, hae, he⟩ := List.mem_flatMap.mp htold
    cases ae with
    | didChangeAuthorization status'' =>
      simp only [proposerEvents, List.mem_singleton, ProposerEvent.didChangeAuthorization.injEq]
        at he
      exact he ▸ hae
    | _ => simp [proposerEvents] at he
  · refine ⟨status, hsufficient.mp rfl, .inl ?_⟩
    obtain ⟨before, _, after, _, hes, _, rfl, _⟩ := hmade
    have htold : ProposerEvent.propose (.location .whenInUse) status enabled ∈
        es.flatMap proposerEvents := by
      rw [hes]
      exact List.mem_append_right _ List.mem_cons_self
    obtain ⟨ae, hae, he⟩ := List.mem_flatMap.mp htold
    cases ae with
    | viewDidLoad status' enabled' =>
      simp only [proposerEvents, List.mem_singleton, ProposerEvent.propose.injEq] at he
      obtain ⟨_, rfl, rfl⟩ := he
      exact ⟨_, hae⟩
    | _ => simp [proposerEvents] at he

/-- **No location without permission.** In every run in which nothing traps, a screen has
    a manager or a location only if its own proposal was agreed to, which takes a status
    that permits it; and directions are only asked for and answered, and trips only
    built, from a location that was delivered to such a screen. -/
theorem no_location_without_permission {access : LocationAccess}
    (h : (machine describe realm).run {} es = .ok access) :
    (∀ i, access.app.Managed i → access.Agreed i) ∧ (∀ i, access.Agreed i → Permitted es) ∧
    (∀ r ∈ access.app.directions.outstanding, ∃ i, access.Agreed i ∧
      App.Located (calls es) i r.2.source) ∧
    (∀ last ∈ access.app.answered, ∃ i, access.Agreed i ∧
      App.Located (calls es) i last.request.source) ∧
    ∀ b ∈ access.app.built, ∃ i, access.Agreed i ∧
      App.Located (calls es) i ⟨b.trip.originLatitude, b.trip.originLongitude⟩ := by
  have hs := accessInv_of_run h
  exact ⟨hs.admits.screens, fun i hi => permitted_of_agreed h hi, hs.admits.directions,
    hs.admits.answered, hs.admits.built⟩

/-- The access that the first route needs, with the answer to the dialog. -/
def allowedRoute : List AccessEvent :=
  [.viewDidLoad .notDetermined true, .app (.screen 0 .viewWillAppear),
   .didChangeAuthorization .authorizedWhenInUse, .runMain] ++
  (App.firstRoute.drop 3 ++ [Event.next 0 200 "user" 7]).map .app

theorem no_location_without_permission_allowedRoute : ∃ access,
    (machine App.describeCorner (.insertion _)).run {} allowedRoute = .ok access ∧
    Permitted allowedRoute ∧ ∃ b ∈ access.app.built, ∃ i, access.Agreed i ∧
      App.Located (calls allowedRoute) i ⟨b.trip.originLatitude, b.trip.originLongitude⟩ := by
  have hevaluated : ∃ access,
      (machine App.describeCorner (.insertion _)).run {} allowedRoute = .ok access ∧
      access.app.built ≠ [] :=
    Machine.exists_run_eq_ok _ (by decide +kernel)
  obtain ⟨access, hrun, hne⟩ := hevaluated
  obtain ⟨b, hb⟩ := List.exists_mem_of_ne_nil _ hne
  obtain ⟨_, hpermitted, _, _, hbuilt⟩ := no_location_without_permission hrun
  obtain ⟨i, hi, hlocated⟩ := hbuilt b hb
  exact ⟨access, hrun, hpermitted i hi, b, hb, i, hi, hlocated⟩

/-! ## Section 4: A proposal that was replaced -/

/-- Neither given nor under way, and no delegate waits for it. -/
def Abandoned (access : LocationAccess) (i : ℕ) : Prop :=
  i < access.proposer.proposed.length ∧ i ∉ access.proposer.underWay ∧
    ¬ access.proposer.WaitsFor i

end LocationAccess

namespace Proposer

/-- What is abandoned stays so: numbers are never used again. -/
theorem abandoned_of_change {p p' : Proposer} {Q : Prop} (h : Change p p' Q) {i : ℕ}
    (hi : i < p.proposed.length) (hunder : i ∉ p.underWay) (hwaits : ¬ p.WaitsFor i) :
    i < p'.proposed.length ∧ i ∉ p'.underWay ∧ ¬ p'.WaitsFor i := by
  rw [← List.count_eq_zero] at hunder ⊢
  cases h with
  | moved hlength hcount hdelegate =>
    exact ⟨by omega, by rw [hcount, hunder], by rwa [waitsFor_congr hdelegate]⟩
  | answered hlength hcount hdelegate =>
    have hne : i ≠ p.proposed.length := Nat.ne_of_lt hi
    refine ⟨by omega, ?_, by rwa [waitsFor_congr hdelegate]⟩
    rw [hcount, hunder, if_neg hne]
  | @waiting delegate hlength hcount hdelegate hproposal =>
    refine ⟨by omega, by rw [hcount, hunder], ?_⟩
    rintro ⟨delegate', hdelegate', rfl⟩
    rw [← Option.some.inj (hdelegate.symm.trans hdelegate')] at hi
    omega
  | @called delegate hlength hcount hbefore hdelegate =>
    have hne : i ≠ delegate.proposal := by
      rintro rfl
      exact hwaits ⟨delegate, hbefore, rfl⟩
    refine ⟨by omega, ?_, ?_⟩
    · rw [hcount, hunder, if_neg hne]
    · rwa [waitsFor_congr (hdelegate.trans hbefore.symm)]
  | cleared hlength hcount hdelegate =>
    refine ⟨by omega, by rw [hcount, hunder], ?_⟩
    rintro ⟨delegate', hdelegate', _⟩
    rw [hdelegate] at hdelegate'
    cases hdelegate'

end Proposer

namespace LocationAccess

variable {describe : Double → String} {realm : DateSort} {es : List AccessEvent}

theorem abandoned_step {access access' : LocationAccess} {ae : AccessEvent} {i : ℕ}
    (hs : access.Abandoned i) (h : access.step describe realm ae = .ok access') :
    access'.Abandoned i := by
  apply proposer_of_step (I := fun p => i < p.proposed.length ∧ i ∉ p.underWay ∧ ¬ p.WaitsFor i)
    (fun p hp e _ => ?_) hs h
  obtain ⟨_, hchange, _⟩ := Proposer.change_of_step p e
  exact Proposer.abandoned_of_change hchange hp.1 hp.2.1 hp.2.2

/-- A lookup that returns a place needs the location of its screen. -/
theorem lookUpReturned_of_no_location {app : App} {serial : ℕ} {lookup : PlaceLookup}
    {vc : AddTripWithMapVC} (hfind : app.lookups.find serial = some lookup)
    (hi : app.screens[lookup.screen]? = some vc) (hlocation : vc.currentLocation = none)
    (place : GMSPlace) :
    app.step describe realm (.lookUpReturned serial (some place)) =
      .error (.foundNil .currentLocation) := by
  simp only [App.step, App.lookUpReturned, hfind, hi, AddTripWithMapVC.placeFetched,
    AddTripWithMapVC.addPlaceToMap, AddTripWithMapVC.calculateRouteToPlace, hlocation, unwrap_none]
  rfl

/-- **A screen whose proposal was replaced** before it was called stays without a manager
    and without a location whatever happens, and the first of its lookups that returns a
    place stops the app. -/
theorem abandoned_for_good {access access' : LocationAccess} {es' : List AccessEvent} {i : ℕ}
    (h : (machine describe realm).run {} es = .ok access) (habandoned : access.Abandoned i)
    (h' : (machine describe realm).run access es' = .ok access') :
    access'.Abandoned i ∧ ∃ vc, access'.app.screens[i]? = some vc ∧
      vc.locationManager = none ∧ vc.currentLocation = none ∧
      ∀ serial lookup place, access'.app.lookups.find serial = some lookup → lookup.screen = i →
        access'.step describe realm (.app (.lookUpReturned serial (some place))) =
          .error (.foundNil .currentLocation) := by
  have hstep : ∀ access ae access', access.Abandoned i →
      (machine describe realm).step access ae = .ok access' → access'.Abandoned i := by
    intro access ae access' hs hstep
    exact abandoned_step hs hstep
  have hgone := Machine.run_preserves hstep habandoned h'
  have hrun : (machine describe realm).run {} (es ++ es') = .ok access' :=
    ((machine describe realm).run_append_of_ok h es').trans h'
  have hs := accessInv_of_run hrun
  have hunmanaged : ¬ access'.app.Managed i := by
    intro hmanaged
    -- the agreed answer would be under way
    apply hgone.2.1
    have hanswered := List.mem_map_of_mem (f := ProposerAnswer.proposal)
      (hs.admits.screens i hmanaged)
    simp only [Proposer.underWay, List.mem_append]
    exact .inl (.inl hanswered)
  obtain ⟨vc, hi⟩ : ∃ vc, access'.app.screens[i]? = some vc :=
    ⟨_, List.getElem?_eq_getElem (hs.length ▸ hgone.1)⟩
  have hmanager : vc.locationManager = none := by
    by_contra hne
    exact hunmanaged ⟨vc, hi, .inl (Option.isSome_iff_ne_none.mpr hne)⟩
  have hlocation : vc.currentLocation = none := by
    by_contra hne
    exact hunmanaged ⟨vc, hi, .inr (Option.isSome_iff_ne_none.mpr hne)⟩
  refine ⟨hgone, vc, hi, hmanager, hlocation, ?_⟩
  rintro serial lookup place hfind rfl
  have htrap : access'.app.step describe realm (.lookUpReturned serial (some place)) =
      .error (.foundNil .currentLocation) := lookUpReturned_of_no_location hfind hi hlocation place
  simp only [step, Event.ofAccess, htrap]
  rfl

/-- Two screens open while the dialog is up, and it is answered: the delegate of the
    first is gone, and its lookup of a favourite stops the app. -/
def replaced : List AccessEvent :=
  [.viewDidLoad .notDetermined true, .viewDidLoad .notDetermined true]

def favoriteOfFirst : List AccessEvent :=
  [.app (.favoritesChanged [⟨"Home", "H", 0⟩]), .didChangeAuthorization .authorizedWhenInUse,
   .runMain, .app (.screen 0 .searchBarTextDidBeginEditing), .app (.didSelectRowAt 0 0 100)]

theorem abandoned_for_good_replaced : ∃ access access',
    (machine App.describeCorner (.insertion _)).run {} replaced = .ok access ∧
    (machine App.describeCorner (.insertion _)).run access favoriteOfFirst = .ok access' ∧
    access'.proposer.answers = [⟨1, true⟩] ∧
    access'.step App.describeCorner (.insertion _)
      (.app (.lookUpReturned 0 (some ⟨"Home", ⟨1, 1⟩⟩))) = .error (.foundNil .currentLocation) := by
  have hbefore : ∃ access,
      (machine App.describeCorner (.insertion _)).run {} replaced = .ok access ∧
      0 < access.proposer.proposed.length ∧ 0 ∉ access.proposer.underWay ∧
      access.proposer.locationDelegate.map LocationDelegate.proposal = some 1 :=
    Machine.exists_run_eq_ok _ (by decide +kernel)
  have hafter : ∃ access',
      (machine App.describeCorner (.insertion _)).run {} (replaced ++ favoriteOfFirst) =
        .ok access' ∧
      access'.proposer.answers = [⟨1, true⟩] ∧ access'.app.lookups.find 0 = some ⟨0, "H"⟩ :=
    Machine.exists_run_eq_ok _ (by decide +kernel)
  obtain ⟨access, hrun, hproposed, hunder, hdelegate⟩ := hbefore
  obtain ⟨access', hrun', hanswers, hfind⟩ := hafter
  rw [Machine.run_append_of_ok _ hrun] at hrun'
  have hwaits : ¬ access.proposer.WaitsFor 0 := by
    rintro ⟨delegate, hsome, hzero⟩
    rw [hsome] at hdelegate
    simp [hzero] at hdelegate
  obtain ⟨_, _, _, _, _, htraps⟩ := abandoned_for_good hrun ⟨hproposed, hunder, hwaits⟩ hrun'
  exact ⟨access, access', hrun, hrun', hanswers, htraps 0 _ _ hfind rfl⟩

end LocationAccess

end RideHitch
