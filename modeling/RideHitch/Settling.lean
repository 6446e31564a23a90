import Mathlib.Algebra.Order.BigOperators.Group.Finset
import RideHitch.Navigation.Opened

/-! # The answers run out

    No answer of the network makes the app ask again without end: a place lookup is
    followed by one request for directions, and nothing else follows by itself.

    Section 1 counts what is outstanding on one device, Section 2 what is outstanding
    in the fleet.  A place lookup counts for two, since it may be followed by
    directions, and a device that runs counts for one, since an answer may stop it. -/

namespace RideHitch

variable {describe : Double → String} {realm : DateSort} {date : String → Option NSDate}
  {jsonObject : String → Option Json} {double : String → Option Double}

/-! ## Section 1: One device -/

def Event.isAnswer : Event → Bool
  | .autocompleteReturned _ _ => true
  | .lookUpReturned _ _ => true
  | .directionsReturned _ _ => true
  | _ => false

def SearchEvent.isAnswer : SearchEvent → Bool
  | .itemsReturned _ _ => true
  | .matchesReturned _ _ => true
  | _ => false

def TripsEvent.isAnswer : TripsEvent → Bool
  | .search _ e => e.isAnswer
  | _ => false

/-- An answer of the network, or an effect on the remote table. -/
def FleetEvent.isAnswer : FleetEvent → Bool
  | .app _ e => e.isAnswer
  | .tab _ e => e.isAnswer
  | .requestButtonPressed _ _ _ _ => false
  | .tookEffect _ => true
  | .saveReturned _ _ => true

namespace App

def outstanding (app : App) : ℕ :=
  app.queries.outstanding.length + 2 * app.lookups.outstanding.length +
    app.directions.outstanding.length

theorem outstanding_of_lookUpReturned {app app' : App} {serial : ℕ} {result : Option GMSPlace}
    (h : app.lookUpReturned serial result = .ok app') :
    app' = app ∨ app'.outstanding < app.outstanding := by
  unfold lookUpReturned at h
  split at h
  next lookup hfind =>
    split at h
    · obtain ⟨⟨vc', request⟩, _, rfl⟩ := bind_pure_eq_ok.mp h
      refine .inr ?_
      have hsettled := Requests.length_settle_lt hfind
      -- one lookup less, and one request for directions more at most
      cases request with
      | none =>
        simp only [outstanding, setScreen]
        omega
      | some request =>
        simp only [outstanding, setScreen, Requests.issue, List.length_append,
          List.length_singleton]
        omega
    · exact .inl (Except.ok.inj h).symm
  next => exact .inl (Except.ok.inj h).symm

theorem outstanding_of_directionsReturned {app app' : App} {serial : ℕ}
    {answer : DirectionsAnswer} (h : app.directionsReturned describe serial answer = .ok app') :
    app' = app ∨ app'.outstanding < app.outstanding := by
  unfold directionsReturned at h
  split at h
  next request hfind =>
    have hsettled := Requests.length_settle_lt hfind
    obtain ⟨⟨rc, posted⟩, _, h⟩ := bind_eq_ok.mp h
    refine .inr ?_
    cases posted with
    | true =>
      obtain ⟨screens, _, rfl⟩ := bind_pure_eq_ok.mp h
      simp only [outstanding]
      omega
    | false =>
      rw [← Except.ok.inj h]
      simp only [outstanding]
      omega
  next => exact .inl (Except.ok.inj h).symm

theorem outstanding_of_autocompleteReturned (app : App) (serial : ℕ)
    (answer : AutocompleteAnswer) : app.autocompleteReturned realm serial answer = app ∨
      (app.autocompleteReturned realm serial answer).outstanding < app.outstanding := by
  unfold autocompleteReturned
  split
  next i hfind =>
    have hsettled := Requests.length_settle_lt hfind
    refine .inr ?_
    dsimp only
    split
    · simp only [outstanding, setScreen]
      omega
    · simp only [outstanding]
      omega
  next => exact .inl rfl

/-- **An answer** to the add-trip screens, unless it traps. -/
theorem outstanding_of_answer {app app' : App} {e : Event} (he : e.isAnswer = true)
    (h : app.step describe realm e = .ok app') :
    app' = app ∨ app'.outstanding < app.outstanding := by
  cases e with
  | autocompleteReturned serial answer =>
    rw [← Except.ok.inj h]
    exact outstanding_of_autocompleteReturned app serial answer
  | lookUpReturned serial result => exact outstanding_of_lookUpReturned h
  | directionsReturned serial answer => exact outstanding_of_directionsReturned h
  | _ => cases he

end App

/-- **An answer** to a match screen, unless it traps. -/
theorem MatchSearch.outstanding_of_answer {s s' : MatchSearch} {e : SearchEvent}
    (he : e.isAnswer = true) (h : s.step jsonObject double e = .ok s') :
    s' = s ∨ s'.flow.searches.outstanding.length < s.flow.searches.outstanding.length := by
  cases outcome_of_step h with
  | idle => exact .inl rfl
  | moved _ _ => cases he
  | @returned serial task calls hfind _ =>
    obtain ⟨body, hbody⟩ := Option.isSome_iff_exists.mp hfind
    have hsettled := Requests.length_settle_lt hbody
    refine .inr ?_
    dsimp only
    unfold MatchFlow.searchReturned
    rw [hbody]
    cases searchAnswer calls with
    | delivered results => exact hsettled
    | dropped => exact hsettled

namespace TripsTab

def outstanding (tab : TripsTab) : ℕ :=
  (tab.opened.map (fun member => member.2.flow.searches.outstanding.length)).sum

/-- **An answer** to one of the match screens, unless it traps. -/
theorem outstanding_of_answer {tab tab' : TripsTab} {e : TripsEvent} (he : e.isAnswer = true)
    (h : tab.step jsonObject double e = .ok tab') :
    tab' = tab ∨ tab'.rides = tab.rides ∧ tab'.outstanding < tab.outstanding := by
  cases e with
  | search i e =>
    obtain ⟨opened, hopened, rfl⟩ := bind_pure_eq_ok.mp h
    have hstep : ∀ trip s s', (MatchSearch.machine jsonObject double trip).step s e = .ok s' →
        s' = s ∨ s'.flow.searches.outstanding.length < s.flow.searches.outstanding.length := by
      intro trip s s' hstep
      exact MatchSearch.outstanding_of_answer he hstep
    rcases Machine.stepAt_settles hstep hopened with rfl | hlt
    · exact .inl rfl
    · exact .inr ⟨rfl, hlt⟩
  | _ => cases he

end TripsTab

/-! ## Section 2: The fleet -/

/-- The saves that have not taken effect, and those that have not completed. -/
def Cloud.outstanding (cloud : Cloud) : ℕ :=
  (cloud.issued.length - cloud.effected.length) + cloud.saves.outstanding.length

theorem Cloud.effected_length_le {cloud : Cloud} (h : cloud.Sound) :
    cloud.effected.length ≤ cloud.issued.length := by
  apply List.Subperm.length_le
  exact h.effected_nodup.subperm h.issued_of_effected

/-- A completion that is taken settles its save. -/
theorem Cloud.outstanding_of_saveReturned (cloud : Cloud) (serial : ℕ) (error : Bool) :
    cloud.saveReturned serial error = cloud ∨
      (cloud.saveReturned serial error).outstanding < cloud.outstanding := by
  unfold saveReturned
  split
  next save hfind =>
    have hsettled := Requests.length_settle_lt hfind
    split_ifs
    · refine .inr ?_
      simp only [outstanding, report]
      omega
    · unfold succeeded
      split
      · split_ifs
        · refine .inr ?_
          simp only [outstanding, confirm, setDevice]
          omega
        · exact .inl rfl
      · exact .inl rfl
    · exact .inl rfl
  next => exact .inl rfl

/-- A save that takes effect is one less that has not. -/
theorem Cloud.outstanding_of_tookEffect {cloud : Cloud} {serial : ℕ}
    (hsound : (cloud.tookEffect serial).Sound) : cloud.tookEffect serial = cloud ∨
      (cloud.tookEffect serial).outstanding < cloud.outstanding := by
  have hle := effected_length_le hsound
  unfold tookEffect at hle ⊢
  split
  next upload hfind =>
    split_ifs with heffected
    · exact .inl rfl
    · simp only [hfind, if_neg heffected, write, List.length_append, List.length_singleton] at hle
      refine .inr ?_
      simp only [outstanding, write, List.length_append, List.length_singleton]
      omega
  next => exact .inl rfl

namespace Fleet

def running (fleet : Fleet) (device : ℕ) : Bool := (fleet.cloud.devices device).running

def outstandingOn (fleet : Fleet) (device : ℕ) : ℕ :=
  if fleet.running device then
    1 + (fleet.apps device).outstanding + (fleet.tabs device).outstanding
  else 0

/-- What is outstanding on some devices, and at the remote table. -/
def outstanding (devices : Finset ℕ) (fleet : Fleet) : ℕ :=
  (∑ device ∈ devices, fleet.outstandingOn device) + fleet.cloud.outstanding

variable {fleet fleet' : Fleet} {devices : Finset ℕ} {device : ℕ}

theorem outstandingOn_congr (hrunning : fleet'.running device = fleet.running device)
    (happs : (fleet'.apps device).outstanding = (fleet.apps device).outstanding)
    (htabs : (fleet'.tabs device).outstanding = (fleet.tabs device).outstanding) :
    fleet'.outstandingOn device = fleet.outstandingOn device := by
  unfold outstandingOn
  rw [hrunning, happs, htabs]

/-- Something is settled on one device, and nothing is added elsewhere. -/
theorem outstanding_lt_of_device (hdevice : device ∈ devices)
    (hother : ∀ other, other ≠ device → fleet'.outstandingOn other = fleet.outstandingOn other)
    (hcloud : fleet'.cloud.outstanding = fleet.cloud.outstanding)
    (hlt : fleet'.outstandingOn device < fleet.outstandingOn device) :
    fleet'.outstanding devices < fleet.outstanding devices := by
  have hsum : ∑ d ∈ devices, fleet'.outstandingOn d < ∑ d ∈ devices, fleet.outstandingOn d := by
    apply Finset.sum_lt_sum
    · intro other _
      by_cases hsame : other = device
      · rw [hsame]
        exact Nat.le_of_lt hlt
      · exact Nat.le_of_eq (hother other hsame)
    · exact ⟨device, hdevice, hlt⟩
  unfold outstanding
  omega

theorem outstanding_stop (hdevice : device ∈ devices) (hrunning : fleet.running device = true) :
    (fleet.stop device).outstanding devices < fleet.outstanding devices := by
  apply outstanding_lt_of_device hdevice
  · intro other hother
    apply outstandingOn_congr
    · simp [running, stop, Cloud.stop, Cloud.setDevice, hother]
    · rfl
    · rfl
  · rfl
  · have hstopped : (fleet.stop device).running device = false := by
      simp [running, stop, Cloud.stop, Cloud.setDevice]
    simp only [outstandingOn, hrunning, hstopped, if_true, Bool.false_eq_true, if_false]
    omega

/-- **An answer** to the add-trip screens of a device. -/
theorem outstanding_of_app (hdevice : device ∈ devices) {e : Event} (he : e.isAnswer = true) :
    let fleet' := fleet.step describe realm date jsonObject double (.app device e)
    fleet' = fleet ∨ fleet'.outstanding devices < fleet.outstanding devices := by
  intro fleet'
  by_cases hguard : fleet.running device = true ∧ e.opensScreen = false
  · have hstep : fleet' = fleet.appStep describe realm device e := if_pos hguard
    rw [hstep]
    unfold appStep
    cases happ : (fleet.apps device).step describe realm e with
    | error t => exact .inr (outstanding_stop hdevice hguard.1)
    | ok app =>
      have hnew : (fleet.apps device).newTrips app = [] := by
        rcases App.built_of_step happ with ⟨hbuilt, _⟩ | ⟨_, _, _, _, _, _, rfl, _⟩
        · rw [App.newTrips, hbuilt, List.drop_length]
          rfl
        · cases he
      simp only [hnew, List.foldl_nil]
      rcases App.outstanding_of_answer he happ with rfl | hlt
      · refine .inl ?_
        rw [Function.update_eq_self]
      · refine .inr (outstanding_lt_of_device hdevice ?_ rfl ?_)
        · intro other hother
          apply outstandingOn_congr
          · rfl
          · dsimp only
            rw [Function.update_of_ne hother]
          · rfl
        · have hrunning : (fleet.cloud.devices device).running = true := hguard.1
          simp only [outstandingOn, running, Function.update_self, hrunning, if_true]
          omega
  · exact .inl (if_neg hguard)

/-- **An answer** to a match screen of a device. -/
theorem outstanding_of_tab (hdevice : device ∈ devices) {e : TripsEvent}
    (he : e.isAnswer = true) :
    let fleet' := fleet.step describe realm date jsonObject double (.tab device e)
    fleet' = fleet ∨ fleet'.outstanding devices < fleet.outstanding devices := by
  intro fleet'
  by_cases hguard : fleet.running device = true ∧ e.fillsStore = false
  · have hstep : fleet' = fleet.tabStep describe realm jsonObject double device e := if_pos hguard
    rw [hstep]
    unfold tabStep
    cases htab : (fleet.tabs device).step jsonObject double e with
    | error t => exact .inr (outstanding_stop hdevice hguard.1)
    | ok tab =>
      dsimp only
      rcases TripsTab.outstanding_of_answer he htab with rfl | ⟨hrides, hlt⟩
      · rw [if_pos rfl, Function.update_eq_self]
        exact .inl rfl
      · rw [if_pos hrides]
        refine .inr (outstanding_lt_of_device hdevice ?_ rfl ?_)
        · intro other hother
          apply outstandingOn_congr
          · rfl
          · rfl
          · dsimp only
            rw [Function.update_of_ne hother]
        · have hrunning : (fleet.cloud.devices device).running = true := hguard.1
          simp only [outstandingOn, running, Function.update_self, hrunning, if_true]
          omega
  · exact .inl (if_neg hguard)

/-- A save is settled, and the screens keep what is outstanding. -/
theorem outstanding_lt_of_cloud
    (hon : ∀ device, fleet'.outstandingOn device = fleet.outstandingOn device)
    (hlt : fleet'.cloud.outstanding < fleet.cloud.outstanding) :
    fleet'.outstanding devices < fleet.outstanding devices := by
  have hsum : ∑ d ∈ devices, fleet'.outstandingOn d = ∑ d ∈ devices, fleet.outstandingOn d :=
    Finset.sum_congr rfl (fun device _ => hon device)
  unfold outstanding
  omega

theorem outstanding_of_saveReturned
    (hstores : ∀ device,
      (fleet.tabs device).realmTrips = (fleet.cloud.devices device).realmTrips)
    (serial : ℕ) (error : Bool) :
    fleet.saveReturned date serial error = fleet ∨
      (fleet.saveReturned date serial error).outstanding devices < fleet.outstanding devices := by
  rcases Cloud.outstanding_of_saveReturned fleet.cloud serial error with hsame | hlt
  · refine .inl ?_
    have htabs : ∀ device, { fleet.tabs device with
        realmTrips := (fleet.cloud.devices device).realmTrips } = fleet.tabs device := by
      intro device
      rw [← hstores device]
    simp only [saveReturned, Cloud.step, hsame, htabs]
  · refine .inr (outstanding_lt_of_cloud ?_ hlt)
    intro device
    exact outstandingOn_congr (Cloud.device_saveReturned fleet.cloud serial error device).1 rfl rfl

/-- **One answer** settles something, or changes nothing. -/
theorem outstanding_of_answer
    (h : (machine describe realm date jsonObject double).Reachable fleet) {e : FleetEvent}
    (he : e.isAnswer = true) (hdevice : ∀ d ∈ e.device, d ∈ devices) :
    let fleet' := fleet.step describe realm date jsonObject double e
    fleet' = fleet ∨ fleet'.outstanding devices < fleet.outstanding devices := by
  cases e with
  | app device e => exact outstanding_of_app (hdevice device rfl) he
  | tab device e => exact outstanding_of_tab (hdevice device rfl) he
  | requestButtonPressed device trip depature arrival => cases he
  | tookEffect serial =>
    obtain ⟨_, hrun⟩ := h.step (e := .tookEffect serial) rfl
    obtain ⟨_, hcloud⟩ := cloud_of_run hrun
    rcases Cloud.outstanding_of_tookEffect (Cloud.sound_of_run hcloud).1 with hsame | hlt
    · refine .inl ?_
      show { fleet with cloud := fleet.cloud.tookEffect serial } = fleet
      rw [hsame]
    · refine .inr (outstanding_lt_of_cloud ?_ hlt)
      intro device
      apply outstandingOn_congr
      · show ((fleet.cloud.tookEffect serial).devices device).running = _
        rw [Cloud.devices_tookEffect]
        rfl
      · rfl
      · rfl
  | saveReturned serial error =>
    obtain ⟨_, hrun⟩ := h
    exact outstanding_of_saveReturned (fleetInv_of_run hrun).stores serial error

/-- **The answers run out.** From every state of every run: any sequence of answers, on
    any devices, in any order and repeated at will, does what some of them do, and
    these are at most as many as there were saves outstanding, running devices and
    requests outstanding on them (a place lookup counting for two). -/
theorem answers_run_out {es₀ es : List FleetEvent}
    (h₀ : (machine describe realm date jsonObject double).run {} es₀ = .ok fleet)
    (hes : ∀ e ∈ es, e.isAnswer = true ∧ ∀ d ∈ e.device, d ∈ devices)
    (h : (machine describe realm date jsonObject double).run fleet es = .ok fleet') :
    ∃ es', es'.Sublist es ∧
      es'.length + fleet'.outstanding devices ≤ fleet.outstanding devices ∧
      (machine describe realm date jsonObject double).run fleet es' = .ok fleet' := by
  have hinv : ∀ fleet e fleet',
      (machine describe realm date jsonObject double).Reachable fleet →
      (machine describe realm date jsonObject double).step fleet e = .ok fleet' →
      (machine describe realm date jsonObject double).Reachable fleet' := by
    intro fleet e fleet' hreach hstep
    exact hreach.step hstep
  have hstep : ∀ (fleet : Fleet) (e : FleetEvent) fleet',
      (e.isAnswer = true ∧ ∀ d ∈ e.device, d ∈ devices) →
      (machine describe realm date jsonObject double).Reachable fleet →
      (machine describe realm date jsonObject double).step fleet e = .ok fleet' →
      fleet' = fleet ∨ fleet'.outstanding devices < fleet.outstanding devices := by
    intro fleet e fleet' he hreach hstep
    rw [← Except.ok.inj hstep]
    exact outstanding_of_answer hreach he.1 he.2
  exact Machine.run_settles hinv hstep hes ⟨es₀, h₀⟩ h

/-- Answers that were given before, and one that is given twice. -/
def answersAgain : List FleetEvent :=
  [.saveReturned 0 false, .tookEffect 0, .tab 0 (.search 0 (.itemsReturned 0 .error)),
   .tab 0 (.search 0 (.itemsReturned 0 .error)), .app 0 (.lookUpReturned 0 none)]

theorem answers_run_out_firstRide : ∃ fleet fleet', sampleFleet.run {} firstRide = .ok fleet ∧
    sampleFleet.run fleet answersAgain = .ok fleet' ∧
    ∃ es', es'.Sublist answersAgain ∧ es'.length ≤ 2 ∧ sampleFleet.run fleet es' = .ok fleet' := by
  have hevaluated : ∃ fleet, sampleFleet.run {} firstRide = .ok fleet ∧
      fleet.outstanding {0} = 2 := Machine.exists_run_eq_ok _ (by decide +kernel)
  obtain ⟨fleet, hrun, htwo⟩ := hevaluated
  have hanswers : ∀ e ∈ answersAgain,
      e.isAnswer = true ∧ ∀ d ∈ e.device, d ∈ ({0} : Finset ℕ) := by
    simp [answersAgain, FleetEvent.isAnswer, TripsEvent.isAnswer, SearchEvent.isAnswer,
      Event.isAnswer, FleetEvent.device]
  obtain ⟨fleet', hagain⟩ : ∃ fleet', sampleFleet.run fleet answersAgain = .ok fleet' := ⟨_, rfl⟩
  obtain ⟨es', hsub, hlength, hrun'⟩ := answers_run_out hrun hanswers hagain
  exact ⟨fleet, fleet', hrun, hagain, es', hsub, by omega, hrun'⟩

end Fleet

end RideHitch
