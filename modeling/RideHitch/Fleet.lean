import RideHitch.RoutePolygon
import RideHitch.AddTrip.Coherence
import RideHitch.RemoteTable
import RideHitch.TripsViewController

/-! # The app on every device

    The list of trips with its match screens, the add-trip screens and the remote
    table together.  The row for a new ride opens an add-trip screen; the trips
    that these build are the objects that presses upload; the list reads the local
    store that the completions of the uploads fill.

    Section 1 is the model.  Section 2 connects it to the remote table alone.
    Section 3 follows the polygon of a trip from the response that it comes from,
    Section 4 the searches back to the rows of the table. -/

namespace RideHitch

/-! ## Section 1: Model -/

structure Fleet where
  cloud : Cloud := {}
  apps : ℕ → App := fun _ => {}
  tabs : ℕ → TripsTab := fun _ => {}

inductive FleetEvent where
  | app (device : ℕ) (e : Event)
  | tab (device : ℕ) (e : TripsEvent)
  | requestButtonPressed (device trip : ℕ) (depature arrival : String)
  | tookEffect (serial : ℕ)
  | saveReturned (serial : ℕ) (error : Bool)

/-- The list opens the add-trip screens. -/
def Event.opensScreen : Event → Bool
  | .viewDidLoad => true
  | _ => false

/-- The completions of the uploads fill the local store. -/
def TripsEvent.fillsStore : TripsEvent → Bool
  | .saveAWSTrip _ => true
  | _ => false

/-- The trips that a step of the add-trip screens has built. -/
def App.newTrips (app app' : App) : List Trips :=
  (app'.built.drop app.built.length).map BuiltTrip.trip

namespace Fleet

variable (describe : Double → String) (realm : DateSort) (date : String → Option NSDate)
  (jsonObject : String → Option Json) (double : String → Option Double)

/-- A trap stops the process, and with it all screens of the device. -/
def stop (fleet : Fleet) (device : ℕ) : Fleet := { fleet with cloud := fleet.cloud.stop device }

def appStep (fleet : Fleet) (device : ℕ) (e : Event) : Fleet :=
  match (fleet.apps device).step describe realm e with
  | .ok app =>
      { fleet with
        apps := Function.update fleet.apps device app
        cloud := ((fleet.apps device).newTrips app).foldl
          (fun cloud trip => cloud.prepare device (.ok trip)) fleet.cloud }
  | .error _ => fleet.stop device

def openScreen (fleet : Fleet) (device : ℕ) : Fleet :=
  fleet.appStep describe realm device .viewDidLoad

def tabStep (fleet : Fleet) (device : ℕ) (e : TripsEvent) : Fleet :=
  match (fleet.tabs device).step jsonObject double e with
  | .ok tab =>
      let fleet' := { fleet with tabs := Function.update fleet.tabs device tab }
      if tab.rides = (fleet.tabs device).rides then fleet'
      else fleet'.openScreen describe realm device
  | .error _ => fleet.stop device

/-- The lists see the local stores that the completion leaves. -/
def saveReturned (fleet : Fleet) (serial : ℕ) (error : Bool) : Fleet :=
  let cloud := fleet.cloud.step date (.saveReturned serial error)
  { fleet with
    cloud := cloud
    tabs := fun device =>
      { fleet.tabs device with realmTrips := (cloud.devices device).realmTrips } }

def step (fleet : Fleet) : FleetEvent → Fleet
  | .app device e =>
      if (fleet.cloud.devices device).running ∧ e.opensScreen = false then
        fleet.appStep describe realm device e
      else fleet
  | .tab device e =>
      if (fleet.cloud.devices device).running ∧ e.fillsStore = false then
        fleet.tabStep describe realm jsonObject double device e
      else fleet
  | .requestButtonPressed device trip depature arrival =>
      { fleet with
        cloud := fleet.cloud.step date (.requestButtonPressed device trip depature arrival) }
  | .tookEffect serial => { fleet with cloud := fleet.cloud.step date (.tookEffect serial) }
  | .saveReturned serial error => fleet.saveReturned date serial error

def machine : Machine Fleet FleetEvent Trap where
  init := {}
  step := fun fleet e => .ok (fleet.step describe realm date jsonObject double e)

/-! ## Section 2: The steps -/

/-- What a step does to the fleet. -/
inductive Outcome (fleet : Fleet) : FleetEvent → Fleet → Prop where
  | idle {fe : FleetEvent} : Outcome fleet fe fleet
  | stopped {fe : FleetEvent} {device : ℕ}
      (hrunning : (fleet.cloud.devices device).running = true) :
      Outcome fleet fe (fleet.stop device)
  | moved {device : ℕ} {e : Event} {app : App}
      (hstep : (fleet.apps device).step describe realm e = .ok app) :
      Outcome fleet (.app device e) { fleet with apps := Function.update fleet.apps device app }
  | built {device i : ℕ} {now : Double} {identityId : String} {random : UInt32} {app : App}
      {vc : AddTripWithMapVC} {trip : Trips}
      (hrunning : (fleet.cloud.devices device).running = true)
      (hstep : (fleet.apps device).step describe realm (.next i now identityId random) = .ok app)
      (hi : (fleet.apps device).screens[i]? = some vc)
      (htrip : vc.prepare (fleet.apps device).routeCalc now identityId random = .ok trip) :
      Outcome fleet (.app device (.next i now identityId random)) { fleet with
        apps := Function.update fleet.apps device app
        cloud := fleet.cloud.prepare device (.ok trip) }
  | listed {device : ℕ} {e : TripsEvent} {tab : TripsTab} {app : App}
      (hstep : (fleet.tabs device).step jsonObject double e = .ok tab)
      (hstore : tab.realmTrips = (fleet.tabs device).realmTrips)
      (happ : app = fleet.apps device ∨
        (fleet.apps device).step describe realm .viewDidLoad = .ok app) :
      Outcome fleet (.tab device e) { fleet with
        apps := Function.update fleet.apps device app
        tabs := Function.update fleet.tabs device tab }
  | pressed {device trip : ℕ} {depature arrival : String} :
      Outcome fleet (.requestButtonPressed device trip depature arrival) { fleet with
        cloud := fleet.cloud.step date (.requestButtonPressed device trip depature arrival) }
  | tookEffect {serial : ℕ} :
      Outcome fleet (.tookEffect serial)
        { fleet with cloud := fleet.cloud.step date (.tookEffect serial) }
  | returned {serial : ℕ} {error : Bool} :
      Outcome fleet (.saveReturned serial error) (fleet.saveReturned date serial error)

variable {describe realm date jsonObject double}

theorem outcome_of_appStep {fleet : Fleet} {device : ℕ}
    (hrunning : (fleet.cloud.devices device).running = true) (e : Event) :
    Outcome describe realm date jsonObject double fleet (.app device e)
      (fleet.appStep describe realm device e) := by
  unfold appStep
  cases hstep : (fleet.apps device).step describe realm e with
  | error t => exact .stopped hrunning
  | ok app =>
    dsimp only
    rcases App.built_of_step hstep with
      ⟨hsame, _⟩ | ⟨_, _, _, _, vc, trip, rfl, hi, _, htrip, happend⟩
    · have hnew : (fleet.apps device).newTrips app = [] := by
        rw [App.newTrips, hsame, List.drop_length]
        rfl
      rw [hnew]
      exact .moved hstep
    · have hnew : (fleet.apps device).newTrips app = [trip] := by
        rw [App.newTrips, happend, List.drop_left]
        rfl
      rw [hnew]
      exact .built hrunning hstep hi htrip

/-- Only the completion of an upload fills the store. -/
theorem realmTrips_of_step {tab tab' : TripsTab} {e : TripsEvent} (hfills : e.fillsStore = false)
    (h : tab.step jsonObject double e = .ok tab') : tab'.realmTrips = tab.realmTrips := by
  cases e with
  | saveAWSTrip trip => cases hfills
  | viewDidLoad => rw [← Except.ok.inj h]; rfl
  | reload => rw [← Except.ok.inj h]; rfl
  | cellForRowAt index =>
    simp only [TripsTab.step, TripsTab.cellForRowAt] at h
    split_ifs at h
    · obtain ⟨_, _, rfl⟩ := bind_pure_eq_ok.mp h
      rfl
    · rw [← Except.ok.inj h]
  | selectRow index =>
    simp only [TripsTab.step, TripsTab.selectRow] at h
    split at h
    · obtain ⟨_, _, rfl⟩ := bind_pure_eq_ok.mp h
      rfl
    · rw [← Except.ok.inj h]
  | search i e =>
    obtain ⟨_, _, rfl⟩ := bind_pure_eq_ok.mp h
    rfl

theorem outcome_of_tabStep {fleet : Fleet} {device : ℕ}
    (hrunning : (fleet.cloud.devices device).running = true) {e : TripsEvent}
    (hfills : e.fillsStore = false) :
    Outcome describe realm date jsonObject double fleet (.tab device e)
      (fleet.tabStep describe realm jsonObject double device e) := by
  unfold tabStep
  cases hstep : (fleet.tabs device).step jsonObject double e with
  | error t => exact .stopped hrunning
  | ok tab =>
    have hstore := realmTrips_of_step hfills hstep
    dsimp only
    split_ifs
    · have hkept : Outcome describe realm date jsonObject double fleet (.tab device e) _ :=
        .listed hstep hstore (.inl rfl)
      rw [Function.update_eq_self] at hkept
      exact hkept
    · -- the screen that is opened builds no trip
      have hnew : (fleet.apps device).newTrips
          { fleet.apps device with screens := (fleet.apps device).screens ++ [.viewDidLoad] } =
          [] := by
        show ((fleet.apps device).built.drop (fleet.apps device).built.length).map _ = []
        rw [List.drop_length]
        rfl
      have hopened : Outcome describe realm date jsonObject double fleet (.tab device e) _ :=
        .listed hstep hstore (.inr rfl)
      unfold openScreen appStep
      simp only [App.step, hnew, List.foldl_nil]
      exact hopened

theorem realmTrips_setDevice (cloud : Cloud) (device : ℕ) (state : Device)
    (h : state.realmTrips = (cloud.devices device).realmTrips) (other : ℕ) :
    ((cloud.setDevice device state).devices other).realmTrips =
      (cloud.devices other).realmTrips := by
  by_cases hother : other = device
  · subst hother
    simp [Cloud.setDevice, h]
  · simp [Cloud.setDevice, hother]

theorem realmTrips_requestButtonPressed (cloud : Cloud) (device trip : ℕ)
    (depature arrival : String) (other : ℕ) :
    ((cloud.step date (.requestButtonPressed device trip depature arrival)).devices
      other).realmTrips = (cloud.devices other).realmTrips := by
  simp only [Cloud.step, Cloud.requestButtonPressed]
  split_ifs
  · split
    · split
      · apply realmTrips_setDevice cloud device
        rfl
      · apply realmTrips_setDevice cloud device
        rfl
    · rfl
  · rfl

theorem realmTrips_tookEffect (cloud : Cloud) (serial other : ℕ) :
    ((cloud.step date (.tookEffect serial)).devices other).realmTrips =
      (cloud.devices other).realmTrips := by
  simp only [Cloud.step, Cloud.tookEffect]
  split
  · split_ifs
    · rfl
    · rfl
  · rfl

/-- A completion adds at most one trip to the store of a device. -/
theorem realmTrips_saveReturned (cloud : Cloud) (serial : ℕ) (error : Bool) (device : ℕ) :
    ((cloud.step date (.saveReturned serial error)).devices device).realmTrips =
      (cloud.devices device).realmTrips ∨
    ∃ trip, ((cloud.step date (.saveReturned serial error)).devices device).realmTrips =
      RealmInteractor.saveAWSTrip (cloud.devices device).realmTrips trip := by
  simp only [Cloud.step, Cloud.saveReturned]
  cases cloud.saves.find serial with
  | none => exact .inl rfl
  | some save =>
    dsimp only
    split_ifs
    · exact .inl rfl
    · simp only [Cloud.succeeded]
      split
      next object _ =>
        split_ifs
        · by_cases hdevice : device = save.device
          · subst hdevice
            exact .inr ⟨object, by simp [Cloud.confirm, Cloud.setDevice]⟩
          · exact .inl (by simp [Cloud.confirm, Cloud.setDevice, hdevice])
        · exact .inl rfl
      · exact .inl rfl
    · exact .inl rfl

theorem outcome_of_step (fleet : Fleet) (e : FleetEvent) :
    Outcome describe realm date jsonObject double fleet e
      (fleet.step describe realm date jsonObject double e) := by
  cases e with
  | app device e =>
    simp only [step]
    split_ifs with hguard
    · exact outcome_of_appStep hguard.1 e
    · exact .idle
  | tab device e =>
    simp only [step]
    split_ifs with hguard
    · exact outcome_of_tabStep hguard.1 hguard.2
    · exact .idle
  | requestButtonPressed device trip depature arrival => exact .pressed
  | tookEffect serial => exact .tookEffect
  | saveReturned serial error => exact .returned

/-- Every step of the fleet is a step of the remote table with its devices, or leaves
    them as they are. -/
theorem cloud_of_outcome {fleet fleet' : Fleet} {fe : FleetEvent}
    (h : Outcome describe realm date jsonObject double fleet fe fleet') :
    fleet'.cloud = fleet.cloud ∨ ∃ e, fleet.cloud.step date e = fleet'.cloud := by
  cases h with
  | idle => exact .inl rfl
  | @stopped _ device hrunning =>
    -- a segue that traps stops a device
    refine .inr ⟨.prepare device {} .viewDidLoad 0 "" 0, ?_⟩
    simp only [Cloud.step, hrunning, if_true]
    rfl
  | moved _ => exact .inl rfl
  | @built device i now identityId random app vc trip hrunning _ _ htrip =>
    refine .inr ⟨.prepare device (fleet.apps device).routeCalc vc now identityId random, ?_⟩
    simp only [Cloud.step, hrunning, if_true, htrip]
  | listed _ _ _ => exact .inl rfl
  | @pressed device trip depature arrival =>
    exact .inr ⟨.requestButtonPressed device trip depature arrival, rfl⟩
  | @tookEffect serial => exact .inr ⟨.tookEffect serial, rfl⟩
  | @returned serial error => exact .inr ⟨.saveReturned serial error, rfl⟩

/-- **Refinement.** What the fleet does to the remote table and the local stores is a
    run of the devices that upload on their own. -/
theorem cloud_of_run {es : List FleetEvent} {fleet : Fleet}
    (h : (machine describe realm date jsonObject double).run {} es = .ok fleet) :
    ∃ es', (Cloud.machine date).run {} es' = .ok fleet.cloud := by
  have hstep : ∀ fleet e fleet',
      (machine describe realm date jsonObject double).step fleet e = .ok fleet' →
      fleet'.cloud = fleet.cloud ∨
        ∃ e', (Cloud.machine date).step fleet.cloud e' = .ok fleet'.cloud := by
    intro fleet e fleet' hstep
    rw [← Except.ok.inj hstep]
    rcases cloud_of_outcome (outcome_of_step fleet e) with hsame | ⟨e', he'⟩
    · exact .inl hsame
    · exact .inr ⟨e', congrArg Except.ok he'⟩
  exact Machine.run_refines hstep h

/-! ## Section 3: The polygon of a trip -/

variable (describe) in
/-- The text of the tight box of the first route of a response that the app got. -/
def PolygonFrom (app : App) (polygon : String) : Prop :=
  ∃ answer ∈ app.answered, ∃ route others box, answer.routes = route :: others ∧
    RouteCalculator.Tight route.polyline box ∧ polygon = ",".intercalate (box.values describe)

theorem PolygonFrom.step {app app' : App} {e : Event} {polygon : String}
    (h : PolygonFrom describe app polygon) (hstep : app.step describe realm e = .ok app') :
    PolygonFrom describe app' polygon := by
  obtain ⟨answer, hanswer, hbox⟩ := h
  rcases App.answered_of_step hstep with ⟨_, hsame⟩ | ⟨request, routes, hcons, _⟩
  · exact ⟨answer, hsame ▸ hanswer, hbox⟩
  · exact ⟨answer, hcons ▸ List.mem_cons_of_mem _ hanswer, hbox⟩

/-- A trip carries the polygon that the calculator has, which is that of its last
    response. -/
theorem polygonFrom_of_prepare {app : App} (hinv : app.Derived describe) {vc : AddTripWithMapVC}
    {now : Double} {identityId : String} {random : UInt32} {trip : Trips}
    (h : vc.prepare app.routeCalc now identityId random = .ok trip) :
    PolygonFrom describe app trip.polygon := by
  obtain ⟨_, _, values, _, _, hvalues, _, hpolygon⟩ := AddTripWithMapVC.prepare_eq_ok h
  rcases hinv with ⟨_, hrc⟩ | ⟨last, earlier, route, box, hanswered, hroutes, hfrom⟩
  · rw [hrc] at hvalues
    cases hvalues
  · obtain ⟨others, hothers⟩ := hfrom.routes
    have hvalues' : values = box.values describe :=
      Option.some.inj (hvalues.symm.trans hfrom.values)
    refine ⟨last, ?_, route, others, box, ?_, ?_, ?_⟩
    · rw [hanswered]
      exact List.mem_cons_self
    · exact Option.some.inj (hroutes.symm.trans hothers)
    · exact RouteCalculator.boundingBox_eq_ok_iff_tight.mp hfrom.bounds
    · rw [hpolygon, hvalues']

variable (describe jsonObject double) in
/-- The invariants of the parts, and what connects them. -/
structure FleetInv (fleet : Fleet) : Prop where
  derived : ∀ device, (fleet.apps device).Derived describe
  tabs : ∀ device, (fleet.tabs device).TabInv jsonObject double
  /-- The list reads the store that the uploads fill. -/
  stores : ∀ device, (fleet.tabs device).realmTrips = (fleet.cloud.devices device).realmTrips
  polygons : fleet.cloud.Carries
    (fun device trip => PolygonFrom describe (fleet.apps device) trip.polygon)

theorem fleetInv_init : FleetInv describe jsonObject double {} where
  derived := fun _ => .inl ⟨rfl, rfl⟩
  tabs := fun _ => TripsTab.tabInv_init
  stores := fun _ => rfl
  polygons := Cloud.carries_init _

/-- A press leaves the polygon as it is. -/
theorem polygon_of_pressed {object uploaded : Trips} (h : Cloud.Pressed date object uploaded) :
    uploaded.polygon = object.polygon := by
  obtain ⟨depature, arrival, h⟩ := h
  obtain ⟨trip, _, _, geohash, htrip, _, _, _, rfl⟩ :=
    ConfigureTripVC.requestButtonPressed_eq_ok h
  rw [Option.some.inj htrip]

/-- A step of one app keeps what all apps have answered. -/
theorem polygons_update {fleet : Fleet} {device : ℕ} {app : App} {e : Event}
    (hstep : (fleet.apps device).step describe realm e = .ok app)
    (h : fleet.cloud.Carries
      (fun device trip => PolygonFrom describe (fleet.apps device) trip.polygon)) :
    fleet.cloud.Carries (fun other trip =>
      PolygonFrom describe (Function.update fleet.apps device app other) trip.polygon) := by
  apply h.mono
  intro other trip hfrom
  by_cases hother : other = device
  · subst hother
    rw [Function.update_self]
    exact hfrom.step hstep
  · rw [Function.update_of_ne hother]
    exact hfrom

theorem derived_update {fleet : Fleet} {device : ℕ} {app : App} {e : Event}
    (hstep : (fleet.apps device).step describe realm e = .ok app)
    (h : ∀ device, (fleet.apps device).Derived describe) (other : ℕ) :
    (Function.update fleet.apps device app other).Derived describe := by
  by_cases hother : other = device
  · subst hother
    rw [Function.update_self]
    exact App.derived_of_step (h other) hstep
  · rw [Function.update_of_ne hother]
    exact h other

/-- A step of the remote table keeps the polygons that presses keep, unless a segue
    makes a trip. -/
theorem polygons_cloud {fleet : Fleet} {e : CloudEvent}
    (hprepare : ∀ device rc vc now identityId random,
      e ≠ .prepare device rc vc now identityId random)
    (h : fleet.cloud.Carries
      (fun device trip => PolygonFrom describe (fleet.apps device) trip.polygon)) :
    (fleet.cloud.step date e).Carries
      (fun device trip => PolygonFrom describe (fleet.apps device) trip.polygon) := by
  apply h.step
  · intro device object uploaded hfrom hpressed
    rw [polygon_of_pressed hpressed]
    exact hfrom
  · intro device rc vc now identityId random trip heq _
    exact absurd heq (hprepare device rc vc now identityId random)

/-- The list of a device after a completion. -/
theorem TabInv.returned {fleet : Fleet} (hinv : FleetInv describe jsonObject double fleet)
    (serial : ℕ) (error : Bool) (device : ℕ) :
    ((fleet.saveReturned date serial error).tabs device).TabInv jsonObject double := by
  have htab := hinv.tabs device
  have hstore := hinv.stores device
  show TripsTab.TabInv jsonObject double { fleet.tabs device with realmTrips :=
    ((fleet.cloud.step date (.saveReturned serial error)).devices device).realmTrips }
  have hstores : ((fleet.cloud.step date (.saveReturned serial error)).devices
        device).realmTrips = (fleet.cloud.devices device).realmTrips ∨ _ :=
    realmTrips_saveReturned fleet.cloud serial error device
  rcases hstores with hsame | ⟨trip, hsaved⟩
  · rw [hsame, ← hstore]
    exact htab
  · rw [hsaved, ← hstore]
    exact htab.saveAWSTrip trip

/-- **One step** keeps the invariants of the fleet. -/
theorem fleetInv_step {fleet fleet' : Fleet} {fe : FleetEvent}
    (hinv : FleetInv describe jsonObject double fleet)
    (h : Outcome describe realm date jsonObject double fleet fe fleet') :
    FleetInv describe jsonObject double fleet' := by
  cases h with
  | idle => exact hinv
  | @stopped _ device _ =>
    refine ⟨hinv.derived, hinv.tabs, ?_, hinv.polygons.stop device⟩
    intro other
    apply (hinv.stores other).trans
    symm
    apply realmTrips_setDevice fleet.cloud device
    rfl
  | moved hstep =>
    exact ⟨derived_update hstep hinv.derived, hinv.tabs, hinv.stores,
      polygons_update hstep hinv.polygons⟩
  | @built device i now identityId random app vc trip _ hstep _ htrip =>
    refine ⟨derived_update hstep hinv.derived, hinv.tabs, ?_, ?_⟩
    · intro other
      apply (hinv.stores other).trans
      symm
      apply realmTrips_setDevice fleet.cloud device
      rfl
    · have hnew : ∀ trip', (.ok trip : Except Trap Trips) = .ok trip' →
          PolygonFrom describe (Function.update fleet.apps device app device) trip'.polygon := by
        intro trip' htrip'
        rw [← Except.ok.inj htrip', Function.update_self]
        exact (polygonFrom_of_prepare (hinv.derived device) htrip).step hstep
      exact (polygons_update hstep hinv.polygons).prepare hnew
  | @listed device e tab app hstep hstore happ =>
    have htabs : ∀ other,
        (Function.update fleet.tabs device tab other).TabInv jsonObject double ∧
        (Function.update fleet.tabs device tab other).realmTrips =
          (fleet.cloud.devices other).realmTrips := by
      intro other
      by_cases hother : other = device
      · subst hother
        rw [Function.update_self]
        exact ⟨TripsTab.tabInv_step (hinv.tabs other) hstep, hstore.trans (hinv.stores other)⟩
      · rw [Function.update_of_ne hother]
        exact ⟨hinv.tabs other, hinv.stores other⟩
    have htab : ∀ other, (Function.update fleet.tabs device tab other).TabInv jsonObject double :=
      fun other => (htabs other).1
    rcases happ with rfl | hopened
    · rw [Function.update_eq_self]
      exact ⟨hinv.derived, htab, fun other => (htabs other).2, hinv.polygons⟩
    · exact ⟨derived_update hopened hinv.derived, htab, fun other => (htabs other).2,
        polygons_update hopened hinv.polygons⟩
  | @pressed device trip depature arrival =>
    have hpolygons : (fleet.cloud.step date
        (.requestButtonPressed device trip depature arrival)).Carries
        (fun device trip => PolygonFrom describe (fleet.apps device) trip.polygon) :=
      polygons_cloud (by simp) hinv.polygons
    refine ⟨hinv.derived, hinv.tabs, ?_, hpolygons⟩
    intro other
    exact (hinv.stores other).trans
      (realmTrips_requestButtonPressed fleet.cloud device trip depature arrival other).symm
  | @tookEffect serial =>
    have hpolygons : (fleet.cloud.step date (.tookEffect serial)).Carries
        (fun device trip => PolygonFrom describe (fleet.apps device) trip.polygon) :=
      polygons_cloud (by simp) hinv.polygons
    refine ⟨hinv.derived, hinv.tabs, ?_, hpolygons⟩
    intro other
    have hsame : ((fleet.cloud.step date (.tookEffect serial)).devices other).realmTrips =
        (fleet.cloud.devices other).realmTrips := realmTrips_tookEffect fleet.cloud serial other
    exact (hinv.stores other).trans hsame.symm
  | @returned serial error =>
    have hprepare : ∀ device rc vc now identityId random,
        CloudEvent.saveReturned serial error ≠ .prepare device rc vc now identityId random := by
      simp
    have hpolygons : (fleet.cloud.step date (.saveReturned serial error)).Carries
        (fun device trip => PolygonFrom describe (fleet.apps device) trip.polygon) :=
      polygons_cloud hprepare hinv.polygons
    exact ⟨hinv.derived, TabInv.returned hinv serial error, fun _ => rfl, hpolygons⟩

theorem fleetInv_of_run {es : List FleetEvent} {fleet : Fleet}
    (h : (machine describe realm date jsonObject double).run {} es = .ok fleet) :
    FleetInv describe jsonObject double fleet := by
  have hstep : ∀ fleet e fleet', FleetInv describe jsonObject double fleet →
      (machine describe realm date jsonObject double).step fleet e = .ok fleet' →
      FleetInv describe jsonObject double fleet' := by
    intro fleet e fleet' hinv hstep
    rw [← Except.ok.inj hstep]
    have houtcome : Outcome describe realm date jsonObject double fleet e
        (fleet.step describe realm date jsonObject double e) := outcome_of_step fleet e
    exact fleetInv_step hinv houtcome
  exact Machine.run_preserves hstep fleetInv_init h

variable (describe) in
/-- The corners of the tight box of the first route of a response that the app got, as
    texts that survive being joined with commas. -/
def DenotesBox (app : App) (polygon : String) : Prop :=
  ∃ answer ∈ app.answered, ∃ route others box, answer.routes = route :: others ∧
    RouteCalculator.Tight route.polyline box ∧
    components polygon ',' =
      [describe box.minX, describe box.minY, describe box.maxX, describe box.maxY]

theorem PolygonFrom.denotesBox {app : App} {polygon : String}
    (hcomma : ∀ d, ',' ∉ (describe d).toList) (h : PolygonFrom describe app polygon) :
    DenotesBox describe app polygon := by
  obtain ⟨answer, hanswer, route, others, box, hroutes, htight, rfl⟩ := h
  refine ⟨answer, hanswer, route, others, box, hroutes, htight, ?_⟩
  apply components_intercalate
  · simp [RouteCalculator.Box.values]
  · simp [RouteCalculator.Box.values, hcomma]

/-- **From the response to the search.** Every row of the remote table has the polygon
    of a response that some device got, and every search that a match screen has in
    flight carries that of a response which its own device got. -/
theorem polygons_from_responses (hcomma : ∀ d, ',' ∉ (describe d).toList)
    {es : List FleetEvent} {fleet : Fleet}
    (h : (machine describe realm date jsonObject double).run {} es = .ok fleet) :
    (∀ key row, fleet.cloud.table key = some row →
      ∃ device, DenotesBox describe (fleet.apps device) row.polygon) ∧
    ∀ device trip s, (trip, s) ∈ (fleet.tabs device).opened →
      ∀ r ∈ s.flow.searches.outstanding, ∃ polygon,
        r.2.lookup "polygon" = some (.string polygon) ∧
        DenotesBox describe (fleet.apps device) polygon := by
  have hinv := fleetInv_of_run h
  obtain ⟨_, hcloud⟩ := cloud_of_run h
  obtain ⟨hsound, _⟩ := Cloud.sound_of_run hcloud
  constructor
  · intro key row hrow
    obtain ⟨upload, hupload, rfl⟩ := Cloud.exists_upload hsound hrow
    have hissued := hsound.issued_of_effected upload hupload
    exact ⟨upload.2.device, (hinv.polygons.rows upload hissued).denotesBox hcomma⟩
  · intro device trip s hopened r hr
    obtain ⟨hstored, hasks⟩ := (hinv.tabs device).opened (trip, s) hopened
    rw [hinv.stores device] at hstored
    -- the stored trip is a copy of an object of the same device
    obtain ⟨object, hobject, hcopy⟩ := hinv.polygons.copies device trip hstored
    refine ⟨object.polygon, ?_, hobject.denotesBox hcomma⟩
    rw [hasks.searches r hr, show trip = RealmTrip.create object from hcopy]
    rfl

/-- A device from its first tap to the search for the matches of its first trip, whose
    save gets the given number. -/
def rideOf (device serial : ℕ) (random : UInt32) : List FleetEvent :=
  [.tab device .viewDidLoad, .tab device (.cellForRowAt 0), .tab device (.selectRow 0)] ++
  (App.firstRoute.tail ++ [Event.next 0 200 "user" random]).map (.app device) ++
  [.requestButtonPressed device 0 "8:00 AM" "9:30 AM", .tookEffect serial,
   .saveReturned serial false, .tab device .reload, .tab device (.cellForRowAt 0),
   .tab device (.selectRow 0), .tab device (.search 0 (.screen .viewDidLoad))]

def firstRide : List FleetEvent := rideOf 0 0 7

def sampleFleet : Machine Fleet FleetEvent Trap :=
  machine App.describeCorner (.insertion _) ConfigureTripVC.sampleDate
    LambdaInteractor.sampleObject LambdaInteractor.sampleDouble

theorem firstRide_run : ∃ fleet, sampleFleet.run {} firstRide = .ok fleet ∧
    ∃ trip s r, (trip, s) ∈ (fleet.tabs 0).opened ∧ r ∈ s.flow.searches.outstanding := by
  have hevaluated : ∃ fleet, sampleFleet.run {} firstRide = .ok fleet ∧
      ∃ member ∈ (fleet.tabs 0).opened, member.2.flow.searches.outstanding ≠ [] :=
    Machine.exists_run_eq_ok _ (by decide +kernel)
  obtain ⟨fleet, hrun, member, hopened, hne⟩ := hevaluated
  obtain ⟨r, hr⟩ := List.exists_mem_of_ne_nil _ hne
  exact ⟨fleet, hrun, member.1, member.2, r, hopened, hr⟩

theorem comma_not_mem_describeCorner (d : Double) : ',' ∉ (App.describeCorner d).toList := by
  unfold App.describeCorner
  split_ifs
  · decide
  · decide

theorem polygons_from_responses_firstRide : ∃ fleet, sampleFleet.run {} firstRide = .ok fleet ∧
    ∃ polygon, DenotesBox App.describeCorner (fleet.apps 0) polygon := by
  obtain ⟨fleet, hrun, trip, s, r, hopened, hr⟩ := firstRide_run
  obtain ⟨_, hsearches⟩ := polygons_from_responses comma_not_mem_describeCorner hrun
  obtain ⟨polygon, _, hbox⟩ := hsearches 0 trip s hopened r hr
  exact ⟨fleet, hrun, polygon, hbox⟩

/-! ## Section 4: From the search to the table -/

/-- **Searches are for rows of the table.** With distinct keys every match screen on
    any device is for a row that this device uploaded and that is still in the table,
    under the cell of its origin: its searches in flight carry the fields of the row,
    and its match requests name the row as the requester. -/
theorem searches_for_rows {es : List FleetEvent} {fleet : Fleet}
    (h : (machine describe realm date jsonObject double).run {} es = .ok fleet)
    (hkeys : fleet.cloud.KeysDistinct) {device : ℕ} {trip : RealmTrip} {s : MatchSearch}
    (hopened : (trip, s) ∈ (fleet.tabs device).opened) :
    ∃ row, fleet.cloud.table row.key = some row ∧ trip = RealmTrip.create row ∧
      (∃ upload ∈ fleet.cloud.confirmed, upload.2.device = device ∧ upload.2.row = row) ∧
      Geohash.encode id row.originLatitude row.originLongitude 4 = .ok row.geohash ∧
      (∀ r ∈ s.flow.searches.outstanding,
        r.2 = LambdaInteractor.itemsBody (RealmTrip.create row)) ∧
      ∀ request ∈ s.flow.sent,
        request.body.lookup "requesterTripID" = some (.string row.tripID) := by
  have hinv := fleetInv_of_run h
  obtain ⟨_, hcloud⟩ := cloud_of_run h
  obtain ⟨hsound, hmirrored⟩ := Cloud.sound_of_run hcloud
  obtain ⟨hstored, hasks⟩ := (hinv.tabs device).opened (trip, s) hopened
  rw [hinv.stores device, Cloud.realmTrips_eq_of_keys hsound hmirrored hkeys] at hstored
  -- a stored trip is the copy of a confirmed row
  obtain ⟨upload, hupload, rfl⟩ := List.mem_map.mp hstored
  obtain ⟨hconfirmed, hdevice⟩ := List.mem_filter.mp hupload
  have heffected := hsound.effected_of_confirmed upload hconfirmed
  exact ⟨upload.2.row, Cloud.kept_of_effected hsound hkeys heffected, rfl,
    ⟨upload, hconfirmed, of_decide_eq_true hdevice, rfl⟩,
    hsound.geohash_eq upload (hsound.issued_of_effected upload heffected),
    hasks.searches, hasks.sent⟩

/-- Two devices, one after the other. -/
def twoRides : List FleetEvent := firstRide ++ rideOf 1 1 8

theorem searches_for_rows_twoRides : ∃ fleet, sampleFleet.run {} twoRides = .ok fleet ∧
    fleet.cloud.effected.length = 2 ∧
    ∃ s r row, (RealmTrip.create row, s) ∈ (fleet.tabs 1).opened ∧
      r ∈ s.flow.searches.outstanding ∧ fleet.cloud.table row.key = some row ∧
      r.2 = LambdaInteractor.itemsBody (RealmTrip.create row) := by
  have hevaluated : ∃ fleet, sampleFleet.run {} twoRides = .ok fleet ∧
      (fleet.cloud.issued.map (fun upload => upload.2.row.key)).Nodup ∧
      fleet.cloud.effected.length = 2 ∧
      ∃ member ∈ (fleet.tabs 1).opened, member.2.flow.searches.outstanding ≠ [] :=
    Machine.exists_run_eq_ok _ (by decide +kernel)
  obtain ⟨fleet, hrun, hkeys, hlength, ⟨trip, s⟩, hopened, hne⟩ := hevaluated
  obtain ⟨r, hr⟩ := List.exists_mem_of_ne_nil _ hne
  obtain ⟨row, hrow, hcopy, _, _, hsearches, _⟩ := searches_for_rows hrun hkeys hopened
  exact ⟨fleet, hrun, hlength, s, r, row, hcopy ▸ hopened, hr, hrow, hsearches r hr⟩

end Fleet

end RideHitch
