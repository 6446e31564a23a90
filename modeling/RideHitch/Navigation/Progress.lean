import RideHitch.AddTrip.MissingData
import RideHitch.Navigation.Rides

/-! # A ride, from the map to the list

    Where Next takes touches and a place is known, a ride can always be sent: the
    screens have all the data that they unwrap, whatever happened before and
    whatever is still outstanding.

    Section 1 is the Next button, Section 2 the times and the Request button,
    Section 3 the answers of the remote table. -/

namespace RideHitch

variable {describe : Double → String} {realm : DateSort} {dateFormatter : DateFormatter}
  {jsonObject : String → Option Json} {double : String → Option Double}

/-! ## Section 1: Next -/

/-- An enabled button finds all the data of the trip, if the screen has a place. -/
theorem App.next_of_place {app : App} (hinv : app.FlowInv describe) {i : ℕ}
    {vc : AddTripWithMapVC} {place : GMSPlace} (hi : app.screens[i]? = some vc)
    (henabled : vc.nextButtonIsEnabled = true) (hplace : vc.currentResult = some place)
    (now : Double) (identityId : String) (random : UInt32) :
    ∃ trip : Trips, app.next i now identityId random =
        .ok { app with built := app.built ++ [⟨trip, app.answered.head?⟩] } ∧
      trip.creatorUserID = identityId ∧ trip.tripID = toString random.toNat ∧
      trip.destinationName = place.name := by
  have hlocation := hinv.place i vc hi (by simp [hplace])
  obtain ⟨location, hlocation⟩ := Option.isSome_iff_exists.mp hlocation
  have hvalues : ∃ values, app.routeCalc.routePolygonValues = some values := by
    rcases hinv.derived with ⟨hanswered, _⟩ | ⟨_, _, _, _, _, _, hfrom⟩
    · exact absurd hanswered (hinv.button i vc hi henabled)
    · exact ⟨_, hfrom.values⟩
  obtain ⟨values, hvalues⟩ := hvalues
  simp only [next, hi, henabled, if_true, AddTripWithMapVC.prepare, hlocation, hplace,
    hvalues, unwrap_some, ok_bind]
  exact ⟨_, rfl, rfl, rfl, rfl⟩

namespace Fleet

variable {fleet : Fleet}

variable (describe realm dateFormatter jsonObject double) in
/-- The trip object is there before its screen is. -/
theorem step_next {device i : ℕ} {date : Double} {identityId : String} {random : UInt32}
    {trip : Trips} (hrunning : (fleet.cloud.devices device).running = true)
    (hnext : (fleet.apps device).next i date identityId random =
      .ok { fleet.apps device with
        built := (fleet.apps device).built ++ [⟨trip, (fleet.apps device).answered.head?⟩] }) :
    let e := FleetEvent.app device (.next i date identityId random)
    let fleet' := fleet.step describe realm dateFormatter.date jsonObject double e
    fleet'.cloud = fleet.cloud.prepare device (.ok trip) ∧
      fleet.segues fleet' e = [.configureTripVC (fleet.tripCount device)] := by
  have hguard : (fleet.cloud.devices device).running = true ∧
      (Event.next i date identityId random).opensScreen = false := ⟨hrunning, rfl⟩
  intro e fleet'
  have hcloud : fleet'.cloud = fleet.cloud.prepare device (.ok trip) := by
    simp only [fleet', e, step, if_pos hguard, appStep, App.step, hnext, App.newTrips,
      List.drop_left]
    rfl
  refine ⟨hcloud, ?_⟩
  have hcount : fleet'.tripCount device = fleet.tripCount device + 1 := by
    rw [tripCount, hcloud]
    simp [tripCount, Cloud.prepare, Cloud.setDevice]
  have hlt : fleet.tripCount device < fleet'.tripCount device := by omega
  exact if_pos hlt

/-- The add-trip screens of every device have gone through a run of their own. -/
theorem app_reachable
    (h : (machine describe realm dateFormatter.date jsonObject double).Reachable fleet)
    (device : ℕ) : (App.machine describe realm).Reachable (fleet.apps device) := by
  have hupdate : ∀ {fleet : Fleet} {d : ℕ} {e : Event} {app : App},
      (∀ d, (App.machine describe realm).Reachable (fleet.apps d)) →
      (fleet.apps d).step describe realm e = .ok app →
      ∀ other, (App.machine describe realm).Reachable (Function.update fleet.apps d app other) := by
    intro fleet d e app hs hstep other
    by_cases hother : other = d
    · subst hother
      rw [Function.update_self]
      exact (hs other).step hstep
    · rw [Function.update_of_ne hother]
      exact hs other
  have hstep : ∀ fleet e fleet', (∀ d, (App.machine describe realm).Reachable (fleet.apps d)) →
      (machine describe realm dateFormatter.date jsonObject double).step fleet e = .ok fleet' →
      ∀ d, (App.machine describe realm).Reachable (fleet'.apps d) := by
    intro fleet e fleet' hs hstep
    have houtcome : Outcome describe realm dateFormatter.date jsonObject double fleet e
        (fleet.step describe realm dateFormatter.date jsonObject double e) :=
      outcome_of_step fleet e
    rw [Except.ok.inj hstep] at houtcome
    cases houtcome with
    | moved happ => exact hupdate hs happ
    | built _ happ _ _ => exact hupdate hs happ
    | listed _ _ happ =>
      rcases happ with rfl | happ
      · rw [Function.update_eq_self]
        exact hs
      · exact hupdate hs happ
    | _ => exact hs
  obtain ⟨es, hrun⟩ := h
  exact Machine.run_preserves hstep (fun _ => Machine.reachable_init _) hrun device

theorem flowInv_of_reachable
    (h : (machine describe realm dateFormatter.date jsonObject double).Reachable fleet)
    (device : ℕ) : (fleet.apps device).FlowInv describe := by
  obtain ⟨es, hrun⟩ := app_reachable h device
  have hstep : ∀ app e app', app.FlowInv describe →
      (App.machine describe realm).step app e = .ok app' → app'.FlowInv describe := by
    intro app e app' hinv hstep
    exact App.flowInv_step hinv hstep
  exact Machine.run_preserves hstep App.flowInv_init hrun

end Fleet

namespace Navigation

variable {nav : Navigation} {device : ℕ}

/-- **Next** opens the screen for a new trip object. -/
theorem next_opens (hinv : NavigationInv describe realm dateFormatter jsonObject double nav)
    (hrunning : nav.running device = true) {i : ℕ} {vc : AddTripWithMapVC} {place : GMSPlace}
    (htop : (nav.phones device).touchable = some (.addTripWithMapVC i))
    (hi : (nav.fleet.apps device).screens[i]? = some vc)
    (henabled : vc.nextButtonIsEnabled = true) (hplace : vc.currentResult = some place)
    (now : NSDate) (date : Double) (identityId : String) (random : UInt32) :
    let nav' := nav.step describe realm dateFormatter jsonObject double
      (.app device now (.next i date identityId random))
    nav'.running device = true ∧
    (nav'.phones device).touchable = some (.configureTripVC (nav.fleet.tripCount device)) ∧
    ∃ trip : Trips, nav'.fleet.cloud = nav.fleet.cloud.prepare device (.ok trip) ∧
      trip.creatorUserID = identityId ∧ trip.tripID = toString random.toNat ∧
      trip.destinationName = place.name := by
  obtain ⟨trip, hnext, hfields⟩ := App.next_of_place
    (Fleet.flowInv_of_reachable hinv.fleet device) hi henabled hplace date identityId random
  obtain ⟨hcloud, hsegues⟩ :=
    Fleet.step_next describe realm dateFormatter jsonObject double hrunning hnext
  have hcall : nav.step describe realm dateFormatter jsonObject double
      (.app device now (.next i date identityId random)) =
      (nav.calls describe realm dateFormatter jsonObject double
        [.app device (.next i date identityId random)]).push describe realm dateFormatter
          jsonObject double device now (.configureTripVC (nav.fleet.tripCount device)) := by
    rw [step_of_running hrunning rfl, handle, if_pos ⟨rfl, .inr htop.symm⟩]
    unfold call
    dsimp only
    have hfleet : (nav.calls describe realm dateFormatter jsonObject double
      [.app device (.next i date identityId random)]).fleet = nav.fleet.step describe realm
        dateFormatter.date jsonObject double (.app device (.next i date identityId random)) := rfl
    rw [hfleet, hsegues]
    rfl
  obtain ⟨_, _, hselected, hswiping⟩ := top_of_touchable htop
  have hgoes : (nav.calls describe realm dateFormatter jsonObject double
      [.app device (.next i date identityId random)]).running device = true := by
    show ((nav.fleet.step describe realm dateFormatter.date jsonObject double
      (.app device (.next i date identityId random))).cloud.devices device).running = true
    rw [hcloud]
    simpa [running, Cloud.prepare, Cloud.setDevice] using hrunning
  intro nav'
  have hprepared : nav'.fleet.cloud = nav.fleet.cloud.prepare device (.ok trip) := by
    rw [show nav' = _ from hcall, ← hcloud]
    exact cloud_setPhone hgoes _
  refine ⟨?_, ?_, trip, hprepared, hfields⟩
  · rw [running, hprepared]
    simpa [running, Cloud.prepare, Cloud.setDevice] using hrunning
  · rw [show nav' = _ from hcall]
    have hphone : (((nav.calls describe realm dateFormatter jsonObject double
        [.app device (.next i date identityId random)]).push describe realm dateFormatter
          jsonObject double device now (.configureTripVC (nav.fleet.tripCount device))).phones
            device) = _ := Function.update_self ..
    rw [hphone]
    simp [Phone.touchable, load, hselected, hswiping, calls,
      UINavigationController.topViewController, UINavigationController.pushViewController]

/-- **Next** without a place stops the device. -/
theorem next_stops (hrunning : nav.running device = true) {i : ℕ} {vc : AddTripWithMapVC}
    (htop : (nav.phones device).touchable = some (.addTripWithMapVC i))
    (hi : (nav.fleet.apps device).screens[i]? = some vc)
    (henabled : vc.nextButtonIsEnabled = true) (hplace : vc.currentResult = none)
    (now : NSDate) (date : Double) (identityId : String) (random : UInt32) :
    (nav.step describe realm dateFormatter jsonObject double
      (.app device now (.next i date identityId random))).running device = false := by
  have htrap : ∃ t, (nav.fleet.apps device).next i date identityId random = .error t := by
    simp only [App.next, hi, henabled, if_true, AddTripWithMapVC.prepare, hplace, unwrap_none]
    cases vc.currentLocation with
    | none => exact ⟨_, rfl⟩
    | some location => exact ⟨_, rfl⟩
  obtain ⟨t, ht⟩ := htrap
  have hstop : nav.fleet.step describe realm dateFormatter.date jsonObject double
      (.app device (.next i date identityId random)) = nav.fleet.stop device := by
    have hguard : (nav.fleet.cloud.devices device).running = true ∧
        (Event.next i date identityId random).opensScreen = false := ⟨hrunning, rfl⟩
    simp only [Fleet.step, if_pos hguard, Fleet.appStep, App.step, ht]
  rw [step_of_running hrunning rfl, handle, if_pos ⟨rfl, .inr htop.symm⟩]
  unfold call
  dsimp only
  rw [calls, List.foldl_cons, List.foldl_nil, hstop,
    Fleet.segues_app_of_kept (Fleet.tripCount_stop ..)]
  simp [running, Fleet.stop, Cloud.stop, Cloud.setDevice]

/-! ## Section 2: The times and Request -/

/-- The fields of one screen are replaced. -/
def setEntry (nav : Navigation) (device trip : ℕ) (entry : TimeEntry) : Navigation :=
  { nav with
    phones := Function.update nav.phones device
      { nav.phones device with
        entries := Function.update (nav.phones device).entries trip entry } }

section entries

variable (nav) (device) (trip : ℕ) (entry : TimeEntry)

@[simp] theorem setEntry_fleet : (nav.setEntry device trip entry).fleet = nav.fleet := rfl

@[simp] theorem setEntry_entries :
    ((nav.setEntry device trip entry).phones device).entries trip = entry := by
  simp [setEntry]

@[simp] theorem setEntry_touchable :
    ((nav.setEntry device trip entry).phones device).touchable =
      (nav.phones device).touchable := by
  simp only [setEntry, Function.update_self]
  rfl

@[simp] theorem setEntry_setEntry (entry' : TimeEntry) :
    (nav.setEntry device trip entry).setEntry device trip entry' =
      nav.setEntry device trip entry' := by
  simp [setEntry]

@[simp] theorem setEntry_self :
    nav.setEntry device trip ((nav.phones device).entries trip) = nav := by
  simp [setEntry]

end entries

/-- What is entered reaches the fields of the screen on top, and nothing else. -/
theorem run_times (hrunning : nav.running device = true) {trip : ℕ}
    (htop : (nav.phones device).touchable = some (.configureTripVC trip))
    (es : List TimeEvent) :
    (machine describe realm dateFormatter jsonObject double).run nav (es.map (.time device)) =
      .ok (nav.setEntry device trip (es.foldl (fun entry e => entry.step dateFormatter e)
        ((nav.phones device).entries trip))) := by
  induction es generalizing nav with
  | nil => simp
  | cons e es ih =>
    have hstep : (machine describe realm dateFormatter jsonObject double).step nav
        (.time device e) = .ok (nav.setEntry device trip
          (((nav.phones device).entries trip).step dateFormatter e)) := by
      show Except.ok (nav.step describe realm dateFormatter jsonObject double _) = _
      rw [step_of_running hrunning rfl]
      simp only [handle, time, htop]
      rfl
    have hgoes : (nav.setEntry device trip
        (((nav.phones device).entries trip).step dateFormatter e)).running device = true :=
      hrunning
    rw [List.map_cons, Machine.run_cons_of_ok _ _ hstep, ih hgoes]
    · simp
    · simpa using htop

/-- The taps and turns of the picker that enter two times. -/
def entered (d a : NSDate) : List TimeEvent :=
  [.focus (some .depature), .valueChanged d, .focus (some .arrival), .valueChanged a]

variable (describe realm dateFormatter jsonObject double) in
theorem times_entered (hrunning : nav.running device = true) {trip : ℕ}
    (htop : (nav.phones device).touchable = some (.configureTripVC trip)) (d a : NSDate) :
    ∃ nav', (machine describe realm dateFormatter jsonObject double).run nav
        ((entered d a).map (.time device)) = .ok nav' ∧
      nav'.fleet = nav.fleet ∧
      (nav'.phones device).touchable = some (.configureTripVC trip) ∧
      ((nav'.phones device).entries trip).depatureTime = some d ∧
      ((nav'.phones device).entries trip).arrivalTime = some a := by
  refine ⟨_, run_times hrunning htop (entered d a), rfl, ?_, ?_, ?_⟩
  · rw [setEntry_touchable]
    exact htop
  · rw [setEntry_entries]
    rfl
  · rw [setEntry_entries]
    rfl

end Navigation

namespace Cloud

variable {cloud : Cloud} {device trip : ℕ} {uploaded : Trips}

/-- A press leaves the rest of the trip as it is. -/
theorem kept_of_pressed {date : String → Option NSDate} {object : Trips}
    (h : Pressed date object uploaded) : uploaded.creatorUserID = object.creatorUserID ∧
      uploaded.tripID = object.tripID ∧ uploaded.destinationName = object.destinationName := by
  obtain ⟨depature, arrival, h⟩ := h
  obtain ⟨trip, _, _, _, htrip, _, _, _, rfl⟩ := ConfigureTripVC.requestButtonPressed_eq_ok h
  cases htrip
  exact ⟨rfl, rfl, rfl⟩

/-- The save of a press is new to the table, and its completion finds the object. -/
theorem answered_of_press (hsound : cloud.Sound)
    (hrunning : (cloud.devices device).running = true)
    (hlt : trip < (cloud.devices device).trips.length) :
    let pressed := (cloud.setDevice device { cloud.devices device with
      trips := (cloud.devices device).trips.set trip uploaded }).uploadTrip ⟨device, trip, uploaded⟩
    let upload := (cloud.saves.issued, (⟨device, trip, uploaded⟩ : Save))
    (pressed.tookEffect cloud.saves.issued).saveReturned cloud.saves.issued false =
      (pressed.write upload).confirm upload uploaded := by
  intro pressed upload
  have hissued : pressed.issued = cloud.issued ++ [upload] := rfl
  have hnew : upload ∉ pressed.effected := by
    intro heffected
    exact absurd (hsound.serial_lt _ (hsound.issued_of_effected _ heffected)) (Nat.lt_irrefl _)
  have hfind : pressed.issued.find? (fun u => u.1 = cloud.saves.issued) = some upload := by
    rw [hissued, List.find?_append, List.find?_eq_none.mpr ?_]
    · simp [upload]
    · intro u hu
      have hlt := hsound.serial_lt u hu
      simpa using Nat.ne_of_lt hlt
  have heffect : pressed.tookEffect cloud.saves.issued = pressed.write upload := by
    unfold tookEffect
    rw [hfind]
    exact if_neg hnew
  have hsave : (pressed.write upload).saves.find cloud.saves.issued = some upload.2 :=
    Requests.find_issue_self ..
  have hgoes : ((pressed.write upload).devices device).running = true := by
    simpa [write, pressed, uploadTrip, setDevice] using hrunning
  have hobject : ((pressed.write upload).devices device).trips[trip]? = some uploaded := by
    simp [write, pressed, uploadTrip, setDevice, hlt]
  have hmem : upload ∈ (pressed.write upload).effected := by simp [write]
  rw [heffect]
  simp only [saveReturned, hsave]
  rw [if_pos hgoes]
  simp only [Bool.false_eq_true, if_false, succeeded]
  rw [hobject]
  exact if_pos hmem

end Cloud

namespace Navigation

variable {nav : Navigation} {device : ℕ}

/-- **Request** sends the trip with its two times and leads back to the list. -/
theorem request_sends (h : RunInv describe realm dateFormatter jsonObject double nav)
    (hrunning : nav.running device = true) {trip : ℕ} {object : Trips}
    (htop : (nav.phones device).touchable = some (.configureTripVC trip))
    (hobject : (nav.fleet.cloud.devices device).trips[trip]? = some object) {d a : NSDate}
    (hd : ((nav.phones device).entries trip).depatureTime = some d)
    (ha : ((nav.phones device).entries trip).arrivalTime = some a) :
    let nav' := nav.step describe realm dateFormatter jsonObject double
      (.requestButtonPressed device)
    ∃ uploaded, Cloud.Pressed dateFormatter.date object uploaded ∧
      uploaded.originDate = dateFormatter.timeOfDay d ∧
      uploaded.destinationDate = dateFormatter.timeOfDay a ∧
      nav'.phones device = { nav.phones device with navigation := {} } ∧
      nav'.fleet.cloud = (nav.fleet.cloud.setDevice device
        { nav.fleet.cloud.devices device with
          trips := (nav.fleet.cloud.devices device).trips.set trip uploaded }).uploadTrip
        ⟨device, trip, uploaded⟩ := by
  obtain ⟨hinv, hride⟩ := h
  intro nav'
  have hstep : nav' = nav.requestButtonPressed describe realm dateFormatter jsonObject double
      device := step_of_running hrunning rfl
  rcases requestButtonPressed_cases hrunning (hinv.devices device) hride htop with
    ⟨d', a', uploaded, hd', ha', hpressed, horigin, hdestination, heq⟩ | ⟨hmissing, _⟩
  · obtain rfl := Option.some.inj (hd.symm.trans hd')
    obtain rfl := Option.some.inj (ha.symm.trans ha')
    rw [hstep, heq]
    exact ⟨uploaded, hpressed object hobject, horigin, hdestination, Function.update_self .., rfl⟩
  · simp [hd, ha] at hmissing

variable (describe realm dateFormatter jsonObject double) in
/-- The answers of the remote table reach the stores, and no screen. -/
theorem step_answers (nav : Navigation) (serial : ℕ) :
    let cloud := (nav.fleet.cloud.tookEffect serial).saveReturned serial false
    (nav.step describe realm dateFormatter jsonObject double (.tookEffect serial)).step describe
        realm dateFormatter jsonObject double (.saveReturned serial false) =
      { nav with
        fleet := { nav.fleet with
          cloud := cloud
          tabs := fun d =>
            { nav.fleet.tabs d with realmTrips := (cloud.devices d).realmTrips } } } := by
  have htable : ∀ (nav : Navigation) (e : NavigationEvent), Navigation.device e = none →
      nav.step describe realm dateFormatter jsonObject double e =
        nav.handle describe realm dateFormatter jsonObject double e := by
    intro nav e hdevice
    apply if_pos
    simp [hdevice]
  rw [htable nav _ rfl, htable _ _ rfl]
  rfl

/-- **Request**, and the answers of the remote table. -/
theorem request_answered (h : RunInv describe realm dateFormatter jsonObject double nav)
    (hrunning : nav.running device = true) {trip : ℕ} {object : Trips}
    (htop : (nav.phones device).touchable = some (.configureTripVC trip))
    (hobject : (nav.fleet.cloud.devices device).trips[trip]? = some object) {d a : NSDate}
    (hd : ((nav.phones device).entries trip).depatureTime = some d)
    (ha : ((nav.phones device).entries trip).arrivalTime = some a) :
    let serial := nav.fleet.cloud.saves.issued
    ∃ nav' uploaded, (machine describe realm dateFormatter jsonObject double).run nav
        [.requestButtonPressed device, .tookEffect serial, .saveReturned serial false] =
          .ok nav' ∧
      nav'.running device = true ∧
      (nav'.phones device).touchable = some .tripsViewController ∧
      Cloud.Pressed dateFormatter.date object uploaded ∧
      uploaded.originDate = dateFormatter.timeOfDay d ∧
      uploaded.destinationDate = dateFormatter.timeOfDay a ∧
      nav'.fleet.cloud.table uploaded.key = some uploaded ∧
      (nav'.fleet.tabs device).realmTrips =
        (nav.fleet.cloud.devices device).realmTrips ++ [RealmTrip.create uploaded] := by
  obtain ⟨_, hfleet⟩ := h.1.fleet
  obtain ⟨_, hrun⟩ := Fleet.cloud_of_run hfleet
  obtain ⟨hsound, _⟩ := Cloud.sound_of_run hrun
  have hlt := (List.getElem?_eq_some_iff.mp hobject).1
  obtain ⟨_, _, hselected, hswiping⟩ := top_of_touchable htop
  obtain ⟨uploaded, hpressed, horigin, hdestination, hphone, hcloud⟩ :=
    request_sends h hrunning htop hobject hd ha
  have hanswers := step_answers describe realm dateFormatter jsonObject double
    (nav.step describe realm dateFormatter jsonObject double (.requestButtonPressed device))
    nav.fleet.cloud.saves.issued
  rw [hcloud, Cloud.answered_of_press hsound hrunning hlt] at hanswers
  refine ⟨_, uploaded, congrArg Except.ok hanswers, ?_, ?_, hpressed, horigin, hdestination,
    ?_, ?_⟩
  · simpa [running, Cloud.confirm, Cloud.write, Cloud.uploadTrip, Cloud.setDevice] using hrunning
  · dsimp only
    rw [hphone]
    simp [Phone.touchable, hselected, hswiping, UINavigationController.topViewController]
  · simp [Cloud.confirm, Cloud.write, Cloud.uploadTrip, Cloud.setDevice]
  · simp [Cloud.confirm, Cloud.write, Cloud.uploadTrip, Cloud.setDevice,
      RealmInteractor.saveAWSTrip]

/-- A tap on the reload button, on the list. -/
theorem step_reload (hrunning : nav.running device = true)
    (htop : (nav.phones device).touchable = some .tripsViewController) (now : NSDate) :
    nav.step describe realm dateFormatter jsonObject double (.tab device now .reload) =
      { nav with
        fleet := { nav.fleet with
          tabs := Function.update nav.fleet.tabs device (nav.fleet.tabs device).reload } } := by
  have hfleet : nav.fleet.step describe realm dateFormatter.date jsonObject double
      (.tab device .reload) = { nav.fleet with
        tabs := Function.update nav.fleet.tabs device (nav.fleet.tabs device).reload } := by
    have hstep : (nav.fleet.cloud.devices device).running = true ∧
        TripsEvent.reload.fillsStore = false := ⟨hrunning, rfl⟩
    rw [Fleet.step, if_pos hstep]
    simp only [Fleet.tabStep, TripsTab.step]
    exact if_pos rfl
  rw [step_of_running hrunning rfl, handle, if_pos ⟨rfl, .inr htop.symm⟩]
  unfold call
  dsimp only
  rw [calls, List.foldl_cons, List.foldl_nil, hfleet]
  rfl

/-- From the map on: Next, two times, Request, the answers of the remote table and a
    reload of the list. -/
def wholeRide (device i serial : ℕ) (now : NSDate) (date : Double) (identityId : String)
    (random : UInt32) (d a : NSDate) : List NavigationEvent :=
  [.app device now (.next i date identityId random)] ++ (entered d a).map (.time device) ++
  [.requestButtonPressed device, .tookEffect serial, .saveReturned serial false] ++
  [.tab device now .reload]

/-- **A ride goes through.** From every state of every run, on a device that runs and
    shows an add-trip screen with its Next button enabled: Next stops the device
    exactly if the screen has no place, and otherwise the rest of the ride goes
    through for any two times, to the row in the remote table and in the list. -/
theorem ride_goes_through {es : List NavigationEvent}
    (h : (machine describe realm dateFormatter jsonObject double).run {} es = .ok nav)
    (hrunning : nav.running device = true) {i : ℕ} {vc : AddTripWithMapVC}
    (htop : (nav.phones device).touchable = some (.addTripWithMapVC i))
    (hi : (nav.fleet.apps device).screens[i]? = some vc)
    (henabled : vc.nextButtonIsEnabled = true) (now : NSDate) (date : Double)
    (identityId : String) (random : UInt32) :
    ((nav.step describe realm dateFormatter jsonObject double
      (.app device now (.next i date identityId random))).running device = true ↔
        vc.currentResult.isSome) ∧
    ∀ (place : GMSPlace) (d a : NSDate), vc.currentResult = some place → ∃ nav' row,
      (machine describe realm dateFormatter jsonObject double).run nav
        (wholeRide device i nav.fleet.cloud.saves.issued now date identityId random d a) =
          .ok nav' ∧
      nav'.running device = true ∧ (nav'.phones device).shown = some .tripsViewController ∧
      nav'.fleet.cloud.table row.key = some row ∧
      (nav'.fleet.tabs device).vc.data =
        (nav.fleet.tabs device).realmTrips ++ [RealmTrip.create row] ∧
      row.creatorUserID = identityId ∧ row.tripID = toString random.toNat ∧
      row.destinationName = place.name ∧
      row.originDate = dateFormatter.timeOfDay d ∧
      row.destinationDate = dateFormatter.timeOfDay a := by
  have hinv := runInv_of_run h
  constructor
  · cases hplace : vc.currentResult with
    | none =>
      rw [next_stops hrunning htop hi henabled hplace]
      simp
    | some place =>
      have hopens := next_opens hinv.1 hrunning htop hi henabled hplace now date identityId random
      simp [hopens.1]
  · intro place d a hplace
    obtain ⟨hrunning₁, htop₁, trip, hcloud, hcreator, hid, hname⟩ :=
      next_opens hinv.1 hrunning htop hi henabled hplace now date identityId random
    have hnext : (machine describe realm dateFormatter jsonObject double).run nav
        [.app device now (.next i date identityId random)] = .ok _ := rfl
    generalize nav.step describe realm dateFormatter jsonObject double
      (.app device now (.next i date identityId random)) = nav₁ at hrunning₁ htop₁ hcloud hnext
    obtain ⟨nav₂, htimes, hfleet₂, htop₂, hd, ha⟩ :=
      times_entered describe realm dateFormatter jsonObject double hrunning₁ htop₁ d a
    rw [← Machine.run_append_of_ok _ hnext] at htimes
    have hrunning₂ : nav₂.running device = true := by
      rw [running, hfleet₂]
      exact hrunning₁
    have hobject : (nav₂.fleet.cloud.devices device).trips[nav.fleet.tripCount device]? =
        some trip := by
      rw [hfleet₂, hcloud]
      simp [Cloud.prepare, Cloud.setDevice, Fleet.tripCount]
    obtain ⟨nav₃, row, hanswered, hrunning₃, htop₃, hpressed, horigin, hdestination, htable,
      hstore⟩ := request_answered (hinv.run htimes) hrunning₂ htop₂ hobject hd ha
    have hserial : nav₂.fleet.cloud.saves.issued = nav.fleet.cloud.saves.issued := by
      rw [hfleet₂, hcloud]
      rfl
    rw [hserial, ← Machine.run_append_of_ok _ htimes] at hanswered
    have hreload : (machine describe realm dateFormatter jsonObject double).run nav₃
        [.tab device now .reload] = .ok _ :=
      congrArg Except.ok (step_reload hrunning₃ htop₃ now)
    rw [← Machine.run_append_of_ok _ hanswered] at hreload
    obtain ⟨hcreator', hid', hname'⟩ := Cloud.kept_of_pressed hpressed
    refine ⟨_, row, hreload, hrunning₃, ?_, htable, ?_, hcreator'.trans hcreator,
      hid'.trans hid, hname'.trans hname, horigin, hdestination⟩
    · exact (top_of_touchable htop₃).2.1
    · dsimp only
      rw [Function.update_self]
      show (nav₃.fleet.tabs device).realmTrips = _
      obtain ⟨_, hfleet⟩ := hinv.1.fleet
      rw [hstore, hfleet₂, hcloud, (Fleet.fleetInv_of_run hfleet).stores device]
      simp [Cloud.prepare, Cloud.setDevice]

theorem ride_goes_through_firstRide : ∃ nav nav',
    sampleNavigation.run {} (firstRide.take 12) = .ok nav ∧
    sampleNavigation.run nav (wholeRide 0 0 0 28800 200 "user" 7 28800 34200) = .ok nav' ∧
    (nav'.phones 0).shown = some .tripsViewController := by
  have hevaluated : ∃ nav, sampleNavigation.run {} (firstRide.take 12) = .ok nav ∧
      nav.running 0 = true ∧ (nav.phones 0).touchable = some (.addTripWithMapVC 0) ∧
      nav.fleet.cloud.saves.issued = 0 ∧
      (∃ vc ∈ (nav.fleet.apps 0).screens[0]?, vc.nextButtonIsEnabled = true ∧
        vc.currentResult.isSome) := Machine.exists_run_eq_ok _ (by decide +kernel)
  obtain ⟨nav, hrun, hrunning, htop, hnone, vc, hi, henabled, hsome⟩ := hevaluated
  obtain ⟨place, hplace⟩ := Option.isSome_iff_exists.mp hsome
  obtain ⟨_, hrides⟩ := ride_goes_through hrun hrunning htop hi henabled 28800 200 "user" 7
  obtain ⟨nav', _, hride, _, hshown, _⟩ := hrides place 28800 34200 hplace
  rw [hnone] at hride
  exact ⟨nav, nav', hrun, hride, hshown⟩

end Navigation

end RideHitch
