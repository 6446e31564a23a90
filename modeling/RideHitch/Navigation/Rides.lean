import RideHitch.Navigation.Shown

/-! # The rides that are requested

    The Request button takes its `ConfigureTripVC` off the stack, and no segue brings
    that screen back.  So a trip object is sent at most once, with the times entered
    on its own screen.

    Section 1 says which calls send rows, Section 2 has the invariant and its steps,
    Section 3 what a press does from any state and what becomes of a screen that was
    left, and Section 4 what becomes of the two stores when no id is drawn twice. -/

namespace RideHitch

variable {describe : Double → String} {realm : DateSort} {dateFormatter : DateFormatter}
  {jsonObject : String → Option Json} {double : String → Option Double}

/-! ## Section 1: What is sent -/

/-- Only a press of the Request button sends a row. -/
def FleetEvent.sends : FleetEvent → Bool
  | .requestButtonPressed _ _ _ _ => true
  | _ => false

theorem Fleet.issued_of_step (fleet : Fleet) {e : FleetEvent} (he : e.sends = false) :
    (fleet.step describe realm dateFormatter.date jsonObject double e).cloud.issued =
      fleet.cloud.issued := by
  cases e with
  | app device e =>
    simp only [step]
    split_ifs
    · unfold appStep
      split
      · apply List.foldlRecOn (motive := fun cloud : Cloud =>
          cloud.issued = fleet.cloud.issued) _ _ rfl
        intro cloud hcloud trip _
        exact hcloud
      · rfl
    · rfl
  | tab device e =>
    simp only [step]
    split_ifs
    · rcases tabStep_eq fleet device e with heq | ⟨tab, _, heq⟩
      · rw [heq]
        rfl
      · rw [heq]
        rfl
    · rfl
  | requestButtonPressed device trip depature arrival => cases he
  | tookEffect serial => exact Cloud.issued_tookEffect fleet.cloud serial
  | saveReturned serial error => exact Cloud.issued_saveReturned fleet.cloud serial error

/-! ## Section 2: The invariant -/

namespace Navigation

/-- The trip object of the device has been sent. -/
def Sent (nav : Navigation) (device trip : ℕ) : Prop :=
  ∃ upload ∈ nav.fleet.cloud.issued, upload.2.device = device ∧ upload.2.trip = trip

variable (dateFormatter) in
/-- The row has the times last written into the fields of its screen. -/
def Entered (entry : TimeEntry) (row : Trips) : Prop :=
  ∃ d a, entry.depatureTime = some d ∧ entry.arrivalTime = some a ∧
    row.originDate = dateFormatter.timeOfDay d ∧ row.destinationDate = dateFormatter.timeOfDay a

variable (dateFormatter) in
structure RideInv (nav : Navigation) : Prop where
  texts : ∀ device trip, ((nav.phones device).entries trip).TextsWritten dateFormatter
  once : (nav.fleet.cloud.issued.map (fun upload => (upload.2.device, upload.2.trip))).Nodup
  /-- The screen of a trip that was sent is off the stack. -/
  gone : ∀ device trip, nav.Sent device trip →
    .configureTripVC trip ∉ (nav.phones device).navigation.viewControllers
  entered : ∀ upload ∈ nav.fleet.cloud.issued,
    Entered dateFormatter ((nav.phones upload.2.device).entries upload.2.trip) upload.2.row

theorem rideInv_init : RideInv dateFormatter {} where
  texts := fun _ _ => TimeEntry.textsWritten_init 0
  once := List.nodup_nil
  gone := by
    intro device trip h
    obtain ⟨upload, hupload, _⟩ := h
    cases hupload
  entered := by
    intro upload hupload
    cases hupload

variable (dateFormatter) in
/-- A change of a phone that brings back no screen of the first `count` trips, and leaves
    alone the fields of those that are off the stack. -/
structure PhoneKept (count : ℕ) (phone phone' : Phone) : Prop where
  texts : (∀ trip, (phone.entries trip).TextsWritten dateFormatter) →
    ∀ trip, (phone'.entries trip).TextsWritten dateFormatter
  entries : ∀ trip < count, .configureTripVC trip ∉ phone.navigation.viewControllers →
    phone'.entries trip = phone.entries trip
  gone : ∀ trip < count, .configureTripVC trip ∉ phone.navigation.viewControllers →
    .configureTripVC trip ∉ phone'.navigation.viewControllers

theorem PhoneKept.refl (count : ℕ) (phone : Phone) :
    PhoneKept dateFormatter count phone phone where
  texts := id
  entries := fun _ _ _ => rfl
  gone := fun _ _ => id

theorem PhoneKept.trans {count : ℕ} {phone phone' phone'' : Phone}
    (h : PhoneKept dateFormatter count phone phone')
    (h' : PhoneKept dateFormatter count phone' phone'') :
    PhoneKept dateFormatter count phone phone'' where
  texts := fun htexts => h'.texts (h.texts htexts)
  entries := by
    intro trip hlt hoff
    rw [h'.entries trip hlt (h.gone trip hlt hoff)]
    exact h.entries trip hlt hoff
  gone := fun trip hlt hoff => h'.gone trip hlt (h.gone trip hlt hoff)

variable (dateFormatter) in
/-- A change that sends nothing. -/
structure Quiet (count : ℕ → ℕ) (nav nav' : Navigation) : Prop where
  issued : nav'.fleet.cloud.issued = nav.fleet.cloud.issued
  phones : ∀ device, PhoneKept dateFormatter (count device) (nav.phones device)
    (nav'.phones device)

theorem Quiet.refl (count : ℕ → ℕ) (nav : Navigation) : Quiet dateFormatter count nav nav where
  issued := rfl
  phones := fun _ => .refl _ _

theorem Quiet.trans {count : ℕ → ℕ} {nav nav' nav'' : Navigation}
    (h : Quiet dateFormatter count nav nav') (h' : Quiet dateFormatter count nav' nav'') :
    Quiet dateFormatter count nav nav'' where
  issued := h'.issued.trans h.issued
  phones := fun device => (h.phones device).trans (h'.phones device)

theorem Quiet.sent {count : ℕ → ℕ} {nav nav' : Navigation}
    (h : Quiet dateFormatter count nav nav') : nav'.Sent = nav.Sent := by
  unfold Sent
  rw [h.issued]

variable {nav : Navigation} {device : ℕ}

theorem sent_lt
    (hreach : (Fleet.machine describe realm dateFormatter.date jsonObject double).Reachable
      nav.fleet) {trip : ℕ} (h : nav.Sent device trip) : trip < nav.fleet.tripCount device := by
  obtain ⟨upload, hupload, rfl, rfl⟩ := h
  obtain ⟨es, hrun⟩ := hreach
  obtain ⟨_, hcloud⟩ := Fleet.cloud_of_run hrun
  obtain ⟨_, hmirrored⟩ := Cloud.sound_of_run hcloud
  obtain ⟨_, _, _, _, hobject⟩ := hmirrored.object_sent upload hupload
  exact (List.getElem?_eq_some_iff.mp hobject).1

theorem RideInv.quiet {nav' : Navigation} (h : RideInv dateFormatter nav)
    (hreach : (Fleet.machine describe realm dateFormatter.date jsonObject double).Reachable
      nav.fleet) (hquiet : Quiet dateFormatter nav.fleet.tripCount nav nav') :
    RideInv dateFormatter nav' where
  texts := fun device => (hquiet.phones device).texts (h.texts device)
  once := hquiet.issued ▸ h.once
  gone := by
    intro device trip hsent
    rw [hquiet.sent] at hsent
    exact (hquiet.phones device).gone trip (sent_lt hreach hsent) (h.gone device trip hsent)
  entered := by
    intro upload hupload
    rw [hquiet.issued] at hupload
    have hsent : nav.Sent upload.2.device upload.2.trip := ⟨upload, hupload, rfl, rfl⟩
    rw [(hquiet.phones _).entries _ (sent_lt hreach hsent) (h.gone _ _ hsent)]
    exact h.entered upload hupload

theorem issued_calls {es : List FleetEvent} (hes : ∀ e ∈ es, e.sends = false)
    (nav : Navigation) :
    (nav.calls describe realm dateFormatter jsonObject double es).fleet.cloud.issued =
      nav.fleet.cloud.issued := by
  unfold calls
  apply List.foldlRecOn (motive := fun fleet : Fleet =>
    fleet.cloud.issued = nav.fleet.cloud.issued) _ _ rfl
  intro fleet hfleet e he
  exact (Fleet.issued_of_step fleet (hes e he)).trans hfleet

theorem quiet_calls {es : List FleetEvent} (hes : ∀ e ∈ es, e.sends = false)
    (count : ℕ → ℕ) (nav : Navigation) : Quiet dateFormatter count nav
      (nav.calls describe realm dateFormatter jsonObject double es) where
  issued := issued_calls hes nav
  phones := fun _ => .refl _ _

/-- A phone is replaced, and nothing is sent. -/
theorem quiet_of_update {count : ℕ → ℕ} {nav' : Navigation} {phone : Phone}
    (hissued : nav'.fleet.cloud.issued = nav.fleet.cloud.issued)
    (hphones : nav'.phones = Function.update nav.phones device phone)
    (h : PhoneKept dateFormatter (count device) (nav.phones device) phone) :
    Quiet dateFormatter count nav nav' where
  issued := hissued
  phones := by
    intro other
    rw [hphones]
    by_cases hother : other = device
    · subst hother
      rw [Function.update_self]
      exact h
    · rw [Function.update_of_ne hother]
      exact .refl _ _

theorem quiet_setPhone {count : ℕ → ℕ} {phone : Phone}
    (h : PhoneKept dateFormatter (count device) (nav.phones device) phone) :
    Quiet dateFormatter count nav
      (nav.setPhone describe realm dateFormatter jsonObject double device phone) := by
  apply quiet_of_update ?_ rfl h
  apply issued_calls
  intro e he
  obtain ⟨i, appears, rfl⟩ := mem_appearances he
  rfl

/-- A new controller: a `ConfigureTripVC` is for none of the first `count` trips. -/
theorem quiet_push {count : ℕ → ℕ} {vc : UIViewController}
    (hnew : ∀ trip, vc = .configureTripVC trip → count device ≤ trip) (now : NSDate) :
    Quiet dateFormatter count nav
      (nav.push describe realm dateFormatter jsonObject double device now vc) := by
  have hload : Quiet dateFormatter count nav
      (nav.calls describe realm dateFormatter jsonObject double (vc.viewDidLoad device)) := by
    apply quiet_calls
    intro e he
    cases vc with
    | resultsMapVC i =>
      rw [List.mem_singleton.mp he]
      rfl
    | _ => cases he
  apply hload.trans
  apply quiet_setPhone
  have hother : ∀ trip < count device, vc ≠ .configureTripVC trip := by
    rintro trip hlt rfl
    have hge := hnew trip rfl
    omega
  have hentries : ∀ trip, vc ≠ .configureTripVC trip →
      (load (nav.phones device) now vc).entries trip = (nav.phones device).entries trip := by
    intro trip hne
    cases vc with
    | configureTripVC new =>
      apply Function.update_of_ne
      rintro rfl
      exact hne rfl
    | _ => rfl
  constructor
  · intro htexts trip
    by_cases htrip : vc = .configureTripVC trip
    · rw [htrip]
      show (Function.update (nav.phones device).entries trip _ trip).TextsWritten dateFormatter
      rw [Function.update_self]
      exact TimeEntry.textsWritten_init now
    · show ((load (nav.phones device) now vc).entries trip).TextsWritten dateFormatter
      rw [hentries trip htrip]
      exact htexts trip
  · intro trip hlt _
    exact hentries trip (hother trip hlt)
  · intro trip hlt hoff hmem
    have hmem : .configureTripVC trip ∈
        (load (nav.phones device) now vc).navigation.viewControllers ++ [vc] := hmem
    rw [load_navigation] at hmem
    rcases List.mem_append.mp hmem with hmem | hmem
    · exact hoff hmem
    · exact hother trip hlt (List.mem_singleton.mp hmem).symm

/-- The segue of a Next button opens the screen of the next trip object. -/
theorem configure_of_mem_segues {fleet fleet' : Fleet} {e : FleetEvent} {trip : ℕ}
    (hdevice : e.device = some device) (h : .configureTripVC trip ∈ fleet.segues fleet' e) :
    trip = fleet.tripCount device := by
  unfold Fleet.segues at h
  split at h
  · obtain rfl := Option.some.inj hdevice
    split_ifs at h
    · simpa using h
    · cases h
  · rcases List.mem_append.mp h with h | h
    · split_ifs at h
      · simp at h
      · cases h
    · split_ifs at h
      · simp at h
      · cases h
  · split at h
    · split_ifs at h
      · simp at h
      · cases h
    · cases h
  · cases h

theorem quiet_call {e : FleetEvent} (hdevice : e.device = some device) (he : e.sends = false)
    (nav : Navigation) (now : NSDate) : Quiet dateFormatter nav.fleet.tripCount nav
      (nav.call describe realm dateFormatter jsonObject double device now e) := by
  have hcalls : Quiet dateFormatter nav.fleet.tripCount nav
      (nav.calls describe realm dateFormatter jsonObject double [e]) :=
    quiet_calls (by simpa using he) _ nav
  unfold call
  apply List.foldlRecOn (motive := fun nav' : Navigation =>
    Quiet dateFormatter nav.fleet.tripCount nav nav') _ _ hcalls
  intro nav' hnav' vc hvc
  apply hnav'.trans
  apply quiet_push
  intro trip htrip
  have hnext : trip = nav.fleet.tripCount device :=
    configure_of_mem_segues hdevice (htrip ▸ hvc)
  exact Nat.le_of_eq hnext.symm

/-- What takes touches is on top of the stack, and shows. -/
theorem top_of_touchable {phone : Phone} {vc : UIViewController}
    (h : phone.touchable = some vc) :
    phone.navigation.viewControllers.getLast? = some vc ∧ phone.shown = some vc ∧
      phone.selected = true ∧ phone.swiping = false := by
  unfold Phone.touchable at h
  split_ifs at h with htouchable
  obtain ⟨hselected, hswiping⟩ := htouchable
  refine ⟨h, ?_, hselected, hswiping⟩
  simp only [Phone.shown, hselected, hswiping, if_true]
  exact h

theorem quiet_time (count : ℕ → ℕ) (nav : Navigation) (device : ℕ) (e : TimeEvent) :
    Quiet dateFormatter count nav (nav.time dateFormatter device e) := by
  unfold time
  dsimp only
  split
  next new htop =>
    have hmem := List.mem_of_getLast? (top_of_touchable htop).1
    have hupdate : ∀ phone, ({ nav with
        phones := Function.update nav.phones device phone } : Navigation).phones =
        Function.update nav.phones device phone := fun _ => rfl
    refine quiet_of_update rfl (hupdate _) ?_
    constructor
    · intro htexts trip
      dsimp only
      by_cases htrip : trip = new
      · subst htrip
        rw [Function.update_self]
        exact TimeEntry.textsWritten_step (htexts trip) e
      · rw [Function.update_of_ne htrip]
        exact htexts trip
    · intro trip _ hoff
      apply Function.update_of_ne
      rintro rfl
      -- only the fields of the screen on top are written
      exact hoff hmem
    · intro trip _ hoff
      exact hoff
  next => exact .refl count nav

/-- A change of the stack that pushes nothing. -/
theorem quiet_pop {count : ℕ → ℕ} {navigation : UINavigationController} {selected swiping : Bool}
    (hpop : navigation.viewControllers ⊆ (nav.phones device).navigation.viewControllers) :
    Quiet dateFormatter count nav (nav.setPhone describe realm dateFormatter jsonObject double device
      { nav.phones device with
        navigation := navigation, selected := selected, swiping := swiping }) := by
  apply quiet_setPhone
  exact ⟨id, fun _ _ _ => rfl, fun _ _ hoff hmem => hoff (hpop hmem)⟩

theorem popViewController_subset (navigation : UINavigationController) :
    navigation.popViewController.viewControllers ⊆ navigation.viewControllers := by
  unfold UINavigationController.popViewController
  split_ifs
  · exact List.dropLast_subset _
  · exact List.Subset.refl _

/-- The object of the trip whose screen is on top. -/
theorem object_of_top (hrunning : nav.running device = true) (h : nav.StackInv device)
    {trip : ℕ} (htop : (nav.phones device).touchable = some (.configureTripVC trip)) :
    ∃ object, (nav.fleet.cloud.devices device).trips[trip]? = some object := by
  have hshape := (h hrunning).shape
  have hlast := (top_of_touchable htop).1
  generalize (nav.phones device).navigation.viewControllers = viewControllers at hshape hlast
  cases hshape with
  | @configure i new hi hnew =>
    obtain rfl : new = trip := by simpa using hlast
    exact ⟨_, List.getElem?_eq_getElem hnew⟩
  | _ => simp at hlast

/-- **A press** sends the trip with its times and leads back to the list, or stops the
    device because a time is missing. -/
theorem requestButtonPressed_cases (hrunning : nav.running device = true)
    (hstack : nav.StackInv device) (hride : RideInv dateFormatter nav) {trip : ℕ}
    (htop : (nav.phones device).touchable = some (.configureTripVC trip)) :
    (∃ d a uploaded, ((nav.phones device).entries trip).depatureTime = some d ∧
      ((nav.phones device).entries trip).arrivalTime = some a ∧
      (∀ object, (nav.fleet.cloud.devices device).trips[trip]? = some object →
        Cloud.Pressed dateFormatter.date object uploaded) ∧
      uploaded.originDate = dateFormatter.timeOfDay d ∧
      uploaded.destinationDate = dateFormatter.timeOfDay a ∧
      nav.requestButtonPressed describe realm dateFormatter jsonObject double device =
        { fleet := { nav.fleet with
            cloud := (nav.fleet.cloud.setDevice device
              { nav.fleet.cloud.devices device with
                trips := (nav.fleet.cloud.devices device).trips.set trip uploaded }).uploadTrip
              ⟨device, trip, uploaded⟩ }
          phones := Function.update nav.phones device
            { nav.phones device with navigation := {} } }) ∨
    ((((nav.phones device).entries trip).depatureTime = none ∨
        ((nav.phones device).entries trip).arrivalTime = none) ∧
      nav.requestButtonPressed describe realm dateFormatter jsonObject double device =
        { nav with fleet := nav.fleet.stop device }) := by
  obtain ⟨object, hobject⟩ := object_of_top hrunning hstack htop
  have htexts := hride.texts device trip
  rw [requestButtonPressed_eq hrunning hstack htop]
  generalize (nav.phones device).entries trip = entry at htexts ⊢
  -- the call is the press that the remote table knows
  have hcalls : nav.calls describe realm dateFormatter jsonObject double
      [.requestButtonPressed device trip entry.depatureTimeTextField
        entry.arrivalTimeTextField] =
      { nav with fleet := { nav.fleet with
        cloud := entry.requestButtonPressed dateFormatter nav.fleet.cloud device trip } } := rfl
  have hdepature := TimeEntry.date_text dateFormatter entry.depatureTime
  have harrival := TimeEntry.date_text dateFormatter entry.arrivalTime
  rw [← htexts.depature] at hdepature
  rw [← htexts.arrival] at harrival
  by_cases hmissing : entry.depatureTime = none ∨ entry.arrivalTime = none
  · have hcloud : entry.requestButtonPressed dateFormatter nav.fleet.cloud device trip =
        nav.fleet.cloud.stop device := by
      apply TimeEntry.requestButtonPressed_of_missing hrunning hobject
      rw [hdepature, harrival]
      simpa using hmissing
    rw [hcloud] at hcalls
    refine .inr ⟨hmissing, ?_⟩
    dsimp only
    rw [hcalls, if_neg]
    · rfl
    · simp [running, Cloud.stop, Cloud.setDevice]
  · push Not at hmissing
    obtain ⟨d, hd⟩ := Option.ne_none_iff_exists'.mp hmissing.1
    obtain ⟨a, ha⟩ := Option.ne_none_iff_exists'.mp hmissing.2
    rw [hd] at hdepature
    rw [ha] at harrival
    obtain ⟨geohash, uploaded, _, huploaded, hpressed, hcloud⟩ :=
      TimeEntry.requestButtonPressed_of_dates hrunning hobject hdepature harrival
    have hpressed' : ∀ object, (nav.fleet.cloud.devices device).trips[trip]? = some object →
        Cloud.Pressed dateFormatter.date object uploaded := by
      intro object' hobject'
      rw [hobject] at hobject'
      exact Option.some.inj hobject' ▸ hpressed
    rw [hcloud] at hcalls
    refine .inl ⟨d, a, uploaded, hd, ha, hpressed', by rw [huploaded], by rw [huploaded], ?_⟩
    dsimp only
    rw [hcalls, if_pos]
    · -- neither of the two screens overrides the appearance calls
      have happears : UIViewController.appearances device (nav.phones device).shown
          (Phone.shown { nav.phones device with navigation := {} }) = [] := by
        obtain ⟨_, hshown, hselected, hswiping⟩ := top_of_touchable htop
        rw [hshown]
        simp only [Phone.shown, hselected, hswiping]
        rfl
      simp only [setPhone, happears]
      rfl
    · simpa [running, Cloud.uploadTrip, Cloud.setDevice] using hrunning

theorem rideInv_press
    (hinv : NavigationInv describe realm dateFormatter jsonObject double nav)
    (hrunning : nav.running device = true) (h : RideInv dateFormatter nav) :
    RideInv dateFormatter
      (nav.requestButtonPressed describe realm dateFormatter jsonObject double device) := by
  by_cases htop : ∃ trip, (nav.phones device).touchable = some (.configureTripVC trip)
  · obtain ⟨trip, htop⟩ := htop
    rcases requestButtonPressed_cases hrunning (hinv.devices device) h htop with
      ⟨d, a, uploaded, hd, ha, _, horigin, hdestination, heq⟩ | ⟨_, heq⟩
    · have hmem := List.mem_of_getLast? (top_of_touchable htop).1
      rw [heq]
      have hentries : ∀ other, (Function.update nav.phones device
          { nav.phones device with navigation := {} } other).entries =
          (nav.phones other).entries := by
        intro other
        by_cases hother : other = device
        · subst hother
          rw [Function.update_self]
        · rw [Function.update_of_ne hother]
      constructor
      · intro other t
        dsimp only
        rw [hentries]
        exact h.texts other t
      · show ((nav.fleet.cloud.issued ++ [_]).map _).Nodup
        rw [List.map_append, List.nodup_append]
        refine ⟨h.once, List.nodup_singleton _, ?_⟩
        intro pair hpair new hnew heq
        rw [List.mem_singleton.mp hnew] at heq
        -- a trip that was sent has no screen on the stack, but this one has
        obtain ⟨upload, hupload, rfl⟩ := List.mem_map.mp hpair
        obtain ⟨hdevice, htrip⟩ := Prod.mk.inj heq
        exact h.gone device trip ⟨upload, hupload, hdevice, htrip⟩ hmem
      · intro other t hsent
        dsimp only
        by_cases hother : other = device
        · subst hother
          rw [Function.update_self]
          simp
        · rw [Function.update_of_ne hother]
          apply h.gone
          obtain ⟨upload, hupload, hdevice, htrip⟩ := hsent
          rcases List.mem_append.mp hupload with hupload | hupload
          · exact ⟨upload, hupload, hdevice, htrip⟩
          · rw [List.mem_singleton.mp hupload] at hdevice
            exact absurd hdevice.symm hother
      · intro upload hupload
        dsimp only
        rw [hentries]
        rcases List.mem_append.mp hupload with hupload | hupload
        · exact h.entered upload hupload
        · rw [List.mem_singleton.mp hupload]
          exact ⟨d, a, hd, ha, horigin, hdestination⟩
    · rw [heq]
      exact h.quiet hinv.fleet ⟨rfl, fun _ => .refl _ _⟩
  · rw [requestButtonPressed_of_not_top (not_exists.mp htop)]
    exact h

/-- **One event** sends nothing, or is a press on a device that runs. -/
theorem quiet_or_press (nav : Navigation) (e : NavigationEvent) :
    Quiet dateFormatter nav.fleet.tripCount nav
      (nav.step describe realm dateFormatter jsonObject double e) ∨
    ∃ device, nav.running device = true ∧
      nav.step describe realm dateFormatter jsonObject double e =
        nav.requestButtonPressed describe realm dateFormatter jsonObject double device := by
  unfold step
  split_ifs with hrunning
  · cases e with
    | app d now call =>
      simp only [handle]
      split_ifs
      · exact .inl (quiet_call rfl rfl nav now)
      · exact .inl (.refl _ nav)
    | tab d now call =>
      simp only [handle]
      split_ifs
      · exact .inl (quiet_call rfl rfl nav now)
      · exact .inl (.refl _ nav)
    | time d e => exact .inl (quiet_time _ nav d e)
    | requestButtonPressed d => exact .inr ⟨d, hrunning d rfl, rfl⟩
    | swipe d =>
      simp only [handle, swipe]
      split_ifs
      · exact .inl (quiet_pop (List.Subset.refl _))
      · exact .inl (.refl _ nav)
    | swipeEnded d finished =>
      simp only [handle, swipeEnded]
      split_ifs
      · exact .inl (quiet_pop (popViewController_subset _))
      · exact .inl (quiet_pop (List.Subset.refl _))
      · exact .inl (.refl _ nav)
    | tabBar d list =>
      simp only [handle, tabBar]
      split_ifs
      · exact .inl (.refl _ nav)
      · exact .inl (quiet_pop (List.take_subset 1 _))
      · exact .inl (quiet_pop (List.Subset.refl _))
    | tookEffect serial => exact .inl (quiet_calls (by simp [FleetEvent.sends]) _ nav)
    | saveReturned serial error =>
      exact .inl (quiet_calls (by simp [FleetEvent.sends]) _ nav)
  · exact .inl (.refl _ nav)

variable (describe realm dateFormatter jsonObject double) in
/-- Both invariants of the runs. -/
def RunInv (nav : Navigation) : Prop :=
  NavigationInv describe realm dateFormatter jsonObject double nav ∧ RideInv dateFormatter nav

theorem runInv_step (h : RunInv describe realm dateFormatter jsonObject double nav)
    (e : NavigationEvent) : RunInv describe realm dateFormatter jsonObject double
      (nav.step describe realm dateFormatter jsonObject double e) := by
  obtain ⟨hinv, hride⟩ := h
  refine ⟨navigationInv_step hinv e, ?_⟩
  have hstep : Quiet dateFormatter nav.fleet.tripCount nav
      (nav.step describe realm dateFormatter jsonObject double e) ∨ _ := quiet_or_press nav e
  rcases hstep with hquiet | ⟨device, hrunning, hpress⟩
  · exact hride.quiet hinv.fleet hquiet
  · rw [hpress]
    exact rideInv_press hinv hrunning hride

theorem RunInv.run {nav' : Navigation} {es : List NavigationEvent}
    (hinv : RunInv describe realm dateFormatter jsonObject double nav)
    (h : (machine describe realm dateFormatter jsonObject double).run nav es = .ok nav') :
    RunInv describe realm dateFormatter jsonObject double nav' := by
  have hstep : ∀ nav e nav', RunInv describe realm dateFormatter jsonObject double nav →
      (machine describe realm dateFormatter jsonObject double).step nav e = .ok nav' →
      RunInv describe realm dateFormatter jsonObject double nav' := by
    intro nav e nav' hinv hstep
    rw [← Except.ok.inj hstep]
    exact runInv_step hinv e
  exact Machine.run_preserves hstep hinv h

theorem runInv_of_run {es : List NavigationEvent}
    (h : (machine describe realm dateFormatter jsonObject double).run {} es = .ok nav) :
    RunInv describe realm dateFormatter jsonObject double nav :=
  RunInv.run ⟨navigationInv_init, rideInv_init⟩ h

/-! ## Section 3: A press, from any state -/

/-- **Request leads back to the list.** In every state a press on a device that runs is
    for a trip that was not sent before.  The device goes on exactly if both times
    were entered; then the list shows and the trip object was sent as the press left it,
    with these times.  Otherwise nothing is sent. -/
theorem request_leads_back {es : List NavigationEvent}
    (h : (machine describe realm dateFormatter jsonObject double).run {} es = .ok nav)
    (hrunning : nav.running device = true) {trip : ℕ}
    (htop : (nav.phones device).touchable = some (.configureTripVC trip)) :
    let nav' := nav.step describe realm dateFormatter jsonObject double
      (.requestButtonPressed device)
    let entry := (nav.phones device).entries trip
    ¬ nav.Sent device trip ∧
    (nav'.running device = true ↔ entry.depatureTime.isSome ∧ entry.arrivalTime.isSome) ∧
    (nav'.running device = true → (nav'.phones device).navigation = {} ∧
      (nav'.phones device).shown = some .tripsViewController ∧
      ∃ object uploaded, (nav.fleet.cloud.devices device).trips[trip]? = some object ∧
        Cloud.Pressed dateFormatter.date object uploaded ∧
        Entered dateFormatter entry uploaded ∧
        nav'.fleet.cloud.issued = nav.fleet.cloud.issued ++
          [(nav.fleet.cloud.saves.issued, ⟨device, trip, uploaded⟩)]) ∧
    (nav'.running device = false → nav'.fleet.cloud.issued = nav.fleet.cloud.issued) := by
  obtain ⟨hinv, hride⟩ := runInv_of_run h
  have hstack := hinv.devices device
  have hstep : nav.step describe realm dateFormatter jsonObject double
      (.requestButtonPressed device) =
      nav.requestButtonPressed describe realm dateFormatter jsonObject double device :=
    step_of_running hrunning rfl
  obtain ⟨hlast, _, hselected, hswiping⟩ := top_of_touchable htop
  intro nav' entry
  refine ⟨?_, ?_⟩
  · intro hsent
    exact hride.gone device trip hsent (List.mem_of_getLast? hlast)
  · rcases requestButtonPressed_cases hrunning hstack hride htop with
      ⟨d, a, uploaded, hd, ha, hpressed, horigin, hdestination, heq⟩ | ⟨hmissing, heq⟩
    · have hnav' : nav' = _ := hstep.trans heq
      obtain ⟨object, hobject⟩ := object_of_top hrunning hstack htop
      have hgoes : nav'.running device = true := by
        rw [hnav']
        simpa [running, Cloud.uploadTrip, Cloud.setDevice] using hrunning
      have hphone : nav'.phones device = { nav.phones device with navigation := {} } := by
        rw [hnav']
        exact Function.update_self ..
      refine ⟨?_, ?_, ?_⟩
      · simp [hgoes, entry, hd, ha]
      · intro _
        rw [hphone]
        refine ⟨rfl, ?_, object, uploaded, hobject, hpressed object hobject,
          ⟨d, a, hd, ha, horigin, hdestination⟩, ?_⟩
        · simp only [Phone.shown, hselected, hswiping]
          rfl
        · rw [hnav']
          rfl
      · intro hstopped
        rw [hgoes] at hstopped
        cases hstopped
    · have hnav' : nav' = _ := hstep.trans heq
      have hstops : nav'.running device = false := by
        rw [hnav']
        simp [running, Fleet.stop, Cloud.stop, Cloud.setDevice]
      refine ⟨?_, ?_, ?_⟩
      · rw [hstops]
        rcases hmissing with hmissing | hmissing
        · simp [entry, hmissing]
        · simp [entry, hmissing]
      · intro hgoes
        rw [hstops] at hgoes
        cases hgoes
      · intro _
        rw [hnav']
        rfl

theorem request_leads_back_firstRide : ∃ nav nav',
    sampleNavigation.run {} (firstRide.take 18) = .ok nav ∧
    sampleNavigation.step nav (.requestButtonPressed 0) = .ok nav' ∧
    (nav'.phones 0).shown = some .tripsViewController := by
  have hevaluated : ∃ nav, sampleNavigation.run {} (firstRide.take 18) = .ok nav ∧
      nav.running 0 = true ∧ (nav.phones 0).touchable = some (.configureTripVC 0) ∧
      ((nav.phones 0).entries 0).depatureTime.isSome ∧
      ((nav.phones 0).entries 0).arrivalTime.isSome := Machine.exists_run_eq_ok _ (by decide +kernel)
  obtain ⟨nav, hrun, hrunning, htop, htimes⟩ := hevaluated
  obtain ⟨_, hgoes, hback, _⟩ := request_leads_back hrun hrunning htop
  exact ⟨nav, _, hrun, rfl, (hback (hgoes.mpr htimes)).2.1⟩

/-! ### A screen that was left -/

/-- The trip object is there, and its screen is off the stack. -/
def Left (nav : Navigation) (device trip : ℕ) : Prop :=
  trip < nav.fleet.tripCount device ∧
    .configureTripVC trip ∉ (nav.phones device).navigation.viewControllers

/-- **One event** does not bring a screen back, sends nothing for it and leaves its
    fields alone. -/
theorem left_step (hinv : RunInv describe realm dateFormatter jsonObject double nav)
    {trip : ℕ} (hleft : nav.Left device trip) (e : NavigationEvent) :
    (nav.step describe realm dateFormatter jsonObject double e).Left device trip ∧
    ((nav.step describe realm dateFormatter jsonObject double e).Sent device trip ↔
      nav.Sent device trip) ∧
    ((nav.step describe realm dateFormatter jsonObject double e).phones device).entries trip =
      (nav.phones device).entries trip := by
  obtain ⟨hnav, hride⟩ := hinv
  obtain ⟨hlt, hoff⟩ := hleft
  have htrips := (confined_step hnav e).1.trips device
  have hstep : Quiet dateFormatter nav.fleet.tripCount nav
      (nav.step describe realm dateFormatter jsonObject double e) ∨ _ := quiet_or_press nav e
  rcases hstep with hquiet | ⟨d, hrunning, hpress⟩
  · refine ⟨⟨hlt.trans_le htrips, (hquiet.phones device).gone trip hlt hoff⟩, ?_,
      (hquiet.phones device).entries trip hlt hoff⟩
    rw [hquiet.sent]
  · rw [hpress] at htrips ⊢
    by_cases htop : ∃ new, (nav.phones d).touchable = some (.configureTripVC new)
    · obtain ⟨new, htop⟩ := htop
      rcases requestButtonPressed_cases hrunning (hnav.devices d) hride htop with
        ⟨_, _, uploaded, _, _, _, _, _, heq⟩ | ⟨_, heq⟩
      · rw [heq] at htrips ⊢
        have hmem := List.mem_of_getLast? (top_of_touchable htop).1
        -- the screen that is pressed is on the stack, so it is another one
        have hnew : ¬ (d = device ∧ new = trip) := by
          rintro ⟨rfl, rfl⟩
          exact hoff hmem
        refine ⟨⟨hlt.trans_le htrips, ?_⟩, ?_, ?_⟩
        · dsimp only
          by_cases hdevice : device = d
          · subst hdevice
            rw [Function.update_self]
            simp
          · rw [Function.update_of_ne hdevice]
            exact hoff
        · constructor
          · rintro ⟨upload, hupload, hdevice, htrip⟩
            rcases List.mem_append.mp hupload with hupload | hupload
            · exact ⟨upload, hupload, hdevice, htrip⟩
            · rw [List.mem_singleton.mp hupload] at hdevice htrip
              exact absurd ⟨hdevice, htrip⟩ hnew
          · rintro ⟨upload, hupload, hdevice, htrip⟩
            exact ⟨upload, List.mem_append_left _ hupload, hdevice, htrip⟩
        · dsimp only
          by_cases hdevice : device = d
          · subst hdevice
            rw [Function.update_self]
          · rw [Function.update_of_ne hdevice]
      · rw [heq] at htrips ⊢
        exact ⟨⟨hlt.trans_le htrips, hoff⟩, Iff.rfl, rfl⟩
    · rw [requestButtonPressed_of_not_top (not_exists.mp htop)]
      exact ⟨⟨hlt, hoff⟩, Iff.rfl, rfl⟩

/-- **A screen that was left stays left.** Once the screen of a trip is off the stack, by
    Request, the back button, a swipe or the tab, no later event brings it back, sends
    the trip or writes into its fields: a trip not sent by then is never sent. -/
theorem left_for_good {es es' : List NavigationEvent} {nav' : Navigation}
    (h : (machine describe realm dateFormatter jsonObject double).run {} es = .ok nav)
    (h' : (machine describe realm dateFormatter jsonObject double).run nav es' = .ok nav')
    {trip : ℕ} (hlt : trip < nav.fleet.tripCount device)
    (hoff : .configureTripVC trip ∉ (nav.phones device).navigation.viewControllers) :
    .configureTripVC trip ∉ (nav'.phones device).navigation.viewControllers ∧
    (nav'.Sent device trip ↔ nav.Sent device trip) ∧
    (nav'.phones device).entries trip = (nav.phones device).entries trip := by
  have hstep : ∀ nav₁ e nav₂, (RunInv describe realm dateFormatter jsonObject double nav₁ ∧
        nav₁.Left device trip ∧ (nav₁.Sent device trip ↔ nav.Sent device trip) ∧
        (nav₁.phones device).entries trip = (nav.phones device).entries trip) →
      (machine describe realm dateFormatter jsonObject double).step nav₁ e = .ok nav₂ →
      RunInv describe realm dateFormatter jsonObject double nav₂ ∧
        nav₂.Left device trip ∧ (nav₂.Sent device trip ↔ nav.Sent device trip) ∧
        (nav₂.phones device).entries trip = (nav.phones device).entries trip := by
    rintro nav₁ e nav₂ ⟨hinv, hleft, hsent, hentries⟩ hstep
    rw [← Except.ok.inj hstep]
    obtain ⟨hleft', hsent', hentries'⟩ := left_step hinv hleft e
    exact ⟨runInv_step hinv e, hleft', hsent'.trans hsent, hentries'.trans hentries⟩
  have hstart := runInv_of_run h
  obtain ⟨_, hleft, hsent, hentries⟩ :=
    Machine.run_preserves hstep ⟨hstart, ⟨hlt, hoff⟩, Iff.rfl, rfl⟩ h'
  exact ⟨hleft.2, hsent, hentries⟩

/-- The user enters both times, but goes back instead of pressing Request. -/
def rideLeft : List NavigationEvent := firstRide.take 18 ++ [.swipe 0, .swipeEnded 0 true]

/-- A second screen, for a trip object of its own, is left by Request. -/
def rideAgain : List NavigationEvent :=
  [.app 0 28800 (.next 0 200 "user" 8)] ++ TimeEntry.morningRide.map (.time 0) ++
  [.requestButtonPressed 0]

theorem left_for_good_rideLeft : ∃ nav nav', sampleNavigation.run {} rideLeft = .ok nav ∧
    sampleNavigation.run nav rideAgain = .ok nav' ∧ nav'.Sent 0 1 ∧ ¬ nav'.Sent 0 0 := by
  have hevaluated : ∃ nav, sampleNavigation.run {} rideLeft = .ok nav ∧
      0 < nav.fleet.tripCount 0 ∧
      .configureTripVC 0 ∉ (nav.phones 0).navigation.viewControllers ∧
      nav.fleet.cloud.issued = [] := Machine.exists_run_eq_ok _ (by decide +kernel)
  have hlater : ∃ nav', sampleNavigation.run {} (rideLeft ++ rideAgain) = .ok nav' ∧
      nav'.fleet.cloud.issued.map (fun upload => (upload.2.device, upload.2.trip)) = [(0, 1)] :=
    Machine.exists_run_eq_ok _ (by decide +kernel)
  obtain ⟨nav, hrun, hlt, hoff, hnone⟩ := hevaluated
  obtain ⟨nav', hrun', hsecond⟩ := hlater
  rw [Machine.run_append_of_ok _ hrun] at hrun'
  obtain ⟨_, hsent, _⟩ := left_for_good hrun hrun' hlt hoff
  refine ⟨nav, nav', hrun, hrun', ?_, ?_⟩
  · have hmem : (0, 1) ∈ nav'.fleet.cloud.issued.map
        (fun upload => (upload.2.device, upload.2.trip)) := by
      rw [hsecond]
      exact List.mem_singleton.mpr rfl
    obtain ⟨upload, hupload, hpair⟩ := List.mem_map.mp hmem
    exact ⟨upload, hupload, (Prod.mk.inj hpair).1, (Prod.mk.inj hpair).2⟩
  · rw [hsent]
    simp [Sent, hnone]

/-- **Every trip once, with its own times.** In every state no two saves are for the same
    trip object, and every row of the remote table has the two times that were last
    written into the fields of the screen of its own trip. -/
theorem trips_sent_once {es : List NavigationEvent}
    (h : (machine describe realm dateFormatter jsonObject double).run {} es = .ok nav) :
    (nav.fleet.cloud.issued.map (fun upload => (upload.2.device, upload.2.trip))).Nodup ∧
    ∀ key row, nav.fleet.cloud.table key = some row →
      ∃ upload ∈ nav.fleet.cloud.issued, upload.2.row = row ∧
        Entered dateFormatter ((nav.phones upload.2.device).entries upload.2.trip) row := by
  obtain ⟨hinv, hride⟩ := runInv_of_run h
  obtain ⟨_, hfleet⟩ := hinv.fleet
  obtain ⟨_, hcloud⟩ := Fleet.cloud_of_run hfleet
  obtain ⟨hsound, _⟩ := Cloud.sound_of_run hcloud
  refine ⟨hride.once, ?_⟩
  intro key row hrow
  obtain ⟨upload, hupload, rfl⟩ := Cloud.exists_upload hsound hrow
  have hissued := hsound.issued_of_effected upload hupload
  exact ⟨upload, hissued, rfl, hride.entered upload hissued⟩

theorem trips_sent_once_firstRide : ∃ nav, sampleNavigation.run {} firstRide = .ok nav ∧
    nav.fleet.cloud.issued ≠ [] ∧
    (nav.fleet.cloud.issued.map (fun upload => (upload.2.device, upload.2.trip))).Nodup := by
  have hevaluated : ∃ nav, sampleNavigation.run {} firstRide = .ok nav ∧
      nav.fleet.cloud.issued ≠ [] := Machine.exists_run_eq_ok _ (by decide +kernel)
  obtain ⟨nav, hrun, hne⟩ := hevaluated
  exact ⟨nav, hrun, hne, (trips_sent_once hrun).1⟩

/-! ## Section 4: When no id is drawn twice -/

/-- No two trip objects, on whatever devices, have the same id. -/
def IdsDistinct (nav : Navigation) : Prop :=
  ∀ (device trip device' trip' : ℕ) (object object' : Trips),
    (nav.fleet.cloud.devices device).trips[trip]? = some object →
    (nav.fleet.cloud.devices device').trips[trip']? = some object' →
    object.tripID = object'.tripID → (device, trip) = (device', trip')

/-- The keys are then distinct, however often Request was pressed. -/
theorem keysDistinct_of_ids {es : List NavigationEvent}
    (h : (machine describe realm dateFormatter jsonObject double).run {} es = .ok nav)
    (hids : nav.IdsDistinct) : nav.fleet.cloud.KeysDistinct := by
  obtain ⟨hinv, hride⟩ := runInv_of_run h
  have honce := hride.once
  obtain ⟨_, hfleet⟩ := hinv.fleet
  obtain ⟨_, hcloud⟩ := Fleet.cloud_of_run hfleet
  obtain ⟨_, hmirrored⟩ := Cloud.sound_of_run hcloud
  apply List.Nodup.map_on ?_ (List.Nodup.of_map _ honce)
  intro upload hupload upload' hupload' hkey
  obtain ⟨sent, _, _, hsent, hobject⟩ := hmirrored.object_sent upload hupload
  obtain ⟨sent', _, _, hsent', hobject'⟩ := hmirrored.object_sent upload' hupload'
  -- one key is one id, one id is one object, and one object was sent once
  have hsame : sent.2.row.tripID = sent'.2.row.tripID := by
    have hkeys := (hsent.trans hkey).trans hsent'.symm
    rw [Trips.key_eq, Trips.key_eq] at hkeys
    simpa using (Prod.mk.inj hkeys).2
  have hpair := hids _ _ _ _ _ _ hobject hobject' hsame
  exact List.inj_on_of_nodup_map honce hupload hupload' hpair

/-- **The two stores**, for devices that are used through their screens: if no id is
    drawn twice, every row that took effect is in the remote table as it was sent, and
    the local store of a device with no save outstanding agrees with the table exactly
    when none of its saves took effect and yet reported an error. -/
theorem stores_agree_of_ids {es : List NavigationEvent}
    (h : (machine describe realm dateFormatter jsonObject double).run {} es = .ok nav)
    (hids : nav.IdsDistinct) :
    (∀ upload ∈ nav.fleet.cloud.effected, nav.fleet.cloud.Kept upload) ∧
    ∀ device, (∀ upload ∈ nav.fleet.cloud.saves.outstanding, upload.2.device ≠ device) →
      (nav.fleet.cloud.LocalMatches device ↔
        ∀ upload ∈ nav.fleet.cloud.effected, upload.2.device = device →
          upload.1 ∉ nav.fleet.cloud.failed) := by
  have hkeys := keysDistinct_of_ids h hids
  obtain ⟨_, hfleet⟩ := (navigationInv_of_run h).fleet
  obtain ⟨_, hcloud⟩ := Fleet.cloud_of_run hfleet
  obtain ⟨hsound, hmirrored⟩ := Cloud.sound_of_run hcloud
  constructor
  · intro upload hupload
    exact Cloud.kept_of_effected hsound hkeys hupload
  · intro device hidle
    exact Cloud.localMatches_of_keys hsound hmirrored hkeys hidle

/-- Two devices, one after the other. -/
def twoRides : List NavigationEvent := firstRide ++ rideOf 1 1 8

theorem twoRides_elsewhere {device : ℕ} (hzero : device ≠ 0) (hone : device ≠ 1) :
    ∀ e ∈ twoRides, Navigation.device e ≠ some device := by
  have htwo : ∀ e ∈ twoRides, Navigation.device e = none ∨ Navigation.device e = some 0 ∨
      Navigation.device e = some 1 := by
    decide
  intro e he
  rcases htwo e he with hnone | hown | hown
  · rw [hnone]
    simp
  · rw [hown]
    simpa using hzero.symm
  · rw [hown]
    simpa using hone.symm

theorem stores_agree_of_ids_twoRides : ∃ nav, sampleNavigation.run {} twoRides = .ok nav ∧
    nav.fleet.cloud.effected.length = 2 ∧
    (∀ upload ∈ nav.fleet.cloud.effected, nav.fleet.cloud.Kept upload) ∧
    nav.fleet.cloud.LocalMatches 0 ∧ nav.fleet.cloud.LocalMatches 1 := by
  have hevaluated : ∃ nav, sampleNavigation.run {} twoRides = .ok nav ∧
      (nav.fleet.cloud.devices 0).trips.map Trips.tripID = ["7"] ∧
      (nav.fleet.cloud.devices 1).trips.map Trips.tripID = ["8"] ∧
      nav.fleet.cloud.effected.length = 2 ∧
      nav.fleet.cloud.saves.outstanding = [] ∧ nav.fleet.cloud.failed = [] :=
    Machine.exists_run_eq_ok _ (by decide +kernel)
  obtain ⟨nav, hrun, hids, hids', hlength, hidle, hfailed⟩ := hevaluated
  -- every trip object is the first one of its device, and the id tells which device
  have hfirst : ∀ (device trip : ℕ) (object : Trips),
      (nav.fleet.cloud.devices device).trips[trip]? = some object →
      trip = 0 ∧ (device = 0 ∧ object.tripID = "7" ∨ device = 1 ∧ object.tripID = "8") := by
    intro device trip object hobject
    have hid : ((nav.fleet.cloud.devices device).trips.map Trips.tripID)[trip]? =
        some object.tripID := by
      rw [List.getElem?_map, hobject]
      rfl
    by_cases hzero : device = 0
    · subst hzero
      rw [hids, List.getElem?_singleton] at hid
      split_ifs at hid with htrip
      exact ⟨htrip, .inl ⟨rfl, (Option.some.inj hid).symm⟩⟩
    · by_cases hone : device = 1
      · subst hone
        rw [hids', List.getElem?_singleton] at hid
        split_ifs at hid with htrip
        exact ⟨htrip, .inr ⟨rfl, (Option.some.inj hid).symm⟩⟩
      · have hempty := congrArg Opened.trips
          (opened_of_run_elsewhere (twoRides_elsewhere hzero hone) hrun)
        have hlt : trip < nav.fleet.tripCount device := (List.getElem?_eq_some_iff.mp hobject).1
        rw [show nav.fleet.tripCount device = 0 from hempty] at hlt
        exact absurd hlt (Nat.not_lt_zero _)
  have hdistinct : nav.IdsDistinct := by
    intro device trip device' trip' object object' hobject hobject' hsame
    obtain ⟨rfl, hcase⟩ := hfirst _ _ _ hobject
    obtain ⟨rfl, hcase'⟩ := hfirst _ _ _ hobject'
    rcases hcase with ⟨rfl, hid⟩ | ⟨rfl, hid⟩ <;> rcases hcase' with ⟨rfl, hid'⟩ | ⟨rfl, hid'⟩
    · rfl
    · simp [hid, hid'] at hsame
    · simp [hid, hid'] at hsame
    · rfl
  obtain ⟨hkept, hlocal⟩ := stores_agree_of_ids hrun hdistinct
  refine ⟨nav, hrun, hlength, hkept, (hlocal 0 ?_).mpr ?_, (hlocal 1 ?_).mpr ?_⟩
  · simp [hidle]
  · simp [hfailed]
  · simp [hidle]
  · simp [hfailed]

end Navigation

end RideHitch
