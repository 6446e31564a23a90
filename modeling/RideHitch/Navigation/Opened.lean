import RideHitch.Navigation.Stack

/-! # What a call opens

    Section 1 says what a call opens on its device and what its segues push, Section 2
    that other devices do not notice it. -/

namespace RideHitch

variable {describe : Double → String} {realm : DateSort} {dateFormatter : DateFormatter}
  {jsonObject : String → Option Json} {double : String → Option Double}

/-! ## Section 1: What a call opens -/

/-- `viewWillAppear` or `viewWillDisappear`. -/
def AddTripWithMapVC.ScreenEvent.appearance (appears : Bool) : AddTripWithMapVC.ScreenEvent :=
  if appears then .viewWillAppear else .viewWillDisappear

/-- A screen that does not observe is not notified. -/
theorem AddTripWithMapVC.kept_of_post {rc : RouteCalculator}
    {screens screens' : List AddTripWithMapVC} (h : post rc screens = .ok screens') {i : ℕ}
    {vc : AddTripWithMapVC} (hi : screens[i]? = some vc) (hhidden : vc.observing = false) :
    screens'[i]? = some vc := by
  induction screens generalizing screens' i with
  | nil => cases hi
  | cons first screens ih =>
    obtain ⟨notified, hnotified, h⟩ := bind_eq_ok.mp h
    obtain ⟨others, hothers, rfl⟩ := bind_pure_eq_ok.mp h
    cases i with
    | zero =>
      obtain rfl : first = vc := by simpa using hi
      simp only [notify, hhidden] at hnotified
      exact congrArg some (Except.ok.inj hnotified).symm
    | succ i => exact ih hothers hi

namespace App

/-- Which of the screens observe `RouteCalculated`. -/
def observing (app : App) : List Bool := app.screens.map AddTripWithMapVC.observing

theorem observing_of_handle {rc : RouteCalculator} {favorites : List FavoritePlace}
    {vc vc' : AddTripWithMapVC} {e : AddTripWithMapVC.ScreenEvent}
    (h : vc.handle realm rc favorites e = .ok vc')
    (happears : e ≠ .viewWillAppear) (hdisappears : e ≠ .viewWillDisappear) :
    vc'.observing = vc.observing := by
  cases AddTripWithMapVC.handled_of_handle h with
  | appeared => exact absurd rfl happears
  | disappeared => exact absurd rfl hdisappears
  | _ => rfl

/-- Only UIKit makes a screen observe, or stops it. -/
theorem observing_of_moves {app : App} {rc' : RouteCalculator} {i : ℕ} {e : Event}
    {vc vc' : AddTripWithMapVC} (h : Moves realm app rc' i e vc vc') (he : e.fromUIKit = false) :
    vc'.observing = vc.observing := by
  cases h with
  | kept => rfl
  | handled hvc =>
    apply observing_of_handle hvc
    · rintro rfl
      cases he
    · rintro rfl
      cases he
  | typed => rfl
  | predicted _ => rfl
  | tapped _ hvc => rw [(AddTripWithMapVC.didSelectRowAt_eq_ok hvc).1]
  | fetched _ _ hvc => rw [(AddTripWithMapVC.placeFetched_eq_ok hvc).1]
  | notified hvc =>
    obtain ⟨_, _, _, _, _, _, _, _, rfl⟩ := AddTripWithMapVC.routesReady_eq_ok hvc
    rfl

theorem observing_of_step {app app' : App} {e : Event} (h : app.step describe realm e = .ok app')
    (he : e.fromUIKit = false) : app'.observing = app.observing := by
  have hload : e ≠ .viewDidLoad := by
    rintro rfl
    cases he
  apply List.ext_getElem?
  intro i
  show (app'.screens.map _)[i]? = (app.screens.map _)[i]?
  rw [List.getElem?_map, List.getElem?_map]
  cases hi : app'.screens[i]? with
  | none =>
    have hlength := screens_length_of_step h hload
    have hge := List.getElem?_eq_none_iff.mp hi
    rw [List.getElem?_eq_none (by omega)]
  | some vc' =>
    rcases screens_of_step h hi with ⟨hopened, _⟩ | ⟨vc, hvc, hmove⟩
    · exact absurd hopened hload
    · rw [hvc]
      exact congrArg some (observing_of_moves hmove he)

/-- The app once a screen has been told that it appears, or that it disappears. -/
def told (app : App) (i : ℕ) (appears : Bool) : App :=
  { app with screens := app.screens.modify i (fun vc => { vc with observing := appears }) }

theorem told_observing (app : App) (i : ℕ) (appears : Bool) :
    (app.told i appears).observing = app.observing.set i appears := by
  apply List.ext_getElem?
  intro j
  by_cases hij : i = j
  · subst hij
    cases hi : app.screens[i]? with
    | none =>
      have hge := List.getElem?_eq_none_iff.mp hi
      simpa [observing, told, hi] using hge
    | some vc =>
      have hlt : i < app.observing.length := by
        simpa [observing] using (List.getElem?_eq_some_iff.mp hi).1
      rw [List.getElem?_set_self hlt]
      simp [observing, told, hi]
  · simp [observing, told, hij]

theorem told_told (app : App) (i : ℕ) (appears appears' : Bool) :
    (app.told i appears).told i appears' = app.told i appears' := by
  simp only [told, List.modify_modify_eq]
  rfl

theorem told_self {app : App} {i : ℕ} {appears : Bool}
    (h : ∀ vc : AddTripWithMapVC, app.screens[i]? = some vc → vc.observing = appears) :
    app.told i appears = app := by
  have hsame : app.screens.modify i (fun vc => { vc with observing := appears }) =
      app.screens := by
    apply List.ext_getElem?
    intro j
    by_cases hij : i = j
    · subst hij
      cases hi : app.screens[i]? with
      | none => simp [hi]
      | some vc => simp [hi, ← h vc hi]
    · simp [hij]
  unfold told
  rw [hsame]

/-- A screen that is told to appear or to disappear does nothing else. -/
theorem step_told (describe : Double → String) (realm : DateSort) (app : App) (i : ℕ)
    (appears : Bool) :
    app.step describe realm (.screen i (.appearance appears)) = .ok (app.told i appears) := by
  have hhandle : ∀ vc : AddTripWithMapVC, vc.handle realm app.routeCalc app.favorites
      (.appearance appears) = .ok { vc with observing := appears } := by
    intro vc
    cases appears with
    | true => rfl
    | false => rfl
  simp only [step, screenEvent]
  cases hi : app.screens[i]? with
  | none =>
    have hself : app.told i appears = app := told_self (by simp [hi])
    rw [hself]
  | some vc =>
    simp only [hhandle, ok_bind, told, setScreen, pure_eq_ok]
    congr 2
    apply List.ext_getElem?
    intro j
    by_cases hij : i = j
    · subst hij
      rw [List.getElem?_set_self (List.getElem?_eq_some_iff.mp hi).1]
      simp [hi]
    · simp [hij]

end App

/-- Only its Next button opens another screen on a match screen. -/
theorem MatchSearch.opened_of_step {s s' : MatchSearch} {e : SearchEvent}
    (h : s.step jsonObject double e = .ok s') :
    s'.flow.opened.length = s.flow.opened.length ∨
      e = .screen .next ∧ s'.flow.opened.length = s.flow.opened.length + 1 := by
  cases MatchSearch.outcome_of_step h with
  | idle => exact .inl rfl
  | moved _ hflow =>
    cases MatchFlow.outcome_of_step hflow with
    | opened _ => exact .inr ⟨rfl, List.length_append⟩
    | _ => exact .inl rfl
  | @returned serial task calls _ _ =>
    left
    show (s.flow.searchReturned serial _).opened.length = _
    unfold MatchFlow.searchReturned
    split
    · rfl
    · rfl
    · rfl

/-- What a device has opened: whether each add-trip screen observes, how many trip
    objects there are, and the `AcceptMatchVC` screens of each match screen. -/
structure Opened where
  observing : List Bool
  trips : ℕ
  accepts : List ℕ

namespace Fleet

def opened (fleet : Fleet) (device : ℕ) : Opened where
  observing := (fleet.apps device).observing
  trips := fleet.tripCount device
  accepts := fleet.accepts device

/-- What a call opens on its device, and what its segues push. -/
inductive Opens (device : ℕ) (o : Opened) :
    FleetEvent → Opened → List UIViewController → Prop where
  | kept {e} : Opens device o e o []
  | built {i now identityId random} :
      Opens device o (.app device (.next i now identityId random))
        { o with trips := o.trips + 1 } [.configureTripVC o.trips]
  | ridden {index} :
      Opens device o (.tab device (.selectRow index))
        { o with observing := o.observing ++ [false] } [.addTripWithMapVC o.observing.length]
  | matched {index} :
      Opens device o (.tab device (.selectRow index))
        { o with accepts := o.accepts ++ [0] } [.resultsMapVC o.accepts.length]
  | accepted {i k} (hi : o.accepts[i]? = some k) :
      Opens device o (.tab device (.search i (.screen .next)))
        { o with accepts := o.accepts.set i (k + 1) } [.acceptMatchVC i k]

theorem pushes_of_opens {device : ℕ} {o o' : Opened} {e : FleetEvent}
    {pushes : List UIViewController} (h : Opens device o e o' pushes) :
    pushes = [] ∨ ∃ vc, pushes = [vc] := by
  cases h with
  | kept => exact .inl rfl
  | _ => exact .inr ⟨_, rfl⟩

theorem segues_app_of_kept {fleet fleet' : Fleet} {device : ℕ}
    (h : fleet'.tripCount device = fleet.tripCount device) (e : Event) :
    fleet.segues fleet' (.app device e) = [] := by
  unfold segues
  split
  next heq =>
    cases heq
    rw [h]
    exact if_neg (Nat.lt_irrefl _)
  next heq => cases heq
  next heq => cases heq
  next => rfl

theorem segues_tab_of_kept {fleet fleet' : Fleet} {device : ℕ}
    (haccepts : fleet'.accepts device = fleet.accepts device)
    (hrides : (fleet'.tabs device).rides = (fleet.tabs device).rides) (e : TripsEvent) :
    fleet.segues fleet' (.tab device e) = [] := by
  unfold segues
  split
  next heq => cases heq
  next heq =>
    cases heq
    simp [haccepts, hrides]
  next heq =>
    cases heq
    rw [haccepts]
    split
    · next heq heq' =>
      rw [heq] at heq'
      cases heq'
      exact if_neg (Nat.lt_irrefl _)
    · rfl
  next => rfl

theorem tripCount_stop (fleet : Fleet) (device other : ℕ) :
    (fleet.stop device).tripCount other = fleet.tripCount other := by
  by_cases hother : other = device
  · subst hother
    simp [tripCount, stop, Cloud.stop, Cloud.setDevice]
  · simp [tripCount, stop, Cloud.stop, Cloud.setDevice, hother]

theorem opened_stop (fleet : Fleet) (device other : ℕ) :
    (fleet.stop device).opened other = fleet.opened other := by
  unfold opened
  rw [tripCount_stop]
  rfl

/-- **A call to an add-trip screen** opens nothing, or the screen for a new trip. -/
theorem opens_app {fleet fleet' : Fleet} {device : ℕ} {e : Event} (he : e.fromUIKit = false)
    (h : Outcome describe realm dateFormatter.date jsonObject double fleet (.app device e)
      fleet') :
    Opens device (fleet.opened device) (.app device e) (fleet'.opened device)
      (fleet.segues fleet' (.app device e)) := by
  cases h with
  | idle =>
    rw [segues_app_of_kept rfl]
    exact .kept
  | stopped _ =>
    rw [segues_app_of_kept (tripCount_stop ..), opened_stop]
    exact .kept
  | @moved _ _ app hstep =>
    have hsegues : fleet.segues { fleet with apps := Function.update fleet.apps device app }
        (.app device e) = [] := segues_app_of_kept rfl e
    have hopened : opened { fleet with apps := Function.update fleet.apps device app } device =
        fleet.opened device := by
      simp only [opened, Function.update_self, App.observing_of_step hstep he]
      rfl
    rw [hsegues, hopened]
    exact .kept
  | @built _ i now identityId random app vc trip _ hstep _ _ =>
    have hcount : tripCount { fleet with
        apps := Function.update fleet.apps device app
        cloud := fleet.cloud.prepare device (.ok trip) } device =
          fleet.tripCount device + 1 := by
      simp [tripCount, Cloud.prepare, Cloud.setDevice]
    have hopened : opened { fleet with
        apps := Function.update fleet.apps device app
        cloud := fleet.cloud.prepare device (.ok trip) } device =
          { fleet.opened device with trips := fleet.tripCount device + 1 } := by
      simp only [opened, hcount, Function.update_self, App.observing_of_step hstep he]
      rfl
    have hlt : fleet.tripCount device < fleet.tripCount device + 1 := Nat.lt_succ_self _
    simp only [segues, hcount, hopened, if_pos hlt]
    exact .built

end Fleet

namespace TripsTab

/-- What a call to the list or to one of its match screens opens. -/
inductive Opens (tab : TripsTab) : TripsEvent → TripsTab → Prop where
  | kept {e tab'} (haccepts : tab'.accepts = tab.accepts) (hrides : tab'.rides = tab.rides) :
      Opens tab e tab'
  | ridden {index tab'} (haccepts : tab'.accepts = tab.accepts)
      (hrides : tab'.rides = tab.rides + 1) : Opens tab (.selectRow index) tab'
  | matched {index tab'} (haccepts : tab'.accepts = tab.accepts ++ [0])
      (hrides : tab'.rides = tab.rides) : Opens tab (.selectRow index) tab'
  | accepted {i opened tab'} (hi : tab.accepts[i]? = some opened)
      (haccepts : tab'.accepts = tab.accepts.set i (opened + 1))
      (hrides : tab'.rides = tab.rides) : Opens tab (.search i (.screen .next)) tab'

theorem opens_selectRow {tab tab' : TripsTab} (hinv : tab.TabInv jsonObject double) {index : ℕ}
    (h : tab.selectRow index = .ok tab') : Opens tab (.selectRow index) tab' := by
  cases hcell : tab.vc.cells.lookup index with
  | none =>
    simp only [selectRow, hcell] at h
    rw [← Except.ok.inj h]
    exact .kept rfl rfl
  | some cell =>
    -- the cell that shows is for a trip or for a new ride, never for both
    rcases selectRow_eq jsonObject double hinv hcell with ⟨_, _, heq⟩ | ⟨trip, _, _, heq⟩
    · rw [heq] at h
      rw [← Except.ok.inj h]
      exact .ridden rfl rfl
    · rw [heq] at h
      rw [← Except.ok.inj h]
      exact .matched List.map_append rfl

theorem opens_search {tab tab' : TripsTab} {i : ℕ} {e : SearchEvent}
    (h : tab.search jsonObject double i e = .ok tab') : Opens tab (.search i e) tab' := by
  obtain ⟨opened, hopened, rfl⟩ := bind_pure_eq_ok.mp h
  rcases Machine.stepAt_eq_ok hopened with rfl | ⟨trip, s, s', hi, hstep, rfl⟩
  · exact .kept rfl rfl
  · have hcount : tab.accepts[i]? = some s.flow.opened.length := by
      rw [accepts, List.getElem?_map, hi]
      rfl
    have haccepts : ({ tab with opened := tab.opened.set i (trip, s') } : TripsTab).accepts =
        tab.accepts.set i s'.flow.opened.length := List.map_set
    rcases MatchSearch.opened_of_step hstep with hsame | ⟨rfl, hone⟩
    · obtain ⟨hlt, hget⟩ := List.getElem?_eq_some_iff.mp hcount
      rw [hsame, ← hget, List.set_getElem_self hlt] at haccepts
      exact .kept haccepts rfl
    · rw [hone] at haccepts
      exact .accepted hcount haccepts rfl

theorem opens_of_step {tab tab' : TripsTab} (hinv : tab.TabInv jsonObject double)
    {e : TripsEvent} (h : tab.step jsonObject double e = .ok tab') : Opens tab e tab' := by
  cases e with
  | selectRow index => exact opens_selectRow hinv h
  | search i e => exact opens_search h
  | viewDidLoad =>
    rw [← Except.ok.inj h]
    exact .kept rfl rfl
  | reload =>
    rw [← Except.ok.inj h]
    exact .kept rfl rfl
  | saveAWSTrip trip =>
    rw [← Except.ok.inj h]
    exact .kept rfl rfl
  | cellForRowAt index =>
    simp only [step, cellForRowAt] at h
    split_ifs at h
    · obtain ⟨_, _, rfl⟩ := bind_pure_eq_ok.mp h
      exact .kept rfl rfl
    · rw [← Except.ok.inj h]
      exact .kept rfl rfl

end TripsTab

namespace Fleet

/-- The fleet after a step of the list: the row for a new ride opens a screen. -/
def afterTab (fleet : Fleet) (device : ℕ) (tab : TripsTab) : Fleet :=
  { fleet with
    tabs := Function.update fleet.tabs device tab
    apps := Function.update fleet.apps device
      { fleet.apps device with
        screens := (fleet.apps device).screens ++
          if tab.rides = (fleet.tabs device).rides then [] else [.viewDidLoad] } }

@[simp] theorem afterTab_tabs (fleet : Fleet) (device : ℕ) (tab : TripsTab) :
    (fleet.afterTab device tab).tabs device = tab := Function.update_self ..

@[simp] theorem afterTab_accepts (fleet : Fleet) (device : ℕ) (tab : TripsTab) :
    (fleet.afterTab device tab).accepts device = tab.accepts := by
  unfold accepts
  rw [afterTab_tabs]

@[simp] theorem afterTab_tripCount (fleet : Fleet) (device : ℕ) (tab : TripsTab) :
    (fleet.afterTab device tab).tripCount device = fleet.tripCount device := rfl

theorem afterTab_observing (fleet : Fleet) (device : ℕ) (tab : TripsTab) :
    ((fleet.afterTab device tab).apps device).observing = (fleet.apps device).observing ++
      if tab.rides = (fleet.tabs device).rides then [] else [false] := by
  simp only [afterTab, Function.update_self, App.observing, List.map_append]
  split_ifs
  · rfl
  · rfl

theorem tabStep_eq (fleet : Fleet) (device : ℕ) (e : TripsEvent) :
    fleet.tabStep describe realm jsonObject double device e = fleet.stop device ∨
    ∃ tab, (fleet.tabs device).step jsonObject double e = .ok tab ∧
      fleet.tabStep describe realm jsonObject double device e = fleet.afterTab device tab := by
  unfold tabStep
  cases hstep : (fleet.tabs device).step jsonObject double e with
  | error t => exact .inl rfl
  | ok tab =>
    refine .inr ⟨tab, rfl, ?_⟩
    dsimp only
    unfold afterTab
    split_ifs
    · rw [List.append_nil, Function.update_eq_self]
    · -- the screen that is opened builds no trip
      have hnew : (fleet.apps device).newTrips
          { fleet.apps device with screens := (fleet.apps device).screens ++ [.viewDidLoad] } =
          [] := by
        show ((fleet.apps device).built.drop (fleet.apps device).built.length).map _ = []
        rw [List.drop_length]
        rfl
      unfold openScreen appStep
      simp only [App.step, hnew, List.foldl_nil]

/-- **A call to the list** or to a match screen opens at most one screen. -/
theorem opens_tab {fleet : Fleet} {device : ℕ}
    (hinv : (fleet.tabs device).TabInv jsonObject double) (e : TripsEvent) :
    Opens device (fleet.opened device) (.tab device e)
      ((fleet.tabStep describe realm jsonObject double device e).opened device)
      (fleet.segues (fleet.tabStep describe realm jsonObject double device e)
        (.tab device e)) := by
  rcases tabStep_eq fleet device e with heq | ⟨tab, hstep, heq⟩
  · have hsegues : fleet.segues (fleet.stop device) (.tab device e) = [] := by
      apply segues_tab_of_kept
      · rfl
      · rfl
    rw [heq, hsegues, opened_stop]
    exact .kept
  · have hopened : (fleet.afterTab device tab).opened device =
        { observing := (fleet.apps device).observing ++
            if tab.rides = (fleet.tabs device).rides then [] else [false]
          trips := fleet.tripCount device
          accepts := tab.accepts } := by
      rw [← afterTab_observing, ← afterTab_accepts fleet device tab]
      rfl
    rw [heq, hopened]
    cases TripsTab.opens_of_step hinv hstep with
    | kept haccepts hrides =>
      have hsegues : fleet.segues (fleet.afterTab device tab) (.tab device e) = [] := by
        apply segues_tab_of_kept
        · exact (afterTab_accepts fleet device tab).trans haccepts
        · rw [afterTab_tabs, hrides]
      rw [hsegues, if_pos hrides, List.append_nil, haccepts]
      exact .kept
    | ridden haccepts hrides =>
      have hsame : tab.accepts.length = (fleet.accepts device).length :=
        congrArg List.length haccepts
      have hcount : (fleet.opened device).observing.length =
          (fleet.apps device).screens.length := List.length_map _
      simp only [segues, afterTab_accepts, afterTab_tabs, hsame, hrides, lt_self_iff_false,
        if_false, List.nil_append, Nat.lt_succ_self, if_true, ← hcount]
      rw [if_neg (by omega), haccepts]
      exact .ridden
    | matched haccepts hrides =>
      have hmore : (fleet.accepts device).length < tab.accepts.length := by
        rw [haccepts]
        simp [accepts]
      simp only [segues, afterTab_accepts, afterTab_tabs, hmore, hrides, lt_self_iff_false,
        if_false, if_true, List.append_nil]
      rw [haccepts]
      exact .matched
    | @accepted i opened _ hi haccepts hrides =>
      have hbefore : (fleet.accepts device)[i]? = some opened := hi
      have hafter : tab.accepts[i]? = some (opened + 1) := by
        rw [haccepts]
        exact List.getElem?_set_self (List.getElem?_eq_some_iff.mp hi).1
      simp only [segues, afterTab_accepts, hbefore, hafter, Nat.lt_succ_self, if_true, hrides,
        List.append_nil]
      rw [haccepts]
      exact .accepted hbefore

variable (describe realm dateFormatter jsonObject double) in
/-- A screen that is told to appear or to disappear, on a device that runs. -/
theorem step_told {fleet : Fleet} {device : ℕ}
    (hrunning : (fleet.cloud.devices device).running = true) (i : ℕ) (appears : Bool) :
    fleet.step describe realm dateFormatter.date jsonObject double
        (.app device (.screen i (.appearance appears))) =
      { fleet with
        apps := Function.update fleet.apps device ((fleet.apps device).told i appears) } := by
  have hnew : (fleet.apps device).newTrips ((fleet.apps device).told i appears) = [] := by
    show List.map _ ((fleet.apps device).built.drop (fleet.apps device).built.length) = _
    rw [List.drop_length]
    rfl
  have hguard : (fleet.cloud.devices device).running = true ∧
      (Event.screen i (.appearance appears)).opensScreen = false := ⟨hrunning, rfl⟩
  simp only [step, if_pos hguard, appStep, App.step_told, hnew, List.foldl_nil]

variable (describe realm dateFormatter jsonObject double) in
theorem step_appearance {fleet : Fleet} {device : ℕ}
    (hrunning : (fleet.cloud.devices device).running = true) (i : ℕ) (appears : Bool) :
    let fleet' := fleet.step describe realm dateFormatter.date jsonObject double
      (.app device (.screen i (.appearance appears)))
    fleet'.cloud = fleet.cloud ∧ fleet'.opened device =
      { fleet.opened device with
        observing := (fleet.opened device).observing.set i appears } := by
  rw [step_told describe realm dateFormatter jsonObject double hrunning]
  refine ⟨rfl, ?_⟩
  simp only [opened, Function.update_self, App.told_observing]
  rfl

/-! ## Section 2: Other devices -/

end Fleet

/-- The device that a call is made on; the remote table is not on one. -/
def FleetEvent.device : FleetEvent → Option ℕ
  | .app device _ => some device
  | .tab device _ => some device
  | .requestButtonPressed device _ _ _ => some device
  | .tookEffect _ => none
  | .saveReturned _ _ => none

def FleetEvent.touched : FleetEvent → Option UIViewController
  | .app _ e => e.touched
  | .tab _ e => e.touched
  | _ => none

namespace Cloud

variable {cloud : Cloud} {device other : ℕ}

theorem devices_setDevice_of_ne (hother : other ≠ device) (state : Device) :
    (cloud.setDevice device state).devices other = cloud.devices other := by
  show Function.update cloud.devices device state other = cloud.devices other
  exact Function.update_of_ne hother state cloud.devices

theorem devices_prepare_of_ne (hother : other ≠ device) (newTrip : Except Trap Trips) :
    (cloud.prepare device newTrip).devices other = cloud.devices other := by
  cases newTrip with
  | ok trip => exact devices_setDevice_of_ne hother _
  | error t => exact devices_setDevice_of_ne hother _

theorem devices_press_of_ne {date : String → Option NSDate} (hother : other ≠ device)
    (trip : ℕ) (depature arrival : String) :
    (cloud.requestButtonPressed date device trip depature arrival).devices other =
      cloud.devices other := by
  unfold requestButtonPressed
  split
  · split
    · exact devices_setDevice_of_ne hother _
    · exact devices_setDevice_of_ne hother _
  · rfl

theorem devices_tookEffect (serial : ℕ) :
    (cloud.tookEffect serial).devices = cloud.devices := by
  unfold tookEffect
  split
  · split_ifs
    · rfl
    · rfl
  · rfl

variable (cloud) in
/-- A completion fills the local store and nothing else. -/
theorem device_saveReturned (serial : ℕ) (error : Bool) (device : ℕ) :
    ((cloud.saveReturned serial error).devices device).running =
      (cloud.devices device).running ∧
    ((cloud.saveReturned serial error).devices device).trips = (cloud.devices device).trips := by
  unfold saveReturned
  cases cloud.saves.find serial with
  | none => exact ⟨rfl, rfl⟩
  | some save =>
    dsimp only
    split_ifs
    · exact ⟨rfl, rfl⟩
    · unfold succeeded
      split
      · split_ifs
        · by_cases hdevice : device = save.device
          · subst hdevice
            simp [confirm, Cloud.setDevice]
          · simp [confirm, Cloud.setDevice, hdevice]
        · exact ⟨rfl, rfl⟩
      · exact ⟨rfl, rfl⟩
    · exact ⟨rfl, rfl⟩

end Cloud

namespace Fleet

/-- The device runs on, or stands, as before, and has opened nothing. -/
structure SameOn (device : ℕ) (fleet fleet' : Fleet) : Prop where
  running : (fleet'.cloud.devices device).running = (fleet.cloud.devices device).running
  opened : fleet'.opened device = fleet.opened device

theorem sameOn_of_parts {device : ℕ} {fleet fleet' : Fleet}
    (happs : fleet'.apps device = fleet.apps device)
    (hcloud : fleet'.cloud.devices device = fleet.cloud.devices device)
    (htabs : fleet'.tabs device = fleet.tabs device) : SameOn device fleet fleet' where
  running := by rw [hcloud]
  opened := by
    unfold opened tripCount accepts
    rw [happs, hcloud, htabs]

/-- **Frame.** What happens on one device is not noticed on another. -/
theorem sameOn_of_step (fleet : Fleet) {device : ℕ} {e : FleetEvent}
    (hother : ∀ d ∈ e.device, device ≠ d) :
    SameOn device fleet (fleet.step describe realm dateFormatter.date jsonObject double e) := by
  cases e with
  | app d e =>
    have hother : device ≠ d := hother d rfl
    simp only [step]
    split_ifs
    · unfold appStep
      split
      · refine sameOn_of_parts (Function.update_of_ne hother ..) ?_ rfl
        apply List.foldlRecOn (motive := fun cloud : Cloud =>
          cloud.devices device = fleet.cloud.devices device) _ _ rfl
        intro cloud hcloud trip _
        exact (Cloud.devices_prepare_of_ne hother _).trans hcloud
      · exact sameOn_of_parts rfl (Cloud.devices_setDevice_of_ne hother _) rfl
    · exact ⟨rfl, rfl⟩
  | tab d e =>
    have hother : device ≠ d := hother d rfl
    simp only [step]
    split_ifs
    · rcases tabStep_eq fleet d e with heq | ⟨tab, _, heq⟩
      · rw [heq]
        exact sameOn_of_parts rfl (Cloud.devices_setDevice_of_ne hother _) rfl
      · rw [heq]
        exact sameOn_of_parts (Function.update_of_ne hother ..) rfl
          (Function.update_of_ne hother ..)
    · exact ⟨rfl, rfl⟩
  | requestButtonPressed d trip depature arrival =>
    have hother : device ≠ d := hother d rfl
    apply sameOn_of_parts
    · rfl
    · simp only [step, Cloud.step]
      split_ifs
      · exact Cloud.devices_press_of_ne hother trip depature arrival
      · rfl
    · rfl
  | tookEffect serial =>
    apply sameOn_of_parts
    · rfl
    · show (fleet.cloud.tookEffect serial).devices device = _
      rw [Cloud.devices_tookEffect]
    · rfl
  | saveReturned serial error =>
    obtain ⟨hrunning, htrips⟩ :=
      Cloud.device_saveReturned fleet.cloud serial error device
    refine ⟨hrunning, ?_⟩
    show Opened.mk _ _ _ = Opened.mk _ _ _
    congr 1
    exact congrArg List.length htrips

variable (describe realm dateFormatter jsonObject double) in
/-- A press opens nothing, on any device. -/
theorem opened_press (fleet : Fleet) (device trip : ℕ) (depature arrival : String) (other : ℕ) :
    (fleet.step describe realm dateFormatter.date jsonObject double
      (.requestButtonPressed device trip depature arrival)).opened other =
      fleet.opened other := by
  have hcount : ((fleet.cloud.step dateFormatter.date
      (.requestButtonPressed device trip depature arrival)).devices other).trips.length =
      (fleet.cloud.devices other).trips.length := by
    by_cases hother : other = device
    · subst hother
      simp only [Cloud.step, Cloud.requestButtonPressed]
      split_ifs
      · split
        · split
          · simp [Cloud.uploadTrip, Cloud.setDevice]
          · simp [Cloud.stop, Cloud.setDevice]
        · rfl
      · rfl
    · simp only [Cloud.step]
      split_ifs
      · rw [Cloud.devices_press_of_ne hother]
      · rfl
  show Opened.mk _ _ _ = Opened.mk _ _ _
  congr 1

/-- The trip objects stay. -/
theorem tripCount_le_of_step (fleet : Fleet) (e : FleetEvent) (device : ℕ) :
    fleet.tripCount device ≤
      (fleet.step describe realm dateFormatter.date jsonObject double e).tripCount device := by
  have houtcome : Outcome describe realm dateFormatter.date jsonObject double fleet e
      (fleet.step describe realm dateFormatter.date jsonObject double e) := outcome_of_step fleet e
  generalize fleet.step describe realm dateFormatter.date jsonObject double e = fleet' at houtcome
  cases houtcome with
  | idle => exact Nat.le_refl _
  | stopped _ => exact Nat.le_of_eq (tripCount_stop ..).symm
  | moved _ => exact Nat.le_refl _
  | @built d i now identityId random app vc trip _ _ _ _ =>
    by_cases hdevice : device = d
    · subst hdevice
      simp [tripCount, Cloud.prepare, Cloud.setDevice]
    · simp [tripCount, Cloud.prepare, Cloud.setDevice, hdevice]
  | listed _ _ _ => exact Nat.le_refl _
  | @pressed d trip depature arrival =>
    have hopened := opened_press describe realm dateFormatter jsonObject double fleet d trip
      depature arrival device
    exact Nat.le_of_eq (congrArg Opened.trips hopened).symm
  | @tookEffect serial =>
    apply Nat.le_of_eq
    show _ = (((fleet.cloud.tookEffect serial).devices device).trips).length
    rw [Cloud.devices_tookEffect]
    rfl
  | @returned serial error =>
    exact Nat.le_of_eq (congrArg List.length
      (Cloud.device_saveReturned fleet.cloud serial error device).2).symm

theorem tabInv_of_reachable {fleet : Fleet}
    (h : (machine describe realm dateFormatter.date jsonObject double).Reachable fleet)
    (device : ℕ) : (fleet.tabs device).TabInv jsonObject double := by
  obtain ⟨es, hrun⟩ := h
  exact (fleetInv_of_run hrun).tabs device

/-- **One call** from outside UIKit opens at most one screen. -/
theorem opens_of_step {fleet : Fleet}
    (hreach : (machine describe realm dateFormatter.date jsonObject double).Reachable fleet)
    {device : ℕ} {e : FleetEvent}
    (he : (∃ call, e = .app device call ∧ call.fromUIKit = false) ∨
      ∃ call, e = .tab device call) :
    Opens device (fleet.opened device) e
      ((fleet.step describe realm dateFormatter.date jsonObject double e).opened device)
      (fleet.segues (fleet.step describe realm dateFormatter.date jsonObject double e) e) := by
  rcases he with ⟨call, rfl, hcall⟩ | ⟨call, rfl⟩
  · have houtcome : Outcome describe realm dateFormatter.date jsonObject double fleet
        (.app device call) _ := outcome_of_step fleet (.app device call)
    exact opens_app hcall houtcome
  · simp only [step]
    split_ifs
    · exact opens_tab (tabInv_of_reachable hreach device) call
    · rw [segues_tab_of_kept rfl rfl]
      exact .kept

/-- A device that has stopped does nothing more. -/
theorem step_of_stopped {fleet : Fleet} {device : ℕ} {e : FleetEvent}
    (hdevice : e.device = some device)
    (hstopped : (fleet.cloud.devices device).running = false) :
    fleet.step describe realm dateFormatter.date jsonObject double e = fleet := by
  cases e with
  | app d e =>
    obtain rfl := Option.some.inj hdevice
    simp [step, hstopped]
  | tab d e =>
    obtain rfl := Option.some.inj hdevice
    simp [step, hstopped]
  | requestButtonPressed d trip depature arrival =>
    obtain rfl := Option.some.inj hdevice
    simp [step, Cloud.step, hstopped]
  | tookEffect serial => cases hdevice
  | saveReturned serial error => cases hdevice

theorem running_of_step {fleet : Fleet} {device : ℕ} {e : FleetEvent}
    (h : ((fleet.step describe realm dateFormatter.date jsonObject double e).cloud.devices
      device).running = true) : (fleet.cloud.devices device).running = true := by
  by_cases hdevice : e.device = some device
  · by_contra hstopped
    rw [step_of_stopped hdevice (by simpa using hstopped)] at h
    exact hstopped h
  · have hother : ∀ d ∈ e.device, device ≠ d := by
      rintro d hd rfl
      exact hdevice hd
    rw [← h]
    exact (sameOn_of_step fleet hother).running.symm

end Fleet

end RideHitch
