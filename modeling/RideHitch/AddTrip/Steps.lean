import RideHitch.AddTripWithMapVC

/-! # What one step of the add-trip flow can do

    Section 1 says what each handler of the screen leaves behind when it does
    not trap.  Section 2 lists the outcomes of a step of the app (`Outcome`),
    Section 3 the ways in which such a step can change a screen (`Moves`).
    Invariants are proved from these two lists and unfold no handler. -/

namespace RideHitch

/-! ## Section 1: The handlers -/

namespace AddTripWithMapVC

variable {describe : Double → String} {realm : DateSort}

/-- The trip that `prepare` builds when nothing is missing. -/
theorem prepare_eq_ok {rc : RouteCalculator} {vc : AddTripWithMapVC} {now : Double}
    {identityId : String} {random : UInt32} {trip : Trips}
    (h : vc.prepare rc now identityId random = .ok trip) :
    ∃ origin destination values,
      vc.currentLocation = some origin ∧
      vc.currentResult = some destination ∧
      rc.routePolygonValues = some values ∧
      RouteCalculator.calculateDirectionsForTrip trip = ⟨origin, destination.coordinate⟩ ∧
      trip.polygon = ",".intercalate values := by
  obtain ⟨origin, horigin, h⟩ := bind_eq_ok.mp h
  obtain ⟨destination, hdestination, h⟩ := bind_eq_ok.mp h
  obtain ⟨values, hvalues, rfl⟩ := bind_pure_eq_ok.mp h
  exact ⟨origin, destination, values, unwrap_eq_ok.mp horigin, unwrap_eq_ok.mp hdestination,
    unwrap_eq_ok.mp hvalues, rfl, rfl⟩

theorem didUpdateLocations_eq_ok {vc vc' : AddTripWithMapVC}
    {locations : List CLLocationCoordinate2D} (h : vc.didUpdateLocations locations = .ok vc') :
    (locations = [] ∧ vc' = vc) ∨
    (∃ location, locations.getLast? = some location ∧ vc.locationManager.isSome ∧
      vc' = { vc with currentLocation := some location, locationManager := none }) := by
  unfold didUpdateLocations at h
  cases hlast : locations.getLast? with
  | none =>
    rw [hlast] at h
    cases h
    exact .inl ⟨List.getLast?_eq_none_iff.mp hlast, rfl⟩
  | some location =>
    rw [hlast] at h
    obtain ⟨manager, hmanager, rfl⟩ := bind_pure_eq_ok.mp h
    -- the unwrap went through, so there was a manager
    have hsome : vc.locationManager = some manager := unwrap_eq_ok.mp hmanager
    exact .inr ⟨location, rfl, by simp [hsome], rfl⟩

/-- A completed lookup sets the current place.  With a place it asks for the
    directions from the current location, which must be there. -/
theorem placeFetched_eq_ok {vc vc' : AddTripWithMapVC} {result : Option GMSPlace}
    {request : Option MKDirectionsRequest} (h : vc.placeFetched result = .ok (vc', request)) :
    vc' = { vc with currentResult := result } ∧
    ((result = none ∧ request = none) ∨
     (∃ place location, result = some place ∧ vc.currentLocation = some location ∧
      request = some ⟨location, place.coordinate⟩)) := by
  obtain ⟨request', hrequest, h⟩ := bind_eq_ok.mp h
  cases h
  refine ⟨rfl, ?_⟩
  cases result with
  | none =>
    cases hrequest
    exact .inl ⟨rfl, rfl⟩
  | some place =>
    cases hlocation : vc.currentLocation with
    -- without a location the request would have trapped
    | none => simp [addPlaceToMap, calculateRouteToPlace, hlocation] at hrequest
    | some location =>
      simp only [addPlaceToMap, calculateRouteToPlace, hlocation, unwrap_some, ok_bind] at hrequest
      cases hrequest
      exact .inr ⟨place, location, rfl, rfl, rfl⟩

theorem addRouteToMap_eq_ok {rc : RouteCalculator} {vc vc' : AddTripWithMapVC} {withIndex : ℕ}
    (h : vc.addRouteToMap rc withIndex = .ok vc') :
    ∃ routes route points, rc.routes = some routes ∧ routes[withIndex]? = some route ∧
      rc.routePolygonPoints = some points ∧
      vc' = { vc with
        nextButtonIsEnabled := true
        overlays := [.polyline route, .polygon points] } := by
  obtain ⟨routes, hroutes, h⟩ := bind_eq_ok.mp h
  obtain ⟨route, hroute, h⟩ := bind_eq_ok.mp h
  obtain ⟨points, hpoints, rfl⟩ := bind_pure_eq_ok.mp h
  exact ⟨routes, route, points, unwrap_eq_ok.mp hroutes, subscript_eq_ok.mp hroute,
    unwrap_eq_ok.mp hpoints, rfl⟩

theorem segmentTitles_eq_ok {rc : RouteCalculator} {segments : List String}
    (h : segmentTitles rc = .ok segments) : segments.length = (rc.routes.getD []).length := by
  unfold segmentTitles at h
  cases hroutes : rc.routes with
  | none =>
    rw [hroutes] at h
    cases h
    rfl
  | some routes =>
    simp only [hroutes] at h
    split_ifs at h with hcount
    cases h
    simp

theorem addSegmentedControl_eq_ok {rc : RouteCalculator} {vc vc' : AddTripWithMapVC}
    (h : vc.addSegmentedControl rc = .ok vc') :
    ∃ segments : List String, segments.length = (rc.routes.getD []).length ∧
      vc' = { vc with
        routesSegmentedControl := some ⟨segments, 0, rc.routes.getD []⟩
        routesToolbarIsHidden := false } := by
  obtain ⟨segments, hsegments, rfl⟩ := bind_pure_eq_ok.mp h
  exact ⟨segments, segmentTitles_eq_ok hsegments, rfl⟩

/-- A notified screen gets a control for the routes there are now, draws the
    first of them and enables its Next button. -/
theorem routesReady_eq_ok {rc : RouteCalculator} {vc vc' : AddTripWithMapVC}
    (h : vc.routesReady rc = .ok vc') :
    ∃ routes route points, rc.routes = some routes ∧ routes[0]? = some route ∧
      rc.routePolygonPoints = some points ∧ ∃ segments : List String,
      segments.length = routes.length ∧
      vc' = { vc with
        routesSegmentedControl := some ⟨segments, 0, routes⟩
        routesToolbarIsHidden := false
        nextButtonIsEnabled := true
        overlays := [.polyline route, .polygon points] } := by
  -- the control and the drawing read the same routes
  obtain ⟨vc₁, hcontrol, hdraw⟩ := bind_eq_ok.mp h
  obtain ⟨segments, hlength, rfl⟩ := addSegmentedControl_eq_ok hcontrol
  obtain ⟨routes, route, points, hroutes, hroute, hpoints, rfl⟩ := addRouteToMap_eq_ok hdraw
  rw [hroutes] at hlength ⊢
  exact ⟨routes, route, points, rfl, hroute, hpoints, segments, hlength, rfl⟩

theorem numberOfRowsInSection_eq (favorites : List FavoritePlace) (vc : AddTripWithMapVC) :
    vc.numberOfRowsInSection realm favorites = (vc.listed realm favorites).length := by
  unfold numberOfRowsInSection listed
  by_cases htext : vc.searchBarText = ""
  · simp [htext]
  · cases hresults : vc.results with
    | none => simp [htext]
    | some results => simp [htext]

theorem cellForRowAt_ok {favorites : List FavoritePlace} {vc : AddTripWithMapVC} {row : ℕ}
    {place : ListedPlace} (h : (vc.listed realm favorites)[row]? = some place) :
    vc.cellForRowAt realm favorites row = .ok (some place) := by
  unfold listed at h
  unfold cellForRowAt
  by_cases htext : vc.searchBarText = ""
  · simp only [htext, if_true, List.getElem?_map, Option.map_eq_some_iff] at h ⊢
    obtain ⟨favorite, hfavorite, rfl⟩ := h
    rw [subscript_eq_ok.mpr hfavorite]
    rfl
  · simp only [htext, if_false, List.getElem?_map, Option.map_eq_some_iff] at h ⊢
    obtain ⟨prediction, hprediction, rfl⟩ := h
    rw [optionalSubscript_eq_ok.mpr hprediction]
    rfl

/-- The tapped row holds a place with the id that is fetched. -/
theorem selectedPlace_eq_ok {favorites : List FavoritePlace} {vc : AddTripWithMapVC} {row : ℕ}
    {prediction : Option GMSAutocompletePrediction} {id : String}
    (h : vc.selectedPlace realm favorites row = .ok (prediction, id)) :
    ∃ place, (vc.listed realm favorites)[row]? = some place ∧ place.placeID = some id := by
  unfold selectedPlace at h
  unfold listed
  by_cases htext : vc.searchBarText = ""
  · simp only [htext, if_true] at h ⊢
    obtain ⟨favorite, hfavorite, h⟩ := bind_pure_eq_ok.mp h
    obtain ⟨rfl, rfl⟩ := Prod.mk.inj h
    exact ⟨.favorite favorite, by simp [subscript_eq_ok.mp hfavorite], rfl⟩
  · simp only [htext, if_false] at h ⊢
    obtain ⟨destination, hdestination, h⟩ := bind_eq_ok.mp h
    obtain ⟨p, hp, h⟩ := bind_eq_ok.mp h
    obtain ⟨id', hid, h⟩ := bind_eq_ok.mp h
    cases h
    rw [unwrap_eq_ok] at hp hid
    subst hp
    exact ⟨.prediction p, by simp [optionalSubscript_eq_ok.mp hdestination], hid⟩

/-- A tap closes the list and looks up the id of the place in the tapped row. -/
theorem didSelectRowAt_eq_ok {favorites favorites' : List FavoritePlace}
    {vc vc' : AddTripWithMapVC} {row : ℕ} {now : NSDate} {id : String}
    (h : vc.didSelectRowAt realm favorites row now = .ok (id, favorites', vc')) :
    vc' = { vc with tableViewIsHidden := true, searchBarText := "" } ∧
    ∃ place, (vc.listed realm favorites)[row]? = some place ∧ place.placeID = some id := by
  obtain ⟨⟨prediction, id'⟩, hselected, h⟩ := bind_eq_ok.mp h
  obtain ⟨favorites₁, hfavorites, h⟩ := bind_pure_eq_ok.mp h
  cases h
  exact ⟨rfl, selectedPlace_eq_ok hselected⟩

/-- A row with an id can be tapped without a trap. -/
theorem didSelectRowAt_ok {favorites : List FavoritePlace} {vc : AddTripWithMapVC} {row : ℕ}
    {place : ListedPlace} {id : String} (h : (vc.listed realm favorites)[row]? = some place)
    (hid : place.placeID = some id) (now : NSDate) :
    ∃ favorites', vc.didSelectRowAt realm favorites row now =
      .ok (id, favorites', { vc with tableViewIsHidden := true, searchBarText := "" }) := by
  unfold listed at h
  unfold didSelectRowAt selectedPlace
  by_cases htext : vc.searchBarText = ""
  · simp only [htext, if_true, List.getElem?_map, Option.map_eq_some_iff] at h ⊢
    obtain ⟨favorite, hfavorite, rfl⟩ := h
    cases hid
    rw [subscript_eq_ok.mpr hfavorite]
    exact ⟨favorites, rfl⟩
  · simp only [htext, if_false, List.getElem?_map, Option.map_eq_some_iff] at h ⊢
    obtain ⟨prediction, hprediction, rfl⟩ := h
    have hid' : prediction.placeID = some id := hid
    -- saving the prediction as a favourite unwraps the same id once more
    have hsaved :=
      GooglePlaceFetcher.fetchPlaceForAutocompletePrediction_ok realm favorites hid' now
    rw [optionalSubscript_eq_ok.mpr hprediction]
    simp only [ok_bind, unwrap_some, hid', pure_eq_ok, hsaved]
    exact ⟨_, rfl⟩

variable (realm) in
/-- What the calls that concern one screen do to it. -/
inductive Handled (rc : RouteCalculator) (favorites : List FavoritePlace)
    (vc : AddTripWithMapVC) : ScreenEvent → AddTripWithMapVC → Prop where
  | ignored {e} : Handled rc favorites vc e vc
  | appeared : Handled rc favorites vc .viewWillAppear vc.viewWillAppear
  | disappeared : Handled rc favorites vc .viewWillDisappear vc.viewWillDisappear
  | agreed : Handled rc favorites vc .locationAgreed vc.requestLocationDataAgreed
  | located {locations location} (hmanager : vc.locationManager.isSome) :
      Handled rc favorites vc (.didUpdateLocations locations)
        { vc with currentLocation := some location, locationManager := none }
  | editing : Handled rc favorites vc .searchBarTextDidBeginEditing
      (vc.searchBarTextDidBeginEditing realm favorites)
  | laidOut : Handled rc favorites vc .tableViewLayout (vc.reloadData realm favorites)
  | rendered {row cell} (hrow : row < vc.rows)
      (h : vc.cellForRowAt realm favorites row = .ok cell) :
      Handled rc favorites vc (.cellForRowAt row) { vc with cells := (row, cell) :: vc.cells }
  | drawn {segment control routes route points}
      (hcontrol : vc.routesSegmentedControl = some control)
      (hsegment : segment < control.segments.length)
      (hroutes : rc.routes = some routes) (hroute : routes[segment]? = some route)
      (hpoints : rc.routePolygonPoints = some points) :
      Handled rc favorites vc (.changeRoute segment)
        { vc with
          routesSegmentedControl := some { control with selectedSegmentIndex := segment }
          nextButtonIsEnabled := true
          overlays := [.polyline route, .polygon points] }

theorem handled_of_handle {rc : RouteCalculator} {favorites : List FavoritePlace}
    {vc vc' : AddTripWithMapVC} {e : ScreenEvent} (h : vc.handle realm rc favorites e = .ok vc') :
    Handled realm rc favorites vc e vc' := by
  cases e with
  | viewWillAppear =>
    cases h
    exact .appeared
  | viewWillDisappear =>
    cases h
    exact .disappeared
  | locationAgreed =>
    cases h
    exact .agreed
  | locationRejected =>
    cases h
    exact .ignored
  | didUpdateLocations locations =>
    rcases didUpdateLocations_eq_ok h with ⟨_, rfl⟩ | ⟨location, _, hmanager, rfl⟩
    · exact .ignored
    · exact .located hmanager
  | searchBarTextDidBeginEditing =>
    cases h
    exact .editing
  | tableViewLayout =>
    cases h
    exact .laidOut
  | cellForRowAt row =>
    simp only [handle] at h
    split_ifs at h with hrow
    · obtain ⟨cell, hcell, rfl⟩ := bind_pure_eq_ok.mp h
      exact .rendered hrow hcell
    · cases h
      exact .ignored
  | changeRoute segment =>
    simp only [handle] at h
    cases hcontrol : vc.routesSegmentedControl with
    | none =>
      rw [hcontrol] at h
      cases h
      exact .ignored
    | some control =>
      simp only [hcontrol] at h
      split_ifs at h with hsegment
      · obtain ⟨routes, route, points, hroutes, hroute, hpoints, rfl⟩ := addRouteToMap_eq_ok h
        exact .drawn hcontrol hsegment hroutes hroute hpoints
      · cases h
        exact .ignored

/-- Posting leaves every screen where it is and runs `routesReady` on some. -/
theorem post_eq_ok {rc : RouteCalculator} {screens screens' : List AddTripWithMapVC}
    (h : post rc screens = .ok screens') :
    screens'.length = screens.length ∧
    ∀ (i : ℕ) (vc' : AddTripWithMapVC), screens'[i]? = some vc' →
      ∃ vc, screens[i]? = some vc ∧
      ((vc.observing = false ∧ vc' = vc) ∨ vc.routesReady rc = .ok vc') := by
  induction screens generalizing screens' with
  | nil =>
    cases h
    exact ⟨rfl, by simp⟩
  | cons vc screens ih =>
    rw [post] at h
    obtain ⟨notified, hnotified, h⟩ := bind_eq_ok.mp h
    obtain ⟨others, hothers, rfl⟩ := bind_pure_eq_ok.mp h
    -- induction over the screens, in the order in which they are notified
    obtain ⟨hlength, hall⟩ := ih hothers
    refine ⟨by simp [hlength], ?_⟩
    intro i vc' hi
    cases i with
    -- any screen but the first is one of the others
    | succ i => exact hall i vc' hi
    | zero =>
      obtain rfl : notified = vc' := by simpa using hi
      refine ⟨vc, rfl, ?_⟩
      by_cases hobserving : vc.observing
      · exact .inr (by simpa [notify, hobserving] using hnotified)
      · have hsame : vc = notified := by simpa [notify, hobserving] using hnotified
        exact .inl ⟨by simpa using hobserving, hsame.symm⟩

end AddTripWithMapVC

/-! ## Section 2: The steps of the app -/

namespace App

variable (describe : Double → String) (realm : DateSort)

/-- What a step that does not trap does to the app.  `idle` is an event that
    finds nothing to act on; an idle Next tap met a disabled button. -/
inductive Outcome (app : App) : Event → App → Prop where
  | idle {e} (hnext : ∀ i now identityId random vc, e = .next i now identityId random →
      app.screens[i]? = some vc → vc.nextButtonIsEnabled = false) :
      Outcome app e app
  | opened : Outcome app .viewDidLoad { app with screens := app.screens ++ [.viewDidLoad] }
  | handled {i e vc vc'} (hi : app.screens[i]? = some vc)
      (h : vc.handle realm app.routeCalc app.favorites e = .ok vc') :
      Outcome app (.screen i e) (app.setScreen i vc')
  | typed {i searchText vc} (hi : app.screens[i]? = some vc) :
      Outcome app (.textDidChange i searchText)
        { app.setScreen i { vc with searchBarText := searchText } with
          queries := app.queries.issue i }
  | unpredicted {serial answer} :
      Outcome app (.autocompleteReturned serial answer)
        { app with queries := app.queries.settle serial }
  | predicted {serial i results vc} (hfind : app.queries.find serial = some i)
      (hi : app.screens[i]? = some vc) :
      Outcome app (.autocompleteReturned serial (.answered results))
        { app.setScreen i ({ vc with results := results }.reloadData realm app.favorites) with
          queries := app.queries.settle serial }
  | saved {favorites} :
      Outcome app (.favoritesChanged favorites) { app with favorites := favorites }
  | tapped {i row now id favorites vc vc'} (hi : app.screens[i]? = some vc)
      (hrow : row < vc.rows)
      (h : vc.didSelectRowAt realm app.favorites row now = .ok (id, favorites, vc')) :
      Outcome app (.didSelectRowAt i row now)
        { app.setScreen i vc' with favorites := favorites, lookups := app.lookups.issue ⟨i, id⟩ }
  | fetched {serial result request lookup vc vc' directions}
      (hfind : app.lookups.find serial = some lookup)
      (hi : app.screens[lookup.screen]? = some vc)
      (h : vc.placeFetched result = .ok (vc', request)) :
      Outcome app (.lookUpReturned serial result)
        { app.setScreen lookup.screen vc' with
          lookups := app.lookups.settle serial, directions := directions }
  | failed {serial} :
      Outcome app (.directionsReturned serial .failed)
        { app with directions := app.directions.settle serial }
  | answered {serial request routes rc route box screens}
      (hfind : app.directions.find serial = some request)
      (hroutes : rc.routes = some routes) (hfrom : rc.FromRoute id describe route box)
      (hpost : AddTripWithMapVC.post rc app.screens = .ok screens) :
      Outcome app (.directionsReturned serial (.answered (some routes)))
        { app with
          routeCalc := rc
          screens := screens
          directions := app.directions.settle serial
          answered := ⟨request, routes⟩ :: app.answered }
  | built {i now identityId random vc trip} (hi : app.screens[i]? = some vc)
      (henabled : vc.nextButtonIsEnabled = true)
      (h : vc.prepare app.routeCalc now identityId random = .ok trip) :
      Outcome app (.next i now identityId random)
        { app with built := app.built ++ [⟨trip, app.answered.head?⟩] }

variable {describe realm}

theorem outcome_directionsReturned {app app' : App} {serial : ℕ} {answer : DirectionsAnswer}
    (h : app.directionsReturned describe serial answer = .ok app') :
    Outcome describe realm app (.directionsReturned serial answer) app' := by
  unfold directionsReturned at h
  cases hfind : app.directions.find serial with
  | none =>
    rw [hfind] at h
    cases h
    exact .idle (by simp)
  | some request =>
    simp only [hfind] at h
    obtain ⟨⟨rc, posted⟩, hrc, hrest⟩ := bind_eq_ok.mp h
    -- a failure posts nothing; a response reaches every observing screen in this step
    rcases RouteCalculator.directionsHandler_eq_ok hrc with
      ⟨rfl, rfl, rfl⟩ | ⟨rfl, routes, rfl, hroutes, route, box, hfrom⟩
    · cases hrest
      exact .failed
    · obtain ⟨screens, hscreens, hrest⟩ := bind_eq_ok.mp hrest
      cases hrest
      rw [hroutes]
      exact .answered hfind hroutes hfrom hscreens

/-- **Steps.** Every step that does not trap has one of the listed outcomes. -/
theorem outcome_of_step {app app' : App} {e : Event} (h : step describe realm app e = .ok app') :
    Outcome describe realm app e app' := by
  cases e with
  | viewDidLoad =>
    cases h
    exact .opened
  | screen i e =>
    simp only [step, screenEvent] at h
    cases hi : app.screens[i]? with
    | none =>
      rw [hi] at h
      cases h
      exact .idle (by simp)
    | some vc =>
      rw [hi] at h
      obtain ⟨vc', hvc', h⟩ := bind_eq_ok.mp h
      cases h
      exact .handled hi hvc'
  | textDidChange i searchText =>
    cases h
    unfold textDidChange
    cases hi : app.screens[i]? with
    | none => exact .idle (by simp)
    | some vc => exact .typed hi
  | autocompleteReturned serial answer =>
    cases h
    unfold autocompleteReturned
    cases hfind : app.queries.find serial with
    | none => exact .idle (by simp)
    | some i =>
      cases hi : app.screens[i]? with
      | none =>
        simp only [hi]
        exact .unpredicted
      | some vc =>
        simp only [hi]
        cases answer with
        | failed => exact .unpredicted
        | answered results => exact .predicted hfind hi
  | favoritesChanged favorites =>
    cases h
    exact .saved
  | didSelectRowAt i row now =>
    simp only [step, didSelectRowAt] at h
    cases hi : app.screens[i]? with
    | none =>
      rw [hi] at h
      cases h
      exact .idle (by simp)
    | some vc =>
      simp only [hi] at h
      split_ifs at h with hshown
      · obtain ⟨⟨id, favorites, vc'⟩, hvc', h⟩ := bind_eq_ok.mp h
        cases h
        exact .tapped hi hshown.2 hvc'
      · cases h
        exact .idle (by simp)
  | lookUpReturned serial result =>
    simp only [step, lookUpReturned] at h
    cases hfind : app.lookups.find serial with
    | none =>
      rw [hfind] at h
      cases h
      exact .idle (by simp)
    | some lookup =>
      simp only [hfind] at h
      cases hi : app.screens[lookup.screen]? with
      | none =>
        rw [hi] at h
        cases h
        exact .idle (by simp)
      | some vc =>
        simp only [hi] at h
        obtain ⟨⟨vc', request⟩, hvc', h⟩ := bind_eq_ok.mp h
        cases h
        exact .fetched hfind hi hvc'
  | directionsReturned serial answer => exact outcome_directionsReturned h
  | next i now identityId random =>
    simp only [step, next] at h
    cases hi : app.screens[i]? with
    | none =>
      rw [hi] at h
      cases h
      exact .idle (by
        intro j _ _ _ vc hj hvc
        cases hj
        simp [hi] at hvc)
    | some vc =>
      simp only [hi] at h
      split_ifs at h with henabled
      · obtain ⟨trip, htrip, rfl⟩ := bind_pure_eq_ok.mp h
        exact .built hi henabled htrip
      · cases h
        exact .idle (by
          intro j _ _ _ vc' hj hvc'
          cases hj
          rw [hi] at hvc'
          cases hvc'
          simpa using henabled)

/-! ## Section 3: The screens -/

variable (realm)

/-- The ways in which the screen at `i` can change in the step `e` from `app`,
    which leaves the calculator at `rc'`. -/
inductive Moves (app : App) (rc' : RouteCalculator) (i : ℕ) :
    Event → AddTripWithMapVC → AddTripWithMapVC → Prop where
  | kept {e vc} : Moves app rc' i e vc vc
  | handled {e vc vc'} (h : vc.handle realm app.routeCalc app.favorites e = .ok vc') :
      Moves app rc' i (.screen i e) vc vc'
  | typed {searchText vc} :
      Moves app rc' i (.textDidChange i searchText) vc { vc with searchBarText := searchText }
  | predicted {serial results vc} (hfind : app.queries.find serial = some i) :
      Moves app rc' i (.autocompleteReturned serial (.answered results)) vc
        ({ vc with results := results }.reloadData realm app.favorites)
  | tapped {row now id favorites vc vc'} (hrow : row < vc.rows)
      (h : vc.didSelectRowAt realm app.favorites row now = .ok (id, favorites, vc')) :
      Moves app rc' i (.didSelectRowAt i row now) vc vc'
  | fetched {serial result request lookup vc vc'}
      (hfind : app.lookups.find serial = some lookup) (hi : lookup.screen = i)
      (h : vc.placeFetched result = .ok (vc', request)) :
      Moves app rc' i (.lookUpReturned serial result) vc vc'
  | notified {serial answer vc vc'} (h : vc.routesReady rc' = .ok vc') :
      Moves app rc' i (.directionsReturned serial answer) vc vc'

variable {realm}

/-- What a step does to the screens when it changes the one at `j`. -/
theorem moves_set {app : App} {e : Event} {rc' : RouteCalculator} {j : ℕ}
    {vc₀ vc₀' : AddTripWithMapVC} (hj : app.screens[j]? = some vc₀)
    (hmove : Moves realm app rc' j e vc₀ vc₀') {i : ℕ} {vc' : AddTripWithMapVC}
    (hi : (app.screens.set j vc₀')[i]? = some vc') :
    ∃ vc, app.screens[i]? = some vc ∧ Moves realm app rc' i e vc vc' := by
  by_cases hij : j = i
  · subst hij
    -- the step's own screen moves, every other one is kept
    have hlt : j < app.screens.length := (List.getElem?_eq_some_iff.mp hj).1
    rw [List.getElem?_set_self hlt] at hi
    cases hi
    exact ⟨vc₀, hj, hmove⟩
  · rw [List.getElem?_set_ne hij] at hi
    exact ⟨vc', hi, .kept⟩

/-- **Screens.** After a step every screen is new, or comes from the screen at
    the same place by one of the listed moves. -/
theorem screens_of_step {app app' : App} {e : Event}
    (h : step describe realm app e = .ok app') {i : ℕ} {vc' : AddTripWithMapVC}
    (hi : app'.screens[i]? = some vc') :
    (e = .viewDidLoad ∧ app.screens[i]? = none ∧ vc' = .viewDidLoad) ∨
    ∃ vc, app.screens[i]? = some vc ∧ Moves realm app app'.routeCalc i e vc vc' := by
  cases outcome_of_step h with
  | opened =>
    -- the new screen is the last one
    by_cases hlt : i < app.screens.length
    · rw [List.getElem?_append_left hlt] at hi
      exact .inr ⟨vc', hi, .kept⟩
    · rw [List.getElem?_append_right (by omega), List.getElem?_singleton] at hi
      split_ifs at hi with hfirst
      cases hi
      exact .inl ⟨rfl, List.getElem?_eq_none (by omega), rfl⟩
  | handled hj hvc => exact .inr (moves_set hj (.handled hvc) hi)
  | typed hj => exact .inr (moves_set hj .typed hi)
  | predicted hfind hj => exact .inr (moves_set hj (.predicted hfind) hi)
  | tapped hj hrow hvc => exact .inr (moves_set hj (.tapped hrow hvc) hi)
  | fetched hfind hj hvc => exact .inr (moves_set hj (.fetched hfind rfl hvc) hi)
  | answered _ _ _ hpost =>
    obtain ⟨vc, hvc, hkept | hready⟩ := (AddTripWithMapVC.post_eq_ok hpost).2 i vc' hi
    · rw [hkept.2]
      exact .inr ⟨vc, hvc, .kept⟩
    · exact .inr ⟨vc, hvc, .notified hready⟩
  | idle _ => exact .inr ⟨vc', hi, .kept⟩
  | unpredicted => exact .inr ⟨vc', hi, .kept⟩
  | saved => exact .inr ⟨vc', hi, .kept⟩
  | failed => exact .inr ⟨vc', hi, .kept⟩
  | built _ _ _ => exact .inr ⟨vc', hi, .kept⟩

/-- Only `viewDidLoad` opens a screen. -/
theorem screens_length_of_step {app app' : App} {e : Event}
    (h : step describe realm app e = .ok app') (hne : e ≠ .viewDidLoad) :
    app'.screens.length = app.screens.length := by
  cases outcome_of_step h with
  | opened => exact absurd rfl hne
  | answered _ _ _ hpost => exact (AddTripWithMapVC.post_eq_ok hpost).1
  | idle _ => rfl
  | unpredicted => rfl
  | saved => rfl
  | failed => rfl
  | built _ _ _ => rfl
  | _ => exact List.length_set

/-! ## Section 4: The calculator and the trips -/

/-- The calculator and the history of answers change together. -/
theorem answered_of_step {app app' : App} {e : Event}
    (h : step describe realm app e = .ok app') :
    (app'.routeCalc = app.routeCalc ∧ app'.answered = app.answered) ∨
    ∃ request routes, app'.answered = ⟨request, routes⟩ :: app.answered ∧
      app'.routeCalc.routes = some routes ∧
      ∃ route box, app'.routeCalc.FromRoute id describe route box := by
  cases outcome_of_step h with
  | answered _ hroutes hfrom _ => exact .inr ⟨_, _, rfl, hroutes, _, _, hfrom⟩
  | _ => exact .inl ⟨rfl, rfl⟩

/-- Trips are only built by a Next tap on an enabled button. -/
theorem built_of_step {app app' : App} {e : Event} (h : step describe realm app e = .ok app') :
    (app'.built = app.built ∧ ∀ i now identityId random vc, e = .next i now identityId random →
      app.screens[i]? = some vc → vc.nextButtonIsEnabled = false) ∨
    ∃ i now identityId random vc trip, e = .next i now identityId random ∧
      app.screens[i]? = some vc ∧ vc.nextButtonIsEnabled = true ∧
      vc.prepare app.routeCalc now identityId random = .ok trip ∧
      app'.built = app.built ++ [⟨trip, app.answered.head?⟩] := by
  cases outcome_of_step h with
  | built hi henabled htrip => exact .inr ⟨_, _, _, _, _, _, rfl, hi, henabled, htrip, rfl⟩
  | idle hnext => exact .inl ⟨rfl, hnext⟩
  | _ => exact .inl ⟨rfl, by simp⟩

end App

end RideHitch
