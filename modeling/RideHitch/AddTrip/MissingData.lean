import RideHitch.AddTrip.Coherence

/-! # The forced unwraps of the add-trip flow

    `prepare`, `calculateRouteToPlace` and `didUpdateLocations` unwrap four
    optionals by force.  Section 1 shows that no other handler traps on one of
    them, Section 2 says exactly which steps do. -/

namespace RideHitch

/-- The process stopped because one of the four optionals was nil. -/
def Trap.MissingData : Trap → Prop
  | .foundNil .currentLocation => True
  | .foundNil .currentResult => True
  | .foundNil .routePolygonValues => True
  | .foundNil .locationManager => True
  | _ => False

/-! ## Section 1: What each handler can trap on -/

namespace RouteCalculator

variable {describe : Double → String}

theorem directionsHandler_free (rc : RouteCalculator) (answer : DirectionsAnswer) :
    Free Trap.MissingData (directionsHandler id describe rc answer) := by
  cases answer with
  | failed => exact free_ok _
  | answered routes =>
    -- the encoder never traps, and the other unwraps are of other optionals
    have hgeohash : ∀ box : Box, Free Trap.MissingData (box.geohash id) := by
      intro box
      obtain ⟨hash, hhash⟩ := box.geohash_ok id
      rw [hhash]
      exact free_ok hash
    have hfirst : ∀ routes : Option (List MKRoute),
        Free Trap.MissingData (optionalSubscript routes 0) := by
      intro routes
      apply free_optionalSubscript
      simp [Trap.MissingData]
    simp [directionsHandler, calculatePolygonForRoute, boundingBox, free_bind, free_unwrap,
      Trap.MissingData, hgeohash, hfirst, pure_eq_ok]

end RouteCalculator

namespace AddTripWithMapVC

variable {describe : Double → String} {realm : DateSort}

theorem addRouteToMap_free (rc : RouteCalculator) (vc : AddTripWithMapVC) (withIndex : ℕ) :
    Free Trap.MissingData (vc.addRouteToMap rc withIndex) := by
  have hroute : ∀ routes : List MKRoute, Free Trap.MissingData (subscript routes withIndex) := by
    intro routes
    apply free_subscript
    simp [Trap.MissingData]
  simp [addRouteToMap, free_bind, free_unwrap, Trap.MissingData, hroute, pure_eq_ok]

theorem notify_free (rc : RouteCalculator) (vc : AddTripWithMapVC) :
    Free Trap.MissingData (vc.notify rc) := by
  have htitles : Free Trap.MissingData (segmentTitles rc) := by
    unfold segmentTitles
    cases rc.routes with
    | none => exact free_ok []
    | some routes =>
      by_cases hcount : routes.length < 1
      · simp [hcount, Trap.MissingData]
      · simp [hcount]
  unfold notify
  by_cases hobserving : vc.observing
  · simp [hobserving, routesReady, addSegmentedControl, free_bind, htitles, addRouteToMap_free,
      pure_eq_ok]
  · simp [hobserving]

theorem post_free (rc : RouteCalculator) (screens : List AddTripWithMapVC) :
    Free Trap.MissingData (post rc screens) := by
  induction screens with
  | nil => exact free_ok []
  | cons vc screens ih => simp [post, free_bind, notify_free, ih, pure_eq_ok]

theorem cellForRowAt_free (favorites : List FavoritePlace) (vc : AddTripWithMapVC) (row : ℕ) :
    Free Trap.MissingData (vc.cellForRowAt realm favorites row) := by
  have hindex : ¬ Trap.MissingData .indexOutOfRange := by simp [Trap.MissingData]
  unfold cellForRowAt
  by_cases htext : vc.searchBarText = ""
  · simp [htext, free_bind, free_subscript hindex, pure_eq_ok]
  · simp [htext, free_bind, free_optionalSubscript hindex, pure_eq_ok]

theorem didSelectRowAt_free (favorites : List FavoritePlace) (vc : AddTripWithMapVC) (row : ℕ)
    (now : NSDate) : Free Trap.MissingData (vc.didSelectRowAt realm favorites row now) := by
  have hindex : ¬ Trap.MissingData .indexOutOfRange := by simp [Trap.MissingData]
  have hselected : Free Trap.MissingData (vc.selectedPlace realm favorites row) := by
    unfold selectedPlace
    by_cases htext : vc.searchBarText = ""
    · simp [htext, free_bind, free_subscript hindex, pure_eq_ok]
    · simp [htext, free_bind, free_unwrap, free_optionalSubscript hindex, Trap.MissingData,
        pure_eq_ok]
  have hfetch : ∀ prediction, Free Trap.MissingData
      (GooglePlaceFetcher.fetchPlaceForAutocompletePrediction realm favorites prediction now) := by
    intro prediction
    cases prediction with
    | none => exact free_ok favorites
    | some prediction =>
      simp [GooglePlaceFetcher.fetchPlaceForAutocompletePrediction, free_bind, free_unwrap,
        Trap.MissingData, RealmInteractor.saveFavoritePlace_eq]
  simp [didSelectRowAt, free_bind, hselected, hfetch, pure_eq_ok]

/-- Only a location update that finds no manager misses data. -/
theorem didUpdateLocations_free_iff (vc : AddTripWithMapVC)
    (locations : List CLLocationCoordinate2D) :
    Free Trap.MissingData (vc.didUpdateLocations locations) ↔
      (locations ≠ [] → vc.locationManager.isSome) := by
  unfold didUpdateLocations
  cases hlast : locations.getLast? with
  | none => simp [List.getLast?_eq_none_iff.mp hlast]
  | some location =>
    have hne : locations ≠ [] := by
      rintro rfl
      cases hlast
    simp [free_bind, free_unwrap, Trap.MissingData, hne, pure_eq_ok]

/-- Only a lookup that found a place needs the current location. -/
theorem placeFetched_free_iff (vc : AddTripWithMapVC) (result : Option GMSPlace) :
    Free Trap.MissingData (vc.placeFetched result) ↔
      (result.isSome → vc.currentLocation.isSome) := by
  cases result with
  | none => simp [placeFetched, addPlaceToMap, pure_eq_ok]
  | some place =>
    simp [placeFetched, addPlaceToMap, calculateRouteToPlace, free_bind, free_unwrap,
      Trap.MissingData, pure_eq_ok]

theorem prepare_free_iff (rc : RouteCalculator) (vc : AddTripWithMapVC) (now : Double)
    (identityId : String) (random : UInt32) :
    Free Trap.MissingData (vc.prepare rc now identityId random) ↔
      vc.currentLocation.isSome ∧ vc.currentResult.isSome ∧ rc.routePolygonValues.isSome := by
  cases hlocation : vc.currentLocation with
  | none => simp [prepare, hlocation, Trap.MissingData]
  | some location =>
    cases hresult : vc.currentResult with
    | none => simp [prepare, hlocation, hresult, Trap.MissingData]
    | some place =>
      simp [prepare, hlocation, hresult, free_bind, free_unwrap, Trap.MissingData, pure_eq_ok]

theorem handle_free_iff (rc : RouteCalculator) (favorites : List FavoritePlace)
    (vc : AddTripWithMapVC) (e : ScreenEvent) :
    Free Trap.MissingData (vc.handle realm rc favorites e) ↔
      ∀ locations, e = .didUpdateLocations locations → locations ≠ [] →
        vc.locationManager.isSome := by
  cases e with
  | didUpdateLocations locations => simp [handle, didUpdateLocations_free_iff]
  | cellForRowAt row =>
    unfold handle
    by_cases hrow : row < vc.rows
    · simp [hrow, free_bind, cellForRowAt_free, pure_eq_ok]
    · simp [hrow]
  | changeRoute segment =>
    unfold handle
    cases hcontrol : vc.routesSegmentedControl with
    | none => simp
    | some control =>
      by_cases hsegment : segment < control.segments.length
      · simp [hsegment, changeRoute, addRouteToMap_free]
      · simp [hsegment]
  | _ => simp [handle]

end AddTripWithMapVC

/-! ## Section 2: The steps that miss data -/

namespace App

variable {describe : Double → String} {realm : DateSort}

/-- A delivered location finds the manager, a found place finds the screen
    located, a Next tap on an enabled button finds a place. -/
def HasData (app : App) : Event → Prop
  | .screen i (.didUpdateLocations locations) => ∀ vc : AddTripWithMapVC,
      app.screens[i]? = some vc → locations ≠ [] → vc.locationManager.isSome
  | .lookUpReturned serial (some _) => ∀ lookup, app.lookups.find serial = some lookup →
      ∀ vc : AddTripWithMapVC, app.screens[lookup.screen]? = some vc → vc.currentLocation.isSome
  | .next i _ _ _ => ∀ vc : AddTripWithMapVC, app.screens[i]? = some vc →
      vc.nextButtonIsEnabled = true → vc.currentResult.isSome
  | _ => True

theorem screenEvent_free_iff (app : App) (i : ℕ) (e : AddTripWithMapVC.ScreenEvent) :
    Free Trap.MissingData (app.screenEvent realm i e) ↔ app.HasData (.screen i e) := by
  unfold screenEvent
  cases hi : app.screens[i]? with
  | none =>
    cases e with
    | didUpdateLocations locations => simp [HasData, hi]
    | _ => simp [HasData]
  | some vc =>
    simp only [free_bind, AddTripWithMapVC.handle_free_iff, pure_eq_ok, free_ok, implies_true,
      and_true]
    cases e with
    | didUpdateLocations locations => simp [HasData, hi]
    | _ => simp [HasData]

theorem didSelectRowAt_free (app : App) (i row : ℕ) (now : NSDate) :
    Free Trap.MissingData (app.didSelectRowAt realm i row now) := by
  unfold didSelectRowAt
  cases app.screens[i]? with
  | none => exact free_ok app
  | some vc =>
    by_cases hshown : vc.tableViewIsHidden = false ∧ row < vc.rows
    · simp [hshown, free_bind, AddTripWithMapVC.didSelectRowAt_free, pure_eq_ok]
    · simp [hshown]

theorem lookUpReturned_free_iff (app : App) (serial : ℕ) (result : Option GMSPlace) :
    Free Trap.MissingData (app.lookUpReturned serial result) ↔
      app.HasData (.lookUpReturned serial result) := by
  unfold lookUpReturned
  cases hfind : app.lookups.find serial with
  | none =>
    cases result with
    | none => simp [HasData]
    | some place => simp [HasData, hfind]
  | some lookup =>
    cases hi : app.screens[lookup.screen]? with
    | none =>
      cases result with
      | none => simp [HasData, hi]
      | some place => simp [HasData, hfind, hi]
    | some vc =>
      simp only [hi, free_bind, AddTripWithMapVC.placeFetched_free_iff, pure_eq_ok, free_ok,
        implies_true, and_true]
      cases result with
      | none => simp [HasData]
      | some place => simp [HasData, hfind, hi]

theorem directionsReturned_free (app : App) (serial : ℕ) (answer : DirectionsAnswer) :
    Free Trap.MissingData (app.directionsReturned describe serial answer) := by
  unfold directionsReturned
  cases app.directions.find serial with
  | none => exact free_ok app
  | some request =>
    rw [free_bind]
    refine ⟨RouteCalculator.directionsHandler_free app.routeCalc answer, ?_⟩
    rintro ⟨rc, posted⟩ _
    cases posted with
    | false => exact free_ok _
    | true => simp [routeCalculated, free_bind, AddTripWithMapVC.post_free, pure_eq_ok]

/-- The invariant of the flow leaves only the place to ask for. -/
theorem next_free_iff {app : App} (hinv : app.FlowInv describe) (i : ℕ) (now : Double)
    (identityId : String) (random : UInt32) :
    Free Trap.MissingData (app.next i now identityId random) ↔
      app.HasData (.next i now identityId random) := by
  unfold next
  cases hi : app.screens[i]? with
  | none => simp [HasData, hi]
  | some vc =>
    by_cases henabled : vc.nextButtonIsEnabled
    · -- an enabled button has seen an answer, so the polygon values are there
      have hvalues : app.routeCalc.routePolygonValues.isSome := by
        rcases hinv.derived with ⟨hanswered, _⟩ | ⟨_, _, _, _, _, _, hfrom⟩
        · exact absurd hanswered (hinv.button i vc hi henabled)
        · simp [hfrom.values]
      -- a screen with a place knows its location: the place is all that can be missing
      have hplace := hinv.place i vc hi
      simp only [henabled, if_true, free_bind, AddTripWithMapVC.prepare_free_iff, pure_eq_ok,
        free_ok, implies_true, and_true, hvalues]
      constructor
      · rintro ⟨_, hresult⟩ vc' hi' _
        rw [hi] at hi'
        cases hi'
        exact hresult
      · intro hdata
        have hresult := hdata vc hi henabled
        exact ⟨hplace hresult, hresult⟩
    · simp [HasData, hi, henabled]

/-- **One step** misses data exactly when it does not have it. -/
theorem step_free_iff {app : App} (hinv : app.FlowInv describe) (e : Event) :
    app.HasData e ↔ Free Trap.MissingData (step describe realm app e) := by
  cases e with
  | screen i e => exact (screenEvent_free_iff app i e).symm
  | didSelectRowAt i row now => exact iff_of_true trivial (didSelectRowAt_free app i row now)
  | lookUpReturned serial result => exact (lookUpReturned_free_iff app serial result).symm
  | directionsReturned serial answer =>
    exact iff_of_true trivial (directionsReturned_free app serial answer)
  | next i now identityId random => exact (next_free_iff hinv i now identityId random).symm
  | _ => exact iff_of_true trivial (free_ok _)

/-- **No missing data.** A run never stops at a nil `currentLocation`,
    `currentResult`, `routePolygonValues` or `locationManager` exactly when all
    its steps have their data. -/
theorem no_missing_data_iff (es : List Event) :
    (∀ t, (machine describe realm).run {} es = .error t → ¬ t.MissingData) ↔
      (machine describe realm).Meets HasData {} es := by
  have hinv : ∀ app e app', app.FlowInv describe →
      (machine describe realm).step app e = .ok app' → app'.FlowInv describe := by
    intro app e app' hinv hstep
    exact flowInv_step hinv hstep
  have htrap : ∀ app e, app.FlowInv describe → (app.HasData e ↔
      ∀ t, (machine describe realm).step app e = .error t → ¬ t.MissingData) := by
    intro app e hinv
    exact step_free_iff hinv e
  exact Machine.no_trap_iff_meets hinv htrap flowInv_init

/-- A second location was already queued when the first one stopped the updates;
    a place is found while access to the location is refused; a lookup completes
    with nil while the button is still enabled. -/
theorem data_missing :
    (machine describeCorner (.insertion _)).run {}
        [.viewDidLoad, .screen 0 .locationAgreed, .screen 0 (.didUpdateLocations [⟨0, 0⟩]),
         .screen 0 (.didUpdateLocations [⟨0, 0⟩])] = .error (.foundNil .locationManager) ∧
    (machine describeCorner (.insertion _)).run {}
        [.viewDidLoad, .screen 0 .locationRejected, .favoritesChanged [⟨"Airport", "A", 0⟩],
         .screen 0 .searchBarTextDidBeginEditing, .didSelectRowAt 0 0 100,
         .lookUpReturned 0 (some ⟨"Airport", ⟨1, 1⟩⟩)] = .error (.foundNil .currentLocation) ∧
    (machine describeCorner (.insertion _)).run {}
        (firstRoute ++ [.screen 0 .searchBarTextDidBeginEditing, .didSelectRowAt 0 0 300,
         .lookUpReturned 1 none, .next 0 400 "user" 8]) = .error (.foundNil .currentResult) := by
  refine ⟨?_, ?_, ?_⟩
  · exact Machine.run_eq_error _ (by decide +kernel)
  · exact Machine.run_eq_error _ (by decide +kernel)
  · exact Machine.run_eq_error _ (by decide +kernel)

end App

end RideHitch
