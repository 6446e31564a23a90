import RideHitch.AddTrip.Coherence
import RideHitch.RoutePolygon

/-! # Alternatives and the segmented control

    A response to a directions request lists alternative routes.  The polygon is
    derived when the response arrives, from the first of them; the control that
    chooses among them is built by the screens that observe at that moment.

    Section 2 follows one response through any choices, Section 3 any run of the
    app, in which a response can arrive while a screen with a control is covered. -/

namespace RideHitch

/-! ## Section 1: Drawing that goes through -/

namespace AddTripWithMapVC

variable {realm : DateSort}

theorem addRouteToMap_ok {rc : RouteCalculator} {routes : List MKRoute} {route : MKRoute}
    {points : List CLLocationCoordinate2D} {withIndex : ℕ} (vc : AddTripWithMapVC)
    (hroutes : rc.routes = some routes) (hroute : routes[withIndex]? = some route)
    (hpoints : rc.routePolygonPoints = some points) :
    vc.addRouteToMap rc withIndex = .ok { vc with
      nextButtonIsEnabled := true
      overlays := [.polyline route, .polygon points] } := by
  simp only [addRouteToMap, hroutes, unwrap_some, ok_bind, subscript_eq_ok.mpr hroute, hpoints]
  rfl

/-- A tap on a segment that is there draws at its index. -/
theorem handle_changeRoute (rc : RouteCalculator) (favorites : List FavoritePlace)
    {vc : AddTripWithMapVC} {control : UISegmentedControl} {segment : ℕ}
    (hcontrol : vc.routesSegmentedControl = some control)
    (hsegment : segment < control.segments.length) :
    vc.handle realm rc favorites (.changeRoute segment) =
      addRouteToMap rc { vc with
        routesSegmentedControl := some { control with selectedSegmentIndex := segment } }
        segment := by
  simp only [handle, hcontrol, hsegment, if_true]
  rfl

variable (realm) in
theorem handle_changeRoute_ok {rc : RouteCalculator} (favorites : List FavoritePlace)
    {vc : AddTripWithMapVC} {control : UISegmentedControl} {segment : ℕ} {routes : List MKRoute}
    {route : MKRoute} {points : List CLLocationCoordinate2D}
    (hcontrol : vc.routesSegmentedControl = some control)
    (hsegment : segment < control.segments.length) (hroutes : rc.routes = some routes)
    (hroute : routes[segment]? = some route) (hpoints : rc.routePolygonPoints = some points) :
    ∃ vc', vc.handle realm rc favorites (.changeRoute segment) = .ok vc' ∧
      vc'.routesSegmentedControl = some { control with selectedSegmentIndex := segment } ∧
      vc'.overlays = [.polyline route, .polygon points] := by
  rw [handle_changeRoute rc favorites hcontrol hsegment,
    addRouteToMap_ok _ hroutes hroute hpoints]
  exact ⟨_, rfl, rfl, rfl⟩

theorem routesReady_ok {rc : RouteCalculator} {first : MKRoute} {others : List MKRoute}
    {points : List CLLocationCoordinate2D} (vc : AddTripWithMapVC)
    (hroutes : rc.routes = some (first :: others))
    (hpoints : rc.routePolygonPoints = some points) :
    ∃ vc', vc.routesReady rc = .ok vc' := by
  have htitles : ∃ segments, segmentTitles rc = .ok segments := by
    simp only [segmentTitles, hroutes]
    exact ⟨_, if_neg (by simp)⟩
  obtain ⟨segments, hsegments⟩ := htitles
  simp only [routesReady, addSegmentedControl, hsegments, ok_bind, pure_eq_ok,
    addRouteToMap_ok _ hroutes List.getElem?_cons_zero hpoints]
  exact ⟨_, rfl⟩

/-- Posting goes through once there is a route and a polygon. -/
theorem post_ok {rc : RouteCalculator} {first : MKRoute} {others : List MKRoute}
    {points : List CLLocationCoordinate2D} (screens : List AddTripWithMapVC)
    (hroutes : rc.routes = some (first :: others))
    (hpoints : rc.routePolygonPoints = some points) :
    ∃ screens', post rc screens = .ok screens' := by
  induction screens with
  | nil => exact ⟨[], rfl⟩
  | cons vc screens ih =>
    obtain ⟨others', hothers'⟩ := ih
    have hnotify : ∃ vc', vc.notify rc = .ok vc' := by
      unfold notify
      split_ifs with hobserving
      · exact routesReady_ok vc hroutes hpoints
      · exact ⟨vc, rfl⟩
    obtain ⟨vc', hvc'⟩ := hnotify
    simp only [post, hvc', hothers', ok_bind]
    exact ⟨_, rfl⟩

/-- An observing screen is notified. -/
theorem routesReady_of_post {rc : RouteCalculator} {screens screens' : List AddTripWithMapVC}
    {i : ℕ} {vc : AddTripWithMapVC} (h : post rc screens = .ok screens')
    (hi : screens[i]? = some vc) (hobserving : vc.observing = true) :
    ∃ vc', screens'[i]? = some vc' ∧ vc.routesReady rc = .ok vc' := by
  obtain ⟨hlength, hnotified⟩ := post_eq_ok h
  have hlt : i < screens'.length := by
    have hlt' := (List.getElem?_eq_some_iff.mp hi).1
    omega
  have hi' : screens'[i]? = some screens'[i] := List.getElem?_eq_getElem hlt
  obtain ⟨vc₀, hvc₀, hkept⟩ := hnotified i screens'[i] hi'
  obtain rfl := Option.some.inj (hvc₀.symm.trans hi)
  rcases hkept with ⟨hidle, _⟩ | hready
  · simp [hobserving] at hidle
  · exact ⟨screens'[i], hi', hready⟩

theorem prepare_ok {rc : RouteCalculator} {vc : AddTripWithMapVC}
    {origin : CLLocationCoordinate2D} {destination : GMSPlace} {values : List String}
    (horigin : vc.currentLocation = some origin)
    (hdestination : vc.currentResult = some destination)
    (hvalues : rc.routePolygonValues = some values) (now : Double) (identityId : String)
    (random : UInt32) :
    ∃ trip, vc.prepare rc now identityId random = .ok trip ∧
      trip.polygon = ",".intercalate values := by
  simp only [prepare, horigin, hdestination, hvalues, unwrap_some, ok_bind]
  exact ⟨_, rfl, rfl⟩

end AddTripWithMapVC

/-- Both routes reach equally far north, south, east and west. -/
def MKRoute.SameExtremes (route route' : MKRoute) : Prop :=
  (route.polyline.map (·.latitude)).min? = (route'.polyline.map (·.latitude)).min? ∧
  (route.polyline.map (·.latitude)).max? = (route'.polyline.map (·.latitude)).max? ∧
  (route.polyline.map (·.longitude)).min? = (route'.polyline.map (·.longitude)).min? ∧
  (route.polyline.map (·.longitude)).max? = (route'.polyline.map (·.longitude)).max?

theorem RouteCalculator.boundingBox_eq_ok_iff_sameExtremes {route first : MKRoute} {box : Box}
    (h : boundingBox id first.polyline = .ok box) :
    boundingBox id route.polyline = .ok box ↔ route.SameExtremes first := by
  rw [boundingBox_eq_ok_iff] at h ⊢
  obtain ⟨hminX, hmaxX, hminY, hmaxY⟩ := h
  unfold MKRoute.SameExtremes
  rw [hminX, hmaxX, hminY, hmaxY]

/-! ## Section 2: Choices after one response -/

namespace App

variable {describe : Double → String} {realm : DateSort}

/-- The user chooses segment `k` on screen `i`. -/
def choose (i k : ℕ) : Event := .screen i (.changeRoute k)

variable (describe) in
/-- Screen `i` draws the route and its tight box, and a trip handed to the next
    screen carries that box. -/
structure PolygonOf (app : App) (i : ℕ) (route : MKRoute) : Prop where
  shown : ∃ vc box, app.screens[i]? = some vc ∧ RouteCalculator.Tight route.polyline box ∧
    vc.overlays = [.polyline route, .polygon box.points] ∧
    ∀ origin destination, vc.currentLocation = some origin →
      vc.currentResult = some destination → ∀ now identityId random,
      ∃ trip, vc.prepare app.routeCalc now identityId random = .ok trip ∧
        trip.polygon = ",".intercalate (box.values describe)

variable (describe) in
/-- The calculator holds the routes and a box, and screen `i` draws the route of
    segment `k` together with that box. -/
structure Chosen (app : App) (i : ℕ) (routes : List MKRoute) (box : RouteCalculator.Box)
    (k : ℕ) : Prop where
  held : app.routeCalc.routes = some routes
  points : app.routeCalc.routePolygonPoints = some box.points
  values : app.routeCalc.routePolygonValues = some (box.values describe)
  drawn : ∃ vc control route, app.screens[i]? = some vc ∧
    vc.routesSegmentedControl = some control ∧ control.segments.length = routes.length ∧
    routes[k]? = some route ∧ vc.overlays = [.polyline route, .polygon box.points]

/-- What is shown belongs to the chosen route exactly if the box is its box. -/
theorem Chosen.polygonOf_iff {app : App} {i k : ℕ} {routes : List MKRoute}
    {box : RouteCalculator.Box} {route : MKRoute} (h : app.Chosen describe i routes box k)
    (hroute : routes[k]? = some route) :
    app.PolygonOf describe i route ↔ RouteCalculator.boundingBox id route.polyline = .ok box := by
  obtain ⟨vc, control, route', hi, _, _, hroute', hoverlays⟩ := h.drawn
  obtain rfl := Option.some.inj (hroute'.symm.trans hroute)
  rw [RouteCalculator.boundingBox_eq_ok_iff_tight]
  constructor
  · intro hpolygon
    obtain ⟨vc', box', hi', htight, hoverlays', _⟩ := hpolygon
    obtain rfl := Option.some.inj (hi'.symm.trans hi)
    have hbox : box' = box := by
      apply RouteCalculator.Box.points_injective
      simpa using hoverlays'.symm.trans hoverlays
    exact hbox ▸ htight
  · intro htight
    refine ⟨vc, box, hi, htight, hoverlays, ?_⟩
    intro origin destination horigin hdestination now identityId random
    exact AddTripWithMapVC.prepare_ok horigin hdestination h.values now identityId random

variable (describe realm) in
/-- A response with points in its first route goes through. -/
theorem directionsReturned_ok {app : App} {serial : ℕ} {request : MKDirectionsRequest}
    (hfind : app.directions.find serial = some request) {first : MKRoute}
    (others : List MKRoute) (hpoints : first.polyline ≠ []) :
    ∃ rc box screens, rc.routes = some (first :: others) ∧ rc.FromRoute id describe first box ∧
      AddTripWithMapVC.post rc app.screens = .ok screens ∧
      step describe realm app
        (.directionsReturned serial (.answered (some (first :: others)))) = .ok
          { app with
            routeCalc := rc
            screens := screens
            directions := app.directions.settle serial
            answered := ⟨request, first :: others⟩ :: app.answered } := by
  obtain ⟨rc, box, hrc, hroutes, hfrom⟩ :=
    RouteCalculator.directionsHandler_ok id describe app.routeCalc others hpoints
  obtain ⟨screens, hscreens⟩ := AddTripWithMapVC.post_ok app.screens hroutes hfrom.points
  refine ⟨rc, box, screens, hroutes, hfrom, hscreens, ?_⟩
  simp only [step, directionsReturned, hfind, hrc, ok_bind, if_true, routeCalculated, hscreens,
    hroutes]
  rfl

variable (describe realm) in
/-- The response that an observing screen waits for is stored and drawn. -/
theorem chosen_of_response {app : App} {serial : ℕ} {request : MKDirectionsRequest} {i : ℕ}
    {vc : AddTripWithMapVC} (hfind : app.directions.find serial = some request)
    (hi : app.screens[i]? = some vc) (hobserving : vc.observing = true) {first : MKRoute}
    (others : List MKRoute) (hpoints : first.polyline ≠ []) :
    ∃ app' box, step describe realm app
        (.directionsReturned serial (.answered (some (first :: others)))) = .ok app' ∧
      RouteCalculator.boundingBox id first.polyline = .ok box ∧
      app'.Chosen describe i (first :: others) box 0 := by
  obtain ⟨rc, box, screens, hroutes, hfrom, hscreens, hstep⟩ :=
    directionsReturned_ok describe realm hfind others hpoints
  obtain ⟨vc', hi', hready⟩ := AddTripWithMapVC.routesReady_of_post hscreens hi hobserving
  obtain ⟨routes', route', points', hroutes', hroute', hpoints', segments, hsegments, rfl⟩ :=
    AddTripWithMapVC.routesReady_eq_ok hready
  obtain rfl := Option.some.inj (hroutes'.symm.trans hroutes)
  obtain rfl := Option.some.inj (hpoints'.symm.trans hfrom.points)
  exact ⟨_, box, hstep, hfrom.bounds, hroutes, hfrom.points, hfrom.values, _, _, route', hi', rfl,
    hsegments, hroute', rfl⟩

variable (realm) in
/-- A choice redraws the line and leaves the box. -/
theorem chosen_of_choice {app : App} {i k₀ k : ℕ} {routes : List MKRoute}
    {box : RouteCalculator.Box} (h : app.Chosen describe i routes box k₀)
    (hk : k < routes.length) :
    ∃ app', step describe realm app (choose i k) = .ok app' ∧
      app'.Chosen describe i routes box k := by
  obtain ⟨vc, control, _, hi, hcontrol, hsegments, _, _⟩ := h.drawn
  have hroute : routes[k]? = some routes[k] := List.getElem?_eq_getElem hk
  obtain ⟨vc', hhandle, hcontrol', hoverlays⟩ := AddTripWithMapVC.handle_changeRoute_ok
    realm app.favorites hcontrol (hsegments ▸ hk) h.held hroute h.points
  have hlt : i < app.screens.length := (List.getElem?_eq_some_iff.mp hi).1
  have hstep : step describe realm app (choose i k) = .ok (app.setScreen i vc') := by
    simp only [choose, step, screenEvent, hi, hhandle, ok_bind]
    rfl
  exact ⟨app.setScreen i vc', hstep, h.held, h.points, h.values, vc', _, routes[k],
    List.getElem?_set_self hlt, hcontrol', hsegments, hroute, hoverlays⟩

variable (realm) in
/-- **Choices.** After any choices the last segment chosen is the one drawn, still
    with the box of the response. -/
theorem chosen_of_choices {app : App} {i k₀ : ℕ} {routes : List MKRoute}
    {box : RouteCalculator.Box} (h : app.Chosen describe i routes box k₀) {choices : List ℕ}
    (hchoices : ∀ k ∈ choices, k < routes.length) :
    ∃ app', (machine describe realm).run app (choices.map (choose i)) = .ok app' ∧
      app'.Chosen describe i routes box (choices.getLast?.getD k₀) := by
  induction choices generalizing app k₀ with
  | nil => exact ⟨app, rfl, h⟩
  | cons k choices ih =>
    obtain ⟨hk, hrest⟩ := List.forall_mem_cons.mp hchoices
    obtain ⟨app₁, hstep, h₁⟩ := chosen_of_choice realm h hk
    obtain ⟨app', hrun, h'⟩ := ih h₁ hrest
    refine ⟨app', ?_, ?_⟩
    · rw [List.map_cons, Machine.run_cons_of_ok _ _ hstep]
      exact hrun
    · rw [List.getLast?_cons]
      exact h'

/-- **Polygon of the choice.** A response with at least one route, all with points,
    arrives while screen `i` observes.  After it and after each of any choices the
    polygon belongs to the chosen route exactly if every route ever chosen has the
    same extremes as the first. -/
theorem polygonOf_choice_iff {app : App} {serial : ℕ} {request : MKDirectionsRequest} {i : ℕ}
    {vc : AddTripWithMapVC} (hfind : app.directions.find serial = some request)
    (hi : app.screens[i]? = some vc) (hobserving : vc.observing = true) {first : MKRoute}
    {others : List MKRoute} (hpoints : ∀ route ∈ first :: others, route.polyline ≠ [])
    {choices : List ℕ} (hchoices : ∀ k ∈ choices, k < (first :: others).length) :
    (∀ earlier, earlier <+: choices → ∃ app' route,
      (machine describe realm).run app
        (.directionsReturned serial (.answered (some (first :: others))) ::
          earlier.map (choose i)) = .ok app' ∧
      (first :: others)[earlier.getLast?.getD 0]? = some route ∧
      app'.PolygonOf describe i route) ↔
    ∀ k ∈ choices, ∀ route, (first :: others)[k]? = some route → route.SameExtremes first := by
  obtain ⟨app₁, box, hstep, hbox, hchosen⟩ := chosen_of_response describe realm hfind hi
    hobserving others (hpoints first List.mem_cons_self)
  -- what each prefix of the choices leads to
  have hprefix : ∀ earlier, earlier <+: choices → ∃ app',
      (machine describe realm).run app
        (.directionsReturned serial (.answered (some (first :: others))) ::
          earlier.map (choose i)) = .ok app' ∧
      app'.Chosen describe i (first :: others) box (earlier.getLast?.getD 0) := by
    intro earlier hearlier
    obtain ⟨app', hrun, h'⟩ := chosen_of_choices realm hchosen
      (fun k hk => hchoices k (hearlier.subset hk))
    refine ⟨app', ?_, h'⟩
    rw [Machine.run_cons_of_ok _ _ hstep]
    exact hrun
  constructor
  · intro hall k hk route hroute
    obtain ⟨before, after, rfl⟩ := List.append_of_mem hk
    have hearlier : before ++ [k] <+: before ++ k :: after := ⟨after, by simp⟩
    have hlast : (before ++ [k]).getLast?.getD 0 = k := by simp
    obtain ⟨app', route', hrun, hroute', hpolygon⟩ := hall (before ++ [k]) hearlier
    obtain ⟨app'', hrun', h'⟩ := hprefix (before ++ [k]) hearlier
    obtain rfl := Except.ok.inj (hrun'.symm.trans hrun)
    rw [hlast] at hroute' h'
    obtain rfl := Option.some.inj (hroute'.symm.trans hroute)
    have hsame := (h'.polygonOf_iff hroute).mp hpolygon
    exact (RouteCalculator.boundingBox_eq_ok_iff_sameExtremes hbox).mp hsame
  · intro hsame earlier hearlier
    obtain ⟨app', hrun, h'⟩ := hprefix earlier hearlier
    obtain ⟨_, _, route, _, _, _, hroute, _⟩ := h'.drawn
    refine ⟨app', route, hrun, hroute, (h'.polygonOf_iff hroute).mpr ?_⟩
    rw [RouteCalculator.boundingBox_eq_ok_iff_sameExtremes hbox]
    cases hlast : earlier.getLast? with
    | none =>
      rw [hlast] at hroute
      obtain rfl : first = route := by simpa using hroute
      exact ⟨rfl, rfl, rfl, rfl⟩
    | some k =>
      rw [hlast] at hroute
      exact hsame k (hearlier.subset (List.mem_of_getLast? hlast)) route hroute

/-- Two alternatives, the second of which goes further north. -/
def firstAlternative : MKRoute := ⟨[⟨0, 0⟩, ⟨1, 1⟩]⟩

def secondAlternative : MKRoute := ⟨[⟨0, 0⟩, ⟨2, 1⟩, ⟨1, 1⟩]⟩

/-- A screen that waits for the response to its request. -/
def waitingApp : App where
  screens := [{ observing := true }]
  directions := Requests.empty.issue ⟨⟨0, 0⟩, ⟨1, 1⟩⟩

theorem polygonOf_choice_iff_waitingApp :
    (∀ earlier, earlier <+: [1, 0] → ∃ app' route,
      (machine describeCorner (.insertion _)).run waitingApp
        (.directionsReturned 0 (.answered (some [firstAlternative, secondAlternative])) ::
          earlier.map (choose 0)) = .ok app' ∧
      [firstAlternative, secondAlternative][earlier.getLast?.getD 0]? = some route ∧
      app'.PolygonOf describeCorner 0 route) ↔
    ∀ k ∈ [1, 0], ∀ route, [firstAlternative, secondAlternative][k]? = some route →
      route.SameExtremes firstAlternative :=
  polygonOf_choice_iff (i := 0) rfl rfl rfl (by decide) (by decide)

/-- From the opening of the screen to the choice of the second alternative. -/
def secondChosen : List Event :=
  firstRoute.dropLast ++
  [.directionsReturned 0 (.answered (some [firstAlternative, secondAlternative])), choose 0 1]

/-- The second alternative is drawn with the box of the first, which it leaves. -/
theorem second_with_box_of_first :
    ∃ app, (machine describeCorner (.insertion _)).run {} secondChosen = .ok app ∧
      ¬ app.PolygonOf describeCorner 0 secondAlternative := by
  have hevaluated : ∃ app,
      (machine describeCorner (.insertion _)).run {} secondChosen = .ok app ∧
      app.screens[0]?.map (·.overlays) = some [.polyline secondAlternative,
        .polygon (RouteCalculator.Box.points ⟨-5 / 1000, 1005 / 1000, -5 / 1000, 1005 / 1000⟩)] :=
    Machine.exists_run_eq_ok _ (by decide +kernel)
  obtain ⟨app, hrun, hoverlays⟩ := hevaluated
  refine ⟨app, hrun, ?_⟩
  intro hpolygon
  obtain ⟨vc, box, hi, htight, hoverlays', _⟩ := hpolygon
  rw [hi, Option.map_some, hoverlays'] at hoverlays
  have hbox : box = ⟨-5 / 1000, 1005 / 1000, -5 / 1000, 1005 / 1000⟩ := by
    apply RouteCalculator.Box.points_injective
    simpa using hoverlays
  -- its northernmost point is beyond the box
  have hnorth := (htight.inside ⟨2, 1⟩ (by simp [secondAlternative])).2.1
  rw [hbox] at hnorth
  norm_num [RouteCalculator.factor] at hnorth

/-! ## Section 3: Any run of the app -/

/-- Every control has one segment for each of the routes it was built for, and
    was built after some response. -/
structure ControlInv (describe : Double → String) (app : App) : Prop where
  derived : app.Derived describe
  control : ∀ (i : ℕ) (vc : AddTripWithMapVC) (control : UISegmentedControl),
    app.screens[i]? = some vc → vc.routesSegmentedControl = some control →
    control.segments.length = control.routes.length ∧ app.answered ≠ []

/-- A screen keeps the segments it had, or gets those of the routes there are now. -/
theorem control_of_moves {app : App} {rc' : RouteCalculator} {i : ℕ} {e : Event}
    {vc vc' : AddTripWithMapVC} {control' : UISegmentedControl}
    (h : Moves realm app rc' i e vc vc') (hcontrol' : vc'.routesSegmentedControl = some control') :
    (∃ control, vc.routesSegmentedControl = some control ∧
      control'.segments = control.segments ∧ control'.routes = control.routes) ∨
    (rc'.routes = some control'.routes ∧ control'.segments.length = control'.routes.length) := by
  cases h with
  | handled h =>
    cases AddTripWithMapVC.handled_of_handle h with
    | drawn hcontrol _ _ _ _ =>
      obtain rfl := Option.some.inj hcontrol'
      exact .inl ⟨_, hcontrol, rfl, rfl⟩
    | _ => exact .inl ⟨control', hcontrol', rfl, rfl⟩
  | tapped _ h =>
    obtain ⟨rfl, _⟩ := AddTripWithMapVC.didSelectRowAt_eq_ok h
    exact .inl ⟨control', hcontrol', rfl, rfl⟩
  | fetched _ _ h =>
    obtain ⟨rfl, _⟩ := AddTripWithMapVC.placeFetched_eq_ok h
    exact .inl ⟨control', hcontrol', rfl, rfl⟩
  | notified h =>
    obtain ⟨routes, _, _, hroutes, _, _, segments, hsegments, rfl⟩ :=
      AddTripWithMapVC.routesReady_eq_ok h
    obtain rfl := Option.some.inj hcontrol'
    exact .inr ⟨hroutes, hsegments⟩
  | kept => exact .inl ⟨control', hcontrol', rfl, rfl⟩
  | typed => exact .inl ⟨control', hcontrol', rfl, rfl⟩
  | predicted _ => exact .inl ⟨control', hcontrol', rfl, rfl⟩

theorem controlInv_init : ControlInv describe {} where
  derived := .inl ⟨rfl, rfl⟩
  control := by simp

theorem controlInv_step {app app' : App} {e : Event} (hinv : app.ControlInv describe)
    (h : step describe realm app e = .ok app') : app'.ControlInv describe where
  derived := derived_of_step hinv.derived h
  control := by
    intro i vc' control' hi hcontrol'
    rcases screens_of_step h hi with ⟨_, _, rfl⟩ | ⟨vc, hvc, hmove⟩
    · cases hcontrol'
    rcases control_of_moves hmove hcontrol' with
      ⟨control, hcontrol, hsegments, hroutes⟩ | ⟨hroutes, hlength⟩
    · obtain ⟨hlength, hanswered⟩ := hinv.control i vc control hvc hcontrol
      rw [hsegments, hroutes]
      exact ⟨hlength, answered_mono h hanswered⟩
    · exact ⟨hlength, (derived_of_step hinv.derived h).answered_of_routes hroutes⟩

variable (describe realm) in
/-- A tap on a segment that is there goes through and draws the route at its index
    among those that the control was built for. -/
def DrawsItsRoute (app : App) : Event → Prop
  | .screen i (.changeRoute k) => ∀ (vc : AddTripWithMapVC) (control : UISegmentedControl),
      app.screens[i]? = some vc → vc.routesSegmentedControl = some control →
      k < control.segments.length →
      ∃ app' vc' route points, step describe realm app (.screen i (.changeRoute k)) = .ok app' ∧
        app'.screens[i]? = some vc' ∧ control.routes[k]? = some route ∧
        vc'.overlays = [.polyline route, .polygon points]
  | _ => True

/-- At such a tap the last response has the same route at that index. -/
def TapMeetsResponse (app : App) : Event → Prop
  | .screen i (.changeRoute k) => ∀ (vc : AddTripWithMapVC) (control : UISegmentedControl),
      app.screens[i]? = some vc → vc.routesSegmentedControl = some control →
      k < control.segments.length →
      ∃ last, app.answered.head? = some last ∧ last.routes[k]? = control.routes[k]?
  | _ => True

variable (describe realm) in
/-- One tap: what is drawn is the route of the calculator at that index. -/
theorem tap_draws_iff {app : App} {i k : ℕ} {vc : AddTripWithMapVC} {control : UISegmentedControl}
    {routes : List MKRoute} {points₀ : List CLLocationCoordinate2D} {route : MKRoute}
    (hi : app.screens[i]? = some vc) (hcontrol : vc.routesSegmentedControl = some control)
    (hk : k < control.segments.length) (hroutes : app.routeCalc.routes = some routes)
    (hpoints : app.routeCalc.routePolygonPoints = some points₀) :
    (∃ app' vc' points, step describe realm app (.screen i (.changeRoute k)) = .ok app' ∧
      app'.screens[i]? = some vc' ∧ vc'.overlays = [.polyline route, .polygon points]) ↔
    routes[k]? = some route := by
  have hlt : i < app.screens.length := (List.getElem?_eq_some_iff.mp hi).1
  have hstep : step describe realm app (.screen i (.changeRoute k)) =
      (vc.handle realm app.routeCalc app.favorites (.changeRoute k) >>= fun vc' =>
        pure (app.setScreen i vc')) := by
    simp only [step, screenEvent, hi]
  rw [hstep]
  constructor
  · intro hdrawn
    obtain ⟨app', vc', points, hok, hi', hoverlays⟩ := hdrawn
    obtain ⟨vc₁, hhandle, rfl⟩ := bind_pure_eq_ok.mp hok
    obtain rfl : vc₁ = vc' := by
      simpa [setScreen, List.getElem?_set_self hlt] using hi'
    rw [AddTripWithMapVC.handle_changeRoute _ _ hcontrol hk] at hhandle
    obtain ⟨routes', route', points', hroutes', hroute', _, rfl⟩ :=
      AddTripWithMapVC.addRouteToMap_eq_ok hhandle
    obtain rfl := Option.some.inj (hroutes'.symm.trans hroutes)
    obtain rfl : route' = route := by
      simp only [List.cons.injEq, MKOverlay.polyline.injEq] at hoverlays
      exact hoverlays.1
    exact hroute'
  · intro hroute
    obtain ⟨vc', hhandle, _, hoverlays⟩ := AddTripWithMapVC.handle_changeRoute_ok
      realm app.favorites hcontrol hk hroutes hroute hpoints
    exact ⟨app.setScreen i vc', vc', points₀, bind_pure_eq_ok.mpr ⟨vc', hhandle, rfl⟩,
      List.getElem?_set_self hlt, hoverlays⟩

/-- One tap of a run. -/
theorem drawsItsRoute_iff {app : App} (hinv : app.ControlInv describe) (e : Event) :
    app.DrawsItsRoute describe realm e ↔ app.TapMeetsResponse e := by
  cases e with
  | screen i e =>
    cases e with
    | changeRoute k =>
      apply forall₂_congr
      intro vc control
      apply forall₃_congr
      intro hi hcontrol hk
      obtain ⟨hlength, hanswered⟩ := hinv.control i vc control hi hcontrol
      rcases hinv.derived with ⟨hnone, _⟩ | ⟨last, earlier, _, box, hlast, hroutes, hfrom⟩
      · exact absurd hnone hanswered
      have hhead : app.answered.head? = some last := by
        rw [hlast]
        rfl
      constructor
      · intro hdraws
        obtain ⟨app', vc', route, points, hstep, hi', hroute, hoverlays⟩ := hdraws
        have hdrawn : last.routes[k]? = some route :=
          (tap_draws_iff describe realm hi hcontrol hk hroutes hfrom.points).mp
            ⟨app', vc', points, hstep, hi', hoverlays⟩
        exact ⟨last, hhead, hdrawn.trans hroute.symm⟩
      · intro hmeets
        obtain ⟨last', hlast', hsame⟩ := hmeets
        obtain rfl := Option.some.inj (hlast'.symm.trans hhead)
        have hk' : k < control.routes.length := hlength ▸ hk
        have hroute : control.routes[k]? = some control.routes[k] := List.getElem?_eq_getElem hk'
        obtain ⟨app', vc', points, hstep, hi', hoverlays⟩ :=
          (tap_draws_iff describe realm hi hcontrol hk hroutes hfrom.points).mpr
            (hsame.trans hroute)
        exact ⟨app', vc', _, points, hstep, hi', hroute, hoverlays⟩
    | _ => exact Iff.rfl
  | _ => exact Iff.rfl

/-- **Segments and routes.** In a run every tap draws the route that its segment
    was made for exactly if every tap finds the same route at its index in the
    response that arrived last. -/
theorem draws_its_route_iff (es : List Event) :
    (machine describe realm).Meets (DrawsItsRoute describe realm) {} es ↔
      (machine describe realm).Meets TapMeetsResponse {} es := by
  have hinv : ∀ app e app', app.ControlInv describe →
      (machine describe realm).step app e = .ok app' → app'.ControlInv describe := by
    intro app e app' hinv hstep
    exact controlInv_step hinv hstep
  apply Machine.meets_congr hinv ?_ controlInv_init
  intro app e happ
  exact drawsItsRoute_iff happ e

/-- A response to a request finds every screen that has a control observing. -/
def ResponseObserved (app : App) : Event → Prop
  | .directionsReturned serial (.answered _) => (app.directions.find serial).isSome →
      ∀ (i : ℕ) (vc : AddTripWithMapVC), app.screens[i]? = some vc →
        vc.routesSegmentedControl.isSome → vc.observing = true
  | _ => True

/-- Every control was built for the routes of the last response. -/
structure ControlInStep (describe : Double → String) (app : App) : Prop where
  derived : app.Derived describe
  control : ∀ (i : ℕ) (vc : AddTripWithMapVC) (control : UISegmentedControl),
    app.screens[i]? = some vc → vc.routesSegmentedControl = some control →
    app.routeCalc.routes = some control.routes

theorem controlInStep_init : ControlInStep describe {} where
  derived := .inl ⟨rfl, rfl⟩
  control := by simp

/-- An observed response rebuilds every control there is. -/
theorem controlInStep_step {app app' : App} {e : Event} (hinv : app.ControlInStep describe)
    (hobserved : app.ResponseObserved e) (h : step describe realm app e = .ok app') :
    app'.ControlInStep describe where
  derived := derived_of_step hinv.derived h
  control := by
    intro i vc' control' hi hcontrol'
    rcases screens_of_step h hi with ⟨_, _, rfl⟩ | ⟨vc, hvc, hmove⟩
    · cases hcontrol'
    rcases control_of_moves hmove hcontrol' with
      ⟨control, hcontrol, _, hroutes⟩ | ⟨hroutes, _⟩
    · rw [hroutes]
      cases outcome_of_step h with
      | answered hfind hroutes' _ hpost =>
        -- the screen had a control, so it observed and was notified
        have hobserving := hobserved (by simp [hfind]) i vc hvc (by simp [hcontrol])
        obtain ⟨vc₁, hvc₁, hready⟩ := AddTripWithMapVC.routesReady_of_post hpost hvc hobserving
        obtain rfl := Option.some.inj (hvc₁.symm.trans hi)
        obtain ⟨routes, _, _, hrc, _, _, segments, _, rfl⟩ :=
          AddTripWithMapVC.routesReady_eq_ok hready
        obtain rfl := Option.some.inj hcontrol'
        rw [hrc]
        exact congrArg some hroutes
      | _ => exact hinv.control i vc control hvc hcontrol
    · exact hroutes

/-- If no response arrives while a screen with a control is covered, all is in step. -/
theorem taps_meet_of_responses_observed {es : List Event}
    (h : (machine describe realm).Meets ResponseObserved {} es) :
    (machine describe realm).Meets TapMeetsResponse {} es := by
  have hinv : ∀ app e app', app.ControlInStep describe → app.ResponseObserved e →
      (machine describe realm).step app e = .ok app' → app'.ControlInStep describe := by
    intro app e app' hinv hobserved hstep
    exact controlInStep_step hinv hobserved hstep
  apply Machine.meets_mono hinv ?_ controlInStep_init h
  intro app e happ _
  cases e with
  | screen i e =>
    cases e with
    | changeRoute k =>
      intro vc control hi hcontrol _
      have hroutes := happ.control i vc control hi hcontrol
      rcases happ.derived with ⟨_, hrc⟩ | ⟨last, earlier, _, _, hlast, hroutes', _⟩
      · simp [hrc] at hroutes
      · obtain hsame := Option.some.inj (hroutes'.symm.trans hroutes)
        exact ⟨last, by rw [hlast]; rfl, by rw [hsame]⟩
    | _ => trivial
  | _ => trivial

/-- Two places are looked up before any directions arrive.  The first response has
    two routes; the second, with one, arrives while the screen is covered. -/
def coveredDuringResponse : List Event :=
  firstRoute.dropLast ++
  [.screen 0 .searchBarTextDidBeginEditing, .textDidChange 0 "b",
   .autocompleteReturned 1 (.answered (some [⟨some "B", "Beach"⟩])),
   .screen 0 (.cellForRowAt 0), .didSelectRowAt 0 0 300,
   .lookUpReturned 1 (some ⟨"Beach", ⟨2, 2⟩⟩),
   .directionsReturned 0 (.answered (some [firstAlternative, secondAlternative])),
   .screen 0 .viewWillDisappear,
   .directionsReturned 1 (.answered (some [firstAlternative])),
   .screen 0 .viewWillAppear]

/-- The second segment is still there, and tapping it traps. -/
theorem second_segment_traps :
    (machine describeCorner (.insertion _)).run {}
        (coveredDuringResponse ++ [.screen 0 (.changeRoute 1)]) = .error .indexOutOfRange ∧
      ¬ (machine describeCorner (.insertion _)).Meets
        (DrawsItsRoute describeCorner (.insertion _)) {}
        (coveredDuringResponse ++ [.screen 0 (.changeRoute 1)]) := by
  refine ⟨Machine.run_eq_error _ (by decide +kernel), ?_⟩
  have hevaluated : ∃ app,
      (machine describeCorner (.insertion _)).run {} coveredDuringResponse = .ok app ∧
      (app.screens[0]?.bind (·.routesSegmentedControl)).map (·.segments.length) = some 2 ∧
      (step describeCorner (.insertion _) app (.screen 0 (.changeRoute 1))).isOk = false :=
    Machine.exists_run_eq_ok _ (by decide +kernel)
  obtain ⟨app, hrun, hsegments, htrap⟩ := hevaluated
  intro hm
  rw [Machine.meets_append hrun] at hm
  obtain ⟨control, hcontrol, hlength⟩ := Option.map_eq_some_iff.mp hsegments
  obtain ⟨vc, hi, hcontrol⟩ := Option.bind_eq_some_iff.mp hcontrol
  obtain ⟨app', _, _, _, hstep, _⟩ := hm.2.1 vc control hi hcontrol (by omega)
  rw [hstep] at htrap
  cases htrap

end App

end RideHitch
