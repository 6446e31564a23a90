import RideHitch.AddTrip.Steps

/-! # The trips that the Next button builds

    The destination of a trip comes from the screen, its polygon from the shared
    calculator.  Section 1 has the invariant of the flow, Section 2 says exactly
    when the two belong together.

    `addRouteToMap` enables the Next button and nothing ever disables it again:
    it stays enabled while the next place is looked up and routed to. -/

namespace RideHitch

namespace App

variable {describe : Double → String} {realm : DateSort}

/-! ## Section 1: The invariant of the flow -/

/-- The calculator holds what it derived from the last answer. -/
def Derived (describe : Double → String) (app : App) : Prop :=
  (app.answered = [] ∧ app.routeCalc = {}) ∨
  ∃ last earlier route box, app.answered = last :: earlier ∧
    app.routeCalc.routes = some last.routes ∧ app.routeCalc.FromRoute id describe route box

structure FlowInv (describe : Double → String) (app : App) : Prop where
  derived : app.Derived describe
  /-- An enabled Next button has seen an answer. -/
  button : ∀ (i : ℕ) (vc : AddTripWithMapVC), app.screens[i]? = some vc →
    vc.nextButtonIsEnabled = true → app.answered ≠ []
  /-- A place is only kept by a screen that knows its location. -/
  place : ∀ (i : ℕ) (vc : AddTripWithMapVC), app.screens[i]? = some vc →
    vc.currentResult.isSome → vc.currentLocation.isSome

theorem Derived.answered_of_routes {app : App} (h : app.Derived describe) {routes : List MKRoute}
    (hroutes : app.routeCalc.routes = some routes) : app.answered ≠ [] := by
  rcases h with ⟨_, hrc⟩ | ⟨last, earlier, _, _, hanswered, _⟩
  · simp [hrc] at hroutes
  · simp [hanswered]

theorem derived_of_step {app app' : App} {e : Event} (hd : app.Derived describe)
    (h : step describe realm app e = .ok app') : app'.Derived describe := by
  -- calculator and history change together, or not at all
  rcases answered_of_step h with ⟨hrc, hanswered⟩ | ⟨request, routes, hanswered, hroutes, hfrom⟩
  · unfold Derived
    rw [hrc, hanswered]
    exact hd
  · obtain ⟨route, box, hfrom⟩ := hfrom
    exact .inr ⟨_, _, route, box, hanswered, hroutes, hfrom⟩

theorem answered_mono {app app' : App} {e : Event} (h : step describe realm app e = .ok app')
    (hne : app.answered ≠ []) : app'.answered ≠ [] := by
  rcases answered_of_step h with ⟨_, hanswered⟩ | ⟨request, routes, hanswered, _⟩
  · rwa [hanswered]
  · simp [hanswered]

/-- A screen's Next button is enabled only by drawing a route. -/
theorem button_of_moves {app : App} {rc' : RouteCalculator} {i : ℕ} {e : Event}
    {vc vc' : AddTripWithMapVC} (h : Moves realm app rc' i e vc vc')
    (henabled : vc'.nextButtonIsEnabled = true) :
    vc.nextButtonIsEnabled = true ∨ (∃ routes, app.routeCalc.routes = some routes) ∨
      (∃ routes, rc'.routes = some routes) := by
  cases h with
  | handled h =>
    cases AddTripWithMapVC.handled_of_handle h with
    | drawn _ _ hroutes _ _ => exact .inr (.inl ⟨_, hroutes⟩)
    | _ => exact .inl henabled
  | tapped _ h =>
    obtain ⟨rfl, _⟩ := AddTripWithMapVC.didSelectRowAt_eq_ok h
    exact .inl henabled
  | fetched _ _ h =>
    obtain ⟨rfl, _⟩ := AddTripWithMapVC.placeFetched_eq_ok h
    exact .inl henabled
  | notified h =>
    obtain ⟨routes, _, _, hroutes, _⟩ := AddTripWithMapVC.routesReady_eq_ok h
    exact .inr (.inr ⟨routes, hroutes⟩)
  | kept => exact .inl henabled
  | typed => exact .inl henabled
  | predicted _ => exact .inl henabled

/-- The current location is never lost, and a new place needs it. -/
theorem place_of_moves {app : App} {rc' : RouteCalculator} {i : ℕ} {e : Event}
    {vc vc' : AddTripWithMapVC} (h : Moves realm app rc' i e vc vc')
    (hplace : vc.currentResult.isSome → vc.currentLocation.isSome) :
    vc'.currentResult.isSome → vc'.currentLocation.isSome := by
  cases h with
  | handled h =>
    cases AddTripWithMapVC.handled_of_handle h with
    | located _ =>
      intro _
      rfl
    | _ => exact hplace
  | tapped _ h =>
    obtain ⟨rfl, _⟩ := AddTripWithMapVC.didSelectRowAt_eq_ok h
    exact hplace
  | fetched _ _ h =>
    obtain ⟨rfl, ⟨rfl, _⟩ | ⟨place, location, rfl, hlocation, _⟩⟩ :=
      AddTripWithMapVC.placeFetched_eq_ok h
    · simp
    · simp [hlocation]
  | notified h =>
    obtain ⟨_, _, _, _, _, _, _, _, rfl⟩ := AddTripWithMapVC.routesReady_eq_ok h
    exact hplace
  | kept => exact hplace
  | typed => exact hplace
  | predicted _ => exact hplace

theorem flowInv_init : FlowInv describe {} where
  derived := .inl ⟨rfl, rfl⟩
  button := by simp
  place := by simp

/-- **Every step keeps the invariant of the flow.** -/
theorem flowInv_step {app app' : App} {e : Event} (hinv : app.FlowInv describe)
    (h : step describe realm app e = .ok app') : app'.FlowInv describe where
  derived := derived_of_step hinv.derived h
  button := by
    intro i vc' hi henabled
    rcases screens_of_step h hi with ⟨_, _, rfl⟩ | ⟨vc, hvc, hmove⟩
    · cases henabled
    · -- enabled before, by drawing routes already there, or by routes just answered
      rcases button_of_moves hmove henabled with hbefore | ⟨_, hroutes⟩ | ⟨_, hroutes⟩
      · exact answered_mono h (hinv.button i vc hvc hbefore)
      · exact answered_mono h (hinv.derived.answered_of_routes hroutes)
      · exact (derived_of_step hinv.derived h).answered_of_routes hroutes
  place := by
    intro i vc' hi
    rcases screens_of_step h hi with ⟨_, _, rfl⟩ | ⟨vc, hvc, hmove⟩
    · intro hsome
      cases hsome
    · exact place_of_moves hmove (hinv.place i vc hvc)

/-! ## Section 2: Coherent trips -/

end App

/-- The polygon of the trip is the box of a route that was returned for exactly
    the trip's own origin and destination, by the answer that the calculator had
    been given last. -/
def BuiltTrip.Coherent (describe : Double → String) (b : BuiltTrip) : Prop :=
  ∃ last route box, b.directions = some last ∧
    last.request = RouteCalculator.calculateDirectionsForTrip b.trip ∧
    route ∈ last.routes ∧ RouteCalculator.boundingBox id route.polyline = .ok box ∧
    b.trip.polygon = ",".intercalate (box.values describe)

namespace App

variable {describe : Double → String} {realm : DateSort}

/-- A Next tap on an enabled button finds that the calculator was answered last
    for the way from the screen's location to its place. -/
def NextMeetsRoute (app : App) : Event → Prop
  | .next i _ _ _ => ∀ vc : AddTripWithMapVC, app.screens[i]? = some vc →
      vc.nextButtonIsEnabled = true →
      ∃ last location place, app.answered.head? = some last ∧
        vc.currentLocation = some location ∧ vc.currentResult = some place ∧
        last.request = ⟨location, place.coordinate⟩
  | _ => True

/-- The trip of one Next tap is coherent exactly when the tap meets its route. -/
theorem coherent_iff {app : App} (hd : app.Derived describe) {vc : AddTripWithMapVC}
    {now : Double} {identityId : String} {random : UInt32} {trip : Trips}
    (h : vc.prepare app.routeCalc now identityId random = .ok trip) :
    (⟨trip, app.answered.head?⟩ : BuiltTrip).Coherent describe ↔
      ∃ last location place, app.answered.head? = some last ∧
        vc.currentLocation = some location ∧ vc.currentResult = some place ∧
        last.request = ⟨location, place.coordinate⟩ := by
  obtain ⟨origin, destination, values, horigin, hdestination, hvalues, hway, hpolygon⟩ :=
    AddTripWithMapVC.prepare_eq_ok h
  rcases hd with ⟨_, hrc⟩ | ⟨last, earlier, route, box, hanswered, hroutes, hfrom⟩
  · -- no answer yet: the polygon is missing and there was no trip
    simp [hrc] at hvalues
  · obtain ⟨others, hothers⟩ := hfrom.routes
    have hmem : route ∈ last.routes := by
      have hlist : last.routes = route :: others := by simpa [hroutes] using hothers
      rw [hlist]
      exact List.mem_cons_self
    have hbox : values = box.values describe := by
      rw [hfrom.values] at hvalues
      exact (Option.some.inj hvalues).symm
    constructor
    · rintro ⟨last', _, _, hlast', hrequest, _⟩
      exact ⟨last', origin, destination, hlast', horigin, hdestination, hrequest.trans hway⟩
    · rintro ⟨last', location, place, hlast', hlocation, hplace, hrequest⟩
      -- both are the head of the history, so the route is one of its routes
      have hsame : last = last' := by simpa [hanswered] using hlast'
      rw [hlocation] at horigin
      rw [hplace] at hdestination
      cases horigin
      cases hdestination
      refine ⟨last', route, box, hlast', ?_, hsame ▸ hmem, hfrom.bounds, ?_⟩
      · rw [hrequest]
        exact hway.symm
      · rw [hpolygon, hbox]

/-- A step leaves all trips coherent exactly when they were and it meets its route. -/
theorem coherent_step {app app' : App} {e : Event} (hinv : app.FlowInv describe)
    (h : step describe realm app e = .ok app') :
    (∀ b ∈ app'.built, b.Coherent describe) ↔
      (∀ b ∈ app.built, b.Coherent describe) ∧ app.NextMeetsRoute e := by
  rcases built_of_step h with
    ⟨hbuilt, hidle⟩ | ⟨i, now, identityId, random, vc, trip, rfl, hi, henabled, htrip, hbuilt⟩
  · -- no trip was built: if this was a Next tap, it met a disabled button
    have hmeets : app.NextMeetsRoute e := by
      cases e with
      | next i now identityId random =>
        intro vc hi henabled
        rw [hidle i now identityId random vc rfl hi] at henabled
        cases henabled
      | _ => trivial
    rw [hbuilt]
    exact (and_iff_left hmeets).symm
  · -- one trip was built, and the tap meets its route exactly when that trip is coherent
    have hmeets : app.NextMeetsRoute (.next i now identityId random) ↔
        (⟨trip, app.answered.head?⟩ : BuiltTrip).Coherent describe := by
      rw [coherent_iff hinv.derived htrip]
      constructor
      · intro hm
        exact hm vc hi henabled
      · intro hroute vc' hi' _
        rw [hi] at hi'
        cases hi'
        exact hroute
    rw [hbuilt, hmeets]
    simp only [List.mem_append, List.mem_singleton, or_imp, forall_and, forall_eq]

/-- **Coherence at Next.** In a run, every trip built carries the box of a route
    returned for its own origin and destination exactly when every Next tap found
    the calculator answered last for the screen's own location and place. -/
theorem trips_coherent_iff {es : List Event} {app : App}
    (h : (machine describe realm).run {} es = .ok app) :
    (∀ b ∈ app.built, b.Coherent describe) ↔
      (machine describe realm).Meets NextMeetsRoute {} es := by
  have hinv : ∀ app e app', app.FlowInv describe →
      (machine describe realm).step app e = .ok app' → app'.FlowInv describe := by
    intro app e app' hinv hstep
    exact flowInv_step hinv hstep
  have hgood : ∀ app e app', app.FlowInv describe →
      (machine describe realm).step app e = .ok app' →
      ((∀ b ∈ app'.built, b.Coherent describe) ↔
        (∀ b ∈ app.built, b.Coherent describe) ∧ app.NextMeetsRoute e) := by
    intro app e app' hinv hstep
    exact coherent_step hinv hstep
  simpa using Machine.good_iff_meets hinv hgood flowInv_init h

/-- Opening the screen, choosing the only prediction and getting its route. -/
def firstRoute : List Event :=
  [.viewDidLoad, .screen 0 .viewWillAppear, .screen 0 .locationAgreed,
   .screen 0 (.didUpdateLocations [⟨0, 0⟩]), .screen 0 .searchBarTextDidBeginEditing,
   .textDidChange 0 "a", .autocompleteReturned 0 (.answered (some [⟨some "A", "Airport"⟩])),
   .screen 0 (.cellForRowAt 0), .didSelectRowAt 0 0 100,
   .lookUpReturned 0 (some ⟨"Airport", ⟨1, 1⟩⟩),
   .directionsReturned 0 (.answered (some [⟨[⟨0, 0⟩, ⟨1, 1⟩]⟩]))]

/-- The decimals of the corners of that route. -/
def describeCorner (x : Double) : String := if x = -5 / 1000 then "-0.005" else "1.005"

theorem trips_coherent_iff_firstRoute :
    ∃ app, (machine describeCorner (.insertion _)).run {}
        (firstRoute ++ [.next 0 200 "user" 7]) = .ok app ∧ app.built.length = 1 ∧
      ((∀ b ∈ app.built, b.Coherent describeCorner) ↔
        (machine describeCorner (.insertion _)).Meets NextMeetsRoute {}
          (firstRoute ++ [.next 0 200 "user" 7])) := by
  have hevaluated : ∃ app, (machine describeCorner (.insertion _)).run {}
      (firstRoute ++ [.next 0 200 "user" 7]) = .ok app ∧ app.built.length = 1 :=
    Machine.exists_run_eq_ok _ (by decide +kernel)
  obtain ⟨app, hrun, hbuilt⟩ := hevaluated
  exact ⟨app, hrun, hbuilt, trips_coherent_iff hrun⟩

/-- A second place is looked up, and Next is tapped before its route arrives. -/
def nextBeforeRoute : List Event :=
  firstRoute ++
  [.screen 0 .searchBarTextDidBeginEditing, .textDidChange 0 "b",
   .autocompleteReturned 1 (.answered (some [⟨some "B", "Beach"⟩])),
   .screen 0 (.cellForRowAt 0), .didSelectRowAt 0 0 300,
   .lookUpReturned 1 (some ⟨"Beach", ⟨2, 2⟩⟩), .next 0 400 "user" 8]

/-- The trip goes to the second place and carries the box of the first route;
    no directions to the second place were ever returned. -/
theorem next_before_route :
    ∃ app, (machine describeCorner (.insertion _)).run {} nextBeforeRoute = .ok app ∧
      ∃ b ∈ app.built, ¬ b.Coherent describeCorner ∧
        ∀ last ∈ app.answered,
          last.request ≠ RouteCalculator.calculateDirectionsForTrip b.trip := by
  have hevaluated : ∃ app,
      (machine describeCorner (.insertion _)).run {} nextBeforeRoute = .ok app ∧
      ∃ b ∈ app.built, b.directions = app.answered.head? ∧ ∀ last ∈ app.answered,
        last.request ≠ RouteCalculator.calculateDirectionsForTrip b.trip :=
    Machine.exists_run_eq_ok _ (by decide +kernel)
  obtain ⟨app, hrun, b, hb, hdirections, hnever⟩ := hevaluated
  refine ⟨app, hrun, b, hb, ?_, hnever⟩
  rintro ⟨last, _, _, hlast, hrequest, _⟩
  rw [hdirections] at hlast
  exact hnever last (List.mem_of_mem_head? hlast) hrequest

end App

end RideHitch
