import RideHitch.Library.LastWrite
import RideHitch.AddTrip.Steps
import RideHitch.ResultsMapVC

/-! # Late answers

    Three fields are written by the completions of numbered requests: `results`
    and `currentResult` of the add-trip screen, `potentialTrips` of the results
    screen.  No completion looks at the request it answers, so each field holds
    the answer that arrived last. -/

namespace RideHitch

/-! ## Section 1: What a step writes -/

namespace App

variable {describe : Double → String} {realm : DateSort}

/-- The prediction results that the step delivers to the screen at `i`, with the
    number of the query they answer. -/
def resultsWrites (i : ℕ) (app : App) :
    Event → Option (ℕ × Option (List GMSAutocompletePrediction))
  | .autocompleteReturned serial (.answered results) =>
      if app.queries.find serial = some i ∧ i < app.screens.length then some (serial, results)
      else none
  | _ => none

/-- The same for the place that a lookup delivers. -/
def currentResultWrites (i : ℕ) (app : App) : Event → Option (ℕ × Option GMSPlace)
  | .lookUpReturned serial result =>
      if (app.lookups.find serial).map PlaceLookup.screen = some i ∧ i < app.screens.length then
        some (serial, result)
      else none
  | _ => none

def resultsOf (i : ℕ) (app : App) : Option (List GMSAutocompletePrediction) :=
  app.screens[i]?.bind AddTripWithMapVC.results

def currentResultOf (i : ℕ) (app : App) : Option GMSPlace :=
  app.screens[i]?.bind AddTripWithMapVC.currentResult

theorem screens_length_le {app app' : App} {e : Event} (h : step describe realm app e = .ok app') :
    app.screens.length ≤ app'.screens.length := by
  cases outcome_of_step h with
  | opened => simp
  | answered _ _ _ hpost => exact Nat.le_of_eq (AddTripWithMapVC.post_eq_ok hpost).1.symm
  | _ => simp [setScreen]

/-- A field that no move of the step changes keeps its value. -/
theorem field_kept {α : Type} {f : AddTripWithMapVC → Option α} {app app' : App} {e : Event}
    {i : ℕ} (hfresh : f .viewDidLoad = none) (h : step describe realm app e = .ok app')
    (hmoves : ∀ vc vc', Moves realm app app'.routeCalc i e vc vc' → f vc' = f vc) :
    app'.screens[i]?.bind f = app.screens[i]?.bind f := by
  cases hi : app'.screens[i]? with
  | none =>
    have hlength := screens_length_le h
    have hge := List.getElem?_eq_none_iff.mp hi
    rw [List.getElem?_eq_none (by omega)]
  | some vc' =>
    -- a new screen starts with the field nil, which is what no screen has
    rcases screens_of_step h hi with ⟨_, hnone, rfl⟩ | ⟨vc, hvc, hmove⟩
    · rw [hnone]
      exact hfresh
    · rw [hvc]
      exact hmoves vc vc' hmove

/-- Setting one screen sets its field and leaves that of the others. -/
theorem field_set {α : Type} (f : AddTripWithMapVC → Option α) {screens : List AddTripWithMapVC}
    {i j : ℕ} {vc : AddTripWithMapVC} (hj : j < screens.length) :
    (screens.set j vc)[i]?.bind f = if j = i then f vc else screens[i]?.bind f := by
  by_cases hij : j = i
  · subst hij
    rw [List.getElem?_set_self hj, if_pos rfl]
    rfl
  · rw [List.getElem?_set_ne hij, if_neg hij]

theorem results_of_moves {app : App} {rc' : RouteCalculator} {i : ℕ} {e : Event}
    {vc vc' : AddTripWithMapVC} (h : Moves realm app rc' i e vc vc')
    (he : ∀ serial answer, e ≠ .autocompleteReturned serial answer) :
    vc'.results = vc.results := by
  cases h with
  | handled h => cases AddTripWithMapVC.handled_of_handle h with | _ => rfl
  | tapped _ h =>
    obtain ⟨rfl, _⟩ := AddTripWithMapVC.didSelectRowAt_eq_ok h
    rfl
  | fetched _ _ h =>
    obtain ⟨rfl, _⟩ := AddTripWithMapVC.placeFetched_eq_ok h
    rfl
  | notified h =>
    obtain ⟨_, _, _, _, _, _, _, _, rfl⟩ := AddTripWithMapVC.routesReady_eq_ok h
    rfl
  | predicted _ => exact absurd rfl (he _ _)
  | kept => rfl
  | typed => rfl

theorem currentResult_of_moves {app : App} {rc' : RouteCalculator} {i : ℕ} {e : Event}
    {vc vc' : AddTripWithMapVC} (h : Moves realm app rc' i e vc vc')
    (he : ∀ serial result, e ≠ .lookUpReturned serial result) :
    vc'.currentResult = vc.currentResult := by
  cases h with
  | handled h => cases AddTripWithMapVC.handled_of_handle h with | _ => rfl
  | tapped _ h =>
    obtain ⟨rfl, _⟩ := AddTripWithMapVC.didSelectRowAt_eq_ok h
    rfl
  | fetched _ _ h => exact absurd rfl (he _ _)
  | notified h =>
    obtain ⟨_, _, _, _, _, _, _, _, rfl⟩ := AddTripWithMapVC.routesReady_eq_ok h
    rfl
  | predicted _ => rfl
  | kept => rfl
  | typed => rfl

theorem results_of_autocompleteReturned (app : App) (i serial : ℕ) (answer : AutocompleteAnswer) :
    (app.autocompleteReturned realm serial answer).resultsOf i =
      ((app.resultsWrites i (.autocompleteReturned serial answer)).map Prod.snd).getD
        (app.resultsOf i) := by
  unfold autocompleteReturned
  cases hfind : app.queries.find serial with
  | none =>
    cases answer with
    | failed => rfl
    | answered results => simp [resultsWrites, hfind]
  | some j =>
    cases hj : app.screens[j]? with
    | none =>
      cases answer with
      | failed => simp [resultsWrites, resultsOf, hj]
      | answered results =>
        -- the query came from a screen that is not there: nothing is written
        have hge := List.getElem?_eq_none_iff.mp hj
        have hwrites : app.resultsWrites i (.autocompleteReturned serial (.answered results)) =
            none := by
          refine if_neg ?_
          rintro ⟨hi, hlt⟩
          rw [hfind] at hi
          cases hi
          omega
        simp [hwrites, resultsOf, hj]
    | some vc =>
      cases answer with
      | failed => simp [resultsWrites, resultsOf, hj]
      | answered results =>
        have hlt : j < app.screens.length := (List.getElem?_eq_some_iff.mp hj).1
        -- the answer goes to the screen of its query, however many were sent since
        simp only [hj, resultsOf, setScreen, resultsWrites, hfind, Option.some.injEq,
          field_set AddTripWithMapVC.results hlt]
        by_cases hij : j = i
        · subst hij
          simp [hlt, AddTripWithMapVC.reloadData]
        · simp [hij]

theorem results_of_step (i : ℕ) {app app' : App} {e : Event}
    (h : step describe realm app e = .ok app') :
    app'.resultsOf i = ((app.resultsWrites i e).map Prod.snd).getD (app.resultsOf i) := by
  cases e with
  | autocompleteReturned serial answer =>
    cases h
    exact results_of_autocompleteReturned app i serial answer
  | _ => exact field_kept rfl h (fun _ _ hmove => results_of_moves hmove (by simp))

theorem currentResult_of_lookUpReturned {app app' : App} {i serial : ℕ}
    {result : Option GMSPlace} (h : app.lookUpReturned serial result = .ok app') :
    app'.currentResultOf i =
      ((app.currentResultWrites i (.lookUpReturned serial result)).map Prod.snd).getD
        (app.currentResultOf i) := by
  unfold lookUpReturned at h
  cases hfind : app.lookups.find serial with
  | none =>
    rw [hfind] at h
    cases h
    simp [currentResultWrites, hfind]
  | some lookup =>
    simp only [hfind] at h
    cases hj : app.screens[lookup.screen]? with
    | none =>
      rw [hj] at h
      cases h
      have hge := List.getElem?_eq_none_iff.mp hj
      have hwrites : app.currentResultWrites i (.lookUpReturned serial result) = none := by
        refine if_neg ?_
        rintro ⟨hi, hlt⟩
        rw [hfind] at hi
        cases hi
        omega
      simp [hwrites]
    | some vc =>
      simp only [hj] at h
      -- the lookup's own screen takes the result; no other screen changes
      obtain ⟨⟨vc', request⟩, hfetched, h⟩ := bind_eq_ok.mp h
      cases h
      obtain ⟨rfl, _⟩ := AddTripWithMapVC.placeFetched_eq_ok hfetched
      have hlt : lookup.screen < app.screens.length := (List.getElem?_eq_some_iff.mp hj).1
      simp only [currentResultOf, setScreen, currentResultWrites, hfind, Option.map_some,
        Option.some.injEq, field_set AddTripWithMapVC.currentResult hlt]
      by_cases hij : lookup.screen = i
      · subst hij
        simp [hlt]
      · simp [hij]

theorem currentResult_of_step (i : ℕ) {app app' : App} {e : Event}
    (h : step describe realm app e = .ok app') :
    app'.currentResultOf i =
      ((app.currentResultWrites i e).map Prod.snd).getD (app.currentResultOf i) := by
  cases e with
  | lookUpReturned serial result => exact currentResult_of_lookUpReturned h
  | _ => exact field_kept rfl h (fun _ _ hmove => currentResult_of_moves hmove (by simp))

end App

namespace MatchFlow

/-- The results that the step delivers, with the number of the search they answer. -/
def potentialTripsWrites (flow : MatchFlow) :
    MatchEvent → Option (ℕ × Option (List RealmTrip))
  | .searchReturned serial (.delivered results) =>
      if (flow.searches.find serial).isSome then some (serial, results) else none
  | _ => none

theorem potentialTrips_of_step {flow flow' : MatchFlow} {e : MatchEvent}
    (h : flow.step e = .ok flow') :
    flow'.vc.potentialTrips =
      ((flow.potentialTripsWrites e).map Prod.snd).getD flow.vc.potentialTrips := by
  cases e with
  | searchReturned serial answer =>
    cases h
    unfold searchReturned
    cases hfind : flow.searches.find serial with
    | none => cases answer with
      | dropped => rfl
      | delivered results => simp [potentialTripsWrites, hfind]
    | some trip => cases answer with
      | dropped => rfl
      | delivered results =>
        simp [potentialTripsWrites, hfind, ResultsMapVC.searched, ResultsMapVC.reloadData]
  | _ => cases outcome_of_step h with | _ => rfl

end MatchFlow

/-! ## Section 2: The three loaders -/

section loaders

variable {describe : Double → String} {realm : DateSort}

theorem results_step (i : ℕ) (app : App) (e : Event) (app' : App)
    (h : (App.machine describe realm).step app e = .ok app') :
    app'.resultsOf i = ((app.resultsWrites i e).map Prod.snd).getD (app.resultsOf i) :=
  App.results_of_step i h

theorem currentResult_step (i : ℕ) (app : App) (e : Event) (app' : App)
    (h : (App.machine describe realm).step app e = .ok app') :
    app'.currentResultOf i =
      ((app.currentResultWrites i e).map Prod.snd).getD (app.currentResultOf i) :=
  App.currentResult_of_step i h

theorem potentialTrips_step (trip : RealmTrip) (flow : MatchFlow) (e : MatchEvent)
    (flow' : MatchFlow) (h : (MatchFlow.machine trip).step flow e = .ok flow') :
    flow'.vc.potentialTrips =
      ((flow.potentialTripsWrites e).map Prod.snd).getD flow.vc.potentialTrips :=
  MatchFlow.potentialTrips_of_step h

/-- **Late answers.** Each of the three fields holds the answer that arrived last.  It
    goes back to the answer of an earlier request exactly if two answers that differ
    arrive in the reverse order of their requests; when the answers arrive in order,
    it always holds that of the latest request that has delivered one. -/
theorem loaders_overwritten (i : ℕ) {es : List Event} {app : App}
    (happ : (App.machine describe realm).run {} es = .ok app)
    {trip : RealmTrip} {es' : List MatchEvent} {flow : MatchFlow}
    (hflow : (MatchFlow.machine trip).run (MatchFlow.machine trip).init es' = .ok flow) :
    LastWrite.Overwritten (App.machine describe realm) (App.resultsWrites i) (App.resultsOf i)
      {} es ∧
    LastWrite.Overwritten (App.machine describe realm) (App.currentResultWrites i)
      (App.currentResultOf i) {} es ∧
    LastWrite.Overwritten (MatchFlow.machine trip) MatchFlow.potentialTripsWrites
      (fun flow => flow.vc.potentialTrips) (MatchFlow.machine trip).init es' :=
  ⟨LastWrite.overwritten_of_run (results_step i) happ,
    LastWrite.overwritten_of_run (currentResult_step i) happ,
    LastWrite.overwritten_of_run (potentialTrips_step trip) hflow⟩

end loaders

/-- Two queries answered in reverse, two lookups answered in reverse. -/
def reversedAnswers : List Event :=
  [.favoritesChanged [⟨"Home", "H", 0⟩, ⟨"Work", "W", 1⟩], .viewDidLoad,
   .screen 0 .locationAgreed, .screen 0 (.didUpdateLocations [⟨0, 0⟩]),
   .screen 0 .searchBarTextDidBeginEditing, .textDidChange 0 "a", .textDidChange 0 "ab",
   .autocompleteReturned 1 (.answered (some [⟨some "B", "Abbey"⟩])),
   .autocompleteReturned 0 (.answered (some [⟨some "A", "Airport"⟩])),
   .textDidChange 0 "", .screen 0 .searchBarTextDidBeginEditing, .didSelectRowAt 0 0 100,
   .screen 0 .searchBarTextDidBeginEditing, .didSelectRowAt 0 1 200,
   .lookUpReturned 1 (some ⟨"Home", ⟨1, 1⟩⟩), .lookUpReturned 0 (some ⟨"Work", ⟨2, 2⟩⟩)]

/-- A search and a refresh answered in reverse. -/
def reversedSearches : List MatchEvent :=
  [.viewDidLoad, .refresh, .searchReturned 1 (.delivered (some [{ tripID := "2" }])),
   .searchReturned 0 (.delivered (some []))]

def reversedApp : Machine App Event Trap := App.machine (fun _ => "") (.insertion _)

theorem exists_run_reversedAnswers : ∃ app, reversedApp.run {} reversedAnswers = .ok app := by
  obtain ⟨app, happ, _⟩ : ∃ app, reversedApp.run {} reversedAnswers = .ok app ∧ True :=
    Machine.exists_run_eq_ok _ (by decide +kernel)
  exact ⟨app, happ⟩

theorem exists_run_reversedSearches :
    ∃ flow, (MatchFlow.machine {}).run (MatchFlow.machine {}).init reversedSearches = .ok flow := by
  obtain ⟨flow, hflow, _⟩ : ∃ flow,
      (MatchFlow.machine {}).run (MatchFlow.machine {}).init reversedSearches = .ok flow ∧ True :=
    Machine.exists_run_eq_ok _ (by decide +kernel)
  exact ⟨flow, hflow⟩

theorem loaders_overwritten_reversed :
    LastWrite.Overwritten reversedApp (App.resultsWrites 0) (App.resultsOf 0) {}
      reversedAnswers ∧
    LastWrite.Overwritten reversedApp (App.currentResultWrites 0) (App.currentResultOf 0) {}
      reversedAnswers ∧
    LastWrite.Overwritten (MatchFlow.machine {}) MatchFlow.potentialTripsWrites
      (fun flow => flow.vc.potentialTrips) (MatchFlow.machine {}).init reversedSearches := by
  obtain ⟨app, happ⟩ := exists_run_reversedAnswers
  obtain ⟨flow, hflow⟩ := exists_run_reversedSearches
  exact loaders_overwritten 0 happ hflow

/-- All three fields go from the answer of a request to another answer, of an earlier
    request. -/
theorem late_answers_replace_newer :
    LastWrite.GoesBack reversedApp (App.resultsWrites 0) (App.resultsOf 0) {}
      reversedAnswers ∧
    LastWrite.GoesBack reversedApp (App.currentResultWrites 0) (App.currentResultOf 0) {}
      reversedAnswers ∧
    LastWrite.GoesBack (MatchFlow.machine {}) MatchFlow.potentialTripsWrites
      (fun flow => flow.vc.potentialTrips) (MatchFlow.machine {}).init reversedSearches := by
  obtain ⟨app, happ⟩ := exists_run_reversedAnswers
  obtain ⟨flow, hflow⟩ := exists_run_reversedSearches
  refine ⟨(LastWrite.goesBack_iff (M := reversedApp) (results_step 0) happ).mpr ?_,
    (LastWrite.goesBack_iff (M := reversedApp) (currentResult_step 0) happ).mpr ?_,
    (LastWrite.goesBack_iff (potentialTrips_step {}) hflow).mpr ?_⟩
  · have hlog : LastWrite.runLog reversedApp (App.resultsWrites 0) {} reversedAnswers =
        [(1, some [⟨some "B", "Abbey"⟩]), (0, some [⟨some "A", "Airport"⟩])] := by decide +kernel
    rw [hlog]
    decide
  · have hlog : LastWrite.runLog reversedApp (App.currentResultWrites 0) {} reversedAnswers =
        [(1, some ⟨"Home", ⟨1, 1⟩⟩), (0, some ⟨"Work", ⟨2, 2⟩⟩)] := by decide +kernel
    rw [hlog]
    decide +kernel
  · have hlog : LastWrite.runLog (MatchFlow.machine {}) MatchFlow.potentialTripsWrites
        (MatchFlow.machine {}).init reversedSearches =
          [(1, some [{ tripID := "2" }]), (0, some [])] := by decide +kernel
    rw [hlog]
    decide +kernel

end RideHitch
