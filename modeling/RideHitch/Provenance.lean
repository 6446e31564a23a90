import RideHitch.Fleet
import RideHitch.LateAnswers

/-! # Where the fields of a trip come from

    Locations, predictions and places reach the add-trip screens one delivery at a
    time, and Next reads whatever is there.  Section 1 follows the deliveries through
    the screens and the favourites, Section 2 into the trips, Section 3 to the rows of
    the remote table. -/

namespace RideHitch

/-! ## Section 1: From the deliveries to the screens -/

namespace App

variable {describe : Double → String} {realm : DateSort}

section

/-! `D` is the set of calls from the system that were made. -/

variable (D : Event → Prop)

def Located (i : ℕ) (location : CLLocationCoordinate2D) : Prop :=
  ∃ locations, D (.screen i (.didUpdateLocations locations)) ∧
    locations.getLast? = some location

def Listed (predictions : List GMSAutocompletePrediction) : Prop :=
  ∃ serial, D (.autocompleteReturned serial (.answered (some predictions)))

def LookedUp (place : GMSPlace) : Prop := ∃ serial, D (.lookUpReturned serial (some place))

/-- The favourite was in a store that the screens were given, or a tap on the row of a
    prediction made it, at the time of the tap. -/
def Saved (favorite : FavoritePlace) : Prop :=
  (∃ favorites, D (.favoritesChanged favorites) ∧ favorite ∈ favorites) ∨
  ∃ i row predictions prediction, D (.didSelectRowAt i row favorite.creationDate) ∧
    Listed D predictions ∧ predictions[row]? = some prediction ∧
    prediction.placeID = some favorite.placeID ∧
    prediction.attributedFullText = favorite.placeName

/-- The id of a place that a list could show. -/
def Offered (id : String) : Prop :=
  (∃ favorite, Saved D favorite ∧ favorite.placeID = id) ∨
  ∃ predictions, Listed D predictions ∧
    ∃ prediction ∈ predictions, prediction.placeID = some id

/-- From a location that was delivered to a place that was looked up. -/
def Requested (request : MKDirectionsRequest) : Prop :=
  (∃ i, Located D i request.source) ∧ ∃ place, LookedUp D place ∧
    request.destination = place.coordinate

end

/-- The last location that the screen at `i` took. -/
def locationOf (i : ℕ) (app : App) : Option CLLocationCoordinate2D :=
  app.screens[i]?.bind AddTripWithMapVC.currentLocation

/-- What the screens, the favourites and the requests hold was delivered. -/
structure Delivered (D : Event → Prop) (app : App) : Prop where
  locations : ∀ i location, app.locationOf i = some location → Located D i location
  predictions : ∀ i predictions, app.resultsOf i = some predictions → Listed D predictions
  places : ∀ i place, app.currentResultOf i = some place → LookedUp D place
  favorites : ∀ favorite ∈ app.favorites, Saved D favorite
  lookups : ∀ r ∈ app.lookups.outstanding, Offered D r.2.placeID
  directions : ∀ r ∈ app.directions.outstanding, Requested D r.2
  answered : ∀ last ∈ app.answered, Requested D last.request

variable {D : Event → Prop}

theorem delivered_init : Delivered D {} where
  locations := by simp [locationOf]
  predictions := by simp [resultsOf]
  places := by simp [currentResultOf]
  favorites := by simp
  lookups := by simp [Requests.empty]
  directions := by simp [Requests.empty]
  answered := by simp

/-- Only a delivery to the screen itself changes its location. -/
theorem location_of_moves {app : App} {rc' : RouteCalculator} {i : ℕ} {e : Event}
    {vc vc' : AddTripWithMapVC} (h : Moves realm app rc' i e vc vc') :
    vc'.currentLocation = vc.currentLocation ∨
    ∃ locations, e = .screen i (.didUpdateLocations locations) ∧
      vc'.currentLocation = locations.getLast? := by
  cases h with
  | @handled e' vc vc' h =>
    cases e' with
    | didUpdateLocations locations =>
      rcases AddTripWithMapVC.didUpdateLocations_eq_ok h with ⟨_, rfl⟩ | ⟨location, hlast, _, rfl⟩
      · exact .inl rfl
      · exact .inr ⟨locations, rfl, hlast.symm⟩
    | _ => cases AddTripWithMapVC.handled_of_handle h with | _ => exact .inl rfl
  | tapped _ h =>
    obtain ⟨rfl, _⟩ := AddTripWithMapVC.didSelectRowAt_eq_ok h
    exact .inl rfl
  | fetched _ _ h =>
    obtain ⟨rfl, _⟩ := AddTripWithMapVC.placeFetched_eq_ok h
    exact .inl rfl
  | notified h =>
    obtain ⟨_, _, _, _, _, _, _, _, rfl⟩ := AddTripWithMapVC.routesReady_eq_ok h
    exact .inl rfl
  | kept => exact .inl rfl
  | typed => exact .inl rfl
  | predicted _ => exact .inl rfl

theorem location_of_step {app app' : App} {e : Event}
    (h : step describe realm app e = .ok app') {i : ℕ} {location : CLLocationCoordinate2D}
    (hlocation : app'.locationOf i = some location) :
    app.locationOf i = some location ∨
    ∃ locations, e = .screen i (.didUpdateLocations locations) ∧
      locations.getLast? = some location := by
  obtain ⟨vc', hi, hvc'⟩ := Option.bind_eq_some_iff.mp hlocation
  rcases screens_of_step h hi with ⟨_, _, rfl⟩ | ⟨vc, hvc, hmove⟩
  · cases hvc'
  · rcases location_of_moves hmove with hkept | ⟨locations, he, hlast⟩
    · exact .inl (Option.bind_eq_some_iff.mpr ⟨vc, hvc, hkept ▸ hvc'⟩)
    · exact .inr ⟨locations, he, hlast ▸ hvc'⟩

/-- A tap leaves the favourites, or puts the prediction of its row among them. -/
theorem favorites_of_didSelectRowAt {favorites favorites' : List FavoritePlace}
    {vc vc' : AddTripWithMapVC} {row : ℕ} {now : NSDate} {id : String}
    (h : vc.didSelectRowAt realm favorites row now = .ok (id, favorites', vc')) :
    favorites' = favorites ∨
    ∃ predictions prediction, vc.results = some predictions ∧
      predictions[row]? = some prediction ∧ prediction.placeID = some id ∧
      favorites' = Eviction.put realm 5 favorites ⟨prediction.attributedFullText, id, now⟩ := by
  obtain ⟨⟨prediction, id'⟩, hselected, h⟩ := bind_eq_ok.mp h
  obtain ⟨favorites₁, hfavorites, h⟩ := bind_pure_eq_ok.mp h
  cases h
  unfold AddTripWithMapVC.selectedPlace at hselected
  split_ifs at hselected with htext
  · obtain ⟨favorite, _, h⟩ := bind_pure_eq_ok.mp hselected
    cases h
    exact .inl (Except.ok.inj hfavorites).symm
  · obtain ⟨destination, hdestination, h⟩ := bind_eq_ok.mp hselected
    obtain ⟨p, hp, h⟩ := bind_eq_ok.mp h
    obtain ⟨id', hid, h⟩ := bind_eq_ok.mp h
    cases h
    rw [unwrap_eq_ok] at hp hid
    subst hp
    rw [show GooglePlaceFetcher.fetchPlaceForAutocompletePrediction realm favorites (some p) now =
      _ from GooglePlaceFetcher.fetchPlaceForAutocompletePrediction_ok realm favorites hid now]
      at hfavorites
    have hrow := optionalSubscript_eq_ok.mp hdestination
    cases hresults : vc.results with
    | none => simp [hresults] at hrow
    | some predictions =>
      rw [hresults] at hrow
      exact .inr ⟨predictions, p, rfl, hrow, hid, (Except.ok.inj hfavorites).symm⟩

/-- What is put into the store is all that is new there. -/
theorem favorites_of_step {app app' : App} {e : Event} (h : step describe realm app e = .ok app')
    {favorite : FavoritePlace} (hfavorite : favorite ∈ app'.favorites) :
    favorite ∈ app.favorites ∨ e = .favoritesChanged app'.favorites ∨
    ∃ i row predictions prediction, e = .didSelectRowAt i row favorite.creationDate ∧
      app.resultsOf i = some predictions ∧ predictions[row]? = some prediction ∧
      prediction.placeID = some favorite.placeID ∧
      prediction.attributedFullText = favorite.placeName := by
  cases outcome_of_step h with
  | saved => exact .inr (.inl rfl)
  | @tapped i row now id favorites vc vc' hi hrow htap =>
    rcases favorites_of_didSelectRowAt htap with
      rfl | ⟨predictions, prediction, hresults, hshown, hid, rfl⟩
    · exact .inl hfavorite
    · rcases Eviction.mem_of_put realm 5 hfavorite with hold | rfl
      · exact .inl hold
      · exact .inr (.inr ⟨i, row, predictions, prediction, rfl,
          by simp [resultsOf, hi, hresults], hshown, hid, rfl⟩)
  | _ => exact .inl hfavorite

/-- A lookup that is new asks for the id of a favourite or of a prediction. -/
theorem lookups_of_step {app app' : App} {e : Event} (h : step describe realm app e = .ok app')
    {r : ℕ × PlaceLookup} (hr : r ∈ app'.lookups.outstanding) :
    r ∈ app.lookups.outstanding ∨
    (∃ favorite ∈ app.favorites, favorite.placeID = r.2.placeID) ∨
    ∃ i predictions prediction, app.resultsOf i = some predictions ∧ prediction ∈ predictions ∧
      prediction.placeID = some r.2.placeID := by
  cases outcome_of_step h with
  | @tapped i row now id favorites vc vc' hi hrow htap =>
    rcases List.mem_append.mp hr with hr | hr
    · exact .inl hr
    · rw [List.mem_singleton.mp hr]
      obtain ⟨_, place, hplace, hid⟩ := AddTripWithMapVC.didSelectRowAt_eq_ok htap
      have hmem := List.mem_of_getElem? hplace
      unfold AddTripWithMapVC.listed at hmem
      split_ifs at hmem with htext
      · obtain ⟨favorite, hfavorite, rfl⟩ := List.mem_map.mp hmem
        exact .inr (.inl ⟨favorite, realm.mem_sorted.mp hfavorite, Option.some.inj hid⟩)
      · obtain ⟨prediction, hprediction, rfl⟩ := List.mem_map.mp hmem
        cases hresults : vc.results with
        | none => simp [hresults] at hprediction
        | some predictions =>
          rw [hresults] at hprediction
          exact .inr (.inr ⟨i, predictions, prediction, by simp [resultsOf, hi, hresults],
            hprediction, hid⟩)
  | fetched _ _ _ => exact .inl (List.mem_of_mem_filter hr)
  | _ => exact .inl hr

/-- A directions request that is new goes from the location of a screen to the place
    that a lookup has just returned. -/
theorem directions_of_lookUpReturned {app app' : App} {serial : ℕ} {result : Option GMSPlace}
    (h : app.lookUpReturned serial result = .ok app') {r : ℕ × MKDirectionsRequest}
    (hr : r ∈ app'.directions.outstanding) :
    r ∈ app.directions.outstanding ∨
    ∃ i place, app.locationOf i = some r.2.source ∧ result = some place ∧
      r.2.destination = place.coordinate := by
  unfold lookUpReturned at h
  cases hfind : app.lookups.find serial with
  | none =>
    rw [hfind] at h
    rw [← Except.ok.inj h] at hr
    exact .inl hr
  | some lookup =>
    simp only [hfind] at h
    cases hi : app.screens[lookup.screen]? with
    | none =>
      rw [hi] at h
      rw [← Except.ok.inj h] at hr
      exact .inl hr
    | some vc =>
      simp only [hi] at h
      obtain ⟨⟨vc', request⟩, hfetched, h⟩ := bind_eq_ok.mp h
      rw [← Except.ok.inj h] at hr
      rcases AddTripWithMapVC.placeFetched_eq_ok hfetched with
        ⟨_, ⟨_, rfl⟩ | ⟨place, location, hresult, hlocation, rfl⟩⟩
      · exact .inl hr
      · rcases List.mem_append.mp hr with hr | hr
        · exact .inl hr
        · rw [List.mem_singleton.mp hr]
          exact .inr ⟨lookup.screen, place, by simp [locationOf, hi, hlocation], hresult, rfl⟩

theorem directions_of_step {app app' : App} {e : Event}
    (h : step describe realm app e = .ok app') {r : ℕ × MKDirectionsRequest}
    (hr : r ∈ app'.directions.outstanding) :
    r ∈ app.directions.outstanding ∨
    ∃ i serial place, app.locationOf i = some r.2.source ∧
      e = .lookUpReturned serial (some place) ∧ r.2.destination = place.coordinate := by
  cases e with
  | lookUpReturned serial result =>
    rcases directions_of_lookUpReturned h hr with hr | ⟨i, place, hlocation, rfl, hplace⟩
    · exact .inl hr
    · exact .inr ⟨i, serial, place, hlocation, rfl, hplace⟩
  | directionsReturned serial answer =>
    cases outcome_of_step h with
    | idle _ => exact .inl hr
    | failed => exact .inl (List.mem_of_mem_filter hr)
    | answered _ _ _ _ => exact .inl (List.mem_of_mem_filter hr)
  | _ => cases outcome_of_step h with | _ => exact .inl hr

/-- A response is recorded for a request that was outstanding. -/
theorem answered_from_step {app app' : App} {e : Event}
    (h : step describe realm app e = .ok app') {last : AnsweredDirections}
    (hlast : last ∈ app'.answered) :
    last ∈ app.answered ∨ ∃ serial, (serial, last.request) ∈ app.directions.outstanding := by
  cases outcome_of_step h with
  | @answered serial request routes rc route box screens hfind _ _ _ =>
    rcases List.mem_cons.mp hlast with rfl | hlast
    · exact .inr ⟨serial, Requests.find_eq_some.mp hfind⟩
    · exact .inl hlast
  | _ => exact .inl hlast

/-- **One step** keeps what all hold delivered, if the step itself was. -/
theorem delivered_step {app app' : App} {e : Event} (hs : app.Delivered D)
    (he : e = .viewDidLoad ∨ D e) (h : step describe realm app e = .ok app') :
    app'.Delivered D where
  locations := by
    intro i location hlocation
    rcases location_of_step h hlocation with hold | ⟨locations, rfl, hlast⟩
    · exact hs.locations i location hold
    · exact ⟨locations, he.resolve_left (by simp), hlast⟩
  predictions := by
    intro i predictions hpredictions
    rw [results_of_step i h] at hpredictions
    unfold resultsWrites at hpredictions
    split at hpredictions
    next serial results =>
      split_ifs at hpredictions
      · have hsame : results = some predictions := hpredictions
        subst hsame
        exact ⟨serial, he.resolve_left (by simp)⟩
      · exact hs.predictions i predictions hpredictions
    · exact hs.predictions i predictions hpredictions
  places := by
    intro i place hplace
    rw [currentResult_of_step i h] at hplace
    unfold currentResultWrites at hplace
    split at hplace
    next serial result =>
      split_ifs at hplace
      · have hsame : result = some place := hplace
        subst hsame
        exact ⟨serial, he.resolve_left (by simp)⟩
      · exact hs.places i place hplace
    · exact hs.places i place hplace
  favorites := by
    intro favorite hfavorite
    rcases favorites_of_step h hfavorite with
      hold | rfl | ⟨i, row, predictions, prediction, rfl, hpredictions, hshown, hid, hname⟩
    · exact hs.favorites favorite hold
    · exact .inl ⟨_, he.resolve_left (by simp), hfavorite⟩
    · exact .inr ⟨i, row, predictions, prediction, he.resolve_left (by simp),
        hs.predictions i predictions hpredictions, hshown, hid, hname⟩
  lookups := by
    intro r hr
    rcases lookups_of_step h hr with
      hold | ⟨favorite, hfavorite, hid⟩ | ⟨i, predictions, prediction, hpredictions, hmem, hid⟩
    · exact hs.lookups r hold
    · exact .inl ⟨favorite, hs.favorites favorite hfavorite, hid⟩
    · exact .inr ⟨predictions, hs.predictions i predictions hpredictions, prediction, hmem, hid⟩
  directions := by
    intro r hr
    rcases directions_of_step h hr with hold | ⟨i, serial, place, hlocation, rfl, hplace⟩
    · exact hs.directions r hold
    · exact ⟨⟨i, hs.locations i _ hlocation⟩, place, ⟨serial, he.resolve_left (by simp)⟩, hplace⟩
  answered := by
    intro last hlast
    rcases answered_from_step h hlast with hold | ⟨serial, hrequest⟩
    · exact hs.answered last hold
    · exact hs.directions _ hrequest

/-- **Nothing is asked that was not offered.** In every run, every favourite is from a
    store that the screens were given or from a tap on the row of a prediction that was
    delivered, every place that is being looked up has the id of such a favourite or of
    a prediction, and all directions are asked for, and answered, from a delivered
    location to a place looked up. -/
theorem requests_from_deliveries {es : List Event} {app : App}
    (h : (machine describe realm).run {} es = .ok app) :
    (∀ favorite ∈ app.favorites, Saved (· ∈ es) favorite) ∧
    (∀ r ∈ app.lookups.outstanding, Offered (· ∈ es) r.2.placeID) ∧
    (∀ r ∈ app.directions.outstanding, Requested (· ∈ es) r.2) ∧
    ∀ last ∈ app.answered, Requested (· ∈ es) last.request := by
  have hstep : ∀ app e app', e ∈ es → app.Delivered (· ∈ es) →
      (machine describe realm).step app e = .ok app' → app'.Delivered (· ∈ es) := by
    intro app e app' he hs hstep
    exact delivered_step hs (.inr he) hstep
  have hs := Machine.run_preserves_on hstep (fun e he => he) delivered_init h
  exact ⟨hs.favorites, hs.lookups, hs.directions, hs.answered⟩

theorem requests_from_deliveries_firstRoute : ∃ app,
    (machine describeCorner (.insertion _)).run {} firstRoute = .ok app ∧
    ∃ last ∈ app.answered, Requested (· ∈ firstRoute) last.request := by
  have hevaluated : ∃ app, (machine describeCorner (.insertion _)).run {} firstRoute = .ok app ∧
      app.answered ≠ [] :=
    Machine.exists_run_eq_ok _ (by decide +kernel)
  obtain ⟨app, hrun, hne⟩ := hevaluated
  obtain ⟨last, hlast⟩ := List.exists_mem_of_ne_nil _ hne
  obtain ⟨_, _, _, hanswered⟩ := requests_from_deliveries hrun
  exact ⟨app, hrun, last, hlast, hanswered last hlast⟩

/-! ## Section 2: From the screens to the trips -/

/-- What Next wrote into a trip was delivered, the location to the screen that the
    button is on. -/
structure BuiltFrom (D : Event → Prop) (trip : Trips) : Prop where
  tapped : ∃ i random, D (.next i trip.creationDate trip.creatorUserID random) ∧
    trip.tripID = toString random.toNat ∧
    Located D i ⟨trip.originLatitude, trip.originLongitude⟩
  destination : ∃ place, LookedUp D place ∧ trip.destinationName = place.name ∧
    (⟨trip.destinationLatitude, trip.destinationLongitude⟩ : CLLocationCoordinate2D) =
      place.coordinate

theorem builtFrom_of_prepare {app : App} (hs : app.Delivered D) {i : ℕ} {now : Double}
    {identityId : String} {random : UInt32} (he : D (.next i now identityId random))
    {vc : AddTripWithMapVC} (hi : app.screens[i]? = some vc) {trip : Trips}
    (h : vc.prepare app.routeCalc now identityId random = .ok trip) : BuiltFrom D trip := by
  obtain ⟨origin, horigin, h⟩ := bind_eq_ok.mp h
  obtain ⟨destination, hdestination, h⟩ := bind_eq_ok.mp h
  obtain ⟨values, _, rfl⟩ := bind_pure_eq_ok.mp h
  have hlocation : app.locationOf i = some origin := by
    simp [locationOf, hi, unwrap_eq_ok.mp horigin]
  have hplace : app.currentResultOf i = some destination := by
    simp [currentResultOf, hi, unwrap_eq_ok.mp hdestination]
  exact ⟨⟨i, random, he, rfl, hs.locations i origin hlocation⟩,
    destination, hs.places i destination hplace, rfl, rfl⟩

end App

/-! ## Section 3: From the trips to the rows -/

namespace Fleet

variable {describe : Double → String} {realm : DateSort} {date : String → Option NSDate}
  {jsonObject : String → Option Json} {double : String → Option Double}

/-- The calls that were made to the add-trip screens of a device. -/
def calls (es : List FleetEvent) (device : ℕ) (e : Event) : Prop := .app device e ∈ es

/-- The times of the save are those of a press on its own trip. -/
def TimedBy (date : String → Option NSDate) (es : List FleetEvent) (save : Save) : Prop :=
  ∃ depature arrival, .requestButtonPressed save.device save.trip depature arrival ∈ es ∧
    date depature = some save.row.originDate ∧ date arrival = some save.row.destinationDate

structure Sourced (date : String → Option NSDate) (es : List FleetEvent) (fleet : Fleet) :
    Prop where
  apps : ∀ device, (fleet.apps device).Delivered (calls es device)
  trips : fleet.cloud.Carries (fun device trip => App.BuiltFrom (calls es device) trip)
  timed : ∀ upload ∈ fleet.cloud.issued, TimedBy date es upload.2

variable {es : List FleetEvent}

theorem sourced_init : Sourced date es {} where
  apps := fun _ => App.delivered_init
  trips := Cloud.carries_init _
  timed := by simp

theorem builtFrom_of_pressed {D : Event → Prop} {object uploaded : Trips}
    (h : App.BuiltFrom D object) (hpressed : Cloud.Pressed date object uploaded) :
    App.BuiltFrom D uploaded := by
  obtain ⟨depature, arrival, hpressed⟩ := hpressed
  obtain ⟨trip, _, _, geohash, htrip, _, _, _, rfl⟩ :=
    ConfigureTripVC.requestButtonPressed_eq_ok hpressed
  cases htrip
  exact ⟨h.tapped, h.destination⟩

/-- A step that makes no trip carries on what the trips have. -/
theorem builtFrom_step {cloud : Cloud} {e : CloudEvent}
    (hprepare : ∀ device rc vc now identityId random,
      e ≠ .prepare device rc vc now identityId random)
    (h : cloud.Carries (fun device trip => App.BuiltFrom (calls es device) trip)) :
    (cloud.step date e).Carries (fun device trip => App.BuiltFrom (calls es device) trip) := by
  apply h.step
  · intro device object uploaded hfrom hpressed
    exact builtFrom_of_pressed hfrom hpressed
  · intro device rc vc now identityId random trip heq _
    exact absurd heq (hprepare device rc vc now identityId random)

/-- Only a press issues a save, with the times of its two texts. -/
theorem issued_of_press {cloud : Cloud} {device trip : ℕ} {depature arrival : String}
    {upload : ℕ × Save}
    (h : upload ∈ (cloud.step date (.requestButtonPressed device trip depature arrival)).issued) :
    upload ∈ cloud.issued ∨ upload.2.owner = (device, trip) ∧
      date depature = some upload.2.row.originDate ∧
      date arrival = some upload.2.row.destinationDate := by
  simp only [Cloud.step, Cloud.requestButtonPressed] at h
  split_ifs at h
  · cases hobject : (cloud.devices device).trips[trip]? with
    | none =>
      rw [hobject] at h
      exact .inl h
    | some object =>
      simp only [hobject] at h
      cases huploaded :
          (ConfigureTripVC.mk (some object) depature arrival).requestButtonPressed date with
      | error t =>
        rw [huploaded] at h
        exact .inl h
      | ok uploaded =>
        rw [huploaded] at h
        obtain ⟨_, originDate, destinationDate, _, _, horigin, hdestination, _, rfl⟩ :=
          ConfigureTripVC.requestButtonPressed_eq_ok huploaded
        rcases List.mem_append.mp h with h | h
        · exact .inl h
        · rw [List.mem_singleton.mp h]
          exact .inr ⟨rfl, horigin, hdestination⟩
  · exact .inl h

/-- A step of one app, on a call that was made to it. -/
theorem delivered_update {fleet : Fleet} {device : ℕ} {e : Event} {app : App}
    (hs : ∀ device, (fleet.apps device).Delivered (calls es device))
    (he : e = .viewDidLoad ∨ calls es device e)
    (hstep : (fleet.apps device).step describe realm e = .ok app) (other : ℕ) :
    (Function.update fleet.apps device app other).Delivered (calls es other) := by
  by_cases hother : other = device
  · subst hother
    rw [Function.update_self]
    exact App.delivered_step (hs other) he hstep
  · rw [Function.update_of_ne hother]
    exact hs other

/-- **One step** of the fleet, on one of the events. -/
theorem sourced_step {fleet fleet' : Fleet} {fe : FleetEvent} (he : fe ∈ es)
    (hs : fleet.Sourced date es)
    (h : Outcome describe realm date jsonObject double fleet fe fleet') :
    fleet'.Sourced date es := by
  cases h with
  | idle => exact hs
  | @stopped _ device _ => exact ⟨hs.apps, hs.trips.stop device, hs.timed⟩
  | moved hstep => exact ⟨delivered_update hs.apps (.inr he) hstep, hs.trips, hs.timed⟩
  | @built device i now identityId random app vc trip _ hstep hi htrip =>
    have hbuilt : ∀ trip', (.ok trip : Except Trap Trips) = .ok trip' →
        App.BuiltFrom (calls es device) trip' := by
      intro trip' htrip'
      rw [← Except.ok.inj htrip']
      exact App.builtFrom_of_prepare (hs.apps device) he hi htrip
    exact ⟨delivered_update hs.apps (.inr he) hstep, hs.trips.prepare hbuilt, hs.timed⟩
  | @listed device e tab app _ _ happ =>
    rcases happ with rfl | hopened
    · rw [Function.update_eq_self]
      exact ⟨hs.apps, hs.trips, hs.timed⟩
    · exact ⟨delivered_update hs.apps (.inl rfl) hopened, hs.trips, hs.timed⟩
  | @pressed device trip depature arrival =>
    have htrips : (fleet.cloud.step date
        (.requestButtonPressed device trip depature arrival)).Carries
        (fun device trip => App.BuiltFrom (calls es device) trip) :=
      builtFrom_step (by simp) hs.trips
    refine ⟨hs.apps, htrips, ?_⟩
    intro upload hupload
    rcases issued_of_press hupload with hold | ⟨howner, horigin, hdestination⟩
    · exact hs.timed upload hold
    · obtain ⟨rfl, rfl⟩ := Prod.mk.inj howner
      exact ⟨depature, arrival, he, horigin, hdestination⟩
  | @tookEffect serial =>
    have hissued : (fleet.cloud.step date (.tookEffect serial)).issued = fleet.cloud.issued :=
      fleet.cloud.issued_of_step (by simp)
    have htrips : (fleet.cloud.step date (.tookEffect serial)).Carries
        (fun device trip => App.BuiltFrom (calls es device) trip) :=
      builtFrom_step (by simp) hs.trips
    refine ⟨hs.apps, htrips, ?_⟩
    intro upload hupload
    exact hs.timed upload (hissued ▸ hupload)
  | @returned serial error =>
    have hissued : (fleet.cloud.step date (.saveReturned serial error)).issued =
        fleet.cloud.issued := fleet.cloud.issued_of_step (by simp)
    have htrips : (fleet.cloud.step date (.saveReturned serial error)).Carries
        (fun device trip => App.BuiltFrom (calls es device) trip) :=
      builtFrom_step (by simp) hs.trips
    refine ⟨hs.apps, htrips, ?_⟩
    intro upload hupload
    exact hs.timed upload (hissued ▸ hupload)

theorem sourced_of_run {fleet : Fleet}
    (h : (machine describe realm date jsonObject double).run {} es = .ok fleet) :
    fleet.Sourced date es := by
  have hstep : ∀ fleet e fleet', e ∈ es → fleet.Sourced date es →
      (machine describe realm date jsonObject double).step fleet e = .ok fleet' →
      fleet'.Sourced date es := by
    intro fleet e fleet' he hs hstep
    rw [← Except.ok.inj hstep]
    have houtcome : Outcome describe realm date jsonObject double fleet e
        (fleet.step describe realm date jsonObject double e) := outcome_of_step fleet e
    exact sourced_step he hs houtcome
  exact Machine.run_preserves_on hstep (fun e he => he) sourced_init h

/-- A save of the device sent the row, which has the key of the trip object of the save:
    it was built by calls to the device, with the times of a press on that trip. -/
def SentFrom (date : String → Option NSDate) (es : List FleetEvent) (fleet : Fleet) (device : ℕ)
    (row : Trips) : Prop :=
  ∃ upload ∈ fleet.cloud.issued, upload.2.device = device ∧ upload.2.row = row ∧
    (∃ object, (fleet.cloud.devices device).trips[upload.2.trip]? = some object ∧
      object.key = row.key) ∧
    App.BuiltFrom (calls es device) row ∧ TimedBy date es upload.2

theorem sentFrom_of_issued {fleet : Fleet} (hs : fleet.Sourced date es)
    (hmirrored : fleet.cloud.Mirrored) {upload : ℕ × Save} (h : upload ∈ fleet.cloud.issued) :
    SentFrom date es fleet upload.2.device upload.2.row := by
  obtain ⟨sent, _, _, hkey, hobject⟩ := hmirrored.object_sent upload h
  exact ⟨upload, h, rfl, rfl, ⟨sent.2.row, hobject, hkey⟩, hs.trips.rows upload h,
    hs.timed upload h⟩

/-- **Rows are what one device was told.** In every run every row of the table was
    built on one device: by a tap on Next, with its time, user and random id, at a
    location delivered to the screen of that tap, towards a place that a lookup of
    this device returned, and with the times of the two texts of a press on the trip of
    the row.  A local copy was built on its own device in the same way. -/
theorem rows_from_deliveries {fleet : Fleet}
    (h : (machine describe realm date jsonObject double).run {} es = .ok fleet) :
    (∀ key row, fleet.cloud.table key = some row →
      ∃ device, SentFrom date es fleet device row) ∧
    ∀ device, ∀ copy ∈ (fleet.tabs device).realmTrips,
      ∃ row, SentFrom date es fleet device row ∧ copy = RealmTrip.create row := by
  have hs := sourced_of_run h
  have hinv := fleetInv_of_run h
  obtain ⟨_, hcloud⟩ := cloud_of_run h
  obtain ⟨hsound, hmirrored⟩ := Cloud.sound_of_run hcloud
  constructor
  · intro key row hrow
    obtain ⟨upload, hupload, rfl⟩ := Cloud.exists_upload hsound hrow
    have hissued := hsound.issued_of_effected upload hupload
    exact ⟨upload.2.device, sentFrom_of_issued hs hmirrored hissued⟩
  · intro device copy hcopy
    rw [hinv.stores device] at hcopy
    -- the copy is of the object as some save of the device had sent it
    obtain ⟨sent, hsent, rfl, rfl, _⟩ := Cloud.exists_sent_of_copy hsound hmirrored hcopy
    exact ⟨sent.2.row, sentFrom_of_issued hs hmirrored hsent, rfl⟩

theorem rows_from_deliveries_firstRide : ∃ fleet, sampleFleet.run {} firstRide = .ok fleet ∧
    (∃ row device, SentFrom ConfigureTripVC.sampleDate firstRide fleet device row) ∧
    ∃ copy ∈ (fleet.tabs 0).realmTrips, ∃ row,
      SentFrom ConfigureTripVC.sampleDate firstRide fleet 0 row ∧ copy = RealmTrip.create row := by
  have hrun : ∃ fleet, sampleFleet.run {} firstRide = .ok fleet ∧
      (fleet.cloud.table (some (.string "s000"), some (.string "7"))).isSome ∧
      (fleet.tabs 0).realmTrips ≠ [] :=
    Machine.exists_run_eq_ok _ (by decide +kernel)
  obtain ⟨fleet, hrun, hrow, hne⟩ := hrun
  obtain ⟨row, hrow⟩ := Option.isSome_iff_exists.mp hrow
  obtain ⟨copy, hcopy⟩ := List.exists_mem_of_ne_nil _ hne
  obtain ⟨hrows, hcopies⟩ := rows_from_deliveries hrun
  obtain ⟨device, hsent⟩ := hrows _ row hrow
  exact ⟨fleet, hrun, ⟨row, device, hsent⟩, copy, hcopy, hcopies 0 copy hcopy⟩

end Fleet

end RideHitch
