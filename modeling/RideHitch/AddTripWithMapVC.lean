import RideHitch.Library.Machine
import RideHitch.Library.Requests
import RideHitch.GooglePlaceFetcher
import RideHitch.RouteCalculator

/-! # AddTripWithMapVC

    The add-trip screen.  Section 1 has the screen and its own handlers.
    Section 2 is the app around it: the shared `RouteCalculator`, the favourite
    store, every instance of the screen opened so far, and the requests whose
    completions have not yet arrived.  One step is one call from the system.

    Requests are numbered as they are issued, and an answer names the number of
    the request it belongs to; the code itself looks at no number. -/

namespace RideHitch

/-! ## Section 1: The screen -/

/-- A row of the search list.  Its cell shows the `placeName` of a favourite or
    the `attributedFullText` of a prediction. -/
inductive ListedPlace where
  | favorite (place : FavoritePlace)
  | prediction (prediction : GMSAutocompletePrediction)
  deriving DecidableEq

/-- The place id that belongs to the row. -/
def ListedPlace.placeID : ListedPlace → Option String
  | .favorite p => some p.placeID
  | .prediction p => p.placeID

inductive MKOverlay where
  | polyline (route : MKRoute)
  | polygon (points : List CLLocationCoordinate2D)
  deriving DecidableEq

/-- `routes` is not in the source: the routes that the segments were made for. -/
structure UISegmentedControl where
  segments : List String
  selectedSegmentIndex : ℕ
  routes : List MKRoute
  deriving DecidableEq

structure CLLocationManager where
  deriving DecidableEq

/-- `rows` and `cells` belong to the table view: the row count of its last
    reload, and what the rows asked for since then were rendered with.
    `loaded` is not in the source: the list behind the last reload. -/
structure AddTripWithMapVC where
  observing : Bool := false
  tableViewIsHidden : Bool := false
  nextButtonIsEnabled : Bool := true
  routesToolbarIsHidden : Bool := false
  searchBarText : String := ""
  routesSegmentedControl : Option UISegmentedControl := none
  locationManager : Option CLLocationManager := none
  currentResult : Option GMSPlace := none
  results : Option (List GMSAutocompletePrediction) := none
  currentLocation : Option CLLocationCoordinate2D := none
  overlays : List MKOverlay := []
  rows : ℕ := 0
  cells : List (ℕ × Option ListedPlace) := []
  loaded : List ListedPlace := []
  deriving DecidableEq

namespace AddTripWithMapVC

variable (describe : Double → String) (realm : DateSort)

def viewDidLoad : AddTripWithMapVC where
  tableViewIsHidden := true
  nextButtonIsEnabled := false
  routesToolbarIsHidden := true

def viewWillAppear (vc : AddTripWithMapVC) : AddTripWithMapVC := { vc with observing := true }

def viewWillDisappear (vc : AddTripWithMapVC) : AddTripWithMapVC := { vc with observing := false }

/-- `identityId` is the id that AWS gave, `random` what `arc4random` returns. -/
def prepare (rc : RouteCalculator) (vc : AddTripWithMapVC) (now : Double) (identityId : String)
    (random : UInt32) : Except Trap Trips := do
  let origin ← unwrap .currentLocation vc.currentLocation
  let destination ← unwrap .currentResult vc.currentResult
  let values ← unwrap .routePolygonValues rc.routePolygonValues
  return {
    creationDate := now
    creatorUserID := identityId
    isDriver := false
    isMatched := false
    originLatitude := origin.latitude
    originLongitude := origin.longitude
    originName := "Current Location"
    destinationLatitude := destination.coordinate.latitude
    destinationLongitude := destination.coordinate.longitude
    destinationName := destination.name
    tripID := toString random.toNat
    polygon := ",".intercalate values }

def numberOfRowsInSection (favorites : List FavoritePlace) (vc : AddTripWithMapVC) : ℕ :=
  if vc.searchBarText = "" then (RealmInteractor.fetchFavoritePlaces realm favorites).length
  else
    match vc.results with
    | some results => results.length
    | none => 0

/-- The place whose name the cell shows, nil when there are no results. -/
def cellForRowAt (favorites : List FavoritePlace) (vc : AddTripWithMapVC) (row : ℕ) :
    Except Trap (Option ListedPlace) :=
  if vc.searchBarText = "" then do
    let favoritePlace ← subscript (RealmInteractor.fetchFavoritePlaces realm favorites) row
    return some (.favorite favoritePlace)
  else do
    let autocompletePlace ← optionalSubscript vc.results row
    return autocompletePlace.map .prediction

/-- The list that the two functions above choose by the search text. -/
def listed (favorites : List FavoritePlace) (vc : AddTripWithMapVC) : List ListedPlace :=
  if vc.searchBarText = "" then
    (RealmInteractor.fetchFavoritePlaces realm favorites).map .favorite
  else (vc.results.getD []).map .prediction

def reloadData (favorites : List FavoritePlace) (vc : AddTripWithMapVC) : AddTripWithMapVC :=
  { vc with
    rows := vc.numberOfRowsInSection realm favorites
    cells := []
    loaded := vc.listed realm favorites }

/-- The prediction, if any, and the id that `didSelectRowAt` fetches. -/
def selectedPlace (favorites : List FavoritePlace) (vc : AddTripWithMapVC) (row : ℕ) :
    Except Trap (Option GMSAutocompletePrediction × String) :=
  if vc.searchBarText = "" then do
    let favoritePlace ← subscript (RealmInteractor.fetchFavoritePlaces realm favorites) row
    return (none, favoritePlace.placeID)
  else do
    let destination ← optionalSubscript vc.results row
    let prediction ← unwrap .destination destination
    let id ← unwrap .placeID prediction.placeID
    return (some prediction, id)

/-- The id that is looked up, the favourites and the screen after the tap. -/
def didSelectRowAt (favorites : List FavoritePlace) (vc : AddTripWithMapVC) (row : ℕ)
    (now : NSDate) : Except Trap (String × List FavoritePlace × AddTripWithMapVC) := do
  -- the list is chosen by the text as it is now, not by what the table shows
  let (prediction, id) ← vc.selectedPlace realm favorites row
  let favorites ← GooglePlaceFetcher.fetchPlaceForAutocompletePrediction realm favorites
    prediction now
  return (id, favorites, { vc with tableViewIsHidden := true, searchBarText := "" })

def searchBarTextDidBeginEditing (favorites : List FavoritePlace) (vc : AddTripWithMapVC) :
    AddTripWithMapVC :=
  reloadData realm favorites { vc with tableViewIsHidden := false }

def calculateRouteToPlace (vc : AddTripWithMapVC) (place : GMSPlace) :
    Except Trap MKDirectionsRequest := do
  let source ← unwrap .currentLocation vc.currentLocation
  return RouteCalculator.calculateDirectionsForPlacemark source place.coordinate

/-- The directions request made for the current place, if there is one. -/
def addPlaceToMap (vc : AddTripWithMapVC) : Except Trap (Option MKDirectionsRequest) :=
  match vc.currentResult with
  | some place => some <$> vc.calculateRouteToPlace place
  | none => .ok none

/-- The completion that both branches of `didSelectRowAt` hand to the fetcher. -/
def placeFetched (vc : AddTripWithMapVC) (result : Option GMSPlace) :
    Except Trap (AddTripWithMapVC × Option MKDirectionsRequest) := do
  -- the place is set even to nil, and whatever place was asked for last
  let vc := { vc with currentResult := result }
  let request ← vc.addPlaceToMap
  return (vc, request)

/-- The titles of the segments.  The range `1...numRoutes` traps when it is empty. -/
def segmentTitles (rc : RouteCalculator) : Except Trap (List String) :=
  match rc.routes with
  | some routes =>
      if routes.length < 1 then .error .invalidRange
      else .ok ((List.range routes.length).map (fun i => "Route " ++ toString (i + 1)))
  | none => .ok []

def addSegmentedControl (rc : RouteCalculator) (vc : AddTripWithMapVC) :
    Except Trap AddTripWithMapVC := do
  let segments ← segmentTitles rc
  return { vc with
    routesSegmentedControl := some ⟨segments, 0, rc.routes.getD []⟩
    routesToolbarIsHidden := false }

def addRouteToMap (rc : RouteCalculator) (vc : AddTripWithMapVC) (withIndex : ℕ) :
    Except Trap AddTripWithMapVC := do
  let routes ← unwrap .routes rc.routes
  let route ← subscript routes withIndex
  let routePolygon ← unwrap .routePolygon rc.routePolygonPoints
  return { vc with
    -- nothing but `viewDidLoad` ever disables the button again
    nextButtonIsEnabled := true
    overlays := [.polyline route, .polygon routePolygon] }

def routesReady (rc : RouteCalculator) (vc : AddTripWithMapVC) : Except Trap AddTripWithMapVC := do
  let vc ← vc.addSegmentedControl rc
  vc.addRouteToMap rc 0

def changeRoute (rc : RouteCalculator) (vc : AddTripWithMapVC) (sender : UISegmentedControl) :
    Except Trap AddTripWithMapVC :=
  vc.addRouteToMap rc sender.selectedSegmentIndex

/-- The block of `requestLocationData` that runs when access is agreed to. -/
def requestLocationDataAgreed (vc : AddTripWithMapVC) : AddTripWithMapVC :=
  { vc with locationManager := some {} }

def didUpdateLocations (vc : AddTripWithMapVC) (locations : List CLLocationCoordinate2D) :
    Except Trap AddTripWithMapVC :=
  match locations.getLast? with
  | some location => do
      -- the manager is unwrapped on every delivery and cleared by the first
      let vc := { vc with currentLocation := some location }
      let _ ← unwrap .locationManager vc.locationManager
      return { vc with locationManager := none }
  | none => .ok vc

/-! ## Section 2: The app around the screen -/

/-- The calls that concern one screen only.  `tableViewLayout` is the table's
    own first load; `changeRoute` is a tap on a segment of the toolbar. -/
inductive ScreenEvent where
  | viewWillAppear
  | viewWillDisappear
  | locationAgreed
  | locationRejected
  | didUpdateLocations (locations : List CLLocationCoordinate2D)
  | searchBarTextDidBeginEditing
  | tableViewLayout
  | cellForRowAt (row : ℕ)
  | changeRoute (segment : ℕ)

/-- A row beyond the last row count is not asked for, and only segments that
    are there can be tapped. -/
def handle (rc : RouteCalculator) (favorites : List FavoritePlace) (vc : AddTripWithMapVC) :
    ScreenEvent → Except Trap AddTripWithMapVC
  | .viewWillAppear => .ok vc.viewWillAppear
  | .viewWillDisappear => .ok vc.viewWillDisappear
  | .locationAgreed => .ok vc.requestLocationDataAgreed
  | .locationRejected => .ok vc
  | .didUpdateLocations locations => vc.didUpdateLocations locations
  | .searchBarTextDidBeginEditing => .ok (vc.searchBarTextDidBeginEditing realm favorites)
  | .tableViewLayout => .ok (vc.reloadData realm favorites)
  | .cellForRowAt row =>
      if row < vc.rows then do
        let cell ← vc.cellForRowAt realm favorites row
        return { vc with cells := (row, cell) :: vc.cells }
      else .ok vc
  | .changeRoute segment =>
      match vc.routesSegmentedControl with
      | some control =>
          if segment < control.segments.length then
            let control := { control with selectedSegmentIndex := segment }
            changeRoute rc { vc with routesSegmentedControl := some control } control
          else .ok vc
      | none => .ok vc

def notify (rc : RouteCalculator) (vc : AddTripWithMapVC) : Except Trap AddTripWithMapVC :=
  if vc.observing then vc.routesReady rc else .ok vc

/-- Post `RouteCalculated`: every observing screen runs `routesReady`. -/
def post (rc : RouteCalculator) : List AddTripWithMapVC → Except Trap (List AddTripWithMapVC)
  | [] => .ok []
  | vc :: screens => do
      let notified ← vc.notify rc
      let others ← post rc screens
      return notified :: others

end AddTripWithMapVC

/-- A place lookup that has not completed, and the screen whose closure waits. -/
structure PlaceLookup where
  screen : ℕ
  placeID : String
  deriving DecidableEq

/-- A directions request and the routes of the response to it. -/
structure AnsweredDirections where
  request : MKDirectionsRequest
  routes : List MKRoute
  deriving DecidableEq

/-- A trip handed to `ConfigureTripVC`, with the directions that `RouteCalculator`
    had been given last. -/
structure BuiltTrip where
  trip : Trips
  directions : Option AnsweredDirections
  deriving DecidableEq

/-- `answered` (newest first) and `built` are histories, not in the source. -/
structure App where
  routeCalc : RouteCalculator := {}
  favorites : List FavoritePlace := []
  screens : List AddTripWithMapVC := []
  queries : Requests ℕ := .empty
  lookups : Requests PlaceLookup := .empty
  directions : Requests MKDirectionsRequest := .empty
  answered : List AnsweredDirections := []
  built : List BuiltTrip := []

/-- One call from the system.  `viewDidLoad` opens a new instance; a screen is
    named by its position among those opened. -/
inductive Event where
  | viewDidLoad
  | screen (i : ℕ) (e : AddTripWithMapVC.ScreenEvent)
  | textDidChange (i : ℕ) (searchText : String)
  | autocompleteReturned (serial : ℕ) (answer : AutocompleteAnswer)
  | favoritesChanged (favorites : List FavoritePlace)
  | didSelectRowAt (i : ℕ) (row : ℕ) (now : NSDate)
  | lookUpReturned (serial : ℕ) (result : Option GMSPlace)
  | directionsReturned (serial : ℕ) (answer : DirectionsAnswer)
  | next (i : ℕ) (now : Double) (identityId : String) (random : UInt32)

namespace App

variable (describe : Double → String) (realm : DateSort)

def setScreen (app : App) (i : ℕ) (vc : AddTripWithMapVC) : App :=
  { app with screens := app.screens.set i vc }

def screenEvent (app : App) (i : ℕ) (e : AddTripWithMapVC.ScreenEvent) : Except Trap App :=
  match app.screens[i]? with
  | some vc => do
      let vc ← vc.handle realm app.routeCalc app.favorites e
      return app.setScreen i vc
  | none => .ok app

/-- The search bar holds the new text when it calls its delegate. -/
def textDidChange (app : App) (i : ℕ) (searchText : String) : App :=
  match app.screens[i]? with
  | some vc =>
      { app.setScreen i { vc with searchBarText := searchText } with
        queries := app.queries.issue i }
  | none => app

def autocompleteReturned (app : App) (serial : ℕ) (answer : AutocompleteAnswer) : App :=
  match app.queries.find serial with
  | some i =>
      let app := { app with queries := app.queries.settle serial }
      match app.screens[i]?, answer with
      | some vc, .answered results =>
          app.setScreen i ({ vc with results := results }.reloadData realm app.favorites)
      | _, _ => app
  | none => app

/-- Only a row that the table has can be tapped, and only while it shows. -/
def didSelectRowAt (app : App) (i row : ℕ) (now : NSDate) : Except Trap App :=
  match app.screens[i]? with
  | some vc =>
      if vc.tableViewIsHidden = false ∧ row < vc.rows then do
        let (id, favorites, vc) ← vc.didSelectRowAt realm app.favorites row now
        return { app.setScreen i vc with
          favorites := favorites
          lookups := app.lookups.issue ⟨i, id⟩ }
      else .ok app
  | none => .ok app

def lookUpReturned (app : App) (serial : ℕ) (result : Option GMSPlace) : Except Trap App :=
  match app.lookups.find serial with
  | some lookup =>
      match app.screens[lookup.screen]? with
      | some vc => do
          let (vc, request) ← vc.placeFetched result
          return { app.setScreen lookup.screen vc with
            lookups := app.lookups.settle serial
            directions := match request with
              | some request => app.directions.issue request
              | none => app.directions }
      | none => .ok app
  | none => .ok app

/-- `RouteCalculated` is posted, and the answer goes into the history. -/
def routeCalculated (app : App) (request : MKDirectionsRequest) : Except Trap App := do
  let screens ← AddTripWithMapVC.post app.routeCalc app.screens
  return { app with
    screens := screens
    answered := ⟨request, app.routeCalc.routes.getD []⟩ :: app.answered }

def directionsReturned (app : App) (serial : ℕ) (answer : DirectionsAnswer) : Except Trap App :=
  match app.directions.find serial with
  | some request => do
      let (rc, posted) ← RouteCalculator.directionsHandler id describe app.routeCalc answer
      let app := { app with routeCalc := rc, directions := app.directions.settle serial }
      if posted then app.routeCalculated request else return app
  | none => .ok app

/-- A disabled button takes no taps. -/
def next (app : App) (i : ℕ) (now : Double) (identityId : String) (random : UInt32) :
    Except Trap App :=
  match app.screens[i]? with
  | some vc =>
      if vc.nextButtonIsEnabled then do
        let trip ← vc.prepare app.routeCalc now identityId random
        return { app with built := app.built ++ [⟨trip, app.answered.head?⟩] }
      else .ok app
  | none => .ok app

def step (app : App) : Event → Except Trap App
  | .viewDidLoad => .ok { app with screens := app.screens ++ [.viewDidLoad] }
  | .screen i e => app.screenEvent realm i e
  | .textDidChange i searchText => .ok (app.textDidChange i searchText)
  | .autocompleteReturned serial answer => .ok (app.autocompleteReturned realm serial answer)
  | .favoritesChanged favorites => .ok { app with favorites := favorites }
  | .didSelectRowAt i row now => app.didSelectRowAt realm i row now
  | .lookUpReturned serial result => app.lookUpReturned serial result
  | .directionsReturned serial answer => app.directionsReturned describe serial answer
  | .next i now identityId random => app.next i now identityId random

/-- The app from its start. -/
def machine : Machine App Event Trap where
  init := {}
  step := step describe realm

end App

end RideHitch
