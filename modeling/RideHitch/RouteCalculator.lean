import RideHitch.Geohash
import RideHitch.Trips

/-! # RouteCalculator

    The process-wide calculator.  A successful answer to a directions request
    replaces the routes and derives, from the first one, the corners of its
    bounding box with a margin, in three forms; it then posts the notification
    `RouteCalculated`.  A failed answer changes nothing. -/

namespace RideHitch

structure MKRoute where
  polyline : List CLLocationCoordinate2D
  deriving DecidableEq

structure MKDirectionsRequest where
  source : CLLocationCoordinate2D
  destination : CLLocationCoordinate2D
  deriving DecidableEq

/-- What `MKDirections.calculate` hands to its handler: an error, or the routes
    of the response. -/
inductive DirectionsAnswer where
  | failed
  | answered (routes : Option (List MKRoute))
  deriving DecidableEq

structure RouteCalculator where
  routes : Option (List MKRoute) := none
  routePolygonPoints : Option (List CLLocationCoordinate2D) := none
  routePolygonValues : Option (List String) := none
  routePolygonGeohash : Option String := none
  deriving DecidableEq

namespace RouteCalculator

/-! ## Section 1: Model

    `round` is the rounding of the arithmetic, `describe` is Swift's
    `String(_: Double)`. -/

variable (round : Double → Double) (describe : Double → String)

def calculateDirectionsForPlacemark (fromPlace toPlace : CLLocationCoordinate2D) :
    MKDirectionsRequest where
  source := fromPlace
  destination := toPlace

def calculateDirectionsForTrip (trip : Trips) : MKDirectionsRequest where
  source := ⟨trip.originLatitude, trip.originLongitude⟩
  destination := ⟨trip.destinationLatitude, trip.destinationLongitude⟩

/-- The local variables `minX`, `maxX`, `minY`, `maxY` of `calculatePolygonForRoute`;
    `X` is the latitude. -/
structure Box where
  minX : Double
  maxX : Double
  minY : Double
  maxY : Double
  deriving DecidableEq

/-- The literal `0.005`. -/
def factor : Double := round (5 / 1000)

def boundingBox (coords : List CLLocationCoordinate2D) : Except Trap Box := do
  let latArray := coords.map (·.latitude)
  let longArray := coords.map (·.longitude)
  let minLat ← unwrap .extremum latArray.min?
  let maxLat ← unwrap .extremum latArray.max?
  let minLong ← unwrap .extremum longArray.min?
  let maxLong ← unwrap .extremum longArray.max?
  return ⟨round (minLat - factor round), round (maxLat + factor round),
    round (minLong - factor round), round (maxLong + factor round)⟩

namespace Box

def point1 (box : Box) : CLLocationCoordinate2D := ⟨box.minX, box.minY⟩
def point2 (box : Box) : CLLocationCoordinate2D := ⟨box.maxX, box.minY⟩
def point3 (box : Box) : CLLocationCoordinate2D := ⟨box.maxX, box.maxY⟩
def point4 (box : Box) : CLLocationCoordinate2D := ⟨box.minX, box.maxY⟩

def points (box : Box) : List CLLocationCoordinate2D :=
  [box.point1, box.point2, box.point3, box.point4]

def values (box : Box) : List String :=
  [describe box.minX, describe box.minY, describe box.maxX, describe box.maxY]

def geohash (box : Box) : Except Trap String := do
  let hash1 ← Geohash.encode round box.point1.latitude box.point1.longitude 10
  let hash2 ← Geohash.encode round box.point2.latitude box.point2.longitude 10
  let hash3 ← Geohash.encode round box.point3.latitude box.point3.longitude 10
  let hash4 ← Geohash.encode round box.point4.latitude box.point4.longitude 10
  return hash1 ++ "_" ++ hash2 ++ "_" ++ hash3 ++ "_" ++ hash4

end Box

def calculatePolygonForRoute (rc : RouteCalculator) : Except Trap RouteCalculator := do
  -- nil routes give a nil route, an empty list traps
  let route ← optionalSubscript rc.routes 0
  let coords ← unwrap .pointCount (route.map (·.polyline))
  let box ← boundingBox round coords
  let hash ← box.geohash round
  return { rc with
    routePolygonPoints := some box.points
    routePolygonValues := some (box.values describe)
    routePolygonGeohash := some hash }

/-- The handler given to `MKDirections.calculate`, the same in both request
    paths.  The flag says whether `RouteCalculated` was posted. -/
def directionsHandler (rc : RouteCalculator) :
    DirectionsAnswer → Except Trap (RouteCalculator × Bool)
  | .failed => .ok (rc, false)
  | .answered routes => do
      -- the routes are replaced before anything is derived from them
      let rc ← calculatePolygonForRoute round describe { rc with routes := routes }
      return (rc, true)

/-! ## Section 2: What an answer leaves behind -/

theorem Box.geohash_ok (box : Box) : ∃ hash, box.geohash round = .ok hash := by
  simp only [Box.geohash, Geohash.encode_eq, ok_bind]
  exact ⟨_, rfl⟩

/-- A box is known from its corners. -/
theorem Box.points_injective : Function.Injective Box.points := by
  rintro ⟨minX, maxX, minY, maxY⟩ ⟨minX', maxX', minY', maxY'⟩ h
  -- the first and the third corner have all four bounds
  simp only [Box.points, Box.point1, Box.point3, List.cons.injEq,
    CLLocationCoordinate2D.mk.injEq] at h
  obtain ⟨⟨rfl, rfl⟩, _, ⟨rfl, rfl⟩, _⟩ := h
  rfl

theorem boundingBox_ok {coords : List CLLocationCoordinate2D} (h : coords ≠ []) :
    ∃ box, boundingBox round coords = .ok box := by
  cases coords with
  | nil => exact absurd rfl h
  | cons c coords => exact ⟨_, rfl⟩

/-- The polygon fields all come from the first route. -/
structure FromRoute (rc : RouteCalculator) (route : MKRoute) (box : Box) : Prop where
  routes : ∃ others, rc.routes = some (route :: others)
  bounds : boundingBox round route.polyline = .ok box
  points : rc.routePolygonPoints = some box.points
  values : rc.routePolygonValues = some (box.values describe)
  geohash : ∃ hash, box.geohash round = .ok hash ∧ rc.routePolygonGeohash = some hash

variable {round describe}

theorem calculatePolygonForRoute_eq_ok {rc rc' : RouteCalculator}
    (h : calculatePolygonForRoute round describe rc = .ok rc') :
    rc'.routes = rc.routes ∧ ∃ route box, rc'.FromRoute round describe route box := by
  obtain ⟨first, hfirst, h⟩ := bind_eq_ok.mp h
  obtain ⟨coords, hcoords, h⟩ := bind_eq_ok.mp h
  obtain ⟨box, hbox, h⟩ := bind_eq_ok.mp h
  obtain ⟨hash, hhash, rfl⟩ := bind_pure_eq_ok.mp h
  -- the point count was not nil, so there is a first route
  obtain ⟨route, hroute, rfl⟩ := Option.map_eq_some_iff.mp (unwrap_eq_ok.mp hcoords)
  subst hroute
  obtain ⟨others, hothers⟩ := optionalSubscript_zero_eq_ok.mp hfirst
  exact ⟨rfl, route, box, ⟨others, hothers⟩, hbox, rfl, rfl, hash, hhash, rfl⟩

/-- **Answers.** A failed answer changes no field and posts nothing.  A response
    that does not trap replaces the routes and derives the polygon from the
    first one, whatever was there before. -/
theorem directionsHandler_eq_ok {rc rc' : RouteCalculator} {answer : DirectionsAnswer}
    {posted : Bool} (h : directionsHandler round describe rc answer = .ok (rc', posted)) :
    (answer = .failed ∧ rc' = rc ∧ posted = false) ∨
    (posted = true ∧ ∃ routes, answer = .answered (some routes) ∧ rc'.routes = some routes ∧
      ∃ route box, rc'.FromRoute round describe route box) := by
  cases answer with
  | failed =>
    obtain ⟨rfl, rfl⟩ := Prod.mk.inj (Except.ok.inj h)
    exact .inl ⟨rfl, rfl, rfl⟩
  | answered routes =>
    right
    obtain ⟨rc₁, hcalc, h⟩ := bind_pure_eq_ok.mp h
    obtain ⟨rfl, rfl⟩ := Prod.mk.inj h
    obtain ⟨hroutes, route, box, hfrom⟩ := calculatePolygonForRoute_eq_ok hcalc
    obtain ⟨others, hothers⟩ := hfrom.routes
    have hsome : routes = some (route :: others) := hroutes.symm.trans hothers
    exact ⟨rfl, route :: others, by rw [hsome], hothers, route, box, hfrom⟩

variable (round describe) in
/-- A first route with a point is enough, and the fields are derived from it. -/
theorem calculatePolygonForRoute_ok {rc : RouteCalculator} {route : MKRoute}
    {others : List MKRoute} (hroutes : rc.routes = some (route :: others))
    (h : route.polyline ≠ []) :
    ∃ rc' box, calculatePolygonForRoute round describe rc = .ok rc' ∧ rc'.routes = rc.routes ∧
      rc'.FromRoute round describe route box := by
  obtain ⟨box, hbox⟩ := boundingBox_ok round h
  obtain ⟨hash, hhash⟩ := box.geohash_ok round
  have hfirst : optionalSubscript rc.routes 0 = .ok (some route) :=
    optionalSubscript_zero_eq_ok.mpr ⟨others, hroutes⟩
  simp only [calculatePolygonForRoute, hfirst, ok_bind, Option.map_some, unwrap_some, hbox, hhash]
  exact ⟨_, box, rfl, rfl, ⟨others, hroutes⟩, hbox, rfl, rfl, hash, hhash, rfl⟩

variable (round describe) in
/-- A response whose first route has a point does not trap. -/
theorem directionsHandler_ok (rc : RouteCalculator) {route : MKRoute} (others : List MKRoute)
    (h : route.polyline ≠ []) :
    ∃ rc' box, directionsHandler round describe rc (.answered (some (route :: others))) =
      .ok (rc', true) ∧ rc'.routes = some (route :: others) ∧
      rc'.FromRoute round describe route box := by
  have hroutes : ({ rc with routes := some (route :: others) } : RouteCalculator).routes =
      some (route :: others) := rfl
  obtain ⟨rc', box, hcalc, hsame, hfrom⟩ := calculatePolygonForRoute_ok round describe hroutes h
  refine ⟨rc', box, ?_, hsame, hfrom⟩
  simp only [directionsHandler, hcalc, ok_bind]
  rfl

end RouteCalculator

end RideHitch
