import RideHitch.Geohash
import RideHitch.Trips

/-! # ConfigureTripVC

    The screen that asks for the times of a trip.  Its Request button writes the
    times and the hash key into the trip and hands it to the uploader.

    The hash key is the 4-character geohash of the origin: Section 2 shows that
    it names the cell of the origin in a grid of 1024 by 1024 cells. -/

namespace RideHitch

/-! ## Section 1: Model -/

structure ConfigureTripVC where
  trip : Option Trips := some {}
  depatureTimeTextField : String := ""
  arrivalTimeTextField : String := ""
  deriving DecidableEq

namespace ConfigureTripVC

/-! `date` is `DateFormatter.date(from:)` with the format `h:mm a`, in seconds
    since 1970. -/

variable (date : String → Option NSDate)

/-- The trip as it is handed to `uploadTrip`.  Without a trip the assignments
    are skipped and the last unwrap traps. -/
def requestButtonPressed (vc : ConfigureTripVC) : Except Trap Trips :=
  match vc.trip with
  | some trip => do
      let originDate ← unwrap .date (date vc.depatureTimeTextField)
      let destinationDate ← unwrap .date (date vc.arrivalTimeTextField)
      let geohash ← Geohash.encode id trip.originLatitude trip.originLongitude 4
      return { trip with
        originDate := originDate
        destinationDate := destinationDate
        geohash := geohash }
  | none => .error (.foundNil .trip)

variable {date}

/-- What a press uploads: the trip with its times and its hash key. -/
theorem requestButtonPressed_eq_ok {vc : ConfigureTripVC} {uploaded : Trips}
    (h : vc.requestButtonPressed date = .ok uploaded) :
    ∃ trip originDate destinationDate geohash, vc.trip = some trip ∧
      date vc.depatureTimeTextField = some originDate ∧
      date vc.arrivalTimeTextField = some destinationDate ∧
      Geohash.encode id trip.originLatitude trip.originLongitude 4 = .ok geohash ∧
      uploaded = { trip with
        originDate := originDate
        destinationDate := destinationDate
        geohash := geohash } := by
  unfold requestButtonPressed at h
  -- without a trip the press traps at `uploadTrip(trip: trip!)`
  cases htrip : vc.trip with
  | none =>
    rw [htrip] at h
    cases h
  | some trip =>
    rw [htrip] at h
    obtain ⟨originDate, horigin, h⟩ := bind_eq_ok.mp h
    obtain ⟨destinationDate, hdestination, h⟩ := bind_eq_ok.mp h
    obtain ⟨geohash, hgeohash, rfl⟩ := bind_pure_eq_ok.mp h
    exact ⟨trip, originDate, destinationDate, geohash, rfl, unwrap_eq_ok.mp horigin,
      unwrap_eq_ok.mp hdestination, hgeohash, rfl⟩

/-! ## Section 2: The hash key -/

/-- The indices of the cell of a coordinate in the grid of the hash keys. -/
def latitudeCell (latitude : Double) : ℕ := min 1023 ⌊(latitude + 90) * 1024 / 180⌋₊

def longitudeCell (longitude : Double) : ℕ := min 1023 ⌊(longitude + 180) * 1024 / 360⌋₊

theorem latitudeIndex_ten (latitude : Double) :
    Geohash.latitudeIndex 10 latitude = latitudeCell latitude := by
  unfold Geohash.latitudeIndex Bisection.cellIndex latitudeCell
  norm_num

theorem longitudeIndex_ten (longitude : Double) :
    Geohash.longitudeIndex 10 longitude = longitudeCell longitude := by
  unfold Geohash.longitudeIndex Bisection.cellIndex longitudeCell
  norm_num

/-- The stored key of a trip on the globe. -/
theorem geohash_eq_gridKey {vc : ConfigureTripVC} {uploaded : Trips}
    (h : vc.requestButtonPressed date = .ok uploaded)
    (hglobe : Geohash.OnGlobe uploaded.originLatitude uploaded.originLongitude) :
    uploaded.geohash = Geohash.gridKey 10 (latitudeCell uploaded.originLatitude)
      (longitudeCell uploaded.originLongitude) := by
  obtain ⟨trip, _, _, geohash, _, _, _, hgeohash, rfl⟩ := requestButtonPressed_eq_ok h
  -- four characters are twenty bits, ten for each axis
  have hkey := Geohash.encode_eq_gridKey hglobe 2
  rw [latitudeIndex_ten, longitudeIndex_ten] at hkey
  exact Except.ok.inj (hgeohash.symm.trans hkey)

theorem latitudeCell_lt (latitude : Double) : latitudeCell latitude < 2 ^ (5 * 2) := by
  unfold latitudeCell
  omega

theorem longitudeCell_lt (longitude : Double) : longitudeCell longitude < 2 ^ (5 * 2) := by
  unfold longitudeCell
  omega

/-- **The hash key is the origin's grid cell.** For trips on the globe the stored
    key has four characters of the alphabet, decodes to ranges around the
    origin, is the key of the origin's cell, and tells two trips apart exactly
    when their origins lie in different cells. -/
theorem geohash_is_grid_cell {vc vc' : ConfigureTripVC} {uploaded uploaded' : Trips}
    (h : vc.requestButtonPressed date = .ok uploaded)
    (h' : vc'.requestButtonPressed date = .ok uploaded')
    (hglobe : Geohash.OnGlobe uploaded.originLatitude uploaded.originLongitude)
    (hglobe' : Geohash.OnGlobe uploaded'.originLatitude uploaded'.originLongitude) :
    uploaded.geohash.length = 4 ∧
    (∀ c ∈ uploaded.geohash.toList, c ∈ Geohash.alphabet) ∧
    (∃ lat lon, Geohash.decode id (characters uploaded.geohash) = some (lat, lon) ∧
      lat.1 ≤ uploaded.originLatitude ∧ uploaded.originLatitude ≤ lat.2 ∧
      lon.1 ≤ uploaded.originLongitude ∧ uploaded.originLongitude ≤ lon.2) ∧
    uploaded.geohash = Geohash.gridKey 10 (latitudeCell uploaded.originLatitude)
      (longitudeCell uploaded.originLongitude) ∧
    (uploaded.geohash = uploaded'.geohash ↔
      latitudeCell uploaded.originLatitude = latitudeCell uploaded'.originLatitude ∧
      longitudeCell uploaded.originLongitude = longitudeCell uploaded'.originLongitude) := by
  have hkey := geohash_eq_gridKey h hglobe
  have hkey' := geohash_eq_gridKey h' hglobe'
  -- the key is that of the cell, whose ranges the decoder gives back
  have hdecode := Geohash.decode_encode hglobe 2
  rw [latitudeIndex_ten, longitudeIndex_ten, ← hkey] at hdecode
  refine ⟨?_, ?_, hdecode, hkey, ?_⟩
  · rw [hkey]
    exact Geohash.length_gridKey 2 _ _
  · rw [hkey]
    intro c hc
    exact Geohash.mem_alphabet_of_mem_gridKey hc
  · rw [hkey, hkey']
    constructor
    · exact Geohash.gridKey_injective (m := 2) (latitudeCell_lt _) (longitudeCell_lt _)
        (latitudeCell_lt _) (longitudeCell_lt _)
    · rintro ⟨hlat, hlon⟩
      rw [hlat, hlon]

/-- Two trips from the same day, and the readings of their times. -/
def sampleScreen (latitude longitude : Double) : ConfigureTripVC where
  trip := some { originLatitude := latitude, originLongitude := longitude }
  depatureTimeTextField := "8:00 AM"
  arrivalTimeTextField := "9:30 AM"

def sampleDate (text : String) : Option NSDate :=
  if text = "8:00 AM" then some 946713600
  else if text = "9:30 AM" then some 946719000
  else none

theorem sampleScreen_pressed (latitude longitude : Double) :
    ∃ uploaded, (sampleScreen latitude longitude).requestButtonPressed sampleDate = .ok uploaded ∧
      uploaded.originLatitude = latitude ∧ uploaded.originLongitude = longitude := by
  simp only [requestButtonPressed, sampleScreen, Geohash.encode_eq, ok_bind]
  exact ⟨_, rfl, rfl, rfl⟩

theorem geohash_is_grid_cell_sample :
    ∃ uploaded uploaded', (sampleScreen 38 (-77)).requestButtonPressed sampleDate = .ok uploaded ∧
      (sampleScreen 39 (-77)).requestButtonPressed sampleDate = .ok uploaded' ∧
      uploaded.geohash.length = 4 ∧
      (uploaded.geohash = uploaded'.geohash ↔
        latitudeCell 38 = latitudeCell 39 ∧ longitudeCell (-77) = longitudeCell (-77)) := by
  obtain ⟨uploaded, h, hlat, hlon⟩ := sampleScreen_pressed 38 (-77)
  obtain ⟨uploaded', h', hlat', hlon'⟩ := sampleScreen_pressed 39 (-77)
  have hglobe : Geohash.OnGlobe uploaded.originLatitude uploaded.originLongitude := by
    rw [hlat, hlon]
    constructor <;> norm_num
  have hglobe' : Geohash.OnGlobe uploaded'.originLatitude uploaded'.originLongitude := by
    rw [hlat', hlon']
    constructor <;> norm_num
  obtain ⟨hlength, _, _, _, hsame⟩ := geohash_is_grid_cell h h' hglobe hglobe'
  rw [hlat, hlon, hlat', hlon'] at hsame
  exact ⟨uploaded, uploaded', h, h', hlength, hsame⟩

end ConfigureTripVC

end RideHitch
