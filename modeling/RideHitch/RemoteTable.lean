import RideHitch.DynamoDBInteractor
import RideHitch.LambdaInteractor

/-! # What the remote table holds

    The rows of the remote table and the copies in the local stores all come from
    trip objects that the add-trip screens made.  Section 1 follows a property of
    these objects through any run.  Section 2 is the round trip of a row through
    a search, Section 3 the part of the table that shares a hash key. -/

namespace RideHitch

/-! ## Section 1: Where the trips come from -/

namespace Cloud

variable {date : String → Option NSDate}

/-- Every trip object, every row that was sent and every local copy has a property,
    that of the device it belongs to. -/
structure Carries (P : ℕ → Trips → Prop) (cloud : Cloud) : Prop where
  objects : ∀ device, ∀ trip ∈ (cloud.devices device).trips, P device trip
  rows : ∀ upload ∈ cloud.issued, P upload.2.device upload.2.row
  copies : ∀ device, ∀ copy ∈ (cloud.devices device).realmTrips,
    ∃ trip, P device trip ∧ copy = RealmTrip.create trip

variable {P : ℕ → Trips → Prop} {cloud : Cloud}

theorem carries_init (P : ℕ → Trips → Prop) : Carries P {} where
  objects := by simp
  rows := by simp
  copies := by simp

theorem Carries.mono {Q : ℕ → Trips → Prop} (h : cloud.Carries P)
    (himp : ∀ device trip, P device trip → Q device trip) : cloud.Carries Q where
  objects := by
    intro device trip htrip
    exact himp device trip (h.objects device trip htrip)
  rows := by
    intro upload hupload
    exact himp _ _ (h.rows upload hupload)
  copies := by
    intro device copy hcopy
    obtain ⟨trip, htrip, heq⟩ := h.copies device copy hcopy
    exact ⟨trip, himp device trip htrip, heq⟩

theorem Carries.setDevice (h : cloud.Carries P) {device : ℕ} {state : Device}
    (htrips : ∀ trip ∈ state.trips, P device trip)
    (hcopies : ∀ copy ∈ state.realmTrips, ∃ trip, P device trip ∧ copy = RealmTrip.create trip) :
    (cloud.setDevice device state).Carries P where
  objects := by
    intro other trip htrip
    by_cases hother : other = device
    · subst hother
      simp only [Cloud.setDevice, Function.update_self] at htrip
      exact htrips trip htrip
    · simp only [Cloud.setDevice, Function.update_of_ne hother] at htrip
      exact h.objects other trip htrip
  rows := h.rows
  copies := by
    intro other copy hcopy
    by_cases hother : other = device
    · subst hother
      simp only [Cloud.setDevice, Function.update_self] at hcopy
      exact hcopies copy hcopy
    · simp only [Cloud.setDevice, Function.update_of_ne hother] at hcopy
      exact h.copies other copy hcopy

theorem Carries.stop (h : cloud.Carries P) (device : ℕ) : (cloud.stop device).Carries P :=
  h.setDevice (h.objects device) (h.copies device)

theorem Carries.prepare (h : cloud.Carries P) {device : ℕ} {newTrip : Except Trap Trips}
    (hnew : ∀ trip, newTrip = .ok trip → P device trip) :
    (cloud.prepare device newTrip).Carries P := by
  cases newTrip with
  | error t => exact h.stop device
  | ok trip =>
    refine h.setDevice ?_ ?_
    · intro trip' htrip'
      rcases List.mem_append.mp htrip' with htrip' | htrip'
      · exact h.objects device trip' htrip'
      · rw [List.mem_singleton.mp htrip']
        exact hnew trip rfl
    · exact h.copies device

/-- A press sends the object as it leaves it. -/
theorem Carries.press (h : cloud.Carries P)
    (hpress : ∀ device object uploaded, P device object → Pressed date object uploaded →
      P device uploaded) (device trip : ℕ) (depature arrival : String) :
    (cloud.requestButtonPressed date device trip depature arrival).Carries P := by
  unfold requestButtonPressed
  cases hobject : (cloud.devices device).trips[trip]? with
  | none => exact h
  | some object =>
    dsimp only
    cases huploaded :
        (ConfigureTripVC.mk (some object) depature arrival).requestButtonPressed date with
    | error t => exact h.stop device
    | ok uploaded =>
      have hP : P device uploaded := hpress device object uploaded
        (h.objects device object (List.mem_of_getElem? hobject)) ⟨depature, arrival, huploaded⟩
      have hset : (cloud.setDevice device
          { cloud.devices device with
            trips := (cloud.devices device).trips.set trip uploaded }).Carries P := by
        refine h.setDevice ?_ ?_
        · intro trip' htrip'
          rcases List.mem_or_eq_of_mem_set htrip' with htrip' | heq
          · exact h.objects device trip' htrip'
          · rw [heq]
            exact hP
        · exact h.copies device
      refine ⟨hset.objects, ?_, hset.copies⟩
      intro upload hupload
      rcases List.mem_append.mp hupload with hupload | hupload
      · exact h.rows upload hupload
      · rw [List.mem_singleton.mp hupload]
        exact hP

theorem Carries.tookEffect (h : cloud.Carries P) (serial : ℕ) :
    (cloud.tookEffect serial).Carries P := by
  unfold Cloud.tookEffect
  split
  · split_ifs
    · exact h
    · exact ⟨h.objects, h.rows, h.copies⟩
  · exact h

/-- The copy is made of the object as it is by then. -/
theorem Carries.saveReturned (h : cloud.Carries P) (serial : ℕ) (error : Bool) :
    (cloud.saveReturned serial error).Carries P := by
  unfold Cloud.saveReturned
  cases cloud.saves.find serial with
  | none => exact h
  | some save =>
    dsimp only
    split_ifs with hrunning
    · exact ⟨h.objects, h.rows, h.copies⟩
    · unfold Cloud.succeeded
      cases hobject : (cloud.devices save.device).trips[save.trip]? with
      | none => exact h
      | some object =>
        dsimp only
        split_ifs
        · have hset : (cloud.setDevice save.device
              { cloud.devices save.device with
                realmTrips := RealmInteractor.saveAWSTrip
                  (cloud.devices save.device).realmTrips object }).Carries P := by
            refine h.setDevice ?_ ?_
            · exact h.objects save.device
            · intro copy hcopy
              rcases List.mem_append.mp hcopy with hcopy | hcopy
              · exact h.copies save.device copy hcopy
              · rw [List.mem_singleton.mp hcopy]
                exact ⟨object, h.objects save.device object (List.mem_of_getElem? hobject), rfl⟩
          exact ⟨hset.objects, hset.rows, hset.copies⟩
        · exact h
    · exact h

/-- **One step** carries on a property that presses keep and that the trips made by
    this step have. -/
theorem Carries.step (h : cloud.Carries P)
    (hpress : ∀ device object uploaded, P device object → Pressed date object uploaded →
      P device uploaded) {e : CloudEvent}
    (hprepare : ∀ device rc vc now identityId random trip,
      e = .prepare device rc vc now identityId random →
      vc.prepare rc now identityId random = .ok trip → P device trip) :
    (cloud.step date e).Carries P := by
  cases e with
  | prepare device rc vc now identityId random =>
    simp only [Cloud.step]
    split_ifs
    · apply h.prepare
      intro trip htrip
      exact hprepare device rc vc now identityId random trip rfl htrip
    · exact h
  | requestButtonPressed device trip depature arrival =>
    simp only [Cloud.step]
    split_ifs
    · exact h.press hpress device trip depature arrival
    · exact h
  | tookEffect serial => exact h.tookEffect serial
  | saveReturned serial error => exact h.saveReturned serial error

/-- What the add-trip screen writes into every trip. -/
structure MadeByApp (trip : Trips) : Prop where
  isDriver : trip.isDriver = false
  isMatched : trip.isMatched = false
  originName : trip.originName = "Current Location"

theorem madeByApp_of_prepare {rc : RouteCalculator} {vc : AddTripWithMapVC} {now : Double}
    {identityId : String} {random : UInt32} {trip : Trips}
    (h : vc.prepare rc now identityId random = .ok trip) : MadeByApp trip := by
  obtain ⟨origin, _, h⟩ := bind_eq_ok.mp h
  obtain ⟨destination, _, h⟩ := bind_eq_ok.mp h
  obtain ⟨values, _, rfl⟩ := bind_pure_eq_ok.mp h
  exact ⟨rfl, rfl, rfl⟩

theorem madeByApp_of_pressed {object uploaded : Trips} (h : MadeByApp object)
    (hpressed : Pressed date object uploaded) : MadeByApp uploaded := by
  obtain ⟨depature, arrival, hpressed⟩ := hpressed
  obtain ⟨trip, _, _, geohash, htrip, _, _, _, rfl⟩ :=
    ConfigureTripVC.requestButtonPressed_eq_ok hpressed
  obtain rfl := Option.some.inj htrip
  exact ⟨h.isDriver, h.isMatched, h.originName⟩

theorem madeByApp_of_run {es : List CloudEvent} {cloud : Cloud}
    (h : (machine date).run {} es = .ok cloud) : cloud.Carries (fun _ => MadeByApp) := by
  have hstep : ∀ cloud e cloud', cloud.Carries (fun _ => MadeByApp) →
      (machine date).step cloud e = .ok cloud' → cloud'.Carries (fun _ => MadeByApp) := by
    intro cloud e cloud' hcarries hstep
    rw [← Except.ok.inj hstep]
    apply hcarries.step
    · intro _ object uploaded hmade hpressed
      exact madeByApp_of_pressed hmade hpressed
    · intro _ rc vc now identityId random trip _ hprepare
      exact madeByApp_of_prepare hprepare
  exact Machine.run_preserves hstep (carries_init _) h

/-- A local copy was made of a trip object as some save of the device had sent it, under
    the key of a save that took effect. -/
theorem exists_sent_of_copy {cloud : Cloud} (hsound : cloud.Sound) (hmirrored : cloud.Mirrored)
    {device : ℕ} {copy : RealmTrip} (h : copy ∈ (cloud.devices device).realmTrips) :
    ∃ sent ∈ cloud.issued, sent.2.device = device ∧ copy = RealmTrip.create sent.2.row ∧
      ∃ upload ∈ cloud.effected, upload.2.row.key = sent.2.row.key := by
  rw [hmirrored.realmTrips_eq, List.map_map] at h
  obtain ⟨copied, hcopied, rfl⟩ := List.mem_map.mp h
  obtain ⟨hcopied, hdevice⟩ := List.mem_filter.mp hcopied
  obtain ⟨sent, hsent, howner, hkey, hrow⟩ := hmirrored.copied_sent copied hcopied
  refine ⟨sent, hsent, ?_, by rw [hrow]; rfl, copied.1, ?_, hkey.symm⟩
  · exact (Prod.mk.inj howner).1.trans (of_decide_eq_true hdevice)
  · exact hsound.effected_of_confirmed _ (confirmed_of_copied hcopied)

/-- A row of the table was sent by some save. -/
theorem exists_upload {cloud : Cloud} (hsound : cloud.Sound) {key : TripKey} {row : Trips}
    (h : cloud.table key = some row) : ∃ upload ∈ cloud.effected, upload.2.row = row := by
  rw [hsound.table_eq] at h
  obtain ⟨upload, hupload, heq⟩ := List.mem_map.mp (LastWrite.mem_of_tableOf h)
  exact ⟨upload, hupload, (Prod.mk.inj heq).2⟩

theorem madeByApp_of_table {es : List CloudEvent} {cloud : Cloud}
    (h : (machine date).run {} es = .ok cloud) {key : TripKey} {row : Trips}
    (hrow : cloud.table key = some row) : MadeByApp row := by
  obtain ⟨hsound, _⟩ := sound_of_run h
  obtain ⟨upload, hupload, rfl⟩ := exists_upload hsound hrow
  exact (madeByApp_of_run h).rows upload (hsound.issued_of_effected upload hupload)

/-! ## Section 2: A search over the table -/

/-- **Rows through a search.** Whatever rows of the table a search returns, it
    delivers their local records, field by field: the two fields that the parser
    leaves out are not set in any row.  With distinct keys every confirmed trip is
    such a row, and its record is in the local store of its device. -/
theorem search_delivers_rows {jsonObject : String → Option Json}
    {double : String → Option Double} {number : Double → String} {es : List CloudEvent}
    {cloud : Cloud} (h : (machine date).run {} es = .ok cloud) {rows : List Trips}
    (hrows : ∀ row ∈ rows, ∃ key, cloud.table key = some row)
    (hnumber : ∀ row ∈ rows, ∀ d, .double d ∈ row.properties.map Prod.snd →
      double (number d) = some d)
    {responseString : String} {jsonData : List (String × Json)}
    (hjson : jsonObject responseString = some (.object jsonData))
    (hitems : jsonData.lookup "Items" =
      some (.array (rows.map (AWSDynamoDBObjectMapper.item number)))) :
    LambdaInteractor.callCloudFunction jsonObject double
        (.completed (some responseString.toUTF8)) = .ok [some (rows.map RealmTrip.create)] ∧
    (cloud.KeysDistinct → ∀ upload ∈ cloud.confirmed,
      cloud.table upload.2.row.key = some upload.2.row ∧
      RealmTrip.create upload.2.row ∈ (cloud.devices upload.2.device).realmTrips) := by
  constructor
  · rw [LambdaInteractor.callCloudFunction_items hnumber hjson hitems]
    have hsame : rows.map LambdaInteractor.parsed = rows.map RealmTrip.create := by
      rw [List.map_inj_left]
      intro row hrow
      obtain ⟨key, hkey⟩ := hrows row hrow
      have hmade := madeByApp_of_table h hkey
      exact (LambdaInteractor.parsed_eq_create_iff row).mpr ⟨hmade.isDriver, hmade.isMatched⟩
    rw [hsame]
  · intro hkeys upload hupload
    obtain ⟨hsound, hmirrored⟩ := sound_of_run h
    refine ⟨kept_of_effected hsound hkeys (hsound.effected_of_confirmed upload hupload), ?_⟩
    rw [realmTrips_eq_of_keys hsound hmirrored hkeys]
    apply List.mem_map_of_mem
    exact List.mem_filter.mpr ⟨hupload, decide_eq_true rfl⟩

/-- The numbers of the sample row as decimal strings, and such a string read back. -/
def wholeNumber (d : Double) : String :=
  if d = 38 then "38" else if d = -77 then "-77" else if d = 946713600 then "946713600"
  else if d = 946719000 then "946719000" else "0"

def wholeDouble (text : String) : Option Double :=
  if text = "38" then some 38 else if text = "-77" then some (-77)
  else if text = "946713600" then some 946713600
  else if text = "946719000" then some 946719000
  else if text = "0" then some 0 else none

/-- The row that the first of the two devices uploads. -/
def sampleRow : Trips where
  geohash := "dqc0"
  tripID := "7"
  destinationDate := 946719000
  destinationLatitude := 38
  destinationLongitude := -77
  destinationName := "Work"
  originDate := 946713600
  originLatitude := 38
  originLongitude := -77
  originName := "Current Location"

/-- The response whose only item is that row. -/
def rowResponse : String :=
  "\x7b\"Items\":[\x7b\"geohash\":\x7b\"S\":\"dqc0\"\x7d,\"tripID\":\x7b\"S\":\"7\"\x7d," ++
  "\"creationDate\":\x7b\"N\":\"0\"\x7d,\"creatorUserID\":\x7b\"S\":\"\"\x7d," ++
  "\"destinationDate\":\x7b\"N\":\"946719000\"\x7d," ++
  "\"destinationLatitude\":\x7b\"N\":\"38\"\x7d," ++
  "\"destinationLongitude\":\x7b\"N\":\"-77\"\x7d," ++
  "\"destinationName\":\x7b\"S\":\"Work\"\x7d,\"isDriver\":\x7b\"BOOL\":false\x7d," ++
  "\"isMatched\":\x7b\"BOOL\":false\x7d,\"originDate\":\x7b\"N\":\"946713600\"\x7d," ++
  "\"originLatitude\":\x7b\"N\":\"38\"\x7d,\"originLongitude\":\x7b\"N\":\"-77\"\x7d," ++
  "\"originName\":\x7b\"S\":\"Current Location\"\x7d,\"polygon\":\x7b\"S\":\"\"\x7d\x7d]\x7d"

def rowObject (text : String) : Option Json :=
  if text = rowResponse then
    some (.object [("Items", .array ([sampleRow].map (AWSDynamoDBObjectMapper.item wholeNumber)))])
  else none

theorem search_delivers_rows_sample :
    LambdaInteractor.callCloudFunction rowObject wholeDouble
      (.completed (some rowResponse.toUTF8)) = .ok [some ([sampleRow].map RealmTrip.create)] := by
  have hevaluated : ∃ cloud, (machine ConfigureTripVC.sampleDate).run {} (sampleUploads 39 8) =
      .ok cloud ∧ cloud.table sampleRow.key = some sampleRow :=
    Machine.exists_run_eq_ok _ (by decide +kernel)
  obtain ⟨cloud, hrun, hrow⟩ := hevaluated
  have hrows : ∀ row ∈ [sampleRow], ∃ key, cloud.table key = some row := by
    intro row hmem
    exact ⟨sampleRow.key, List.mem_singleton.mp hmem ▸ hrow⟩
  have hnumber : ∀ row ∈ [sampleRow], ∀ d, .double d ∈ row.properties.map Prod.snd →
      wholeDouble (wholeNumber d) = some d := by
    intro row hmem d hd
    rw [List.mem_singleton.mp hmem] at hd
    have hvalues : d ∈ ([0, 946719000, 38, -77, 946713600] : List Double) := by
      simp only [Trips.properties, sampleRow, List.map_cons, List.map_nil, List.mem_cons,
        Trips.PropertyValue.double.injEq, reduceCtorEq, List.not_mem_nil, false_or, or_false] at hd ⊢
      tauto
    have hall : ∀ d ∈ ([0, 946719000, 38, -77, 946713600] : List Double),
        wholeDouble (wholeNumber d) = some d := by decide +kernel
    exact hall d hvalues
  exact (search_delivers_rows hrun hrows hnumber (if_pos rfl) rfl).1

/-! ## Section 3: The rows that share a hash key -/

/-- The hash key of a row that was sent names the cell of its origin. -/
theorem geohash_of_issued {cloud : Cloud} (hsound : cloud.Sound) {upload : ℕ × Save}
    (hupload : upload ∈ cloud.issued)
    (hglobe : Geohash.OnGlobe upload.2.row.originLatitude upload.2.row.originLongitude) :
    upload.2.row.geohash =
      Geohash.gridKey (5 * 2) (ConfigureTripVC.latitudeCell upload.2.row.originLatitude)
        (ConfigureTripVC.longitudeCell upload.2.row.originLongitude) := by
  -- the press wrote the hash of the origin into the row
  have hhash := hsound.geohash_eq upload hupload
  have hkey := Geohash.encode_eq_gridKey hglobe 2
  rw [ConfigureTripVC.latitudeIndex_ten, ConfigureTripVC.longitudeIndex_ten] at hkey
  exact Except.ok.inj (hhash.symm.trans hkey)

theorem gridKey_eq_iff (latitude longitude latitude' longitude' : Double) :
    Geohash.gridKey (5 * 2) (ConfigureTripVC.latitudeCell latitude)
        (ConfigureTripVC.longitudeCell longitude) =
      Geohash.gridKey (5 * 2) (ConfigureTripVC.latitudeCell latitude')
        (ConfigureTripVC.longitudeCell longitude') ↔
      ConfigureTripVC.latitudeCell latitude = ConfigureTripVC.latitudeCell latitude' ∧
      ConfigureTripVC.longitudeCell longitude = ConfigureTripVC.longitudeCell longitude' := by
  constructor
  · intro heq
    exact Geohash.gridKey_injective (ConfigureTripVC.latitudeCell_lt _)
      (ConfigureTripVC.longitudeCell_lt _) (ConfigureTripVC.latitudeCell_lt _)
      (ConfigureTripVC.longitudeCell_lt _) heq
  · intro hcells
    rw [hcells.1, hcells.2]

end Cloud

/-- The text `name = value`. -/
structure Condition where
  name : String
  value : String

structure AWSDynamoDBQueryExpression where
  keyConditionExpression : Condition
  filterExpression : Condition
  expressionAttributeNames : List (String × String)
  expressionAttributeValues : List (String × Trips.PropertyValue)

namespace DynamoDBInteractor

/-- The literal of the source. -/
def creationDate : Double := Double.round (1485396558101692 / 1000000)

def query (trip : RealmTrip) : AWSDynamoDBQueryExpression where
  keyConditionExpression := ⟨"#geohash", ":geohash"⟩
  filterExpression := ⟨"#creationDate", ":creationDate"⟩
  expressionAttributeNames := [("#geohash", "geohash"), ("#creationDate", "creationDate")]
  expressionAttributeValues :=
    [(":geohash", .string trip.geohash), (":creationDate", .double creationDate)]

end DynamoDBInteractor

namespace AWSDynamoDBQueryExpression

/-- The row has the attribute that the condition names, with the value that it names. -/
def Holds (expression : AWSDynamoDBQueryExpression) (condition : Condition) (row : Trips) : Prop :=
  ∃ name value, expression.expressionAttributeNames.lookup condition.name = some name ∧
    expression.expressionAttributeValues.lookup condition.value = some value ∧
    row.attributeNamed name = some value

/-- What the service documents of the items of an answer that is not cut off: they are
    the rows of the table under which both conditions hold. -/
structure Answer (expression : AWSDynamoDBQueryExpression) (table : TripKey → Option Trips)
    (items : List Trips) : Prop where
  sound : ∀ row ∈ items, (∃ key, table key = some row) ∧
    expression.Holds expression.keyConditionExpression row ∧
    expression.Holds expression.filterExpression row
  complete : ∀ key row, table key = some row →
    expression.Holds expression.keyConditionExpression row →
    expression.Holds expression.filterExpression row → row ∈ items

end AWSDynamoDBQueryExpression

namespace DynamoDBInteractor

example : creationDate = 6230204725232159 / 4194304 := by decide +kernel

theorem keyCondition_holds_iff (trip : RealmTrip) (row : Trips) :
    (query trip).Holds (query trip).keyConditionExpression row ↔ row.geohash = trip.geohash := by
  constructor
  · rintro ⟨name, value, hname, hvalue, hrow⟩
    obtain rfl : "geohash" = name := Option.some.inj hname
    obtain rfl : .string trip.geohash = value := Option.some.inj hvalue
    rw [Trips.attributeNamed_geohash] at hrow
    simpa using hrow
  · intro heq
    refine ⟨"geohash", .string trip.geohash, rfl, rfl, ?_⟩
    rw [Trips.attributeNamed_geohash, heq]

theorem filter_holds_iff (trip : RealmTrip) (row : Trips) :
    (query trip).Holds (query trip).filterExpression row ↔ row.creationDate = creationDate := by
  constructor
  · rintro ⟨name, value, hname, hvalue, hrow⟩
    obtain rfl : "creationDate" = name := Option.some.inj hname
    obtain rfl : .double creationDate = value := Option.some.inj hvalue
    rw [Trips.attributeNamed_creationDate] at hrow
    simpa using hrow
  · intro heq
    refine ⟨"creationDate", .double creationDate, rfl, rfl, ?_⟩
    rw [Trips.attributeNamed_creationDate, heq]

end DynamoDBInteractor

namespace Cloud

variable {date : String → Option NSDate}

/-- **Queries.** Whatever the service answers to the query for a trip of a local store,
    the items are exactly the rows of the table with the fixed date whose origin lies in
    the grid cell of the trip's origin. -/
theorem query_finds_cell {es : List CloudEvent} {cloud : Cloud}
    (h : (machine date).run {} es = .ok cloud) {device : ℕ} {trip : RealmTrip}
    (htrip : trip ∈ (cloud.devices device).realmTrips)
    (hglobe : Geohash.OnGlobe trip.originLatitude trip.originLongitude) {items : List Trips}
    (hitems : (DynamoDBInteractor.query trip).Answer cloud.table items) {row : Trips}
    (hglobe' : Geohash.OnGlobe row.originLatitude row.originLongitude) :
    row ∈ items ↔
      (∃ key, cloud.table key = some row) ∧
      ConfigureTripVC.latitudeCell row.originLatitude =
        ConfigureTripVC.latitudeCell trip.originLatitude ∧
      ConfigureTripVC.longitudeCell row.originLongitude =
        ConfigureTripVC.longitudeCell trip.originLongitude ∧
      row.creationDate = DynamoDBInteractor.creationDate := by
  obtain ⟨hsound, hmirrored⟩ := sound_of_run h
  obtain ⟨own, hown, _, rfl, _⟩ := exists_sent_of_copy hsound hmirrored htrip
  -- both hash keys name the cells of their origins
  have hcells : (∃ key, cloud.table key = some row) →
      (row.geohash = (RealmTrip.create own.2.row).geohash ↔
        ConfigureTripVC.latitudeCell row.originLatitude =
          ConfigureTripVC.latitudeCell own.2.row.originLatitude ∧
        ConfigureTripVC.longitudeCell row.originLongitude =
          ConfigureTripVC.longitudeCell own.2.row.originLongitude) := by
    rintro ⟨key, hrow⟩
    obtain ⟨upload, hupload, rfl⟩ := exists_upload hsound hrow
    rw [geohash_of_issued hsound (hsound.issued_of_effected upload hupload) hglobe']
    show _ = own.2.row.geohash ↔ _
    rw [geohash_of_issued hsound hown hglobe]
    exact gridKey_eq_iff _ _ _ _
  constructor
  · intro hfound
    obtain ⟨hrow, hkey, hfilter⟩ := hitems.sound row hfound
    obtain ⟨hlat, hlon⟩ := (hcells hrow).mp
      ((DynamoDBInteractor.keyCondition_holds_iff _ row).mp hkey)
    exact ⟨hrow, hlat, hlon, (DynamoDBInteractor.filter_holds_iff _ row).mp hfilter⟩
  · rintro ⟨⟨key, hrow⟩, hlat, hlon, hdate⟩
    apply hitems.complete key row hrow
    · exact (DynamoDBInteractor.keyCondition_holds_iff _ row).mpr
        ((hcells ⟨key, hrow⟩).mpr ⟨hlat, hlon⟩)
    · exact (DynamoDBInteractor.filter_holds_iff _ row).mpr hdate

/-- A device makes a trip with the given id, at the fixed date. -/
def datedPrepare (device : ℕ) (latitude : Double) (random : UInt32) : CloudEvent :=
  .prepare device { routePolygonValues := some [] }
    { currentLocation := some ⟨latitude, -77⟩, currentResult := some ⟨"Work", ⟨38, -77⟩⟩ }
    DynamoDBInteractor.creationDate "" random

/-- Two trips of the fixed date from one cell, and one from another. -/
def datedUploads : List CloudEvent :=
  [datedPrepare 0 38 7, datedPrepare 1 (38 + 1 / 1000) 8, datedPrepare 2 39 9,
   samplePress 0, samplePress 1, samplePress 2, .tookEffect 0, .tookEffect 1, .tookEffect 2,
   .saveReturned 0 false]

/-- The rows that took effect and meet both conditions, in the order of the saves. -/
def matchingRows (cloud : Cloud) (trip : RealmTrip) : List Trips :=
  (cloud.effected.map fun upload => upload.2.row).filter fun row =>
    row.geohash = trip.geohash ∧ row.creationDate = DynamoDBInteractor.creationDate

/-- If no row was overwritten, these rows are such an answer. -/
theorem answer_matchingRows {cloud : Cloud} (hsound : cloud.Sound)
    (hkept : ∀ upload ∈ cloud.effected, cloud.Kept upload) (trip : RealmTrip) :
    (DynamoDBInteractor.query trip).Answer cloud.table (cloud.matchingRows trip) where
  sound := by
    intro row hrow
    obtain ⟨hmem, hboth⟩ := List.mem_filter.mp hrow
    obtain ⟨hgeohash, hdate⟩ := of_decide_eq_true hboth
    obtain ⟨upload, hupload, rfl⟩ := List.mem_map.mp hmem
    exact ⟨⟨_, hkept upload hupload⟩,
      (DynamoDBInteractor.keyCondition_holds_iff trip _).mpr hgeohash,
      (DynamoDBInteractor.filter_holds_iff trip _).mpr hdate⟩
  complete := by
    intro key row hrow hkey hfilter
    obtain ⟨upload, hupload, rfl⟩ := exists_upload hsound hrow
    refine List.mem_filter.mpr ⟨List.mem_map_of_mem hupload, decide_eq_true ⟨?_, ?_⟩⟩
    · exact (DynamoDBInteractor.keyCondition_holds_iff trip _).mp hkey
    · exact (DynamoDBInteractor.filter_holds_iff trip _).mp hfilter

theorem query_finds_cell_sample : ∃ cloud trip row,
    (machine ConfigureTripVC.sampleDate).run {} datedUploads = .ok cloud ∧
      trip ∈ (cloud.devices 0).realmTrips ∧ row ∈ cloud.matchingRows trip ∧
      row.tripID ≠ trip.tripID ∧ (cloud.matchingRows trip).length < cloud.effected.length ∧
      (∃ key, cloud.table key = some row) ∧
      ConfigureTripVC.latitudeCell row.originLatitude =
        ConfigureTripVC.latitudeCell trip.originLatitude := by
  have hevaluated : ∃ cloud, (machine ConfigureTripVC.sampleDate).run {} datedUploads = .ok cloud ∧
      (∀ upload ∈ cloud.effected, cloud.Kept upload) ∧
      ∃ trip ∈ (cloud.devices 0).realmTrips, ∃ row ∈ cloud.matchingRows trip,
        row.tripID ≠ trip.tripID ∧ (cloud.matchingRows trip).length < cloud.effected.length ∧
        (trip.originLatitude, trip.originLongitude) = (38, -77) ∧
        (row.originLatitude, row.originLongitude) = (38 + 1 / 1000, -77) :=
    Machine.exists_run_eq_ok _ (by decide +kernel)
  obtain ⟨cloud, hrun, hkept, trip, htrip, row, hrow, hother, hlength, hplace, hplace'⟩ := hevaluated
  obtain ⟨hlat, hlon⟩ := Prod.mk.inj hplace
  obtain ⟨hlat', hlon'⟩ := Prod.mk.inj hplace'
  have hglobe : Geohash.OnGlobe trip.originLatitude trip.originLongitude := by
    rw [hlat, hlon]
    constructor <;> norm_num
  have hglobe' : Geohash.OnGlobe row.originLatitude row.originLongitude := by
    rw [hlat', hlon']
    constructor <;> norm_num
  have hanswer := answer_matchingRows (sound_of_run hrun).1 hkept trip
  obtain ⟨htable, hcell, _⟩ := (query_finds_cell hrun htrip hglobe hanswer hglobe').mp hrow
  exact ⟨cloud, trip, row, hrun, htrip, hrow, hother, hlength, htable, hcell⟩

end Cloud

end RideHitch
