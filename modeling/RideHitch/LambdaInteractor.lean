import RideHitch.Trips

/-! # LambdaInteractor

    The two calls of the cloud functions.  A search for matches delivers the
    records parsed from the items of the response, and every item must be well
    formed; an invocation that failed delivers nothing.

    The parser names every attribute and its type tag by hand.  The two lines
    for `isDriver` and `isMatched` are commented out in the source. -/

namespace RideHitch

/-! ## Section 1: Model -/

inductive Json where
  | null
  | bool (value : Bool)
  | number (value : Double)
  | string (value : String)
  | array (values : List Json)
  | object (fields : List (String × Json))

/-- How an invocation ended.  The data are nil when the result or its body is. -/
inductive AWSTask where
  | error
  | exception
  | completed (responseData : Option ByteArray)

namespace LambdaInteractor

/-- `value as! Dictionary<String, Any>` -/
def asDictionary : Json → Except Trap (List (String × Json))
  | .object fields => .ok fields
  | _ => .error .failedCast

/-- `value as! NSArray` -/
def asArray : Json → Except Trap (List Json)
  | .array values => .ok values
  | _ => .error .failedCast

/-- `value as! String` for a value that may be missing. -/
def asString : Option Json → Except Trap String
  | some (.string value) => .ok value
  | _ => .error .failedCast

/-- `(jsonTrip[name]! as! Dictionary<String, Any>)[tag] as! String` -/
def attributeText (jsonTrip : List (String × Json)) (name tag : String) : Except Trap String := do
  let value ← unwrap .jsonValue (jsonTrip.lookup name)
  let tagged ← asDictionary value
  asString (tagged.lookup tag)

/-- The body of the `/items` request. -/
def itemsBody (trip : RealmTrip) : List (String × Json) :=
  [("geohash", .string trip.geohash),
   ("polygon", .string trip.polygon),
   ("tripID", .string trip.tripID),
   ("destinationDate", .number trip.destinationDate),
   ("originDate", .number trip.originDate),
   ("originLatitude", .number trip.originLatitude),
   ("originLongitude", .number trip.originLongitude),
   ("userID", .string trip.creatorUserID)]

/-- The body of the `/matches` request of `callMatchFuction`. -/
def matchesBody (usersTrip matchedTrip : RealmTrip) (date : Double) : List (String × Json) :=
  [("requestedTripID", .string matchedTrip.tripID),
   ("requesterTripID", .string usersTrip.tripID),
   ("creationDate", .number date)]

/-! `jsonObject` is `JSONSerialization.jsonObject` on the bytes of a text, with nil
    for a throw; `double` is Swift's `Double(_: String)`. -/

variable (jsonObject : String → Option Json) (double : String → Option Double)

def stringAttribute (jsonTrip : List (String × Json)) (name : String) : Except Trap String :=
  attributeText jsonTrip name "S"

def numberAttribute (jsonTrip : List (String × Json)) (name : String) : Except Trap Double := do
  let text ← attributeText jsonTrip name "N"
  unwrap .number (double text)

def convertToDictionary (text : String) : Option (List (String × Json)) :=
  match jsonObject text with
  | some (.object fields) => some fields
  | _ => none

/-- The body of the loop over the items. -/
def realmTrip (item : Json) : Except Trap RealmTrip := do
  let jsonTrip ← asDictionary item
  let geohash ← stringAttribute jsonTrip "geohash"
  let tripID ← stringAttribute jsonTrip "tripID"
  let creationDate ← numberAttribute double jsonTrip "creationDate"
  let creatorUserID ← stringAttribute jsonTrip "creatorUserID"
  let destinationDate ← numberAttribute double jsonTrip "destinationDate"
  let destinationLatitude ← numberAttribute double jsonTrip "destinationLatitude"
  let destinationLongitude ← numberAttribute double jsonTrip "destinationLongitude"
  let destinationName ← stringAttribute jsonTrip "destinationName"
  -- `_isDriver` and `_isMatched` keep the defaults of a new `RealmTrip`
  let originDate ← numberAttribute double jsonTrip "originDate"
  let originLatitude ← numberAttribute double jsonTrip "originLatitude"
  let originLongitude ← numberAttribute double jsonTrip "originLongitude"
  let originName ← stringAttribute jsonTrip "originName"
  let polygon ← stringAttribute jsonTrip "polygon"
  return {
    geohash := geohash
    tripID := tripID
    creationDate := creationDate
    creatorUserID := creatorUserID
    destinationDate := destinationDate
    destinationLatitude := destinationLatitude
    destinationLongitude := destinationLongitude
    destinationName := destinationName
    originDate := originDate
    originLatitude := originLatitude
    originLongitude := originLongitude
    originName := originName
    polygon := polygon }

/-- The calls that the closure of `callCloudFunction` makes to its completion. -/
def callCloudFunction : AWSTask → Except Trap (List (Option (List RealmTrip)))
  | .error => .ok []
  | .exception => .ok []
  | .completed responseData => do
      let data ← unwrap .responseData responseData
      let responseString ← unwrap .responseString (String.fromUTF8? data)
      let jsonData ← unwrap .jsonData (convertToDictionary jsonObject responseString)
      let value ← unwrap .jsonValue (jsonData.lookup "Items")
      let items ← asArray value
      let results ← items.mapM (realmTrip double)
      return [some results]

/-- The closure of `callMatchFuction`: a response is read as a text, and what it
    says is not used. -/
def callMatchFuction : AWSTask → Except Trap Unit
  | .error => .ok ()
  | .exception => .ok ()
  | .completed responseData => do
      let data ← unwrap .responseData responseData
      let _ ← unwrap .responseString (String.fromUTF8? data)
      return ()

end LambdaInteractor

/-! ## Section 2: What the parser reads

    What an item must hold for the parser to read it, stated on the item itself:
    an attribute is there if the item is an object, with an object under the
    name of the attribute, with a text under the type tag. -/

namespace LambdaInteractor

variable {jsonObject : String → Option Json} {double : String → Option Double}

/-- The text of an attribute, if it is there. -/
def taggedText (item : Json) (name tag : String) : Option String :=
  match item with
  | .object jsonTrip =>
    match jsonTrip.lookup name with
    | some (.object tagged) =>
      match tagged.lookup tag with
      | some (.string text) => some text
      | _ => none
    | _ => none
  | _ => none

def textAt (item : Json) (name : String) : Option String := taggedText item name "S"

/-- The names of the string attributes that a record is made of. -/
def textNames : List String :=
  ["geohash", "tripID", "creatorUserID", "destinationName", "originName", "polygon"]

/-- The names of its number attributes. -/
def valueNames : List String :=
  ["creationDate", "destinationDate", "destinationLatitude", "destinationLongitude",
    "originDate", "originLatitude", "originLongitude"]

section

variable (jsonObject double)

def valueAt (item : Json) (name : String) : Option Double := (taggedText item name "N").bind double

/-- All the attributes are there, and the number attributes are numbers. -/
structure WellFormedItem (item : Json) : Prop where
  texts : ∀ name ∈ textNames, (textAt item name).isSome
  values : ∀ name ∈ valueNames, (valueAt double item name).isSome

instance (item : Json) : Decidable (WellFormedItem double item) :=
  decidable_of_iff ((∀ name ∈ textNames, (textAt item name).isSome) ∧
      ∀ name ∈ valueNames, (valueAt double item name).isSome)
    ⟨fun h => ⟨h.1, h.2⟩, fun h => ⟨h.texts, h.values⟩⟩

/-- The record of an item. -/
def record (item : Json) : RealmTrip where
  geohash := (textAt item "geohash").getD ""
  tripID := (textAt item "tripID").getD ""
  creationDate := (valueAt double item "creationDate").getD 0
  creatorUserID := (textAt item "creatorUserID").getD ""
  destinationDate := (valueAt double item "destinationDate").getD 0
  destinationLatitude := (valueAt double item "destinationLatitude").getD 0
  destinationLongitude := (valueAt double item "destinationLongitude").getD 0
  destinationName := (textAt item "destinationName").getD ""
  originDate := (valueAt double item "originDate").getD 0
  originLatitude := (valueAt double item "originLatitude").getD 0
  originLongitude := (valueAt double item "originLongitude").getD 0
  originName := (textAt item "originName").getD ""
  polygon := (textAt item "polygon").getD ""

/-- The items of a response: the invocation completed, with a body that is the
    text of a JSON object with an array under `Items`. -/
def responseItems : AWSTask → Option (List Json)
  | .completed (some data) =>
    match (String.fromUTF8? data).bind jsonObject with
    | some (.object jsonData) =>
      match jsonData.lookup "Items" with
      | some (.array items) => some items
      | _ => none
    | _ => none
  | _ => none

end

theorem asDictionary_eq_ok {value : Json} {fields : List (String × Json)} :
    asDictionary value = .ok fields ↔ value = .object fields := by
  cases value with
  | object fields' => simp [asDictionary]
  | null | bool | number | string | array => simp [asDictionary]

theorem asArray_eq_ok {value : Json} {values : List Json} :
    asArray value = .ok values ↔ value = .array values := by
  cases value with
  | array values' => simp [asArray]
  | null | bool | number | string | object => simp [asArray]

theorem asString_eq_ok {value : Option Json} {text : String} :
    asString value = .ok text ↔ value = some (.string text) := by
  unfold asString
  split
  · simp
  next hne =>
    constructor
    · intro h
      cases h
    · intro h
      exact absurd h (hne text)

theorem taggedText_eq_some {item : Json} {name tag s : String} :
    taggedText item name tag = some s ↔ ∃ jsonTrip tagged, item = .object jsonTrip ∧
      jsonTrip.lookup name = some (.object tagged) ∧ tagged.lookup tag = some (.string s) := by
  constructor
  · intro h
    unfold taggedText at h
    -- each of the three matches went through its first branch
    split at h
    next jsonTrip =>
      split at h
      next tagged htagged =>
        split at h
        next text htext =>
          obtain rfl := Option.some.inj h
          exact ⟨jsonTrip, tagged, rfl, htagged, htext⟩
        · cases h
      · cases h
    · cases h
  · intro hfound
    obtain ⟨jsonTrip, tagged, rfl, hname, htag⟩ := hfound
    simp [taggedText, hname, htag]

/-- The forced casts of one attribute succeed exactly if it is there. -/
theorem attributeText_eq_ok {jsonTrip : List (String × Json)} {name tag s : String} :
    attributeText jsonTrip name tag = .ok s ↔ taggedText (.object jsonTrip) name tag = some s := by
  rw [taggedText_eq_some]
  unfold attributeText
  constructor
  · intro h
    obtain ⟨value, hvalue, h⟩ := bind_eq_ok.mp h
    obtain ⟨tagged, htagged, h⟩ := bind_eq_ok.mp h
    rw [asDictionary_eq_ok.mp htagged] at hvalue
    exact ⟨jsonTrip, tagged, rfl, unwrap_eq_ok.mp hvalue, asString_eq_ok.mp h⟩
  · intro hfound
    obtain ⟨jsonTrip', tagged, hjson, hname, htag⟩ := hfound
    obtain rfl := Json.object.inj hjson
    rw [hname, unwrap_some, ok_bind, asDictionary, ok_bind]
    exact asString_eq_ok.mpr htag

theorem stringAttribute_eq_ok {jsonTrip : List (String × Json)} {name s : String} :
    stringAttribute jsonTrip name = .ok s ↔ textAt (.object jsonTrip) name = some s :=
  attributeText_eq_ok

theorem numberAttribute_eq_ok {jsonTrip : List (String × Json)} {name : String} {d : Double} :
    numberAttribute double jsonTrip name = .ok d ↔
      valueAt double (.object jsonTrip) name = some d := by
  unfold numberAttribute valueAt
  rw [bind_eq_ok, Option.bind_eq_some_iff]
  simp only [attributeText_eq_ok, unwrap_eq_ok]

theorem exists_object {item : Json} {name : String} (h : (textAt item name).isSome) :
    ∃ jsonTrip, item = .object jsonTrip := by
  obtain ⟨s, hs⟩ := Option.isSome_iff_exists.mp h
  obtain ⟨jsonTrip, tagged, hitem, hrest⟩ := taggedText_eq_some.mp hs
  exact ⟨jsonTrip, hitem⟩

/-- **One item.** The body of the loop reads an item exactly if it is well formed. -/
theorem realmTrip_eq_ok (item : Json) (trip : RealmTrip) :
    realmTrip double item = .ok trip ↔ WellFormedItem double item ∧ trip = record double item := by
  constructor
  · intro h
    unfold realmTrip at h
    simp only [bind_eq_ok, asDictionary_eq_ok, stringAttribute_eq_ok, numberAttribute_eq_ok] at h
    -- the attributes in the order in which the parser reads them
    obtain ⟨jsonTrip, rfl, geohash, hgeohash, tripID, htripID, creationDate, hcreationDate,
      creatorUserID, hcreatorUserID, destinationDate, hdestinationDate, destinationLatitude,
      hdestinationLatitude, destinationLongitude, hdestinationLongitude, destinationName,
      hdestinationName, originDate, horiginDate, originLatitude, horiginLatitude,
      originLongitude, horiginLongitude, originName, horiginName, polygon, hpolygon, h⟩ := h
    obtain rfl := Except.ok.inj h
    refine ⟨⟨?_, ?_⟩, ?_⟩
    · simp [textNames, hgeohash, htripID, hcreatorUserID, hdestinationName, horiginName,
        hpolygon]
    · simp [valueNames, hcreationDate, hdestinationDate, hdestinationLatitude,
        hdestinationLongitude, horiginDate, horiginLatitude, horiginLongitude]
    · simp [record, hgeohash, htripID, hcreatorUserID, hdestinationName, horiginName,
        hpolygon, hcreationDate, hdestinationDate, hdestinationLatitude,
        hdestinationLongitude, horiginDate, horiginLatitude, horiginLongitude]
  · intro hread
    obtain ⟨⟨htexts, hvalues⟩, rfl⟩ := hread
    obtain ⟨jsonTrip, rfl⟩ := exists_object (htexts "geohash" (by decide))
    have htext : ∀ name ∈ textNames, stringAttribute jsonTrip name =
        .ok ((textAt (.object jsonTrip) name).getD "") := by
      intro name hname
      obtain ⟨s, hs⟩ := Option.isSome_iff_exists.mp (htexts name hname)
      rw [hs]
      exact stringAttribute_eq_ok.mpr hs
    have hvalue : ∀ name ∈ valueNames, numberAttribute double jsonTrip name =
        .ok ((valueAt double (.object jsonTrip) name).getD 0) := by
      intro name hname
      obtain ⟨d, hd⟩ := Option.isSome_iff_exists.mp (hvalues name hname)
      rw [hd]
      exact numberAttribute_eq_ok.mpr hd
    simp only [realmTrip, asDictionary, ok_bind,
      htext "geohash" (by decide), htext "tripID" (by decide),
      hvalue "creationDate" (by decide), htext "creatorUserID" (by decide),
      hvalue "destinationDate" (by decide), hvalue "destinationLatitude" (by decide),
      hvalue "destinationLongitude" (by decide), htext "destinationName" (by decide),
      hvalue "originDate" (by decide), hvalue "originLatitude" (by decide),
      hvalue "originLongitude" (by decide), htext "originName" (by decide),
      htext "polygon" (by decide)]
    rfl

theorem responseItems_eq_some {data : ByteArray} {items : List Json} :
    responseItems jsonObject (.completed (some data)) = some items ↔
      ∃ responseString jsonData, String.fromUTF8? data = some responseString ∧
        jsonObject responseString = some (.object jsonData) ∧
        jsonData.lookup "Items" = some (.array items) := by
  constructor
  · intro h
    simp only [responseItems] at h
    -- the body is an object, and what it has under `Items` is an array
    split at h
    next jsonData hbody =>
      obtain ⟨responseString, hstring, hjson⟩ := Option.bind_eq_some_iff.mp hbody
      split at h
      next items' hitems =>
        obtain rfl := Option.some.inj h
        exact ⟨responseString, jsonData, hstring, hjson, hitems⟩
      · cases h
    · cases h
  · intro hbody
    obtain ⟨responseString, jsonData, hstring, hjson, hitems⟩ := hbody
    simp [responseItems, hstring, hjson, hitems]

theorem convertToDictionary_eq_some {text : String} {fields : List (String × Json)} :
    convertToDictionary jsonObject text = some fields ↔
      jsonObject text = some (.object fields) := by
  unfold convertToDictionary
  split
  next fields' h => simp [h]
  next hne =>
    constructor
    · intro h
      cases h
    · intro h
      exact absurd h (hne fields)

/-- A completed invocation gets past the forced unwraps of the body and the loop
    over the items exactly if the response is well formed.  What it then delivers
    is never nil. -/
theorem callCloudFunction_completed_eq_ok {responseData : Option ByteArray}
    {calls : List (Option (List RealmTrip))} :
    callCloudFunction jsonObject double (.completed responseData) = .ok calls ↔
      ∃ items, responseItems jsonObject (.completed responseData) = some items ∧
        (∀ item ∈ items, WellFormedItem double item) ∧
        calls = [some (items.map (record double))] := by
  constructor
  · intro h
    obtain ⟨data, hdata, h⟩ := bind_eq_ok.mp h
    obtain ⟨responseString, hstring, h⟩ := bind_eq_ok.mp h
    obtain ⟨jsonData, hjson, h⟩ := bind_eq_ok.mp h
    obtain ⟨value, hvalue, h⟩ := bind_eq_ok.mp h
    obtain ⟨items, hitems, h⟩ := bind_eq_ok.mp h
    obtain ⟨results, hresults, rfl⟩ := bind_pure_eq_ok.mp h
    obtain ⟨hwell, rfl⟩ := (mapM_eq_ok realmTrip_eq_ok).mp hresults
    obtain rfl := asArray_eq_ok.mp hitems
    obtain rfl := unwrap_eq_ok.mp hdata
    refine ⟨items, responseItems_eq_some.mpr ?_, hwell, rfl⟩
    exact ⟨responseString, jsonData, unwrap_eq_ok.mp hstring,
      convertToDictionary_eq_some.mp (unwrap_eq_ok.mp hjson), unwrap_eq_ok.mp hvalue⟩
  · intro hwell
    obtain ⟨items, hitems, hwell, rfl⟩ := hwell
    cases responseData with
    | none => cases hitems
    | some data =>
      obtain ⟨responseString, jsonData, hstring, hjson, hvalue⟩ := responseItems_eq_some.mp hitems
      have hresults := (mapM_eq_ok realmTrip_eq_ok).mpr ⟨hwell, rfl⟩
      simp only [callCloudFunction, unwrap_some, ok_bind, hstring,
        convertToDictionary_eq_some.mpr hjson, hvalue, asArray, hresults]
      rfl

end LambdaInteractor

/-! ## Section 3: Trips through the remote table -/

namespace AWSDynamoDBObjectMapper

/-! `number` writes a number as the decimal string of an `N` attribute. -/

variable (number : Double → String)

def attributeValue : Trips.PropertyValue → Json
  | .string value => .object [("S", .string value)]
  | .double value => .object [("N", .string (number value))]
  | .bool value => .object [("BOOL", .bool value)]

/-- Every property under its name in the key path table. -/
def item (trip : Trips) : Json :=
  .object (trip.properties.map (fun p =>
    ((Trips.jsonKeyPathsByPropertyKey.lookup p.1).getD p.1, attributeValue number p.2)))

end AWSDynamoDBObjectMapper

namespace LambdaInteractor

variable {jsonObject : String → Option Json} {double : String → Option Double}
  {number : Double → String}

/-- What the parser makes of a trip's item: all fields but the two it leaves out. -/
def parsed (trip : Trips) : RealmTrip :=
  { RealmTrip.create trip with isDriver := false, isMatched := false }

theorem parsed_eq_create_iff (trip : Trips) :
    parsed trip = RealmTrip.create trip ↔ trip.isDriver = false ∧ trip.isMatched = false := by
  constructor
  · intro h
    -- the two records differ at most in the two fields left out
    have hdriver : false = trip.isDriver := congrArg RealmTrip.isDriver h
    have hmatched : false = trip.isMatched := congrArg RealmTrip.isMatched h
    exact ⟨hdriver.symm, hmatched.symm⟩
  · rintro ⟨hdriver, hmatched⟩
    unfold parsed RealmTrip.create
    rw [hdriver, hmatched]

/-- **One item.** A trip written to the table and read back. -/
theorem realmTrip_item {trip : Trips}
    (hnumber : ∀ d, .double d ∈ trip.properties.map Prod.snd → double (number d) = some d) :
    realmTrip double (AWSDynamoDBObjectMapper.item number trip) = .ok (parsed trip) := by
  have hread : ∀ d, .double d ∈ trip.properties.map Prod.snd →
      unwrap .number (double (number d)) = .ok d := by
    intro d hd
    rw [hnumber d hd, unwrap_some]
  -- every name the parser asks for finds its column, whose tag it expects
  have hcolumns : realmTrip double (AWSDynamoDBObjectMapper.item number trip) = (do
      let creationDate ← unwrap .number (double (number trip.creationDate))
      let destinationDate ← unwrap .number (double (number trip.destinationDate))
      let destinationLatitude ← unwrap .number (double (number trip.destinationLatitude))
      let destinationLongitude ← unwrap .number (double (number trip.destinationLongitude))
      let originDate ← unwrap .number (double (number trip.originDate))
      let originLatitude ← unwrap .number (double (number trip.originLatitude))
      let originLongitude ← unwrap .number (double (number trip.originLongitude))
      return { parsed trip with
        creationDate := creationDate
        destinationDate := destinationDate
        destinationLatitude := destinationLatitude
        destinationLongitude := destinationLongitude
        originDate := originDate
        originLatitude := originLatitude
        originLongitude := originLongitude }) := rfl
  rw [hcolumns,
    hread trip.creationDate (by simp [Trips.properties]),
    hread trip.destinationDate (by simp [Trips.properties]),
    hread trip.destinationLatitude (by simp [Trips.properties]),
    hread trip.destinationLongitude (by simp [Trips.properties]),
    hread trip.originDate (by simp [Trips.properties]),
    hread trip.originLatitude (by simp [Trips.properties]),
    hread trip.originLongitude (by simp [Trips.properties])]
  rfl

/-- What the mapper writes for a trip is well formed, and its record is the one parsed. -/
theorem wellFormedItem_item {trip : Trips}
    (hnumber : ∀ d, .double d ∈ trip.properties.map Prod.snd → double (number d) = some d) :
    WellFormedItem double (AWSDynamoDBObjectMapper.item number trip) ∧
      parsed trip = record double (AWSDynamoDBObjectMapper.item number trip) :=
  (realmTrip_eq_ok _ _).mp (realmTrip_item hnumber)

section items

variable {trips : List Trips} {responseString : String} {jsonData : List (String × Json)}
  (hnumber : ∀ trip ∈ trips, ∀ d, .double d ∈ trip.properties.map Prod.snd →
    double (number d) = some d)
  (hjson : jsonObject responseString = some (.object jsonData))
  (hitems : jsonData.lookup "Items" =
    some (.array (trips.map (AWSDynamoDBObjectMapper.item number))))

include hnumber hjson hitems

theorem callCloudFunction_items :
    callCloudFunction jsonObject double (.completed (some responseString.toUTF8)) =
      .ok [some (trips.map parsed)] := by
  -- the bytes of a text are valid UTF-8 and read back as that text
  have hutf8 : String.fromUTF8? responseString.toUTF8 = some responseString :=
    dif_pos responseString.isValidUTF8
  have hwell : ∀ trip ∈ trips,
      WellFormedItem double (AWSDynamoDBObjectMapper.item number trip) ∧
        parsed trip = record double (AWSDynamoDBObjectMapper.item number trip) := by
    intro trip htrip
    exact wellFormedItem_item (hnumber trip htrip)
  apply callCloudFunction_completed_eq_ok.mpr
  refine ⟨_, responseItems_eq_some.mpr ⟨responseString, jsonData, hutf8, hjson, hitems⟩, ?_, ?_⟩
  · rw [List.forall_mem_map]
    intro trip htrip
    exact (hwell trip htrip).1
  · rw [List.map_map, List.map_congr_left (fun trip htrip => (hwell trip htrip).2)]
    rfl

/-- **Remote and local copy.** The trips of a table returned as `Items` are
    delivered once, in order, and each equals the local record of its trip
    exactly when no trip is marked as driven or matched. -/
theorem remote_eq_local_iff :
    ∃ results, callCloudFunction jsonObject double
        (.completed (some responseString.toUTF8)) = .ok [some results] ∧
      results.length = trips.length ∧
      (results = trips.map RealmTrip.create ↔
        ∀ trip ∈ trips, trip.isDriver = false ∧ trip.isMatched = false) := by
  refine ⟨trips.map parsed, callCloudFunction_items hnumber hjson hitems, by simp, ?_⟩
  rw [List.map_inj_left]
  exact forall₂_congr (fun trip _ => parsed_eq_create_iff trip)

end items

/-- A trip, the response that returns it, and the readings of that response. -/
def sampleTrip (isMatched : Bool) : Trips where
  geohash := "dqcj"
  tripID := "7"
  creationDate := 1
  creatorUserID := "user"
  destinationDate := 1
  destinationLatitude := 1
  destinationLongitude := 1
  destinationName := "Airport"
  isMatched := isMatched
  originName := "Current Location"
  polygon := "0,0,1,1"

def sampleResponse (isMatched : Bool) : String :=
  "\x7b\"Items\":[\x7b\"geohash\":\x7b\"S\":\"dqcj\"\x7d,\"tripID\":\x7b\"S\":\"7\"\x7d," ++
  "\"creationDate\":\x7b\"N\":\"1\"\x7d,\"creatorUserID\":\x7b\"S\":\"user\"\x7d," ++
  "\"destinationDate\":\x7b\"N\":\"1\"\x7d,\"destinationLatitude\":\x7b\"N\":\"1\"\x7d," ++
  "\"destinationLongitude\":\x7b\"N\":\"1\"\x7d,\"destinationName\":\x7b\"S\":\"Airport\"\x7d," ++
  "\"isDriver\":\x7b\"BOOL\":false\x7d,\"isMatched\":\x7b\"BOOL\":" ++ toString isMatched ++
  "\x7d,\"originDate\":\x7b\"N\":\"0\"\x7d,\"originLatitude\":\x7b\"N\":\"0\"\x7d," ++
  "\"originLongitude\":\x7b\"N\":\"0\"\x7d,\"originName\":\x7b\"S\":\"Current Location\"\x7d," ++
  "\"polygon\":\x7b\"S\":\"0,0,1,1\"\x7d\x7d]\x7d"

def sampleNumber (d : Double) : String := if d = 0 then "0" else "1"

def sampleDouble (text : String) : Option Double :=
  if text = "0" then some 0 else if text = "1" then some 1 else none

def sampleData (isMatched : Bool) : List (String × Json) :=
  [("Items", .array [AWSDynamoDBObjectMapper.item sampleNumber (sampleTrip isMatched)])]

def sampleObject (text : String) : Option Json :=
  if text = sampleResponse false then some (.object (sampleData false))
  else if text = sampleResponse true then some (.object (sampleData true))
  else none

theorem sampleNumber_parses (isMatched : Bool) : ∀ trip ∈ [sampleTrip isMatched], ∀ d,
    .double d ∈ trip.properties.map Prod.snd → sampleDouble (sampleNumber d) = some d := by
  intro trip htrip d hd
  rw [List.mem_singleton.mp htrip] at hd
  have hd' : d = 1 ∨ d = 0 := by simpa [Trips.properties, sampleTrip] using hd
  rcases hd' with rfl | rfl
  · decide
  · decide

theorem sampleObject_sampleResponse (isMatched : Bool) :
    sampleObject (sampleResponse isMatched) = some (.object (sampleData isMatched)) := by
  cases isMatched with
  | false => exact if_pos rfl
  | true =>
    have hne : sampleResponse true ≠ sampleResponse false := by decide +kernel
    rw [sampleObject, if_neg hne, if_pos rfl]

theorem remote_eq_local_iff_sample :
    ∃ results, callCloudFunction sampleObject sampleDouble
        (.completed (some (sampleResponse false).toUTF8)) = .ok [some results] ∧
      results.length = 1 ∧
      (results = [sampleTrip false].map RealmTrip.create ↔
        ∀ trip ∈ [sampleTrip false], trip.isDriver = false ∧ trip.isMatched = false) :=
  remote_eq_local_iff (sampleNumber_parses false) (sampleObject_sampleResponse false) rfl

/-- A matched trip comes back unmatched. -/
theorem matched_trip_read_back :
    ∃ results, callCloudFunction sampleObject sampleDouble
        (.completed (some (sampleResponse true).toUTF8)) = .ok [some results] ∧
      results ≠ [sampleTrip true].map RealmTrip.create :=
  ⟨[parsed (sampleTrip true)],
    callCloudFunction_items (sampleNumber_parses true) (sampleObject_sampleResponse true) rfl,
    by decide⟩

/-! ## Section 4: Responses of any form -/

section

variable (jsonObject double)

/-- The response has items, and every one of them is well formed. -/
def WellFormed (task : AWSTask) : Prop :=
  ∃ items, responseItems jsonObject task = some items ∧
    ∀ item ∈ items, WellFormedItem double item

/-- What the completion should be handed: the records of the items in order if all
    of them are well formed, and nil otherwise. -/
def expected (task : AWSTask) : Option (List RealmTrip) :=
  match responseItems jsonObject task with
  | some items =>
    if ∀ item ∈ items, WellFormedItem double item then some (items.map (record double)) else none
  | none => none

end

/-- **Responses.** The completion is called once, as expected, exactly if the
    response is well formed. -/
theorem completion_as_expected_iff (jsonObject : String → Option Json)
    (double : String → Option Double) (task : AWSTask) :
    callCloudFunction jsonObject double task = .ok [expected jsonObject double task] ↔
      WellFormed jsonObject double task := by
  constructor
  · intro h
    cases task with
    | error => cases h
    | exception => cases h
    | completed responseData =>
      obtain ⟨items, hitems, hwell, hcalls⟩ := callCloudFunction_completed_eq_ok.mp h
      exact ⟨items, hitems, hwell⟩
  · intro hwell
    obtain ⟨items, hitems, hwell⟩ := hwell
    have hexpected : expected jsonObject double task = some (items.map (record double)) := by
      simp only [expected, hitems]
      exact if_pos hwell
    cases task with
    | error => cases hitems
    | exception => cases hitems
    | completed responseData =>
      rw [hexpected]
      exact callCloudFunction_completed_eq_ok.mpr ⟨items, hitems, hwell, rfl⟩

/-- A failed invocation is not reported, and one that completed without a body traps. -/
theorem failure_not_reported :
    (callCloudFunction sampleObject sampleDouble .error = .ok [] ∧
      callCloudFunction sampleObject sampleDouble .error ≠
        .ok [expected sampleObject sampleDouble .error]) ∧
    callCloudFunction sampleObject sampleDouble (.completed none) =
      .error (.foundNil .responseData) :=
  ⟨⟨rfl, fun h => by cases h⟩, rfl⟩

end LambdaInteractor

end RideHitch
