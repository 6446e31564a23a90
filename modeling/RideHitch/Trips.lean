import RideHitch.Foundation

/-! # Trip records

    `Trips` is the row of the remote table, `RealmTrip` its local copy.  Field
    names are those of the source without the leading underscore. -/

namespace RideHitch

structure Trips where
  geohash : String := ""
  tripID : String := ""
  creationDate : Double := 0
  creatorUserID : String := ""
  destinationDate : Double := 0
  destinationLatitude : Double := 0
  destinationLongitude : Double := 0
  destinationName : String := ""
  isDriver : Bool := false
  isMatched : Bool := false
  originDate : Double := 0
  originLatitude : Double := 0
  originLongitude : Double := 0
  originName : String := ""
  polygon : String := ""
  deriving DecidableEq

structure RealmTrip where
  geohash : String := ""
  tripID : String := ""
  creationDate : Double := 0
  creatorUserID : String := ""
  destinationDate : Double := 0
  destinationLatitude : Double := 0
  destinationLongitude : Double := 0
  destinationName : String := ""
  isDriver : Bool := false
  isMatched : Bool := false
  originDate : Double := 0
  originLatitude : Double := 0
  originLongitude : Double := 0
  originName : String := ""
  polygon : String := ""
  deriving DecidableEq

/-- `realm.create(RealmTrip.self, value: trip)`: every property of the new
    object is read from the property of the same name. -/
def RealmTrip.create (trip : Trips) : RealmTrip where
  geohash := trip.geohash
  tripID := trip.tripID
  creationDate := trip.creationDate
  creatorUserID := trip.creatorUserID
  destinationDate := trip.destinationDate
  destinationLatitude := trip.destinationLatitude
  destinationLongitude := trip.destinationLongitude
  destinationName := trip.destinationName
  isDriver := trip.isDriver
  isMatched := trip.isMatched
  originDate := trip.originDate
  originLatitude := trip.originLatitude
  originLongitude := trip.originLongitude
  originName := trip.originName
  polygon := trip.polygon

namespace Trips

/-- The value of one property, as the object mapper sees it. -/
inductive PropertyValue where
  | string (value : String)
  | double (value : Double)
  | bool (value : Bool)
  deriving DecidableEq

/-- The stored properties under their names in the source. -/
def properties (trip : Trips) : List (String × PropertyValue) :=
  [("_geohash", .string trip.geohash),
   ("_tripID", .string trip.tripID),
   ("_creationDate", .double trip.creationDate),
   ("_creatorUserID", .string trip.creatorUserID),
   ("_destinationDate", .double trip.destinationDate),
   ("_destinationLatitude", .double trip.destinationLatitude),
   ("_destinationLongitude", .double trip.destinationLongitude),
   ("_destinationName", .string trip.destinationName),
   ("_isDriver", .bool trip.isDriver),
   ("_isMatched", .bool trip.isMatched),
   ("_originDate", .double trip.originDate),
   ("_originLatitude", .double trip.originLatitude),
   ("_originLongitude", .double trip.originLongitude),
   ("_originName", .string trip.originName),
   ("_polygon", .string trip.polygon)]

def hashKeyAttribute : String := "_geohash"

def rangeKeyAttribute : String := "_tripID"

def jsonKeyPathsByPropertyKey : List (String × String) :=
  [("_geohash", "geohash"),
   ("_tripID", "tripID"),
   ("_creationDate", "creationDate"),
   ("_creatorUserID", "creatorUserID"),
   ("_destinationCoordinates", "destinationCoordinates"),
   ("_destinationDate", "destinationDate"),
   ("_destinationLatitude", "destinationLatitude"),
   ("_destinationLongitude", "destinationLongitude"),
   ("_destinationName", "destinationName"),
   ("_isDriver", "isDriver"),
   ("_isMatched", "isMatched"),
   ("_originCoordinates", "originCoordinates"),
   ("_originDate", "originDate"),
   ("_originLatitude", "originLatitude"),
   ("_originLongitude", "originLongitude"),
   ("_originName", "originName"),
   ("_polygon", "polygon")]

/-- The key of the row in the remote table: the values of the hash key and the
    range key attribute. -/
def key (trip : Trips) : Option PropertyValue × Option PropertyValue :=
  (trip.properties.lookup hashKeyAttribute, trip.properties.lookup rangeKeyAttribute)

theorem key_eq (trip : Trips) :
    trip.key = (some (.string trip.geohash), some (.string trip.tripID)) := rfl

/-- The attribute of the row with this name in the remote table. -/
def attributeNamed (trip : Trips) (name : String) : Option PropertyValue :=
  (trip.properties.find? fun p => jsonKeyPathsByPropertyKey.lookup p.1 = some name).map Prod.snd

theorem attributeNamed_geohash (trip : Trips) :
    trip.attributeNamed "geohash" = some (.string trip.geohash) := rfl

theorem attributeNamed_creationDate (trip : Trips) :
    trip.attributeNamed "creationDate" = some (.double trip.creationDate) := rfl

end Trips

end RideHitch
