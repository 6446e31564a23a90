import RideHitch.RealmInteractor

/-! # GooglePlaceFetcher

    The two calls of the place service.  A failed autocomplete query never
    calls its completion; a failed lookup completes with nil. -/

namespace RideHitch

structure GMSPlace where
  name : String
  coordinate : CLLocationCoordinate2D
  deriving DecidableEq

structure GMSAutocompletePrediction where
  placeID : Option String
  attributedFullText : String
  deriving DecidableEq

/-- What `autocompleteQuery` hands to its callback. -/
inductive AutocompleteAnswer where
  | failed
  | answered (results : Option (List GMSAutocompletePrediction))
  deriving DecidableEq

namespace GooglePlaceFetcher

variable (realm : DateSort)

/-- The favourites after the call.  A tapped prediction becomes a favourite
    before its place is looked up under `id`. -/
def fetchPlaceForAutocompletePrediction (favorites : List FavoritePlace)
    (prediction : Option GMSAutocompletePrediction) (now : NSDate) :
    Except Trap (List FavoritePlace) :=
  match prediction with
  | none => .ok favorites
  | some prediction => do
      let placeID ← unwrap .placeID prediction.placeID
      RealmInteractor.saveFavoritePlace realm favorites
        ⟨prediction.attributedFullText, placeID, now⟩

/-- With an id, a tapped prediction is saved without a trap. -/
theorem fetchPlaceForAutocompletePrediction_ok (favorites : List FavoritePlace)
    {prediction : GMSAutocompletePrediction} {id : String} (h : prediction.placeID = some id)
    (now : NSDate) :
    fetchPlaceForAutocompletePrediction realm favorites (some prediction) now =
      .ok (Eviction.put realm 5 favorites ⟨prediction.attributedFullText, id, now⟩) := by
  simp [fetchPlaceForAutocompletePrediction, h, RealmInteractor.saveFavoritePlace_eq]

end GooglePlaceFetcher

end RideHitch
