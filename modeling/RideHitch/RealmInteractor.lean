import Mathlib.Data.Rat.Defs
import Mathlib.Algebra.Order.Ring.Rat
import Mathlib.Data.Multiset.AddSub
import RideHitch.Library.Eviction
import RideHitch.Trips

/-! # RealmInteractor

    The local stores: trips and users are only ever appended to, favourite
    places are kept to the six that `saveFavoritePlace` leaves. -/

namespace RideHitch

structure FavoritePlace where
  placeName : String
  placeID : String
  creationDate : NSDate
  deriving DecidableEq

structure User where
  userName : String
  givenName : String
  surName : String
  email : String
  password : String
  deriving DecidableEq

/-- Realm's `sorted(byProperty: "creationDate", ascending:)`. -/
abbrev DateSort : Type := KeySort FavoritePlace.creationDate

namespace RealmInteractor

variable (realm : DateSort)

def saveAWSTrip (trips : List RealmTrip) (trip : Trips) : List RealmTrip :=
  trips ++ [RealmTrip.create trip]

def saveUser (users : List User) (user : User) : List User := users ++ [user]

def fetchUser (users : List User) : Option User := users.head?

def fetchFavoritePlaces (store : List FavoritePlace) : List FavoritePlace :=
  realm.sorted false store

def saveFavoritePlace (store : List FavoritePlace) (place : FavoritePlace) :
    Except Trap (List FavoritePlace) := do
  let favoritePlaces := fetchFavoritePlaces realm store
  if favoritePlaces.length > 5 then
    let objectToDelete ← unwrap .objectToDelete (realm.sorted true store).head?
    return store.erase objectToDelete ++ [place]
  else
    return store ++ [place]

/-- **Saving never traps**, and the favourite store is the bounded store of the
    library, full at six. -/
theorem saveFavoritePlace_eq (store : List FavoritePlace) (place : FavoritePlace) :
    saveFavoritePlace realm store place = .ok (Eviction.put realm 5 store place) := by
  unfold saveFavoritePlace fetchFavoritePlaces Eviction.put
  simp only [KeySort.length_sorted]
  -- a store of more than five places is not empty, so the unwrap finds one to delete
  by_cases hfull : 5 < store.length
  · have hne : store ≠ [] := by
      apply List.ne_nil_of_length_pos
      omega
    obtain ⟨old, hold⟩ := realm.head_isSome hne
    simp only [hfull, if_true, hold, unwrap_some, ok_bind]
    rfl
  · simp only [hfull, if_false]
    rfl

/-- Save the places one after the other on a fresh device. -/
def saveFavoritePlaces (places : List FavoritePlace) : Except Trap (List FavoritePlace) :=
  places.foldlM (saveFavoritePlace realm) []

theorem saveFavoritePlaces_eq (places : List FavoritePlace) :
    saveFavoritePlaces realm places = .ok (Eviction.putAll realm 5 places) := by
  have hrun : ∀ store, places.foldlM (saveFavoritePlace realm) store
      = .ok (places.foldl (Eviction.put realm 5) store) := by
    induction places with
    | nil =>
      intro store
      rfl
    | cons place places ih =>
      intro store
      rw [List.foldlM_cons, saveFavoritePlace_eq, ok_bind, ih, List.foldl_cons]
  exact hrun []

/-- **The favourite store.** After the `n`-th save the store holds `min n 6`
    places and the place just saved; it is the previous content and the new
    place, less one place of least date exactly when six were stored.  It is
    listed whole, newest first; with strictly increasing dates the listing is
    the last `min n 6` places saved. -/
theorem favoritePlaces_invariant (places : List FavoritePlace) (place : FavoritePlace) :
    ∃ before after,
      saveFavoritePlaces realm places = .ok before ∧
      saveFavoritePlace realm before place = .ok after ∧
      saveFavoritePlaces realm (places ++ [place]) = .ok after ∧
      after.length = min (places.length + 1) 6 ∧
      place ∈ after ∧
      (if before.length < 6 then (after : Multiset FavoritePlace) = place ::ₘ before
        else before.length = 6 ∧ ∃ old ∈ before,
          (∀ q ∈ before, old.creationDate ≤ q.creationDate) ∧
          old ::ₘ (after : Multiset FavoritePlace) = place ::ₘ before) ∧
      (fetchFavoritePlaces realm after : Multiset FavoritePlace) = after ∧
      (fetchFavoritePlaces realm after).Pairwise (fun p q => q.creationDate ≤ p.creationDate) ∧
      ((places ++ [place]).Pairwise (fun p q => p.creationDate < q.creationDate) →
        fetchFavoritePlaces realm after = (places ++ [place]).reverse.take 6) := by
  have hbefore := Eviction.length_putAll realm 5 places
  have hafter := Eviction.length_putAll realm 5 (places ++ [place])
  rw [Eviction.putAll_append] at hafter
  refine ⟨Eviction.putAll realm 5 places,
    Eviction.put realm 5 (Eviction.putAll realm 5 places) place,
    saveFavoritePlaces_eq realm places, saveFavoritePlace_eq realm _ place,
    ?_, ?_, ?_, ?_, ?_, ?_, ?_⟩
  · rw [saveFavoritePlaces_eq, Eviction.putAll_append]
  · simpa using hafter
  · exact Eviction.mem_put realm 5 _ place
  · split_ifs with hfull
    · rw [Eviction.put_of_le realm 5 (by omega)]
      exact Multiset.coe_eq_coe.mpr (List.perm_append_singleton _ _)
    · refine ⟨by omega, ?_⟩
      have hlt : 5 < (Eviction.putAll realm 5 places).length := by omega
      obtain ⟨old, hmem, hleast, hput⟩ := Eviction.put_of_lt realm 5 hlt place
      refine ⟨old, hmem, hleast, ?_⟩
      -- the erased place comes back, the new one moves to the front
      have hfront := (List.perm_append_singleton place
        ((Eviction.putAll realm 5 places).erase old)).cons old
      have hback := (List.perm_cons_erase hmem).symm.cons place
      rw [hput]
      exact Multiset.coe_eq_coe.mpr ((hfront.trans (List.Perm.swap _ _ _)).trans hback)
  · exact Multiset.coe_eq_coe.mpr (realm.perm false _)
  · exact realm.descends _
  · intro hinc
    have hlast := Eviction.putAll_of_increasing realm 5 hinc
    rw [Eviction.putAll_append] at hlast
    rw [fetchFavoritePlaces, hlast, realm.sorted_false_of_increasing hinc.drop, List.reverse_drop,
      List.take_eq_take_iff, List.length_reverse]
    omega

end RealmInteractor

end RideHitch
