import RideHitch.AddTrip.Steps

/-! # The search list

    The table is loaded from one of two lists, chosen by the search text, and
    every callback chooses again from the text of that moment.  Section 1 has
    the invariant between the table and the list it was last loaded from,
    Section 2 shows that rows show what they select as long as the chosen list
    has not changed under the table.

    `textDidChange` reloads the table only when an answer arrives, so clearing
    the text changes the list and leaves the rows. -/

namespace RideHitch

/-! ## Section 1: The loaded rows -/

namespace AddTripWithMapVC

variable {describe : Double → String} {realm : DateSort}

structure ListInv (vc : AddTripWithMapVC) : Prop where
  rows : vc.rows = vc.loaded.length
  /-- Every cell shows the place that its row was loaded with. -/
  cells : ∀ row cell, vc.cells.lookup row = some cell →
    ∃ place, cell = some place ∧ vc.loaded[row]? = some place

variable (realm) in
/-- The list chosen now has in this row what the table was loaded with. -/
def UpToDate (favorites : List FavoritePlace) (vc : AddTripWithMapVC) (row : ℕ) : Prop :=
  (vc.listed realm favorites)[row]? = vc.loaded[row]?

theorem listInv_viewDidLoad : ListInv viewDidLoad where
  rows := rfl
  cells := by simp [viewDidLoad]

theorem listInv_reloadData (favorites : List FavoritePlace) (vc : AddTripWithMapVC) :
    (vc.reloadData realm favorites).ListInv where
  rows := numberOfRowsInSection_eq favorites vc
  cells := by simp [reloadData]

/-- The place that an up-to-date row has. -/
theorem ListInv.place_of_upToDate {favorites : List FavoritePlace} {vc : AddTripWithMapVC}
    (hinv : vc.ListInv) {row : ℕ} (hrow : row < vc.rows)
    (hdate : vc.UpToDate realm favorites row) :
    ∃ place, vc.loaded[row]? = some place ∧ (vc.listed realm favorites)[row]? = some place := by
  have hlt : row < vc.loaded.length := hinv.rows ▸ hrow
  exact ⟨vc.loaded[row], List.getElem?_eq_getElem hlt, hdate.trans (List.getElem?_eq_getElem hlt)⟩

theorem listInv_rendered {favorites : List FavoritePlace} {vc : AddTripWithMapVC}
    (hinv : vc.ListInv) {row : ℕ} {cell : Option ListedPlace} (hrow : row < vc.rows)
    (hcell : vc.cellForRowAt realm favorites row = .ok cell)
    (hdate : vc.UpToDate realm favorites row) :
    ListInv { vc with cells := (row, cell) :: vc.cells } where
  rows := hinv.rows
  cells := by
    intro row' cell' hlookup
    by_cases hsame : row' = row
    · subst hsame
      obtain ⟨place, hloaded, hlisted⟩ := hinv.place_of_upToDate hrow hdate
      rw [cellForRowAt_ok hlisted] at hcell
      have hcell' : cell = cell' := by simpa using hlookup
      exact ⟨place, hcell' ▸ (Except.ok.inj hcell).symm, hloaded⟩
    · rw [List.lookup_cons, beq_false_of_ne hsame] at hlookup
      exact hinv.cells row' cell' hlookup

end AddTripWithMapVC

namespace App

variable {describe : Double → String} {realm : DateSort}

def ListInv (app : App) : Prop :=
  ∀ (i : ℕ) (vc : AddTripWithMapVC), app.screens[i]? = some vc → vc.ListInv

/-! ## Section 2: What a row shows is what a tap selects -/

variable (realm) in
/-- A row asked for or tapped is up to date, and a tapped place has an id. -/
def InStep (app : App) : Event → Prop
  | .screen i (.cellForRowAt row) => ∀ vc : AddTripWithMapVC, app.screens[i]? = some vc →
      row < vc.rows → vc.UpToDate realm app.favorites row
  | .didSelectRowAt i row _ => ∀ vc : AddTripWithMapVC, app.screens[i]? = some vc →
      vc.tableViewIsHidden = false → row < vc.rows →
      vc.UpToDate realm app.favorites row ∧
      ∀ place, vc.loaded[row]? = some place → place.placeID.isSome
  | _ => True

variable (describe realm) in
/-- A row asked for shows a place.  A row tapped is looked up without a trap,
    under the id of the place that its cell was rendered with. -/
def ShowsWhatItSelects (app : App) : Event → Prop
  | .screen i (.cellForRowAt row) => ∀ vc : AddTripWithMapVC, app.screens[i]? = some vc →
      row < vc.rows → ∃ place, vc.cellForRowAt realm app.favorites row = .ok (some place)
  | .didSelectRowAt i row now => ∀ vc : AddTripWithMapVC, app.screens[i]? = some vc →
      vc.tableViewIsHidden = false → row < vc.rows →
      ∃ app' id, step describe realm app (.didSelectRowAt i row now) = .ok app' ∧
        app'.lookups.find app.lookups.issued = some ⟨i, id⟩ ∧
        ∀ cell, vc.cells.lookup row = some cell → ∃ place, cell = some place ∧
          place.placeID = some id
  | _ => True

/-- A step keeps the rows and cells of a screen true to the list they came from. -/
theorem listInv_moves {app : App} {rc' : RouteCalculator} {i : ℕ} {e : Event}
    {vc vc' : AddTripWithMapVC} (hi : app.screens[i]? = some vc) (hinv : vc.ListInv)
    (hstep : app.InStep realm e) (h : Moves realm app rc' i e vc vc') : vc'.ListInv := by
  cases h with
  | handled h =>
    cases AddTripWithMapVC.handled_of_handle h with
    | rendered hrow hcell =>
      exact AddTripWithMapVC.listInv_rendered hinv hrow hcell (hstep vc hi hrow)
    | editing => exact AddTripWithMapVC.listInv_reloadData _ _
    | laidOut => exact AddTripWithMapVC.listInv_reloadData _ _
    | _ => exact ⟨hinv.rows, hinv.cells⟩
  | predicted _ => exact AddTripWithMapVC.listInv_reloadData _ _
  | tapped _ h =>
    obtain ⟨rfl, _⟩ := AddTripWithMapVC.didSelectRowAt_eq_ok h
    exact ⟨hinv.rows, hinv.cells⟩
  | fetched _ _ h =>
    obtain ⟨rfl, _⟩ := AddTripWithMapVC.placeFetched_eq_ok h
    exact ⟨hinv.rows, hinv.cells⟩
  | notified h =>
    obtain ⟨_, _, _, _, _, _, _, _, rfl⟩ := AddTripWithMapVC.routesReady_eq_ok h
    exact ⟨hinv.rows, hinv.cells⟩
  | kept => exact hinv
  | typed => exact ⟨hinv.rows, hinv.cells⟩

theorem listInv_step {app app' : App} {e : Event} (hinv : app.ListInv)
    (hstep : app.InStep realm e) (h : step describe realm app e = .ok app') : app'.ListInv := by
  intro i vc' hi
  rcases screens_of_step h hi with ⟨_, _, rfl⟩ | ⟨vc, hvc, hmove⟩
  · exact AddTripWithMapVC.listInv_viewDidLoad
  · exact listInv_moves hvc (hinv i vc hvc) hstep hmove

/-- Under the invariant, a step whose rows are up to date does what the rows show. -/
theorem showsWhatItSelects_of_inStep {app : App} {e : Event} (hinv : app.ListInv)
    (hstep : app.InStep realm e) : app.ShowsWhatItSelects describe realm e := by
  cases e with
  | screen i e =>
    cases e with
    | cellForRowAt row =>
      intro vc hi hrow
      obtain ⟨place, _, hlisted⟩ := (hinv i vc hi).place_of_upToDate hrow (hstep vc hi hrow)
      exact ⟨place, AddTripWithMapVC.cellForRowAt_ok hlisted⟩
    | _ => trivial
  | didSelectRowAt i row now =>
    intro vc hi hshown hrow
    obtain ⟨hdate, hids⟩ := hstep vc hi hshown hrow
    obtain ⟨place, hloaded, hlisted⟩ := (hinv i vc hi).place_of_upToDate hrow hdate
    obtain ⟨id, hid⟩ := Option.isSome_iff_exists.mp (hids place hloaded)
    obtain ⟨favorites', htap⟩ := AddTripWithMapVC.didSelectRowAt_ok hlisted hid now
    have htapped : step describe realm app (.didSelectRowAt i row now) =
        .ok { app.setScreen i { vc with tableViewIsHidden := true, searchBarText := "" } with
          favorites := favorites'
          lookups := app.lookups.issue ⟨i, id⟩ } := by
      simp only [step, didSelectRowAt, hi, hshown, hrow, and_self, if_true, htap, ok_bind,
        pure_eq_ok]
    refine ⟨_, id, htapped, Requests.find_issue_self app.lookups ⟨i, id⟩, ?_⟩
    -- the cell shows the loaded place, which is the one the tap found
    intro cell hcell
    obtain ⟨shown, hcell', hloaded'⟩ := (hinv i vc hi).cells row cell hcell
    rw [hloaded] at hloaded'
    cases hloaded'
    exact ⟨place, hcell', hid⟩
  | _ => trivial

/-- **The search list.** In a run in which the rows asked for and tapped are up
    to date, every one of them shows a place and selects the place it shows. -/
theorem rows_show_what_they_select {es : List Event}
    (h : (machine describe realm).Meets (InStep realm) {} es) :
    (machine describe realm).Meets (ShowsWhatItSelects describe realm) {} es := by
  have hinv : ∀ app e app', app.ListInv → app.InStep realm e →
      (machine describe realm).step app e = .ok app' → app'.ListInv := by
    intro app e app' hinv hstep h
    exact listInv_step hinv hstep h
  have himp : ∀ (app : App) e, app.ListInv → app.InStep realm e →
      app.ShowsWhatItSelects describe realm e := by
    intro app e hinv hstep
    exact showsWhatItSelects_of_inStep hinv hstep
  have hinit : ListInv {} := by simp [ListInv]
  exact Machine.meets_mono hinv himp hinit h

/-- The id that a tap looks up is that of the place in the list chosen now. -/
theorem selected_of_step {app app' : App} {i row : ℕ} {now : NSDate} {vc : AddTripWithMapVC}
    {id : String} (hi : app.screens[i]? = some vc) (hshown : vc.tableViewIsHidden = false)
    (hrow : row < vc.rows) (h : step describe realm app (.didSelectRowAt i row now) = .ok app')
    (hfind : app'.lookups.find app.lookups.issued = some ⟨i, id⟩) :
    ∃ place, (vc.listed realm app.favorites)[row]? = some place ∧ place.placeID = some id := by
  simp only [step, didSelectRowAt, hi, hshown, hrow, and_self, if_true] at h
  obtain ⟨⟨id', favorites', vc'⟩, htap, h⟩ := bind_eq_ok.mp h
  cases h
  rw [Requests.find_issue_self] at hfind
  cases hfind
  exact (AddTripWithMapVC.didSelectRowAt_eq_ok htap).2

/-- A favourite is listed, rendered and tapped. -/
def tapFavorite : List Event :=
  [.favoritesChanged [⟨"Home", "H", 0⟩], .viewDidLoad, .screen 0 .searchBarTextDidBeginEditing,
   .screen 0 (.cellForRowAt 0), .didSelectRowAt 0 0 100]

theorem rows_show_what_they_select_favorite :
    (machine (fun _ => "") (.insertion _)).Meets
      (ShowsWhatItSelects (fun _ => "") (.insertion _)) {} tapFavorite := by
  apply rows_show_what_they_select
  refine (Machine.meets_cons_of_ok rfl).mpr ⟨trivial, ?_⟩
  refine (Machine.meets_cons_of_ok rfl).mpr ⟨trivial, ?_⟩
  refine (Machine.meets_cons_of_ok rfl).mpr ⟨trivial, ?_⟩
  refine (Machine.meets_cons_of_ok rfl).mpr ⟨?_, ?_⟩
  · rintro _ ⟨⟩ _
    rfl
  refine (Machine.meets_cons_of_ok rfl).mpr ⟨?_, trivial⟩
  rintro _ ⟨⟩ _ _
  refine ⟨rfl, ?_⟩
  rintro _ ⟨⟩
  rfl

/-- Two predictions are listed and rendered, then the search text is cleared. -/
def clearedSearch : List Event :=
  [.viewDidLoad, .screen 0 .searchBarTextDidBeginEditing, .textDidChange 0 "a",
   .autocompleteReturned 0 (.answered (some [⟨some "A", "Airport"⟩, ⟨some "F", "Airfield"⟩])),
   .screen 0 (.cellForRowAt 0), .screen 0 (.cellForRowAt 1), .textDidChange 0 ""]

/-- A tap on the airport then reads past the end of the favourites, or looks up
    a favourite. -/
theorem cleared_search :
    (machine (fun _ => "") (.insertion _)).run {}
        (clearedSearch ++ [.didSelectRowAt 0 1 100]) = .error .indexOutOfRange ∧
    ¬ (machine (fun _ => "") (.insertion _)).Meets
        (ShowsWhatItSelects (fun _ => "") (.insertion _)) {}
        (.favoritesChanged [⟨"Home", "H", 0⟩] :: clearedSearch ++ [.didSelectRowAt 0 0 100]) := by
  refine ⟨Machine.run_eq_error _ (by decide +kernel), ?_⟩
  have hevaluated : ∃ app, (machine (fun _ => "") (.insertion _)).run {}
      (.favoritesChanged [⟨"Home", "H", 0⟩] :: clearedSearch) = .ok app ∧
      ∃ vc ∈ app.screens[0]?, vc.tableViewIsHidden = false ∧ 0 < vc.rows ∧
        vc.cells.lookup 0 = some (some (.prediction ⟨some "A", "Airport"⟩)) ∧
        vc.listed (.insertion _) app.favorites = [.favorite ⟨"Home", "H", 0⟩] :=
    Machine.exists_run_eq_ok _ (by decide +kernel)
  obtain ⟨app, hrun, vc, hi, hshown, hrow, hcell, hlisted⟩ := hevaluated
  intro hmeets
  obtain ⟨hselects, _⟩ := ((Machine.meets_append hrun _).mp hmeets).2
  obtain ⟨app', id, htapped, hfind, hshows⟩ := hselects vc hi hshown hrow
  obtain ⟨_, ⟨⟩, hA⟩ := hshows _ hcell
  -- the cell shows the airport, the tap looks up the favourite
  have hH := selected_of_step hi hshown hrow htapped hfind
  rw [hlisted] at hH
  obtain ⟨_, ⟨⟩, hH⟩ := hH
  have hsame : "H" = "A" := Option.some.inj (hH.trans hA.symm)
  exact absurd hsame (by decide)

end App

end RideHitch
