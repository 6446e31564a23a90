import RideHitch.MatchSearch
import RideHitch.RealmInteractor

/-! # TripsViewController

    The list of the trips that the device has stored, the screens with matches
    that its rows open, and the row that opens the add-trip screen.  Section 1 is
    the model, Section 2 what holds in every state, Section 3 which runs go
    through.

    The storyboard attaches `findMatchesSegue` to the cell with a trip.  UIKit
    prepares such a segue before it calls the delegate, so that
    `indexPathForSelectedRow` is still set. -/

namespace RideHitch

/-! ## Section 1: Model -/

/-- The stored trips, never nil.  They come in the order of their insertion, in which
    Realm lists the objects of an unsorted query but which it does not promise. -/
def RealmInteractor.fetchTrips (trips : List RealmTrip) : List RealmTrip := trips

/-- A cell: `AddNewRideCell`, or `tripCell` with the trip whose destination it shows. -/
inductive TripsCell where
  | addNewRide
  | trip (trip : RealmTrip)
  deriving DecidableEq

/-- `sections`, `cells` and `indexPathForSelectedRow` belong to the table view: the
    section count of its last reload, the cells asked for since then and the
    section of the selected row.  Every section has one row. -/
structure TripsViewController where
  data : List RealmTrip := []
  sections : ℕ := 0
  cells : List (ℕ × TripsCell) := []
  indexPathForSelectedRow : Option ℕ := none

namespace TripsViewController

def numberOfSections (vc : TripsViewController) : ℕ := vc.data.length + 1

def reload (vc : TripsViewController) (realmTrips : List RealmTrip) : TripsViewController :=
  let vc := { vc with data := RealmInteractor.fetchTrips realmTrips }
  { vc with
    sections := vc.numberOfSections
    cells := []
    indexPathForSelectedRow := none }

def cellForRowAt (vc : TripsViewController) (index : ℕ) : Except Trap TripsCell :=
  if index ≥ vc.data.length then .ok .addNewRide
  else do
    let trip ← subscript vc.data index
    return .trip trip

/-- The preparation of `findMatchesSegue`. -/
def prepare (vc : TripsViewController) : Except Trap ResultsMapVC := do
  let index ← unwrap .indexPath vc.indexPathForSelectedRow
  let trip ← subscript vc.data index
  return { selectedTrip := some trip }

/-- The screen after the tap, and whether `addNewRide` is performed. -/
def didSelectRowAt (vc : TripsViewController) (index : ℕ) : TripsViewController × Bool :=
  ({ vc with indexPathForSelectedRow := none }, decide (index ≥ vc.data.length))

end TripsViewController

/-- The screen with the local store.  `opened` has the match screens, each with the
    trip that the tapped row showed, which is not in the source; `rides` is the
    number of add-trip screens that were opened. -/
structure TripsTab where
  realmTrips : List RealmTrip := []
  vc : TripsViewController := {}
  opened : List (RealmTrip × MatchSearch) := []
  rides : ℕ := 0

/-- `saveAWSTrip` is the completion of an upload, `search` a step of the `i`-th match
    screen. -/
inductive TripsEvent where
  | viewDidLoad
  | reload
  | saveAWSTrip (trip : Trips)
  | cellForRowAt (index : ℕ)
  | selectRow (index : ℕ)
  | search (i : ℕ) (e : SearchEvent)

namespace TripsTab

variable (jsonObject : String → Option Json) (double : String → Option Double)

def reload (tab : TripsTab) : TripsTab := { tab with vc := tab.vc.reload tab.realmTrips }

def cellForRowAt (tab : TripsTab) (index : ℕ) : Except Trap TripsTab :=
  if index < tab.vc.sections then do
    let cell ← tab.vc.cellForRowAt index
    return { tab with vc := { tab.vc with cells := (index, cell) :: tab.vc.cells } }
  else .ok tab

/-- The match screens after the segue of a cell. -/
def findMatches (tab : TripsTab) (vc : TripsViewController) :
    TripsCell → Except Trap (List (RealmTrip × MatchSearch))
  | .addNewRide => .ok tab.opened
  | .trip shown => do
      let results ← vc.prepare
      return tab.opened ++ [(shown, { flow := { vc := results } })]

/-- Only a row that shows can be selected. -/
def selectRow (tab : TripsTab) (index : ℕ) : Except Trap TripsTab :=
  match tab.vc.cells.lookup index with
  | some cell => do
      let selected := { tab.vc with indexPathForSelectedRow := some index }
      let opened ← tab.findMatches selected cell
      let (vc, addNewRide) := selected.didSelectRowAt index
      return { tab with
        vc := vc
        opened := opened
        rides := if addNewRide then tab.rides + 1 else tab.rides }
  | none => .ok tab

def search (tab : TripsTab) (i : ℕ) (e : SearchEvent) : Except Trap TripsTab := do
  let opened ← Machine.stepAt (MatchSearch.machine jsonObject double) tab.opened i e
  return { tab with opened := opened }

def step (tab : TripsTab) : TripsEvent → Except Trap TripsTab
  | .viewDidLoad => .ok tab.reload
  | .reload => .ok tab.reload
  | .saveAWSTrip trip =>
      .ok { tab with realmTrips := RealmInteractor.saveAWSTrip tab.realmTrips trip }
  | .cellForRowAt index => tab.cellForRowAt index
  | .selectRow index => tab.selectRow index
  | .search i e => tab.search jsonObject double i e

def machine : Machine TripsTab TripsEvent Trap where
  init := {}
  step := step jsonObject double

/-! ## Section 2: What holds in every state -/

variable {jsonObject : String → Option Json} {double : String → Option Double}

/-- A match screen that asks for the matches of `trip` only. -/
structure AsksFor (jsonObject : String → Option Json) (double : String → Option Double)
    (trip : RealmTrip) (s : MatchSearch) : Prop where
  inv : s.SearchInv jsonObject double trip
  searches : ∀ r ∈ s.flow.searches.outstanding, r.2 = LambdaInteractor.itemsBody trip
  sent : ∀ request ∈ s.flow.sent,
    request.body.lookup "requesterTripID" = some (.string trip.tripID)

theorem asksFor_init (trip : RealmTrip) :
    AsksFor jsonObject double trip (MatchSearch.machine jsonObject double trip).init where
  inv := MatchSearch.searchInv_init trip
  searches := by
    intro r hr
    cases hr
  sent := by
    intro request hrequest
    cases hrequest

/-- A search is for the trip of the screen. -/
theorem searches_of_step {trip : RealmTrip} {flow flow' : MatchFlow} {e : MatchEvent}
    (htrip : flow.vc.selectedTrip = some trip) (h : flow.step e = .ok flow') :
    ∀ r ∈ flow'.searches.outstanding,
      r ∈ flow.searches.outstanding ∨ r.2 = LambdaInteractor.itemsBody trip := by
  have hsearch : flow.search = .ok flow' → ∀ r ∈ flow'.searches.outstanding,
      r ∈ flow.searches.outstanding ∨ r.2 = LambdaInteractor.itemsBody trip := by
    intro h r hr
    simp only [MatchFlow.search, ResultsMapVC.search, htrip, unwrap_some, ok_bind] at h
    rw [← Except.ok.inj h] at hr
    rcases List.mem_append.mp hr with hr | hr
    · exact .inl hr
    · rw [List.mem_singleton.mp hr]
      exact .inr rfl
  have hkept : flow'.searches = flow.searches → ∀ r ∈ flow'.searches.outstanding,
      r ∈ flow.searches.outstanding ∨ r.2 = LambdaInteractor.itemsBody trip := by
    intro hsame r hr
    exact .inl (hsame ▸ hr)
  cases e with
  | viewDidLoad => exact hsearch h
  | refresh => exact hsearch h
  | searchReturned serial answer =>
    intro r hr
    rw [← Except.ok.inj h] at hr
    unfold MatchFlow.searchReturned at hr
    split at hr
    · exact .inl (List.mem_of_mem_filter hr)
    · exact .inl (List.mem_of_mem_filter hr)
    · exact .inl hr
  | cellForRowAt row =>
    apply hkept
    simp only [MatchFlow.step, MatchFlow.cellForRowAt] at h
    split_ifs at h
    · obtain ⟨_, _, rfl⟩ := bind_pure_eq_ok.mp h
      rfl
    · rw [← Except.ok.inj h]
  | selectRow row =>
    apply hkept
    rw [← Except.ok.inj h]
    unfold MatchFlow.selectRow
    split
    · rfl
    · rfl
  | next =>
    apply hkept
    obtain ⟨_, _, rfl⟩ := bind_pure_eq_ok.mp h
    rfl
  | requestButtonPressed i date =>
    apply hkept
    simp only [MatchFlow.step, MatchFlow.requestButtonPressed] at h
    split at h
    · obtain ⟨_, _, rfl⟩ := bind_pure_eq_ok.mp h
      rfl
    · rw [← Except.ok.inj h]

/-- A match request names the trip of the screen as the requester. -/
theorem sent_of_step {trip : RealmTrip} {flow flow' : MatchFlow} {e : MatchEvent}
    (hopened : ∀ opened ∈ flow.opened, opened.vc.selectedTrip = some trip)
    (h : flow.step e = .ok flow') :
    ∀ request ∈ flow'.sent, request ∈ flow.sent ∨
      request.body.lookup "requesterTripID" = some (.string trip.tripID) := by
  cases MatchFlow.outcome_of_step h with
  | @requested i date screen body hi hbody =>
    intro request hrequest
    rcases List.mem_append.mp hrequest with hrequest | hrequest
    · exact .inl hrequest
    · rw [List.mem_singleton.mp hrequest]
      have hselected := hopened screen (List.mem_of_getElem? hi)
      obtain ⟨usersTrip, husers, hbody⟩ := bind_eq_ok.mp hbody
      obtain ⟨matchedTrip, _, rfl⟩ := bind_pure_eq_ok.mp hbody
      rw [hselected, unwrap_some] at husers
      rw [Except.ok.inj husers]
      exact .inr rfl
  | _ =>
    intro request hrequest
    exact .inl hrequest

theorem asksFor_step {trip : RealmTrip} {s s' : MatchSearch} {e : SearchEvent}
    (hs : AsksFor jsonObject double trip s) (h : s.step jsonObject double e = .ok s') :
    AsksFor jsonObject double trip s' where
  inv := MatchSearch.searchInv_step hs.inv h
  searches := by
    rcases MatchSearch.flow_of_step h with hsame | ⟨e', hstep⟩
    · rw [hsame]
      exact hs.searches
    · intro r hr
      rcases searches_of_step hs.inv.flow.trip hstep r hr with hr | hbody
      · exact hs.searches r hr
      · exact hbody
  sent := by
    rcases MatchSearch.flow_of_step h with hsame | ⟨e', hstep⟩
    · rw [hsame]
      exact hs.sent
    · intro request hrequest
      rcases sent_of_step hs.inv.opened hstep request hrequest with hrequest | hnames
      · exact hs.sent request hrequest
      · exact hnames

variable (jsonObject double) in
/-- The list is the first part of the store, a cell shows what its section still has,
    and every match screen is for a stored trip. -/
structure TabInv (tab : TripsTab) : Prop where
  data : tab.vc.data <+: tab.realmTrips
  sections : tab.vc.sections ≤ tab.vc.numberOfSections
  cells : ∀ index cell, tab.vc.cells.lookup index = some cell →
    index ≤ tab.vc.data.length ∧ tab.vc.cellForRowAt index = .ok cell
  opened : ∀ member ∈ tab.opened,
    member.1 ∈ tab.realmTrips ∧ AsksFor jsonObject double member.1 member.2

theorem tabInv_init : TabInv jsonObject double {} where
  data := List.prefix_rfl
  sections := Nat.zero_le _
  cells := by
    intro index cell hcell
    cases hcell
  opened := by
    intro member hmember
    cases hmember

theorem TabInv.reload {tab : TripsTab} (hinv : tab.TabInv jsonObject double) :
    tab.reload.TabInv jsonObject double where
  data := List.prefix_rfl
  sections := Nat.le_refl _
  cells := by
    intro index cell hcell
    cases hcell
  opened := hinv.opened

/-- The store only grows at its end. -/
theorem TabInv.saveAWSTrip {tab : TripsTab} (hinv : tab.TabInv jsonObject double)
    (trip : Trips) : TabInv jsonObject double
      { tab with realmTrips := RealmInteractor.saveAWSTrip tab.realmTrips trip } where
  data := hinv.data.trans (List.prefix_append _ _)
  sections := hinv.sections
  cells := hinv.cells
  opened := by
    intro member hmember
    obtain ⟨hstored, hasks⟩ := hinv.opened member hmember
    exact ⟨List.mem_append_left _ hstored, hasks⟩

/-- What a section has: a trip of the store, or the row for a new ride. -/
theorem cellForRowAt_eq {vc : TripsViewController} {realmTrips : List RealmTrip}
    (hdata : vc.data <+: realmTrips) {index : ℕ} (hindex : index ≤ vc.data.length) :
    (index = vc.data.length ∧ vc.cellForRowAt index = .ok .addNewRide) ∨
    ∃ trip, realmTrips[index]? = some trip ∧ vc.data[index]? = some trip ∧
      vc.cellForRowAt index = .ok (.trip trip) := by
  unfold TripsViewController.cellForRowAt
  by_cases hlast : index ≥ vc.data.length
  · exact .inl ⟨Nat.le_antisymm hindex hlast, if_pos hlast⟩
  · have hlt : index < vc.data.length := Nat.lt_of_not_le hlast
    have htrip := List.getElem?_eq_getElem hlt
    refine .inr ⟨_, ?_, htrip, ?_⟩
    · obtain ⟨rest, hrest⟩ := hdata
      rw [← hrest, List.getElem?_append_left hlt]
      exact htrip
    · rw [if_neg hlast, subscript_eq_ok.mpr htrip]
      rfl

variable (jsonObject double) in
/-- **A tap** opens the matches of the stored trip that the row shows, or a new
    ride. -/
theorem selectRow_eq {tab : TripsTab} (hinv : tab.TabInv jsonObject double) {index : ℕ}
    {cell : TripsCell} (hcell : tab.vc.cells.lookup index = some cell) :
    (cell = .addNewRide ∧ index = tab.vc.data.length ∧
      tab.selectRow index = .ok { tab with
        vc := { tab.vc with indexPathForSelectedRow := none }
        rides := tab.rides + 1 }) ∨
    ∃ trip, cell = .trip trip ∧ tab.realmTrips[index]? = some trip ∧
      tab.selectRow index = .ok { tab with
        vc := { tab.vc with indexPathForSelectedRow := none }
        opened := tab.opened ++ [(trip, (MatchSearch.machine jsonObject double trip).init)] } := by
  obtain ⟨hindex, hshown⟩ := hinv.cells index cell hcell
  rcases cellForRowAt_eq hinv.data hindex with ⟨hlast, hnew⟩ | ⟨trip, hstored, htrip, hold⟩
  · obtain rfl := Except.ok.inj (hshown.symm.trans hnew)
    refine .inl ⟨rfl, hlast, ?_⟩
    have hperformed : index ≥ tab.vc.data.length := Nat.le_of_eq hlast.symm
    simp only [selectRow, hcell, findMatches, ok_bind, TripsViewController.didSelectRowAt,
      hperformed, decide_true, if_true]
    rfl
  · obtain rfl := Except.ok.inj (hshown.symm.trans hold)
    refine .inr ⟨trip, rfl, hstored, ?_⟩
    -- the selected row still has the trip that its cell shows
    have hprepare : ({ tab.vc with indexPathForSelectedRow := some index }).prepare =
        .ok { selectedTrip := some trip } := by
      simp only [TripsViewController.prepare, unwrap_some, ok_bind, subscript_eq_ok.mpr htrip]
      rfl
    have hperformed : ¬ index ≥ tab.vc.data.length := by
      have hlt := (List.getElem?_eq_some_iff.mp htrip).1
      omega
    simp only [selectRow, hcell, findMatches, hprepare, ok_bind,
      TripsViewController.didSelectRowAt, hperformed, decide_false]
    rfl

theorem tabInv_step {tab tab' : TripsTab} {e : TripsEvent}
    (hinv : tab.TabInv jsonObject double) (h : tab.step jsonObject double e = .ok tab') :
    tab'.TabInv jsonObject double := by
  cases e with
  | viewDidLoad =>
    rw [← Except.ok.inj h]
    exact hinv.reload
  | reload =>
    rw [← Except.ok.inj h]
    exact hinv.reload
  | saveAWSTrip trip =>
    rw [← Except.ok.inj h]
    exact hinv.saveAWSTrip trip
  | cellForRowAt index =>
    simp only [step, cellForRowAt] at h
    split_ifs at h with hindex
    · obtain ⟨cell, hcell, rfl⟩ := bind_pure_eq_ok.mp h
      refine ⟨hinv.data, hinv.sections, ?_, hinv.opened⟩
      intro index' cell' hlookup
      by_cases hsame : index' = index
      · subst hsame
        have hshown : cell = cell' := by simpa using hlookup
        have hle := hinv.sections
        unfold TripsViewController.numberOfSections at hle
        exact ⟨by show index' ≤ tab.vc.data.length; omega, hshown ▸ hcell⟩
      · rw [List.lookup_cons, beq_false_of_ne hsame] at hlookup
        exact hinv.cells index' cell' hlookup
    · rw [← Except.ok.inj h]
      exact hinv
  | selectRow index =>
    have h : tab.selectRow index = .ok tab' := h
    cases hcell : tab.vc.cells.lookup index with
    | none =>
      simp only [selectRow, hcell] at h
      rw [← Except.ok.inj h]
      exact hinv
    | some cell =>
      rcases selectRow_eq jsonObject double hinv hcell with
        ⟨_, _, heq⟩ | ⟨trip, _, hstored, heq⟩
      · rw [heq] at h
        rw [← Except.ok.inj h]
        exact ⟨hinv.data, hinv.sections, hinv.cells, hinv.opened⟩
      · rw [heq] at h
        rw [← Except.ok.inj h]
        refine ⟨hinv.data, hinv.sections, hinv.cells, ?_⟩
        intro member hmember
        rcases List.mem_append.mp hmember with hmember | hmember
        · exact hinv.opened member hmember
        · rw [List.mem_singleton.mp hmember]
          exact ⟨List.mem_of_getElem? hstored, asksFor_init trip⟩
  | search i e =>
    obtain ⟨opened, hopened, rfl⟩ := bind_pure_eq_ok.mp h
    refine ⟨hinv.data, hinv.sections, hinv.cells, ?_⟩
    have hstep : ∀ trip s s', (trip ∈ tab.realmTrips ∧ AsksFor jsonObject double trip s) →
        (MatchSearch.machine jsonObject double trip).step s e = .ok s' →
        trip ∈ tab.realmTrips ∧ AsksFor jsonObject double trip s' := by
      intro trip s s' hs h
      exact ⟨hs.1, asksFor_step hs.2 h⟩
    have hmembers := Machine.stepAt_preserves hstep hinv.opened hopened
    exact hmembers

theorem tabInv_of_run {es : List TripsEvent} {tab : TripsTab}
    (h : (machine jsonObject double).run {} es = .ok tab) : tab.TabInv jsonObject double := by
  have hstep : ∀ tab e tab', tab.TabInv jsonObject double →
      (machine jsonObject double).step tab e = .ok tab' → tab'.TabInv jsonObject double := by
    intro tab e tab' hinv h
    exact tabInv_step hinv h
  exact Machine.run_preserves hstep tabInv_init h

/-- **The rows and their screens.** In every state a rendered row shows the stored trip
    at its place, or is the last one; a tap on it opens the matches of that very
    trip, or a new ride.  Every match screen opened so far searches and requests for
    the stored trip that its row showed. -/
theorem rows_open_their_trips {es : List TripsEvent} {tab : TripsTab}
    (h : (machine jsonObject double).run {} es = .ok tab) :
    (∀ index cell, tab.vc.cells.lookup index = some cell →
      (cell = .addNewRide ∧ index = tab.vc.data.length ∧
        ∃ tab', tab.step jsonObject double (.selectRow index) = .ok tab' ∧
          tab'.opened = tab.opened ∧ tab'.rides = tab.rides + 1) ∨
      ∃ trip, cell = .trip trip ∧ tab.realmTrips[index]? = some trip ∧
        ∃ tab', tab.step jsonObject double (.selectRow index) = .ok tab' ∧
          tab'.opened =
            tab.opened ++ [(trip, (MatchSearch.machine jsonObject double trip).init)] ∧
          tab'.rides = tab.rides) ∧
    ∀ trip s, (trip, s) ∈ tab.opened → trip ∈ tab.realmTrips ∧
      (∀ r ∈ s.flow.searches.outstanding, r.2 = LambdaInteractor.itemsBody trip) ∧
      ∀ request ∈ s.flow.sent,
        request.body.lookup "requesterTripID" = some (.string trip.tripID) := by
  have hinv := tabInv_of_run h
  constructor
  · intro index cell hcell
    rcases selectRow_eq jsonObject double hinv hcell with
      ⟨hnew, hlast, heq⟩ | ⟨trip, hold, hstored, heq⟩
    · exact .inl ⟨hnew, hlast, _, heq, rfl, rfl⟩
    · exact .inr ⟨trip, hold, hstored, _, heq, rfl, rfl⟩
  · intro trip s hmember
    obtain ⟨hstored, hasks⟩ := hinv.opened (trip, s) hmember
    exact ⟨hstored, hasks.searches, hasks.sent⟩

/-- A trip is stored after the list was loaded, the list is reloaded, and the row of
    the trip is tapped. -/
def oneTripTapped : List TripsEvent :=
  [.viewDidLoad, .saveAWSTrip { tripID := "1" }, .reload, .cellForRowAt 0, .cellForRowAt 1,
   .selectRow 0, .search 0 (.screen .viewDidLoad)]

theorem rows_open_their_trips_sample : ∃ tab,
    (machine LambdaInteractor.sampleObject LambdaInteractor.sampleDouble).run {} oneTripTapped =
      .ok tab ∧
    (∃ tab', tab.step LambdaInteractor.sampleObject LambdaInteractor.sampleDouble
        (.selectRow 0) = .ok tab' ∧ tab'.opened.length = 2 ∧ tab'.rides = 0) ∧
    (∃ tab', tab.step LambdaInteractor.sampleObject LambdaInteractor.sampleDouble
        (.selectRow 1) = .ok tab' ∧ tab'.opened.length = 1 ∧ tab'.rides = 1) ∧
    ∃ member ∈ tab.opened, member.1 ∈ tab.realmTrips ∧
      ∃ r ∈ member.2.flow.searches.outstanding, r.2 = LambdaInteractor.itemsBody member.1 := by
  have hevaluated : ∃ tab, (machine LambdaInteractor.sampleObject
      LambdaInteractor.sampleDouble).run {} oneTripTapped = .ok tab ∧
      tab.vc.cells.lookup 0 = some (.trip { tripID := "1" }) ∧
      tab.vc.cells.lookup 1 = some .addNewRide ∧ tab.opened.length = 1 ∧ tab.rides = 0 ∧
      ∃ member ∈ tab.opened, member.2.flow.searches.outstanding ≠ [] :=
    Machine.exists_run_eq_ok _ (by decide)
  obtain ⟨tab, hrun, hfirst, hlast, hlength, hrides, member, hmember, hne⟩ := hevaluated
  obtain ⟨hcells, hopened⟩ := rows_open_their_trips hrun
  refine ⟨tab, hrun, ?_, ?_, member, hmember, ?_⟩
  · rcases hcells 0 _ hfirst with ⟨hnew, _⟩ | ⟨_, _, _, tab', hstep, hopens, hsame⟩
    · cases hnew
    · exact ⟨tab', hstep, by simp [hopens, hlength], hsame.trans hrides⟩
  · rcases hcells 1 _ hlast with ⟨_, _, tab', hstep, hsame, hopens⟩ | ⟨_, htrip, _⟩
    · exact ⟨tab', hstep, by rw [hsame, hlength], by rw [hopens, hrides]⟩
    · cases htrip
  · obtain ⟨hstored, hsearches, _⟩ := hopened member.1 member.2 hmember
    obtain ⟨r, hr⟩ := List.exists_mem_of_ne_nil _ hne
    exact ⟨hstored, r, hr, hsearches r hr⟩

/-! ## Section 3: The runs that go through -/

variable (jsonObject double) in
/-- An event that concerns a match screen meets the condition of that screen. -/
def Safe (tab : TripsTab) : TripsEvent → Prop
  | .search i e => ∀ member, tab.opened[i]? = some member → member.2.Safe jsonObject double e
  | _ => True

theorem safe_iff {tab : TripsTab} (hinv : tab.TabInv jsonObject double) (e : TripsEvent) :
    tab.Safe jsonObject double e ↔ ∃ tab', tab.step jsonObject double e = .ok tab' := by
  cases e with
  | viewDidLoad => exact iff_of_true trivial ⟨_, rfl⟩
  | reload => exact iff_of_true trivial ⟨_, rfl⟩
  | saveAWSTrip trip => exact iff_of_true trivial ⟨_, rfl⟩
  | cellForRowAt index =>
    refine iff_of_true trivial ?_
    simp only [step, cellForRowAt]
    by_cases hindex : index < tab.vc.sections
    · have hle : index ≤ tab.vc.data.length := by
        have hsections := hinv.sections
        unfold TripsViewController.numberOfSections at hsections
        omega
      simp only [hindex, if_true]
      apply exists_bind_pure_eq_ok.mpr
      rcases cellForRowAt_eq hinv.data hle with ⟨_, hcell⟩ | ⟨trip, _, _, hcell⟩
      · exact ⟨_, hcell⟩
      · exact ⟨_, hcell⟩
    · exact ⟨tab, by simp [hindex]⟩
  | selectRow index =>
    refine iff_of_true trivial ?_
    show ∃ tab', tab.selectRow index = .ok tab'
    cases hcell : tab.vc.cells.lookup index with
    | none => exact ⟨tab, by simp [selectRow, hcell]⟩
    | some cell =>
      rcases selectRow_eq jsonObject double hinv hcell with ⟨_, _, heq⟩ | ⟨trip, _, _, heq⟩
      · exact ⟨_, heq⟩
      · exact ⟨_, heq⟩
  | search i e =>
    have hsearch : (∃ tab', tab.step jsonObject double (.search i e) = .ok tab') ↔
        ∃ opened, Machine.stepAt (MatchSearch.machine jsonObject double) tab.opened i e =
          .ok opened := exists_bind_pure_eq_ok
    rw [hsearch, Machine.stepAt_goes_on_iff]
    constructor
    · intro hsafe member hi
      have hasks := (hinv.opened member (List.mem_of_getElem? hi)).2
      exact (MatchSearch.safe_iff hasks.inv e).mp (hsafe member hi)
    · intro hgoes member hi
      have hasks := (hinv.opened member (List.mem_of_getElem? hi)).2
      exact (MatchSearch.safe_iff hasks.inv e).mpr (hgoes member hi)

/-- **The list itself never traps.** A run goes through exactly if every match screen,
    for every trip that any tap opened, meets its own condition at each of its steps. -/
theorem tab_goes_through_iff (jsonObject : String → Option Json)
    (double : String → Option Double) (es : List TripsEvent) :
    (∃ tab, (machine jsonObject double).run {} es = .ok tab) ↔
      (machine jsonObject double).Meets (Safe jsonObject double) {} es := by
  have hinv : ∀ tab e tab', TabInv jsonObject double tab →
      (machine jsonObject double).step tab e = .ok tab' → TabInv jsonObject double tab' := by
    intro tab e tab' hinv h
    exact tabInv_step hinv h
  apply Machine.goes_through_iff_meets hinv ?_ tabInv_init
  intro tab e hinv
  exact safe_iff hinv e

end TripsTab

end RideHitch
