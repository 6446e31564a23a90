import RideHitch.Library.Machine
import RideHitch.Library.Requests
import RideHitch.LambdaInteractor

/-! # ResultsMapVC

    The screen with the matches for one trip, and the `AcceptMatchVC` screens
    that its Next button opens.  Section 1 is the model, Section 2 says exactly
    which runs request the match that the user chose.

    The Next button is an ordinary bar button: it is never disabled. -/

namespace RideHitch

/-! ## Section 1: Model -/

structure AcceptMatchVC where
  selectedTrip : Option RealmTrip
  matchedTrip : Option RealmTrip
  deriving DecidableEq

/-- The body of the request that is sent. -/
def AcceptMatchVC.requestButtonPressed (vc : AcceptMatchVC) (date : Double) :
    Except Trap (List (String × Json)) := do
  let usersTrip ← unwrap .selectedTrip vc.selectedTrip
  let matchedTrip ← unwrap .matchedTrip vc.matchedTrip
  return LambdaInteractor.matchesBody usersTrip matchedTrip date

/-- `rows`, `cells` and `indexPathForSelectedRow` belong to the table view: the
    row count of its last reload, the trips whose cells were asked for since
    then, and the selected row. -/
structure ResultsMapVC where
  selectedTrip : Option RealmTrip := none
  potentialTrips : Option (List RealmTrip) := none
  rows : ℕ := 0
  cells : List (ℕ × RealmTrip) := []
  indexPathForSelectedRow : Option ℕ := none
  deriving DecidableEq

namespace ResultsMapVC

/-- The body of the search that `viewDidLoad` and `refresh` both start. -/
def search (vc : ResultsMapVC) : Except Trap (List (String × Json)) := do
  let trip ← unwrap .selectedTrip vc.selectedTrip
  return LambdaInteractor.itemsBody trip

def numberOfRowsInSection (vc : ResultsMapVC) : ℕ :=
  match vc.potentialTrips with
  | some potentialTrips => potentialTrips.length
  | none => 0

/-- The trip whose destination and creator the cell shows. -/
def cellForRowAt (vc : ResultsMapVC) (row : ℕ) : Except Trap RealmTrip := do
  let trip ← optionalSubscript vc.potentialTrips row
  unwrap .trip trip

def reloadData (vc : ResultsMapVC) : ResultsMapVC :=
  { vc with
    rows := vc.numberOfRowsInSection
    cells := []
    indexPathForSelectedRow := none }

/-- The completion that both searches hand to `callCloudFunction`. -/
def searched (vc : ResultsMapVC) (results : Option (List RealmTrip)) : ResultsMapVC :=
  { vc with potentialTrips := results }.reloadData

/-- `potentialTrips?[(indexPath?.row)!]`: without results the row is not read. -/
def prepare (vc : ResultsMapVC) : Except Trap AcceptMatchVC :=
  match vc.potentialTrips with
  | some potentialTrips => do
      let row ← unwrap .indexPath vc.indexPathForSelectedRow
      let trip ← subscript potentialTrips row
      return ⟨vc.selectedTrip, some trip⟩
  | none => .ok ⟨vc.selectedTrip, none⟩

end ResultsMapVC

/-- How a search ended: its completion is never called, or called once. -/
inductive SearchAnswer where
  | dropped
  | delivered (results : Option (List RealmTrip))

/-- An opened screen, and the trip that the row selected last had shown. -/
structure OpenedMatch where
  vc : AcceptMatchVC
  chosen : Option RealmTrip
  deriving DecidableEq

/-- A match request, and the trip chosen when its screen was opened. -/
structure SentMatch where
  body : List (String × Json)
  chosen : Option RealmTrip

/-- `chosen` is not in the source: the trip shown by the row selected last. -/
structure MatchFlow where
  vc : ResultsMapVC
  searches : Requests (List (String × Json)) := .empty
  chosen : Option RealmTrip := none
  opened : List OpenedMatch := []
  sent : List SentMatch := []

inductive MatchEvent where
  | viewDidLoad
  | refresh
  | searchReturned (serial : ℕ) (answer : SearchAnswer)
  | cellForRowAt (row : ℕ)
  | selectRow (row : ℕ)
  | next
  | requestButtonPressed (i : ℕ) (date : Double)

namespace MatchFlow

def search (flow : MatchFlow) : Except Trap MatchFlow := do
  let body ← flow.vc.search
  return { flow with searches := flow.searches.issue body }

def searchReturned (flow : MatchFlow) (serial : ℕ) (answer : SearchAnswer) : MatchFlow :=
  match flow.searches.find serial, answer with
  | some _, .delivered results =>
      { flow with vc := flow.vc.searched results, searches := flow.searches.settle serial }
  | some _, .dropped => { flow with searches := flow.searches.settle serial }
  | none, _ => flow

def cellForRowAt (flow : MatchFlow) (row : ℕ) : Except Trap MatchFlow :=
  if row < flow.vc.rows then do
    let trip ← flow.vc.cellForRowAt row
    return { flow with vc := { flow.vc with cells := (row, trip) :: flow.vc.cells } }
  else .ok flow

/-- Only a row that shows can be selected. -/
def selectRow (flow : MatchFlow) (row : ℕ) : MatchFlow :=
  match flow.vc.cells.lookup row with
  | some trip =>
      { flow with
        vc := { flow.vc with indexPathForSelectedRow := some row }
        chosen := some trip }
  | none => flow

def next (flow : MatchFlow) : Except Trap MatchFlow := do
  let vc ← flow.vc.prepare
  return { flow with opened := flow.opened ++ [⟨vc, flow.chosen⟩] }

def requestButtonPressed (flow : MatchFlow) (i : ℕ) (date : Double) : Except Trap MatchFlow :=
  match flow.opened[i]? with
  | some screen => do
      let body ← screen.vc.requestButtonPressed date
      return { flow with sent := flow.sent ++ [⟨body, screen.chosen⟩] }
  | none => .ok flow

def step (flow : MatchFlow) : MatchEvent → Except Trap MatchFlow
  | .viewDidLoad => flow.search
  | .refresh => flow.search
  | .searchReturned serial answer => .ok (flow.searchReturned serial answer)
  | .cellForRowAt row => flow.cellForRowAt row
  | .selectRow row => .ok (flow.selectRow row)
  | .next => flow.next
  | .requestButtonPressed i date => flow.requestButtonPressed i date

/-- The screen for `trip`, as `TripsViewController` opens it. -/
def machine (trip : RealmTrip) : Machine MatchFlow MatchEvent Trap where
  init := { vc := { selectedTrip := some trip } }
  step := step

/-! ## Section 2: The steps -/

/-- What a step that does not trap does to the flow. -/
inductive Outcome (flow : MatchFlow) : MatchEvent → MatchFlow → Prop where
  | idle {e} (hnext : e ≠ .next) : Outcome flow e flow
  | searching {e body} (hnext : e ≠ .next) :
      Outcome flow e { flow with searches := flow.searches.issue body }
  | dropped {serial answer} :
      Outcome flow (.searchReturned serial answer)
        { flow with searches := flow.searches.settle serial }
  | delivered {serial results} :
      Outcome flow (.searchReturned serial (.delivered results))
        { flow with vc := flow.vc.searched results, searches := flow.searches.settle serial }
  | shown {row trip} (hrow : row < flow.vc.rows) (h : flow.vc.cellForRowAt row = .ok trip) :
      Outcome flow (.cellForRowAt row)
        { flow with vc := { flow.vc with cells := (row, trip) :: flow.vc.cells } }
  | selected {row trip} (h : flow.vc.cells.lookup row = some trip) :
      Outcome flow (.selectRow row)
        { flow with
          vc := { flow.vc with indexPathForSelectedRow := some row }
          chosen := some trip }
  | opened {vc} (h : flow.vc.prepare = .ok vc) :
      Outcome flow .next { flow with opened := flow.opened ++ [⟨vc, flow.chosen⟩] }
  | requested {i date screen body} (hi : flow.opened[i]? = some screen)
      (h : screen.vc.requestButtonPressed date = .ok body) :
      Outcome flow (.requestButtonPressed i date)
        { flow with sent := flow.sent ++ [⟨body, screen.chosen⟩] }

theorem outcome_of_step {flow flow' : MatchFlow} {e : MatchEvent} (h : flow.step e = .ok flow') :
    Outcome flow e flow' := by
  cases e with
  | viewDidLoad =>
    obtain ⟨trip, _, rfl⟩ := bind_pure_eq_ok.mp h
    exact .searching (by simp)
  | refresh =>
    obtain ⟨trip, _, rfl⟩ := bind_pure_eq_ok.mp h
    exact .searching (by simp)
  | searchReturned serial answer =>
    cases h
    unfold searchReturned
    cases flow.searches.find serial with
    | none => exact .idle (by simp)
    | some trip =>
      cases answer with
      | dropped => exact .dropped
      | delivered results => exact .delivered
  | cellForRowAt row =>
    simp only [step, cellForRowAt] at h
    split_ifs at h with hrow
    · obtain ⟨trip, htrip, rfl⟩ := bind_pure_eq_ok.mp h
      exact .shown hrow htrip
    · cases h
      exact .idle (by simp)
  | selectRow row =>
    cases h
    unfold selectRow
    cases hcell : flow.vc.cells.lookup row with
    | none => exact .idle (by simp)
    | some trip => exact .selected hcell
  | next =>
    obtain ⟨vc, hvc, rfl⟩ := bind_pure_eq_ok.mp h
    exact .opened hvc
  | requestButtonPressed i date =>
    simp only [step, requestButtonPressed] at h
    cases hi : flow.opened[i]? with
    | none =>
      rw [hi] at h
      cases h
      exact .idle (by simp)
    | some screen =>
      rw [hi] at h
      obtain ⟨body, hbody, rfl⟩ := bind_pure_eq_ok.mp h
      exact .requested hi hbody

/-! ## Section 3: The chosen match -/

/-- What holds in every state of the screen for `trip`. -/
structure MatchInv (trip : RealmTrip) (flow : MatchFlow) : Prop where
  trip : flow.vc.selectedTrip = some trip
  rows : flow.vc.rows = (flow.vc.potentialTrips.getD []).length
  /-- A cell shows the trip that its row still has. -/
  cells : ∀ row shown, flow.vc.cells.lookup row = some shown →
    (flow.vc.potentialTrips.getD [])[row]? = some shown
  /-- The selected row has the chosen trip. -/
  selected : ∀ row, flow.vc.indexPathForSelectedRow = some row →
    ∃ chosen, flow.chosen = some chosen ∧
      (flow.vc.potentialTrips.getD [])[row]? = some chosen

/-- Every screen was opened with the chosen trip, and every request names it and
    the trip the results were searched for. -/
structure RequestsChosen (trip : RealmTrip) (flow : MatchFlow) : Prop where
  opened : ∀ screen ∈ flow.opened, ∃ chosen, screen.chosen = some chosen ∧
    screen.vc = ⟨some trip, some chosen⟩
  sent : ∀ request ∈ flow.sent, ∃ chosen, request.chosen = some chosen ∧
    request.body.lookup "requestedTripID" = some (.string chosen.tripID) ∧
    request.body.lookup "requesterTripID" = some (.string trip.tripID)

variable {trip : RealmTrip}

theorem numberOfRowsInSection_eq (vc : ResultsMapVC) :
    vc.numberOfRowsInSection = (vc.potentialTrips.getD []).length := by
  unfold ResultsMapVC.numberOfRowsInSection
  cases vc.potentialTrips with
  | none => rfl
  | some potentialTrips => rfl

/-- A row below the row count has a trip to show. -/
theorem cellForRowAt_ok {flow : MatchFlow} (hinv : flow.MatchInv trip) {row : ℕ}
    (hrow : row < flow.vc.rows) :
    ∃ shown, flow.vc.cellForRowAt row = .ok shown ∧
      (flow.vc.potentialTrips.getD [])[row]? = some shown := by
  rw [hinv.rows] at hrow
  have hshown := List.getElem?_eq_getElem hrow
  refine ⟨_, ?_, hshown⟩
  rw [ResultsMapVC.cellForRowAt, optionalSubscript_eq_ok.mpr hshown]
  rfl

theorem matchInv_init (trip : RealmTrip) : MatchInv trip (machine trip).init where
  trip := rfl
  rows := rfl
  cells := by simp [machine]
  selected := by simp [machine]

theorem matchInv_step {flow flow' : MatchFlow} {e : MatchEvent} (hinv : flow.MatchInv trip)
    (h : flow.step e = .ok flow') : flow'.MatchInv trip := by
  cases outcome_of_step h with
  | delivered =>
    exact ⟨hinv.trip, numberOfRowsInSection_eq _, by simp [ResultsMapVC.searched,
      ResultsMapVC.reloadData], by simp [ResultsMapVC.searched, ResultsMapVC.reloadData]⟩
  | @shown row trip' hrow hcell =>
    refine ⟨hinv.trip, hinv.rows, ?_, hinv.selected⟩
    obtain ⟨shown, hok, hshown⟩ := cellForRowAt_ok hinv hrow
    have hsame : trip' = shown := Except.ok.inj (hcell.symm.trans hok)
    intro row' shown' hlookup
    by_cases hrow' : row' = row
    · subst hrow'
      have hshown' : trip' = shown' := by simpa using hlookup
      exact hshown' ▸ hsame ▸ hshown
    · rw [List.lookup_cons, beq_false_of_ne hrow'] at hlookup
      exact hinv.cells row' shown' hlookup
  | @selected row trip' hcell =>
    refine ⟨hinv.trip, hinv.rows, hinv.cells, ?_⟩
    intro row' hrow'
    have hrow : row = row' := by simpa using hrow'
    exact ⟨trip', rfl, hinv.cells row' trip' (hrow ▸ hcell)⟩
  | _ => exact ⟨hinv.trip, hinv.rows, hinv.cells, hinv.selected⟩

/-- What was opened and sent stays in the history. -/
theorem requestsChosen_back {flow flow' : MatchFlow} {e : MatchEvent}
    (h : flow.step e = .ok flow') (hgood : flow'.RequestsChosen trip) :
    flow.RequestsChosen trip := by
  cases outcome_of_step h with
  | opened _ =>
    refine ⟨?_, hgood.sent⟩
    intro screen hscreen
    exact hgood.opened screen (List.mem_append_left _ hscreen)
  | requested _ _ =>
    refine ⟨hgood.opened, ?_⟩
    intro request hrequest
    exact hgood.sent request (List.mem_append_left _ hrequest)
  | _ => exact ⟨hgood.opened, hgood.sent⟩

/-- Next is tapped while a row is selected. -/
def HasSelection (flow : MatchFlow) : MatchEvent → Prop
  | .next => flow.vc.indexPathForSelectedRow.isSome
  | _ => True

/-- With a selected row, Next opens the screen for the chosen trip. -/
theorem prepare_of_selection {flow : MatchFlow} (hinv : flow.MatchInv trip)
    (hselected : flow.vc.indexPathForSelectedRow.isSome) :
    ∃ chosen, flow.chosen = some chosen ∧
      flow.vc.prepare = .ok ⟨some trip, some chosen⟩ := by
  -- the selected row still has the trip that was chosen in it
  obtain ⟨row, hrow⟩ := Option.isSome_iff_exists.mp hselected
  obtain ⟨chosen, hchosen, hhas⟩ := hinv.selected row hrow
  refine ⟨chosen, hchosen, ?_⟩
  unfold ResultsMapVC.prepare
  cases htrips : flow.vc.potentialTrips with
  | none => simp [htrips] at hhas
  | some potentialTrips =>
    rw [htrips, Option.getD_some] at hhas
    simp only [hrow, unwrap_some, ok_bind, subscript_eq_ok.mpr hhas, hinv.trip]
    rfl

/-- Without one, it traps or opens a screen without a match. -/
theorem prepare_without_selection {vc : ResultsMapVC} {screen : AcceptMatchVC}
    (hselected : vc.indexPathForSelectedRow = none) (h : vc.prepare = .ok screen) :
    screen.matchedTrip = none := by
  unfold ResultsMapVC.prepare at h
  cases htrips : vc.potentialTrips with
  | none =>
    rw [htrips] at h
    cases h
    rfl
  | some potentialTrips =>
    simp [htrips, hselected] at h

/-- A request sent from a screen with the chosen trip names that trip. -/
theorem requestButtonPressed_ok (trip chosen : RealmTrip) (date : Double) :
    ∃ body, (⟨some trip, some chosen⟩ : AcceptMatchVC).requestButtonPressed date = .ok body ∧
      body.lookup "requestedTripID" = some (.string chosen.tripID) ∧
      body.lookup "requesterTripID" = some (.string trip.tripID) :=
  ⟨_, rfl, rfl, rfl⟩

theorem requestsChosen_next {flow : MatchFlow} (hinv : flow.MatchInv trip)
    (hgood : flow.RequestsChosen trip) :
    flow.HasSelection .next ↔
      ∃ flow', flow.step .next = .ok flow' ∧ flow'.RequestsChosen trip := by
  constructor
  · intro hselected
    obtain ⟨chosen, hchosen, hprepare⟩ := prepare_of_selection hinv hselected
    refine ⟨{ flow with opened := flow.opened ++ [⟨⟨some trip, some chosen⟩, flow.chosen⟩] },
      ?_, ?_, hgood.sent⟩
    · simp only [step, next, hprepare, ok_bind]
      rfl
    · intro screen hscreen
      rcases List.mem_append.mp hscreen with hscreen | hscreen
      · exact hgood.opened screen hscreen
      · rw [List.mem_singleton.mp hscreen]
        exact ⟨chosen, hchosen, rfl⟩
  · rintro ⟨flow', hstep, hgood'⟩
    obtain ⟨vc, hprepare, hstep⟩ := bind_eq_ok.mp hstep
    cases hstep
    obtain ⟨chosen, _, hvc⟩ := hgood'.opened ⟨vc, flow.chosen⟩ (by simp)
    -- a screen opened without a selection has no match, and so not the chosen one
    by_contra hnone
    have hmatched := prepare_without_selection (Option.not_isSome_iff_eq_none.mp hnone) hprepare
    have hvc' : vc = ⟨some trip, some chosen⟩ := hvc
    rw [hvc'] at hmatched
    cases hmatched

theorem requestsChosen_requestButtonPressed {flow : MatchFlow} (hgood : flow.RequestsChosen trip)
    (i : ℕ) (date : Double) :
    ∃ flow', flow.step (.requestButtonPressed i date) = .ok flow' ∧
      flow'.RequestsChosen trip := by
  simp only [step, requestButtonPressed]
  cases hi : flow.opened[i]? with
  | none => exact ⟨flow, rfl, hgood⟩
  | some screen =>
    obtain ⟨chosen, hchosen, hvc⟩ := hgood.opened screen (List.mem_of_getElem? hi)
    obtain ⟨body, hbody, hnames⟩ := requestButtonPressed_ok trip chosen date
    refine ⟨{ flow with sent := flow.sent ++ [⟨body, screen.chosen⟩] }, ?_, hgood.opened, ?_⟩
    · simp only [hvc, hbody, ok_bind]
      rfl
    · intro request hrequest
      rcases List.mem_append.mp hrequest with hrequest | hrequest
      · exact hgood.sent request hrequest
      · rw [List.mem_singleton.mp hrequest]
        exact ⟨chosen, hchosen, hnames⟩

/-- **One step** of a good flow goes on to a good flow exactly when a Next tap
    has a selection. -/
theorem requestsChosen_step {flow : MatchFlow} (e : MatchEvent) (hinv : flow.MatchInv trip)
    (hgood : flow.RequestsChosen trip) :
    flow.HasSelection e ↔ ∃ flow', flow.step e = .ok flow' ∧ flow'.RequestsChosen trip := by
  have hsearch : ∃ flow', flow.search = .ok flow' ∧ flow'.RequestsChosen trip := by
    simp only [search, ResultsMapVC.search, hinv.trip, unwrap_some, ok_bind]
    exact ⟨_, rfl, hgood.opened, hgood.sent⟩
  cases e with
  | viewDidLoad => exact iff_of_true trivial hsearch
  | refresh => exact iff_of_true trivial hsearch
  | searchReturned serial answer =>
    refine iff_of_true trivial ⟨_, rfl, ?_⟩
    unfold searchReturned
    cases flow.searches.find serial with
    | none => exact hgood
    | some searched =>
      cases answer with
      | dropped => exact ⟨hgood.opened, hgood.sent⟩
      | delivered results => exact ⟨hgood.opened, hgood.sent⟩
  | cellForRowAt row =>
    refine iff_of_true trivial ?_
    simp only [step, cellForRowAt]
    by_cases hrow : row < flow.vc.rows
    · obtain ⟨shown, hcell, _⟩ := cellForRowAt_ok hinv hrow
      simp only [hrow, if_true, hcell, ok_bind]
      exact ⟨_, rfl, hgood.opened, hgood.sent⟩
    · exact ⟨flow, by simp [hrow], hgood⟩
  | selectRow row =>
    refine iff_of_true trivial ⟨_, rfl, ?_⟩
    unfold selectRow
    cases flow.vc.cells.lookup row with
    | none => exact hgood
    | some shown => exact ⟨hgood.opened, hgood.sent⟩
  | next => exact requestsChosen_next hinv hgood
  | requestButtonPressed i date =>
    exact iff_of_true trivial (requestsChosen_requestButtonPressed hgood i date)

/-- **The match request.** A run goes through without a trap, opens every screen
    with the trip chosen last and requests that trip for the searched one,
    exactly when every Next tap finds a selected row. -/
theorem requests_chosen_iff (trip : RealmTrip) (es : List MatchEvent) :
    (∃ flow, (machine trip).run (machine trip).init es = .ok flow ∧ flow.RequestsChosen trip) ↔
      (machine trip).Meets HasSelection (machine trip).init es := by
  have hinv : ∀ flow e flow', MatchInv trip flow → (machine trip).step flow e = .ok flow' →
      MatchInv trip flow' := by
    intro flow e flow' hinv h
    exact matchInv_step hinv h
  have hback : ∀ flow e flow', MatchInv trip flow → (machine trip).step flow e = .ok flow' →
      RequestsChosen trip flow' → RequestsChosen trip flow := by
    intro flow e flow' _ h hgood
    exact requestsChosen_back h hgood
  have hstep : ∀ flow e, MatchInv trip flow → RequestsChosen trip flow →
      (HasSelection flow e ↔ ∃ flow', (machine trip).step flow e = .ok flow' ∧
        RequestsChosen trip flow') := by
    intro flow e hinv hgood
    exact requestsChosen_step e hinv hgood
  -- a trapped run has no last state, so this is the rule for runs that go through
  have hinit : RequestsChosen trip (machine trip).init := ⟨by simp [machine], by simp [machine]⟩
  exact Machine.ends_good_iff_meets hinv hback hstep (matchInv_init trip) hinit

/-- A row is selected, and a refresh answers before Next is tapped. -/
theorem next_after_refresh :
    (machine { tripID := "1" }).run (machine { tripID := "1" }).init
      [.viewDidLoad, .searchReturned 0 (.delivered (some [{ tripID := "2" }])), .cellForRowAt 0,
       .selectRow 0, .refresh, .searchReturned 1 (.delivered (some [{ tripID := "2" }])),
       .cellForRowAt 0, .next] = .error (.foundNil .indexPath) :=
  Machine.run_eq_error _ (by decide)

end MatchFlow

end RideHitch
