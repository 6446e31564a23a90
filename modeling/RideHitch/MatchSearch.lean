import RideHitch.ResultsMapVC

/-! # The match search with its responses

    The screen of the matches together with the two cloud functions it calls:
    the completion of a search is called by the closure that parses the response.
    Section 1 is the model.  Section 2 connects it to the screen alone, Section 3
    says what the screen shows, and Section 4 which runs go through. -/

namespace RideHitch

/-! ## Section 1: Model -/

/-- `tasks` is not in the source: the invocations of the search that have ended,
    the last one first. -/
structure MatchSearch where
  flow : MatchFlow
  tasks : List AWSTask := []

/-- `itemsReturned` ends the search of that number, `matchesReturned` the match
    request that was sent as the `i`-th. -/
inductive SearchEvent where
  | screen (e : MatchEvent)
  | itemsReturned (serial : ℕ) (task : AWSTask)
  | matchesReturned (i : ℕ) (task : AWSTask)

namespace MatchSearch

variable (jsonObject : String → Option Json) (double : String → Option Double)

/-- Nothing but the closure of the search calls its completion. -/
def screenEvent (s : MatchSearch) : MatchEvent → Except Trap MatchSearch
  | .searchReturned _ _ => .ok s
  | e => do
      let flow ← s.flow.step e
      return { s with flow := flow }

/-- The calls to the completion, as the screen sees them. -/
def searchAnswer : List (Option (List RealmTrip)) → SearchAnswer
  | results :: _ => .delivered results
  | [] => .dropped

/-- The response is parsed before the completion is called with the results. -/
def itemsReturned (s : MatchSearch) (serial : ℕ) (task : AWSTask) : Except Trap MatchSearch :=
  match s.flow.searches.find serial with
  | some _ => do
      let calls ← LambdaInteractor.callCloudFunction jsonObject double task
      return {
        flow := s.flow.searchReturned serial (searchAnswer calls)
        tasks := task :: s.tasks }
  | none => .ok s

def matchesReturned (s : MatchSearch) (i : ℕ) (task : AWSTask) : Except Trap MatchSearch :=
  if i < s.flow.sent.length then do
    LambdaInteractor.callMatchFuction task
    return s
  else .ok s

def step (s : MatchSearch) : SearchEvent → Except Trap MatchSearch
  | .screen e => s.screenEvent e
  | .itemsReturned serial task => s.itemsReturned jsonObject double serial task
  | .matchesReturned i task => s.matchesReturned i task

/-- The screen for `trip`, with the network. -/
def machine (trip : RealmTrip) : Machine MatchSearch SearchEvent Trap where
  init := { flow := (MatchFlow.machine trip).init }
  step := step jsonObject double

/-! ## Section 2: The screen in it -/

variable {jsonObject : String → Option Json} {double : String → Option Double} {trip : RealmTrip}

variable (jsonObject double) in
/-- What a step that does not trap does. -/
inductive Outcome (s : MatchSearch) : SearchEvent → MatchSearch → Prop where
  | idle {e} : Outcome s e s
  | moved {e flow} (hne : ∀ serial answer, e ≠ .searchReturned serial answer)
      (h : s.flow.step e = .ok flow) : Outcome s (.screen e) { s with flow := flow }
  | returned {serial task calls} (hfind : (s.flow.searches.find serial).isSome)
      (hcalls : LambdaInteractor.callCloudFunction jsonObject double task = .ok calls) :
      Outcome s (.itemsReturned serial task)
        { flow := s.flow.searchReturned serial (searchAnswer calls), tasks := task :: s.tasks }

theorem screenEvent_eq {e : MatchEvent} (hne : ∀ serial answer, e ≠ .searchReturned serial answer)
    (s : MatchSearch) :
    s.screenEvent e = (s.flow.step e >>= fun flow => pure { s with flow := flow }) := by
  cases e with
  | searchReturned serial answer => exact absurd rfl (hne serial answer)
  | _ => rfl

theorem outcome_of_step {s s' : MatchSearch} {e : SearchEvent}
    (h : s.step jsonObject double e = .ok s') : Outcome jsonObject double s e s' := by
  cases e with
  | screen e =>
    by_cases hne : ∀ serial answer, e ≠ .searchReturned serial answer
    · have h : s.screenEvent e = .ok s' := h
      rw [screenEvent_eq hne] at h
      obtain ⟨flow, hflow, rfl⟩ := bind_pure_eq_ok.mp h
      exact .moved hne hflow
    · push Not at hne
      obtain ⟨serial, answer, rfl⟩ := hne
      rw [← Except.ok.inj h]
      exact .idle
  | itemsReturned serial task =>
    simp only [step, itemsReturned] at h
    cases hfind : s.flow.searches.find serial with
    | none =>
      rw [hfind] at h
      rw [← Except.ok.inj h]
      exact .idle
    | some body =>
      rw [hfind] at h
      obtain ⟨calls, hcalls, rfl⟩ := bind_pure_eq_ok.mp h
      exact .returned (by simp [hfind]) hcalls
  | matchesReturned i task =>
    simp only [step, matchesReturned] at h
    split_ifs at h with hi
    · obtain ⟨_, _, rfl⟩ := bind_pure_eq_ok.mp h
      exact .idle
    · rw [← Except.ok.inj h]
      exact .idle

/-- Every step is a step of the screen alone, or leaves the screen as it is. -/
theorem flow_of_step {s s' : MatchSearch} {e : SearchEvent}
    (h : s.step jsonObject double e = .ok s') :
    s'.flow = s.flow ∨ ∃ e', s.flow.step e' = .ok s'.flow := by
  cases outcome_of_step h with
  | idle => exact .inl rfl
  | moved _ hflow => exact .inr ⟨_, hflow⟩
  | returned _ _ => exact .inr ⟨.searchReturned _ _, rfl⟩

/-- So what holds of the screen in every run of its own holds here. -/
theorem matchInv_step {s s' : MatchSearch} {e : SearchEvent} (hinv : s.flow.MatchInv trip)
    (h : s.step jsonObject double e = .ok s') : s'.flow.MatchInv trip := by
  rcases flow_of_step h with hsame | ⟨e', hstep⟩
  · exact hsame ▸ hinv
  · exact MatchFlow.matchInv_step hinv hstep

/-! ## Section 3: What the screen shows -/

variable (jsonObject) in
/-- The items of the last response that had any. -/
def lastItems (s : MatchSearch) : Option (List Json) :=
  s.tasks.findSome? (LambdaInteractor.responseItems jsonObject)

variable (jsonObject double) in
/-- The results are the records of those items, and the items can be read. -/
structure Listed (s : MatchSearch) : Prop where
  results : s.flow.vc.potentialTrips =
    (s.lastItems jsonObject).map (List.map (LambdaInteractor.record double))
  wellFormed : ∀ items, s.lastItems jsonObject = some items →
    ∀ item ∈ items, LambdaInteractor.WellFormedItem double item

/-- An invocation that the closure gets through has no items and calls nothing, or
    delivers their records. -/
theorem callCloudFunction_eq_ok {task : AWSTask} {calls : List (Option (List RealmTrip))}
    (h : LambdaInteractor.callCloudFunction jsonObject double task = .ok calls) :
    (LambdaInteractor.responseItems jsonObject task = none ∧ calls = []) ∨
    ∃ items, LambdaInteractor.responseItems jsonObject task = some items ∧
      (∀ item ∈ items, LambdaInteractor.WellFormedItem double item) ∧
      calls = [some (items.map (LambdaInteractor.record double))] := by
  cases task with
  | error => exact .inl ⟨rfl, (Except.ok.inj h).symm⟩
  | exception => exact .inl ⟨rfl, (Except.ok.inj h).symm⟩
  | completed responseData =>
    exact .inr (LambdaInteractor.callCloudFunction_completed_eq_ok.mp h)

/-- Only a response changes the results. -/
theorem potentialTrips_of_step {flow flow' : MatchFlow} {e : MatchEvent}
    (hne : ∀ serial answer, e ≠ .searchReturned serial answer) (h : flow.step e = .ok flow') :
    flow'.vc.potentialTrips = flow.vc.potentialTrips := by
  cases MatchFlow.outcome_of_step h with
  | delivered => exact absurd rfl (hne _ _)
  | _ => rfl

theorem listed_init (trip : RealmTrip) :
    Listed jsonObject double (machine jsonObject double trip).init where
  results := rfl
  wellFormed := by
    intro items hitems
    cases hitems

theorem listed_step {s s' : MatchSearch} {e : SearchEvent} (hs : s.Listed jsonObject double)
    (h : s.step jsonObject double e = .ok s') : s'.Listed jsonObject double := by
  cases outcome_of_step h with
  | idle => exact hs
  | moved hne hflow => exact ⟨(potentialTrips_of_step hne hflow).trans hs.results, hs.wellFormed⟩
  | @returned serial task calls hfind hcalls =>
    obtain ⟨body, hbody⟩ := Option.isSome_iff_exists.mp hfind
    rcases callCloudFunction_eq_ok hcalls with ⟨hnone, rfl⟩ | ⟨items, hitems, hwell, rfl⟩
    · -- the search is over, and nothing else has changed
      have hlast : lastItems jsonObject ⟨s.flow.searchReturned serial .dropped, task :: s.tasks⟩ =
          s.lastItems jsonObject := by
        simp [lastItems, hnone]
      constructor
      · rw [searchAnswer, hlast, ← hs.results]
        simp only [MatchFlow.searchReturned, hbody]
      · rw [searchAnswer, hlast]
        exact hs.wellFormed
    · have hlast : ∀ flow, lastItems jsonObject ⟨flow, task :: s.tasks⟩ = some items := by
        simp [lastItems, hitems]
      constructor
      · rw [hlast, searchAnswer]
        simp only [MatchFlow.searchReturned, hbody]
        rfl
      · rw [hlast]
        intro items' hitems'
        exact Option.some.inj hitems' ▸ hwell

theorem inv_of_run {es : List SearchEvent} {s : MatchSearch}
    (h : (machine jsonObject double trip).run (machine jsonObject double trip).init es = .ok s) :
    s.flow.MatchInv trip ∧ s.Listed jsonObject double := by
  have hstep : ∀ s e s', (s.flow.MatchInv trip ∧ s.Listed jsonObject double) →
      (machine jsonObject double trip).step s e = .ok s' →
      s'.flow.MatchInv trip ∧ s'.Listed jsonObject double := by
    intro s e s' hs h
    exact ⟨matchInv_step hs.1 h, listed_step hs.2 h⟩
  exact Machine.run_preserves hstep ⟨MatchFlow.matchInv_init trip, listed_init trip⟩ h

/-- **The list of matches.** In every state the results are the records of the items
    of the last response that had items, whatever failed or arrived before it, and
    each row is rendered with the record of the item at its place. -/
theorem shows_last_response {es : List SearchEvent} {s : MatchSearch}
    (h : (machine jsonObject double trip).run (machine jsonObject double trip).init es = .ok s) :
    s.flow.vc.potentialTrips =
      (s.lastItems jsonObject).map (List.map (LambdaInteractor.record double)) ∧
    (∀ items, s.lastItems jsonObject = some items →
      ∀ item ∈ items, LambdaInteractor.WellFormedItem double item) ∧
    ∀ row shown, s.flow.vc.cells.lookup row = some shown →
      ∃ items item, s.lastItems jsonObject = some items ∧ items[row]? = some item ∧
        shown = LambdaInteractor.record double item := by
  obtain ⟨hinv, hlisted⟩ := inv_of_run h
  refine ⟨hlisted.results, hlisted.wellFormed, ?_⟩
  intro row shown hshown
  have hrow := hinv.cells row shown hshown
  rw [hlisted.results] at hrow
  cases hitems : s.lastItems jsonObject with
  | none => simp [hitems] at hrow
  | some items =>
    rw [hitems, Option.map_some, Option.getD_some, List.getElem?_map] at hrow
    obtain ⟨item, hitem, hrecord⟩ := Option.map_eq_some_iff.mp hrow
    exact ⟨items, item, rfl, hitem, hrecord.symm⟩

/-- A response with one trip, whose row is rendered. -/
def oneTripFound : List SearchEvent :=
  [.screen .viewDidLoad,
   .itemsReturned 0 (.completed (some (LambdaInteractor.sampleResponse false).toUTF8)),
   .screen (.cellForRowAt 0)]

theorem oneTripFound_run : ∃ s,
    (machine LambdaInteractor.sampleObject LambdaInteractor.sampleDouble {}).run
      (machine LambdaInteractor.sampleObject LambdaInteractor.sampleDouble {}).init
      oneTripFound = .ok s ∧
    s.flow.vc.cells.lookup 0 =
      some (LambdaInteractor.parsed (LambdaInteractor.sampleTrip false)) := by
  have hcalls := LambdaInteractor.callCloudFunction_items
    (LambdaInteractor.sampleNumber_parses false)
    (LambdaInteractor.sampleObject_sampleResponse false) rfl
  simp only [oneTripFound, Machine.run, machine, step, itemsReturned, hcalls]
  exact ⟨_, rfl, rfl⟩

theorem shows_last_response_sample : ∃ s,
    (machine LambdaInteractor.sampleObject LambdaInteractor.sampleDouble {}).run
      (machine LambdaInteractor.sampleObject LambdaInteractor.sampleDouble {}).init
      oneTripFound = .ok s ∧
    ∃ items item, s.lastItems LambdaInteractor.sampleObject = some items ∧
      items[0]? = some item ∧
      LambdaInteractor.parsed (LambdaInteractor.sampleTrip false) =
        LambdaInteractor.record LambdaInteractor.sampleDouble item := by
  obtain ⟨s, hrun, hcell⟩ := oneTripFound_run
  obtain ⟨_, _, hcells⟩ := shows_last_response hrun
  exact ⟨s, hrun, hcells 0 _ hcell⟩

/-! ## Section 4: The runs that go through -/

variable (jsonObject double) in
/-- No step traps on these events.  A response that completed must be readable, Next
    needs a selected row once there are results, and a request needs a match. -/
def Safe (s : MatchSearch) : SearchEvent → Prop
  | .itemsReturned serial task => (s.flow.searches.find serial).isSome →
      ∀ responseData, task = .completed responseData →
        LambdaInteractor.WellFormed jsonObject double task
  | .matchesReturned i task => i < s.flow.sent.length →
      ∀ responseData, task = .completed responseData →
        ∃ data text, responseData = some data ∧ String.fromUTF8? data = some text
  | .screen .next =>
      s.flow.vc.indexPathForSelectedRow.isSome ∨ s.lastItems jsonObject = none
  | .screen (.requestButtonPressed i _) => ∀ opened, s.flow.opened[i]? = some opened →
      opened.vc.matchedTrip.isSome
  | _ => True

variable (jsonObject double) in
/-- What holds in every state of the screen for `trip`. -/
structure SearchInv (trip : RealmTrip) (s : MatchSearch) : Prop where
  flow : s.flow.MatchInv trip
  listed : s.Listed jsonObject double
  opened : ∀ opened ∈ s.flow.opened, opened.vc.selectedTrip = some trip

theorem selectedTrip_of_prepare {vc : ResultsMapVC} {screen : AcceptMatchVC}
    (h : vc.prepare = .ok screen) : screen.selectedTrip = vc.selectedTrip := by
  unfold ResultsMapVC.prepare at h
  cases htrips : vc.potentialTrips with
  | none =>
    rw [htrips] at h
    rw [← Except.ok.inj h]
  | some potentialTrips =>
    rw [htrips] at h
    obtain ⟨row, _, h⟩ := bind_eq_ok.mp h
    obtain ⟨chosen, _, rfl⟩ := bind_pure_eq_ok.mp h
    rfl

theorem opened_step {flow flow' : MatchFlow} {e : MatchEvent} (hinv : flow.MatchInv trip)
    (hopened : ∀ opened ∈ flow.opened, opened.vc.selectedTrip = some trip)
    (h : flow.step e = .ok flow') :
    ∀ opened ∈ flow'.opened, opened.vc.selectedTrip = some trip := by
  cases MatchFlow.outcome_of_step h with
  | opened hprepare =>
    intro opened hmem
    rcases List.mem_append.mp hmem with hmem | hmem
    · exact hopened opened hmem
    · rw [List.mem_singleton.mp hmem]
      exact (selectedTrip_of_prepare hprepare).trans hinv.trip
  | _ => exact hopened

theorem searchInv_init (trip : RealmTrip) :
    SearchInv jsonObject double trip (machine jsonObject double trip).init where
  flow := MatchFlow.matchInv_init trip
  listed := listed_init trip
  opened := by
    intro opened hopened
    cases hopened

theorem searchInv_step {s s' : MatchSearch} {e : SearchEvent}
    (hs : s.SearchInv jsonObject double trip) (h : s.step jsonObject double e = .ok s') :
    s'.SearchInv jsonObject double trip where
  flow := matchInv_step hs.flow h
  listed := listed_step hs.listed h
  opened := by
    rcases flow_of_step h with hsame | ⟨e', hstep⟩
    · rw [hsame]
      exact hs.opened
    · exact opened_step hs.flow hs.opened hstep

/-- Next with a selected row opens its trip, without results a screen without a
    match; with results and no selected row it traps. -/
theorem next_goes_through_iff {s : MatchSearch} (hs : s.SearchInv jsonObject double trip) :
    (∃ flow, s.flow.step .next = .ok flow) ↔
      s.flow.vc.indexPathForSelectedRow.isSome ∨ s.lastItems jsonObject = none := by
  have hnext : (∃ flow, s.flow.step .next = .ok flow) ↔ ∃ vc, s.flow.vc.prepare = .ok vc :=
    exists_bind_pure_eq_ok
  rw [hnext]
  constructor
  · intro hok
    obtain ⟨vc, hprepare⟩ := hok
    rw [or_iff_not_imp_right]
    intro hsome
    by_contra hselected
    have hselected := Option.not_isSome_iff_eq_none.mp hselected
    obtain ⟨items, hitems⟩ := Option.ne_none_iff_exists'.mp hsome
    -- there are results, so the row is unwrapped
    have hresults := hs.listed.results
    rw [hitems, Option.map_some] at hresults
    simp [ResultsMapVC.prepare, hresults, hselected] at hprepare
  · intro hsafe
    rcases hsafe with hselected | hnone
    · obtain ⟨chosen, _, hprepare⟩ := MatchFlow.prepare_of_selection hs.flow hselected
      exact ⟨_, hprepare⟩
    · have hresults := hs.listed.results
      rw [hnone, Option.map_none] at hresults
      exact ⟨⟨s.flow.vc.selectedTrip, none⟩, by simp [ResultsMapVC.prepare, hresults]⟩

theorem request_goes_through_iff {s : MatchSearch} (hs : s.SearchInv jsonObject double trip)
    (i : ℕ) (date : Double) :
    (∃ flow, s.flow.step (.requestButtonPressed i date) = .ok flow) ↔
      ∀ opened, s.flow.opened[i]? = some opened → opened.vc.matchedTrip.isSome := by
  simp only [MatchFlow.step, MatchFlow.requestButtonPressed]
  cases hi : s.flow.opened[i]? with
  | none => simp
  | some opened =>
    have hselected := hs.opened opened (List.mem_of_getElem? hi)
    simp only [Option.some.injEq, forall_eq', AcceptMatchVC.requestButtonPressed, hselected,
      unwrap_some, ok_bind]
    cases opened.vc.matchedTrip with
    | none => simp
    | some chosen => simp [pure_eq_ok]

theorem items_go_through_iff (s : MatchSearch) (serial : ℕ) (task : AWSTask) :
    (∃ s', s.itemsReturned jsonObject double serial task = .ok s') ↔
      s.Safe jsonObject double (.itemsReturned serial task) := by
  simp only [itemsReturned, Safe]
  cases s.flow.searches.find serial with
  | none => simp
  | some body =>
    simp only [Option.isSome_some, forall_const, exists_bind_pure_eq_ok]
    cases task with
    | error => exact iff_of_true ⟨[], rfl⟩ (by simp)
    | exception => exact iff_of_true ⟨[], rfl⟩ (by simp)
    | completed responseData =>
      simp only [AWSTask.completed.injEq, forall_eq']
      constructor
      · intro hok
        obtain ⟨calls, hcalls⟩ := hok
        obtain ⟨items, hitems, hwell, _⟩ :=
          LambdaInteractor.callCloudFunction_completed_eq_ok.mp hcalls
        exact ⟨items, hitems, hwell⟩
      · intro hwell
        obtain ⟨items, hitems, hwell⟩ := hwell
        exact ⟨_, LambdaInteractor.callCloudFunction_completed_eq_ok.mpr
          ⟨items, hitems, hwell, rfl⟩⟩

theorem matches_go_through_iff (s : MatchSearch) (i : ℕ) (task : AWSTask) :
    (∃ s', s.matchesReturned i task = .ok s') ↔
      s.Safe jsonObject double (.matchesReturned i task) := by
  simp only [matchesReturned, Safe]
  by_cases hi : i < s.flow.sent.length
  · simp only [hi, if_true, forall_const]
    rw [exists_bind_pure_eq_ok]
    cases task with
    | error => exact iff_of_true ⟨(), rfl⟩ (by simp)
    | exception => exact iff_of_true ⟨(), rfl⟩ (by simp)
    | completed responseData =>
      simp only [AWSTask.completed.injEq, forall_eq', LambdaInteractor.callMatchFuction,
        bind_eq_ok, unwrap_eq_ok]
      constructor
      · intro hok
        obtain ⟨_, data, hdata, text, htext, _⟩ := hok
        exact ⟨data, text, hdata, htext⟩
      · intro hread
        obtain ⟨data, text, hdata, htext⟩ := hread
        exact ⟨(), data, hdata, text, htext, rfl⟩
  · simp [hi]

theorem safe_iff {s : MatchSearch} (hs : s.SearchInv jsonObject double trip) (e : SearchEvent) :
    s.Safe jsonObject double e ↔ ∃ s', s.step jsonObject double e = .ok s' := by
  cases e with
  | itemsReturned serial task => exact (items_go_through_iff s serial task).symm
  | matchesReturned i task => exact (matches_go_through_iff s i task).symm
  | screen e =>
    have hsearch : ∃ flow, s.flow.search = .ok flow := by
      simp only [MatchFlow.search, ResultsMapVC.search, hs.flow.trip, unwrap_some, ok_bind]
      exact ⟨_, rfl⟩
    cases e with
    | viewDidLoad => exact iff_of_true trivial (exists_bind_pure_eq_ok.mpr hsearch)
    | refresh => exact iff_of_true trivial (exists_bind_pure_eq_ok.mpr hsearch)
    | searchReturned serial answer => exact iff_of_true trivial ⟨s, rfl⟩
    | cellForRowAt row =>
      refine iff_of_true trivial (exists_bind_pure_eq_ok.mpr ?_)
      simp only [MatchFlow.step, MatchFlow.cellForRowAt]
      by_cases hrow : row < s.flow.vc.rows
      · obtain ⟨shown, hcell, _⟩ := MatchFlow.cellForRowAt_ok hs.flow hrow
        simp only [hrow, if_true, hcell, ok_bind]
        exact ⟨_, rfl⟩
      · exact ⟨s.flow, by simp [hrow]⟩
    | selectRow row => exact iff_of_true trivial ⟨_, rfl⟩
    | next => exact (next_goes_through_iff hs).symm.trans exists_bind_pure_eq_ok.symm
    | requestButtonPressed i date =>
      exact (request_goes_through_iff hs i date).symm.trans exists_bind_pure_eq_ok.symm

/-- **Which runs go through.** The screen, its searches and its match requests go
    through a run exactly if every response that completes can be read, every Next
    tap finds a selected row or no results yet, and every request is made on a
    screen with a match. -/
theorem goes_through_iff_safe (jsonObject : String → Option Json)
    (double : String → Option Double) (trip : RealmTrip) (es : List SearchEvent) :
    (∃ s, (machine jsonObject double trip).run (machine jsonObject double trip).init es =
        .ok s) ↔
      (machine jsonObject double trip).Meets (Safe jsonObject double)
        (machine jsonObject double trip).init es := by
  have hinv : ∀ s e s', SearchInv jsonObject double trip s →
      (machine jsonObject double trip).step s e = .ok s' → SearchInv jsonObject double trip s' := by
    intro s e s' hs h
    exact searchInv_step hs h
  apply Machine.goes_through_iff_meets hinv ?_ (searchInv_init trip)
  intro s e hs
  exact safe_iff hs e

end MatchSearch

end RideHitch
