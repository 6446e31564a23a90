import RideHitch.Fleet

/-! # The trips that match requests name

    A match request names two trips by their ids, one from the local store and one
    from the response to a search.  Section 1 follows the second through the match
    screen, Section 2 the first from the upload to the store, and Section 3 puts both
    into the fleet: what the searches return decides whether the requests name rows
    of the table. -/

namespace RideHitch

variable {jsonObject : String → Option Json} {double : String → Option Double}

/-! ## Section 1: From the response to the request -/

namespace MatchFlow

/-- The results, the matches of the screens that were opened and the trips that were
    requested have a property. -/
structure Offers (Q : RealmTrip → Prop) (flow : MatchFlow) : Prop where
  results : ∀ trips, flow.vc.potentialTrips = some trips → ∀ trip ∈ trips, Q trip
  opened : ∀ screen ∈ flow.opened, ∀ trip, screen.vc.matchedTrip = some trip → Q trip
  sent : ∀ request ∈ flow.sent, ∃ trip, Q trip ∧
    request.body.lookup "requestedTripID" = some (.string trip.tripID)

variable {Q Q' : RealmTrip → Prop} {flow flow' : MatchFlow}

theorem offers_init (Q : RealmTrip → Prop) (vc : ResultsMapVC) (h : vc.potentialTrips = none) :
    Offers Q { vc := vc } where
  results := by
    intro trips htrips
    rw [h] at htrips
    cases htrips
  opened := by simp
  sent := by simp

theorem Offers.mono (h : flow.Offers Q) (himp : ∀ trip, Q trip → Q' trip) : flow.Offers Q' where
  results := by
    intro trips htrips trip htrip
    exact himp trip (h.results trips htrips trip htrip)
  opened := by
    intro screen hscreen trip htrip
    exact himp trip (h.opened screen hscreen trip htrip)
  sent := by
    intro request hrequest
    obtain ⟨trip, htrip, hbody⟩ := h.sent request hrequest
    exact ⟨trip, himp trip htrip, hbody⟩

/-- The match that is handed over is one of the results. -/
theorem mem_of_prepare {vc : ResultsMapVC} {screen : AcceptMatchVC} {trip : RealmTrip}
    (h : vc.prepare = .ok screen) (hmatched : screen.matchedTrip = some trip) :
    ∃ trips, vc.potentialTrips = some trips ∧ trip ∈ trips := by
  unfold ResultsMapVC.prepare at h
  cases htrips : vc.potentialTrips with
  | none =>
    rw [htrips] at h
    rw [← Except.ok.inj h] at hmatched
    cases hmatched
  | some trips =>
    rw [htrips] at h
    obtain ⟨row, _, h⟩ := bind_eq_ok.mp h
    obtain ⟨chosen, hchosen, rfl⟩ := bind_pure_eq_ok.mp h
    rw [← Option.some.inj hmatched]
    exact ⟨trips, rfl, List.mem_of_getElem? (subscript_eq_ok.mp hchosen)⟩

/-- **One step** keeps the property if the results that it delivers have it. -/
theorem offers_step {e : MatchEvent} (hs : flow.Offers Q)
    (hdelivered : ∀ serial trips, e = .searchReturned serial (.delivered (some trips)) →
      ∀ trip ∈ trips, Q trip)
    (h : flow.step e = .ok flow') : flow'.Offers Q := by
  cases outcome_of_step h with
  | @delivered serial results =>
    refine ⟨?_, hs.opened, hs.sent⟩
    intro trips htrips
    have hsame : results = some trips := htrips
    exact hdelivered serial trips (by rw [hsame])
  | @opened vc hprepare =>
    refine ⟨hs.results, ?_, hs.sent⟩
    intro screen hscreen trip htrip
    rcases List.mem_append.mp hscreen with hscreen | hscreen
    · exact hs.opened screen hscreen trip htrip
    · rw [List.mem_singleton.mp hscreen] at htrip
      obtain ⟨trips, htrips, hmem⟩ := mem_of_prepare hprepare htrip
      exact hs.results trips htrips trip hmem
  | @requested i date screen body hi hbody =>
    refine ⟨hs.results, hs.opened, ?_⟩
    intro request hrequest
    rcases List.mem_append.mp hrequest with hrequest | hrequest
    · exact hs.sent request hrequest
    · rw [List.mem_singleton.mp hrequest]
      obtain ⟨usersTrip, _, hbody⟩ := bind_eq_ok.mp hbody
      obtain ⟨matchedTrip, hmatched, rfl⟩ := bind_pure_eq_ok.mp hbody
      exact ⟨matchedTrip, hs.opened screen (List.mem_of_getElem? hi) matchedTrip
        (unwrap_eq_ok.mp hmatched), rfl⟩
  | _ => exact ⟨hs.results, hs.opened, hs.sent⟩

end MatchFlow

/-- The same for the screen with its responses. -/
theorem MatchSearch.offers_step {Q : RealmTrip → Prop} {s s' : MatchSearch} {e : SearchEvent}
    (hs : s.flow.Offers Q)
    (hserved : ∀ serial task items, e = .itemsReturned serial task →
      LambdaInteractor.responseItems jsonObject task = some items →
      ∀ item ∈ items, Q (LambdaInteractor.record double item))
    (h : s.step jsonObject double e = .ok s') : s'.flow.Offers Q := by
  cases MatchSearch.outcome_of_step h with
  | idle => exact hs
  | moved hne hflow =>
    apply MatchFlow.offers_step hs ?_ hflow
    intro serial trips heq
    exact absurd heq (hne serial _)
  | @returned serial task calls _ hcalls =>
    have hflow : s.flow.step (.searchReturned serial (searchAnswer calls)) =
        .ok (s.flow.searchReturned serial (searchAnswer calls)) := rfl
    apply MatchFlow.offers_step hs ?_ hflow
    intro serial' trips heq trip htrip
    rcases MatchSearch.callCloudFunction_eq_ok hcalls with
      ⟨_, rfl⟩ | ⟨items, hitems, _, rfl⟩
    · cases heq
    · simp only [searchAnswer, MatchEvent.searchReturned.injEq, SearchAnswer.delivered.injEq,
        Option.some.injEq] at heq
      rw [← heq.2] at htrip
      obtain ⟨item, hitem, rfl⟩ := List.mem_map.mp htrip
      exact hserved serial task items rfl hitems item hitem

/-! ## Section 2: From the upload to the store -/

namespace Cloud

variable {date : String → Option NSDate}

/-- A save of a row with that id took effect. -/
def Effected (cloud : Cloud) (tripID : String) : Prop :=
  ∃ upload ∈ cloud.effected, upload.2.row.tripID = tripID

theorem effected_of_outcome {cloud cloud' : Cloud} (h : Outcome date cloud cloud')
    {tripID : String} (heffected : cloud.Effected tripID) : cloud'.Effected tripID := by
  obtain ⟨upload, hupload, hid⟩ := heffected
  cases h with
  | written _ _ => exact ⟨upload, List.mem_append_left _ hupload, hid⟩
  | _ => exact ⟨upload, hupload, hid⟩

/-- Under the key of a save that took effect there is a row: what replaced the row of the
    save has its key. -/
theorem exists_row_of_effected {cloud : Cloud} (hsound : cloud.Sound) {upload : ℕ × Save}
    (h : upload ∈ cloud.effected) :
    ∃ row, cloud.table row.key = some row ∧ row.key = upload.2.row.key := by
  obtain ⟨last, hlast⟩ := exists_latest h
  obtain ⟨_, hkey⟩ := mem_of_latest hlast
  refine ⟨last.2.row, ?_, hkey⟩
  rw [hkey, table_eq_latest hsound, hlast]
  rfl

theorem exists_row {cloud : Cloud} (hsound : cloud.Sound) {tripID : String}
    (h : cloud.Effected tripID) :
    ∃ row, cloud.table row.key = some row ∧ row.tripID = tripID := by
  obtain ⟨upload, hupload, rfl⟩ := h
  obtain ⟨row, hrow, hkey⟩ := exists_row_of_effected hsound hupload
  refine ⟨row, hrow, ?_⟩
  rw [Trips.key_eq, Trips.key_eq] at hkey
  simpa using (Prod.mk.inj hkey).2

/-- So there is one under the key of every stored trip. -/
theorem exists_row_of_copy {cloud : Cloud} (hsound : cloud.Sound) (hmirrored : cloud.Mirrored)
    {device : ℕ} {copy : RealmTrip} (h : copy ∈ (cloud.devices device).realmTrips) :
    ∃ row, cloud.table row.key = some row ∧ row.geohash = copy.geohash ∧
      row.tripID = copy.tripID := by
  obtain ⟨sent, _, _, rfl, upload, hupload, hsent⟩ := exists_sent_of_copy hsound hmirrored h
  obtain ⟨row, hrow, hkey⟩ := exists_row_of_effected hsound hupload
  rw [hsent, Trips.key_eq, Trips.key_eq] at hkey
  obtain ⟨hgeohash, htripID⟩ := Prod.mk.inj hkey
  exact ⟨row, hrow, by simpa [RealmTrip.create] using hgeohash,
    by simpa [RealmTrip.create] using htripID⟩

end Cloud

/-! ## Section 3: The requests of the fleet -/

namespace Fleet

variable {describe : Double → String} {realm : DateSort} {date : String → Option NSDate}

variable (jsonObject double) in
/-- The items of a response have ids of rows that are in the table by then. -/
def ServesTable (fleet : Fleet) : FleetEvent → Prop
  | .tab _ (.search _ (.itemsReturned _ task)) =>
      ∀ items, LambdaInteractor.responseItems jsonObject task = some items →
        ∀ item ∈ items, ∃ key row, fleet.cloud.table key = some row ∧
          (LambdaInteractor.record double item).tripID = row.tripID
  | _ => True

/-- The ids that the match screens got took effect. -/
def OffersRows (fleet : Fleet) : Prop :=
  ∀ device, ∀ member ∈ (fleet.tabs device).opened,
    member.2.flow.Offers (fun trip => fleet.cloud.Effected trip.tripID)

theorem offersRows_init : OffersRows {} := by
  intro device member hmember
  cases hmember

/-- The match screens of a device after a step: as before, or after a step of its
    list. -/
theorem opened_of_step (fleet : Fleet) (e : FleetEvent) (device : ℕ) :
    ((fleet.step describe realm date jsonObject double e).tabs device).opened =
      (fleet.tabs device).opened ∨
    ∃ e' tab, e = .tab device e' ∧ (fleet.tabs device).step jsonObject double e' = .ok tab ∧
      ((fleet.step describe realm date jsonObject double e).tabs device).opened = tab.opened := by
  have happ : ∀ (fleet : Fleet) other e,
      (fleet.appStep describe realm other e).tabs = fleet.tabs := by
    intro fleet other e
    unfold appStep
    split
    · rfl
    · rfl
  cases e with
  | app other e =>
    simp only [step]
    split_ifs
    · rw [happ]
      exact .inl rfl
    · exact .inl rfl
  | tab other e =>
    simp only [step]
    split_ifs
    · unfold tabStep
      cases hstep : (fleet.tabs other).step jsonObject double e with
      | error t => exact .inl rfl
      | ok tab =>
        have htabs : ((Function.update fleet.tabs other tab) device).opened =
            (fleet.tabs device).opened ∨
          ∃ e' tab', FleetEvent.tab other e = .tab device e' ∧
            (fleet.tabs device).step jsonObject double e' = .ok tab' ∧
            ((Function.update fleet.tabs other tab) device).opened = tab'.opened := by
          by_cases hother : device = other
          · subst hother
            rw [Function.update_self]
            exact .inr ⟨e, tab, rfl, hstep, rfl⟩
          · rw [Function.update_of_ne hother]
            exact .inl rfl
        dsimp only
        split_ifs
        · exact htabs
        · unfold openScreen
          rw [happ]
          exact htabs
    · exact .inl rfl
  | requestButtonPressed other trip depature arrival => exact .inl rfl
  | tookEffect serial => exact .inl rfl
  | saveReturned serial error => exact .inl rfl

/-- A step of a list keeps a property of its match screens that a new one has and that
    the step of the one concerned keeps. -/
theorem offers_of_tabStep {Q : RealmTrip → Prop} {tab tab' : TripsTab} {e : TripsEvent}
    (hs : ∀ member ∈ tab.opened, member.2.flow.Offers Q)
    (hserved : ∀ i serial task items, e = .search i (.itemsReturned serial task) →
      LambdaInteractor.responseItems jsonObject task = some items →
      ∀ item ∈ items, Q (LambdaInteractor.record double item))
    (h : tab.step jsonObject double e = .ok tab') :
    ∀ member ∈ tab'.opened, member.2.flow.Offers Q := by
  cases e with
  | viewDidLoad => rw [← Except.ok.inj h]; exact hs
  | reload => rw [← Except.ok.inj h]; exact hs
  | saveAWSTrip trip => rw [← Except.ok.inj h]; exact hs
  | cellForRowAt index =>
    simp only [TripsTab.step, TripsTab.cellForRowAt] at h
    split_ifs at h
    · obtain ⟨_, _, rfl⟩ := bind_pure_eq_ok.mp h
      exact hs
    · rw [← Except.ok.inj h]
      exact hs
  | selectRow index =>
    simp only [TripsTab.step, TripsTab.selectRow] at h
    split at h
    · next cell _ =>
      obtain ⟨opened, hopened, rfl⟩ := bind_pure_eq_ok.mp h
      cases cell with
      | addNewRide =>
        rw [← Except.ok.inj hopened]
        exact hs
      | trip shown =>
        obtain ⟨results, hresults, rfl⟩ := bind_pure_eq_ok.mp hopened
        obtain ⟨_, _, hresults⟩ := bind_eq_ok.mp hresults
        obtain ⟨_, _, rfl⟩ := bind_pure_eq_ok.mp hresults
        intro member hmember
        rcases List.mem_append.mp hmember with hmember | hmember
        · exact hs member hmember
        · rw [List.mem_singleton.mp hmember]
          exact MatchFlow.offers_init Q _ rfl
    · rw [← Except.ok.inj h]
      exact hs
  | search i e =>
    obtain ⟨opened, hopened, rfl⟩ := bind_pure_eq_ok.mp h
    have hstep : ∀ trip s s', s.flow.Offers Q →
        (MatchSearch.machine jsonObject double trip).step s e = .ok s' → s'.flow.Offers Q := by
      intro trip s s' hs hstep
      apply MatchSearch.offers_step hs ?_ hstep
      intro serial task items heq hitems
      exact hserved i serial task items (by rw [heq]) hitems
    have hmembers := Machine.stepAt_preserves (I := fun _ s => s.flow.Offers Q) hstep hs hopened
    exact hmembers

theorem offersRows_step {fleet : Fleet} {e : FleetEvent} (hsound : fleet.cloud.Sound)
    (hs : fleet.OffersRows) (hserves : fleet.ServesTable jsonObject double e) :
    (fleet.step describe realm date jsonObject double e).OffersRows := by
  have houtcome : Outcome describe realm date jsonObject double fleet e
      (fleet.step describe realm date jsonObject double e) := outcome_of_step fleet e
  have hmono : ∀ tripID, fleet.cloud.Effected tripID →
      (fleet.step describe realm date jsonObject double e).cloud.Effected tripID := by
    intro tripID heffected
    rcases cloud_of_outcome houtcome with hsame | ⟨e', he'⟩
    · rw [hsame]
      exact heffected
    · rw [← he']
      exact Cloud.effected_of_outcome (Cloud.outcome_of_step fleet.cloud e') heffected
  intro device member hmember
  refine MatchFlow.Offers.mono ?_ (fun trip => hmono trip.tripID)
  rcases opened_of_step fleet e device with hsame | ⟨e', tab, rfl, hstep, hopened⟩
  · rw [hsame] at hmember
    exact hs device member hmember
  · rw [hopened] at hmember
    apply offers_of_tabStep (hs device) ?_ hstep member hmember
    -- an id of a row of the table took effect
    intro i serial task items heq hitems item hitem
    subst heq
    obtain ⟨key, row, hrow, hid⟩ := hserves items hitems item hitem
    obtain ⟨upload, hupload, hsame⟩ := Cloud.exists_upload hsound hrow
    exact ⟨upload, hupload, by rw [hsame, hid]⟩

/-- **Match requests name rows of the table.** As long as the searches return ids of
    rows that are in the table, every match request that any device has sent names two
    rows of the table, whatever presses, saves, losses of answers and stops came
    before: that of a trip in the store of the device, under the key of that trip, and
    the requested one. -/
theorem requests_name_rows {es : List FleetEvent} {fleet : Fleet}
    (h : (machine describe realm date jsonObject double).run {} es = .ok fleet)
    (hserves : (machine describe realm date jsonObject double).Meets
      (ServesTable jsonObject double) {} es)
    {device : ℕ} {trip : RealmTrip} {s : MatchSearch}
    (hopened : (trip, s) ∈ (fleet.tabs device).opened) :
    trip ∈ (fleet.cloud.devices device).realmTrips ∧
    ∀ request ∈ s.flow.sent, ∃ row row',
      fleet.cloud.table row.key = some row ∧ fleet.cloud.table row'.key = some row' ∧
      row.geohash = trip.geohash ∧ row.tripID = trip.tripID ∧
      request.body.lookup "requesterTripID" = some (.string trip.tripID) ∧
      request.body.lookup "requestedTripID" = some (.string row'.tripID) := by
  have hstep : ∀ fleet e fleet', fleet.ServesTable jsonObject double e →
      (fleet.cloud.Sound ∧ fleet.OffersRows) →
      (machine describe realm date jsonObject double).step fleet e = .ok fleet' →
      fleet'.cloud.Sound ∧ fleet'.OffersRows := by
    intro fleet e fleet' hserves hs hstep
    rw [← Except.ok.inj hstep]
    refine ⟨?_, offersRows_step hs.1 hs.2 hserves⟩
    have houtcome : Outcome describe realm date jsonObject double fleet e
        (fleet.step describe realm date jsonObject double e) := outcome_of_step fleet e
    rcases cloud_of_outcome houtcome with hsame | ⟨e', he'⟩
    · rw [hsame]
      exact hs.1
    · rw [← he']
      exact Cloud.sound_of_outcome hs.1 (Cloud.outcome_of_step fleet.cloud e')
  obtain ⟨hsound, hoffers⟩ := Machine.preserves_of_meets hstep hserves
    ⟨Cloud.sound_init, offersRows_init⟩ h
  have hinv := fleetInv_of_run h
  obtain ⟨_, hcloud⟩ := cloud_of_run h
  obtain ⟨_, hmirrored⟩ := Cloud.sound_of_run hcloud
  obtain ⟨hstored, hasks⟩ := (hinv.tabs device).opened (trip, s) hopened
  rw [hinv.stores device] at hstored
  refine ⟨hstored, ?_⟩
  intro request hrequest
  obtain ⟨row, hrow, hgeohash, hid⟩ := Cloud.exists_row_of_copy hsound hmirrored hstored
  obtain ⟨matched, hmatched, hbody⟩ := (hoffers device (trip, s) hopened).sent request hrequest
  obtain ⟨row', hrow', hid'⟩ := Cloud.exists_row hsound hmatched
  refine ⟨row, row', hrow, hrow', hgeohash, hid, hasks.sent request hrequest, ?_⟩
  rw [hid']
  exact hbody

/-- The response to the search of the first ride, the choice of its only row and the
    request. -/
def firstRequest : List FleetEvent :=
  [.itemsReturned 0 (.completed (some (LambdaInteractor.sampleResponse false).toUTF8)),
   .screen (.cellForRowAt 0), .screen (.selectRow 0), .screen .next,
   .screen (.requestButtonPressed 0 300)].map (fun e => .tab 0 (.search 0 e))

def isResponse : FleetEvent → Bool
  | .tab _ (.search _ (.itemsReturned _ _)) => true
  | _ => false

/-- Nothing is asked of the events that are no responses. -/
theorem meets_of_no_response (fleet : Fleet) {es : List FleetEvent}
    (hes : ∀ e ∈ es, isResponse e = false) :
    sampleFleet.Meets
      (ServesTable LambdaInteractor.sampleObject LambdaInteractor.sampleDouble) fleet es := by
  have himp : ∀ fleet e, True → isResponse e = false →
      ServesTable LambdaInteractor.sampleObject LambdaInteractor.sampleDouble fleet e := by
    intro fleet e _ hno
    unfold ServesTable
    split
    · cases hno
    · trivial
  exact Machine.meets_mono (fun _ _ _ _ _ _ => trivial) himp trivial
    (Machine.meets_of_forall hes fleet)

theorem tripID_of_sampleResponse {items : List Json}
    (h : LambdaInteractor.responseItems LambdaInteractor.sampleObject
      (.completed (some (LambdaInteractor.sampleResponse false).toUTF8)) = some items) :
    ∀ item ∈ items, (LambdaInteractor.record LambdaInteractor.sampleDouble item).tripID = "7" := by
  have hutf8 : String.fromUTF8? (LambdaInteractor.sampleResponse false).toUTF8 =
      some (LambdaInteractor.sampleResponse false) :=
    dif_pos (LambdaInteractor.sampleResponse false).isValidUTF8
  have hitems := LambdaInteractor.responseItems_eq_some.mpr ⟨_, _, hutf8,
    LambdaInteractor.sampleObject_sampleResponse false, rfl⟩
  obtain rfl := Option.some.inj (hitems.symm.trans h)
  intro item hitem
  obtain ⟨_, hrecord⟩ := LambdaInteractor.wellFormedItem_item
    (LambdaInteractor.sampleNumber_parses false _ (List.mem_singleton_self _))
  rw [List.mem_singleton.mp hitem, ← hrecord]
  rfl

theorem requests_name_rows_firstRequest : ∃ fleet,
    sampleFleet.run {} (firstRide ++ firstRequest) = .ok fleet ∧
    ∃ trip ∈ (fleet.cloud.devices 0).realmTrips, ∃ request : SentMatch, ∃ row row',
      fleet.cloud.table row.key = some row ∧ fleet.cloud.table row'.key = some row' ∧
      row.geohash = trip.geohash ∧ row.tripID = trip.tripID ∧
      request.body.lookup "requesterTripID" = some (.string trip.tripID) ∧
      request.body.lookup "requestedTripID" = some (.string row'.tripID) := by
  have hbefore : ∃ fleet, sampleFleet.run {} firstRide = .ok fleet ∧
      (fleet.cloud.table (some (.string "s000"), some (.string "7"))).map Trips.tripID =
        some "7" :=
    Machine.exists_run_eq_ok _ (by decide +kernel)
  have hafter : ∃ fleet, sampleFleet.run {} (firstRide ++ firstRequest) = .ok fleet ∧
      ∃ member ∈ (fleet.tabs 0).opened, member.2.flow.sent ≠ [] :=
    Machine.exists_run_eq_ok _ (by decide +kernel)
  obtain ⟨before, hrunBefore, hrow⟩ := hbefore
  obtain ⟨fleet, hrun, member, hmember, hne⟩ := hafter
  have hserves : sampleFleet.Meets
      (ServesTable LambdaInteractor.sampleObject LambdaInteractor.sampleDouble) {}
      (firstRide ++ firstRequest) := by
    rw [Machine.meets_append hrunBefore]
    refine ⟨meets_of_no_response _ (by decide), ?_, fun after _ => ?_⟩
    · -- the only item of the response has the id of the row
      intro items hitems item hitem
      obtain ⟨row, hkey, hid⟩ := Option.map_eq_some_iff.mp hrow
      exact ⟨_, row, hkey, by rw [tripID_of_sampleResponse hitems item hitem, hid]⟩
    · exact meets_of_no_response _ (by decide)
  obtain ⟨request, hrequest⟩ := List.exists_mem_of_ne_nil _ hne
  obtain ⟨hstored, hrequests⟩ := requests_name_rows hrun hserves hmember
  obtain ⟨row, row', hrows⟩ := hrequests request hrequest
  exact ⟨fleet, hrun, member.1, hstored, request, row, row', hrows⟩

end Fleet

end RideHitch
