import RideHitch.Library.LastWrite
import RideHitch.AddTripWithMapVC
import RideHitch.ConfigureTripVC

/-! # DynamoDBInteractor

    Any number of devices upload trips to one remote table.  A save is an
    unconditional write of the whole row under its key.  It takes effect at most
    once, at any time after the press, and its completion may report an error
    whether it took effect or not; only a save that took effect reports success.

    Section 1 is the model.  A device keeps the trip objects that its add-trip
    screens made: the completion of a save copies the object as it is by then,
    not the row that was sent.  Section 2 says what a step does, Section 3 has
    the invariants, Section 4 says which trips the two stores keep, and Section 5
    is the case that no two saves share a key. -/

namespace RideHitch

/-! ## Section 1: Model -/

/-- The key of a row: its hash key and its range key. -/
abbrev TripKey : Type := Option Trips.PropertyValue × Option Trips.PropertyValue

/-- `running` is not in the source: a device that traps does nothing more. -/
structure Device where
  running : Bool := true
  trips : List Trips := []
  realmTrips : List RealmTrip := []

/-- A save: the device and the trip object it belongs to, and the row sent. -/
structure Save where
  device : ℕ
  trip : ℕ
  row : Trips
  deriving DecidableEq

/-- The trip object that the save is for. -/
def Save.owner (save : Save) : ℕ × ℕ := (save.device, save.trip)

/-- All devices and the remote table.  The last four fields are not in the
    source: the saves that were issued, that took effect, that reported success
    (each with the object that was copied), and the numbers of those that
    reported an error. -/
structure Cloud where
  devices : ℕ → Device := fun _ => {}
  table : TripKey → Option Trips := fun _ => none
  saves : Requests Save := .empty
  issued : List (ℕ × Save) := []
  effected : List (ℕ × Save) := []
  copied : List ((ℕ × Save) × Trips) := []
  failed : List ℕ := []

inductive CloudEvent where
  | prepare (device : ℕ) (rc : RouteCalculator) (vc : AddTripWithMapVC) (now : Double)
      (identityId : String) (random : UInt32)
  | requestButtonPressed (device trip : ℕ) (depature arrival : String)
  | tookEffect (serial : ℕ)
  | saveReturned (serial : ℕ) (error : Bool)

namespace Cloud

variable (date : String → Option NSDate)

def setDevice (cloud : Cloud) (device : ℕ) (state : Device) : Cloud :=
  { cloud with devices := Function.update cloud.devices device state }

def stop (cloud : Cloud) (device : ℕ) : Cloud :=
  cloud.setDevice device { cloud.devices device with running := false }

/-- The segue hands the new trip object to the next screen. -/
def prepare (cloud : Cloud) (device : ℕ) (newTrip : Except Trap Trips) : Cloud :=
  match newTrip with
  | .ok trip =>
      cloud.setDevice device
        { cloud.devices device with trips := (cloud.devices device).trips ++ [trip] }
  | .error _ => cloud.stop device

/-- The row is read off the object when the save is issued. -/
def uploadTrip (cloud : Cloud) (save : Save) : Cloud :=
  { cloud with
    saves := cloud.saves.issue save
    issued := cloud.issued ++ [(cloud.saves.issued, save)] }

/-- The press writes the times and the hash key into the trip object. -/
def requestButtonPressed (cloud : Cloud) (device trip : ℕ) (depature arrival : String) : Cloud :=
  match (cloud.devices device).trips[trip]? with
  | some object =>
      match (ConfigureTripVC.mk (some object) depature arrival).requestButtonPressed date with
      | .ok uploaded =>
          (cloud.setDevice device
            { cloud.devices device with
              trips := (cloud.devices device).trips.set trip uploaded }).uploadTrip
            ⟨device, trip, uploaded⟩
      | .error _ => cloud.stop device
  | none => cloud

def write (cloud : Cloud) (upload : ℕ × Save) : Cloud :=
  { cloud with
    -- no condition: whatever row is there under the key is replaced
    table := Function.update cloud.table upload.2.row.key (some upload.2.row)
    effected := cloud.effected ++ [upload] }

/-- A save takes effect at most once. -/
def tookEffect (cloud : Cloud) (serial : ℕ) : Cloud :=
  match cloud.issued.find? (fun upload => upload.1 = serial) with
  | some upload => if upload ∈ cloud.effected then cloud else cloud.write upload
  | none => cloud

/-- The object, as it is now, is copied into the local store. -/
def confirm (cloud : Cloud) (upload : ℕ × Save) (object : Trips) : Cloud :=
  { cloud.setDevice upload.2.device
      { cloud.devices upload.2.device with
        realmTrips :=
          RealmInteractor.saveAWSTrip (cloud.devices upload.2.device).realmTrips object }
    with
    saves := cloud.saves.settle upload.1
    copied := cloud.copied ++ [(upload, object)] }

/-- Only a save that took effect reports success. -/
def succeeded (cloud : Cloud) (upload : ℕ × Save) : Cloud :=
  match (cloud.devices upload.2.device).trips[upload.2.trip]? with
  | some object => if upload ∈ cloud.effected then cloud.confirm upload object else cloud
  | none => cloud

/-- The error is printed. -/
def report (cloud : Cloud) (serial : ℕ) : Cloud :=
  { cloud with
    saves := cloud.saves.settle serial
    failed := serial :: cloud.failed }

def saveReturned (cloud : Cloud) (serial : ℕ) (error : Bool) : Cloud :=
  match cloud.saves.find serial with
  | some save =>
      if (cloud.devices save.device).running then
        if error then cloud.report serial else cloud.succeeded (serial, save)
      else cloud
  | none => cloud

def step (cloud : Cloud) : CloudEvent → Cloud
  | .prepare device rc vc now identityId random =>
      if (cloud.devices device).running then
        cloud.prepare device (vc.prepare rc now identityId random)
      else cloud
  | .requestButtonPressed device trip depature arrival =>
      if (cloud.devices device).running then
        cloud.requestButtonPressed date device trip depature arrival
      else cloud
  | .tookEffect serial => cloud.tookEffect serial
  | .saveReturned serial error => cloud.saveReturned serial error

def machine : Machine Cloud CloudEvent Trap where
  init := {}
  step := fun cloud e => .ok (cloud.step date e)

/-! ## Section 2: The steps -/

variable {date}

/-- The object that a press leaves, and the row that it sends. -/
def Pressed (date : String → Option NSDate) (object uploaded : Trips) : Prop :=
  ∃ depature arrival,
    (ConfigureTripVC.mk (some object) depature arrival).requestButtonPressed date = .ok uploaded

/-- What a step does to the cloud. -/
inductive Outcome (date : String → Option NSDate) (cloud : Cloud) : Cloud → Prop where
  | idle : Outcome date cloud cloud
  | stopped (device : ℕ) : Outcome date cloud (cloud.stop device)
  | prepared (device : ℕ) (trip : Trips) :
      Outcome date cloud (cloud.prepare device (.ok trip))
  | pressed {device trip : ℕ} {object uploaded : Trips}
      (hobject : (cloud.devices device).trips[trip]? = some object)
      (hpressed : Pressed date object uploaded) :
      Outcome date cloud
        ((cloud.setDevice device
          { cloud.devices device with
            trips := (cloud.devices device).trips.set trip uploaded }).uploadTrip
          ⟨device, trip, uploaded⟩)
  | written {upload : ℕ × Save} (hissued : upload ∈ cloud.issued)
      (hnew : upload ∉ cloud.effected) : Outcome date cloud (cloud.write upload)
  | reported {serial : ℕ} {save : Save} (hsave : cloud.saves.find serial = some save) :
      Outcome date cloud (cloud.report serial)
  | confirmed {serial : ℕ} {save : Save} {object : Trips}
      (hsave : cloud.saves.find serial = some save)
      (hobject : (cloud.devices save.device).trips[save.trip]? = some object)
      (heffected : (serial, save) ∈ cloud.effected) :
      Outcome date cloud (cloud.confirm (serial, save) object)

theorem outcome_of_prepare (cloud : Cloud) (device : ℕ) (newTrip : Except Trap Trips) :
    Outcome date cloud (cloud.prepare device newTrip) := by
  cases newTrip with
  | ok trip => exact .prepared device trip
  | error t => exact .stopped device

theorem outcome_of_requestButtonPressed (cloud : Cloud) (device trip : ℕ)
    (depature arrival : String) :
    Outcome date cloud (cloud.requestButtonPressed date device trip depature arrival) := by
  unfold requestButtonPressed
  cases hobject : (cloud.devices device).trips[trip]? with
  | none => exact .idle
  | some object =>
    dsimp only
    cases huploaded :
        (ConfigureTripVC.mk (some object) depature arrival).requestButtonPressed date with
    | error t => exact .stopped device
    | ok uploaded => exact .pressed hobject ⟨depature, arrival, huploaded⟩

theorem outcome_of_tookEffect (cloud : Cloud) (serial : ℕ) :
    Outcome date cloud (cloud.tookEffect serial) := by
  unfold tookEffect
  cases hupload : cloud.issued.find? (fun upload => upload.1 = serial) with
  | none => exact .idle
  | some upload =>
    by_cases hnew : upload ∈ cloud.effected
    · simpa [hnew] using Outcome.idle
    · simpa [hnew] using Outcome.written (List.mem_of_find?_eq_some hupload) hnew

theorem outcome_of_succeeded {cloud : Cloud} {serial : ℕ} {save : Save}
    (hsave : cloud.saves.find serial = some save) :
    Outcome date cloud (cloud.succeeded (serial, save)) := by
  unfold succeeded
  cases hobject : (cloud.devices save.device).trips[save.trip]? with
  | none => exact .idle
  | some object =>
    by_cases heffected : (serial, save) ∈ cloud.effected
    · simpa [heffected] using Outcome.confirmed hsave hobject heffected
    · simpa [heffected] using Outcome.idle

theorem outcome_of_saveReturned (cloud : Cloud) (serial : ℕ) (error : Bool) :
    Outcome date cloud (cloud.saveReturned serial error) := by
  unfold saveReturned
  cases hsave : cloud.saves.find serial with
  | none => exact .idle
  | some save =>
    by_cases hrunning : (cloud.devices save.device).running
    · cases error with
      | true => simpa [hrunning] using Outcome.reported hsave
      | false => simpa [hrunning] using outcome_of_succeeded hsave
    · simpa [hrunning] using Outcome.idle

theorem outcome_of_step (cloud : Cloud) (e : CloudEvent) :
    Outcome date cloud (cloud.step date e) := by
  cases e with
  | prepare device rc vc now identityId random =>
    by_cases hrunning : (cloud.devices device).running
    · simpa [step, hrunning] using outcome_of_prepare cloud device _
    · simpa [step, hrunning] using Outcome.idle
  | requestButtonPressed device trip depature arrival =>
    by_cases hrunning : (cloud.devices device).running
    · simpa [step, hrunning] using outcome_of_requestButtonPressed cloud device trip _ _
    · simpa [step, hrunning] using Outcome.idle
  | tookEffect serial => exact outcome_of_tookEffect cloud serial
  | saveReturned serial error => exact outcome_of_saveReturned cloud serial error

theorem issued_tookEffect (cloud : Cloud) (serial : ℕ) :
    (cloud.tookEffect serial).issued = cloud.issued := by
  unfold tookEffect
  split
  · split_ifs
    · rfl
    · rfl
  · rfl

theorem issued_saveReturned (cloud : Cloud) (serial : ℕ) (error : Bool) :
    (cloud.saveReturned serial error).issued = cloud.issued := by
  have hsucceeded : ∀ upload, (cloud.succeeded upload).issued = cloud.issued := by
    intro upload
    unfold succeeded
    split
    · split_ifs
      · rfl
      · rfl
    · rfl
  unfold saveReturned
  split
  · split_ifs
    · rfl
    · exact hsucceeded _
    · rfl
  · rfl

/-- Only a press sends a row. -/
theorem issued_of_step (cloud : Cloud) {e : CloudEvent}
    (hpress : ∀ device trip depature arrival,
      e ≠ .requestButtonPressed device trip depature arrival) :
    (cloud.step date e).issued = cloud.issued := by
  cases e with
  | requestButtonPressed device trip depature arrival =>
    exact absurd rfl (hpress device trip depature arrival)
  | prepare device rc vc now identityId random =>
    simp only [step]
    split_ifs
    · cases vc.prepare rc now identityId random with
      | ok trip => rfl
      | error t => rfl
    · rfl
  | tookEffect serial => exact issued_tookEffect cloud serial
  | saveReturned serial error => exact issued_saveReturned cloud serial error

/-! ## Section 3: What holds in every state -/

/-- The saves that reported success. -/
def confirmed (cloud : Cloud) : List (ℕ × Save) := cloud.copied.map Prod.fst

@[simp] theorem confirmed_confirm (cloud : Cloud) (upload : ℕ × Save) (object : Trips) :
    (cloud.confirm upload object).confirmed = cloud.confirmed ++ [upload] :=
  List.map_append

/-- The rows that took effect, each under its key. -/
def uploads (cloud : Cloud) : List (TripKey × Trips) :=
  cloud.effected.map (fun upload => (upload.2.row.key, upload.2.row))

/-- The saves and the histories agree. -/
structure Sound (cloud : Cloud) : Prop where
  serial_lt : ∀ upload ∈ cloud.issued, upload.1 < cloud.saves.issued
  issued_of_effected : ∀ upload ∈ cloud.effected, upload ∈ cloud.issued
  effected_of_confirmed : ∀ upload ∈ cloud.confirmed, upload ∈ cloud.effected
  effected_nodup : cloud.effected.Nodup
  confirmed_nodup : cloud.confirmed.Nodup
  confirmed_settled : ∀ upload ∈ cloud.confirmed, cloud.saves.find upload.1 = none
  failed_settled : ∀ serial ∈ cloud.failed,
    serial < cloud.saves.issued ∧ cloud.saves.find serial = none
  confirmed_not_failed : ∀ upload ∈ cloud.confirmed, upload.1 ∉ cloud.failed
  /-- A save is outstanding, has reported success or has reported an error. -/
  answered : ∀ upload ∈ cloud.issued, cloud.saves.find upload.1 = some upload.2 ∨
    upload ∈ cloud.confirmed ∨ upload.1 ∈ cloud.failed
  table_eq : cloud.table = LastWrite.tableOf cloud.uploads
  geohash_eq : ∀ upload ∈ cloud.issued,
    Geohash.encode id upload.2.row.originLatitude upload.2.row.originLongitude 4 =
      .ok upload.2.row.geohash

theorem sound_init : Sound {} where
  serial_lt := by simp
  issued_of_effected := by simp
  effected_of_confirmed := by simp [confirmed]
  effected_nodup := List.nodup_nil
  confirmed_nodup := List.nodup_nil
  confirmed_settled := by simp [confirmed]
  failed_settled := by simp
  confirmed_not_failed := by simp [confirmed]
  answered := by simp
  table_eq := rfl
  geohash_eq := by simp

/-- What a press sends has the hash key of its origin, which the press keeps. -/
theorem pressed_geohash {object uploaded : Trips} (h : Pressed date object uploaded) :
    Geohash.encode id uploaded.originLatitude uploaded.originLongitude 4 = .ok uploaded.geohash ∧
    Geohash.encode id object.originLatitude object.originLongitude 4 = .ok uploaded.geohash ∧
    uploaded.tripID = object.tripID := by
  obtain ⟨depature, arrival, h⟩ := h
  obtain ⟨trip, _, _, geohash, htrip, _, _, hgeohash, rfl⟩ :=
    ConfigureTripVC.requestButtonPressed_eq_ok h
  cases htrip
  exact ⟨hgeohash, hgeohash, rfl⟩

theorem Sound.upload {cloud : Cloud} (h : cloud.Sound) {save : Save}
    (hgeohash : Geohash.encode id save.row.originLatitude save.row.originLongitude 4 =
      .ok save.row.geohash) : (cloud.uploadTrip save).Sound where
  serial_lt := by
    intro upload hupload
    rcases List.mem_append.mp hupload with hupload | hupload
    · have hlt := h.serial_lt upload hupload
      show upload.1 < cloud.saves.issued + 1
      omega
    · rw [List.mem_singleton.mp hupload]
      show cloud.saves.issued < cloud.saves.issued + 1
      omega
  issued_of_effected := by
    intro upload hupload
    apply List.mem_append_left
    exact h.issued_of_effected upload hupload
  effected_of_confirmed := h.effected_of_confirmed
  effected_nodup := h.effected_nodup
  confirmed_nodup := h.confirmed_nodup
  confirmed_settled := by
    intro upload hupload
    -- a new number is larger than all numbers so far, and changes no old answer
    have hlt := h.serial_lt upload
      (h.issued_of_effected upload (h.effected_of_confirmed upload hupload))
    show (cloud.saves.issue save).find upload.1 = none
    rw [cloud.saves.find_issue_of_lt save hlt]
    exact h.confirmed_settled upload hupload
  failed_settled := by
    intro serial hserial
    obtain ⟨hlt, hnone⟩ := h.failed_settled serial hserial
    constructor
    · show serial < cloud.saves.issued + 1
      omega
    · show (cloud.saves.issue save).find serial = none
      rw [cloud.saves.find_issue_of_lt save hlt]
      exact hnone
  confirmed_not_failed := h.confirmed_not_failed
  answered := by
    intro upload hupload
    rcases List.mem_append.mp hupload with hupload | hupload
    · have hlt := h.serial_lt upload hupload
      exact (h.answered upload hupload).imp_left (cloud.saves.find_issue_of_lt save hlt).trans
    · rw [List.mem_singleton.mp hupload]
      exact .inl (cloud.saves.find_issue_self save)
  table_eq := h.table_eq
  geohash_eq := by
    intro upload hupload
    rcases List.mem_append.mp hupload with hupload | hupload
    · exact h.geohash_eq upload hupload
    · rw [List.mem_singleton.mp hupload]
      exact hgeohash

theorem Sound.write {cloud : Cloud} (h : cloud.Sound) {upload : ℕ × Save}
    (hissued : upload ∈ cloud.issued) (hnew : upload ∉ cloud.effected) :
    (cloud.write upload).Sound where
  serial_lt := h.serial_lt
  issued_of_effected := by
    intro other hother
    rcases List.mem_append.mp hother with hother | hother
    · exact h.issued_of_effected other hother
    · exact List.mem_singleton.mp hother ▸ hissued
  effected_of_confirmed := by
    intro other hother
    apply List.mem_append_left
    exact h.effected_of_confirmed other hother
  effected_nodup := by
    have hnodup := h.effected_nodup.concat hnew
    rw [List.concat_eq_append] at hnodup
    exact hnodup
  confirmed_nodup := h.confirmed_nodup
  confirmed_settled := h.confirmed_settled
  failed_settled := h.failed_settled
  confirmed_not_failed := h.confirmed_not_failed
  answered := h.answered
  table_eq := by
    show Function.update cloud.table upload.2.row.key (some upload.2.row) =
      LastWrite.tableOf ((cloud.effected ++ [upload]).map (fun u => (u.2.row.key, u.2.row)))
    rw [List.map_append, h.table_eq]
    exact (LastWrite.tableOf_append _ _ _).symm
  geohash_eq := h.geohash_eq

theorem Sound.report {cloud : Cloud} (h : cloud.Sound) {serial : ℕ} {save : Save}
    (hsave : cloud.saves.find serial = some save) : (cloud.report serial).Sound where
  serial_lt := h.serial_lt
  issued_of_effected := h.issued_of_effected
  effected_of_confirmed := h.effected_of_confirmed
  effected_nodup := h.effected_nodup
  confirmed_nodup := h.confirmed_nodup
  confirmed_settled := by
    intro upload hupload
    apply cloud.saves.find_settle_of_none
    exact h.confirmed_settled upload hupload
  failed_settled := by
    intro serial' hserial'
    rcases List.mem_cons.mp hserial' with rfl | hserial'
    · exact ⟨cloud.saves.lt_of_find hsave, cloud.saves.settle_find_self _⟩
    · obtain ⟨hlt, hnone⟩ := h.failed_settled serial' hserial'
      exact ⟨hlt, cloud.saves.find_settle_of_none serial hnone⟩
  confirmed_not_failed := by
    intro upload hupload hfailed
    rcases List.mem_cons.mp hfailed with rfl | hfailed
    · have hnone := h.confirmed_settled upload hupload
      simp [hsave] at hnone
    · exact h.confirmed_not_failed upload hupload hfailed
  answered := by
    intro upload hupload
    -- the reported save has failed; every other one stays as it is
    by_cases hserial : upload.1 = serial
    · exact .inr (.inr (hserial ▸ List.mem_cons_self))
    · refine (h.answered upload hupload).imp ?_ (Or.imp_right (List.mem_cons_of_mem _))
      exact (cloud.saves.settle_find_of_ne hserial).trans
  table_eq := h.table_eq
  geohash_eq := h.geohash_eq

theorem Sound.confirm {cloud : Cloud} (h : cloud.Sound) {serial : ℕ} {save : Save}
    (hsave : cloud.saves.find serial = some save) (heffected : (serial, save) ∈ cloud.effected)
    (object : Trips) : (cloud.confirm (serial, save) object).Sound where
  serial_lt := h.serial_lt
  issued_of_effected := h.issued_of_effected
  effected_of_confirmed := by
    intro upload hupload
    rw [confirmed_confirm] at hupload
    rcases List.mem_append.mp hupload with hupload | hupload
    · exact h.effected_of_confirmed upload hupload
    · exact List.mem_singleton.mp hupload ▸ heffected
  effected_nodup := h.effected_nodup
  confirmed_nodup := by
    have hnew : (serial, save) ∉ cloud.confirmed := by
      intro hconfirmed
      -- a confirmed save has been answered, this one has not
      have hnone := h.confirmed_settled _ hconfirmed
      simp [hsave] at hnone
    have hnodup := h.confirmed_nodup.concat hnew
    rw [List.concat_eq_append] at hnodup
    rw [confirmed_confirm]
    exact hnodup
  confirmed_settled := by
    intro upload hupload
    rw [confirmed_confirm] at hupload
    rcases List.mem_append.mp hupload with hupload | hupload
    · exact cloud.saves.find_settle_of_none serial (h.confirmed_settled upload hupload)
    · rw [List.mem_singleton.mp hupload]
      exact cloud.saves.settle_find_self _
  failed_settled := by
    intro serial' hserial'
    obtain ⟨hlt, hnone⟩ := h.failed_settled serial' hserial'
    exact ⟨hlt, cloud.saves.find_settle_of_none serial hnone⟩
  confirmed_not_failed := by
    intro upload hupload hfailed
    rw [confirmed_confirm] at hupload
    rcases List.mem_append.mp hupload with hupload | hupload
    · exact h.confirmed_not_failed upload hupload hfailed
    · have hnone := (h.failed_settled upload.1 hfailed).2
      rw [List.mem_singleton.mp hupload] at hnone
      simp [hsave] at hnone
  answered := by
    intro upload hupload
    rw [confirmed_confirm]
    -- a number stands for one save, so the save with this number is the confirmed one
    by_cases hserial : upload.1 = serial
    · refine (h.answered upload hupload).elim (fun hfind => .inr (.inl ?_))
        (fun hrest => .inr (hrest.imp_left (List.mem_append_left _)))
      obtain ⟨serial', save'⟩ := upload
      cases hserial
      have hsame : save' = save := Option.some.inj (hfind.symm.trans hsave)
      exact List.mem_append_right _ (List.mem_singleton.mpr (by rw [hsame]))
    · refine (h.answered upload hupload).imp ?_ (Or.imp_left (List.mem_append_left _))
      exact (cloud.saves.settle_find_of_ne hserial).trans
  table_eq := h.table_eq
  geohash_eq := h.geohash_eq

/-- The histories do not depend on the devices. -/
theorem Sound.setDevice {cloud : Cloud} (h : cloud.Sound) (device : ℕ) (state : Device) :
    (cloud.setDevice device state).Sound :=
  ⟨h.serial_lt, h.issued_of_effected, h.effected_of_confirmed, h.effected_nodup, h.confirmed_nodup,
    h.confirmed_settled, h.failed_settled, h.confirmed_not_failed, h.answered, h.table_eq,
    h.geohash_eq⟩

theorem sound_of_outcome {cloud cloud' : Cloud} (h : cloud.Sound)
    (ho : Outcome date cloud cloud') : cloud'.Sound := by
  cases ho with
  | idle => exact h
  | stopped device => exact h.setDevice device _
  | prepared device trip => exact h.setDevice device _
  | pressed _ hpressed => exact (h.setDevice _ _).upload (pressed_geohash hpressed).1
  | written hissued hnew => exact h.write hissued hnew
  | reported hsave => exact h.report hsave
  | confirmed hsave _ heffected => exact h.confirm hsave heffected _

/-- The trip objects and the local stores.  The last save of a trip sent its object as it
    is now, and a success copied the object as some save of the trip had sent it. -/
structure Mirrored (cloud : Cloud) : Prop where
  object_sent : ∀ upload ∈ cloud.issued, ∃ sent ∈ cloud.issued,
    sent.2.owner = upload.2.owner ∧ sent.2.row.key = upload.2.row.key ∧
      (cloud.devices upload.2.device).trips[upload.2.trip]? = some sent.2.row
  copied_sent : ∀ copy ∈ cloud.copied, ∃ sent ∈ cloud.issued,
    sent.2.owner = copy.1.2.owner ∧ sent.2.row.key = copy.1.2.row.key ∧ sent.2.row = copy.2
  realmTrips_eq : ∀ device, (cloud.devices device).realmTrips =
    ((cloud.copied.filter (fun copy => copy.1.2.device = device)).map Prod.snd).map
      RealmTrip.create

theorem mirrored_init : Mirrored {} where
  object_sent := by simp
  copied_sent := by simp
  realmTrips_eq := by
    intro device
    rfl

/-- A device may get new trip objects. -/
theorem Mirrored.setDevice {cloud : Cloud} (h : cloud.Mirrored) {device : ℕ} {state : Device}
    {trips : List Trips} (htrips : state.trips = (cloud.devices device).trips ++ trips)
    (hrealm : state.realmTrips = (cloud.devices device).realmTrips) :
    (cloud.setDevice device state).Mirrored where
  object_sent := by
    intro upload hupload
    obtain ⟨sent, hsent, howner, hkey, hobject⟩ := h.object_sent upload hupload
    refine ⟨sent, hsent, howner, hkey, ?_⟩
    by_cases hdevice : upload.2.device = device
    · simp only [Cloud.setDevice, hdevice, Function.update_self, htrips]
      rw [hdevice] at hobject
      have hlt := (List.getElem?_eq_some_iff.mp hobject).1
      exact (List.getElem?_append_left hlt).trans hobject
    · simpa [Cloud.setDevice, hdevice] using hobject
  copied_sent := h.copied_sent
  realmTrips_eq := by
    intro other
    refine Eq.trans ?_ (h.realmTrips_eq other)
    by_cases hdevice : other = device
    · simp [Cloud.setDevice, hdevice, hrealm]
    · simp [Cloud.setDevice, hdevice]

/-- A press sends the trip again under the key that it has had since the first press. -/
theorem key_of_pressed {cloud : Cloud} (hsound : cloud.Sound) {sent : ℕ × Save}
    (hsent : sent ∈ cloud.issued) {uploaded : Trips} (hpressed : Pressed date sent.2.row uploaded) :
    uploaded.key = sent.2.row.key := by
  obtain ⟨_, hgeohash, htripID⟩ := pressed_geohash hpressed
  rw [hsound.geohash_eq sent hsent] at hgeohash
  rw [Trips.key_eq, Trips.key_eq, htripID, Except.ok.inj hgeohash]

theorem Mirrored.press {cloud : Cloud} (hsound : cloud.Sound) (h : cloud.Mirrored)
    {device trip : ℕ} {object uploaded : Trips}
    (hobject : (cloud.devices device).trips[trip]? = some object)
    (hpressed : Pressed date object uploaded) :
    ((cloud.setDevice device
      { cloud.devices device with
        trips := (cloud.devices device).trips.set trip uploaded }).uploadTrip
      ⟨device, trip, uploaded⟩).Mirrored where
  object_sent := by
    intro upload hupload
    have hset := List.getElem?_set_self (a := uploaded) (List.getElem?_eq_some_iff.mp hobject).1
    rcases List.mem_append.mp hupload with hupload | hupload
    · obtain ⟨sent, hsent, howner, hkey, hsame⟩ := h.object_sent upload hupload
      by_cases hdevice : upload.2.device = device
      · rw [hdevice] at hsame
        by_cases htrip : upload.2.trip = trip
        · -- the new save is one of the same trip, and has sent the object as it is now
          rw [htrip, hobject] at hsame
          obtain rfl := Option.some.inj hsame
          refine ⟨_, List.mem_append_right _ (List.mem_singleton_self _), ?_, ?_, ?_⟩
          · simp [Save.owner, hdevice, htrip]
          · exact (key_of_pressed hsound hsent hpressed).trans hkey
          · simpa [uploadTrip, Cloud.setDevice, hdevice, htrip] using hset
        · refine ⟨sent, List.mem_append_left _ hsent, howner, hkey, ?_⟩
          simp only [uploadTrip, Cloud.setDevice, hdevice, Function.update_self]
          rw [List.getElem?_set_ne (Ne.symm htrip)]
          exact hsame
      · refine ⟨sent, List.mem_append_left _ hsent, howner, hkey, ?_⟩
        simpa [uploadTrip, Cloud.setDevice, hdevice] using hsame
    · refine ⟨upload, List.mem_append_right _ hupload, rfl, rfl, ?_⟩
      rw [List.mem_singleton.mp hupload]
      simpa [uploadTrip, Cloud.setDevice] using hset
  copied_sent := by
    intro copy hcopy
    obtain ⟨sent, hsent, hrest⟩ := h.copied_sent copy hcopy
    exact ⟨sent, List.mem_append_left _ hsent, hrest⟩
  realmTrips_eq := by
    intro other
    refine Eq.trans ?_ (h.realmTrips_eq other)
    by_cases hdevice : other = device
    · simp [uploadTrip, Cloud.setDevice, hdevice]
    · simp [uploadTrip, Cloud.setDevice, hdevice]

theorem Mirrored.confirm {cloud : Cloud} (hsound : cloud.Sound) (h : cloud.Mirrored)
    {upload : ℕ × Save} {object : Trips}
    (hobject : (cloud.devices upload.2.device).trips[upload.2.trip]? = some object)
    (heffected : upload ∈ cloud.effected) : (cloud.confirm upload object).Mirrored where
  object_sent := by
    intro other hother
    obtain ⟨sent, hsent, howner, hkey, hsame⟩ := h.object_sent other hother
    refine ⟨sent, hsent, howner, hkey, ?_⟩
    by_cases hdevice : other.2.device = upload.2.device
    · rw [hdevice] at hsame
      simpa [Cloud.confirm, Cloud.setDevice, hdevice] using hsame
    · simpa [Cloud.confirm, Cloud.setDevice, hdevice] using hsame
  copied_sent := by
    intro copy hcopy
    rcases List.mem_append.mp hcopy with hcopy | hcopy
    · exact h.copied_sent copy hcopy
    · -- the object is still as the last save of the trip sent it
      rw [List.mem_singleton.mp hcopy]
      obtain ⟨sent, hsent, howner, hkey, hsame⟩ :=
        h.object_sent upload (hsound.issued_of_effected upload heffected)
      rw [hobject] at hsame
      exact ⟨sent, hsent, howner, hkey, (Option.some.inj hsame).symm⟩
  realmTrips_eq := by
    intro device
    by_cases hdevice : device = upload.2.device
    · subst hdevice
      simp [Cloud.confirm, Cloud.setDevice, RealmInteractor.saveAWSTrip, h.realmTrips_eq,
        List.filter_append]
    · have hother : ¬ upload.2.device = device := by
        intro heq
        exact hdevice heq.symm
      simp [Cloud.confirm, Cloud.setDevice, h.realmTrips_eq, List.filter_append, hdevice, hother]

theorem mirrored_of_outcome {cloud cloud' : Cloud} (hsound : cloud.Sound) (h : cloud.Mirrored)
    (ho : Outcome date cloud cloud') : cloud'.Mirrored := by
  cases ho with
  | idle => exact h
  | stopped device => exact h.setDevice (List.append_nil _).symm rfl
  | prepared device trip => exact h.setDevice rfl rfl
  | pressed hobject hpressed => exact h.press hsound hobject hpressed
  | written _ _ => exact ⟨h.object_sent, h.copied_sent, h.realmTrips_eq⟩
  | reported _ => exact ⟨h.object_sent, h.copied_sent, h.realmTrips_eq⟩
  | confirmed _ hobject heffected => exact h.confirm hsound hobject heffected

/-- **Both hold after every run.** -/
theorem sound_of_run {es : List CloudEvent} {cloud : Cloud}
    (h : (machine date).run {} es = .ok cloud) : cloud.Sound ∧ cloud.Mirrored := by
  have hstep : ∀ cloud e cloud', (cloud.Sound ∧ cloud.Mirrored) →
      (machine date).step cloud e = .ok cloud' → cloud'.Sound ∧ cloud'.Mirrored := by
    intro cloud e cloud' hinv hstep
    cases hstep
    have ho : Outcome date cloud (cloud.step date e) := outcome_of_step cloud e
    exact ⟨sound_of_outcome hinv.1 ho, mirrored_of_outcome hinv.1 hinv.2 ho⟩
  have hinit : Cloud.Sound {} ∧ Cloud.Mirrored {} := ⟨sound_init, mirrored_init⟩
  exact Machine.run_preserves hstep hinit h

/-! ## Section 4: The trips that the stores keep -/

/-- The save that took effect last under the key. -/
def latest (cloud : Cloud) (key : TripKey) : Option (ℕ × Save) :=
  LastWrite.tableOf (cloud.effected.map fun upload => (upload.2.row.key, upload)) key

/-- The row of the trip in the remote table, if the save that took effect last under
    the key of the trip is one of its own. -/
def keptRow (cloud : Cloud) (device trip : ℕ) : Option Trips :=
  (cloud.devices device).trips[trip]?.bind fun object =>
    ((cloud.latest object.key).filter fun upload => upload.2.owner = (device, trip)).map
      fun upload => upload.2.row

/-- The rows of the device's own trips in the remote table, in the order of the trips. -/
def keptRows (cloud : Cloud) (device : ℕ) : List Trips :=
  (List.range (cloud.devices device).trips.length).filterMap (cloud.keptRow device)

/-- The local store of the device has its own trips that are in the remote table, each
    once and with the fields of the row. -/
def LocalMatches (cloud : Cloud) (device : ℕ) : Prop :=
  (cloud.devices device).realmTrips.Perm ((cloud.keptRows device).map RealmTrip.create)

instance (cloud : Cloud) (device : ℕ) : Decidable (cloud.LocalMatches device) :=
  inferInstanceAs (Decidable (List.Perm _ _))

/-- The objects that the successes of the device's saves under the key found. -/
def copies (cloud : Cloud) (device : ℕ) (key : TripKey) : List Trips :=
  (cloud.copied.filter fun copy =>
    copy.1.2.device = device ∧ copy.1.2.row.key = key).map Prod.snd

/-- The row under the key, if the save that took effect last under it is one of the
    device's. -/
def ownRow (cloud : Cloud) (device : ℕ) (key : TripKey) : Option Trips :=
  ((cloud.latest key).filter fun upload => upload.2.device = device).map
    fun upload => upload.2.row

variable {cloud : Cloud}

theorem mem_of_latest {key : TripKey} {upload : ℕ × Save} (h : cloud.latest key = some upload) :
    upload ∈ cloud.effected ∧ upload.2.row.key = key := by
  obtain ⟨other, hother, heq⟩ := List.mem_map.mp (LastWrite.mem_of_tableOf h)
  obtain ⟨hkey, rfl⟩ := Prod.mk.inj heq
  exact ⟨hother, hkey⟩

theorem exists_latest {upload : ℕ × Save} (h : upload ∈ cloud.effected) :
    ∃ last, cloud.latest upload.2.row.key = some last :=
  LastWrite.exists_tableOf (List.mem_map_of_mem h)

theorem table_eq_latest (hsound : cloud.Sound) (key : TripKey) :
    cloud.table key = (cloud.latest key).map fun upload => upload.2.row := by
  rw [hsound.table_eq, latest, ← LastWrite.tableOf_map, List.map_map]
  rfl

theorem keptRow_eq_some (hsound : cloud.Sound) (hmirrored : cloud.Mirrored) {device trip : ℕ}
    {row : Trips} : cloud.keptRow device trip = some row ↔
      ∃ upload, cloud.latest upload.2.row.key = some upload ∧
        upload.2.owner = (device, trip) ∧ upload.2.row = row := by
  simp only [keptRow, Option.bind_eq_some_iff, Option.map_eq_some_iff, Option.filter_eq_some_iff,
    decide_eq_true_eq]
  constructor
  · rintro ⟨object, _, upload, ⟨hlatest, howner⟩, hrow⟩
    rw [← (mem_of_latest hlatest).2] at hlatest
    exact ⟨upload, hlatest, howner, hrow⟩
  · rintro ⟨upload, hlatest, howner, hrow⟩
    obtain ⟨heffected, _⟩ := mem_of_latest hlatest
    obtain ⟨sent, _, _, hkey, hobject⟩ :=
      hmirrored.object_sent upload (hsound.issued_of_effected upload heffected)
    obtain ⟨rfl, rfl⟩ := Prod.mk.inj howner
    rw [← hkey] at hlatest
    exact ⟨sent.2.row, hobject, upload, ⟨hlatest, howner⟩, hrow⟩

theorem ownRow_eq_some {device : ℕ} {key : TripKey} {row : Trips} :
    cloud.ownRow device key = some row ↔
      ∃ upload, cloud.latest key = some upload ∧ upload.2.device = device ∧ upload.2.row = row := by
  simp [ownRow, Option.map_eq_some_iff, Option.filter_eq_some_iff, and_assoc]

theorem mem_keptRows (hsound : cloud.Sound) (hmirrored : cloud.Mirrored) {device : ℕ}
    {row : Trips} : row ∈ cloud.keptRows device ↔ cloud.ownRow device row.key = some row := by
  rw [keptRows, List.mem_filterMap, ownRow_eq_some]
  constructor
  · rintro ⟨trip, _, hkept⟩
    obtain ⟨upload, hlatest, howner, rfl⟩ := (keptRow_eq_some hsound hmirrored).mp hkept
    exact ⟨upload, hlatest, (Prod.mk.inj howner).1, rfl⟩
  · rintro ⟨upload, hlatest, rfl, rfl⟩
    have hkept := (keptRow_eq_some hsound hmirrored).mpr ⟨upload, hlatest, rfl, rfl⟩
    refine ⟨upload.2.trip, ?_, hkept⟩
    obtain ⟨object, hobject, _⟩ := Option.bind_eq_some_iff.mp hkept
    exact List.mem_range.mpr (List.getElem?_eq_some_iff.mp hobject).1

theorem nodup_keptRows (hsound : cloud.Sound) (hmirrored : cloud.Mirrored) (device : ℕ) :
    (cloud.keptRows device).Nodup := by
  refine List.Nodup.filterMap ?_ List.nodup_range
  intro trip trip' row hkept hkept'
  -- the save that took effect last under the key of the row belongs to one trip
  obtain ⟨upload, hlatest, howner, rfl⟩ := (keptRow_eq_some hsound hmirrored).mp hkept
  obtain ⟨upload', hlatest', howner', hrow⟩ := (keptRow_eq_some hsound hmirrored).mp hkept'
  rw [hrow, hlatest] at hlatest'
  obtain rfl := Option.some.inj hlatest'
  exact (Prod.mk.inj (howner.symm.trans howner')).2

/-- Under one key a device has at most one row in the table. -/
theorem filter_keptRows (hsound : cloud.Sound) (hmirrored : cloud.Mirrored) (device : ℕ)
    (key : TripKey) :
    ((cloud.keptRows device).filter fun row => row.key = key).Perm
      (cloud.ownRow device key).toList := by
  have hnodup : (cloud.ownRow device key).toList.Nodup := by
    cases cloud.ownRow device key with
    | none => simp
    | some row => simp
  refine (List.perm_ext_iff_of_nodup ((nodup_keptRows hsound hmirrored device).filter _) hnodup).mpr ?_
  intro row
  rw [List.mem_filter, mem_keptRows hsound hmirrored, Option.mem_toList, decide_eq_true_eq]
  constructor
  · rintro ⟨hown, rfl⟩
    exact hown
  · intro hown
    obtain ⟨upload, hlatest, _, rfl⟩ := ownRow_eq_some.mp hown
    obtain rfl := (mem_of_latest hlatest).2
    exact ⟨hown, rfl⟩

theorem create_injective : Function.Injective RealmTrip.create := by
  rintro ⟨⟩ ⟨⟩ h
  simpa [RealmTrip.create] using h

/-- The two stores agree exactly if under every key the device's successes found what
    its own save wrote last. -/
theorem localMatches_iff (hsound : cloud.Sound) (hmirrored : cloud.Mirrored) (device : ℕ) :
    cloud.LocalMatches device ↔
      ∀ key, cloud.copies device key = (cloud.ownRow device key).toList := by
  rw [LocalMatches, hmirrored.realmTrips_eq, List.map_perm_map_iff create_injective,
    LastWrite.perm_iff_filter Trips.key]
  refine forall_congr' fun key => ?_
  have hcopies : ((cloud.copied.filter fun copy => copy.1.2.device = device).map Prod.snd).filter
      (fun object => object.key = key) = cloud.copies device key := by
    -- a copy has the key of the row whose save made it
    rw [copies, List.filter_map, List.filter_filter]
    congr 1
    apply List.filter_congr
    intro copy hcopy
    obtain ⟨sent, _, _, hkey, hrow⟩ := hmirrored.copied_sent copy hcopy
    rw [Bool.decide_and, Function.comp_apply, ← hrow, hkey, Bool.and_comm]
  rw [hcopies]
  constructor
  · intro hperm
    have hown := hperm.trans (filter_keptRows hsound hmirrored device key)
    cases hrow : cloud.ownRow device key with
    | none =>
      rw [hrow] at hown
      exact List.perm_nil.mp hown
    | some row =>
      rw [hrow] at hown
      exact List.perm_singleton.mp hown
  · intro heq
    rw [heq]
    exact (filter_keptRows hsound hmirrored device key).symm

/-- No other save took effect under the key of this one. -/
def Alone (cloud : Cloud) (upload : ℕ × Save) : Prop :=
  ∀ other ∈ cloud.effected, other.2.row.key = upload.2.row.key → other = upload

instance (cloud : Cloud) (upload : ℕ × Save) : Decidable (cloud.Alone upload) :=
  inferInstanceAs (Decidable (∀ other ∈ cloud.effected, _ → _))

theorem latest_of_alone {upload : ℕ × Save} (h : upload ∈ cloud.effected)
    (halone : cloud.Alone upload) : cloud.latest upload.2.row.key = some upload := by
  obtain ⟨last, hlast⟩ := exists_latest h
  obtain ⟨hmem, hkey⟩ := mem_of_latest hlast
  rw [hlast, halone last hmem hkey]

theorem confirmed_of_copied {copy : (ℕ × Save) × Trips} (h : copy ∈ cloud.copied) :
    copy.1 ∈ cloud.confirmed :=
  List.mem_map_of_mem h

/-- A save reports success once, so it has one copy at most. -/
theorem filter_copied (hsound : cloud.Sound) {copy : (ℕ × Save) × Trips}
    (h : copy ∈ cloud.copied) : (cloud.copied.filter fun other => other.1 = copy.1) = [copy] := by
  have hnodup : (cloud.copied.map Prod.fst).Nodup := hsound.confirmed_nodup
  have hone : (cloud.copied.filter fun other => other.1 = copy.1).Perm [copy] := by
    refine (List.perm_ext_iff_of_nodup (hnodup.of_map.filter _) (List.nodup_singleton _)).mpr ?_
    intro other
    rw [List.mem_filter, List.mem_singleton, decide_eq_true_eq]
    constructor
    · rintro ⟨hother, hsame⟩
      exact List.inj_on_of_nodup_map hnodup hother h hsame
    · rintro rfl
      exact ⟨h, rfl⟩
  exact List.perm_singleton.mp hone

/-- Under the key of a save that took effect alone there are only its own copies. -/
theorem copies_of_alone (hsound : cloud.Sound) {upload : ℕ × Save}
    (halone : cloud.Alone upload) :
    cloud.copies upload.2.device upload.2.row.key =
      (cloud.copied.filter fun copy => copy.1 = upload).map Prod.snd := by
  rw [copies]
  congr 1
  apply List.filter_congr
  intro copy hcopy
  apply decide_eq_decide.mpr
  constructor
  · intro hcopied
    exact halone _ (hsound.effected_of_confirmed _ (confirmed_of_copied hcopy)) hcopied.2
  · intro heq
    rw [heq]
    exact ⟨rfl, rfl⟩

/-- A save that is the only one to take effect under its key is in step with its copy
    exactly if it did not report an error and its object was found as it was sent. -/
theorem copies_eq_of_alone (hsound : cloud.Sound) {upload : ℕ × Save}
    (hupload : upload ∈ cloud.effected)
    (hidle : ∀ other ∈ cloud.saves.outstanding, other.2.device ≠ upload.2.device)
    (halone : cloud.Alone upload) :
    cloud.copies upload.2.device upload.2.row.key = [upload.2.row] ↔
      upload.1 ∉ cloud.failed ∧ ∀ object, (upload, object) ∈ cloud.copied → object = upload.2.row := by
  rw [copies_of_alone hsound halone]
  constructor
  · intro heq
    have hfound : ∀ object, (upload, object) ∈ cloud.copied → object = upload.2.row := by
      intro object hobject
      have hmem : object ∈ (cloud.copied.filter fun copy => copy.1 = upload).map Prod.snd :=
        List.mem_map_of_mem (List.mem_filter.mpr ⟨hobject, decide_eq_true rfl⟩)
      rw [heq] at hmem
      exact List.mem_singleton.mp hmem
    obtain ⟨copy, hcopy, _⟩ := List.mem_map.mp (heq ▸ List.mem_singleton_self upload.2.row)
    obtain ⟨hcopied, hsame⟩ := List.mem_filter.mp hcopy
    have hconfirmed := confirmed_of_copied hcopied
    rw [of_decide_eq_true hsame] at hconfirmed
    exact ⟨hsound.confirmed_not_failed _ hconfirmed, hfound⟩
  · rintro ⟨hnot, hfound⟩
    -- not outstanding and not reported as failed: the save has reported success
    have hconfirmed : upload ∈ cloud.confirmed := by
      rcases hsound.answered upload (hsound.issued_of_effected upload hupload) with
        hfind | hconfirmed | hfailed
      · exact absurd rfl (hidle _ (Requests.find_eq_some.mp hfind))
      · exact hconfirmed
      · exact absurd hfailed hnot
    obtain ⟨copy, hcopied, rfl⟩ := List.mem_map.mp hconfirmed
    rw [filter_copied hsound hcopied, List.map_singleton, hfound copy.2 hcopied]

/-- For an idle device none of whose saves shares its key with another save that took
    effect, the stores agree exactly if no save that took effect reported an error, and
    every success found the object as it was sent. -/
theorem localMatches_of_alone (hsound : cloud.Sound) (hmirrored : cloud.Mirrored) {device : ℕ}
    (hidle : ∀ upload ∈ cloud.saves.outstanding, upload.2.device ≠ device)
    (halone : ∀ upload ∈ cloud.effected, upload.2.device = device → cloud.Alone upload) :
    cloud.LocalMatches device ↔
      ∀ upload ∈ cloud.effected, upload.2.device = device → upload.1 ∉ cloud.failed ∧
        ∀ object, (upload, object) ∈ cloud.copied → object = upload.2.row := by
  rw [localMatches_iff hsound hmirrored]
  constructor
  · rintro hkeys upload hupload rfl
    have hself := halone upload hupload rfl
    apply (copies_eq_of_alone hsound hupload hidle hself).mp
    rw [hkeys, ownRow_eq_some.mpr ⟨upload, latest_of_alone hupload hself, rfl, rfl⟩]
    rfl
  · intro hall key
    cases hrow : cloud.ownRow device key with
    | some row =>
      obtain ⟨upload, hlatest, rfl, rfl⟩ := ownRow_eq_some.mp hrow
      obtain ⟨hupload, rfl⟩ := mem_of_latest hlatest
      exact (copies_eq_of_alone hsound hupload hidle (halone upload hupload rfl)).mpr
        (hall upload hupload rfl)
    | none =>
      -- a success under the key would be a save of the device that took effect last
      rw [copies, Option.toList_none, List.map_eq_nil_iff, List.filter_eq_nil_iff]
      intro copy hcopy hown
      obtain ⟨hdevice, rfl⟩ := of_decide_eq_true hown
      have heffected := hsound.effected_of_confirmed _ (confirmed_of_copied hcopy)
      have hlatest := latest_of_alone heffected (halone _ heffected hdevice)
      have hsome := ownRow_eq_some.mpr ⟨copy.1, hlatest, hdevice, rfl⟩
      rw [hrow] at hsome
      cases hsome

/-- **The two stores.** The remote table has under each key the row that took effect last,
    so a trip that took effect is still there exactly if the save that took effect last
    under its key is one of its own.  The local store of a device agrees with the table
    exactly if, under each key, its successes found the one row that a save of the device
    wrote last, and nothing if there is no such row. -/
theorem stores_agree_iff {es : List CloudEvent} {cloud : Cloud}
    (h : (machine date).run {} es = .ok cloud) :
    (∀ key, cloud.table key = (cloud.latest key).map fun upload => upload.2.row) ∧
    (∀ upload ∈ cloud.effected, ∃ last ∈ cloud.effected,
      cloud.latest upload.2.row.key = some last ∧
      (cloud.keptRow upload.2.device upload.2.trip = some last.2.row ↔
        last.2.owner = upload.2.owner)) ∧
    (∀ device, cloud.LocalMatches device ↔
      ∀ key, cloud.copies device key = (cloud.ownRow device key).toList) ∧
    ∀ device, (∀ upload ∈ cloud.saves.outstanding, upload.2.device ≠ device) →
      (∀ upload ∈ cloud.effected, upload.2.device = device → cloud.Alone upload) →
      (cloud.LocalMatches device ↔
        ∀ upload ∈ cloud.effected, upload.2.device = device → upload.1 ∉ cloud.failed ∧
          ∀ object, (upload, object) ∈ cloud.copied → object = upload.2.row) := by
  obtain ⟨hsound, hmirrored⟩ := sound_of_run h
  refine ⟨table_eq_latest hsound, ?_, localMatches_iff hsound hmirrored, ?_⟩
  · intro upload hupload
    obtain ⟨last, hlast⟩ := exists_latest hupload
    obtain ⟨hmem, hkey⟩ := mem_of_latest hlast
    refine ⟨last, hmem, hlast, ?_⟩
    rw [keptRow_eq_some hsound hmirrored]
    rw [← hkey] at hlast
    constructor
    · rintro ⟨other, hother, howner, hrow⟩
      rw [hrow, hlast] at hother
      exact Option.some.inj hother ▸ howner
    · intro howner
      exact ⟨last, hlast, howner, rfl⟩
  · intro device hidle halone
    exact localMatches_of_alone hsound hmirrored hidle halone

/-- A device makes a trip from the given place, with the given id. -/
def samplePrepare (device : ℕ) (latitude : Double) (random : UInt32) : CloudEvent :=
  .prepare device { routePolygonValues := some [] }
    { currentLocation := some ⟨latitude, -77⟩, currentResult := some ⟨"Work", ⟨38, -77⟩⟩ }
    0 "" random

def samplePress (device : ℕ) : CloudEvent :=
  .requestButtonPressed device 0 "8:00 AM" "9:30 AM"

/-- Two devices upload, and both saves succeed. -/
def sampleUploads (latitude : Double) (random : UInt32) : List CloudEvent :=
  [samplePrepare 0 38 7, samplePrepare 1 latitude random, samplePress 0, samplePress 1,
   .tookEffect 1, .tookEffect 0, .saveReturned 0 false, .saveReturned 1 false]

/-- The first save of a device fails without effect, and Request is pressed again.  Two
    other devices draw one id in one cell. -/
def sampleRetry : List CloudEvent :=
  [samplePrepare 0 38 7, samplePrepare 1 39 8, samplePrepare 2 (39 + 1 / 1000) 8,
   samplePress 0, .saveReturned 0 true, samplePress 0, samplePress 1, samplePress 2,
   .tookEffect 2, .tookEffect 1, .tookEffect 3, .saveReturned 3 false, .saveReturned 1 false,
   .saveReturned 2 false]

theorem stores_agree_iff_sample :
    ∃ cloud, (machine ConfigureTripVC.sampleDate).run {} sampleRetry = .ok cloud ∧
      (cloud.keptRow 0 0).isSome ∧ cloud.LocalMatches 0 ∧ ¬ cloud.LocalMatches 1 := by
  obtain ⟨cloud, h, hidle, halone, hreported, htook, hcopies⟩ : ∃ cloud,
      (machine ConfigureTripVC.sampleDate).run {} sampleRetry = .ok cloud ∧
        (∀ upload ∈ cloud.saves.outstanding, upload.2.device ≠ 0) ∧
        (∀ upload ∈ cloud.effected, upload.2.device = 0 → cloud.Alone upload) ∧
        (∀ upload ∈ cloud.effected, upload.2.device = 0 → upload.1 ∉ cloud.failed ∧
          ∀ copy ∈ cloud.copied, copy.1 = upload → copy.2 = upload.2.row) ∧
        (∃ upload ∈ cloud.effected, upload.2.owner = (0, 0) ∧ cloud.Alone upload) ∧
        (∃ upload ∈ cloud.effected, upload.2.device = 1 ∧
          cloud.copies 1 upload.2.row.key ≠ (cloud.ownRow 1 upload.2.row.key).toList) :=
    Machine.exists_run_eq_ok _ (by decide +kernel)
  obtain ⟨_, hkept, hlocal, hidleLocal⟩ := stores_agree_iff h
  refine ⟨cloud, h, ?_, (hidleLocal 0 hidle halone).mpr ?_, ?_⟩
  · obtain ⟨upload, hupload, howner, hself⟩ := htook
    obtain ⟨last, hlast, hlatest, hiff⟩ := hkept upload hupload
    obtain ⟨hdevice, htrip⟩ := Prod.mk.inj howner
    have hsame := hself last hlast (mem_of_latest hlatest).2
    rw [hdevice, htrip] at hiff
    rw [hiff.mpr (hsame ▸ rfl)]
    rfl
  · intro upload hupload hdevice
    obtain ⟨hnot, hfound⟩ := hreported upload hupload hdevice
    exact ⟨hnot, fun object hobject => hfound _ hobject rfl⟩
  · obtain ⟨upload, _, _, hne⟩ := hcopies
    intro hmatches
    exact hne ((hlocal 1).mp hmatches _)

/-- Two trips from one cell get the same id: the second save to take effect
    overwrites the first.  A save that took effect reports an error: its trip is
    missing locally.  A second press on one screen: the trip is there twice. -/
theorem stores_disagree :
    (∃ cloud, (machine ConfigureTripVC.sampleDate).run {} (sampleUploads (38 + 1 / 1000) 7) =
        .ok cloud ∧
      cloud.saves.outstanding = [] ∧
      (∃ upload ∈ cloud.effected, cloud.table upload.2.row.key ≠ some upload.2.row ∧
        cloud.keptRow upload.2.device upload.2.trip = none) ∧
      ¬ cloud.LocalMatches 1) ∧
    (∃ cloud, (machine ConfigureTripVC.sampleDate).run {}
        [samplePrepare 0 38 7, samplePress 0, .tookEffect 0, .saveReturned 0 true] = .ok cloud ∧
      cloud.saves.outstanding = [] ∧ (cloud.keptRow 0 0).isSome ∧
      ¬ cloud.LocalMatches 0) ∧
    (∃ cloud, (machine ConfigureTripVC.sampleDate).run {}
        [samplePrepare 0 38 7, samplePress 0, samplePress 0, .tookEffect 0, .tookEffect 1,
         .saveReturned 0 false, .saveReturned 1 false] = .ok cloud ∧
      cloud.saves.outstanding = [] ∧ ¬ (cloud.devices 0).realmTrips.Nodup ∧
      ¬ cloud.LocalMatches 0) := by
  refine ⟨?_, ?_, ?_⟩
  · exact Machine.exists_run_eq_ok _ (by decide +kernel)
  · exact Machine.exists_run_eq_ok _ (by decide +kernel)
  · exact Machine.exists_run_eq_ok _ (by decide +kernel)

/-! ## Section 5: When all keys are distinct -/

/-- No two presses sent their rows under the same key. -/
def KeysDistinct (cloud : Cloud) : Prop :=
  (cloud.issued.map (fun upload => upload.2.row.key)).Nodup

/-- The row of the save is in the remote table as it was sent. -/
def Kept (cloud : Cloud) (upload : ℕ × Save) : Prop :=
  cloud.table upload.2.row.key = some upload.2.row

instance (cloud : Cloud) (upload : ℕ × Save) : Decidable (cloud.Kept upload) :=
  inferInstanceAs (Decidable (_ = _))

theorem alone_of_keys (hsound : cloud.Sound) (hkeys : cloud.KeysDistinct) {upload : ℕ × Save}
    (h : upload ∈ cloud.effected) : cloud.Alone upload := by
  intro other hother hkey
  exact List.inj_on_of_nodup_map hkeys (hsound.issued_of_effected other hother)
    (hsound.issued_of_effected upload h) hkey

theorem kept_of_effected (hsound : cloud.Sound) (hkeys : cloud.KeysDistinct)
    {upload : ℕ × Save} (h : upload ∈ cloud.effected) : cloud.Kept upload := by
  rw [Kept, table_eq_latest hsound, latest_of_alone h (alone_of_keys hsound hkeys h)]
  rfl

/-- Every success then found the object as it was sent. -/
theorem copied_eq_row (hsound : cloud.Sound) (hmirrored : cloud.Mirrored)
    (hkeys : cloud.KeysDistinct) {copy : (ℕ × Save) × Trips} (h : copy ∈ cloud.copied) :
    copy.2 = copy.1.2.row := by
  obtain ⟨sent, hsent, _, hkey, hrow⟩ := hmirrored.copied_sent copy h
  have hissued := hsound.issued_of_effected _
    (hsound.effected_of_confirmed _ (confirmed_of_copied h))
  rw [← hrow, List.inj_on_of_nodup_map hkeys hsent hissued hkey]

theorem realmTrips_eq_of_keys (hsound : cloud.Sound) (hmirrored : cloud.Mirrored)
    (hkeys : cloud.KeysDistinct) (device : ℕ) : (cloud.devices device).realmTrips =
      (cloud.confirmed.filter (fun upload => upload.2.device = device)).map
        (fun upload => RealmTrip.create upload.2.row) := by
  rw [hmirrored.realmTrips_eq, confirmed, List.filter_map, List.map_map, List.map_map]
  apply List.map_congr_left
  intro copy hcopy
  show RealmTrip.create copy.2 = RealmTrip.create copy.1.2.row
  rw [copied_eq_row hsound hmirrored hkeys (List.mem_of_mem_filter hcopy)]

/-- The stores of an idle device then agree exactly when none of its saves took effect and
    yet reported an error. -/
theorem localMatches_of_keys (hsound : cloud.Sound) (hmirrored : cloud.Mirrored)
    (hkeys : cloud.KeysDistinct) {device : ℕ}
    (hidle : ∀ upload ∈ cloud.saves.outstanding, upload.2.device ≠ device) :
    cloud.LocalMatches device ↔
      ∀ upload ∈ cloud.effected, upload.2.device = device → upload.1 ∉ cloud.failed := by
  rw [localMatches_of_alone hsound hmirrored hidle
    (fun upload hupload _ => alone_of_keys hsound hkeys hupload)]
  constructor
  · intro hall upload hupload hdevice
    exact (hall upload hupload hdevice).1
  · intro hnot upload hupload hdevice
    refine ⟨hnot upload hupload hdevice, ?_⟩
    intro object hobject
    exact copied_eq_row hsound hmirrored hkeys hobject

end Cloud

end RideHitch
