import RideHitch.DynamoDBInteractor

/-! # The times entered on ConfigureTripVC

    Both text fields of the screen take their input from one date picker, which
    writes into whichever field is first responder.  The texts are all that is
    kept of the times: the Request button parses them back.

    Section 1 is the entry, Section 2 says what a press after it uploads, and
    Section 3 is a formatter of the kind that Section 1 assumes. -/

namespace RideHitch

/-! ## Section 1: Model -/

/-- The minute of the day of a date, in a time zone. -/
def minuteOfDay (secondsFromGMT : ℤ) (date : NSDate) : ℕ :=
  (⌊(date + secondsFromGMT) / 60⌋ % 1440).toNat

/-- A `DateFormatter` with the format `h:mm a`.  A text that it wrote is read back
    as the same minute of `referenceDay`, and no other text is read. -/
structure DateFormatter where
  string : NSDate → String
  date : String → Option NSDate
  secondsFromGMT : NSDate → ℤ
  referenceDay : NSDate
  date_string : ∀ t, date (string t) =
    some (referenceDay + 60 * minuteOfDay (secondsFromGMT t) t)
  date_other : ∀ text, (∀ t, string t ≠ text) → date text = none
  string_ne_empty : ∀ t, string t ≠ ""

namespace DateFormatter

variable (dateFormatter : DateFormatter)

def minute (t : NSDate) : ℕ := minuteOfDay (dateFormatter.secondsFromGMT t) t

/-- The time of day of `t`, on the day that texts are read on. -/
def timeOfDay (t : NSDate) : NSDate := dateFormatter.referenceDay + 60 * dateFormatter.minute t

end DateFormatter

inductive TimeField where
  | depature
  | arrival
  deriving DecidableEq

/-- The two fields, the focus, and the date of the shared picker.  The last two
    fields are not in the source: the dates last written into the text fields. -/
structure TimeEntry where
  datePicker : NSDate
  depatureTimeTextField : String := ""
  arrivalTimeTextField : String := ""
  firstResponder : Option TimeField := none
  depatureTime : Option NSDate := none
  arrivalTime : Option NSDate := none

/-- What the user does before pressing Request.  `valueChanged` moves the picker. -/
inductive TimeEvent where
  | focus (field : Option TimeField)
  | valueChanged (date : NSDate)
  | doneButtonPressed

namespace TimeEntry

variable (dateFormatter : DateFormatter)

def updateTextField (entry : TimeEntry) : TimeEntry :=
  match entry.firstResponder with
  | some .depature =>
      { entry with
        depatureTimeTextField := dateFormatter.string entry.datePicker
        depatureTime := some entry.datePicker }
  | some .arrival =>
      { entry with
        arrivalTimeTextField := dateFormatter.string entry.datePicker
        arrivalTime := some entry.datePicker }
  | none => entry

def doneButtonPressed (entry : TimeEntry) : TimeEntry :=
  if entry.firstResponder = some .depature then
    { entry.updateTextField dateFormatter with firstResponder := some .arrival }
  else
    { entry.updateTextField dateFormatter with firstResponder := none }

def step (entry : TimeEntry) : TimeEvent → TimeEntry
  | .focus field => { entry with firstResponder := field }
  | .valueChanged date => updateTextField dateFormatter { entry with datePicker := date }
  | .doneButtonPressed => entry.doneButtonPressed dateFormatter

/-- The screen from its opening, at `now`. -/
def machine (now : NSDate) : Machine TimeEntry TimeEvent Trap where
  init := { datePicker := now }
  step := fun entry e => .ok (entry.step dateFormatter e)

/-- Request is pressed for a trip object of a device. -/
def requestButtonPressed (entry : TimeEntry) (cloud : Cloud) (device trip : ℕ) : Cloud :=
  cloud.step dateFormatter.date
    (.requestButtonPressed device trip entry.depatureTimeTextField entry.arrivalTimeTextField)

/-! ## Section 2: What a press uploads -/

/-- The texts are those of the dates last written, or empty. -/
structure TextsWritten (entry : TimeEntry) : Prop where
  depature : entry.depatureTimeTextField =
    (entry.depatureTime.map dateFormatter.string).getD ""
  arrival : entry.arrivalTimeTextField =
    (entry.arrivalTime.map dateFormatter.string).getD ""

variable {dateFormatter}

theorem textsWritten_init (now : NSDate) :
    TextsWritten dateFormatter { datePicker := now } where
  depature := rfl
  arrival := rfl

theorem textsWritten_updateTextField {entry : TimeEntry} (h : entry.TextsWritten dateFormatter) :
    (entry.updateTextField dateFormatter).TextsWritten dateFormatter := by
  unfold updateTextField
  split
  · exact ⟨rfl, h.arrival⟩
  · exact ⟨h.depature, rfl⟩
  · exact h

theorem textsWritten_step {entry : TimeEntry} (h : entry.TextsWritten dateFormatter)
    (e : TimeEvent) : (entry.step dateFormatter e).TextsWritten dateFormatter := by
  cases e with
  | focus field => exact ⟨h.depature, h.arrival⟩
  | valueChanged date => exact textsWritten_updateTextField ⟨h.depature, h.arrival⟩
  | doneButtonPressed =>
    have hupdated := textsWritten_updateTextField h
    unfold step doneButtonPressed
    -- moving the focus on writes nothing
    split_ifs
    · exact ⟨hupdated.depature, hupdated.arrival⟩
    · exact ⟨hupdated.depature, hupdated.arrival⟩

variable (dateFormatter) in
/-- A field is read as the time last written into it, an untouched one as nil. -/
theorem date_text (written : Option NSDate) :
    dateFormatter.date ((written.map dateFormatter.string).getD "") =
      written.map dateFormatter.timeOfDay := by
  cases written with
  | none => exact dateFormatter.date_other "" dateFormatter.string_ne_empty
  | some t => exact dateFormatter.date_string t

variable (dateFormatter) in
/-- What the press should do: nothing traps; with a field still empty the trip
    objects and both stores are left alone; with both times there, one save is issued,
    of the trip object with the two times, in order, and with the hash key of its
    origin; no other field of the object changes. -/
structure PressUploads (entry : TimeEntry) (cloud cloud' : Cloud) (device trip : ℕ) : Prop where
  running : (cloud'.devices device).running = true
  missing : entry.depatureTime = none ∨ entry.arrivalTime = none →
    (cloud'.devices device).trips = (cloud.devices device).trips ∧
    (cloud'.devices device).realmTrips = (cloud.devices device).realmTrips ∧
    cloud'.table = cloud.table ∧ cloud'.issued = cloud.issued
  entered : ∀ d a, entry.depatureTime = some d → entry.arrivalTime = some a →
    ∃ object geohash uploaded, (cloud.devices device).trips[trip]? = some object ∧
      Geohash.encode id object.originLatitude object.originLongitude 4 = .ok geohash ∧
      uploaded = { object with
        originDate := dateFormatter.timeOfDay d
        destinationDate := dateFormatter.timeOfDay a
        geohash := geohash } ∧
      cloud'.issued = cloud.issued ++ [(cloud.saves.issued, ⟨device, trip, uploaded⟩)] ∧
      (cloud'.devices device).trips[trip]? = some uploaded ∧
      uploaded.originDate ≤ uploaded.destinationDate

theorem timeOfDay_le_iff (d a : NSDate) :
    dateFormatter.timeOfDay d ≤ dateFormatter.timeOfDay a ↔
      dateFormatter.minute d ≤ dateFormatter.minute a := by
  unfold DateFormatter.timeOfDay
  constructor
  · intro h
    have hcast : (dateFormatter.minute d : Double) ≤ dateFormatter.minute a := by linarith
    exact_mod_cast hcast
  · intro h
    have hcast : (dateFormatter.minute d : Double) ≤ dateFormatter.minute a := by exact_mod_cast h
    linarith

section press

variable {cloud : Cloud} {device trip : ℕ} {object : Trips} {entry : TimeEntry}
  (hrunning : (cloud.devices device).running = true)
  (hobject : (cloud.devices device).trips[trip]? = some object)

include hrunning hobject

/-- A field that is not read as a time stops the app. -/
theorem requestButtonPressed_of_missing
    (hmissing : dateFormatter.date entry.depatureTimeTextField = none ∨
      dateFormatter.date entry.arrivalTimeTextField = none) :
    entry.requestButtonPressed dateFormatter cloud device trip = cloud.stop device := by
  have htrap : ∃ t, (ConfigureTripVC.mk (some object) entry.depatureTimeTextField
      entry.arrivalTimeTextField).requestButtonPressed dateFormatter.date = .error t := by
    unfold ConfigureTripVC.requestButtonPressed
    cases hdepature : dateFormatter.date entry.depatureTimeTextField with
    | none => exact ⟨_, rfl⟩
    | some d =>
      rw [hdepature] at hmissing
      have harrival := hmissing.resolve_left (by simp)
      simp only [harrival, unwrap_some, unwrap_none, ok_bind, error_bind]
      exact ⟨_, rfl⟩
  obtain ⟨t, ht⟩ := htrap
  simp only [requestButtonPressed, Cloud.step, hrunning, if_true, Cloud.requestButtonPressed,
    hobject, ht]

/-- Two times that are read are uploaded as they are, with the trip object. -/
theorem requestButtonPressed_of_dates {originDate destinationDate : NSDate}
    (hdepature : dateFormatter.date entry.depatureTimeTextField = some originDate)
    (harrival : dateFormatter.date entry.arrivalTimeTextField = some destinationDate) :
    ∃ geohash uploaded,
      Geohash.encode id object.originLatitude object.originLongitude 4 = .ok geohash ∧
      uploaded = { object with
        originDate := originDate
        destinationDate := destinationDate
        geohash := geohash } ∧
      Cloud.Pressed dateFormatter.date object uploaded ∧
      entry.requestButtonPressed dateFormatter cloud device trip =
        (cloud.setDevice device
          { cloud.devices device with
            trips := (cloud.devices device).trips.set trip uploaded }).uploadTrip
          ⟨device, trip, uploaded⟩ := by
  obtain ⟨geohash, hgeohash⟩ :
      ∃ geohash, Geohash.encode id object.originLatitude object.originLongitude 4 = .ok geohash :=
    ⟨_, Geohash.encode_eq id _ _ 4⟩
  have hpressed : (ConfigureTripVC.mk (some object) entry.depatureTimeTextField
      entry.arrivalTimeTextField).requestButtonPressed dateFormatter.date = .ok { object with
        originDate := originDate
        destinationDate := destinationDate
        geohash := geohash } := by
    simp only [ConfigureTripVC.requestButtonPressed, hdepature, harrival, unwrap_some, ok_bind,
      hgeohash]
    rfl
  refine ⟨geohash, _, hgeohash, rfl, ⟨_, _, hpressed⟩, ?_⟩
  simp only [requestButtonPressed, Cloud.step, hrunning, if_true, Cloud.requestButtonPressed,
    hobject, hpressed]

/-- One press, by what was written into the fields before. -/
theorem pressUploads_iff (htexts : entry.TextsWritten dateFormatter) :
    entry.PressUploads dateFormatter cloud
        (entry.requestButtonPressed dateFormatter cloud device trip) device trip ↔
      ∃ d a, entry.depatureTime = some d ∧ entry.arrivalTime = some a ∧
        dateFormatter.minute d ≤ dateFormatter.minute a := by
  have hdepature := date_text dateFormatter entry.depatureTime
  have harrival := date_text dateFormatter entry.arrivalTime
  rw [← htexts.depature] at hdepature
  rw [← htexts.arrival] at harrival
  constructor
  · intro h
    by_cases hmissing : entry.depatureTime = none ∨ entry.arrivalTime = none
    · -- the device was stopped
      have hstop : entry.requestButtonPressed dateFormatter cloud device trip =
          cloud.stop device := by
        apply requestButtonPressed_of_missing hrunning hobject
        rw [hdepature, harrival]
        simpa using hmissing
      have hrun := h.running
      simp [hstop, Cloud.stop, Cloud.setDevice] at hrun
    · push Not at hmissing
      obtain ⟨d, hd⟩ := Option.ne_none_iff_exists'.mp hmissing.1
      obtain ⟨a, ha⟩ := Option.ne_none_iff_exists'.mp hmissing.2
      obtain ⟨_, _, uploaded, _, _, rfl, _, _, hle⟩ := h.entered d a hd ha
      exact ⟨d, a, hd, ha, (timeOfDay_le_iff d a).mp hle⟩
  · intro hwritten
    obtain ⟨d, a, hd, ha, hle⟩ := hwritten
    rw [hd] at hdepature
    rw [ha] at harrival
    obtain ⟨geohash, uploaded, hgeohash, huploaded, _, hcloud⟩ :=
      requestButtonPressed_of_dates hrunning hobject hdepature harrival
    rw [hcloud]
    constructor
    · simp [Cloud.uploadTrip, Cloud.setDevice, hrunning]
    · simp [hd, ha]
    · intro d' a' hd' ha'
      obtain rfl := Option.some.inj (hd'.symm.trans hd)
      obtain rfl := Option.some.inj (ha'.symm.trans ha)
      refine ⟨object, geohash, uploaded, hobject, hgeohash, huploaded, rfl, ?_, ?_⟩
      · have hlt := (List.getElem?_eq_some_iff.mp hobject).1
        simpa [Cloud.uploadTrip, Cloud.setDevice] using List.getElem?_set_self hlt
      · rw [huploaded]
        exact (timeOfDay_le_iff d' a').mpr hle

/-- **Uploaded times.** After any entry, a press uploads the trip with the times last
    written, in order, exactly if both fields were written and the departure is not
    later in the day than the arrival. -/
theorem press_uploads_iff (now : NSDate) (events : List TimeEvent) :
    ∃ entry, (machine dateFormatter now).run { datePicker := now } events = .ok entry ∧
      (entry.PressUploads dateFormatter cloud
          (entry.requestButtonPressed dateFormatter cloud device trip) device trip ↔
        ∃ d a, entry.depatureTime = some d ∧ entry.arrivalTime = some a ∧
          dateFormatter.minute d ≤ dateFormatter.minute a) := by
  have hevents : ∀ e ∈ events, True := by simp
  obtain ⟨entry, hrun⟩ := Machine.exists_run (M := machine dateFormatter now)
    (fun entry e _ => ⟨entry.step dateFormatter e, rfl⟩) { datePicker := now } hevents
  refine ⟨entry, hrun, pressUploads_iff hrunning hobject ?_⟩
  have hstep : ∀ entry e entry', entry.TextsWritten dateFormatter →
      (machine dateFormatter now).step entry e = .ok entry' →
      entry'.TextsWritten dateFormatter := by
    intro entry e entry' htexts h
    obtain rfl := Except.ok.inj h
    exact textsWritten_step htexts e
  exact Machine.run_preserves hstep (textsWritten_init now) hrun

end press

/-! ## Section 3: A formatter -/

/-- The hour on a clock of twelve hours. -/
def clockHour (m : ℕ) : ℕ := if m / 60 % 12 = 0 then 12 else m / 60 % 12

/-- The characters of a minute of the day in the format `h:mm a`. -/
def timeChars (m : ℕ) : List Char :=
  Nat.toDigits 10 (clockHour m) ++
    [':', Nat.digitChar (m % 60 / 10), Nat.digitChar (m % 10), ' ',
      if m < 720 then 'A' else 'P', 'M']

def digitValue (c : Char) : ℕ := c.toNat - '0'.toNat

/-- The value of digits given from the right. -/
def digitsValue (digits : List Char) : ℕ := digits.foldr (fun c n => digitValue c + 10 * n) 0

/-- Read from the right, since the hour has one digit or two. -/
def minuteOfChars (text : List Char) : ℕ :=
  match text.reverse with
  | _ :: half :: _ :: ones :: tens :: _ :: hour =>
      (if half = 'A' then 0 else 720) + 60 * (digitsValue hour % 12) +
        10 * digitValue tens + digitValue ones
  | _ => 0

theorem digitValue_digitChar : ∀ d < 10, digitValue (Nat.digitChar d) = d := by decide

theorem digitsValue_toDigits : ∀ h < 13, digitsValue (Nat.toDigits 10 h).reverse = h := by decide

/-- What was written is read back. -/
theorem minuteOfChars_timeChars {m : ℕ} (hm : m < 1440) : minuteOfChars (timeChars m) = m := by
  have hhour : clockHour m < 13 ∧ clockHour m % 12 = m / 60 % 12 := by
    unfold clockHour
    split_ifs with hzero
    · omega
    · omega
  have hreverse : (timeChars m).reverse =
      'M' :: (if m < 720 then 'A' else 'P') :: ' ' :: Nat.digitChar (m % 10) ::
        Nat.digitChar (m % 60 / 10) :: ':' :: (Nat.toDigits 10 (clockHour m)).reverse := by
    simp [timeChars]
  have hhalf : (if (if m < 720 then 'A' else 'P') = 'A' then 0 else 720) = m / 720 * 720 := by
    by_cases hmorning : m < 720
    · simp only [hmorning, if_true]
      omega
    · simp only [hmorning, if_false]
      show 720 = m / 720 * 720
      omega
  unfold minuteOfChars
  rw [hreverse]
  show (if (if m < 720 then 'A' else 'P') = 'A' then 0 else 720) +
    60 * (digitsValue (Nat.toDigits 10 (clockHour m)).reverse % 12) +
    10 * digitValue (Nat.digitChar (m % 60 / 10)) + digitValue (Nat.digitChar (m % 10)) = m
  rw [hhalf, digitsValue_toDigits _ hhour.1, hhour.2, digitValue_digitChar _ (by omega),
    digitValue_digitChar _ (by omega)]
  omega

theorem minuteOfDay_lt (secondsFromGMT : ℤ) (t : NSDate) : minuteOfDay secondsFromGMT t < 1440 := by
  unfold minuteOfDay
  omega

theorem minuteOfDay_zero (m : ℕ) (h : m < 1440) : minuteOfDay 0 (60 * m) = m := by
  have hfloor : ⌊((60 : NSDate) * m + (0 : ℤ)) / 60⌋ = (m : ℤ) := by
    have hdiv : ((60 : NSDate) * m + (0 : ℤ)) / 60 = m := by
      push_cast
      ring
    rw [hdiv]
    exact Int.floor_natCast m
  unfold minuteOfDay
  rw [hfloor]
  omega

/-- A formatter at Greenwich, which reads texts on the first day of 2000. -/
def greenwich : DateFormatter where
  string t := String.ofList (timeChars (minuteOfDay 0 t))
  date text :=
    if minuteOfChars text.toList < 1440 ∧ timeChars (minuteOfChars text.toList) = text.toList then
      some (946684800 + 60 * minuteOfChars text.toList)
    else none
  secondsFromGMT _ := 0
  referenceDay := 946684800
  date_string := by
    intro t
    have hlt := minuteOfDay_lt 0 t
    simp only [String.toList_ofList, minuteOfChars_timeChars hlt]
    exact if_pos ⟨hlt, trivial⟩
  date_other := by
    intro text hother
    apply if_neg
    intro hread
    obtain ⟨hlt, hchars⟩ := hread
    -- a text that is read is the one written for its minute
    apply hother (60 * minuteOfChars text.toList)
    rw [minuteOfDay_zero _ hlt, hchars, String.ofList_toList]
  string_ne_empty := by
    intro t h
    have hchars : timeChars (minuteOfDay 0 t) = [] := by
      simpa using congrArg String.toList h
    simp [timeChars] at hchars

/-- A device with one trip object. -/
def oneTrip : Cloud := Cloud.prepare {} 0 (.ok {})

/-- Eight in the morning and half past nine, entered with the Next button. -/
def morningRide : List TimeEvent :=
  [.focus (some .depature), .valueChanged 28800, .doneButtonPressed, .valueChanged 34200,
   .doneButtonPressed]

theorem press_uploads_iff_morningRide :
    ∃ entry, (machine greenwich 0).run { datePicker := 0 } morningRide = .ok entry ∧
      (entry.PressUploads greenwich oneTrip
          (entry.requestButtonPressed greenwich oneTrip 0 0) 0 0 ↔
        ∃ d a, entry.depatureTime = some d ∧ entry.arrivalTime = some a ∧
          greenwich.minute d ≤ greenwich.minute a) :=
  have hobject : (oneTrip.devices 0).trips[0]? = some ({} : Trips) := rfl
  press_uploads_iff rfl hobject 0 morningRide

/-- Request is pressed before an arrival time was entered. -/
def arrivalMissing : List TimeEvent := [.focus (some .depature), .valueChanged 28800]

/-- From half past eleven in the evening to a quarter past midnight. -/
def pastMidnight : List TimeEvent :=
  [.focus (some .depature), .valueChanged 84600, .doneButtonPressed, .valueChanged 900,
   .doneButtonPressed]

/-- The first press stops the app, the second uploads an arrival before the departure. -/
theorem missing_and_late_press :
    (∃ entry, (machine greenwich 0).run { datePicker := 0 } arrivalMissing = .ok entry ∧
      ((entry.requestButtonPressed greenwich oneTrip 0 0).devices 0).running = false ∧
      ¬ entry.PressUploads greenwich oneTrip
        (entry.requestButtonPressed greenwich oneTrip 0 0) 0 0) ∧
    ∃ entry, (machine greenwich 0).run { datePicker := 0 } pastMidnight = .ok entry ∧
      (∃ upload ∈ (entry.requestButtonPressed greenwich oneTrip 0 0).issued,
        upload.2.row.destinationDate < upload.2.row.originDate) ∧
      ¬ entry.PressUploads greenwich oneTrip
        (entry.requestButtonPressed greenwich oneTrip 0 0) 0 0 := by
  constructor
  · have hevaluated : ∃ entry,
        (machine greenwich 0).run { datePicker := 0 } arrivalMissing = .ok entry ∧
        ((entry.requestButtonPressed greenwich oneTrip 0 0).devices 0).running = false :=
      Machine.exists_run_eq_ok _ (by decide +kernel)
    obtain ⟨entry, hrun, hstopped⟩ := hevaluated
    refine ⟨entry, hrun, hstopped, ?_⟩
    intro h
    have hrunning := h.running
    rw [hstopped] at hrunning
    cases hrunning
  · have hevaluated : ∃ entry,
        (machine greenwich 0).run { datePicker := 0 } pastMidnight = .ok entry ∧
        (∃ upload ∈ (entry.requestButtonPressed greenwich oneTrip 0 0).issued,
          upload.2.row.destinationDate < upload.2.row.originDate) ∧
        entry.depatureTime = some 84600 ∧ entry.arrivalTime = some 900 :=
      Machine.exists_run_eq_ok _ (by decide +kernel)
    obtain ⟨entry, hrun, ⟨upload, hupload, hlt⟩, hdepature, harrival⟩ := hevaluated
    refine ⟨entry, hrun, ⟨upload, hupload, hlt⟩, ?_⟩
    intro h
    obtain ⟨_, _, uploaded, _, _, _, hissued, _, hle⟩ := h.entered 84600 900 hdepature harrival
    -- it is the only save that was issued
    rw [hissued] at hupload
    obtain rfl := List.mem_singleton.mp hupload
    exact absurd hle (not_le.mpr hlt)

end TimeEntry

end RideHitch
