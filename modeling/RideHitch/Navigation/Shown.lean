import RideHitch.Navigation.Opened

/-! # What shows

    The stack of a device is always one of the five that the storyboard allows, and
    the add-trip screen that hears of new routes is the one that shows.

    Section 1 has the invariant of a device, Section 2 follows it through the
    handlers, Section 3 through the runs.  Section 4 is about what a user takes back:
    a swipe that is not finished, and a visit to the other tab. -/

namespace RideHitch

variable {describe : Double → String} {realm : DateSort} {dateFormatter : DateFormatter}
  {jsonObject : String → Option Json} {double : String → Option Double}

/-! ## Section 1: The invariant of a device -/

/-- The stacks that the storyboard allows. -/
inductive Opened.Shape (o : Opened) : List UIViewController → Prop where
  | list : Shape o [.tripsViewController]
  | addTrip {i} (hi : i < o.observing.length) :
      Shape o [.tripsViewController, .addTripWithMapVC i]
  | configure {i trip} (hi : i < o.observing.length) (htrip : trip < o.trips) :
      Shape o [.tripsViewController, .addTripWithMapVC i, .configureTripVC trip]
  | results {i} (hi : i < o.accepts.length) :
      Shape o [.tripsViewController, .resultsMapVC i]
  | accept {i count opened} (hi : o.accepts[i]? = some count) (hopened : opened < count) :
      Shape o [.tripsViewController, .resultsMapVC i, .acceptMatchVC i opened]

/-- The add-trip screens that observe are those that show: one or none. -/
def Opened.Observes (o : Opened) (shown : Option UIViewController) : Prop :=
  ∀ (i : ℕ) (b : Bool), o.observing[i]? = some b → (b = true ↔ shown = some (.addTripWithMapVC i))

structure Opened.Stacked (o : Opened) (phone : Phone) : Prop where
  shape : o.Shape phone.navigation.viewControllers
  observes : o.Observes phone.shown

namespace Opened

/-- Nothing that was opened goes away. -/
structure Grows (o o' : Opened) : Prop where
  observing : o.observing.length ≤ o'.observing.length
  trips : o.trips ≤ o'.trips
  accepts : ∀ (i count : ℕ), o.accepts[i]? = some count →
    ∃ count', o'.accepts[i]? = some count' ∧ count ≤ count'

theorem Grows.refl (o : Opened) : Grows o o where
  observing := Nat.le_refl _
  trips := Nat.le_refl _
  accepts := fun _ count hi => ⟨count, hi, Nat.le_refl _⟩

theorem Grows.accepts_length {o o' : Opened} (h : Grows o o') :
    o.accepts.length ≤ o'.accepts.length := by
  by_contra hlt
  -- the last one that was there would be gone
  have hlast : o'.accepts.length < o.accepts.length := by omega
  obtain ⟨count, hcount, _⟩ := h.accepts _ _ (List.getElem?_eq_getElem hlast)
  simp at hcount

theorem Shape.grows {o o' : Opened} {viewControllers : List UIViewController}
    (h : o.Shape viewControllers) (hgrows : Grows o o') : o'.Shape viewControllers := by
  have hobserving := hgrows.observing
  have htrips := hgrows.trips
  have haccepts := hgrows.accepts_length
  cases h with
  | list => exact .list
  | addTrip hi => exact .addTrip (by omega)
  | configure hi htrip => exact .configure (by omega) (by omega)
  | results hi => exact .results (by omega)
  | accept hi hopened =>
    obtain ⟨count', hi', hle⟩ := hgrows.accepts _ _ hi
    exact .accept hi' (by omega)

theorem grows_of_opens {device : ℕ} {o o' : Opened} {e : FleetEvent}
    {pushes : List UIViewController} (h : Fleet.Opens device o e o' pushes) : Grows o o' := by
  cases h with
  | kept => exact .refl o
  | built => exact ⟨Nat.le_refl _, Nat.le_succ _, (Grows.refl o).accepts⟩
  | ridden => exact ⟨by simp, Nat.le_refl _, (Grows.refl o).accepts⟩
  | matched =>
    refine ⟨Nat.le_refl _, Nat.le_refl _, ?_⟩
    intro i count hi
    refine ⟨count, ?_, Nat.le_refl _⟩
    rw [List.getElem?_append_left (List.getElem?_eq_some_iff.mp hi).1]
    exact hi
  | @accepted i k hi =>
    refine ⟨Nat.le_refl _, Nat.le_refl _, ?_⟩
    intro j count hj
    have hlt := (List.getElem?_eq_some_iff.mp hi).1
    by_cases hij : i = j
    · subst hij
      obtain rfl := Option.some.inj (hi.symm.trans hj)
      exact ⟨k + 1, List.getElem?_set_self hlt, Nat.le_succ k⟩
    · exact ⟨count, (List.getElem?_set_ne hij).trans hj, Nat.le_refl _⟩

/-- **The segues** lead from one allowed stack to another: the controller that was
    touched is on top. -/
theorem Shape.push {device : ℕ} {o o' : Opened} {e : FleetEvent}
    {viewControllers pushes : List UIViewController} (h : o.Shape viewControllers)
    (hopens : Fleet.Opens device o e o' pushes)
    (htouched : ∀ vc, e.touched = some vc → viewControllers.getLast? = some vc) :
    o'.Shape (viewControllers ++ pushes) := by
  have hgrown := h.grows (grows_of_opens hopens)
  cases hopens with
  | kept =>
    rw [List.append_nil]
    exact hgrown
  | @built i _ _ _ =>
    have htop := htouched (.addTripWithMapVC i) rfl
    cases h with
    | addTrip hi => exact .configure hi (Nat.lt_succ_self _)
    | _ => simp at htop
  | ridden =>
    have htop := htouched .tripsViewController rfl
    cases h with
    | list => exact .addTrip (by simp)
    | _ => simp at htop
  | matched =>
    have htop := htouched .tripsViewController rfl
    cases h with
    | list => exact .results (by simp)
    | _ => simp at htop
  | @accepted i k hi =>
    have htop := htouched (.resultsMapVC i) rfl
    cases h with
    | @results j _ =>
      obtain rfl : j = i := by simpa using htop
      exact .accept (List.getElem?_set_self (List.getElem?_eq_some_iff.mp hi).1)
        (Nat.lt_succ_self k)
    | _ => simp at htop

theorem Shape.pop {o : Opened} {nav : UINavigationController} (h : o.Shape nav.viewControllers) :
    o.Shape nav.popViewController.viewControllers := by
  obtain ⟨viewControllers⟩ := nav
  cases h with
  | list => exact .list
  | addTrip _ => exact .list
  | configure hi _ => exact .addTrip hi
  | results _ => exact .list
  | accept hi _ => exact .results (List.getElem?_eq_some_iff.mp hi).1

theorem Shape.popToRoot {o : Opened} {nav : UINavigationController}
    (h : o.Shape nav.viewControllers) : o.Shape nav.popToRootViewController.viewControllers := by
  obtain ⟨viewControllers⟩ := nav
  cases h with
  | _ => exact .list

/-- The loop finds the list once, at the root, and raises no exception. -/
theorem Shape.popToTrips {o : Opened} {nav : UINavigationController}
    (h : o.Shape nav.viewControllers) : nav.popToTrips = .ok {} := by
  obtain ⟨viewControllers⟩ := nav
  cases h with
  | _ => rfl

/-- What is left when a controller has been told that it appears or disappears. -/
def told (o : Opened) (appears : Bool) : Option UIViewController → Opened
  | some (.addTripWithMapVC i) => { o with observing := o.observing.set i appears }
  | _ => o

theorem told_observing (o : Opened) (appears : Bool) (vc : Option UIViewController) (i : ℕ) :
    (o.told appears vc).observing[i]? =
      if vc = some (.addTripWithMapVC i) then o.observing[i]?.map (fun _ => appears)
      else o.observing[i]? := by
  unfold told
  split
  next j =>
    by_cases hij : j = i
    · subst hij
      rw [if_pos rfl]
      exact List.getElem?_set_self'
    · rw [if_neg (by simpa using hij)]
      exact List.getElem?_set_ne hij
  next hother => rw [if_neg (hother i)]

theorem grows_told (o : Opened) (appears : Bool) (vc : Option UIViewController) :
    Grows o (o.told appears vc) := by
  unfold told
  split
  · exact ⟨by simp, Nat.le_refl _, (Grows.refl o).accepts⟩
  · exact .refl o

/-- Telling the one that goes and the one that comes keeps the observers right. -/
theorem Observes.told {o : Opened} {before after : Option UIViewController}
    (h : o.Observes before) :
    ((o.told false before).told true after).Observes after := by
  intro i b hi
  rw [told_observing, told_observing] at hi
  by_cases hafter : after = some (.addTripWithMapVC i)
  · rw [if_pos hafter] at hi
    obtain ⟨_, _, rfl⟩ := Option.map_eq_some_iff.mp hi
    simp [hafter]
  · rw [if_neg hafter] at hi
    by_cases hbefore : before = some (.addTripWithMapVC i)
    · rw [if_pos hbefore] at hi
      obtain ⟨_, _, rfl⟩ := Option.map_eq_some_iff.mp hi
      simp [hafter]
    · rw [if_neg hbefore] at hi
      -- it did not show before and does not show now
      have hb := h i b hi
      simp only [hbefore, iff_false] at hb
      simp only [hafter, iff_false]
      exact hb

/-- A screen that has just been loaded does not observe, and does not show yet. -/
theorem Observes.opens {device : ℕ} {o o' : Opened} {e : FleetEvent}
    {pushes : List UIViewController} {shown : Option UIViewController} (h : o.Observes shown)
    (hshown : ∀ i, shown = some (.addTripWithMapVC i) → i < o.observing.length)
    (hopens : Fleet.Opens device o e o' pushes) : o'.Observes shown := by
  cases hopens with
  | kept => exact h
  | built => exact h
  | ridden =>
    intro i b hi
    by_cases hlt : i < o.observing.length
    · rw [List.getElem?_append_left hlt] at hi
      exact h i b hi
    · rw [List.getElem?_append_right (by omega), List.getElem?_singleton] at hi
      split_ifs at hi
      obtain rfl := Option.some.inj hi
      have hhidden : shown ≠ some (.addTripWithMapVC i) := by
        intro hsome
        exact hlt (hshown i hsome)
      simp [hhidden]
  | matched => exact h
  | accepted _ => exact h

end Opened

/-! ## Section 2: The handlers -/

namespace Fleet

theorem SameOn.refl (device : ℕ) (fleet : Fleet) : SameOn device fleet fleet := ⟨rfl, rfl⟩

theorem SameOn.trans {device : ℕ} {fleet fleet' fleet'' : Fleet}
    (h : SameOn device fleet fleet') (h' : SameOn device fleet' fleet'') :
    SameOn device fleet fleet'' where
  running := h'.running.trans h.running
  opened := h'.opened.trans h.opened

end Fleet

namespace Navigation

/-- What an event changes at most: the fleet by its calls, the phone of its device. -/
structure Confined (describe : Double → String) (realm : DateSort) (date : String → Option NSDate)
    (jsonObject : String → Option Json) (double : String → Option Double)
    (device : Option ℕ) (nav nav' : Navigation) : Prop where
  reachable : (Fleet.machine describe realm date jsonObject double).Reachable nav.fleet →
    (Fleet.machine describe realm date jsonObject double).Reachable nav'.fleet
  running : ∀ d, nav'.running d = true → nav.running d = true
  phones : ∀ d, device ≠ some d → nav'.phones d = nav.phones d
  same : ∀ d, device ≠ some d → Fleet.SameOn d nav.fleet nav'.fleet
  trips : ∀ d, nav.fleet.tripCount d ≤ nav'.fleet.tripCount d

theorem Confined.refl (device : Option ℕ) (nav : Navigation) :
    Confined describe realm dateFormatter.date jsonObject double device nav nav where
  reachable := id
  running := fun _ h => h
  phones := fun _ _ => rfl
  same := fun d _ => .refl d nav.fleet
  trips := fun _ => Nat.le_refl _

theorem Confined.trans {device : Option ℕ} {nav nav' nav'' : Navigation}
    (h : Confined describe realm dateFormatter.date jsonObject double device nav nav')
    (h' : Confined describe realm dateFormatter.date jsonObject double device nav' nav'') :
    Confined describe realm dateFormatter.date jsonObject double device nav nav'' where
  reachable := fun hfleet => h'.reachable (h.reachable hfleet)
  running := fun d hrunning => h.running d (h'.running d hrunning)
  phones := fun d hd => (h'.phones d hd).trans (h.phones d hd)
  same := fun d hd => (h.same d hd).trans (h'.same d hd)
  trips := fun d => (h.trips d).trans (h'.trips d)

theorem confined_calls {device : Option ℕ} (nav : Navigation) {es : List FleetEvent}
    (hes : ∀ e ∈ es, e.device = device) :
    Confined describe realm dateFormatter.date jsonObject double device nav
      (nav.calls describe realm dateFormatter jsonObject double es) := by
  induction es generalizing nav with
  | nil => exact .refl device nav
  | cons e es ih =>
    obtain ⟨he, hrest⟩ := List.forall_mem_cons.mp hes
    apply Confined.trans ?_ (ih { nav with
      fleet := nav.fleet.step describe realm dateFormatter.date jsonObject double e } hrest)
    refine ⟨fun h => h.step rfl, fun d h => Fleet.running_of_step h, fun _ _ => rfl, ?_,
      Fleet.tripCount_le_of_step _ e⟩
    intro d hd
    apply Fleet.sameOn_of_step
    rintro d' hd' rfl
    exact hd (he.symm.trans hd')

theorem mem_appearances {device : ℕ} {before after : Option UIViewController}
    {e : FleetEvent} (he : e ∈ UIViewController.appearances device before after) :
    ∃ i appears, e = .app device (.screen i (.appearance appears)) := by
  have hone : ∀ vc : UIViewController,
      (∀ e ∈ vc.viewWillAppear device, ∃ i, e = .app device (.screen i (.appearance true))) ∧
      ∀ e ∈ vc.viewWillDisappear device,
        ∃ i, e = .app device (.screen i (.appearance false)) := by
    intro vc
    cases vc with
    | addTripWithMapVC i =>
      constructor
      · intro e he
        exact ⟨i, List.mem_singleton.mp he⟩
      · intro e he
        exact ⟨i, List.mem_singleton.mp he⟩
    | _ => simp [UIViewController.viewWillAppear, UIViewController.viewWillDisappear]
  unfold UIViewController.appearances at he
  split_ifs at he
  · cases he
  · rcases List.mem_append.mp he with he | he
    · cases before with
      | none => cases he
      | some vc =>
        obtain ⟨i, heq⟩ := (hone vc).2 e he
        exact ⟨i, false, heq⟩
    · cases after with
      | none => cases he
      | some vc =>
        obtain ⟨i, heq⟩ := (hone vc).1 e he
        exact ⟨i, true, heq⟩

theorem confined_setPhone (nav : Navigation) (device : ℕ) (phone : Phone) :
    Confined describe realm dateFormatter.date jsonObject double (some device) nav
      (nav.setPhone describe realm dateFormatter jsonObject double device phone) := by
  have hcalls : Confined describe realm dateFormatter.date jsonObject double (some device) nav
      (nav.calls describe realm dateFormatter jsonObject double
        (UIViewController.appearances device (nav.phones device).shown phone.shown)) := by
    apply confined_calls
    intro e he
    obtain ⟨i, appears, rfl⟩ := mem_appearances he
    rfl
  refine ⟨hcalls.reachable, hcalls.running, ?_, hcalls.same, hcalls.trips⟩
  intro d hd
  apply Function.update_of_ne
  rintro rfl
  exact hd rfl

theorem confined_push (nav : Navigation) (device : ℕ) (now : NSDate) (vc : UIViewController) :
    Confined describe realm dateFormatter.date jsonObject double (some device) nav
      (nav.push describe realm dateFormatter jsonObject double device now vc) := by
  refine Confined.trans (confined_calls nav ?_) (confined_setPhone _ device _)
  intro e he
  cases vc with
  | resultsMapVC i =>
    rw [List.mem_singleton.mp he]
    rfl
  | _ => cases he

theorem confined_call (nav : Navigation) {device : ℕ} (now : NSDate) {e : FleetEvent}
    (he : e.device = some device) :
    Confined describe realm dateFormatter.date jsonObject double (some device) nav
      (nav.call describe realm dateFormatter jsonObject double device now e) := by
  have hcalls : Confined describe realm dateFormatter.date jsonObject double (some device) nav
      (nav.calls describe realm dateFormatter jsonObject double [e]) :=
    confined_calls nav (by simpa using he)
  unfold call
  apply List.foldlRecOn (motive := fun nav' : Navigation =>
    Confined describe realm dateFormatter.date jsonObject double (some device) nav nav') _ _ hcalls
  intro nav' hnav' vc _
  exact hnav'.trans (confined_push nav' device now vc)

/-- The invariant of a device, as long as it runs. -/
def StackInv (nav : Navigation) (device : ℕ) : Prop :=
  nav.running device = true → (nav.fleet.opened device).Stacked (nav.phones device)

section appearances

variable {nav : Navigation} {device : ℕ} (hrunning : nav.running device = true)

include hrunning

variable (describe realm dateFormatter jsonObject double) in
theorem opened_show (vc : Option UIViewController) :
    (nav.calls describe realm dateFormatter jsonObject double
      (vc.elim [] (UIViewController.viewWillAppear device))).fleet.opened device =
      (nav.fleet.opened device).told true vc := by
  cases vc with
  | none => rfl
  | some vc =>
    cases vc with
    | addTripWithMapVC i =>
      exact (Fleet.step_appearance describe realm dateFormatter jsonObject double hrunning i
        true).2
    | _ => rfl

variable (describe realm dateFormatter jsonObject double) in
theorem opened_hide (vc : Option UIViewController) :
    (nav.calls describe realm dateFormatter jsonObject double
      (vc.elim [] (UIViewController.viewWillDisappear device))).running device = true ∧
    (nav.calls describe realm dateFormatter jsonObject double
      (vc.elim [] (UIViewController.viewWillDisappear device))).fleet.opened device =
      (nav.fleet.opened device).told false vc := by
  cases vc with
  | none => exact ⟨hrunning, rfl⟩
  | some vc =>
    cases vc with
    | addTripWithMapVC i =>
      obtain ⟨hcloud, hopened⟩ :=
        Fleet.step_appearance describe realm dateFormatter jsonObject double hrunning i false
      refine ⟨?_, hopened⟩
      rw [← hrunning]
      exact congrArg (fun cloud : Cloud => (cloud.devices device).running) hcloud
    | _ => exact ⟨hrunning, rfl⟩

end appearances

theorem calls_append (nav : Navigation) (es es' : List FleetEvent) :
    nav.calls describe realm dateFormatter jsonObject double (es ++ es') =
      (nav.calls describe realm dateFormatter jsonObject double es).calls describe realm
        dateFormatter jsonObject double es' := by
  simp only [calls, List.foldl_append]

/-- **The observers** follow what shows, however it changes. -/
theorem stacked_setPhone {nav : Navigation} {device : ℕ} (hrunning : nav.running device = true)
    (hobserves : (nav.fleet.opened device).Observes (nav.phones device).shown) {phone : Phone}
    (hshape : (nav.fleet.opened device).Shape phone.navigation.viewControllers) :
    let nav' := nav.setPhone describe realm dateFormatter jsonObject double device phone
    (nav'.fleet.opened device).Stacked (nav'.phones device) := by
  intro nav'
  have hphone : nav'.phones device = phone := Function.update_self ..
  rw [hphone]
  show Opened.Stacked ((nav.calls describe realm dateFormatter jsonObject double
    (UIViewController.appearances device (nav.phones device).shown phone.shown)).fleet.opened
      device) phone
  unfold UIViewController.appearances
  split_ifs with hshown
  · exact ⟨hshape, hshown ▸ hobserves⟩
  · obtain ⟨hstill, hhidden⟩ := opened_hide describe realm dateFormatter jsonObject double
      hrunning (nav.phones device).shown
    rw [calls_append, opened_show describe realm dateFormatter jsonObject double hstill, hhidden]
    exact ⟨(hshape.grows (Opened.grows_told ..)).grows (Opened.grows_told ..), hobserves.told⟩

variable {nav : Navigation} {device : ℕ}

theorem load_navigation (phone : Phone) (now : NSDate) (vc : UIViewController) :
    (load phone now vc).navigation = phone.navigation := by
  cases vc with
  | _ => rfl

variable (device) in
/-- A controller that is loaded opens nothing else. -/
theorem opened_viewDidLoad
    (hreach : (Fleet.machine describe realm dateFormatter.date jsonObject double).Reachable
      nav.fleet) (vc : UIViewController) :
    (nav.calls describe realm dateFormatter jsonObject double (vc.viewDidLoad device)).fleet.opened
      device = nav.fleet.opened device := by
  cases vc with
  | resultsMapVC i =>
    have hsame : ∀ {o' pushes}, Fleet.Opens device (nav.fleet.opened device)
        (.tab device (.search i (.screen .viewDidLoad))) o' pushes →
        o' = nav.fleet.opened device := by
      intro o' pushes hopens
      cases hopens
      rfl
    exact hsame (Fleet.opens_of_step hreach (.inr ⟨_, rfl⟩))
  | _ => rfl

theorem stackInv_push
    (hreach : (Fleet.machine describe realm dateFormatter.date jsonObject double).Reachable
      nav.fleet)
    (hobserves : (nav.fleet.opened device).Observes (nav.phones device).shown)
    {vc : UIViewController}
    (hshape : (nav.fleet.opened device).Shape
      ((nav.phones device).navigation.viewControllers ++ [vc])) (now : NSDate) :
    (nav.push describe realm dateFormatter jsonObject double device now vc).StackInv device := by
  intro hrunning
  have hloaded : (nav.calls describe realm dateFormatter jsonObject double
      (vc.viewDidLoad device)).running device = true :=
    (confined_setPhone _ device _).running device hrunning
  have hopened := opened_viewDidLoad device hreach vc
  apply stacked_setPhone hloaded
  · rw [hopened]
    exact hobserves
  · rw [hopened]
    show Opened.Shape _ ((load (nav.phones device) now vc).navigation.viewControllers ++ [vc])
    rw [load_navigation]
    exact hshape

/-- The screen that shows has been opened. -/
theorem lt_of_shown {o : Opened} {phone : Phone} (h : o.Shape phone.navigation.viewControllers)
    {i : ℕ} (hshown : phone.shown = some (.addTripWithMapVC i)) : i < o.observing.length := by
  have htop : ∀ {nav : UINavigationController}, o.Shape nav.viewControllers →
      nav.topViewController = some (.addTripWithMapVC i) → i < o.observing.length := by
    intro nav hshape hlast
    obtain ⟨viewControllers⟩ := nav
    cases hshape with
    | @addTrip j hj =>
      obtain rfl : j = i := by simpa [UINavigationController.topViewController] using hlast
      exact hj
    | _ => simp [UINavigationController.topViewController] at hlast
  unfold Phone.shown at hshown
  split_ifs at hshown
  · exact htop h.pop hshown
  · exact htop h hshown

/-- **A call** from outside UIKit, with the pushes of its segues. -/
theorem stackInv_call
    (hreach : (Fleet.machine describe realm dateFormatter.date jsonObject double).Reachable
      nav.fleet) (hrunning : nav.running device = true) (h : nav.StackInv device)
    {e : FleetEvent}
    (he : (∃ call, e = .app device call ∧ call.fromUIKit = false) ∨
      ∃ call, e = .tab device call)
    (htouched : nav.reaches device e.touched) (now : NSDate) :
    (nav.call describe realm dateFormatter jsonObject double device now e).StackInv device := by
  obtain ⟨hshape, hobserves⟩ := h hrunning
  have hopens := Fleet.opens_of_step hreach he
  have htop : ∀ vc, e.touched = some vc →
      (nav.phones device).navigation.viewControllers.getLast? = some vc := by
    intro vc hvc
    rcases htouched with hnone | htouchable
    · rw [hnone] at hvc
      cases hvc
    · rw [hvc] at htouchable
      unfold Phone.touchable at htouchable
      split_ifs at htouchable
      exact htouchable.symm
  have hshape' := hshape.push hopens htop
  have hobserves' := hobserves.opens (fun i hi => lt_of_shown hshape hi) hopens
  unfold call
  have hstep : (nav.calls describe realm dateFormatter jsonObject double [e]).fleet =
    nav.fleet.step describe realm dateFormatter.date jsonObject double e := rfl
  rcases Fleet.pushes_of_opens hopens with hnone | ⟨vc, hone⟩
  · rw [hnone, List.append_nil] at hshape'
    dsimp only
    rw [hstep, hnone]
    intro _
    exact ⟨hshape', hobserves'⟩
  · rw [hone] at hshape'
    dsimp only
    rw [hstep, hone]
    exact stackInv_push (hreach.step rfl) hobserves' hshape' now

/-- **A press** of the Request button leads back to the list, unless it traps. -/
theorem requestButtonPressed_eq (hrunning : nav.running device = true)
    (h : nav.StackInv device) {trip : ℕ}
    (htop : (nav.phones device).touchable = some (.configureTripVC trip)) :
    let pressed := nav.calls describe realm dateFormatter jsonObject double
      [.requestButtonPressed device trip
        ((nav.phones device).entries trip).depatureTimeTextField
        ((nav.phones device).entries trip).arrivalTimeTextField]
    nav.requestButtonPressed describe realm dateFormatter jsonObject double device =
      if pressed.running device then
        pressed.setPhone describe realm dateFormatter jsonObject double device
          { nav.phones device with navigation := {} }
      else pressed := by
  have hpop := (h hrunning).shape.popToTrips
  simp only [requestButtonPressed, htop, hpop]

/-- Only the screen on top can be pressed. -/
theorem requestButtonPressed_of_not_top
    (htop : ∀ trip, (nav.phones device).touchable ≠ some (.configureTripVC trip)) :
    nav.requestButtonPressed describe realm dateFormatter jsonObject double device = nav := by
  unfold requestButtonPressed
  dsimp only
  split
  next trip heq => exact absurd heq (htop trip)
  next => rfl

theorem confined_requestButtonPressed (hrunning : nav.running device = true)
    (h : nav.StackInv device) :
    Confined describe realm dateFormatter.date jsonObject double (some device) nav
      (nav.requestButtonPressed describe realm dateFormatter jsonObject double device) ∧
    (nav.requestButtonPressed describe realm dateFormatter jsonObject double
      device).StackInv device := by
  by_cases htop : ∃ trip, (nav.phones device).touchable = some (.configureTripVC trip)
  · obtain ⟨trip, htop⟩ := htop
    rw [requestButtonPressed_eq hrunning h htop]
    have hcalls : Confined describe realm dateFormatter.date jsonObject double (some device) nav
        (nav.calls describe realm dateFormatter jsonObject double
          [.requestButtonPressed device trip
            ((nav.phones device).entries trip).depatureTimeTextField
            ((nav.phones device).entries trip).arrivalTimeTextField]) := by
      apply confined_calls
      intro e he
      rw [List.mem_singleton.mp he]
      rfl
    obtain ⟨hshape, hobserves⟩ := h hrunning
    split_ifs with hpressed
    · refine ⟨hcalls.trans (confined_setPhone _ device _), fun _ => ?_⟩
      apply stacked_setPhone hpressed
      · have hopened : (nav.calls describe realm dateFormatter jsonObject double
            [.requestButtonPressed device trip
              ((nav.phones device).entries trip).depatureTimeTextField
              ((nav.phones device).entries trip).arrivalTimeTextField]).fleet.opened device =
            nav.fleet.opened device :=
          Fleet.opened_press describe realm dateFormatter jsonObject double nav.fleet device trip ..
        rw [hopened]
        exact hobserves
      · exact .list
    · exact ⟨hcalls, fun hgoes => absurd hgoes hpressed⟩
  · rw [requestButtonPressed_of_not_top (not_exists.mp htop)]
    exact ⟨.refl _ nav, h⟩

theorem confined_time (e : TimeEvent) (h : nav.StackInv device) :
    Confined describe realm dateFormatter.date jsonObject double (some device) nav
      (nav.time dateFormatter device e) ∧
    (nav.time dateFormatter device e).StackInv device := by
  unfold time
  dsimp only
  split
  · constructor
    · refine ⟨id, fun _ h => h, ?_, fun d _ => .refl d nav.fleet, fun _ => Nat.le_refl _⟩
      intro d hd
      apply Function.update_of_ne
      rintro rfl
      exact hd rfl
    · intro hrunning
      obtain ⟨hshape, hobserves⟩ := h hrunning
      dsimp only
      rw [Function.update_self]
      exact ⟨hshape, hobserves⟩
  · exact ⟨.refl _ nav, h⟩

/-- A change of the stack that keeps it allowed. -/
theorem stackInv_setPhone (hrunning : nav.running device = true) (h : nav.StackInv device)
    {phone : Phone}
    (hshape : (nav.fleet.opened device).Shape (nav.phones device).navigation.viewControllers →
      (nav.fleet.opened device).Shape phone.navigation.viewControllers) :
    Confined describe realm dateFormatter.date jsonObject double (some device) nav
      (nav.setPhone describe realm dateFormatter jsonObject double device phone) ∧
    (nav.setPhone describe realm dateFormatter jsonObject double device phone).StackInv device :=
  ⟨confined_setPhone nav device phone,
    fun _ => stacked_setPhone hrunning (h hrunning).observes (hshape (h hrunning).shape)⟩

/-- **One handler**, on the device of the event. -/
theorem stackInv_handle
    (hreach : (Fleet.machine describe realm dateFormatter.date jsonObject double).Reachable
      nav.fleet) {e : NavigationEvent} (hdevice : Navigation.device e = some device)
    (hrunning : nav.running device = true) (h : nav.StackInv device) :
    Confined describe realm dateFormatter.date jsonObject double (some device) nav
      (nav.handle describe realm dateFormatter jsonObject double e) ∧
    (nav.handle describe realm dateFormatter jsonObject double e).StackInv device := by
  cases e with
  | app d now call =>
    obtain rfl := Option.some.inj hdevice
    simp only [handle]
    split_ifs with hguard
    · exact ⟨confined_call nav now rfl,
        stackInv_call hreach hrunning h (.inl ⟨call, rfl, hguard.1⟩) hguard.2 now⟩
    · exact ⟨.refl _ nav, h⟩
  | tab d now call =>
    obtain rfl := Option.some.inj hdevice
    simp only [handle]
    split_ifs with hguard
    · exact ⟨confined_call nav now rfl,
        stackInv_call hreach hrunning h (.inr ⟨call, rfl⟩) hguard.2 now⟩
    · exact ⟨.refl _ nav, h⟩
  | time d e =>
    obtain rfl := Option.some.inj hdevice
    exact confined_time e h
  | requestButtonPressed d =>
    obtain rfl := Option.some.inj hdevice
    exact confined_requestButtonPressed hrunning h
  | swipe d =>
    obtain rfl := Option.some.inj hdevice
    simp only [handle, swipe]
    split_ifs
    · exact stackInv_setPhone hrunning h id
    · exact ⟨.refl _ nav, h⟩
  | swipeEnded d finished =>
    obtain rfl := Option.some.inj hdevice
    simp only [handle, swipeEnded]
    split_ifs
    · exact stackInv_setPhone hrunning h Opened.Shape.pop
    · exact stackInv_setPhone hrunning h id
    · exact ⟨.refl _ nav, h⟩
  | tabBar d list =>
    obtain rfl := Option.some.inj hdevice
    simp only [handle, tabBar]
    split_ifs
    · exact ⟨.refl _ nav, h⟩
    · exact stackInv_setPhone hrunning h Opened.Shape.popToRoot
    · exact stackInv_setPhone hrunning h id
  | tookEffect serial => cases hdevice
  | saveReturned serial error => cases hdevice

/-! ## Section 3: Runs -/

variable (describe realm dateFormatter jsonObject double) in
structure NavigationInv (nav : Navigation) : Prop where
  fleet : (Fleet.machine describe realm dateFormatter.date jsonObject double).Reachable nav.fleet
  devices : ∀ device, nav.StackInv device

theorem navigationInv_init : NavigationInv describe realm dateFormatter jsonObject double {} where
  fleet := Machine.reachable_init _
  devices := by
    intro device _
    refine ⟨.list, ?_⟩
    intro i b hi
    cases hi

theorem stackInv_of_confined {event : Option ℕ} {nav' : Navigation}
    (hconfined : Confined describe realm dateFormatter.date jsonObject double event nav nav')
    (hother : event ≠ some device) (h : nav.StackInv device) : nav'.StackInv device := by
  intro hrunning
  have hsame := hconfined.same device hother
  rw [hsame.opened, hconfined.phones device hother]
  exact h (hconfined.running device hrunning)

/-- **One event** changes its own device at most, and keeps the invariant there. -/
theorem confined_step (hinv : NavigationInv describe realm dateFormatter jsonObject double nav)
    (e : NavigationEvent) :
    Confined describe realm dateFormatter.date jsonObject double (Navigation.device e) nav
      (nav.step describe realm dateFormatter jsonObject double e) ∧
    ∀ d ∈ Navigation.device e,
      (nav.step describe realm dateFormatter jsonObject double e).StackInv d := by
  unfold step
  split_ifs with hrunning
  · cases hdevice : Navigation.device e with
    | some d =>
      obtain ⟨hconfined, hstack⟩ :=
        stackInv_handle hinv.fleet hdevice (hrunning d hdevice) (hinv.devices d)
      refine ⟨hconfined, ?_⟩
      intro d' hd'
      obtain rfl := Option.some.inj hd'
      exact hstack
    | none =>
      refine ⟨?_, by simp⟩
      cases e with
      | tookEffect serial => exact confined_calls nav (by simp [FleetEvent.device])
      | saveReturned serial error => exact confined_calls nav (by simp [FleetEvent.device])
      | _ => cases hdevice
  · exact ⟨.refl _ nav, fun d _ => hinv.devices d⟩

theorem navigationInv_step (hinv : NavigationInv describe realm dateFormatter jsonObject double nav)
    (e : NavigationEvent) : NavigationInv describe realm dateFormatter jsonObject double
      (nav.step describe realm dateFormatter jsonObject double e) := by
  obtain ⟨hconfined, hstack⟩ := confined_step hinv e
  refine ⟨hconfined.reachable hinv.fleet, ?_⟩
  intro device
  by_cases hdevice : Navigation.device e = some device
  · exact hstack device hdevice
  · exact stackInv_of_confined hconfined hdevice (hinv.devices device)

theorem navigationInv_of_run {es : List NavigationEvent}
    (h : (machine describe realm dateFormatter jsonObject double).run {} es = .ok nav) :
    NavigationInv describe realm dateFormatter jsonObject double nav := by
  have hstep : ∀ nav e nav', NavigationInv describe realm dateFormatter jsonObject double nav →
      (machine describe realm dateFormatter jsonObject double).step nav e = .ok nav' →
      NavigationInv describe realm dateFormatter jsonObject double nav' := by
    intro nav e nav' hinv hstep
    rw [← Except.ok.inj hstep]
    exact navigationInv_step hinv e
  exact Machine.run_preserves hstep navigationInv_init h

/-- A device that no event is about opens nothing. -/
theorem opened_of_run_elsewhere {es : List NavigationEvent}
    (hes : ∀ e ∈ es, Navigation.device e ≠ some device)
    (h : (machine describe realm dateFormatter jsonObject double).run {} es = .ok nav) :
    nav.fleet.opened device = Fleet.opened {} device := by
  have hstep : ∀ nav e nav', Navigation.device e ≠ some device →
      (NavigationInv describe realm dateFormatter jsonObject double nav ∧
        nav.fleet.opened device = Fleet.opened {} device) →
      (machine describe realm dateFormatter jsonObject double).step nav e = .ok nav' →
      NavigationInv describe realm dateFormatter jsonObject double nav' ∧
        nav'.fleet.opened device = Fleet.opened {} device := by
    intro nav e nav' hother hboth hstep
    rw [← Except.ok.inj hstep]
    refine ⟨navigationInv_step hboth.1 e, ?_⟩
    rw [← hboth.2]
    exact ((confined_step hboth.1 e).1.same device hother).opened
  exact (Machine.run_preserves_on hstep hes ⟨navigationInv_init, rfl⟩ h).2

theorem step_of_running (hrunning : nav.running device = true) {e : NavigationEvent}
    (hdevice : Navigation.device e = some device) :
    nav.step describe realm dateFormatter jsonObject double e =
      nav.handle describe realm dateFormatter jsonObject double e := by
  apply if_pos
  intro d hd
  obtain rfl := Option.some.inj (hdevice.symm.trans hd)
  exact hrunning

/-- A response to directions leaves a screen that does not observe as it is, also when
    it stops the device. -/
theorem screen_of_directionsReturned {fleet : Fleet} {i serial : ℕ} {vc : AddTripWithMapVC}
    {answer : DirectionsAnswer} (hi : (fleet.apps device).screens[i]? = some vc)
    (hhidden : vc.observing = false) :
    ((fleet.step describe realm dateFormatter.date jsonObject double
      (.app device (.directionsReturned serial answer))).apps device).screens[i]? = some vc := by
  simp only [Fleet.step]
  split_ifs
  · unfold Fleet.appStep
    cases hstep : (fleet.apps device).step describe realm (.directionsReturned serial answer) with
    | error t => exact hi
    | ok app =>
      dsimp only
      rw [Function.update_self]
      cases App.outcome_of_step hstep with
      | idle _ => exact hi
      | failed => exact hi
      | answered _ _ _ hpost => exact AddTripWithMapVC.kept_of_post hpost hi hhidden
  · exact hi

theorem step_directionsReturned (hrunning : nav.running device = true) (now : NSDate)
    (serial : ℕ) (answer : DirectionsAnswer) :
    (nav.step describe realm dateFormatter jsonObject double
      (.app device now (.directionsReturned serial answer))).fleet =
      nav.fleet.step describe realm dateFormatter.date jsonObject double
        (.app device (.directionsReturned serial answer)) := by
  rw [step_of_running hrunning rfl, handle, if_pos ⟨rfl, .inl rfl⟩]
  -- such a call has no segue
  rfl

/-- **What shows hears of the routes.** On every device that runs the stack is one that
    the storyboard allows, the add-trip screens that observe are exactly those that
    show, and a response to directions leaves every other screen as it is. -/
theorem only_shown_observes {es : List NavigationEvent}
    (h : (machine describe realm dateFormatter jsonObject double).run {} es = .ok nav)
    (hrunning : nav.running device = true) :
    (nav.fleet.opened device).Shape (nav.phones device).navigation.viewControllers ∧
    ∀ (i : ℕ) (vc : AddTripWithMapVC), (nav.fleet.apps device).screens[i]? = some vc →
      (vc.observing = true ↔ (nav.phones device).shown = some (.addTripWithMapVC i)) ∧
      ((nav.phones device).shown ≠ some (.addTripWithMapVC i) →
        ∀ (now : NSDate) (serial : ℕ) (answer : DirectionsAnswer),
          ((nav.step describe realm dateFormatter jsonObject double
            (.app device now (.directionsReturned serial answer))).fleet.apps
              device).screens[i]? = some vc) := by
  obtain ⟨hshape, hobserves⟩ := (navigationInv_of_run h).devices device hrunning
  refine ⟨hshape, ?_⟩
  intro i vc hi
  have hobserving : vc.observing = true ↔
      (nav.phones device).shown = some (.addTripWithMapVC i) := by
    apply hobserves i vc.observing
    show ((nav.fleet.apps device).screens.map _)[i]? = _
    rw [List.getElem?_map, hi]
    rfl
  refine ⟨hobserving, ?_⟩
  intro hhidden now serial answer
  rw [step_directionsReturned hrunning]
  apply screen_of_directionsReturned hi
  have hnot := hobserving.not.mpr hhidden
  simpa using hnot

/-- The device of one user, from the first tap to the matches of the first trip, whose
    save gets the given number. -/
def rideOf (device serial : ℕ) (random : UInt32) : List NavigationEvent :=
  [.tab device 0 .viewDidLoad, .tab device 0 (.cellForRowAt 0), .tab device 0 (.selectRow 0)] ++
  (App.firstRoute.drop 2).map (.app device 0) ++
  [.app device 28800 (.next 0 200 "user" random)] ++
  TimeEntry.morningRide.map (.time device) ++
  [.requestButtonPressed device, .tookEffect serial, .saveReturned serial false,
   .tab device 0 .reload, .tab device 0 (.cellForRowAt 0), .tab device 0 (.selectRow 0)]

def firstRide : List NavigationEvent := rideOf 0 0 7

def sampleNavigation : Machine Navigation NavigationEvent Trap :=
  machine App.describeCorner (.insertion _) TimeEntry.greenwich LambdaInteractor.sampleObject
    LambdaInteractor.sampleDouble

theorem only_shown_observes_newRide : ∃ nav, sampleNavigation.run {} (firstRide.take 3) = .ok nav ∧
    ∃ vc, (nav.fleet.apps 0).screens[0]? = some vc ∧ vc.observing = true := by
  have hevaluated : ∃ nav, sampleNavigation.run {} (firstRide.take 3) = .ok nav ∧
      nav.running 0 = true ∧ (nav.phones 0).shown = some (.addTripWithMapVC 0) ∧
      (nav.fleet.apps 0).screens[0]?.isSome := Machine.exists_run_eq_ok _ (by decide +kernel)
  obtain ⟨nav, hrun, hrunning, hshown, hsome⟩ := hevaluated
  obtain ⟨vc, hvc⟩ := Option.isSome_iff_exists.mp hsome
  obtain ⟨_, hscreens⟩ := only_shown_observes hrun hrunning
  exact ⟨nav, hrun, vc, hvc, (hscreens 0 vc hvc).1.mpr hshown⟩

/-! ## Section 4: Detours -/

/-- The calls to what appears and disappears leave the stores and the uploads alone. -/
theorem cloud_setPhone (hrunning : nav.running device = true) (phone : Phone) :
    (nav.setPhone describe realm dateFormatter jsonObject double device phone).fleet.cloud =
      nav.fleet.cloud := by
  show (nav.calls describe realm dateFormatter jsonObject double
    (UIViewController.appearances device (nav.phones device).shown phone.shown)).fleet.cloud = _
  unfold calls
  apply List.foldlRecOn (motive := fun fleet : Fleet => fleet.cloud = nav.fleet.cloud) _ _ rfl
  intro fleet hfleet e he
  obtain ⟨i, appears, rfl⟩ := mem_appearances he
  have hgoes : (fleet.cloud.devices device).running = true := by
    rw [hfleet]
    exact hrunning
  rw [← hfleet]
  exact (Fleet.step_appearance describe realm dateFormatter jsonObject double hgoes i appears).1

variable (describe realm dateFormatter jsonObject double) in
/-- A screen that is told once and told back is as it was. -/
theorem calls_told_back (hrunning : nav.running device = true) (i : ℕ) (observing : Bool)
    (hvc : ∀ vc : AddTripWithMapVC, (nav.fleet.apps device).screens[i]? = some vc →
      vc.observing = observing) :
    nav.calls describe realm dateFormatter jsonObject double
      [.app device (.screen i (.appearance (!observing))),
        .app device (.screen i (.appearance observing))] = nav := by
  have htold := Fleet.step_told describe realm dateFormatter jsonObject double hrunning i
    (!observing)
  generalize hfleet : ({ nav.fleet with
      apps := Function.update nav.fleet.apps device
        ((nav.fleet.apps device).told i (!observing)) } : Fleet) = fleet at htold
  have hgoes : (fleet.cloud.devices device).running = true := by
    rw [← hfleet]
    exact hrunning
  have hback : fleet.step describe realm dateFormatter.date jsonObject double
      (.app device (.screen i (.appearance observing))) = nav.fleet := by
    rw [Fleet.step_told describe realm dateFormatter jsonObject double hgoes, ← hfleet]
    dsimp only
    rw [Function.update_self, Function.update_idem, App.told_told, App.told_self hvc,
      Function.update_eq_self]
  simp only [calls, List.foldl_cons, List.foldl_nil, htold, hback]

/-- The screen of an app and its place among the observers. -/
theorem observing_of_screen {i : ℕ} {vc : AddTripWithMapVC}
    (hi : (nav.fleet.apps device).screens[i]? = some vc) :
    (nav.fleet.opened device).observing[i]? = some vc.observing := by
  show ((nav.fleet.apps device).screens.map _)[i]? = _
  rw [List.getElem?_map, hi]
  rfl

variable (describe realm dateFormatter jsonObject double) in
/-- What shows is told to disappear, and to appear again. -/
theorem calls_hide_show (hrunning : nav.running device = true)
    {shown : Option UIViewController}
    (hobserves : (nav.fleet.opened device).Observes shown) :
    nav.calls describe realm dateFormatter jsonObject double
      (shown.elim [] (UIViewController.viewWillDisappear device) ++
        shown.elim [] (UIViewController.viewWillAppear device)) = nav := by
  cases shown with
  | none => rfl
  | some vc =>
    cases vc with
    | addTripWithMapVC i =>
      apply calls_told_back describe realm dateFormatter jsonObject double hrunning i true
      intro vc hi
      exact (hobserves i vc.observing (observing_of_screen hi)).mpr rfl
    | _ => rfl

variable (describe realm dateFormatter jsonObject double) in
/-- What does not show is told to appear, and to disappear again. -/
theorem calls_show_hide (hrunning : nav.running device = true)
    (hobserves : (nav.fleet.opened device).Observes none) (vc : Option UIViewController) :
    nav.calls describe realm dateFormatter jsonObject double
      (vc.elim [] (UIViewController.viewWillAppear device) ++
        vc.elim [] (UIViewController.viewWillDisappear device)) = nav := by
  cases vc with
  | none => rfl
  | some vc =>
    cases vc with
    | addTripWithMapVC i =>
      apply calls_told_back describe realm dateFormatter jsonObject double hrunning i false
      intro vc hi
      have hnot := hobserves i vc.observing (observing_of_screen hi)
      simpa using hnot
    | _ => rfl

/-- **There and back.** Once what showed shows again, everything is as it was. -/
theorem calls_appearances_back (hrunning : nav.running device = true)
    {before : Option UIViewController}
    (hobserves : (nav.fleet.opened device).Observes before) (after : Option UIViewController) :
    (nav.calls describe realm dateFormatter jsonObject double
      (UIViewController.appearances device before after)).calls describe realm dateFormatter
        jsonObject double (UIViewController.appearances device after before) = nav := by
  by_cases hsame : before = after
  · rw [UIViewController.appearances, UIViewController.appearances, if_pos hsame,
      if_pos hsame.symm]
    rfl
  · rw [UIViewController.appearances, UIViewController.appearances, if_neg hsame,
      if_neg (Ne.symm hsame)]
    obtain ⟨hstill, hhidden⟩ := opened_hide describe realm dateFormatter jsonObject double
      hrunning before
    -- in between, nothing observes
    have hnone : ((nav.calls describe realm dateFormatter jsonObject double
        (before.elim [] (UIViewController.viewWillDisappear device))).fleet.opened
          device).Observes none := by
      rw [hhidden]
      show (((nav.fleet.opened device).told false before).told true none).Observes none
      exact hobserves.told
    have hmiddle := calls_show_hide describe realm dateFormatter jsonObject double hstill hnone
      after
    have hback := calls_hide_show describe realm dateFormatter jsonObject double hrunning hobserves
    rw [calls_append] at hmiddle hback ⊢
    rw [calls_append, hmiddle]
    exact hback

theorem setPhone_back (hrunning : nav.running device = true)
    (hobserves : (nav.fleet.opened device).Observes (nav.phones device).shown) (phone : Phone) :
    (nav.setPhone describe realm dateFormatter jsonObject double device phone).setPhone describe
      realm dateFormatter jsonObject double device (nav.phones device) = nav := by
  have hback : (nav.calls describe realm dateFormatter jsonObject double
      (UIViewController.appearances device (nav.phones device).shown phone.shown)).calls describe
        realm dateFormatter jsonObject double
        (UIViewController.appearances device phone.shown (nav.phones device).shown) = nav :=
    calls_appearances_back hrunning hobserves phone.shown
  have hfleet := congrArg Navigation.fleet hback
  have hphones : Function.update (Function.update nav.phones device phone) device
      (nav.phones device) = nav.phones := by
    rw [Function.update_idem, Function.update_eq_self]
  have hphone : (nav.setPhone describe realm dateFormatter jsonObject double device
      phone).phones device = phone := Function.update_self ..
  rw [setPhone, hphone]
  exact congr (congrArg Navigation.mk hfleet) hphones

/-- Two events that change the phone, and change it back. -/
theorem run_there_and_back (hrunning : nav.running device = true)
    (hobserves : (nav.fleet.opened device).Observes (nav.phones device).shown)
    {there back : NavigationEvent} (hthere : Navigation.device there = some device)
    (hback : Navigation.device back = some device) {phone : Phone}
    (hchanged : nav.handle describe realm dateFormatter jsonObject double there =
      nav.setPhone describe realm dateFormatter jsonObject double device phone)
    (hrestored : ∀ nav' : Navigation, nav'.phones device = phone →
      nav'.handle describe realm dateFormatter jsonObject double back =
        nav'.setPhone describe realm dateFormatter jsonObject double device (nav.phones device)) :
    (machine describe realm dateFormatter jsonObject double).run nav [there, back] = .ok nav := by
  have hgoes : (nav.setPhone describe realm dateFormatter jsonObject double device
      phone).running device = true := by
    rw [running, cloud_setPhone hrunning]
    exact hrunning
  show Except.ok ((nav.step describe realm dateFormatter jsonObject double there).step describe
    realm dateFormatter jsonObject double back) = _
  rw [step_of_running hrunning hthere, hchanged, step_of_running hgoes hback,
    hrestored _ (Function.update_self ..), setPhone_back hrunning hobserves]

/-- A swipe that is not finished; with the root alone there is nothing to swipe to. -/
theorem run_swipe_back (hrunning : nav.running device = true)
    (hobserves : (nav.fleet.opened device).Observes (nav.phones device).shown)
    (htouchable : (nav.phones device).touchable.isSome)
    (hswiping : (nav.phones device).swiping = false) :
    (machine describe realm dateFormatter jsonObject double).run nav
      [.swipe device, .swipeEnded device false] = .ok nav := by
  have hphone : ({ nav.phones device with swiping := false } : Phone) = nav.phones device := by
    rw [← hswiping]
  by_cases hlength : 1 < (nav.phones device).navigation.viewControllers.length
  · have hthere : nav.handle describe realm dateFormatter jsonObject double (.swipe device) =
        nav.setPhone describe realm dateFormatter jsonObject double device
          { nav.phones device with swiping := true } := if_pos ⟨htouchable, hlength⟩
    apply run_there_and_back hrunning hobserves rfl rfl hthere
    intro nav' hnav'
    have hended : (nav'.phones device).swiping = true := by rw [hnav']
    simp only [handle, swipeEnded]
    rw [if_pos hended, hnav']
    exact congrArg (nav'.setPhone describe realm dateFormatter jsonObject double device) hphone
  · have hidle : nav.step describe realm dateFormatter jsonObject double (.swipe device) = nav := by
      rw [step_of_running hrunning rfl]
      exact if_neg fun hboth => hlength hboth.2
    have hended : nav.step describe realm dateFormatter jsonObject double
        (.swipeEnded device false) = nav := by
      rw [step_of_running hrunning rfl]
      exact if_neg (by simp [hswiping])
    show Except.ok ((nav.step describe realm dateFormatter jsonObject double (.swipe device)).step
      describe realm dateFormatter jsonObject double (.swipeEnded device false)) = _
    rw [hidle, hended]

/-- A visit to the other tab; the tap that comes back pops nothing. -/
theorem run_tabBar_back (hrunning : nav.running device = true)
    (hobserves : (nav.fleet.opened device).Observes (nav.phones device).shown)
    (hselected : (nav.phones device).selected = true)
    (hswiping : (nav.phones device).swiping = false) :
    (machine describe realm dateFormatter jsonObject double).run nav
      [.tabBar device false, .tabBar device true] = .ok nav := by
  have hphone : ({ nav.phones device with selected := true } : Phone) = nav.phones device := by
    rw [← hselected]
  have hthere : nav.handle describe realm dateFormatter jsonObject double (.tabBar device false) =
      nav.setPhone describe realm dateFormatter jsonObject double device
        { nav.phones device with selected := false } := by
    simp [handle, tabBar, hswiping]
  apply run_there_and_back hrunning hobserves rfl rfl hthere
  intro nav' hnav'
  have hstill : ¬(nav'.phones device).swiping = true := by simp [hnav', hswiping]
  simp only [handle, tabBar]
  rw [if_neg hstill, hnav']
  exact congrArg (nav'.setPhone describe realm dateFormatter jsonObject double device) hphone

/-- **Detours change nothing.** From every state of every run, on a device that runs and
    takes touches: a swipe that is not finished, and a visit to the other tab, lead
    back to the very same state, observers included. -/
theorem detours_lead_back {es : List NavigationEvent}
    (h : (machine describe realm dateFormatter jsonObject double).run {} es = .ok nav)
    (hrunning : nav.running device = true)
    (htouchable : (nav.phones device).touchable.isSome) :
    (machine describe realm dateFormatter jsonObject double).run nav
      [.swipe device, .swipeEnded device false] = .ok nav ∧
    (machine describe realm dateFormatter jsonObject double).run nav
      [.tabBar device false, .tabBar device true] = .ok nav := by
  obtain ⟨_, hobserves⟩ := (navigationInv_of_run h).devices device hrunning
  obtain ⟨hselected, hswiping⟩ : (nav.phones device).selected = true ∧
      (nav.phones device).swiping = false := by
    unfold Phone.touchable at htouchable
    split_ifs at htouchable with htouches
    · exact htouches
    · cases htouchable
  exact ⟨run_swipe_back hrunning hobserves htouchable hswiping,
    run_tabBar_back hrunning hobserves hselected hswiping⟩

theorem detours_lead_back_newRide : ∃ nav,
    sampleNavigation.run {} (firstRide.take 3) = .ok nav ∧
    sampleNavigation.run nav [.swipe 0, .swipeEnded 0 false] = .ok nav ∧
    sampleNavigation.run nav [.tabBar 0 false, .tabBar 0 true] = .ok nav := by
  have hevaluated : ∃ nav, sampleNavigation.run {} (firstRide.take 3) = .ok nav ∧
      nav.running 0 = true ∧ (nav.phones 0).touchable.isSome :=
    Machine.exists_run_eq_ok _ (by decide +kernel)
  obtain ⟨nav, hrun, hrunning, htouchable⟩ := hevaluated
  exact ⟨nav, hrun, detours_lead_back hrun hrunning htouchable⟩

end Navigation

end RideHitch
