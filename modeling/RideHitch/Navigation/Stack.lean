import RideHitch.Fleet
import RideHitch.TimeEntry

/-! # The navigation stack

    The navigation controller of the list, on every device.  The segues push: a row
    of the list opens its matches or an add-trip screen, the Next buttons open
    `ConfigureTripVC` and `AcceptMatchVC`.  The back button, a swipe from the edge, a
    tap on the selected tab and the Request button of `ConfigureTripVC` pop.

    Section 1 is the stack, Section 2 the fleet with a stack on every device.  Only
    the controller on top takes touches, and none while a swipe is under way; what
    comes from the network or the location manager arrives at any time. -/

namespace RideHitch

/-! ## Section 1: The stack -/

/-- A controller, named by its position among those of its kind that the device has
    opened; an `AcceptMatchVC` among those of its match screen. -/
inductive UIViewController where
  | tripsViewController
  | addTripWithMapVC (screen : ℕ)
  | configureTripVC (trip : ℕ)
  | resultsMapVC (results : ℕ)
  | acceptMatchVC (results opened : ℕ)
  deriving DecidableEq

/-- `is TripsViewController` -/
def UIViewController.isTripsViewController : UIViewController → Bool
  | .tripsViewController => true
  | _ => false

/-- The root comes first. -/
structure UINavigationController where
  viewControllers : List UIViewController := [.tripsViewController]
  deriving DecidableEq

namespace UINavigationController

def topViewController (nav : UINavigationController) : Option UIViewController :=
  nav.viewControllers.getLast?

def pushViewController (nav : UINavigationController) (vc : UIViewController) :
    UINavigationController :=
  ⟨nav.viewControllers ++ [vc]⟩

/-- The root stays. -/
def popViewController (nav : UINavigationController) : UINavigationController :=
  if 1 < nav.viewControllers.length then ⟨nav.viewControllers.dropLast⟩ else nav

def popToRootViewController (nav : UINavigationController) : UINavigationController :=
  ⟨nav.viewControllers.take 1⟩

/-- UIKit raises an exception for a controller that is not on the stack. -/
def popToViewController (nav : UINavigationController) (vc : UIViewController) :
    Except Trap UINavigationController :=
  if vc ∈ nav.viewControllers then
    .ok ⟨nav.viewControllers.take (nav.viewControllers.idxOf vc + 1)⟩
  else .error .exception

/-- The loop at the end of `requestButtonPressed`, over the controllers that were
    there before it. -/
def popToTrips (nav : UINavigationController) : Except Trap UINavigationController :=
  nav.viewControllers.foldlM (fun nav aviewcontroller =>
    if aviewcontroller.isTripsViewController then nav.popToViewController aviewcontroller
    else .ok nav) nav

end UINavigationController

/-! ## Section 2: The devices -/

/-- `selected` says that the tab of the list is the selected one.  During a swipe the
    controller below the top one shows.  `entries` has the text fields of the
    `ConfigureTripVC` for each trip object. -/
structure Phone where
  navigation : UINavigationController := {}
  selected : Bool := true
  swiping : Bool := false
  entries : ℕ → TimeEntry := fun _ => { datePicker := 0 }

namespace Phone

/-- The controller that takes touches. -/
def touchable (phone : Phone) : Option UIViewController :=
  if phone.selected ∧ phone.swiping = false then phone.navigation.topViewController else none

/-- The controller that is told that it will appear. -/
def shown (phone : Phone) : Option UIViewController :=
  if phone.selected then
    if phone.swiping then phone.navigation.popViewController.topViewController
    else phone.navigation.topViewController
  else none

end Phone

/-- The controller that has to be touched for the call; `none` for what arrives at any
    time. -/
def Event.touched : Event → Option UIViewController
  | .screen i .searchBarTextDidBeginEditing => some (.addTripWithMapVC i)
  | .screen i (.changeRoute _) => some (.addTripWithMapVC i)
  | .textDidChange i _ => some (.addTripWithMapVC i)
  | .didSelectRowAt i _ _ => some (.addTripWithMapVC i)
  | .next i _ _ _ => some (.addTripWithMapVC i)
  | _ => none

/-- The calls that UIKit makes when it opens, shows and hides a screen. -/
def Event.fromUIKit : Event → Bool
  | .viewDidLoad => true
  | .screen _ .viewWillAppear => true
  | .screen _ .viewWillDisappear => true
  | _ => false

def TripsEvent.touched : TripsEvent → Option UIViewController
  | .reload => some .tripsViewController
  | .selectRow _ => some .tripsViewController
  | .search i (.screen .refresh) => some (.resultsMapVC i)
  | .search i (.screen (.selectRow _)) => some (.resultsMapVC i)
  | .search i (.screen .next) => some (.resultsMapVC i)
  | .search i (.screen (.requestButtonPressed opened _)) => some (.acceptMatchVC i opened)
  | _ => none

def TripsEvent.fromUIKit : TripsEvent → Bool
  | .search _ (.screen .viewDidLoad) => true
  | _ => false

namespace UIViewController

/-- Only the add-trip screen overrides these two. -/
def viewWillAppear (device : ℕ) : UIViewController → List FleetEvent
  | .addTripWithMapVC i => [.app device (.screen i .viewWillAppear)]
  | _ => []

def viewWillDisappear (device : ℕ) : UIViewController → List FleetEvent
  | .addTripWithMapVC i => [.app device (.screen i .viewWillDisappear)]
  | _ => []

/-- The calls to what stops and what starts to show. -/
def appearances (device : ℕ) (before after : Option UIViewController) : List FleetEvent :=
  if before = after then []
  else before.elim [] (viewWillDisappear device) ++ after.elim [] (viewWillAppear device)

/-- `addNewRide` has already loaded the add-trip screen. -/
def viewDidLoad (device : ℕ) : UIViewController → List FleetEvent
  | .resultsMapVC i => [.tab device (.search i (.screen .viewDidLoad))]
  | _ => []

end UIViewController

/-- The number of `AcceptMatchVC` screens that each match screen has opened. -/
def TripsTab.accepts (tab : TripsTab) : List ℕ :=
  tab.opened.map (fun member => member.2.flow.opened.length)

namespace Fleet

def accepts (fleet : Fleet) (device : ℕ) : List ℕ := (fleet.tabs device).accepts

def tripCount (fleet : Fleet) (device : ℕ) : ℕ := (fleet.cloud.devices device).trips.length

/-- The controllers that the segues of a call push: those that it has opened. -/
def segues (fleet fleet' : Fleet) : FleetEvent → List UIViewController
  | .app device (.next _ _ _ _) =>
      if fleet.tripCount device < fleet'.tripCount device then
        [.configureTripVC (fleet.tripCount device)]
      else []
  | .tab device (.selectRow _) =>
      (if (fleet.accepts device).length < (fleet'.accepts device).length then
        [.resultsMapVC (fleet.accepts device).length]
      else []) ++
      (if (fleet.tabs device).rides < (fleet'.tabs device).rides then
        [.addTripWithMapVC (fleet.apps device).screens.length]
      else [])
  | .tab device (.search i (.screen .next)) =>
      match (fleet.accepts device)[i]?, (fleet'.accepts device)[i]? with
      | some opened, some opened' =>
          if opened < opened' then [.acceptMatchVC i opened] else []
      | _, _ => []
  | _ => []

end Fleet

/-- The fleet, and what shows on every device. -/
structure Navigation where
  fleet : Fleet := {}
  phones : ℕ → Phone := fun _ => {}

/-- `now` is the time of the device, which the date picker of a new screen starts at. -/
inductive NavigationEvent where
  | app (device : ℕ) (now : NSDate) (e : Event)
  | tab (device : ℕ) (now : NSDate) (e : TripsEvent)
  | time (device : ℕ) (e : TimeEvent)
  | requestButtonPressed (device : ℕ)
  | swipe (device : ℕ)
  | swipeEnded (device : ℕ) (finished : Bool)
  | tabBar (device : ℕ) (list : Bool)
  | tookEffect (serial : ℕ)
  | saveReturned (serial : ℕ) (error : Bool)

namespace Navigation

variable (describe : Double → String) (realm : DateSort) (dateFormatter : DateFormatter)
  (jsonObject : String → Option Json) (double : String → Option Double)

def running (nav : Navigation) (device : ℕ) : Bool := (nav.fleet.cloud.devices device).running

def calls (nav : Navigation) (es : List FleetEvent) : Navigation :=
  { nav with
    fleet := es.foldl
      (fun fleet e => fleet.step describe realm dateFormatter.date jsonObject double e) nav.fleet }

/-- Whatever changes on the device, the screens that it hides and shows are told. -/
def setPhone (nav : Navigation) (device : ℕ) (phone : Phone) : Navigation :=
  { nav.calls describe realm dateFormatter jsonObject double
      (UIViewController.appearances device (nav.phones device).shown phone.shown) with
    phones := Function.update nav.phones device phone }

/-- The fields of a controller that is loaded. -/
def load (phone : Phone) (now : NSDate) : UIViewController → Phone
  | .configureTripVC trip =>
      { phone with entries := Function.update phone.entries trip { datePicker := now } }
  | _ => phone

def push (nav : Navigation) (device : ℕ) (now : NSDate) (vc : UIViewController) : Navigation :=
  let phone := load (nav.phones device) now vc
  (nav.calls describe realm dateFormatter jsonObject double
      (vc.viewDidLoad device)).setPhone describe realm dateFormatter jsonObject double device
    { phone with navigation := phone.navigation.pushViewController vc }

/-- A call, and the pushes of its segues. -/
def call (nav : Navigation) (device : ℕ) (now : NSDate) (e : FleetEvent) : Navigation :=
  let nav' := nav.calls describe realm dateFormatter jsonObject double [e]
  (nav.fleet.segues nav'.fleet e).foldl
    (fun nav vc => nav.push describe realm dateFormatter jsonObject double device now vc) nav'

def time (nav : Navigation) (device : ℕ) (e : TimeEvent) : Navigation :=
  let phone := nav.phones device
  match phone.touchable with
  | some (.configureTripVC trip) =>
      { nav with
        phones := Function.update nav.phones device
          { phone with
            entries := Function.update phone.entries trip
              ((phone.entries trip).step dateFormatter e) } }
  | _ => nav

/-- After the upload the loop pops; an exception stops the process. -/
def requestButtonPressed (nav : Navigation) (device : ℕ) : Navigation :=
  let phone := nav.phones device
  match phone.touchable with
  | some (.configureTripVC trip) =>
      let nav := nav.calls describe realm dateFormatter jsonObject double
        [.requestButtonPressed device trip (phone.entries trip).depatureTimeTextField
          (phone.entries trip).arrivalTimeTextField]
      if nav.running device then
        match phone.navigation.popToTrips with
        | .ok navigation => nav.setPhone describe realm dateFormatter jsonObject double device
            { phone with navigation := navigation }
        | .error _ => { nav with fleet := nav.fleet.stop device }
      else nav
  | _ => nav

/-- A swipe from the edge, or the back button, which does not wait for its end. -/
def swipe (nav : Navigation) (device : ℕ) : Navigation :=
  let phone := nav.phones device
  if phone.touchable.isSome ∧ 1 < phone.navigation.viewControllers.length then
    nav.setPhone describe realm dateFormatter jsonObject double device
      { phone with swiping := true }
  else nav

def swipeEnded (nav : Navigation) (device : ℕ) (finished : Bool) : Navigation :=
  let phone := nav.phones device
  if phone.swiping then
    nav.setPhone describe realm dateFormatter jsonObject double device
      { phone with
        swiping := false
        navigation :=
          if finished then phone.navigation.popViewController else phone.navigation }
  else nav

/-- A tap on the tab that is selected pops to the root. -/
def tabBar (nav : Navigation) (device : ℕ) (list : Bool) : Navigation :=
  let phone := nav.phones device
  if phone.swiping then nav
  else
    nav.setPhone describe realm dateFormatter jsonObject double device
      { phone with
        selected := list
        navigation :=
          if phone.selected ∧ list then phone.navigation.popToRootViewController
          else phone.navigation }

/-- The call goes to the controller that takes touches, or needs none. -/
def reaches (nav : Navigation) (device : ℕ) (touched : Option UIViewController) : Prop :=
  touched = none ∨ touched = (nav.phones device).touchable

instance (nav : Navigation) (device : ℕ) (touched : Option UIViewController) :
    Decidable (nav.reaches device touched) :=
  inferInstanceAs (Decidable (_ ∨ _))

/-- The device that the event is about; the remote table is not on one. -/
def device : NavigationEvent → Option ℕ
  | .app device _ _ => some device
  | .tab device _ _ => some device
  | .time device _ => some device
  | .requestButtonPressed device => some device
  | .swipe device => some device
  | .swipeEnded device _ => some device
  | .tabBar device _ => some device
  | .tookEffect _ => none
  | .saveReturned _ _ => none

/-- The handler of an event, on a device that runs. -/
def handle (nav : Navigation) : NavigationEvent → Navigation
  | .app device now e =>
      if e.fromUIKit = false ∧ nav.reaches device e.touched then
        nav.call describe realm dateFormatter jsonObject double device now (.app device e)
      else nav
  | .tab device now e =>
      if e.fromUIKit = false ∧ nav.reaches device e.touched then
        nav.call describe realm dateFormatter jsonObject double device now (.tab device e)
      else nav
  | .time device e => nav.time dateFormatter device e
  | .requestButtonPressed device =>
      nav.requestButtonPressed describe realm dateFormatter jsonObject double device
  | .swipe device => nav.swipe describe realm dateFormatter jsonObject double device
  | .swipeEnded device finished =>
      nav.swipeEnded describe realm dateFormatter jsonObject double device finished
  | .tabBar device list => nav.tabBar describe realm dateFormatter jsonObject double device list
  | .tookEffect serial =>
      nav.calls describe realm dateFormatter jsonObject double [.tookEffect serial]
  | .saveReturned serial error =>
      nav.calls describe realm dateFormatter jsonObject double [.saveReturned serial error]

def step (nav : Navigation) (e : NavigationEvent) : Navigation :=
  if ∀ d ∈ device e, nav.running d = true then
    nav.handle describe realm dateFormatter jsonObject double e
  else nav

def machine : Machine Navigation NavigationEvent Trap where
  init := {}
  step := fun nav e => .ok (nav.step describe realm dateFormatter jsonObject double e)

end Navigation

end RideHitch
