import RideHitch.Foundation
import RideHitch.Library.Machine

/-! # Proposer

    Asking for access to a resource.  Access to the location is asked for through
    one global manager with one global delegate; a later proposal replaces both.
    Section 1 is the model.  Section 2 says exactly which runs answer every
    proposal once, Section 3 what an answer says about the permission.

    `CLLocationManager` calls its delegate as long as it exists, with the present
    status first and after every change.  The delegate puts a block on the main
    queue, which keeps the delegate alive. -/

namespace RideHitch

/-! ## Section 1: Model -/

inductive LocationUsage where
  | whenInUse
  | always
  deriving DecidableEq

inductive PrivateResource where
  | photos
  | camera
  | microphone
  | location (usage : LocationUsage)
  deriving DecidableEq

inductive CLAuthorizationStatus where
  | notDetermined
  | restricted
  | denied
  | authorizedAlways
  | authorizedWhenInUse
  deriving DecidableEq

/-- A proposal is named by its number.  Its two actions are the two values of
    `agreed` in the answer to it. -/
structure LocationDelegate where
  proposal : ℕ
  locationUsage : LocationUsage
  deriving DecidableEq

structure ProposerAnswer where
  proposal : ℕ
  agreed : Bool
  deriving DecidableEq

/-- The action that the delegate calls for a status, if any. -/
def LocationDelegate.action (delegate : LocationDelegate) :
    CLAuthorizationStatus → Option ProposerAnswer
  | .authorizedWhenInUse =>
      some ⟨delegate.proposal, decide (delegate.locationUsage = .whenInUse)⟩
  | .authorizedAlways => some ⟨delegate.proposal, decide (delegate.locationUsage = .always)⟩
  | .denied => some ⟨delegate.proposal, false⟩
  | _ => none

/-- A block on the main queue: of a request for photos, camera or microphone, or of
    the location delegate. -/
inductive MainBlock where
  | granted (answer : ProposerAnswer)
  | didChangeAuthorization (delegate : LocationDelegate) (status : CLAuthorizationStatus)

/-- `_locationManager` and `_locationDelegate` are set and cleared together.  `asked`
    has the requests for photos, camera and microphone that are not answered yet;
    `proposed` and `answers` are not in the source: the resource of each proposal, and
    the actions called. -/
structure Proposer where
  locationDelegate : Option LocationDelegate := none
  mainQueue : List MainBlock := []
  asked : List ℕ := []
  proposed : List PrivateResource := []
  answers : List ProposerAnswer := []

/-- `propose` comes with what `authorizationStatus` and `locationServicesEnabled`
    return, `runMain` takes the first block of the main queue. -/
inductive ProposerEvent where
  | propose (resource : PrivateResource) (status : CLAuthorizationStatus)
      (locationServicesEnabled : Bool)
  | requestReturned (proposal : ℕ) (granted : Bool)
  | didChangeAuthorization (status : CLAuthorizationStatus)
  | runMain

namespace Proposer

def answer (p : Proposer) (answer : ProposerAnswer) : Proposer :=
  { p with answers := p.answers ++ [answer] }

def proposeToAccessLocation (p : Proposer) (proposal : ℕ) (locationUsage : LocationUsage)
    (status : CLAuthorizationStatus) (locationServicesEnabled : Bool) : Proposer :=
  match status with
  | .authorizedWhenInUse => p.answer ⟨proposal, decide (locationUsage = .whenInUse)⟩
  | .authorizedAlways => p.answer ⟨proposal, true⟩
  | .notDetermined =>
      if locationServicesEnabled then
        -- the manager and the delegate of an earlier proposal are gone
        { p with locationDelegate := some ⟨proposal, locationUsage⟩ }
      else p.answer ⟨proposal, false⟩
  | _ => p.answer ⟨proposal, false⟩

def proposeToAccess (p : Proposer) (resource : PrivateResource) (status : CLAuthorizationStatus)
    (locationServicesEnabled : Bool) : Proposer :=
  let proposal := p.proposed.length
  let p := { p with proposed := p.proposed ++ [resource] }
  match resource with
  | .location usage => p.proposeToAccessLocation proposal usage status locationServicesEnabled
  | _ => { p with asked := p.asked ++ [proposal] }

/-- For photos, `granted` says that the status is `authorized`. -/
def requestReturned (p : Proposer) (proposal : ℕ) (granted : Bool) : Proposer :=
  if proposal ∈ p.asked then
    { p with
      asked := p.asked.erase proposal
      mainQueue := p.mainQueue ++ [.granted ⟨proposal, granted⟩] }
  else p

def didChangeAuthorization (p : Proposer) (status : CLAuthorizationStatus) : Proposer :=
  match p.locationDelegate with
  | some delegate =>
      { p with mainQueue := p.mainQueue ++ [.didChangeAuthorization delegate status] }
  | none => p

def runBlock (p : Proposer) : MainBlock → Proposer
  | .granted answer => p.answer answer
  | .didChangeAuthorization delegate status =>
      match delegate.action status with
      -- whatever proposal the manager and the delegate belong to by now
      | some answer => { p.answer answer with locationDelegate := none }
      | none => p

def runMain (p : Proposer) : Proposer :=
  match p.mainQueue with
  | block :: mainQueue => { p with mainQueue := mainQueue }.runBlock block
  | [] => p

def step (p : Proposer) : ProposerEvent → Proposer
  | .propose resource status enabled => p.proposeToAccess resource status enabled
  | .requestReturned proposal granted => p.requestReturned proposal granted
  | .didChangeAuthorization status => p.didChangeAuthorization status
  | .runMain => p.runMain

def machine : Machine Proposer ProposerEvent Trap where
  init := {}
  step := fun p e => .ok (p.step e)

/-! ## Section 2: Every proposal once -/

end Proposer

/-- The answer that a block gives, if any. -/
def MainBlock.action : MainBlock → Option ProposerAnswer
  | .granted answer => some answer
  | .didChangeAuthorization delegate status => delegate.action status

namespace Proposer

/-- The proposals whose answer was given, is on the main queue or has been asked for,
    each as often as that. -/
def underWay (p : Proposer) : List ℕ :=
  p.answers.map ProposerAnswer.proposal ++
    (p.mainQueue.filterMap MainBlock.action).map ProposerAnswer.proposal ++ p.asked

/-- The delegate is that of the proposal. -/
def WaitsFor (p : Proposer) (proposal : ℕ) : Prop :=
  ∃ delegate, p.locationDelegate = some delegate ∧ delegate.proposal = proposal

/-- Every proposal has its answer given or under way, and that once, or waits for the
    delegate to be called. -/
def EachOnce (p : Proposer) : Prop :=
  ∀ proposal < p.proposed.length, p.underWay.count proposal = 1 ∨
    (p.underWay.count proposal = 0 ∧ p.WaitsFor proposal)

/-- The delegate, if there is one, has its answer under way. -/
def Covered (p : Proposer) : Prop :=
  ∀ delegate, p.locationDelegate = some delegate → delegate.proposal ∈ p.underWay

/-- The delegate is replaced or cleared only when its answer is under way, and called
    with a status that it answers only when it is not. -/
def Orderly (p : Proposer) : ProposerEvent → Prop
  | .propose (.location _) .notDetermined true => p.Covered
  | .didChangeAuthorization status => ∀ delegate, p.locationDelegate = some delegate →
      (delegate.action status).isSome → delegate.proposal ∉ p.underWay
  | .runMain => ∀ delegate status, p.mainQueue.head? =
      some (.didChangeAuthorization delegate status) →
      (delegate.action status).isSome → p.Covered
  | _ => True

/-- Numbers are given out in order. -/
structure Numbered (p : Proposer) : Prop where
  fresh : ∀ n ≥ p.proposed.length, p.underWay.count n = 0
  delegate : ∀ delegate, p.locationDelegate = some delegate →
    delegate.proposal < p.proposed.length

/-- What a step does to the proposals under way and to the delegate, and the condition
    under which it keeps every proposal answered once. -/
inductive Change (p p' : Proposer) : Prop → Prop where
  | moved (hlength : p'.proposed.length = p.proposed.length)
      (hcount : ∀ n, p'.underWay.count n = p.underWay.count n)
      (hdelegate : p'.locationDelegate = p.locationDelegate) : Change p p' True
  | answered (hlength : p'.proposed.length = p.proposed.length + 1)
      (hcount : ∀ n, p'.underWay.count n =
        p.underWay.count n + if n = p.proposed.length then 1 else 0)
      (hdelegate : p'.locationDelegate = p.locationDelegate) : Change p p' True
  | waiting {delegate : LocationDelegate} (hlength : p'.proposed.length = p.proposed.length + 1)
      (hcount : ∀ n, p'.underWay.count n = p.underWay.count n)
      (hdelegate : p'.locationDelegate = some delegate)
      (hproposal : delegate.proposal = p.proposed.length) : Change p p' p.Covered
  | called {delegate : LocationDelegate} (hlength : p'.proposed.length = p.proposed.length)
      (hcount : ∀ n, p'.underWay.count n =
        p.underWay.count n + if n = delegate.proposal then 1 else 0)
      (hbefore : p.locationDelegate = some delegate)
      (hdelegate : p'.locationDelegate = some delegate) :
      Change p p' (delegate.proposal ∉ p.underWay)
  | cleared (hlength : p'.proposed.length = p.proposed.length)
      (hcount : ∀ n, p'.underWay.count n = p.underWay.count n)
      (hdelegate : p'.locationDelegate = none) : Change p p' p.Covered

theorem count_underWay (p : Proposer) (n : ℕ) :
    p.underWay.count n = (p.answers.map ProposerAnswer.proposal).count n +
      ((p.mainQueue.filterMap MainBlock.action).map ProposerAnswer.proposal).count n +
      p.asked.count n := by
  simp only [underWay, List.count_append]

theorem change_answer {p p' : Proposer} {answer : ProposerAnswer}
    (hproposal : answer.proposal = p.proposed.length)
    (hlength : p'.proposed.length = p.proposed.length + 1)
    (hanswers : p'.answers = p.answers ++ [answer]) (hqueue : p'.mainQueue = p.mainQueue)
    (hasked : p'.asked = p.asked) (hdelegate : p'.locationDelegate = p.locationDelegate) :
    Change p p' True := by
  apply Change.answered hlength ?_ hdelegate
  intro n
  rw [count_underWay, count_underWay, hanswers, hqueue, hasked, List.map_append, List.count_append,
    List.map_singleton, List.count_singleton, hproposal]
  by_cases hn : n = p.proposed.length
  · simp [hn]
    omega
  · have hn' : ¬ p.proposed.length = n := fun h => hn h.symm
    simp [hn, hn']

theorem change_propose (p : Proposer) (resource : PrivateResource)
    (status : CLAuthorizationStatus) (enabled : Bool) :
    ∃ Q, Change p (p.proposeToAccess resource status enabled) Q ∧
      (p.Orderly (.propose resource status enabled) ↔ Q) := by
  have hasked : Change p { p with
      proposed := p.proposed ++ [resource]
      asked := p.asked ++ [p.proposed.length] } True := by
    refine .answered (by simp) ?_ rfl
    intro n
    rw [count_underWay, count_underWay]
    show _ + _ + (p.asked ++ [p.proposed.length]).count n = _
    rw [List.count_append, List.count_singleton]
    by_cases hn : n = p.proposed.length
    · simp [hn]
      omega
    · have hn' : ¬ p.proposed.length = n := fun h => hn h.symm
      simp [hn, hn']
  cases resource with
  | photos => exact ⟨True, hasked, by simp [Orderly]⟩
  | camera => exact ⟨True, hasked, by simp [Orderly]⟩
  | microphone => exact ⟨True, hasked, by simp [Orderly]⟩
  | location usage =>
    have hanswer : ∀ agreed, Change p
        ({ p with proposed := p.proposed ++ [PrivateResource.location usage] }.answer
          ⟨p.proposed.length, agreed⟩) True :=
      fun agreed => change_answer rfl (by simp [answer]) rfl rfl rfl rfl
    cases status with
    | authorizedWhenInUse => exact ⟨True, hanswer _, by simp [Orderly]⟩
    | authorizedAlways => exact ⟨True, hanswer _, by simp [Orderly]⟩
    | restricted => exact ⟨True, hanswer _, by simp [Orderly]⟩
    | denied => exact ⟨True, hanswer _, by simp [Orderly]⟩
    | notDetermined =>
      cases enabled with
      | false => exact ⟨True, hanswer _, by simp [Orderly]⟩
      | true =>
        refine ⟨p.Covered, ?_, by simp [Orderly]⟩
        exact .waiting (by simp [proposeToAccess, proposeToAccessLocation]) (fun _ => rfl) rfl rfl

theorem change_requestReturned (p : Proposer) (proposal : ℕ) (granted : Bool) :
    Change p (p.requestReturned proposal granted) True := by
  unfold requestReturned
  split_ifs with hmem
  · refine .moved rfl ?_ rfl
    intro n
    rw [count_underWay, count_underWay]
    show _ + ((p.mainQueue ++ [_]).filterMap _ |>.map _).count n +
      (p.asked.erase proposal).count n = _
    rw [List.filterMap_append, List.map_append, List.count_append, List.count_erase]
    by_cases hn : n = proposal
    · subst hn
      have hpos := List.count_pos_iff.mpr hmem
      simp [MainBlock.action]
      omega
    · have hn' : ¬ proposal = n := fun h => hn h.symm
      simp [MainBlock.action, hn']
  · exact .moved rfl (fun _ => rfl) rfl

theorem change_didChangeAuthorization (p : Proposer) (status : CLAuthorizationStatus) :
    ∃ Q, Change p (p.didChangeAuthorization status) Q ∧
      (p.Orderly (.didChangeAuthorization status) ↔ Q) := by
  unfold didChangeAuthorization Orderly
  cases hdelegate : p.locationDelegate with
  | none => exact ⟨True, .moved rfl (fun _ => rfl) rfl, by simp⟩
  | some delegate =>
    cases haction : delegate.action status with
    | none =>
      refine ⟨True, .moved rfl ?_ hdelegate.symm, by simp [haction]⟩
      intro n
      rw [count_underWay, count_underWay]
      simp [List.filterMap_append, MainBlock.action, haction]
    | some answer =>
      have hproposal : answer.proposal = delegate.proposal := by
        cases status with
        | notDetermined => cases haction
        | restricted => cases haction
        | _ => rw [← Option.some.inj haction]
      refine ⟨delegate.proposal ∉ p.underWay, .called rfl ?_ hdelegate rfl,
        by simp [haction]⟩
      intro n
      rw [count_underWay, count_underWay]
      by_cases hn : n = delegate.proposal
      · simp [List.filterMap_append, MainBlock.action, haction, hproposal, hn]
        omega
      · have hn' : ¬ delegate.proposal = n := fun h => hn h.symm
        simp [List.filterMap_append, MainBlock.action, haction, hproposal, hn, hn']

/-- A block that runs moves its answer from the queue to the answers. -/
theorem count_runBlock (p : Proposer) {block : MainBlock} {mainQueue : List MainBlock}
    (hqueue : p.mainQueue = block :: mainQueue) (n : ℕ) :
    ({ p with mainQueue := mainQueue }.runBlock block).underWay.count n = p.underWay.count n := by
  have hmoved : ∀ answer, block.action = some answer →
      (p.answers ++ [answer]).map ProposerAnswer.proposal ++
        (mainQueue.filterMap MainBlock.action).map ProposerAnswer.proposal ++ p.asked =
      p.underWay := by
    intro answer haction
    simp [underWay, hqueue, haction]
  cases block with
  | granted answer => rw [← hmoved answer rfl]; rfl
  | didChangeAuthorization delegate status =>
    cases haction : delegate.action status with
    | none => simp [runBlock, underWay, hqueue, MainBlock.action, haction]
    | some answer =>
      rw [← hmoved answer haction]
      simp only [runBlock, haction]
      rfl

theorem change_runMain (p : Proposer) :
    ∃ Q, Change p p.runMain Q ∧ (p.Orderly .runMain ↔ Q) := by
  unfold runMain Orderly
  cases hqueue : p.mainQueue with
  | nil => exact ⟨True, .moved rfl (fun _ => rfl) rfl, by simp⟩
  | cons block mainQueue =>
    have hcount := count_runBlock p hqueue
    cases block with
    | granted answer => exact ⟨True, .moved rfl hcount rfl, by simp⟩
    | didChangeAuthorization delegate status =>
      cases haction : delegate.action status with
      | none =>
        have hkept : { p with mainQueue := mainQueue }.runBlock
            (.didChangeAuthorization delegate status) = { p with mainQueue := mainQueue } := by
          simp only [runBlock, haction]
        rw [hkept] at hcount
        simp only [hkept]
        exact ⟨True, .moved rfl hcount rfl, by simp [haction]⟩
      | some answer =>
        have hcleared : { p with mainQueue := mainQueue }.runBlock
            (.didChangeAuthorization delegate status) =
            { ({ p with mainQueue := mainQueue }.answer answer) with
              locationDelegate := none } := by
          simp only [runBlock, haction]
        rw [hcleared] at hcount
        simp only [hcleared]
        exact ⟨p.Covered, .cleared rfl hcount rfl, by simp [haction]⟩

theorem change_of_step (p : Proposer) (e : ProposerEvent) :
    ∃ Q, Change p (p.step e) Q ∧ (p.Orderly e ↔ Q) := by
  cases e with
  | propose resource status enabled => exact change_propose p resource status enabled
  | requestReturned proposal granted =>
    exact ⟨True, change_requestReturned p proposal granted, by simp [Orderly]⟩
  | didChangeAuthorization status => exact change_didChangeAuthorization p status
  | runMain => exact change_runMain p

theorem numbered_init : Numbered {} where
  fresh := by
    intro n _
    rfl
  delegate := by
    intro delegate hdelegate
    cases hdelegate

theorem numbered_of_change {p p' : Proposer} {Q : Prop} (hp : p.Numbered) (h : Change p p' Q) :
    p'.Numbered where
  fresh := by
    intro n hn
    cases h with
    | moved hlength hcount _ =>
      rw [hcount, hp.fresh n (by omega)]
    | answered hlength hcount _ =>
      have hne : n ≠ p.proposed.length := by omega
      rw [hcount, hp.fresh n (by omega), if_neg hne]
    | waiting hlength hcount _ _ =>
      rw [hcount, hp.fresh n (by omega)]
    | @called delegate hlength hcount hbefore _ =>
      have hlt := hp.delegate delegate hbefore
      have hne : n ≠ delegate.proposal := by omega
      rw [hcount, hp.fresh n (by omega), if_neg hne]
    | cleared hlength hcount _ =>
      rw [hcount, hp.fresh n (by omega)]
  delegate := by
    intro delegate hdelegate'
    cases h with
    | moved hlength _ hdelegate =>
      have hlt := hp.delegate delegate (hdelegate ▸ hdelegate')
      omega
    | answered hlength _ hdelegate =>
      have hlt := hp.delegate delegate (hdelegate ▸ hdelegate')
      omega
    | waiting hlength _ hdelegate hproposal =>
      rw [← Option.some.inj (hdelegate.symm.trans hdelegate'), hproposal]
      omega
    | called hlength _ hbefore hdelegate =>
      rw [← Option.some.inj (hdelegate.symm.trans hdelegate')]
      have hlt := hp.delegate _ hbefore
      omega
    | cleared _ _ hdelegate =>
      rw [hdelegate] at hdelegate'
      cases hdelegate'

theorem waitsFor_congr {p p' : Proposer} (h : p'.locationDelegate = p.locationDelegate) (n : ℕ) :
    p'.WaitsFor n ↔ p.WaitsFor n := by
  rw [WaitsFor, WaitsFor, h]

/-- With the delegate gone, its proposal must have been under way. -/
theorem eachOnce_gone {p p' : Proposer} (hp : p.Numbered)
    (hcount : ∀ n, p'.underWay.count n = p.underWay.count n)
    (hgone : ∀ n < p.proposed.length, ¬ p'.WaitsFor n) :
    (∀ n < p.proposed.length, p'.underWay.count n = 1 ∨
      (p'.underWay.count n = 0 ∧ p'.WaitsFor n)) ↔ p.EachOnce ∧ p.Covered := by
  constructor
  · intro hgood
    have honce : ∀ n < p.proposed.length, p.underWay.count n = 1 := by
      intro n hn
      rcases hgood n hn with hone | ⟨_, hwaits⟩
      · rw [← hcount]
        exact hone
      · exact absurd hwaits (hgone n hn)
    refine ⟨fun n hn => .inl (honce n hn), ?_⟩
    intro delegate hdelegate
    have hone := honce _ (hp.delegate delegate hdelegate)
    exact List.count_pos_iff.mp (by omega)
  · intro hgood n hn
    obtain ⟨honce, hcovered⟩ := hgood
    rw [hcount]
    rcases honce n hn with hone | ⟨hnone, delegate, hdelegate, rfl⟩
    · exact .inl hone
    · have hpos := List.count_pos_iff.mpr (hcovered delegate hdelegate)
      omega

/-- **One step** keeps every proposal answered once exactly under its condition. -/
theorem eachOnce_of_change {p p' : Proposer} {Q : Prop} (hp : p.Numbered) (h : Change p p' Q) :
    p'.EachOnce ↔ p.EachOnce ∧ Q := by
  cases h with
  | moved hlength hcount hdelegate =>
    simp only [EachOnce, hlength, hcount, waitsFor_congr hdelegate, and_true]
  | answered hlength hcount hdelegate =>
    rw [and_true]
    simp only [EachOnce, hlength, hcount, waitsFor_congr hdelegate]
    have hnew := hp.fresh p.proposed.length (Nat.le_refl _)
    constructor
    · intro hgood n hn
      have hne : n ≠ p.proposed.length := Nat.ne_of_lt hn
      simpa [hne] using hgood n (Nat.lt_succ_of_lt hn)
    · intro hgood n hn
      by_cases hne : n = p.proposed.length
      · exact .inl (by rw [hne, hnew, if_pos rfl])
      · simpa [hne] using hgood n (by omega)
  | @waiting delegate hlength hcount hdelegate hproposal =>
    have hgone : ∀ n < p.proposed.length, ¬ p'.WaitsFor n := by
      intro n hn hwaits
      obtain ⟨delegate', hdelegate', rfl⟩ := hwaits
      rw [← Option.some.inj (hdelegate.symm.trans hdelegate')] at hn
      omega
    rw [← eachOnce_gone hp hcount hgone]
    have hnew := hp.fresh p.proposed.length (Nat.le_refl _)
    constructor
    · intro hgood n hn
      exact hgood n (by omega)
    · intro hgood n hn
      by_cases hne : n = p.proposed.length
      · -- the new proposal waits for its delegate
        exact .inr ⟨by rw [hcount, hne, hnew], delegate, hdelegate, hproposal.trans hne.symm⟩
      · exact hgood n (by omega)
  | @called delegate hlength hcount hbefore hdelegate =>
    have hwaits : ∀ n, p'.WaitsFor n ↔ p.WaitsFor n :=
      waitsFor_congr (hdelegate.trans hbefore.symm)
    have hlt := hp.delegate delegate hbefore
    simp only [EachOnce, hlength, hcount, hwaits]
    constructor
    · intro hgood
      have hnone : p.underWay.count delegate.proposal = 0 := by
        rcases hgood delegate.proposal hlt with hone | ⟨hzero, _⟩
        · simpa using hone
        · simp at hzero
      refine ⟨?_, List.count_eq_zero.mp hnone⟩
      intro n hn
      by_cases hne : n = delegate.proposal
      · exact .inr ⟨hne ▸ hnone, delegate, hbefore, hne.symm⟩
      · simpa [hne] using hgood n hn
    · intro hgood n hn
      obtain ⟨honce, hnot⟩ := hgood
      by_cases hne : n = delegate.proposal
      · rw [hne, List.count_eq_zero.mpr hnot, if_pos rfl]
        exact .inl rfl
      · simpa [hne] using honce n hn
  | cleared hlength hcount hdelegate =>
    have hgone : ∀ n < p.proposed.length, ¬ p'.WaitsFor n := by
      intro n _ hwaits
      obtain ⟨delegate', hdelegate', _⟩ := hwaits
      rw [hdelegate] at hdelegate'
      cases hdelegate'
    rw [← eachOnce_gone hp hcount hgone, EachOnce, hlength]

/-- **No proposal is lost or answered twice** exactly in the runs in which the delegate
    is replaced or cleared only with its answer under way, and called with a status
    that it answers only without. -/
theorem each_once_iff {es : List ProposerEvent} {p : Proposer} (h : machine.run {} es = .ok p) :
    p.EachOnce ↔ machine.Meets Orderly {} es := by
  have hinv : ∀ p e p', Numbered p → machine.step p e = .ok p' → Numbered p' := by
    intro p e p' hp hstep
    rw [← Except.ok.inj hstep]
    obtain ⟨Q, hchange, _⟩ := change_of_step p e
    exact numbered_of_change hp hchange
  have hgood : ∀ p e p', Numbered p → machine.step p e = .ok p' →
      (EachOnce p' ↔ EachOnce p ∧ Orderly p e) := by
    intro p e p' hp hstep
    rw [← Except.ok.inj hstep]
    obtain ⟨Q, hchange, hQ⟩ := change_of_step p e
    rw [hQ]
    exact eachOnce_of_change hp hchange
  have hinit : EachOnce {} := by
    intro n hn
    cases hn
  rw [Machine.good_iff_meets hinv hgood numbered_init h]
  exact and_iff_right hinit

/-- The dialog is answered, and the block of the answer runs. -/
def allowed (status : CLAuthorizationStatus) : List ProposerEvent :=
  [.propose (.location .whenInUse) .notDetermined true, .didChangeAuthorization .notDetermined,
   .runMain, .didChangeAuthorization status, .runMain]

theorem each_once_iff_allowed : ∃ p, machine.run {} (allowed .authorizedWhenInUse) = .ok p ∧
    p.answers = [⟨0, true⟩] ∧
    (p.EachOnce ↔ machine.Meets Orderly {} (allowed .authorizedWhenInUse)) := by
  have hevaluated : ∃ p, machine.run {} (allowed .authorizedWhenInUse) = .ok p ∧
      p.answers = [⟨0, true⟩] :=
    Machine.exists_run_eq_ok _ (by decide)
  obtain ⟨p, hrun, hanswers⟩ := hevaluated
  exact ⟨p, hrun, hanswers, each_once_iff hrun⟩

/-! ## Section 3: What an answer says -/

/-- The status permits the usage. -/
def Sufficient : LocationUsage → CLAuthorizationStatus → Prop
  | .whenInUse, status => status = .authorizedWhenInUse ∨ status = .authorizedAlways
  | .always, status => status = .authorizedAlways

/-- The proposal of that number was made, for the resource and with what the system
    reported then. -/
def Proposed (es : List ProposerEvent) (proposal : ℕ) (resource : PrivateResource)
    (status : CLAuthorizationStatus) (enabled : Bool) : Prop :=
  machine.Occurs (fun p e => e = .propose resource status enabled ∧ p.proposed.length = proposal)
    {} es

/-- The delegate was called with the status. -/
def Called (es : List ProposerEvent) (delegate : LocationDelegate)
    (status : CLAuthorizationStatus) : Prop :=
  machine.Occurs (fun p e => e = .didChangeAuthorization status ∧
    p.locationDelegate = some delegate) {} es

/-- The outstanding request of the proposal was answered. -/
def Returned (es : List ProposerEvent) (proposal : ℕ) (granted : Bool) : Prop :=
  machine.Occurs (fun p e => e = .requestReturned proposal granted ∧ proposal ∈ p.asked) {} es

/-- The events that an answer to a proposal of the resource goes back to.  A proposal for
    the location that found the status undetermined, with location services on, is
    answered by a call of its own delegate; a delegate that was asked for use while the
    app is open takes permission at all times for a refusal.  Every other one is answered
    by the status that it found itself. -/
def GoesBack (es : List ProposerEvent) (answer : ProposerAnswer) : PrivateResource → Prop
  | .location usage => ∃ status enabled,
      Proposed es answer.proposal (.location usage) status enabled ∧
      ((status = .notDetermined ∧ enabled = true ∧
          ∃ status', Called es ⟨answer.proposal, usage⟩ status' ∧
            status' ≠ .notDetermined ∧ status' ≠ .restricted ∧
            (answer.agreed = true ↔ Sufficient usage status' ∧
              ¬ (usage = .whenInUse ∧ status' = .authorizedAlways))) ∨
        (¬ (status = .notDetermined ∧ enabled = true) ∧
          (answer.agreed = true ↔ Sufficient usage status)))
  | _ => Returned es answer.proposal answer.agreed

def Told (es : List ProposerEvent) (proposed : List PrivateResource) (answer : ProposerAnswer) :
    Prop :=
  ∃ resource, proposed[answer.proposal]? = some resource ∧ GoesBack es answer resource

structure Informed (es : List ProposerEvent) (p : Proposer) : Prop where
  answers : ∀ answer ∈ p.answers, Told es p.proposed answer
  mainQueue : ∀ block ∈ p.mainQueue, ∀ answer, block.action = some answer →
    Told es p.proposed answer
  asked : ∀ n ∈ p.asked, ∃ resource, p.proposed[n]? = some resource ∧
    ∀ usage, resource ≠ .location usage
  delegate : ∀ delegate, p.locationDelegate = some delegate →
    p.proposed[delegate.proposal]? = some (.location delegate.locationUsage) ∧
    Proposed es delegate.proposal (.location delegate.locationUsage) .notDetermined true

variable {es : List ProposerEvent}

theorem informed_init : Informed es {} where
  answers := by simp
  mainQueue := by simp
  asked := by simp
  delegate := by simp

theorem Told.append {proposed : List PrivateResource} {answer : ProposerAnswer}
    (h : Told es proposed answer) (es' : List ProposerEvent) : Told (es ++ es') proposed answer := by
  obtain ⟨resource, hproposed, hback⟩ := h
  refine ⟨resource, hproposed, ?_⟩
  cases resource with
  | location usage =>
    obtain ⟨status, enabled, hmade, hstatus⟩ := hback
    refine ⟨status, enabled, hmade.append es', hstatus.imp_left ?_⟩
    rintro ⟨hundetermined, henabled, status', hcalled, hanswer⟩
    exact ⟨hundetermined, henabled, status', hcalled.append es', hanswer⟩
  | _ => exact Machine.Occurs.append hback es'

/-- What an answer goes back to stays there. -/
theorem Informed.append {p : Proposer} (hp : p.Informed es) (es' : List ProposerEvent) :
    p.Informed (es ++ es') where
  answers := by
    intro answer hanswer
    exact (hp.answers answer hanswer).append es'
  mainQueue := by
    intro block hblock answer haction
    exact (hp.mainQueue block hblock answer haction).append es'
  asked := hp.asked
  delegate := by
    intro delegate hdelegate
    obtain ⟨hproposed, hmade⟩ := hp.delegate delegate hdelegate
    exact ⟨hproposed, hmade.append es'⟩

theorem getElem?_proposed {proposed : List PrivateResource} {n : ℕ} {resource : PrivateResource}
    (other : PrivateResource) (h : proposed[n]? = some resource) :
    (proposed ++ [other])[n]? = some resource := by
  rw [List.getElem?_append_left (List.getElem?_eq_some_iff.mp h).1]
  exact h

/-- A new proposal changes nothing for those before. -/
theorem Informed.propose {p : Proposer} (hp : p.Informed es) (resource : PrivateResource) :
    Informed es { p with proposed := p.proposed ++ [resource] } where
  answers := by
    intro answer hanswer
    obtain ⟨resource', hproposed, hback⟩ := hp.answers answer hanswer
    exact ⟨resource', getElem?_proposed resource hproposed, hback⟩
  mainQueue := by
    intro block hblock answer haction
    obtain ⟨resource', hproposed, hback⟩ := hp.mainQueue block hblock answer haction
    exact ⟨resource', getElem?_proposed resource hproposed, hback⟩
  asked := by
    intro n hn
    obtain ⟨resource', hproposed, hother⟩ := hp.asked n hn
    exact ⟨resource', getElem?_proposed resource hproposed, hother⟩
  delegate := by
    intro delegate hdelegate
    obtain ⟨hproposed, hmade⟩ := hp.delegate delegate hdelegate
    exact ⟨getElem?_proposed resource hproposed, hmade⟩

theorem Informed.answer {p : Proposer} (hp : p.Informed es) {answer : ProposerAnswer}
    (h : Told es p.proposed answer) : (p.answer answer).Informed es := by
  refine ⟨?_, hp.mainQueue, hp.asked, hp.delegate⟩
  intro answer' hanswer'
  rcases List.mem_append.mp hanswer' with hanswer' | hanswer'
  · exact hp.answers answer' hanswer'
  · rw [List.mem_singleton.mp hanswer']
    exact h

theorem Informed.enqueue {p : Proposer} (hp : p.Informed es) {block : MainBlock}
    (h : ∀ answer, block.action = some answer → Told es p.proposed answer) :
    Informed es { p with mainQueue := p.mainQueue ++ [block] } := by
  refine ⟨hp.answers, ?_, hp.asked, hp.delegate⟩
  intro block' hblock'
  rcases List.mem_append.mp hblock' with hblock' | hblock'
  · exact hp.mainQueue block' hblock'
  · rw [List.mem_singleton.mp hblock']
    exact h

/-- What a status means to the delegate. -/
theorem told_of_action {proposed : List PrivateResource} {delegate : LocationDelegate}
    {status : CLAuthorizationStatus} {answer : ProposerAnswer}
    (hproposed : proposed[delegate.proposal]? = some (.location delegate.locationUsage))
    (hmade : Proposed es delegate.proposal (.location delegate.locationUsage) .notDetermined true)
    (hcalled : Called es delegate status) (h : delegate.action status = some answer) :
    Told es proposed answer := by
  obtain ⟨proposal, usage⟩ := delegate
  have htold : ∀ agreed, status ≠ .notDetermined → status ≠ .restricted →
      (agreed = true ↔ Sufficient usage status ∧
        ¬ (usage = .whenInUse ∧ status = .authorizedAlways)) →
      Told es proposed ⟨proposal, agreed⟩ := by
    intro agreed hdetermined hrestricted hagreed
    exact ⟨_, hproposed, _, _, hmade,
      .inl ⟨rfl, rfl, status, hcalled, hdetermined, hrestricted, hagreed⟩⟩
  cases status with
  | notDetermined => cases h
  | restricted => cases h
  | denied =>
    rw [← Option.some.inj h]
    apply htold <;> cases usage <;> simp [Sufficient]
  | authorizedAlways =>
    rw [← Option.some.inj h]
    apply htold <;> cases usage <;> simp [Sufficient]
  | authorizedWhenInUse =>
    rw [← Option.some.inj h]
    apply htold <;> cases usage <;> simp [Sufficient]

theorem informed_propose {p : Proposer} (hp : p.Informed es) {resource : PrivateResource}
    {status : CLAuthorizationStatus} {enabled : Bool}
    (hmade : Proposed es p.proposed.length resource status enabled) :
    (p.proposeToAccess resource status enabled).Informed es := by
  have hnew : (p.proposed ++ [resource])[p.proposed.length]? = some resource := by simp
  have hproposed := hp.propose resource
  have hasked : (∀ usage, resource ≠ .location usage) → Informed es { p with
      proposed := p.proposed ++ [resource]
      asked := p.asked ++ [p.proposed.length] } := by
    intro hother
    refine ⟨hproposed.answers, hproposed.mainQueue, ?_, hproposed.delegate⟩
    intro n hn
    rcases List.mem_append.mp hn with hn | hn
    · exact hproposed.asked n hn
    · rw [List.mem_singleton.mp hn]
      exact ⟨resource, hnew, hother⟩
  cases resource with
  | photos => exact hasked (by simp)
  | camera => exact hasked (by simp)
  | microphone => exact hasked (by simp)
  | location usage =>
    have hanswer : ∀ agreed, ¬ (status = .notDetermined ∧ enabled = true) →
        (agreed = true ↔ Sufficient usage status) →
        ({ p with proposed := p.proposed ++ [PrivateResource.location usage] }.answer
          ⟨p.proposed.length, agreed⟩).Informed es := by
      intro agreed hdirect hagreed
      apply hproposed.answer
      exact ⟨_, hnew, status, enabled, hmade, .inr ⟨hdirect, hagreed⟩⟩
    cases status with
    | authorizedWhenInUse => apply hanswer <;> cases usage <;> simp [Sufficient]
    | authorizedAlways => apply hanswer <;> cases usage <;> simp [Sufficient]
    | restricted => apply hanswer <;> cases usage <;> simp [Sufficient]
    | denied => apply hanswer <;> cases usage <;> simp [Sufficient]
    | notDetermined =>
      cases enabled with
      | false => apply hanswer <;> cases usage <;> simp [Sufficient]
      | true =>
        refine ⟨hproposed.answers, hproposed.mainQueue, hproposed.asked, ?_⟩
        intro delegate hdelegate
        rw [← Option.some.inj hdelegate]
        exact ⟨hnew, hmade⟩

theorem informed_requestReturned {p : Proposer} (hp : p.Informed es) {proposal : ℕ}
    {granted : Bool} (hreturned : proposal ∈ p.asked → Returned es proposal granted) :
    (p.requestReturned proposal granted).Informed es := by
  unfold requestReturned
  split_ifs with hmem
  · obtain ⟨resource, hproposed, hother⟩ := hp.asked proposal hmem
    have htold : Told es p.proposed ⟨proposal, granted⟩ := by
      refine ⟨resource, hproposed, ?_⟩
      cases resource with
      | location usage => exact absurd rfl (hother usage)
      | _ => exact hreturned hmem
    have hqueued : Informed es { p with
        mainQueue := p.mainQueue ++ [.granted ⟨proposal, granted⟩] } := by
      apply hp.enqueue
      intro answer haction
      rw [← Option.some.inj haction]
      exact htold
    refine ⟨hqueued.answers, hqueued.mainQueue, ?_, hqueued.delegate⟩
    intro n hn
    exact hp.asked n (List.mem_of_mem_erase hn)
  · exact hp

theorem informed_didChangeAuthorization {p : Proposer} (hp : p.Informed es)
    {status : CLAuthorizationStatus}
    (hcalled : ∀ delegate, p.locationDelegate = some delegate → Called es delegate status) :
    (p.didChangeAuthorization status).Informed es := by
  unfold didChangeAuthorization
  cases hdelegate : p.locationDelegate with
  | none => exact hp
  | some delegate =>
    obtain ⟨hproposed, hmade⟩ := hp.delegate delegate hdelegate
    have hqueued : Informed es { p with
        mainQueue := p.mainQueue ++ [.didChangeAuthorization delegate status] } := by
      apply hp.enqueue
      intro answer haction
      exact told_of_action hproposed hmade (hcalled delegate hdelegate) haction
    rw [hdelegate] at hqueued
    exact hqueued

theorem informed_runMain {p : Proposer} (hp : p.Informed es) : p.runMain.Informed es := by
  unfold runMain
  cases hqueue : p.mainQueue with
  | nil => exact hp
  | cons block mainQueue =>
    have hblock := hp.mainQueue block (by simp [hqueue])
    have hrest : Informed es { p with mainQueue := mainQueue } := by
      refine ⟨hp.answers, ?_, hp.asked, hp.delegate⟩
      intro block' hmem
      exact hp.mainQueue block' (by simp [hqueue, hmem])
    cases block with
    | granted answer => exact hrest.answer (hblock answer rfl)
    | didChangeAuthorization delegate status =>
      simp only [runBlock]
      cases haction : delegate.action status with
      | none => exact hrest
      | some answer =>
        have hanswered := hrest.answer (hblock answer haction)
        refine ⟨hanswered.answers, hanswered.mainQueue, hanswered.asked, ?_⟩
        intro delegate hdelegate
        cases hdelegate

/-- **One step** adds its own event to what the answers can go back to. -/
theorem informed_step {p : Proposer} (hrun : machine.run {} es = .ok p) (hp : p.Informed es)
    (e : ProposerEvent) : (p.step e).Informed (es ++ [e]) := by
  have hbefore := hp.append [e]
  cases e with
  | propose resource status enabled =>
    exact informed_propose hbefore (Machine.occurs_of_step hrun ⟨rfl, rfl⟩)
  | requestReturned proposal granted =>
    exact informed_requestReturned hbefore
      (fun hmem => Machine.occurs_of_step hrun ⟨rfl, hmem⟩)
  | didChangeAuthorization status =>
    exact informed_didChangeAuthorization hbefore
      (fun _ hdelegate => Machine.occurs_of_step hrun ⟨rfl, hdelegate⟩)
  | runMain => exact informed_runMain hbefore

theorem informed_of_run {p : Proposer} (h : machine.run {} es = .ok p) : p.Informed es := by
  have hstep : ∀ es e p p', machine.run {} es = .ok p → Informed es p →
      machine.step p e = .ok p' → Informed (es ++ [e]) p' := by
    intro es e p p' hrun hp hstep
    rw [← Except.ok.inj hstep]
    exact informed_step hrun hp e
  exact Machine.run_history informed_init hstep h

/-- **Answers follow the permission.** Whatever is proposed, replaced and delivered in
    whatever order: an answer to a location proposal follows the status that the
    proposal found, or, if that was undetermined, one that its own delegate was called
    with while it had the manager; it agrees exactly if this status permits the proposed
    usage, but for the delegate of a proposal for use while the app is open that was
    told of permission at all times.  The other resources have the answer of their own
    request. -/
theorem answers_follow_status {p : Proposer} (h : machine.run {} es = .ok p) :
    ∀ answer ∈ p.answers, Told es p.proposed answer :=
  (informed_of_run h).answers

/-- The mistaken refusal. -/
theorem answers_follow_status_always : ∃ p, machine.run {} (allowed .authorizedAlways) = .ok p ∧
    p.answers = [⟨0, false⟩] ∧ Told (allowed .authorizedAlways) p.proposed ⟨0, false⟩ := by
  have hevaluated : ∃ p, machine.run {} (allowed .authorizedAlways) = .ok p ∧
      p.answers = [⟨0, false⟩] :=
    Machine.exists_run_eq_ok _ (by decide)
  obtain ⟨p, hrun, hanswers⟩ := hevaluated
  refine ⟨p, hrun, hanswers, answers_follow_status hrun _ ?_⟩
  rw [hanswers]
  exact List.mem_singleton_self _

end Proposer

end RideHitch
