import RideHitch.GeohashCells
import RideHitch.Library.Machine
import RideHitch.RouteCalculator

/-! # The polygon of the first route

    Section 1 says what the box of a list of points is, without reference to
    the arrays it is computed from.  Section 2 follows the calculator through
    any sequence of answers.  Both calculate exactly.  Section 3 reads the corner
    hashes back; there the sums are rounded to Doubles. -/

namespace RideHitch

/-! ## Section 1: Tight boxes -/

namespace RouteCalculator

/-- All points are at least the margin away from every side, and on every side
    some point is that near. -/
structure Tight (coords : List CLLocationCoordinate2D) (box : Box) : Prop where
  inside : ∀ c ∈ coords,
    box.minX + factor id ≤ c.latitude ∧ c.latitude ≤ box.maxX - factor id ∧
    box.minY + factor id ≤ c.longitude ∧ c.longitude ≤ box.maxY - factor id
  minX : ∃ c ∈ coords, c.latitude = box.minX + factor id
  maxX : ∃ c ∈ coords, c.latitude = box.maxX - factor id
  minY : ∃ c ∈ coords, c.longitude = box.minY + factor id
  maxY : ∃ c ∈ coords, c.longitude = box.maxY - factor id

theorem min?_map_eq_some_iff {α : Type} {f : α → Double} {as : List α} {x : Double} :
    (as.map f).min? = some x ↔ (∀ a ∈ as, x ≤ f a) ∧ ∃ a ∈ as, f a = x := by
  rw [List.min?_eq_some_iff, List.mem_map, List.forall_mem_map]
  exact and_comm

theorem max?_map_eq_some_iff {α : Type} {f : α → Double} {as : List α} {x : Double} :
    (as.map f).max? = some x ↔ (∀ a ∈ as, f a ≤ x) ∧ ∃ a ∈ as, f a = x := by
  rw [List.max?_eq_some_iff, List.mem_map, List.forall_mem_map]
  exact and_comm

/-- The four extrema of the arrays are those of the box without its margin. -/
theorem boundingBox_eq_ok_iff {coords : List CLLocationCoordinate2D} {box : Box} :
    boundingBox id coords = .ok box ↔
      (coords.map (·.latitude)).min? = some (box.minX + factor id) ∧
      (coords.map (·.latitude)).max? = some (box.maxX - factor id) ∧
      (coords.map (·.longitude)).min? = some (box.minY + factor id) ∧
      (coords.map (·.longitude)).max? = some (box.maxY - factor id) := by
  constructor
  · intro h
    obtain ⟨minLat, hminLat, h⟩ := bind_eq_ok.mp h
    obtain ⟨maxLat, hmaxLat, h⟩ := bind_eq_ok.mp h
    obtain ⟨minLong, hminLong, h⟩ := bind_eq_ok.mp h
    obtain ⟨maxLong, hmaxLong, rfl⟩ := bind_pure_eq_ok.mp h
    simp only [id_eq, sub_add_cancel, add_sub_cancel_right]
    exact ⟨unwrap_eq_ok.mp hminLat, unwrap_eq_ok.mp hmaxLat, unwrap_eq_ok.mp hminLong,
      unwrap_eq_ok.mp hmaxLong⟩
  · intro hextrema
    obtain ⟨hminLat, hmaxLat, hminLong, hmaxLong⟩ := hextrema
    simp only [boundingBox, hminLat, hmaxLat, hminLong, hmaxLong, unwrap_some, ok_bind,
      id_eq, add_sub_cancel_right, sub_add_cancel]
    rfl

/-- **The box.** What is computed from the arrays is the tight box. -/
theorem boundingBox_eq_ok_iff_tight {coords : List CLLocationCoordinate2D} {box : Box} :
    boundingBox id coords = .ok box ↔ Tight coords box := by
  rw [boundingBox_eq_ok_iff, min?_map_eq_some_iff, max?_map_eq_some_iff, min?_map_eq_some_iff,
    max?_map_eq_some_iff]
  constructor
  · intro hextrema
    obtain ⟨⟨hminX, minX⟩, ⟨hmaxX, maxX⟩, ⟨hminY, minY⟩, hmaxY, maxY⟩ := hextrema
    refine ⟨?_, minX, maxX, minY, maxY⟩
    intro c hc
    exact ⟨hminX c hc, hmaxX c hc, hminY c hc, hmaxY c hc⟩
  · intro h
    refine ⟨⟨?_, h.minX⟩, ⟨?_, h.maxX⟩, ⟨?_, h.minY⟩, ?_, h.maxY⟩
    · intro c hc
      exact (h.inside c hc).1
    · intro c hc
      exact (h.inside c hc).2.1
    · intro c hc
      exact (h.inside c hc).2.2.1
    · intro c hc
      exact (h.inside c hc).2.2.2

theorem Tight.of_mem_iff {coords coords' : List CLLocationCoordinate2D} {box : Box}
    (hmem : ∀ c, c ∈ coords ↔ c ∈ coords') (h : Tight coords box) : Tight coords' box where
  inside := by
    intro c hc
    exact h.inside c ((hmem c).mpr hc)
  minX := by simpa only [hmem] using h.minX
  maxX := by simpa only [hmem] using h.maxX
  minY := by simpa only [hmem] using h.minY
  maxY := by simpa only [hmem] using h.maxY

end RouteCalculator

/-! ## Section 2: Runs of answers -/

/-- A failure, or at least one route, and every route with points. -/
def DirectionsAnswer.Usable : DirectionsAnswer → Prop
  | .failed => True
  | .answered routes => ∃ route others, routes = some (route :: others) ∧
      ∀ r ∈ route :: others, r.polyline ≠ []

/-- The same points, in any order and each any number of times. -/
def MKRoute.SamePoints (route route' : MKRoute) : Prop :=
  ∀ c, c ∈ route.polyline ↔ c ∈ route'.polyline

/-- Two answers that differ only in the order and the repetition of points. -/
inductive DirectionsAnswer.SamePoints : DirectionsAnswer → DirectionsAnswer → Prop where
  | failed : SamePoints .failed .failed
  | answered {routes routes' : List MKRoute} (h : List.Forall₂ MKRoute.SamePoints routes routes') :
      SamePoints (.answered (some routes)) (.answered (some routes'))

namespace RouteCalculator

variable {describe : Double → String}

variable (describe) in
/-- The calculator from its start, one answer at a time. -/
def machine : Machine RouteCalculator DirectionsAnswer Trap where
  init := {}
  step rc answer := do
    let result ← directionsHandler id describe rc answer
    return result.1

/-- The fields that `calculatePolygonForRoute` derives. -/
def derived (rc : RouteCalculator) :
    Option (List CLLocationCoordinate2D) × Option (List String) × Option String :=
  (rc.routePolygonPoints, rc.routePolygonValues, rc.routePolygonGeohash)

variable (describe) in
/-- The derived fields are the tight box of the first route, as corners in cyclic
    order and as texts that survive being joined with commas. -/
structure TightPolygon (rc : RouteCalculator) (route : MKRoute) (box : Box) : Prop where
  first : ∃ others, rc.routes = some (route :: others)
  tight : Tight route.polyline box
  corners : rc.routePolygonPoints = some [⟨box.minX, box.minY⟩, ⟨box.maxX, box.minY⟩,
    ⟨box.maxX, box.maxY⟩, ⟨box.minX, box.maxY⟩]
  values : ∃ values, rc.routePolygonValues = some values ∧
    components (",".intercalate values) ',' =
      [describe box.minX, describe box.minY, describe box.maxX, describe box.maxY]

theorem FromRoute.tightPolygon {rc : RouteCalculator} {route : MKRoute} {box : Box}
    (hcomma : ∀ d, ',' ∉ (describe d).toList) (h : rc.FromRoute id describe route box) :
    rc.TightPolygon describe route box where
  first := h.routes
  tight := boundingBox_eq_ok_iff_tight.mp h.bounds
  corners := h.points
  values := by
    refine ⟨box.values describe, h.values, ?_⟩
    apply components_intercalate
    · simp [Box.values]
    · simp [Box.values, hcomma]

/-- The derived fields are a function of the box. -/
theorem FromRoute.derived_eq {rc rc' : RouteCalculator} {route route' : MKRoute} {box : Box}
    (h : rc.FromRoute id describe route box) (h' : rc'.FromRoute id describe route' box) :
    rc'.derived = rc.derived := by
  obtain ⟨hash, hhash, hgeohash⟩ := h.geohash
  obtain ⟨hash', hhash', hgeohash'⟩ := h'.geohash
  have hsame : hash' = hash := Except.ok.inj (hhash'.symm.trans hhash)
  simp only [derived, h.points, h.values, hgeohash, h'.points, h'.values, hgeohash', hsame]

theorem step_failed (rc : RouteCalculator) : (machine describe).step rc .failed = .ok rc := rfl

theorem step_eq_ok {rc rc' : RouteCalculator} {answer : DirectionsAnswer}
    (h : (machine describe).step rc answer = .ok rc') :
    (answer = .failed ∧ rc' = rc) ∨
    (∃ routes, answer = .answered (some routes) ∧ rc'.routes = some routes ∧
      ∃ route box, rc'.FromRoute id describe route box) := by
  obtain ⟨⟨rc₁, posted⟩, hhandler, rfl⟩ := bind_pure_eq_ok.mp h
  rcases directionsHandler_eq_ok hhandler with
    ⟨hfailed, hsame, _⟩ | ⟨_, routes, hanswer, hroutes, hfrom⟩
  · exact .inl ⟨hfailed, hsame⟩
  · exact .inr ⟨routes, hanswer, hroutes, hfrom⟩

/-- A response whose first route has a tight box goes through and derives that box. -/
theorem step_answered (rc : RouteCalculator) {route : MKRoute} {box : Box}
    (others : List MKRoute) (h : Tight route.polyline box) :
    ∃ rc', (machine describe).step rc (.answered (some (route :: others))) = .ok rc' ∧
      rc'.FromRoute id describe route box := by
  have hne : route.polyline ≠ [] := by
    obtain ⟨c, hc, _⟩ := h.minX
    exact List.ne_nil_of_mem hc
  obtain ⟨rc', box', hhandler, _, hfrom⟩ := directionsHandler_ok id describe rc others hne
  -- the box of the route is unique
  have hbox : box' = box := by
    have hbounds := boundingBox_eq_ok_iff_tight.mpr h
    exact Except.ok.inj (hfrom.bounds.symm.trans hbounds)
  exact ⟨rc', bind_pure_eq_ok.mpr ⟨(rc', true), hhandler, rfl⟩, hbox ▸ hfrom⟩

/-- No usable answer traps. -/
theorem step_usable (rc : RouteCalculator) (answer : DirectionsAnswer) (h : answer.Usable) :
    ∃ rc', (machine describe).step rc answer = .ok rc' := by
  cases answer with
  | failed => exact ⟨rc, rfl⟩
  | answered routes =>
    obtain ⟨route, others, rfl, hpoints⟩ := h
    obtain ⟨box, hbox⟩ := boundingBox_ok id (hpoints route List.mem_cons_self)
    obtain ⟨rc', hstep, _⟩ := step_answered rc others (boundingBox_eq_ok_iff_tight.mp hbox)
    exact ⟨rc', hstep⟩

variable (describe) in
/-- The derived fields are nil together, or all come from the first route. -/
def DerivedInv (rc : RouteCalculator) : Prop :=
  rc.derived = (none, none, none) ∨ ∃ route box, rc.FromRoute id describe route box

theorem derivedInv_init : DerivedInv describe {} := .inl rfl

theorem derivedInv_step {rc rc' : RouteCalculator} {answer : DirectionsAnswer}
    (hinv : rc.DerivedInv describe) (h : (machine describe).step rc answer = .ok rc') :
    rc'.DerivedInv describe := by
  rcases step_eq_ok h with ⟨_, rfl⟩ | ⟨_, _, _, hfrom⟩
  · exact hinv
  · exact .inr hfrom

/-- Answers with the same points derive the same fields. -/
theorem samePoints_of_step {rc rc₁ rc' : RouteCalculator} {answer answer' : DirectionsAnswer}
    (hderived : rc₁.derived = rc.derived) (hsame : answer.SamePoints answer')
    (h : (machine describe).step rc answer = .ok rc') :
    ∃ rc₁', (machine describe).step rc₁ answer' = .ok rc₁' ∧ rc₁'.derived = rc'.derived := by
  rcases step_eq_ok h with ⟨rfl, rfl⟩ | ⟨routes, rfl, hroutes, route, box, hfrom⟩
  · cases hsame with
    | failed => exact ⟨rc₁, rfl, hderived⟩
  · cases hsame with
    | answered hsame =>
      obtain ⟨others, hothers⟩ := hfrom.routes
      obtain rfl := Option.some.inj (hroutes.symm.trans hothers)
      cases hsame with
      | cons hfirst _ =>
        -- the other first route has the same box
        have htight := (boundingBox_eq_ok_iff_tight.mp hfrom.bounds).of_mem_iff hfirst
        obtain ⟨rc₁', hstep, hfrom'⟩ := step_answered rc₁ _ htight
        exact ⟨rc₁', hstep, hfrom.derived_eq hfrom'⟩

/-- In any state that answers lead to, the derived fields are nil or the tight box. -/
theorem tightPolygon_of_answers (hcomma : ∀ d, ',' ∉ (describe d).toList) {rc : RouteCalculator}
    {answers : List DirectionsAnswer} (h : (machine describe).run {} answers = .ok rc) :
    rc.derived = (none, none, none) ∨ ∃ route box, rc.TightPolygon describe route box := by
  have hstep : ∀ rc answer rc', rc.DerivedInv describe →
      (machine describe).step rc answer = .ok rc' → rc'.DerivedInv describe := by
    intro rc answer rc' hinv h
    exact derivedInv_step hinv h
  rcases Machine.run_preserves hstep derivedInv_init h with hnil | ⟨route, box, hfrom⟩
  · exact .inl hnil
  · exact .inr ⟨route, box, hfrom.tightPolygon hcomma⟩

/-- **Every run.** Whatever usable answers come in, none traps, and in the state
    reached the derived fields are nil or the tight box of the first route.  They
    do not depend on the order and the repetition of the points of any route, and
    a failed answer changes nothing. -/
theorem tightPolygon_of_run (hcomma : ∀ d, ',' ∉ (describe d).toList)
    {answers : List DirectionsAnswer} (husable : ∀ answer ∈ answers, answer.Usable) :
    ∃ rc, (machine describe).run {} answers = .ok rc ∧
      (rc.derived = (none, none, none) ∨ ∃ route box, rc.TightPolygon describe route box) ∧
      (∀ answers', List.Forall₂ DirectionsAnswer.SamePoints answers answers' →
        ∃ rc', (machine describe).run {} answers' = .ok rc' ∧ rc'.derived = rc.derived) ∧
      (machine describe).step rc .failed = .ok rc := by
  obtain ⟨rc, hrun⟩ := Machine.exists_run (M := machine describe) step_usable {} husable
  refine ⟨rc, hrun, ?_, ?_, step_failed rc⟩
  · exact tightPolygon_of_answers hcomma hrun
  · intro answers' hsame
    have hstep : ∀ rc rc₁ answer answer' rc', rc₁.derived = rc.derived →
        answer.SamePoints answer' → (machine describe).step rc answer = .ok rc' →
        ∃ rc₁', (machine describe).step rc₁ answer' = .ok rc₁' ∧ rc₁'.derived = rc'.derived := by
      intro rc rc₁ answer answer' rc' hderived hsame h
      exact samePoints_of_step hderived hsame h
    exact Machine.run_simulates hstep rfl hsame hrun

/-- A route, a response with it and a failure, and the decimals of its corners. -/
def sampleAnswers : List DirectionsAnswer :=
  [.answered (some [⟨[⟨1, 2⟩, ⟨3, 5⟩, ⟨2, 2⟩]⟩]), .failed]

def describeSample (x : Double) : String :=
  if x = 995 / 1000 then "0.995"
  else if x = 1995 / 1000 then "1.995"
  else if x = 3005 / 1000 then "3.005"
  else "5.005"

theorem comma_not_mem_describeSample (d : Double) : ',' ∉ (describeSample d).toList := by
  unfold describeSample
  split_ifs
  · decide
  · decide
  · decide
  · decide

theorem usable_sampleAnswers : ∀ answer ∈ sampleAnswers, answer.Usable := by
  intro answer hanswer
  simp only [sampleAnswers, List.mem_cons, List.not_mem_nil, or_false] at hanswer
  rcases hanswer with rfl | rfl
  · exact ⟨_, [], rfl, by simp⟩
  · trivial

theorem tightPolygon_of_run_sample :
    ∃ rc, (machine describeSample).run {} sampleAnswers = .ok rc ∧
      ∃ route box, rc.TightPolygon describeSample route box := by
  have hevaluated : ∃ rc, (machine describeSample).run {} sampleAnswers = .ok rc ∧
      rc.derived ≠ (none, none, none) :=
    Machine.exists_run_eq_ok _ (by decide +kernel)
  obtain ⟨rc, hrun, hne⟩ := hevaluated
  obtain ⟨rc', hrun', hpolygon, _⟩ :=
    tightPolygon_of_run comma_not_mem_describeSample usable_sampleAnswers
  obtain rfl := Except.ok.inj (hrun'.symm.trans hrun)
  exact ⟨rc', hrun, hpolygon.resolve_left hne⟩

/-! ## Section 3: The margin of Doubles -/

/-- The values of the literals. -/
theorem factor_round : factor Double.round = 5764607523034235 * 2 ^ (-60 : ℤ) := by
  have hround := Double.round_eq (x := 5 / 1000) (k := -8) (n := 5764607523034235) (by norm_num)
    (by norm_num) (by norm_num) (by norm_num [abs_lt])
  rw [factor, hround]
  norm_num

theorem round_89_995 : Double.round (89995 / 1000) = 6332835132268872 * 2 ^ (-46 : ℤ) :=
  Double.round_eq (k := 6) (n := 6332835132268872) (by norm_num) (by norm_num) (by norm_num)
    (by norm_num [abs_lt])

theorem round_179_995 : Double.round (179995 / 1000) = 6333011054129316 * 2 ^ (-45 : ℤ) :=
  Double.round_eq (k := 7) (n := 6333011054129316) (by norm_num) (by norm_num) (by norm_num)
    (by norm_num [abs_lt])

/-- A literal of `n` last places is the last Double whose sum with the margin is not
    above the bound. -/
theorem round_add_factor_le_iff {bound literal : Double} {k n : ℤ}
    (hliteral : literal = n * 2 ^ (k - 52)) (hk : 2 ^ k ≤ literal)
    (hlast : Double.round (n * 2 ^ (k - 52) + factor Double.round) ≤ bound)
    (hnext : bound < Double.round ((n + 1) * 2 ^ (k - 52) + factor Double.round))
    {x : Double} (hx : IsDouble x) :
    Double.round (x + factor Double.round) ≤ bound ↔ x ≤ literal := by
  have hplace : k - Double.format.precision + 1 = k - 52 := by
    simp only [Double.format]
    push_cast
    ring
  have hradix : ((Double.format.radix : ℕ) : Double) = 2 := rfl
  have hiff := Rounding.Format.round_add_le_iff (F := Double.format) (k := k) (n := n)
    (y := factor Double.round) (b := bound)
  rw [hplace, hradix] at hiff
  rw [hliteral] at hk ⊢
  refine hiff hk hlast ?_ hx
  push_cast
  exact hnext

theorem round_add_le_90_iff {x : Double} (hx : IsDouble x) :
    Double.round (x + factor Double.round) ≤ 90 ↔ x ≤ Double.round (89995 / 1000) := by
  have hlast : Double.round (6332835132268872 * 2 ^ (-46 : ℤ) + 5764607523034235 * 2 ^ (-60 : ℤ)) =
      6333186975989760 * 2 ^ (-46 : ℤ) :=
    Double.round_eq (k := 6) (n := 6333186975989760) (by norm_num) (by norm_num) (by norm_num)
      (by norm_num [abs_lt])
  have hnext : Double.round (6332835132268873 * 2 ^ (-46 : ℤ) + 5764607523034235 * 2 ^ (-60 : ℤ)) =
      6333186975989761 * 2 ^ (-46 : ℤ) :=
    Double.round_eq (k := 6) (n := 6333186975989761) (by norm_num) (by norm_num) (by norm_num)
      (by norm_num [abs_lt])
  apply round_add_factor_le_iff (k := 6) round_89_995 _ _ _ hx
  · rw [round_89_995]
    norm_num
  · rw [factor_round]
    norm_num at hlast ⊢
    rw [hlast]
  · rw [factor_round]
    norm_num at hnext ⊢
    rw [hnext]
    norm_num

theorem round_add_le_180_iff {x : Double} (hx : IsDouble x) :
    Double.round (x + factor Double.round) ≤ 180 ↔ x ≤ Double.round (179995 / 1000) := by
  have hlast : Double.round (6333011054129316 * 2 ^ (-45 : ℤ) + 5764607523034235 * 2 ^ (-60 : ℤ)) =
      6333186975989760 * 2 ^ (-45 : ℤ) :=
    Double.round_eq (k := 7) (n := 6333186975989760) (by norm_num) (by norm_num) (by norm_num)
      (by norm_num [abs_lt])
  have hnext : Double.round (6333011054129317 * 2 ^ (-45 : ℤ) + 5764607523034235 * 2 ^ (-60 : ℤ)) =
      6333186975989761 * 2 ^ (-45 : ℤ) :=
    Double.round_eq (k := 7) (n := 6333186975989761) (by norm_num) (by norm_num) (by norm_num)
      (by norm_num [abs_lt])
  apply round_add_factor_le_iff (k := 7) round_179_995 _ _ _ hx
  · rw [round_179_995]
    norm_num
  · rw [factor_round]
    norm_num at hlast ⊢
    rw [hlast]
  · rw [factor_round]
    norm_num at hnext ⊢
    rw [hnext]
    norm_num

theorem round_sub_eq (x y : Double) : Double.round (x - y) = -Double.round (-x + y) := by
  have hneg : x - y = -(-x + y) := by ring
  rw [hneg, Double.round, Rounding.Format.round_neg]

theorem le_round_sub_90_iff {x : Double} (hx : IsDouble x) :
    -90 ≤ Double.round (x - factor Double.round) ↔ -Double.round (89995 / 1000) ≤ x := by
  have hiff := round_add_le_90_iff (Rounding.Format.Representable.neg hx)
  rw [round_sub_eq, neg_le_neg_iff, hiff]
  exact neg_le

theorem le_round_sub_180_iff {x : Double} (hx : IsDouble x) :
    -180 ≤ Double.round (x - factor Double.round) ↔ -Double.round (179995 / 1000) ≤ x := by
  have hiff := round_add_le_180_iff (Rounding.Format.Representable.neg hx)
  rw [round_sub_eq, neg_le_neg_iff, hiff]
  exact neg_le

/-- The lower sides of a box are not above its upper sides. -/
theorem round_sub_le_round_add {x y : Double} (h : x ≤ y) :
    Double.round (x - factor Double.round) ≤ Double.round (y + factor Double.round) := by
  apply Double.format.round_mono
  have hpos : 0 ≤ factor Double.round := by
    rw [factor_round]
    positivity
  linarith

/-! ## Section 4: The hashes of the corners -/

/-- The hash has ten characters, and decoding it gives ranges around the corner. -/
structure Denotes (hash : String) (corner : CLLocationCoordinate2D) : Prop where
  length : hash.length = 10
  ranges : ∃ lat lon, Geohash.decode Double.round (characters hash) = some (lat, lon) ∧
    lat.1 ≤ corner.latitude ∧ corner.latitude ≤ lat.2 ∧
    lon.1 ≤ corner.longitude ∧ corner.longitude ≤ lon.2

/-- There are four corners, all of them valid coordinates, and as many hashes, each
    of which denotes its corner. -/
structure CornersDenoted (rc : RouteCalculator) : Prop where
  denoted : ∃ corners hash, rc.routePolygonPoints = some corners ∧
    rc.routePolygonGeohash = some hash ∧ corners.length = 4 ∧
    (∀ corner ∈ corners, Geohash.OnGlobe corner.latitude corner.longitude) ∧
    List.Forall₂ Denotes (components hash '_') corners

/-- The coordinates of the point are Doubles. -/
structure OfDoubles (c : CLLocationCoordinate2D) : Prop where
  latitude : IsDouble c.latitude
  longitude : IsDouble c.longitude

/-- The point keeps the margin from the edges of the coordinate domain: it lies
    between the Doubles of these literals. -/
structure Inset (c : CLLocationCoordinate2D) : Prop where
  latitude_ge : -Double.round (89995 / 1000) ≤ c.latitude
  latitude_le : c.latitude ≤ Double.round (89995 / 1000)
  longitude_ge : -Double.round (179995 / 1000) ≤ c.longitude
  longitude_le : c.longitude ≤ Double.round (179995 / 1000)

theorem Box.geohash_eq_ok {round : Double → Double} {box : Box} {hash : String}
    (h : box.geohash round = .ok hash) :
    ∃ hash1 hash2 hash3 hash4, hash = "_".intercalate [hash1, hash2, hash3, hash4] ∧
      Geohash.encode round box.point1.latitude box.point1.longitude 10 = .ok hash1 ∧
      Geohash.encode round box.point2.latitude box.point2.longitude 10 = .ok hash2 ∧
      Geohash.encode round box.point3.latitude box.point3.longitude 10 = .ok hash3 ∧
      Geohash.encode round box.point4.latitude box.point4.longitude 10 = .ok hash4 := by
  obtain ⟨hash1, h1, h⟩ := bind_eq_ok.mp h
  obtain ⟨hash2, h2, h⟩ := bind_eq_ok.mp h
  obtain ⟨hash3, h3, h⟩ := bind_eq_ok.mp h
  obtain ⟨hash4, h4, rfl⟩ := bind_pure_eq_ok.mp h
  exact ⟨hash1, hash2, hash3, hash4, rfl, h1, h2, h3, h4⟩

/-- The separator is not a character of a hash. -/
theorem underscore_not_mem_of_encode {round : Double → Double} {latitude longitude : Double}
    {length : ℕ} {hash : String} (h : Geohash.encode round latitude longitude length = .ok hash) :
    '_' ∉ hash.toList := by
  intro hmem
  have hnot : '_' ∉ Geohash.alphabet := by decide
  exact hnot ((Geohash.encode_eq_ok h).2 '_' hmem)

theorem denotes_of_encode {corner : CLLocationCoordinate2D} {hash : String}
    (hglobe : Geohash.OnGlobe corner.latitude corner.longitude)
    (h : Geohash.encode Double.round corner.latitude corner.longitude 10 = .ok hash) :
    Denotes hash corner := by
  -- ten characters are calculated exactly
  rw [Geohash.encode_round (by decide)] at h
  have hkey := Geohash.encode_eq_gridKey hglobe 5
  obtain rfl := Except.ok.inj (hkey.symm.trans h)
  have hlength := Geohash.length_gridKey 5 (Geohash.latitudeIndex (5 * 5) corner.latitude)
    (Geohash.longitudeIndex (5 * 5) corner.longitude)
  refine ⟨hlength, ?_⟩
  rw [Geohash.decode_round (by rw [length_characters, hlength]; decide)]
  exact Geohash.decode_encode hglobe 5

/-- The extrema that the sides of a box are calculated from. -/
theorem boundingBox_eq_ok {round : Double → Double} {coords : List CLLocationCoordinate2D}
    {box : Box} (h : boundingBox round coords = .ok box) :
    ∃ minLat maxLat minLong maxLong,
      (coords.map (·.latitude)).min? = some minLat ∧
      (coords.map (·.latitude)).max? = some maxLat ∧
      (coords.map (·.longitude)).min? = some minLong ∧
      (coords.map (·.longitude)).max? = some maxLong ∧
      box = ⟨round (minLat - factor round), round (maxLat + factor round),
        round (minLong - factor round), round (maxLong + factor round)⟩ := by
  obtain ⟨minLat, hminLat, h⟩ := bind_eq_ok.mp h
  obtain ⟨maxLat, hmaxLat, h⟩ := bind_eq_ok.mp h
  obtain ⟨minLong, hminLong, h⟩ := bind_eq_ok.mp h
  obtain ⟨maxLong, hmaxLong, rfl⟩ := bind_pure_eq_ok.mp h
  exact ⟨minLat, maxLat, minLong, maxLong, unwrap_eq_ok.mp hminLat, unwrap_eq_ok.mp hmaxLat,
    unwrap_eq_ok.mp hminLong, unwrap_eq_ok.mp hmaxLong, rfl⟩

/-- The corners of the box of Doubles are valid exactly if its points are inset. -/
theorem onGlobe_iff {coords : List CLLocationCoordinate2D} {box : Box}
    (hdoubles : ∀ c ∈ coords, OfDoubles c) (h : boundingBox Double.round coords = .ok box) :
    (∀ corner ∈ box.points, Geohash.OnGlobe corner.latitude corner.longitude) ↔
      ∀ c ∈ coords, Inset c := by
  obtain ⟨minLat, maxLat, minLong, maxLong, hminLat, hmaxLat, hminLong, hmaxLong, rfl⟩ :=
    boundingBox_eq_ok h
  obtain ⟨hminX, south, hsouth, rfl⟩ := min?_map_eq_some_iff.mp hminLat
  obtain ⟨hmaxX, north, hnorth, rfl⟩ := max?_map_eq_some_iff.mp hmaxLat
  obtain ⟨hminY, west, hwest, rfl⟩ := min?_map_eq_some_iff.mp hminLong
  obtain ⟨hmaxY, east, heast, rfl⟩ := max?_map_eq_some_iff.mp hmaxLong
  have hsouthern := le_round_sub_90_iff (hdoubles south hsouth).latitude
  have hnorthern := round_add_le_90_iff (hdoubles north hnorth).latitude
  have hwestern := le_round_sub_180_iff (hdoubles west hwest).longitude
  have heastern := round_add_le_180_iff (hdoubles east heast).longitude
  constructor
  · intro hcorners c hc
    -- two opposite corners have all four sides
    simp only [Box.points, List.forall_mem_cons] at hcorners
    obtain ⟨h1, _, h3, _⟩ := hcorners
    constructor
    · exact (hsouthern.mp h1.latitude_ge).trans (hminX c hc)
    · exact (hmaxX c hc).trans (hnorthern.mp h3.latitude_le)
    · exact (hwestern.mp h1.longitude_ge).trans (hminY c hc)
    · exact (hmaxY c hc).trans (heastern.mp h3.longitude_le)
  · intro hinset
    have hminX_ge := hsouthern.mpr (hinset south hsouth).latitude_ge
    have hmaxX_le := hnorthern.mpr (hinset north hnorth).latitude_le
    have hminY_ge := hwestern.mpr (hinset west hwest).longitude_ge
    have hmaxY_le := heastern.mpr (hinset east heast).longitude_le
    have hX := round_sub_le_round_add (hminX north hnorth)
    have hY := round_sub_le_round_add (hminY east heast)
    intro corner hcorner
    simp only [Box.points, List.mem_cons, List.not_mem_nil, or_false] at hcorner
    rcases hcorner with rfl | rfl | rfl | rfl
    · exact ⟨hminX_ge, hX.trans hmaxX_le, hminY_ge, hY.trans hmaxY_le⟩
    · exact ⟨hminX_ge.trans hX, hmaxX_le, hminY_ge, hY.trans hmaxY_le⟩
    · exact ⟨hminX_ge.trans hX, hmaxX_le, hminY_ge.trans hY, hmaxY_le⟩
    · exact ⟨hminX_ge, hX.trans hmaxX_le, hminY_ge.trans hY, hmaxY_le⟩

/-- The corners of a derived polygon are denoted exactly if they are valid. -/
theorem FromRoute.cornersDenoted_iff_inset {rc : RouteCalculator} {route : MKRoute} {box : Box}
    (hdoubles : ∀ c ∈ route.polyline, OfDoubles c)
    (h : rc.FromRoute Double.round describe route box) :
    rc.CornersDenoted ↔ ∀ c ∈ route.polyline, Inset c := by
  rw [← onGlobe_iff hdoubles h.bounds]
  constructor
  · intro hdenoted
    obtain ⟨corners, hash, hcorners, _, _, hglobe, _⟩ := hdenoted
    rw [h.points] at hcorners
    obtain rfl := Option.some.inj hcorners
    exact hglobe
  · intro hglobe
    obtain ⟨hash, hhash, hgeohash⟩ := h.geohash
    obtain ⟨hash1, hash2, hash3, hash4, hjoin, h1, h2, h3, h4⟩ := Box.geohash_eq_ok hhash
    have hparts : components hash '_' = [hash1, hash2, hash3, hash4] := by
      rw [hjoin]
      apply components_intercalate
      · simp
      · simp only [List.forall_mem_cons]
        exact ⟨underscore_not_mem_of_encode h1, underscore_not_mem_of_encode h2,
          underscore_not_mem_of_encode h3, underscore_not_mem_of_encode h4, by simp⟩
    refine ⟨box.points, hash, h.points, hgeohash, rfl, hglobe, ?_⟩
    rw [hparts]
    simp only [Box.points, List.forall_mem_cons] at hglobe
    obtain ⟨hglobe1, hglobe2, hglobe3, hglobe4, _⟩ := hglobe
    exact .cons (denotes_of_encode hglobe1 h1) (.cons (denotes_of_encode hglobe2 h2)
      (.cons (denotes_of_encode hglobe3 h3) (.cons (denotes_of_encode hglobe4 h4) .nil)))

/-- **Corner hashes.** For a route of Doubles with points, the four corners are valid
    and denoted by their hashes exactly if every point of the route keeps the margin
    from the poles and from the antimeridian. -/
theorem corners_denoted_iff {rc : RouteCalculator} {route : MKRoute} {others : List MKRoute}
    (hroutes : rc.routes = some (route :: others)) (hpoints : route.polyline ≠ [])
    (hdoubles : ∀ c ∈ route.polyline, OfDoubles c) :
    (∃ rc', calculatePolygonForRoute Double.round describe rc = .ok rc' ∧ rc'.CornersDenoted) ↔
      ∀ c ∈ route.polyline, Inset c := by
  obtain ⟨rc', box, hcalc, _, hfrom⟩ :=
    calculatePolygonForRoute_ok Double.round describe hroutes hpoints
  rw [← hfrom.cornersDenoted_iff_inset hdoubles]
  constructor
  · intro hok
    obtain ⟨rc₁, hcalc₁, hdenoted⟩ := hok
    obtain rfl := Except.ok.inj (hcalc₁.symm.trans hcalc)
    exact hdenoted
  · intro hdenoted
    exact ⟨rc', hcalc, hdenoted⟩

/-- The point on the northern edge of the condition. -/
def nearPole : CLLocationCoordinate2D := ⟨Double.round (89995 / 1000), 2⟩

theorem ofDoubles_nearPole : OfDoubles nearPole where
  latitude := isDouble_iff.mpr
    ⟨6332835132268872, -46, by norm_num, by norm_num, round_89_995⟩
  longitude := isDouble_iff.mpr ⟨2, 0, by norm_num, by norm_num, by norm_num [nearPole]⟩

/-- Its northern corners are at the pole. -/
theorem corners_denoted_iff_nearPole :
    ∃ rc', calculatePolygonForRoute Double.round describeSample
      { routes := some [⟨[nearPole]⟩] } = .ok rc' ∧ rc'.CornersDenoted := by
  have hdoubles : ∀ c ∈ [nearPole], OfDoubles c := by
    intro c hc
    rw [List.mem_singleton.mp hc]
    exact ofDoubles_nearPole
  refine (corners_denoted_iff rfl (by simp) hdoubles).mpr ?_
  intro c hc
  rw [List.mem_singleton.mp hc]
  constructor
  · simp only [nearPole, round_89_995]
    norm_num
  · exact le_rfl
  · simp only [nearPole, round_179_995]
    norm_num
  · simp only [nearPole, round_179_995]
    norm_num

/-- The point at the equator and the longitude `179.999`. -/
def nearAntimeridian : CLLocationCoordinate2D := ⟨0, Double.round (179999 / 1000)⟩

theorem round_179_999 : Double.round (179999 / 1000) = 6333151791617671 * 2 ^ (-45 : ℤ) :=
  Double.round_eq (k := 7) (n := 6333151791617671) (by norm_num) (by norm_num) (by norm_num)
    (by norm_num [abs_lt])

theorem ofDoubles_nearAntimeridian : OfDoubles nearAntimeridian where
  latitude := isDouble_iff.mpr ⟨0, 0, by norm_num, by norm_num, by norm_num [nearAntimeridian]⟩
  longitude := isDouble_iff.mpr
    ⟨6333151791617671, -45, by norm_num, by norm_num, round_179_999⟩

/-- Within half a kilometre of the antimeridian the eastern corners get a longitude
    above 180, which no hash denotes. -/
theorem corners_beyond_antimeridian :
    OfDoubles nearAntimeridian ∧
    Geohash.OnGlobe nearAntimeridian.latitude nearAntimeridian.longitude ∧
    ∃ rc', calculatePolygonForRoute Double.round describeSample
      { routes := some [⟨[nearAntimeridian]⟩] } = .ok rc' ∧ ¬ rc'.CornersDenoted := by
  refine ⟨ofDoubles_nearAntimeridian, ?_, ?_⟩
  · constructor <;> simp only [nearAntimeridian, round_179_999] <;> norm_num
  · have hfirst : ({ routes := some [⟨[nearAntimeridian]⟩] } : RouteCalculator).routes =
        some [⟨[nearAntimeridian]⟩] := rfl
    have hdoubles : ∀ c ∈ [nearAntimeridian], OfDoubles c := by
      intro c hc
      rw [List.mem_singleton.mp hc]
      exact ofDoubles_nearAntimeridian
    obtain ⟨rc', box, hcalc, _, hfrom⟩ :=
      calculatePolygonForRoute_ok Double.round describeSample hfirst (by simp)
    refine ⟨rc', hcalc, ?_⟩
    rw [hfrom.cornersDenoted_iff_inset hdoubles]
    intro hinset
    have hle := (hinset nearAntimeridian (by simp)).longitude_le
    simp only [nearAntimeridian, round_179_999, round_179_995] at hle
    norm_num at hle

end RouteCalculator

end RideHitch
