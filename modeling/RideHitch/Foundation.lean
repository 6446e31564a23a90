import Mathlib.Algebra.Order.Ring.Rat
import Mathlib.Data.Rat.Floor
import RideHitch.Library.Rounding

/-! # What the app takes from Swift and Foundation

    A `Double` is a rational, since every finite value of the source is one.  The
    functions that calculate take the rounding of their results: `id` is exact
    arithmetic, `Double.round` that of the source.

    A forced unwrap, an array subscript or a range that Swift would stop the
    process at is a `Trap`, which names the optional that was nil. -/

namespace RideHitch

abbrev Double := ℚ

def Double.format : Rounding.Format where
  radix := 2
  precision := 53
  emin := -1074
  one_lt_radix := Nat.one_lt_two
  precision_pos := Nat.succ_pos 52

/-- The rounding of `+`, `-`, `/` and of literals, to binary64. -/
def Double.round : Double → Double := Double.format.round

/-- The rational is a value of the type of the source. -/
def IsDouble (x : Double) : Prop := Double.format.Representable x

theorem isDouble_iff {x : Double} :
    IsDouble x ↔ ∃ m e : ℤ, |m| < 2 ^ 53 ∧ -1074 ≤ e ∧ x = m * 2 ^ e := Iff.rfl

/-- A positive rational is rounded to the `n`-th multiple of its last place. -/
theorem Double.round_eq {x : Double} {k n : ℤ} (hk : -1022 ≤ k) (hlow : 2 ^ k ≤ x)
    (hhigh : x < 2 ^ (k + 1)) (hnear : |x / 2 ^ (k - 52) - n| < 1 / 2) :
    Double.round x = n * 2 ^ (k - 52) := by
  have hpos : 0 < x := lt_of_lt_of_le (by positivity) hlow
  have hplace : max (k - (Double.format.precision - 1)) Double.format.emin = k - 52 := by
    simp only [Double.format]
    push_cast
    omega
  have hradix : ((Double.format.radix : ℕ) : Double) = 2 := rfl
  have hround := Double.format.round_eq (x := x) (k := k) (n := n)
  rw [hplace, hradix, abs_of_pos hpos] at hround
  exact hround hlow hhigh (.of_lt hnear)

/-- An `NSDate`, in seconds since 1970. -/
abbrev NSDate := Double

structure CLLocationCoordinate2D where
  latitude : Double
  longitude : Double
  deriving DecidableEq

/-- The optionals that the source unwraps by force. -/
inductive Unwrapped where
  -- `AddTripWithMapVC`
  | currentLocation | currentResult | routePolygonValues | locationManager
  | destination | placeID | routes | routePolygon
  -- `RouteCalculator`, the latter for `min()` and `max()` of the coordinate arrays
  | pointCount | extremum
  -- `Geohash`, the last element taken by the `<<` operator
  | popLast
  -- `RealmInteractor`
  | objectToDelete
  -- `ResultsMapVC` and `AcceptMatchVC`
  | indexPath | trip | selectedTrip | matchedTrip
  -- `LoginViewController`
  | userId | email | first_name | last_name | message
  -- `LambdaInteractor`
  | responseData | responseString | jsonData | jsonValue | number
  -- `ConfigureTripVC`
  | date
  deriving DecidableEq, Repr

/-- The ways in which Swift stops the process. -/
inductive Trap where
  | foundNil (what : Unwrapped)
  | indexOutOfRange
  | invalidRange
  | failedCast
  | exception
  deriving DecidableEq, Repr

/-- `value!` -/
def unwrap {α : Type*} (what : Unwrapped) : Option α → Except Trap α
  | some a => .ok a
  | none => .error (.foundNil what)

@[simp] theorem unwrap_some {α : Type*} (what : Unwrapped) (a : α) :
    unwrap what (some a) = .ok a := rfl

@[simp] theorem unwrap_none {α : Type*} (what : Unwrapped) :
    unwrap what (none : Option α) = .error (.foundNil what) := rfl

theorem unwrap_eq_ok {α : Type*} {what : Unwrapped} {value : Option α} {a : α} :
    unwrap what value = .ok a ↔ value = some a := by
  cases value with
  | none => simp
  | some b => simp

/-- `array[i]` -/
def subscript {α : Type*} (array : List α) (i : ℕ) : Except Trap α :=
  match array[i]? with
  | some a => .ok a
  | none => .error .indexOutOfRange

theorem subscript_eq_ok {α : Type*} {array : List α} {i : ℕ} {a : α} :
    subscript array i = .ok a ↔ array[i]? = some a := by
  unfold subscript
  cases array[i]? with
  | none => simp
  | some b => simp

/-- `array?[i]` -/
def optionalSubscript {α : Type*} : Option (List α) → ℕ → Except Trap (Option α)
  | some array, i => some <$> subscript array i
  | none, _ => .ok none

@[simp] theorem optionalSubscript_none {α : Type*} (i : ℕ) :
    optionalSubscript (none : Option (List α)) i = .ok none := rfl

theorem optionalSubscript_eq_ok {α : Type*} {array : Option (List α)} {i : ℕ} {a : α} :
    optionalSubscript array i = .ok (some a) ↔ (array.getD [])[i]? = some a := by
  cases array with
  | none => simp
  | some array =>
    simp only [optionalSubscript, Option.getD_some, ← subscript_eq_ok]
    cases subscript array i with
    | ok b => simp
    | error t => simp

theorem optionalSubscript_zero_eq_ok {α : Type*} {array : Option (List α)} {a : α} :
    optionalSubscript array 0 = .ok (some a) ↔ ∃ others, array = some (a :: others) := by
  rw [optionalSubscript_eq_ok]
  rcases array with _ | _ | ⟨b, others⟩
  · simp
  · simp
  · simp [eq_comm]

/-- A computation that goes on after `x` goes on with the value of `x`. -/
theorem bind_eq_ok {α β : Type} {x : Except Trap α} {f : α → Except Trap β} {b : β} :
    (x >>= f) = .ok b ↔ ∃ a, x = .ok a ∧ f a = .ok b := by
  cases x with
  | ok a => simp [bind, Except.bind]
  | error t => simp [bind, Except.bind]

/-- The last binding of a block whose result is returned. -/
theorem bind_pure_eq_ok {α β : Type} {x : Except Trap α} {f : α → β} {b : β} :
    (x >>= fun a => pure (f a)) = .ok b ↔ ∃ a, x = .ok a ∧ f a = b := by
  cases x with
  | ok a => simp [bind, Except.bind, pure, Except.pure]
  | error t => simp [bind, Except.bind]

theorem exists_bind_pure_eq_ok {α β : Type} {x : Except Trap α} {f : α → β} :
    (∃ b, (x >>= fun a => pure (f a)) = .ok b) ↔ ∃ a, x = .ok a := by
  cases x with
  | ok a => simp [bind, Except.bind, pure, Except.pure]
  | error t => simp [bind, Except.bind]

theorem pure_eq_ok {α : Type} (a : α) : (pure a : Except Trap α) = .ok a := rfl

@[simp] theorem ok_bind {α β : Type} (a : α) (f : α → Except Trap β) :
    (Except.ok a >>= f) = f a := rfl

@[simp] theorem error_bind {α β : Type} (t : Trap) (f : α → Except Trap β) :
    ((Except.error t : Except Trap α) >>= f) = .error t := rfl

/-- A loop over a list succeeds exactly if its body does at every element. -/
theorem mapM_eq_ok {α β : Type} {f : α → Except Trap β} {P : α → Prop} {g : α → β}
    (hf : ∀ a b, f a = .ok b ↔ P a ∧ b = g a) {as : List α} {bs : List β} :
    as.mapM f = .ok bs ↔ (∀ a ∈ as, P a) ∧ bs = as.map g := by
  induction as generalizing bs with
  | nil => simp [pure_eq_ok, eq_comm]
  | cons a as ih =>
    simp only [List.mapM_cons, bind_eq_ok, hf, ih, List.forall_mem_cons, List.map_cons]
    constructor
    · rintro ⟨b, ⟨ha, rfl⟩, bs', ⟨has, rfl⟩, h⟩
      exact ⟨⟨ha, has⟩, (Except.ok.inj h).symm⟩
    · rintro ⟨⟨ha, has⟩, rfl⟩
      exact ⟨g a, ⟨ha, rfl⟩, as.map g, ⟨has, rfl⟩, rfl⟩

/-- A `Character`, the unit that Swift counts texts in: the scalars that Unicode does
    not separate, such as a letter with its accents or a line break of two. -/
structure Character where
  unicodeScalars : List Char
  ne_nil : unicodeScalars ≠ []
  deriving DecidableEq

/-- The `characters` of a text whose scalars stand alone, as ASCII letters and digits do. -/
def characters (text : String) : List Character :=
  text.toList.map fun c => ⟨[c], List.cons_ne_nil c []⟩

@[simp] theorem length_characters (text : String) : (characters text).length = text.length := by
  rw [characters, List.length_map, String.length_toList]

/-- `components(separatedBy:)` for a separator of one character. -/
def components (text : String) (separator : Char) : List String :=
  (text.toList.splitOn separator).map String.ofList

/-- Texts without the separator come back out of their join. -/
theorem components_intercalate {separator : Char} {parts : List String} (hne : parts ≠ [])
    (h : ∀ part ∈ parts, separator ∉ part.toList) :
    components (separator.toString.intercalate parts) separator = parts := by
  have hsplit : (separator.toString.intercalate parts).toList.splitOn separator =
      parts.map String.toList := by
    rw [String.toList_intercalate, Char.toString, String.toList_singleton]
    apply List.splitOn_intercalate separator
    · simpa using h
    · simpa using hne
  rw [components, hsplit, List.map_map]
  simp

/-! ## Traps of a kind -/

/-- `x` does not trap in a way that `K` describes. -/
def Free {α : Type} (K : Trap → Prop) (x : Except Trap α) : Prop :=
  ∀ t, x = .error t → ¬ K t

section free

variable {α β : Type} {K : Trap → Prop}

@[simp] theorem free_ok (a : α) : Free K (.ok a : Except Trap α) := by
  intro t ht
  cases ht

@[simp] theorem free_error {t : Trap} : Free K (.error t : Except Trap α) ↔ ¬ K t := by
  constructor
  · intro h
    exact h t rfl
  · intro h t' ht'
    cases ht'
    exact h

theorem free_bind {x : Except Trap α} {f : α → Except Trap β} :
    Free K (x >>= f) ↔ Free K x ∧ ∀ a, x = .ok a → Free K (f a) := by
  cases x with
  | ok a => simp
  | error t => simp

theorem free_map {x : Except Trap α} {f : α → β} : Free K (f <$> x) ↔ Free K x := by
  cases x with
  | ok a => simp
  | error t => simp

theorem free_unwrap {what : Unwrapped} {value : Option α} :
    Free K (unwrap what value) ↔ (K (.foundNil what) → value.isSome) := by
  cases value with
  | none => simp
  | some a => simp

theorem free_subscript (hK : ¬ K .indexOutOfRange) (array : List α) (i : ℕ) :
    Free K (subscript array i) := by
  unfold subscript
  cases array[i]? with
  | none => simpa using hK
  | some a => simp

theorem free_optionalSubscript (hK : ¬ K .indexOutOfRange) (array : Option (List α)) (i : ℕ) :
    Free K (optionalSubscript array i) := by
  cases array with
  | none => exact free_ok none
  | some array => exact free_map.mpr (free_subscript hK array i)

end free

end RideHitch
