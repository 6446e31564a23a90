import Mathlib.Data.Rat.Floor
import RideHitch.Foundation
import RideHitch.Library.Bisection

/-! # Geohash

    The encoder bisects both axes twice as often as its result needs, lays the
    two bit rows alternately (longitude first), joins the bits in fives, looks
    each five up in a table and keeps a prefix.  The decoder goes back.

    Sections 2 to 5 hold for any rounding of the means, Section 6 is about exact
    arithmetic. -/

namespace RideHitch.Geohash

/-! ## Section 1: Model

    `round` is the rounding of the means. -/

/-- `String(integer:radix:padding:)` -/
def paddedString (n radix padding : ℕ) : String :=
  let s := String.ofList (Nat.toDigits radix n)
  let pad := (padding - s.length % padding) % padding
  String.join (List.replicate pad "0") ++ s

def alphabet : List Char := "0123456789bcdefghjkmnpqrstuvwxyz".toList

/-- The five bits of each character of the alphabet. -/
def bitmap : List (Char × String) :=
  -- an entry written later hides an earlier one under the same key
  (alphabet.zipIdx.map fun e => (e.1, paddedString e.2 2 5)).foldl (fun dict e => e :: dict) []

/-- The character of each five bits. -/
def charmap : List (String × Char) :=
  bitmap.foldl (fun dict e => (e.2, e.1) :: dict) []

/-- The `<<` operator on string arrays: extend the last string. -/
def extendLast (left : List String) (right : String) : Except Trap (List String) := do
  let s ← unwrap .popLast left.getLast?
  return left.dropLast ++ [s ++ right]

variable (round : Double → Double)

/-- `(a.min + a.max) / 2` -/
def mean (a : Double × Double) : Double := round (round (a.1 + a.2) / 2)

/-- The local `combiner` of `encode`. -/
def encodeCombiner (a : Double × Double × List String) (value : Double) :
    Double × Double × List String :=
  let mean := mean round (a.1, a.2.1)
  if value < mean then (a.1, mean, a.2.2 ++ ["0"]) else (mean, a.2.1, a.2.2 ++ ["1"])

/-- The two bits at one index, longitude first. -/
def pairUp (lat : List String) (e : String × ℕ) : Except Trap (List String) := do
  let bit ← subscript lat e.2
  return [e.1, bit]

/-- Start a new string at every fifth bit. -/
def groupStep (acc : List String) (e : String × ℕ) : Except Trap (List String) :=
  if e.2 % 5 > 0 then extendLast acc e.1 else .ok (acc ++ [e.1])

def encode (latitude longitude : Double) (length : ℕ) : Except Trap String := do
  -- each row alone is as long as the result: half of the bits are cut off below
  let lat := (List.replicate (length * 5) latitude).foldl (encodeCombiner round) (-90, 90, [])
  let lon := (List.replicate (length * 5) longitude).foldl (encodeCombiner round) (-180, 180, [])
  let latlon ← lon.2.2.zipIdx.mapM (pairUp lat.2.2)
  let bits ← latlon.flatten.zipIdx.foldlM groupStep []
  let arr := bits.filterMap fun group => charmap.lookup group
  return String.ofList (arr.take length)

/-- The local `combiner` of `decode`. -/
def decodeCombiner (a : Double × Double) (value : Char) : Double × Double :=
  let mean := mean round a
  if value = '1' then (mean, a.2) else (a.1, mean)

/-- Bits at even positions go to the longitude, the others to the latitude. -/
def splitStep (result : List Char × List Char) (e : Char × ℕ) : List Char × List Char :=
  if e.2 % 2 = 0 then (result.1, result.2 ++ [e.1]) else (result.1 ++ [e.1], result.2)

/-- `bitmap[c]`; the keys are single scalars, and no other text is equivalent to one. -/
def bitmapLookup (c : Character) : Option String :=
  match c.unicodeScalars with
  | [scalar] => bitmap.lookup scalar
  | _ => none

/-- The latitude and the longitude range of a hash, given by its characters. -/
def decode (hash : List Character) : Option ((Double × Double) × (Double × Double)) :=
  let bits := String.join (hash.map fun c => (bitmapLookup c).getD "?")
  if bits.length % 5 = 0 then
    let latlon := bits.toList.zipIdx.foldl splitStep ([], [])
    some (latlon.1.foldl (decodeCombiner round) (-90, 90),
      latlon.2.foldl (decodeCombiner round) (-180, 180))
  else none

/-! ## Section 2: The bit rows -/

def bitString (b : Bool) : String := if b then "1" else "0"

/-- The half of `I` that the bit names. -/
def half (I : Double × Double) (b : Bool) : Double × Double :=
  if b then (mean round I, I.2) else (I.1, mean round I)

/-- The bits written by `n` halvings in search of `x`. -/
def bits (x : Double) : ℕ → Double × Double → List Bool
  | 0, _ => []
  | n + 1, I =>
      let b := decide (mean round I ≤ x)
      b :: bits x n (half round I b)

variable {round}

@[simp] theorem length_bits (x : Double) (n : ℕ) (I : Double × Double) :
    (bits round x n I).length = n := by
  induction n generalizing I with
  | zero => rfl
  | succ n ih => simp [bits, ih]

/-- Fewer halvings write a prefix of the bits. -/
theorem take_bits (x : Double) (m n : ℕ) (I : Double × Double) :
    (bits round x (m + n) I).take m = bits round x m I := by
  induction m generalizing I with
  | zero => simp [bits]
  | succ m ih =>
    rw [Nat.succ_add]
    simp only [bits, List.take_succ_cons, ih]

theorem encodeCombiner_eq (x : Double) (I : Double × Double) (row : List String) :
    encodeCombiner round (I.1, I.2, row) x =
      let b := decide (mean round I ≤ x)
      ((half round I b).1, (half round I b).2, row ++ [bitString b]) := by
  have hmean : encodeCombiner round (I.1, I.2, row) x
      = if x < mean round I then (I.1, mean round I, row ++ ["0"])
        else (mean round I, I.2, row ++ ["1"]) := rfl
  rw [hmean]
  by_cases hx : mean round I ≤ x
  · simp [hx, not_lt.mpr hx, half, bitString]
  · simp [hx, not_le.mp hx, half, bitString]

variable (round) in
/-- The encoder's fold writes the bits of the bisection. -/
theorem foldl_encodeCombiner (n : ℕ) (x : Double) (I : Double × Double) (row : List String) :
    ((List.replicate n x).foldl (encodeCombiner round) (I.1, I.2, row)).2.2
      = row ++ (bits round x n I).map bitString := by
  induction n generalizing I row with
  | zero => simp [bits]
  | succ n ih =>
    rw [List.replicate_succ, List.foldl_cons, encodeCombiner_eq]
    rw [ih (half round I _)]
    simp [bits]

/-- The rounding leaves the means of the first `n` halvings of `I` as they are. -/
def Exact (round : Double → Double) (n : ℕ) (I : Double × Double) : Prop :=
  ∀ bs : List Bool, bs.length < n →
    mean round (Bisection.narrow I bs) = Bisection.midpoint (Bisection.narrow I bs)

theorem exact_id (n : ℕ) (I : Double × Double) : Exact id n I := by
  intro bs _
  rfl

theorem Exact.half_eq {n : ℕ} {I : Double × Double} (h : Exact round (n + 1) I) (b : Bool) :
    half round I b = Bisection.half I b := by
  have hmean : mean round I = Bisection.midpoint I := h [] (Nat.succ_pos n)
  rw [half, hmean, Bisection.half]

theorem Exact.half {n : ℕ} {I : Double × Double} (h : Exact round (n + 1) I) (b : Bool) :
    Exact round n (Bisection.half I b) := by
  intro bs hbs
  exact h (b :: bs) (Nat.succ_lt_succ hbs)

/-- As long as the means are exact, the bits are those of the bisection. -/
theorem Exact.bits_eq {n : ℕ} {I : Double × Double} (h : Exact round n I) (x : Double) :
    bits round x n I = Bisection.bits x n I := by
  induction n generalizing I with
  | zero => rfl
  | succ n ih =>
    have hmean : mean round I = Bisection.midpoint I := h [] (Nat.succ_pos n)
    simp only [bits, Bisection.bits, hmean, h.half_eq]
    rw [ih (h.half _)]

theorem bits_id (x : Double) (n : ℕ) (I : Double × Double) :
    bits id x n I = Bisection.bits x n I :=
  (exact_id n I).bits_eq x

/-- Two rows laid alternately, the first row first. -/
def interleave {α : Type} : List α → List α → List α
  | [], _ => []
  | _ :: _, [] => []
  | a :: as, b :: bs => a :: b :: interleave as bs

theorem length_interleave {α : Type} {as bs : List α} (h : as.length = bs.length) :
    (interleave as bs).length = 2 * as.length := by
  induction as, bs using interleave.induct with
  | case1 bs => rfl
  | case2 a as => simp at h
  | case3 a as b bs ih =>
    simp only [interleave, List.length_cons] at h ⊢
    rw [ih (by omega)]
    omega

theorem map_interleave {α β : Type} (f : α → β) (as bs : List α) :
    (interleave as bs).map f = interleave (as.map f) (bs.map f) := by
  induction as, bs using interleave.induct with
  | case1 bs => simp [interleave]
  | case2 a as => simp [interleave]
  | case3 a as b bs ih => simp [interleave, ih]

/-- Pairing the rows up by index lays them alternately and stays in range. -/
theorem mapM_pairUp (lon lat done : List String) (h : lon.length = lat.length) :
    ∃ pairs, (lon.zipIdx done.length).mapM (pairUp (done ++ lat)) = .ok pairs ∧
      pairs.flatten = interleave lon lat := by
  induction lon generalizing lat done with
  | nil => exact ⟨[], rfl, by simp [interleave]⟩
  | cons a lon ih =>
    cases lat with
    | nil => simp at h
    | cons b lat =>
      -- `done` holds the latitude bits in front of the index, so the subscript finds `b`
      obtain ⟨pairs, hpairs, hflat⟩ := ih lat (done ++ [b]) (by simpa using h)
      have hbit : pairUp (done ++ b :: lat) (a, done.length) = .ok [a, b] := by
        simp [pairUp, subscript]
      refine ⟨[a, b] :: pairs, ?_, by simp [interleave, hflat]⟩
      rw [List.zipIdx_cons, List.mapM_cons, hbit]
      simp only [List.length_append, List.length_cons, List.length_nil, List.append_assoc,
        List.cons_append, List.nil_append] at hpairs
      rw [ok_bind, hpairs]
      rfl

/-! ## Section 3: Groups of five -/

/-- Consecutive strings joined in fives; a last incomplete group is dropped. -/
def fives : List String → List String
  | a :: b :: c :: d :: e :: rest => (a ++ b ++ c ++ d ++ e) :: fives rest
  | _ => []

/-- What is left when no five elements can be split off. -/
theorem length_lt_five {α : Type} {xs : List α}
    (h : ∀ a b c d e rest, xs = a :: b :: c :: d :: e :: rest → False) : xs.length < 5 := by
  rcases xs with _ | ⟨a, _ | ⟨b, _ | ⟨c, _ | ⟨d, _ | ⟨e, rest⟩⟩⟩⟩⟩
  case cons.cons.cons.cons.cons => exact absurd rfl (h a b c d e rest)
  all_goals simp

theorem fives_of_short {xs : List String} (h : xs.length < 5) : fives xs = [] := by
  rcases xs with _ | ⟨a, _ | ⟨b, _ | ⟨c, _ | ⟨d, _ | ⟨e, rest⟩⟩⟩⟩⟩
  case cons.cons.cons.cons.cons => simp only [List.length_cons] at h; omega
  all_goals rfl

theorem groupStep_start (acc : List String) (s : String) {k : ℕ} (h : k % 5 = 0) :
    groupStep acc (s, k) = .ok (acc ++ [s]) := by
  simp [groupStep, h]

theorem groupStep_extend (acc : List String) (last s : String) {k : ℕ} (h : k % 5 ≠ 0) :
    groupStep (acc ++ [last]) (s, k) = .ok (acc ++ [last ++ s]) := by
  have hpos : 0 < k % 5 := Nat.pos_of_ne_zero h
  simp [groupStep, hpos, extendLast]

/-- From a multiple of five on, the encoder's fold joins in fives and never
    extends an empty list. -/
theorem foldlM_groupStep (xs acc : List String) {k : ℕ} (hk : k % 5 = 0)
    (hxs : xs.length % 5 = 0) :
    (xs.zipIdx k).foldlM groupStep acc = .ok (acc ++ fives xs) := by
  induction xs using fives.induct generalizing acc k with
  | case1 a b c d e rest ih =>
    -- the first bit starts a group and the next four extend it
    have hrest : rest.length % 5 = 0 := by
      simp only [List.length_cons] at hxs
      omega
    simp only [List.zipIdx_cons, List.foldlM_cons]
    rw [groupStep_start acc a hk, ok_bind,
      groupStep_extend acc a b (by omega), ok_bind,
      groupStep_extend acc _ c (by omega), ok_bind,
      groupStep_extend acc _ d (by omega), ok_bind,
      groupStep_extend acc _ e (by omega), ok_bind,
      ih _ (by omega) hrest]
    simp [fives]
  | case2 xs hne =>
    have hlt := length_lt_five hne
    -- fewer than five bits are left, and five divides their number
    have hnil : xs = [] := List.length_eq_zero_iff.mp (by omega)
    subst hnil
    simp [fives]
    rfl

/-- The character of five bits. -/
def digit (a b c d e : Bool) : Char :=
  alphabet.getD (16 * a.toNat + 8 * b.toNat + 4 * c.toNat + 2 * d.toNat + e.toNat) '0'

def digits : List Bool → List Char
  | a :: b :: c :: d :: e :: rest => digit a b c d e :: digits rest
  | _ => []

theorem digits_of_short {bs : List Bool} (h : bs.length < 5) : digits bs = [] := by
  rcases bs with _ | ⟨a, _ | ⟨b, _ | ⟨c, _ | ⟨d, _ | ⟨e, rest⟩⟩⟩⟩⟩
  case cons.cons.cons.cons.cons => simp only [List.length_cons] at h; omega
  all_goals rfl

theorem charmap_lookup : ∀ a b c d e : Bool,
    charmap.lookup (bitString a ++ bitString b ++ bitString c ++ bitString d ++ bitString e)
      = some (digit a b c d e) := by
  decide

theorem bitmap_lookup : ∀ a b c d e : Bool,
    bitmap.lookup (digit a b c d e)
      = some (bitString a ++ bitString b ++ bitString c ++ bitString d ++ bitString e) := by
  decide

theorem digit_mem_alphabet : ∀ a b c d e : Bool, digit a b c d e ∈ alphabet := by
  decide

/-- No group of five bits is dropped by the table. -/
theorem filterMap_charmap (bs : List Bool) :
    (fives (bs.map bitString)).filterMap (fun group => charmap.lookup group) = digits bs := by
  induction bs using digits.induct with
  | case1 a b c d e rest ih =>
    simp [fives, digits, charmap_lookup, ih]
  | case2 bs hne =>
    have hlt := length_lt_five hne
    rw [digits_of_short hlt, fives_of_short (by simpa using hlt)]
    rfl

theorem take_digits (n : ℕ) (bs : List Bool) :
    (digits bs).take n = digits (bs.take (5 * n)) := by
  induction bs using digits.induct generalizing n with
  | case1 a b c d e rest ih =>
    cases n with
    | zero => simp [digits]
    | succ n =>
      have h5 : 5 * (n + 1) = 5 * n + 1 + 1 + 1 + 1 + 1 := by ring
      simp [digits, h5, ih]
  | case2 bs hne =>
    have hlt := length_lt_five hne
    have hlt' : (bs.take (5 * n)).length < 5 := by
      rw [List.length_take]
      omega
    rw [digits_of_short hlt, digits_of_short hlt', List.take_nil]

/-! ## Section 4: What the encoder returns -/

/-- The first `k` bits of the two rows laid alternately, longitude first. -/
def keyBits (round : Double → Double) (k n : ℕ) (latitude longitude : Double) : List Bool :=
  (interleave (bits round longitude n (-180, 180)) (bits round latitude n (-90, 90))).take k

variable (round) in
/-- **The encoder never traps** and returns the digits of the first `5 * length`
    bits of the alternating rows. -/
theorem encode_eq (latitude longitude : Double) (length : ℕ) :
    encode round latitude longitude length
      = .ok (String.ofList
          (digits (keyBits round (5 * length) (length * 5) latitude longitude))) := by
  -- both folds are bisections
  have hlat := foldl_encodeCombiner round (length * 5) latitude (-90, 90) []
  have hlon := foldl_encodeCombiner round (length * 5) longitude (-180, 180) []
  simp only [List.nil_append] at hlat hlon
  have hlen : (bits round longitude (length * 5) (-180, 180)).length
      = (bits round latitude (length * 5) (-90, 90)).length := by simp
  obtain ⟨pairs, hpairs, hflat⟩ := mapM_pairUp
    ((bits round longitude (length * 5) (-180, 180)).map bitString)
    ((bits round latitude (length * 5) (-90, 90)).map bitString) [] (by simp)
  simp only [List.length_nil, List.nil_append] at hpairs
  -- five divides the number of bits laid alternately: no group stays incomplete
  have hmod : (((interleave (bits round longitude (length * 5) (-180, 180))
      (bits round latitude (length * 5) (-90, 90))).map bitString).length) % 5 = 0 := by
    rw [List.length_map, length_interleave hlen, length_bits]
    omega
  dsimp only [encode]
  rw [hlat, hlon, hpairs, ok_bind, hflat, ← map_interleave,
    foldlM_groupStep _ [] (by rfl) hmod, ok_bind, List.nil_append, filterMap_charmap,
    take_digits]
  rfl

/-! ## Section 5: What the decoder makes of it -/

/-- Even positions and odd positions. -/
def deinterleave {α : Type} : List α → List α × List α
  | [] => ([], [])
  | a :: rest => (a :: (deinterleave rest).2, (deinterleave rest).1)

theorem deinterleave_interleave {α : Type} {as bs : List α} (h : as.length = bs.length) :
    deinterleave (interleave as bs) = (as, bs) := by
  induction as, bs using interleave.induct with
  | case1 bs =>
    have hbs : bs = [] := List.length_eq_zero_iff.mp h.symm
    rw [hbs]
    rfl
  | case2 a as => simp at h
  | case3 a as b bs ih => simp [interleave, deinterleave, ih (by simpa using h)]

theorem deinterleave_map {α β : Type} (f : α → β) (xs : List α) :
    deinterleave (xs.map f) = ((deinterleave xs).1.map f, (deinterleave xs).2.map f) := by
  induction xs with
  | nil => rfl
  | cons x xs ih => simp [deinterleave, ih]

/-- The decoder's fold splits by parity; from an odd index on the two rows
    change places. -/
theorem foldl_splitStep (xs : List Char) (k : ℕ) (acc : List Char × List Char) :
    (xs.zipIdx k).foldl splitStep acc =
      if k % 2 = 0 then (acc.1 ++ (deinterleave xs).2, acc.2 ++ (deinterleave xs).1)
      else (acc.1 ++ (deinterleave xs).1, acc.2 ++ (deinterleave xs).2) := by
  induction xs generalizing k acc with
  | nil => simp [deinterleave]
  | cons x xs ih =>
    rw [List.zipIdx_cons, List.foldl_cons, ih]
    rcases Nat.mod_two_eq_zero_or_one k with hk | hk
    · have hk1 : (k + 1) % 2 = 1 := by omega
      simp [splitStep, hk, hk1, deinterleave]
    · have hk1 : (k + 1) % 2 = 0 := by omega
      simp [splitStep, hk, hk1, deinterleave]

def bitChar (b : Bool) : Char := if b then '1' else '0'

theorem toList_bitString (b : Bool) : (bitString b).toList = [bitChar b] := by
  cases b <;> decide

/-- The interval that a list of bits leads to. -/
def narrow (round : Double → Double) (I : Double × Double) (bs : List Bool) : Double × Double :=
  bs.foldl (half round) I

theorem narrow_id (I : Double × Double) (bs : List Bool) : narrow id I bs = Bisection.narrow I bs :=
  rfl

theorem foldl_decodeCombiner (I : Double × Double) (bs : List Bool) :
    (bs.map bitChar).foldl (decodeCombiner round) I = narrow round I bs := by
  induction bs generalizing I with
  | nil => rfl
  | cons b bs ih =>
    -- one character chooses the half that its bit names
    have hstep : decodeCombiner round I (bitChar b) = half round I b := by
      cases b <;> rfl
    rw [List.map_cons, List.foldl_cons, hstep, ih]
    rfl

/-- Looking the digits of whole groups up gives the bits back. -/
theorem join_bitmap (bs : List Bool) (h : bs.length % 5 = 0) :
    (String.join ((characters (String.ofList (digits bs))).map fun c =>
      (bitmapLookup c).getD "?")).toList = bs.map bitChar := by
  have hlookup : (characters (String.ofList (digits bs))).map (fun c =>
      (bitmapLookup c).getD "?") = (digits bs).map fun c => (bitmap.lookup c).getD "?" := by
    rw [characters, String.toList_ofList, List.map_map]
    rfl
  rw [hlookup]
  clear hlookup
  induction bs using digits.induct with
  | case1 a b c d e rest ih =>
    have hrest : rest.length % 5 = 0 := by
      simp only [List.length_cons] at h
      omega
    simp [digits, bitmap_lookup, String.join_cons, toList_bitString, ih hrest]
  | case2 bs hne =>
    have hlt := length_lt_five hne
    have hnil : bs = [] := List.length_eq_zero_iff.mp (by omega)
    subst hnil
    rfl

variable (round) in
/-- **The decoder narrows both axes along the bits of the hash.** -/
theorem decode_digits (bs : List Bool) (h : bs.length % 5 = 0) :
    decode round (characters (String.ofList (digits bs)))
      = some (narrow round (-90, 90) (deinterleave bs).2,
          narrow round (-180, 180) (deinterleave bs).1) := by
  have hbits := join_bitmap bs h
  have hlen : (String.join ((characters (String.ofList (digits bs))).map fun c =>
      (bitmapLookup c).getD "?")).length = bs.length := by
    rw [← String.length_toList, hbits, List.length_map]
  dsimp only [decode]
  rw [hlen, if_pos h, hbits, foldl_splitStep, deinterleave_map]
  simp [foldl_decodeCombiner]

/-! ## Section 6: Hashes of even length name grid cells -/

/-- The hash of a cell of the `2 ^ n` by `2 ^ n` grid over the globe: the digits
    of both indices laid alternately, longitude first, in base 32. -/
def gridKey (n latitudeIndex longitudeIndex : ℕ) : String :=
  String.ofList (digits
    (interleave (Bisection.binary n longitudeIndex) (Bisection.binary n latitudeIndex)))

def latitudeIndex (n : ℕ) (latitude : Double) : ℕ := Bisection.cellIndex n (-90, 90) latitude

def longitudeIndex (n : ℕ) (longitude : Double) : ℕ :=
  Bisection.cellIndex n (-180, 180) longitude

/-- The coordinate lies on the globe. -/
structure OnGlobe (latitude longitude : Double) : Prop where
  latitude_ge : -90 ≤ latitude
  latitude_le : latitude ≤ 90
  longitude_ge : -180 ≤ longitude
  longitude_le : longitude ≤ 180

theorem take_interleave {α : Type} (as bs : List α) (j : ℕ) :
    (interleave as bs).take (2 * j) = interleave (as.take j) (bs.take j) := by
  induction as, bs using interleave.induct generalizing j with
  | case1 bs => simp [interleave]
  | case2 a as => cases j <;> simp [interleave]
  | case3 a as b bs ih =>
    cases j with
    | zero => simp [interleave]
    | succ j =>
      have h2 : 2 * (j + 1) = 2 * j + 1 + 1 := by ring
      simp [interleave, h2, ih]

/-- **A hash of even length is the key of the grid cell of the coordinate.** -/
theorem encode_eq_gridKey {latitude longitude : Double} (h : OnGlobe latitude longitude)
    (m : ℕ) :
    encode id latitude longitude (2 * m)
      = .ok (gridKey (5 * m) (latitudeIndex (5 * m) latitude)
          (longitudeIndex (5 * m) longitude)) := by
  have hn : 2 * m * 5 = 5 * m + 5 * m := by ring
  have hk : 5 * (2 * m) = 2 * (5 * m) := by ring
  have hlat := Bisection.bits_eq_binary (5 * m) (I := ((-90 : Double), 90)) (by norm_num)
    ⟨h.latitude_ge, h.latitude_le⟩
  have hlon := Bisection.bits_eq_binary (5 * m) (I := ((-180 : Double), 180)) (by norm_num)
    ⟨h.longitude_ge, h.longitude_le⟩
  rw [encode_eq, keyBits, hn, hk, take_interleave, take_bits, take_bits, bits_id, bits_id, hlat,
    hlon]
  rfl

/-- Decoding such a hash gives closed ranges that hold the coordinate. -/
theorem decode_encode {latitude longitude : Double} (h : OnGlobe latitude longitude) (m : ℕ) :
    ∃ lat lon, decode id (characters (gridKey (5 * m) (latitudeIndex (5 * m) latitude)
        (longitudeIndex (5 * m) longitude))) = some (lat, lon) ∧
      lat.1 ≤ latitude ∧ latitude ≤ lat.2 ∧ lon.1 ≤ longitude ∧ longitude ≤ lon.2 := by
  have hlat : (-90 : Double) ≤ latitude ∧ latitude ≤ 90 := ⟨h.latitude_ge, h.latitude_le⟩
  have hlon : (-180 : Double) ≤ longitude ∧ longitude ≤ 180 := ⟨h.longitude_ge, h.longitude_le⟩
  -- the bits of a coordinate lead to an interval around it, and they are the digits
  have hinlat := Bisection.mem_narrow_bits (5 * m) (I := ((-90 : Double), 90)) hlat
  have hinlon := Bisection.mem_narrow_bits (5 * m) (I := ((-180 : Double), 180)) hlon
  rw [Bisection.bits_eq_binary (5 * m) (by norm_num) hlat] at hinlat
  rw [Bisection.bits_eq_binary (5 * m) (by norm_num) hlon] at hinlon
  have hmod : (interleave (Bisection.binary (5 * m) (longitudeIndex (5 * m) longitude))
      (Bisection.binary (5 * m) (latitudeIndex (5 * m) latitude))).length % 5 = 0 := by
    rw [length_interleave (by simp), Bisection.length_binary]
    omega
  refine ⟨_, _, ?_, hinlat.1, hinlat.2, hinlon.1, hinlon.2⟩
  rw [gridKey, decode_digits id _ hmod, deinterleave_interleave (by simp)]
  rfl

theorem length_digits (bs : List Bool) : (digits bs).length = bs.length / 5 := by
  induction bs using digits.induct with
  | case1 a b c d e rest ih =>
    simp only [digits, List.length_cons, ih]
    omega
  | case2 bs hne =>
    have hlt := length_lt_five hne
    rw [digits_of_short hlt, List.length_nil]
    omega

theorem mem_alphabet_of_mem_digits {bs : List Bool} {c : Char} (h : c ∈ digits bs) :
    c ∈ alphabet := by
  induction bs using digits.induct with
  | case1 a b c d e rest ih =>
    rcases List.mem_cons.mp h with rfl | h
    · exact digit_mem_alphabet a b c d e
    · exact ih h
  | case2 bs hne =>
    simp [digits_of_short (length_lt_five hne)] at h

theorem length_gridKey (m i j : ℕ) : (gridKey (5 * m) i j).length = 2 * m := by
  rw [gridKey, String.length_ofList, length_digits, length_interleave (by simp),
    Bisection.length_binary]
  omega

theorem mem_alphabet_of_mem_gridKey {n i j : ℕ} {c : Char} (h : c ∈ (gridKey n i j).toList) :
    c ∈ alphabet := by
  rw [gridKey, String.toList_ofList] at h
  exact mem_alphabet_of_mem_digits h

theorem digits_injective {bs bs' : List Bool} (h : bs.length % 5 = 0) (h' : bs'.length % 5 = 0)
    (heq : digits bs = digits bs') : bs = bs' := by
  -- looking the characters up undoes `digits`
  have hchars : bs.map bitChar = bs'.map bitChar := by
    rw [← join_bitmap bs h, ← join_bitmap bs' h', heq]
  have hinj : Function.Injective bitChar := fun b b' => by cases b <;> cases b' <;> decide
  exact List.map_injective_iff.mpr hinj hchars

/-- Different cells have different keys. -/
theorem gridKey_injective {m i j i' j' : ℕ} (hi : i < 2 ^ (5 * m)) (hj : j < 2 ^ (5 * m))
    (hi' : i' < 2 ^ (5 * m)) (hj' : j' < 2 ^ (5 * m))
    (h : gridKey (5 * m) i j = gridKey (5 * m) i' j') : i = i' ∧ j = j' := by
  have hmod : ∀ x y : ℕ, (interleave (Bisection.binary (5 * m) x)
      (Bisection.binary (5 * m) y)).length % 5 = 0 := by
    intro x y
    rw [length_interleave (by simp), Bisection.length_binary]
    omega
  -- the characters give the bits back, the bits both rows, and a row its index
  have hrows := digits_injective (hmod j i) (hmod j' i') (String.ofList_injective h)
  have hpair : (Bisection.binary (5 * m) j, Bisection.binary (5 * m) i)
      = (Bisection.binary (5 * m) j', Bisection.binary (5 * m) i') := by
    rw [← deinterleave_interleave (by simp), hrows, deinterleave_interleave (by simp)]
  obtain ⟨hlon, hlat⟩ := Prod.mk.inj hpair
  exact ⟨Bisection.binary_injective hi hi' hlat, Bisection.binary_injective hj hj' hlon⟩

end RideHitch.Geohash
