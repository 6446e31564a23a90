import RideHitch.Geohash

/-! # The cells of the hashes

    A hash names a cell of the globe: the ranges that the decoder gives for it.
    Doubles calculate these exactly for hashes of up to 19 characters, and the
    centres up to 18, and never leave the range that they narrow: Section 1.  Section 2 says which coordinates the encoder
    gives a hash, on the globe or off it.  Section 3 is the centre of a cell,
    Section 4 compares hashes of different lengths, and Section 5 says which texts
    the decoder takes. -/

namespace RideHitch

/-- `kCLLocationCoordinate2DInvalid` -/
def kCLLocationCoordinate2DInvalid : CLLocationCoordinate2D := ⟨-180, -180⟩

variable (round : Double → Double)

/-- `CLLocationCoordinate2D(geohash:)` -/
def CLLocationCoordinate2D.init (geohash : List Character) : CLLocationCoordinate2D :=
  match Geohash.decode round geohash with
  | some (lat, lon) => ⟨Geohash.mean round lat, Geohash.mean round lon⟩
  | none => kCLLocationCoordinate2DInvalid

/-- `geohash(length:)` -/
def CLLocationCoordinate2D.geohash (coordinate : CLLocationCoordinate2D) (length : ℕ) :
    Except Trap String :=
  Geohash.encode round coordinate.latitude coordinate.longitude length

namespace Geohash

variable {round}

/-! ## Section 1: Doubles -/

/-- The midpoints are whole multiples of 45 by a power of two, so that their
    significands have six bits more than they have halvings. -/
theorem exact_round {s : ℕ} (hs : s ≤ 2) : Exact Double.round 48 (-(45 * 2 ^ s), 45 * 2 ^ s) := by
  intro bs hbs
  obtain ⟨k, hk, hmid⟩ := Bisection.exists_midpoint_eq (c := (45 : Double) * 2 ^ s)
    (by positivity) bs
  generalize hI : Bisection.narrow (-(45 * 2 ^ s), (45 : Double) * 2 ^ s) bs = I at hmid ⊢
  have hlt : |45 * k| < 2 ^ 53 := by
    have hpow : (2 : ℤ) ^ bs.length ≤ 2 ^ 47 := pow_le_pow_right₀ one_le_two (by omega)
    rw [abs_mul, abs_of_pos (by norm_num)]
    omega
  have hvalue : ∀ t : ℕ, t ≤ 1 → IsDouble (Bisection.midpoint I * 2 ^ t) := by
    intro t ht
    refine isDouble_iff.mpr ⟨45 * k, (s : ℤ) + t - bs.length, hlt, by omega, ?_⟩
    rw [hmid, zpow_sub₀ two_ne_zero, zpow_add₀ two_ne_zero]
    push_cast
    simp only [zpow_natCast]
    ring
  -- neither the sum nor its half is rounded
  have hsum : I.1 + I.2 = Bisection.midpoint I * 2 ^ 1 := by
    unfold Bisection.midpoint
    ring
  have hhalf := hvalue 0 (by omega)
  rw [pow_zero, mul_one] at hhalf
  rw [mean, hsum, Double.round, Rounding.Format.round_of_representable (hvalue 1 le_rfl), pow_one,
    mul_div_cancel_right₀ _ two_ne_zero, Rounding.Format.round_of_representable hhalf]

theorem exact_latitude : Exact Double.round 48 (-90, 90) := by
  have h := exact_round (s := 1) (by omega)
  norm_num at h
  exact h

theorem exact_longitude : Exact Double.round 48 (-180, 180) := by
  have h := exact_round (s := 2) (by omega)
  norm_num at h
  exact h

theorem Exact.mono {n n' : ℕ} {I : Double × Double} (h : Exact round n I) (hle : n' ≤ n) :
    Exact round n' I := by
  intro bs hbs
  exact h bs (hbs.trans_le hle)

theorem Exact.narrow_eq {I : Double × Double} {bs : List Bool} (h : Exact round bs.length I) :
    narrow round I bs = Bisection.narrow I bs := by
  induction bs generalizing I with
  | nil => rfl
  | cons b bs ih =>
    show narrow round (Geohash.half round I b) bs = Bisection.narrow (Bisection.half I b) bs
    rw [h.half_eq, ih (h.half b)]

/-- The numbers that `round` calculates with: the mean of two of them is one of them, and
    lies between the two. -/
def Closed (round : Double → Double) (P : Double → Prop) : Prop :=
  ∀ I : Double × Double, P I.1 → P I.2 → I.1 ≤ I.2 →
    P (mean round I) ∧ I.1 ≤ mean round I ∧ mean round I ≤ I.2

theorem closed_id : Closed id fun _ => True := by
  intro I _ _ hle
  simp only [mean, id]
  exact ⟨trivial, by linarith, by linarith⟩

/-- Twice a Double is a Double, so that a rounded mean does not leave the two numbers. -/
theorem closed_round : Closed Double.round IsDouble := by
  intro I hmin hmax hle
  have hmono : Monotone Double.round := Double.format.round_mono
  have hfixed : ∀ x, IsDouble x → Double.round x = x := by
    intro x hx
    exact Rounding.Format.round_of_representable hx
  have htwice : ∀ x, IsDouble x → Double.round (2 * x) = 2 * x := by
    intro x hx
    exact hfixed (2 * x) hx.radix_mul
  refine ⟨Double.format.representable_round _, ?_, ?_⟩
  · have hsum : Double.round (2 * I.1) ≤ Double.round (I.1 + I.2) := hmono (by linarith)
    rw [htwice _ hmin] at hsum
    calc I.1 = Double.round I.1 := (hfixed _ hmin).symm
      _ ≤ Double.round (Double.round (I.1 + I.2) / 2) := hmono (by linarith)
  · have hsum : Double.round (I.1 + I.2) ≤ Double.round (2 * I.2) := hmono (by linarith)
    rw [htwice _ hmax] at hsum
    calc Double.round (Double.round (I.1 + I.2) / 2) ≤ Double.round I.2 := hmono (by linarith)
      _ = I.2 := hfixed _ hmax

/-- The range `J`, of such numbers, lies in the range `I`. -/
structure Inside (P : Double → Prop) (I J : Double × Double) : Prop where
  min : P J.1
  max : P J.2
  le : J.1 ≤ J.2
  min_le : I.1 ≤ J.1
  le_max : J.2 ≤ I.2

theorem Inside.half {P : Double → Prop} (hround : Closed round P) {I J : Double × Double}
    (h : Inside P I J) (b : Bool) : Inside P I (Geohash.half round J b) := by
  obtain ⟨hmean, hmin, hmax⟩ := hround J h.min h.max h.le
  cases b with
  | false => exact ⟨h.min, hmean, hmin, h.min_le, hmax.trans h.le_max⟩
  | true => exact ⟨hmean, h.max, hmax, h.min_le.trans hmin, h.le_max⟩

theorem Inside.refl {P : Double → Prop} {I J : Double × Double} (h : Inside P I J) :
    Inside P J J :=
  ⟨h.min, h.max, h.le, le_rfl, le_rfl⟩

theorem Inside.narrow {P : Double → Prop} (hround : Closed round P) {I J : Double × Double}
    (h : Inside P I J) (bs : List Bool) : Inside P I (Geohash.narrow round J bs) := by
  induction bs generalizing J with
  | nil => exact h
  | cons b bs ih => exact ih (h.half hround b)

theorem isDouble_of_abs_lt {n : ℤ} (h : |n| < 2 ^ 53) : IsDouble n :=
  isDouble_iff.mpr ⟨n, 0, h, by norm_num, by simp⟩

theorem inside_latitudes : Inside IsDouble (-90, 90) (-90, 90) where
  min := by exact_mod_cast isDouble_of_abs_lt (n := -90) (by norm_num)
  max := by exact_mod_cast isDouble_of_abs_lt (n := 90) (by norm_num)
  le := by norm_num
  min_le := le_rfl
  le_max := le_rfl

theorem inside_longitudes : Inside IsDouble (-180, 180) (-180, 180) where
  min := by exact_mod_cast isDouble_of_abs_lt (n := -180) (by norm_num)
  max := by exact_mod_cast isDouble_of_abs_lt (n := 180) (by norm_num)
  le := by norm_num
  min_le := le_rfl
  le_max := le_rfl

theorem narrow_append (round : Double → Double) (I : Double × Double) (bs bs' : List Bool) :
    Geohash.narrow round I (bs ++ bs') = Geohash.narrow round (Geohash.narrow round I bs) bs' :=
  List.foldl_append

theorem deinterleave_injective {α : Type} :
    Function.Injective (deinterleave : List α → List α × List α) := by
  intro xs ys h
  induction xs generalizing ys with
  | nil =>
    cases ys with
    | nil => rfl
    | cons y ys => simp [deinterleave] at h
  | cons x xs ih =>
    cases ys with
    | nil => simp [deinterleave] at h
    | cons y ys =>
      simp only [deinterleave, Prod.mk.injEq, List.cons.injEq] at h
      obtain ⟨⟨hx, heven⟩, hodd⟩ := h
      rw [hx, ih (Prod.ext hodd heven)]

theorem length_deinterleave {α : Type} (xs : List α) :
    (deinterleave xs).1.length = (xs.length + 1) / 2 ∧
      (deinterleave xs).2.length = xs.length / 2 := by
  induction xs with
  | nil => simp [deinterleave]
  | cons x xs ih =>
    simp only [deinterleave, List.length_cons]
    omega

/-- The first `k` elements of two rows laid alternately, the longer part first. -/
theorem deinterleave_take_interleave {α : Type} {as bs : List α} (h : as.length = bs.length)
    (k : ℕ) : deinterleave ((interleave as bs).take k) =
      (as.take ((k + 1) / 2), bs.take (k / 2)) := by
  induction as, bs using interleave.induct generalizing k with
  | case1 bs =>
    have hbs : bs = [] := List.length_eq_zero_iff.mp h.symm
    simp [interleave, deinterleave, hbs]
  | case2 a as => simp at h
  | case3 a as b bs ih =>
    rcases k with _ | _ | k
    · rfl
    · simp [interleave, deinterleave]
    · -- two more elements are one more of each row
      have hodd : (k + 2 + 1) / 2 = (k + 1) / 2 + 1 := by omega
      have heven : (k + 2) / 2 = k / 2 + 1 := by omega
      rw [hodd, heven]
      simp [interleave, deinterleave, ih (by simpa using h)]

variable (round) in
theorem length_keyBits (n : ℕ) (latitude longitude : Double) :
    (keyBits round (5 * n) (n * 5) latitude longitude).length = 5 * n := by
  rw [keyBits, List.length_take, length_interleave (by simp), length_bits]
  omega

/-- An odd number of bits has one more for the longitude. -/
theorem deinterleave_keyBits {k n : ℕ} (hk : k ≤ n) (latitude longitude : Double) :
    deinterleave (keyBits round k n latitude longitude) =
      (bits round longitude ((k + 1) / 2) (-180, 180),
        bits round latitude (k / 2) (-90, 90)) := by
  have hlon : n = (k + 1) / 2 + (n - (k + 1) / 2) := by omega
  have hlat : n = k / 2 + (n - k / 2) := by omega
  rw [keyBits, deinterleave_take_interleave (by simp)]
  congr 1
  · rw [hlon, take_bits]
  · rw [hlat, take_bits]

/-- **The encoder on Doubles** calculates exactly up to 19 characters: the means of
    the further halvings, which may be rounded, do not reach the result. -/
theorem encode_round {n : ℕ} (hn : n ≤ 19) (latitude longitude : Double) :
    encode Double.round latitude longitude n = encode id latitude longitude n := by
  have hkey : keyBits Double.round (5 * n) (n * 5) latitude longitude =
      keyBits id (5 * n) (n * 5) latitude longitude := by
    apply deinterleave_injective
    rw [deinterleave_keyBits (by omega), deinterleave_keyBits (by omega), bits_id, bits_id,
      (exact_longitude.mono (by omega)).bits_eq, (exact_latitude.mono (by omega)).bits_eq]
  rw [encode_eq, encode_eq, hkey]

/-- A character of the alphabet. -/
def InAlphabet (c : Character) : Prop := c.unicodeScalars ∈ alphabet.map fun scalar => [scalar]

instance (c : Character) : Decidable (InAlphabet c) := inferInstanceAs (Decidable (_ ∈ _))

/-- The decoder looks the characters of the alphabet up and puts one question mark for
    any other. -/
theorem length_bitmapLookup (c : Character) :
    ((bitmapLookup c).getD "?").length = if InAlphabet c then 5 else 1 := by
  by_cases hc : InAlphabet c
  · obtain ⟨scalar, hscalar, hsingle⟩ := List.mem_map.mp hc
    have hfive : ∀ scalar ∈ alphabet, ((bitmap.lookup scalar).getD "?").length = 5 :=
      List.forall_iff_forall_mem.mp (by decide)
    rw [if_pos hc, bitmapLookup, ← hsingle]
    exact hfive scalar hscalar
  · have hkeys : ∀ e ∈ bitmap, e.1 ∈ alphabet := by decide
    have hnone : bitmapLookup c = none := by
      unfold bitmapLookup
      split
      · rename_i scalar hscalar
        rw [List.lookup_eq_none_iff]
        intro e he
        have hne : scalar ≠ e.1 := by
          rintro rfl
          apply hc
          rw [InAlphabet, hscalar]
          exact List.mem_map_of_mem (hkeys e he)
        simpa using hne
      · rfl
    rw [hnone, if_neg hc]
    rfl

/-- The bits of a text, with the question marks. -/
def decodedBits (hash : List Character) : String :=
  String.join (hash.map fun c => (bitmapLookup c).getD "?")

theorem length_decodedBits (hash : List Character) :
    (decodedBits hash).length + 4 * (hash.filter (¬ InAlphabet ·)).length = 5 * hash.length := by
  induction hash with
  | nil => rfl
  | cons c cs ih =>
    have hcons : (decodedBits (c :: cs)).length =
        ((bitmapLookup c).getD "?").length + (decodedBits cs).length := by
      rw [decodedBits, List.map_cons, String.join_cons, String.length_append]
      rfl
    rw [hcons, length_bitmapLookup, List.length_cons]
    by_cases hc : InAlphabet c
    · rw [if_pos hc, List.filter_cons_of_neg (by simpa using hc)]
      omega
    · rw [if_neg hc, List.filter_cons_of_pos (by simpa using hc), List.length_cons]
      omega

/-- The halves that the two axes are narrowed to, longitude first. -/
def decodedRows (hash : List Character) : List Bool × List Bool :=
  deinterleave ((decodedBits hash).toList.map fun c => decide (c = '1'))

/-- Whatever a character is, it chooses a half. -/
theorem foldl_decodeCombiner_eq_narrow (I : Double × Double) (cs : List Char) :
    cs.foldl (decodeCombiner round) I = narrow round I (cs.map fun c => decide (c = '1')) := by
  induction cs generalizing I with
  | nil => rfl
  | cons c cs ih =>
    have hstep : decodeCombiner round I c = half round I (decide (c = '1')) := by
      by_cases hc : c = '1'
      · simp [decodeCombiner, half, hc]
      · simp [decodeCombiner, half, hc]
    rw [List.foldl_cons, List.map_cons, hstep, ih]
    rfl

theorem decode_eq (hash : List Character) :
    decode round hash = if (decodedBits hash).length % 5 = 0 then
      some (narrow round (-90, 90) (decodedRows hash).2,
        narrow round (-180, 180) (decodedRows hash).1)
    else none := by
  show (if (decodedBits hash).length % 5 = 0 then some
      (((decodedBits hash).toList.zipIdx.foldl splitStep ([], [])).1.foldl (decodeCombiner round)
        (-90, 90),
      ((decodedBits hash).toList.zipIdx.foldl splitStep ([], [])).2.foldl (decodeCombiner round)
        (-180, 180))
    else none) = _
  rw [foldl_splitStep, decodedRows, deinterleave_map]
  simp [foldl_decodeCombiner_eq_narrow]

/-- **The decoder on Doubles** calculates exactly up to 19 characters. -/
theorem decode_round {hash : List Character} (h : hash.length ≤ 19) :
    decode Double.round hash = decode id hash := by
  have hlength := length_decodedBits hash
  obtain ⟨hlon, hlat⟩ := length_deinterleave
    ((decodedBits hash).toList.map fun c => decide (c = '1'))
  rw [List.length_map, String.length_toList] at hlon hlat
  change (decodedRows hash).1.length = _ at hlon
  change (decodedRows hash).2.length = _ at hlat
  rw [decode_eq, decode_eq, narrow_id, narrow_id, (exact_latitude.mono (by omega)).narrow_eq,
    (exact_longitude.mono (by omega)).narrow_eq]

/-! ## Section 2: The coordinates of a hash -/

/-- Every text over the alphabet is written by bits. -/
theorem exists_digits {cs : List Char} (h : ∀ c ∈ cs, c ∈ alphabet) :
    ∃ bs, bs.length = 5 * cs.length ∧ digits bs = cs := by
  induction cs with
  | nil => exact ⟨[], rfl, rfl⟩
  | cons c cs ih =>
    have hall : ∀ c ∈ alphabet, ∃ a b d e f : Bool, digit a b d e f = c :=
      List.forall_iff_forall_mem.mp (by decide)
    obtain ⟨hc, hcs⟩ := List.forall_mem_cons.mp h
    obtain ⟨a, b, d, e, f, hdigit⟩ := hall c hc
    obtain ⟨bs, hlength, hbs⟩ := ih hcs
    refine ⟨a :: b :: d :: e :: f :: bs, ?_, ?_⟩
    · simp only [List.length_cons]
      omega
    · rw [digits, hdigit, hbs]

/-- The ranges of a text over the alphabet. -/
theorem decode_of_alphabet {hash : String} (h : ∀ c ∈ hash.toList, c ∈ alphabet) :
    ∃ bs, bs.length = 5 * hash.length ∧ hash = String.ofList (digits bs) ∧
      decode id (characters hash) = some (Bisection.narrow (-90, 90) (deinterleave bs).2,
        Bisection.narrow (-180, 180) (deinterleave bs).1) := by
  obtain ⟨bs, hlength, hbs⟩ := exists_digits h
  have hhash : hash = String.ofList (digits bs) := by rw [hbs, String.ofList_toList]
  rw [String.length_toList] at hlength
  refine ⟨bs, hlength, hhash, ?_⟩
  rw [hhash]
  exact decode_digits id bs (by omega)

theorem encode_eq_digits_iff {bs : List Bool} {n : ℕ} (hbs : bs.length = 5 * n)
    (latitude longitude : Double) :
    encode id latitude longitude n = .ok (String.ofList (digits bs)) ↔
      Bisection.InCell (-90, 90) (Bisection.narrow (-90, 90) (deinterleave bs).2) latitude ∧
      Bisection.InCell (-180, 180) (Bisection.narrow (-180, 180) (deinterleave bs).1)
        longitude := by
  have hlat := Bisection.bits_eq_iff (I := ((-90 : Double), 90)) (by norm_num)
    (deinterleave bs).2 latitude
  have hlon := Bisection.bits_eq_iff (I := ((-180 : Double), 180)) (by norm_num)
    (deinterleave bs).1 longitude
  rw [(length_deinterleave bs).2, hbs] at hlat
  rw [(length_deinterleave bs).1, hbs] at hlon
  -- equal texts have equal bits, and equal bits equal rows
  have hkey : encode id latitude longitude n = .ok (String.ofList (digits bs)) ↔
      keyBits id (5 * n) (n * 5) latitude longitude = bs := by
    rw [encode_eq]
    constructor
    · intro h
      apply digits_injective _ _ (String.ofList_injective (Except.ok.inj h))
      · rw [length_keyBits]
        omega
      · omega
    · intro h
      rw [h]
  rw [hkey, ← hlat, ← hlon, ← deinterleave_injective.eq_iff,
    deinterleave_keyBits (by omega), bits_id, bits_id, Prod.mk.injEq]
  exact and_comm

/-- What the encoder returns is a text over the alphabet. -/
theorem encode_eq_ok {latitude longitude : Double} {n : ℕ} {hash : String}
    (h : encode round latitude longitude n = .ok hash) :
    hash.length = n ∧ ∀ c ∈ hash.toList, c ∈ alphabet := by
  rw [encode_eq] at h
  obtain rfl := Except.ok.inj h
  constructor
  · rw [String.length_ofList, length_digits, length_keyBits]
    omega
  · intro c hc
    rw [String.toList_ofList] at hc
    exact mem_alphabet_of_mem_digits hc

/-- **The encoder from the decoder.** On Doubles, the hash of `n` characters of a
    coordinate is the text of `n` characters of the alphabet to whose ranges the
    coordinate belongs, each range without its upper end.  Ranges at the border of
    the globe go on beyond it, so every coordinate has exactly one such hash. -/
theorem encode_eq_ok_iff_inCell (latitude longitude : Double) {n : ℕ} (hn : n ≤ 19)
    (hash : String) :
    encode Double.round latitude longitude n = .ok hash ↔
      hash.length = n ∧ (∀ c ∈ hash.toList, c ∈ alphabet) ∧
      ∃ lat lon, decode Double.round (characters hash) = some (lat, lon) ∧
        Bisection.InCell (-90, 90) lat latitude ∧
        Bisection.InCell (-180, 180) lon longitude := by
  rw [encode_round hn]
  constructor
  · intro h
    obtain ⟨hlength, halphabet⟩ := encode_eq_ok h
    obtain ⟨bs, hbs, hhash, hdecode⟩ := decode_of_alphabet halphabet
    rw [hhash] at h
    have hcells := (encode_eq_digits_iff (hlength ▸ hbs) latitude longitude).mp h
    rw [← decode_round (by rw [length_characters, hlength]; exact hn)] at hdecode
    exact ⟨hlength, halphabet, _, _, hdecode, hcells.1, hcells.2⟩
  · intro h
    obtain ⟨hlength, halphabet, lat, lon, hranges, hlat, hlon⟩ := h
    obtain ⟨bs, hbs, hhash, hdecode⟩ := decode_of_alphabet halphabet
    rw [decode_round (by rw [length_characters, hlength]; exact hn)] at hranges
    obtain ⟨rfl, rfl⟩ := Prod.mk.inj (Option.some.inj (hranges.symm.trans hdecode))
    rw [hhash]
    exact (encode_eq_digits_iff (hlength ▸ hbs) latitude longitude).mpr ⟨hlat, hlon⟩

theorem encode_eq_ok_iff_inCell_sample :
    encode Double.round 38 (-77) 4 = .ok "dqc0" ↔
      "dqc0".length = 4 ∧ (∀ c ∈ "dqc0".toList, c ∈ alphabet) ∧
      ∃ lat lon, decode Double.round (characters "dqc0") = some (lat, lon) ∧
        Bisection.InCell (-90, 90) lat 38 ∧ Bisection.InCell (-180, 180) lon (-77) :=
  encode_eq_ok_iff_inCell 38 (-77) (by decide) "dqc0"

/-! ## Section 3: The centre of a cell -/

/-- The halving that finds the centre is still exact. -/
theorem init_digits {bs : List Bool} {n : ℕ} (hn : n ≤ 18) (hbs : bs.length = 5 * n) :
    CLLocationCoordinate2D.init Double.round (characters (String.ofList (digits bs))) =
      ⟨Bisection.midpoint (Bisection.narrow (-90, 90) (deinterleave bs).2),
        Bisection.midpoint (Bisection.narrow (-180, 180) (deinterleave bs).1)⟩ := by
  obtain ⟨hlon, hlat⟩ := length_deinterleave bs
  have hdecode := decode_digits Double.round bs (by omega)
  rw [(exact_latitude.mono (by omega)).narrow_eq, (exact_longitude.mono (by omega)).narrow_eq]
    at hdecode
  rw [CLLocationCoordinate2D.init, hdecode]
  dsimp only
  rw [exact_latitude _ (by omega), exact_longitude _ (by omega)]

/-- **There and back.** On Doubles, the coordinate made from a text of up to 18
    characters of the alphabet has that text as its hash. -/
theorem geohash_init {hash : String} (hlength : hash.length ≤ 18)
    (h : ∀ c ∈ hash.toList, c ∈ alphabet) :
    (CLLocationCoordinate2D.init Double.round (characters hash)).geohash Double.round
      hash.length = .ok hash := by
  obtain ⟨bs, hbs, hhash, _⟩ := decode_of_alphabet h
  have hlat := Bisection.narrow_bounds (I := ((-90 : Double), 90)) (by norm_num)
    (deinterleave bs).2
  have hlon := Bisection.narrow_bounds (I := ((-180 : Double), 180)) (by norm_num)
    (deinterleave bs).1
  -- the centre belongs to its own cell
  have hcentre := (encode_eq_digits_iff hbs _ _).mpr
    ⟨Bisection.inCell_midpoint hlat.2.1, Bisection.inCell_midpoint hlon.2.1⟩
  have hinit := init_digits hlength hbs
  rw [← hhash] at hinit hcentre
  rw [CLLocationCoordinate2D.geohash, encode_round (by omega), hinit]
  exact hcentre

theorem geohash_init_sample :
    (CLLocationCoordinate2D.init Double.round (characters "u4pruydqqvj")).geohash Double.round 11 =
      .ok "u4pruydqqvj" :=
  geohash_init (by decide) (List.forall_iff_forall_mem.mp (by decide))

/-- **Back and there.** On Doubles, the hash of up to 18 characters of a coordinate on
    the globe leads to a coordinate at most half a cell away on either axis. -/
theorem init_geohash_near {latitude longitude : Double} (h : OnGlobe latitude longitude)
    {n : ℕ} (hn : n ≤ 18) :
    ∃ hash, (⟨latitude, longitude⟩ : CLLocationCoordinate2D).geohash Double.round n = .ok hash ∧
      |(CLLocationCoordinate2D.init Double.round (characters hash)).latitude - latitude|
        ≤ 90 / 2 ^ (5 * n / 2) ∧
      |(CLLocationCoordinate2D.init Double.round (characters hash)).longitude - longitude|
        ≤ 180 / 2 ^ ((5 * n + 1) / 2) := by
  have hlat := Bisection.abs_midpoint_sub_le (5 * n / 2) (I := ((-90 : Double), 90))
    ⟨h.latitude_ge, h.latitude_le⟩
  have hlon := Bisection.abs_midpoint_sub_le ((5 * n + 1) / 2) (I := ((-180 : Double), 180))
    ⟨h.longitude_ge, h.longitude_le⟩
  refine ⟨_, (encode_round (by omega) latitude longitude).trans (encode_eq id _ _ n), ?_⟩
  rw [init_digits hn (length_keyBits id n latitude longitude), deinterleave_keyBits (by omega),
    bits_id, bits_id]
  norm_num at hlat hlon
  exact ⟨hlat, hlon⟩

theorem init_geohash_near_sample :
    ∃ hash, (⟨38, -77⟩ : CLLocationCoordinate2D).geohash Double.round 4 = .ok hash ∧
      |(CLLocationCoordinate2D.init Double.round (characters hash)).latitude - 38| ≤ 90 / 2 ^ 10 ∧
      |(CLLocationCoordinate2D.init Double.round (characters hash)).longitude - -77|
        ≤ 180 / 2 ^ 10 :=
  init_geohash_near (by constructor <;> norm_num) (n := 4) (by decide)

/-! ## Section 4: Longer hashes -/

theorem digits_append {bs : List Bool} (h : bs.length % 5 = 0) (bs' : List Bool) :
    digits (bs ++ bs') = digits bs ++ digits bs' := by
  induction bs using digits.induct with
  | case1 a b c d e rest ih =>
    have hrest : rest.length % 5 = 0 := by
      simp only [List.length_cons] at h
      omega
    simp [digits, ih hrest]
  | case2 bs hne =>
    have hlt := length_lt_five hne
    have hnil : bs = [] := List.length_eq_zero_iff.mp (by omega)
    subst hnil
    rfl

/-- After an odd number of elements the two rows change places. -/
theorem deinterleave_append {α : Type} (xs ys : List α) :
    deinterleave (xs ++ ys) =
      if xs.length % 2 = 0 then
        ((deinterleave xs).1 ++ (deinterleave ys).1, (deinterleave xs).2 ++ (deinterleave ys).2)
      else
        ((deinterleave xs).1 ++ (deinterleave ys).2, (deinterleave xs).2 ++ (deinterleave ys).1) := by
  induction xs with
  | nil => simp [deinterleave]
  | cons x xs ih =>
    rcases Nat.mod_two_eq_zero_or_one xs.length with hk | hk
    · have hk1 : (xs.length + 1) % 2 = 1 := by omega
      simp [deinterleave, ih, hk, hk1]
    · have hk1 : (xs.length + 1) % 2 = 0 := by omega
      simp [deinterleave, ih, hk, hk1]

/-- Each row of the longer list begins with the row of the shorter one. -/
theorem deinterleave_prefix {α : Type} (xs ys : List α) :
    ∃ odd even, deinterleave (xs ++ ys) =
      ((deinterleave xs).1 ++ odd, (deinterleave xs).2 ++ even) := by
  rw [deinterleave_append]
  split_ifs
  · exact ⟨_, _, rfl⟩
  · exact ⟨_, _, rfl⟩

/-- **Longer hashes refine shorter ones.** However the means are rounded, the hash of
    a coordinate begins with its hash of any smaller length. -/
theorem encode_add (round : Double → Double) (latitude longitude : Double) (m k : ℕ) :
    ∃ hash rest, encode round latitude longitude m = .ok hash ∧
      encode round latitude longitude (m + k) = .ok (hash ++ rest) := by
  -- the bits of the shorter hash are the first ones of the longer hash
  have hkeep : (keyBits round (5 * (m + k)) ((m + k) * 5) latitude longitude).take (5 * m) =
      keyBits round (5 * m) (m * 5) latitude longitude := by
    apply deinterleave_injective
    have htake : (keyBits round (5 * (m + k)) ((m + k) * 5) latitude longitude).take (5 * m) =
        keyBits round (5 * m) ((m + k) * 5) latitude longitude := by
      rw [keyBits, List.take_take, Nat.min_eq_left (by omega)]
      rfl
    rw [htake, deinterleave_keyBits (by omega), deinterleave_keyBits (by omega)]
  refine ⟨_, String.ofList ((digits (keyBits round (5 * (m + k)) ((m + k) * 5) latitude
    longitude)).drop m), encode_eq round latitude longitude m, ?_⟩
  rw [encode_eq, ← hkeep, ← take_digits, ← String.ofList_append, List.take_append_drop]

/-- The numbers of exact arithmetic, and the Doubles, with the borders of the globe. -/
theorem exists_closed (hround : round = id ∨ round = Double.round) :
    ∃ P, Closed round P ∧ Inside P (-90, 90) (-90, 90) ∧ Inside P (-180, 180) (-180, 180) := by
  rcases hround with rfl | rfl
  · exact ⟨_, closed_id, ⟨trivial, trivial, by norm_num, le_rfl, le_rfl⟩,
      trivial, trivial, by norm_num, le_rfl, le_rfl⟩
  · exact ⟨_, closed_round, inside_latitudes, inside_longitudes⟩

/-- **Cells are nested.** In exact arithmetic and on Doubles, the cell of a text lies in
    the cell of every text that it begins with. -/
theorem decode_append (hround : round = id ∨ round = Double.round) {hash rest : String}
    (h : ∀ c ∈ (hash ++ rest).toList, c ∈ alphabet) :
    ∃ lat lon lat' lon', decode round (characters hash) = some (lat, lon) ∧
      decode round (characters (hash ++ rest)) = some (lat', lon') ∧
      lat.1 ≤ lat'.1 ∧ lat'.2 ≤ lat.2 ∧ lon.1 ≤ lon'.1 ∧ lon'.2 ≤ lon.2 := by
  rw [String.toList_append, List.forall_mem_append] at h
  obtain ⟨bs, hbs, hhash, _⟩ := decode_of_alphabet h.1
  obtain ⟨bs', hbs', hrest, _⟩ := decode_of_alphabet h.2
  have hdecode := decode_digits round bs (by omega)
  have hdecode' := decode_digits round (bs ++ bs') (by rw [List.length_append]; omega)
  rw [digits_append (by omega), String.ofList_append, ← hhash, ← hrest] at hdecode'
  rw [← hhash] at hdecode
  obtain ⟨odd, even, hrows⟩ := deinterleave_prefix bs bs'
  rw [hrows, narrow_append, narrow_append] at hdecode'
  obtain ⟨P, hclosed, hlatitudes, hlongitudes⟩ := exists_closed hround
  -- the further bits stay inside the ranges reached so far
  have hlat := (hlatitudes.narrow hclosed (deinterleave bs).2).refl.narrow hclosed even
  have hlon := (hlongitudes.narrow hclosed (deinterleave bs).1).refl.narrow hclosed odd
  exact ⟨_, _, _, _, hdecode, hdecode', hlat.min_le, hlat.le_max, hlon.min_le, hlon.le_max⟩

theorem decode_append_sample :
    ∃ lat lon lat' lon', decode Double.round (characters "u4pr") = some (lat, lon) ∧
      decode Double.round (characters ("u4pr" ++ "uydqqvj")) = some (lat', lon') ∧
      lat.1 ≤ lat'.1 ∧ lat'.2 ≤ lat.2 ∧ lon.1 ≤ lon'.1 ∧ lon'.2 ≤ lon.2 :=
  decode_append (.inr rfl) (List.forall_iff_forall_mem.mp (by decide))

/-! ## Section 5: The texts that the decoder takes -/

/-- **What the decoder takes.** A text is refused exactly if the number of its characters
    outside the alphabet is no multiple of five: five of them pass for one character.
    On Doubles, the ranges of any other text lie on the globe, and up to 19 characters
    they are not empty. -/
theorem decode_eq_none_iff (hash : List Character) :
    (decode Double.round hash = none ↔ (hash.filter (¬ InAlphabet ·)).length % 5 ≠ 0) ∧
    ∀ lat lon, decode Double.round hash = some (lat, lon) →
      (-90 ≤ lat.1 ∧ lat.1 ≤ lat.2 ∧ lat.2 ≤ 90) ∧
      (-180 ≤ lon.1 ∧ lon.1 ≤ lon.2 ∧ lon.2 ≤ 180) ∧
      (hash.length ≤ 19 → lat.1 < lat.2 ∧ lon.1 < lon.2) := by
  have hlength := length_decodedBits hash
  constructor
  · rw [decode_eq]
    split_ifs with hfive
    · constructor
      · intro hnone
        cases hnone
      · intro hne
        omega
    · constructor
      · intro _
        omega
      · intro _
        rfl
  · intro lat lon hdecode
    have hranges := hdecode
    rw [decode_eq] at hranges
    split_ifs at hranges with hfive
    obtain ⟨rfl, rfl⟩ := Prod.mk.inj (Option.some.inj hranges)
    have hlat := inside_latitudes.narrow closed_round (decodedRows hash).2
    have hlon := inside_longitudes.narrow closed_round (decodedRows hash).1
    refine ⟨⟨hlat.min_le, hlat.le, hlat.le_max⟩, ⟨hlon.min_le, hlon.le, hlon.le_max⟩, ?_⟩
    intro hshort
    -- short texts are decoded exactly, and halves of a range are not empty
    rw [decode_round hshort, decode_eq, if_pos hfive] at hdecode
    obtain ⟨hexact, hexact'⟩ := Prod.mk.inj (Option.some.inj hdecode)
    have hlatitudes : (-90 : Double) < 90 := by norm_num
    have hlongitudes : (-180 : Double) < 180 := by norm_num
    rw [← hexact, ← hexact']
    exact ⟨(Bisection.narrow_bounds (I := (-90, 90)) hlatitudes _).2.1,
      (Bisection.narrow_bounds (I := (-180, 180)) hlongitudes _).2.1⟩

/-- A line break of two scalars is one character: four are outside the alphabet. -/
theorem decode_eq_none_iff_lineBreak :
    decode Double.round (⟨['\r', '\n'], by decide⟩ :: characters "!!!") = none :=
  (decode_eq_none_iff _).1.mpr (by decide)

example : decode id (characters "?????") = decode id (characters "0") := by decide +kernel

end Geohash

end RideHitch
