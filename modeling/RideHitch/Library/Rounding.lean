import Mathlib.Algebra.Order.Field.Power
import Mathlib.Algebra.Order.Floor.Ring
import Mathlib.Algebra.Order.Ring.Abs
import Mathlib.Data.Int.Log
import Mathlib.Tactic.Linarith
import Mathlib.Tactic.Ring
import Mathlib.Tactic.FieldSimp

/-! # Rounding to floating point

    The numbers of a format are the integers of fewer than `precision` digits times
    a power of the radix, the exponent being at least `emin`.  An operation of the
    format is the exact operation followed by `round`, which goes to the nearest
    such number, of two as near to the one with the even significand.  There is no
    largest number: what would overflow is out of the scope.

    Section 1 rounds to integers, Section 2 to a format.  `round` gives numbers of
    the format (`representable_round`) and keeps them (`round_of_representable`), is
    monotone (`round_mono`) and odd (`round_neg`). -/

namespace Rounding

variable {K : Type*} [Field K] [LinearOrder K] [IsStrictOrderedRing K] [FloorRing K]

/-! ## Section 1: Integers -/

/-- The nearest integer, of two as near the even one.  The integer below `q` is as far
    away as the fractional part says, the one above as far as it leaves. -/
def nearestEven (q : K) : ℤ :=
  if Int.fract q < 1 - Int.fract q then ⌊q⌋
  else if 1 - Int.fract q < Int.fract q then ⌊q⌋ + 1
  else if Even ⌊q⌋ then ⌊q⌋
  else ⌊q⌋ + 1

/-- `n` is nearest to `q`, and even if there is another. -/
structure Nearest (q : K) (n : ℤ) : Prop where
  le : |q - n| ≤ 1 / 2
  even : |q - n| = 1 / 2 → Even n

omit [IsStrictOrderedRing K] [FloorRing K] in
theorem Nearest.of_lt {q : K} {n : ℤ} (h : |q - n| < 1 / 2) : Nearest q n :=
  ⟨h.le, fun heq => absurd heq h.ne⟩

theorem nearest_nearestEven (q : K) : Nearest q (nearestEven q) := by
  have hsum := Int.floor_add_fract q
  have hnonneg := Int.fract_nonneg q
  have hlt := Int.fract_lt_one q
  unfold nearestEven
  split_ifs with hlow hhigh heven
  · have habs : |q - ⌊q⌋| = Int.fract q := by
      rw [Int.self_sub_floor, abs_of_nonneg hnonneg]
    exact ⟨by rw [habs]; linarith, fun h => absurd (habs ▸ h) (by intro h; linarith)⟩
  · have habs : |q - ((⌊q⌋ + 1 : ℤ) : K)| = 1 - Int.fract q := by
      rw [abs_of_nonpos (by push_cast; linarith)]
      push_cast
      linarith
    exact ⟨by rw [habs]; linarith, fun h => absurd (habs ▸ h) (by intro h; linarith)⟩
  · have habs : |q - ⌊q⌋| = Int.fract q := by
      rw [Int.self_sub_floor, abs_of_nonneg hnonneg]
    exact ⟨by rw [habs]; linarith [not_lt.mp hhigh], fun _ => heven⟩
  · have habs : |q - ((⌊q⌋ + 1 : ℤ) : K)| = 1 - Int.fract q := by
      rw [abs_of_nonpos (by push_cast; linarith)]
      push_cast
      linarith
    have hodd := Int.not_even_iff_odd.mp heven
    exact ⟨by rw [habs]; linarith [not_lt.mp hlow], fun _ => hodd.add_one⟩

/-- A smaller number has no larger nearest integer. -/
theorem Nearest.mono {q q' : K} {n n' : ℤ} (h : Nearest q n) (h' : Nearest q' n')
    (hle : q ≤ q') : n ≤ n' := by
  by_contra hlt
  have hstep : n' + 1 ≤ n := by omega
  have hstep' : (n' : K) + 1 ≤ n := by exact_mod_cast hstep
  have hn := abs_le.mp h.le
  have hn' := abs_le.mp h'.le
  -- the two integers are neighbours, and `q = q'` lies in the middle
  have hneighbour : (n : K) = n' + 1 := by linarith
  have hodd : n = n' + 1 := by exact_mod_cast hneighbour
  have hmiddle : q - n = -(1 / 2) := by linarith
  have hmiddle' : q' - n' = 1 / 2 := by linarith
  have hhalf : (0 : K) ≤ 1 / 2 := by norm_num
  have heven := h.even (by rw [hmiddle, abs_neg, abs_of_nonneg hhalf])
  have heven' := h'.even (by rw [hmiddle', abs_of_nonneg hhalf])
  rw [hodd] at heven
  exact (Int.not_even_iff_odd.mpr heven'.add_one) heven

theorem nearestEven_eq {q : K} {n : ℤ} (h : Nearest q n) : nearestEven q = n :=
  le_antisymm ((nearest_nearestEven q).mono h le_rfl) (h.mono (nearest_nearestEven q) le_rfl)

theorem nearestEven_mono {q q' : K} (hle : q ≤ q') : nearestEven q ≤ nearestEven q' :=
  (nearest_nearestEven q).mono (nearest_nearestEven q') hle

@[simp] theorem nearestEven_intCast (n : ℤ) : nearestEven (n : K) = n := by
  apply nearestEven_eq
  constructor
  · simp
  · simp

theorem nearestEven_neg (q : K) : nearestEven (-q) = -nearestEven q := by
  have h := nearest_nearestEven q
  have habs : |(-q) - ((-nearestEven q : ℤ) : K)| = |q - nearestEven q| := by
    rw [← abs_neg]
    congr 1
    push_cast
    ring
  apply nearestEven_eq
  constructor
  · rw [habs]
    exact h.le
  · intro hhalf
    rw [habs] at hhalf
    exact (h.even hhalf).neg

/-! ## Section 2: Formats -/

structure Format where
  radix : ℕ
  precision : ℕ
  emin : ℤ
  one_lt_radix : 1 < radix
  precision_pos : 0 < precision

namespace Format

variable (F : Format)

/-- A number of the format. -/
def Representable (x : K) : Prop :=
  ∃ m e : ℤ, |m| < F.radix ^ F.precision ∧ F.emin ≤ e ∧ x = m * (F.radix : K) ^ e

/-- The exponent of the last place of the numbers as large as `x`. -/
def lastPlace (x : K) : ℤ := max (Int.log F.radix |x| - (F.precision - 1)) F.emin

def round (x : K) : K :=
  nearestEven (x / (F.radix : K) ^ F.lastPlace x) * (F.radix : K) ^ F.lastPlace x

variable {F}

omit [FloorRing K] in
theorem one_lt_cast : (1 : K) < F.radix := by exact_mod_cast F.one_lt_radix

omit [FloorRing K] in
theorem radix_pos : (0 : K) < F.radix := one_pos.trans one_lt_cast

omit [FloorRing K] in
theorem place_pos (k : ℤ) : (0 : K) < (F.radix : K) ^ k := zpow_pos radix_pos k

theorem round_neg (x : K) : F.round (-x) = -F.round x := by
  have hplace : F.lastPlace (-x) = F.lastPlace x := by rw [lastPlace, abs_neg, lastPlace]
  rw [round, hplace, neg_div, nearestEven_neg, round]
  push_cast
  ring

theorem round_zero : F.round (0 : K) = 0 := by
  have hzero : nearestEven (0 : K) = 0 := by exact_mod_cast nearestEven_intCast (K := K) 0
  rw [round, zero_div, hzero]
  simp

/-- Between two powers of the radix the last place stays. -/
theorem lastPlace_eq {x : K} {k : ℤ} (hlow : (F.radix : K) ^ k ≤ |x|)
    (hhigh : |x| < (F.radix : K) ^ (k + 1)) :
    F.lastPlace x = max (k - (F.precision - 1)) F.emin := by
  have hpos : 0 < |x| := (place_pos k).trans_le hlow
  have hle := (Int.zpow_le_iff_le_log F.one_lt_radix hpos).mp hlow
  have hlt := (Int.lt_zpow_iff_log_lt F.one_lt_radix hpos).mp hhigh
  have hlog : Int.log F.radix |x| = k := by omega
  rw [lastPlace, hlog]

variable (F) in
/-- The number of the format that is nearest to `x`, by its significand. -/
theorem round_eq {x : K} {k n : ℤ} (hlow : (F.radix : K) ^ k ≤ |x|)
    (hhigh : |x| < (F.radix : K) ^ (k + 1))
    (hnear : Nearest (x / (F.radix : K) ^ max (k - (F.precision - 1)) F.emin) n) :
    F.round x = n * (F.radix : K) ^ max (k - (F.precision - 1)) F.emin := by
  rw [round, lastPlace_eq hlow hhigh, nearestEven_eq hnear]

omit [IsStrictOrderedRing K] [LinearOrder K] [FloorRing K] in
theorem Representable.neg {x : K} (h : F.Representable x) : F.Representable (-x) := by
  obtain ⟨m, e, hm, he, rfl⟩ := h
  refine ⟨-m, e, by rwa [abs_neg], he, ?_⟩
  push_cast
  ring

omit [FloorRing K] in
theorem Representable.radix_mul {x : K} (h : F.Representable x) :
    F.Representable (F.radix * x) := by
  obtain ⟨m, e, hm, he, rfl⟩ := h
  refine ⟨m, e + 1, hm, by omega, ?_⟩
  rw [zpow_add_one₀ radix_pos.ne']
  ring

omit [FloorRing K] in
theorem abs_significand_lt {m : ℤ} (e : ℤ) (hm : |m| < F.radix ^ F.precision) :
    |(m : K) * (F.radix : K) ^ e| < (F.radix : K) ^ ((F.precision : ℤ) + e) := by
  have hplace := place_pos (K := K) (F := F) e
  rw [abs_mul, abs_of_pos hplace, zpow_add₀ radix_pos.ne']
  apply mul_lt_mul_of_pos_right _ hplace
  exact_mod_cast hm

/-- **Numbers of the format stay.** -/
theorem round_of_representable {x : K} (h : F.Representable x) : F.round x = x := by
  obtain ⟨m, e, hm, he, rfl⟩ := h
  rcases eq_or_ne m 0 with rfl | hne
  · simp [round_zero]
  · have hplace := place_pos (K := K) (F := F) e
    have hpos : 0 < |(m : K) * (F.radix : K) ^ e| :=
      abs_pos.mpr (mul_ne_zero (by exact_mod_cast hne) hplace.ne')
    have hlog := (Int.lt_zpow_iff_log_lt F.one_lt_radix hpos).mp (abs_significand_lt e hm)
    -- the last place is not above the exponent, so the significand is an integer
    obtain ⟨d, hd⟩ : ∃ d : ℕ, e = F.lastPlace ((m : K) * (F.radix : K) ^ e) + d := by
      apply Int.le.dest _ |>.imp
      · intro d hd
        exact hd.symm
      · unfold lastPlace
        omega
    generalize hL : F.lastPlace ((m : K) * (F.radix : K) ^ e) = L at hd
    have hpower := place_pos (K := K) (F := F) L
    have hquot : (m : K) * (F.radix : K) ^ e / (F.radix : K) ^ L =
        ((m * F.radix ^ d : ℤ) : K) := by
      rw [hd, zpow_add₀ radix_pos.ne']
      field_simp
      push_cast
      rw [zpow_natCast]
    rw [round, hL, hquot, nearestEven_intCast, ← hquot]
    field_simp

variable (F) in
theorem lastPlace_mono {x y : K} (hx : 0 < x) (h : x ≤ y) : F.lastPlace x ≤ F.lastPlace y := by
  have hlog := Int.log_mono_right (b := F.radix) hx h
  rw [lastPlace, lastPlace, abs_of_pos hx, abs_of_pos (hx.trans_le h)]
  omega

variable (F) in
/-- All numbers with a last place are below the power that is `precision` places up. -/
theorem lt_of_lastPlace {x : K} (hx : 0 < x) :
    x < (F.radix : K) ^ (F.lastPlace x + F.precision) := by
  have hlt := Int.lt_zpow_succ_log_self F.one_lt_radix x
  have hle : Int.log F.radix x + 1 ≤ F.lastPlace x + F.precision := by
    rw [lastPlace, abs_of_pos hx]
    omega
  exact hlt.trans_le (zpow_le_zpow_right₀ one_lt_cast.le hle)

/-- If the last place is not the least one, `x` has all places of the format. -/
theorem le_of_lastPlace {x : K} (hx : 0 < x) (h : F.emin < F.lastPlace x) :
    (F.radix : K) ^ (F.lastPlace x + F.precision - 1) ≤ x := by
  have hplace : F.lastPlace x + F.precision - 1 = Int.log F.radix x := by
    rw [lastPlace, abs_of_pos hx] at h ⊢
    omega
  rw [hplace]
  exact Int.zpow_log_le_self F.one_lt_radix hx

theorem significand_le {x : K} {n : ℕ} (h : x ≤ (F.radix : K) ^ (F.lastPlace x + n)) :
    nearestEven (x / (F.radix : K) ^ F.lastPlace x) ≤ F.radix ^ n := by
  have hquot : x / (F.radix : K) ^ F.lastPlace x ≤ ((F.radix ^ n : ℤ) : K) := by
    rw [div_le_iff₀ (place_pos _)]
    push_cast
    rwa [zpow_add₀ radix_pos.ne', zpow_natCast, mul_comm] at h
  have hnearest := nearestEven_mono hquot
  rwa [nearestEven_intCast] at hnearest

theorem le_significand {x : K} {n : ℕ} (h : (F.radix : K) ^ (F.lastPlace x + n) ≤ x) :
    F.radix ^ n ≤ nearestEven (x / (F.radix : K) ^ F.lastPlace x) := by
  have hquot : ((F.radix ^ n : ℤ) : K) ≤ x / (F.radix : K) ^ F.lastPlace x := by
    rw [le_div_iff₀ (place_pos _)]
    push_cast
    rwa [zpow_add₀ radix_pos.ne', zpow_natCast, mul_comm] at h
  have hnearest := nearestEven_mono hquot
  rwa [nearestEven_intCast] at hnearest

variable (F) in
theorem significand_nonneg {x : K} (h : 0 ≤ x) :
    0 ≤ nearestEven (x / (F.radix : K) ^ F.lastPlace x) := by
  have hquot : ((0 : ℤ) : K) ≤ x / (F.radix : K) ^ F.lastPlace x := by
    rw [Int.cast_zero]
    exact div_nonneg h (place_pos _).le
  have hnearest := nearestEven_mono hquot
  rwa [nearestEven_intCast] at hnearest

/-- A bound of `n` places above the last one is kept. -/
theorem round_le_of_le {x : K} {n : ℕ} (h : x ≤ (F.radix : K) ^ (F.lastPlace x + n)) :
    F.round x ≤ (F.radix : K) ^ (F.lastPlace x + n) := by
  have hle := significand_le h
  rw [round, zpow_add₀ radix_pos.ne', zpow_natCast, mul_comm ((F.radix : K) ^ F.lastPlace x)]
  exact mul_le_mul_of_nonneg_right (by exact_mod_cast hle) (place_pos _).le

theorem le_round_of_le {x : K} {n : ℕ} (h : (F.radix : K) ^ (F.lastPlace x + n) ≤ x) :
    (F.radix : K) ^ (F.lastPlace x + n) ≤ F.round x := by
  have hle := le_significand h
  rw [round, zpow_add₀ radix_pos.ne', zpow_natCast, mul_comm ((F.radix : K) ^ F.lastPlace x)]
  exact mul_le_mul_of_nonneg_right (by exact_mod_cast hle) (place_pos _).le

variable (F) in
theorem round_nonneg {x : K} (h : 0 ≤ x) : 0 ≤ F.round x :=
  mul_nonneg (by exact_mod_cast F.significand_nonneg h) (place_pos _).le

variable (F) in
theorem representable_round_of_pos {x : K} (hx : 0 < x) : F.Representable (F.round x) := by
  have hemin : F.emin ≤ F.lastPlace x := le_max_right _ _
  rcases (significand_le (F.lt_of_lastPlace hx).le).eq_or_lt with heq | hlt
  · -- the significand got one digit more than fits: a power of the radix
    refine ⟨1, F.lastPlace x + F.precision, ?_, by omega, ?_⟩
    · rw [abs_one]
      exact one_lt_pow₀ (by exact_mod_cast F.one_lt_radix) F.precision_pos.ne'
    · rw [round, heq, zpow_add₀ radix_pos.ne', zpow_natCast]
      push_cast
      ring
  · have hnonneg := F.significand_nonneg hx.le
    exact ⟨_, F.lastPlace x, by rwa [abs_of_nonneg hnonneg], hemin, rfl⟩

variable (F) in
/-- **Rounding gives a number of the format.** -/
theorem representable_round (x : K) : F.Representable (F.round x) := by
  rcases lt_trichotomy x 0 with hx | rfl | hx
  · have hneg := (F.representable_round_of_pos (neg_pos.mpr hx)).neg
    rwa [round_neg, neg_neg] at hneg
  · have hpos : (0 : ℤ) < F.radix ^ F.precision := by
      exact_mod_cast Nat.pow_pos (Nat.zero_lt_of_lt F.one_lt_radix)
    exact ⟨0, F.emin, by rwa [abs_zero], le_rfl, by simp [round_zero]⟩
  · exact F.representable_round_of_pos hx

variable (F) in
theorem round_mono_of_pos {x y : K} (hx : 0 < x) (h : x ≤ y) : F.round x ≤ F.round y := by
  rcases (F.lastPlace_mono hx h).eq_or_lt with hsame | hlt
  · have hplace := place_pos (K := K) (F := F) (F.lastPlace y)
    rw [round, round, hsame]
    apply mul_le_mul_of_nonneg_right _ hplace.le
    exact_mod_cast nearestEven_mono (div_le_div_of_nonneg_right h hplace.le)
  · -- a power of the radix lies between them
    have hlow := round_le_of_le (F.lt_of_lastPlace hx).le
    have hhigh := le_of_lastPlace (hx.trans_le h) (lt_of_le_of_lt (le_max_right _ _) hlt)
    have hprecision := F.precision_pos
    have hplace : F.lastPlace y + F.precision - 1 = F.lastPlace y + (F.precision - 1 : ℕ) := by
      omega
    rw [hplace] at hhigh
    refine hlow.trans (le_trans ?_ (le_round_of_le hhigh))
    apply zpow_le_zpow_right₀ one_lt_cast.le
    omega

variable (F) in
/-- **Rounding is monotone.** -/
theorem round_mono : Monotone (F.round : K → K) := by
  intro x y h
  rcases lt_trichotomy x 0 with hx | rfl | hx
  · rcases lt_or_ge y 0 with hy | hy
    · have hneg := F.round_mono_of_pos (neg_pos.mpr hy) (neg_le_neg h)
      rw [round_neg, round_neg] at hneg
      exact neg_le_neg_iff.mp hneg
    · have hneg := F.round_nonneg (neg_nonneg.mpr hx.le)
      rw [round_neg] at hneg
      exact (neg_nonneg.mp hneg).trans (F.round_nonneg hy)
  · rw [round_zero]
    exact F.round_nonneg h
  · exact F.round_mono_of_pos hx h

omit [FloorRing K] in
/-- From a power of the radix on, the numbers of the format are the multiples of another. -/
theorem Representable.exists_eq_mul {x : K} (h : F.Representable x) {k : ℤ}
    (hk : (F.radix : K) ^ k ≤ |x|) :
    ∃ n : ℤ, x = n * (F.radix : K) ^ (k - F.precision + 1) := by
  obtain ⟨m, e, hm, _, rfl⟩ := h
  have hexp : k < F.precision + e :=
    (zpow_lt_zpow_iff_right₀ one_lt_cast).mp (hk.trans_lt (abs_significand_lt e hm))
  obtain ⟨d, hd⟩ : ∃ d : ℕ, e = k - F.precision + 1 + d :=
    ⟨(e - (k - F.precision + 1)).toNat, by omega⟩
  refine ⟨m * F.radix ^ d, ?_⟩
  rw [hd, zpow_add₀ radix_pos.ne']
  push_cast
  rw [zpow_natCast]
  ring

omit [FloorRing K] in
/-- The numbers of the format above `n` last places have at least one more. -/
theorem Representable.succ_le {x : K} (h : F.Representable x) {k n : ℤ}
    (hk : (F.radix : K) ^ k ≤ n * (F.radix : K) ^ (k - F.precision + 1))
    (hlt : n * (F.radix : K) ^ (k - F.precision + 1) < x) :
    (n + 1 : ℤ) * (F.radix : K) ^ (k - F.precision + 1) ≤ x := by
  have hplace := place_pos (K := K) (F := F) (k - F.precision + 1)
  have habs : (F.radix : K) ^ k ≤ |x| := (hk.trans hlt.le).trans (le_abs_self x)
  obtain ⟨n', rfl⟩ := h.exists_eq_mul habs
  have hn : n < n' := by exact_mod_cast lt_of_mul_lt_mul_right hlt hplace.le
  apply mul_le_mul_of_nonneg_right _ hplace.le
  exact_mod_cast hn

/-- A bound on a rounded sum is a bound on the summand: `n` last places are the last
    number of the format that is not too large. -/
theorem round_add_le_iff {k n : ℤ} {y b : K}
    (hk : (F.radix : K) ^ k ≤ n * (F.radix : K) ^ (k - F.precision + 1))
    (hlast : F.round (n * (F.radix : K) ^ (k - F.precision + 1) + y) ≤ b)
    (hnext : b < F.round ((n + 1 : ℤ) * (F.radix : K) ^ (k - F.precision + 1) + y))
    {x : K} (hx : F.Representable x) :
    F.round (x + y) ≤ b ↔ x ≤ n * (F.radix : K) ^ (k - F.precision + 1) := by
  constructor
  · intro hle
    by_contra hlt
    have hmono := F.round_mono (add_le_add_left (hx.succ_le hk (not_le.mp hlt)) y)
    exact absurd (hmono.trans hle) (not_le.mpr hnext)
  · intro hle
    exact (F.round_mono (add_le_add_left hle y)).trans hlast

end Format

end Rounding
