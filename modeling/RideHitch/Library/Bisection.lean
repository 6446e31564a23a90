import Mathlib.Algebra.Order.Floor.Semiring
import Mathlib.Algebra.Order.Field.Basic
import Mathlib.Data.Nat.Bitwise
import Mathlib.Tactic.FieldSimp
import Mathlib.Tactic.Linarith
import Mathlib.Tactic.Ring

/-! # Repeated bisection of an interval

    Locating a point `x` of `[lo, hi]` by halving the interval `n` times
    writes one bit for each halving, `true` for the upper half.  The bits are
    the binary digits, most significant first, of the index of the cell of
    width `(hi - lo) / 2 ^ n` that holds `x`; the last cell is closed on both
    sides (`bits_eq_binary`).  Following the bits back leads to a subinterval
    that still holds `x` (`mem_narrow_bits`). -/

namespace Bisection

variable {K : Type*} [Field K] [LinearOrder K]

/-! ## Section 1: Halving -/

def midpoint (I : K × K) : K := (I.1 + I.2) / 2

/-- The half of `I` that the bit names. -/
def half (I : K × K) (b : Bool) : K × K :=
  if b then (midpoint I, I.2) else (I.1, midpoint I)

/-- The bits written by `n` halvings in search of `x`. -/
def bits (x : K) : ℕ → K × K → List Bool
  | 0, _ => []
  | n + 1, I =>
      let b := decide (midpoint I ≤ x)
      b :: bits x n (half I b)

/-- The interval that a list of bits leads to. -/
def narrow (I : K × K) (bs : List Bool) : K × K := bs.foldl half I

@[simp] theorem length_bits (x : K) (n : ℕ) (I : K × K) : (bits x n I).length = n := by
  induction n generalizing I with
  | zero => rfl
  | succ n ih => simp [bits, ih]

/-- Fewer halvings write a prefix of the bits. -/
theorem take_bits (x : K) (m n : ℕ) (I : K × K) :
    (bits x (m + n) I).take m = bits x m I := by
  induction m generalizing I with
  | zero => simp [bits]
  | succ m ih =>
    rw [Nat.succ_add]
    simp only [bits, List.take_succ_cons, ih]

/-- The half chosen in search of `x` holds `x`. -/
theorem mem_half {x : K} {I : K × K} (h : I.1 ≤ x ∧ x ≤ I.2) :
    (half I (decide (midpoint I ≤ x))).1 ≤ x ∧ x ≤ (half I (decide (midpoint I ≤ x))).2 := by
  by_cases hx : midpoint I ≤ x
  · simpa [half, hx] using h.2
  · simpa [half, hx] using And.intro h.1 (le_of_lt (not_le.mp hx))

theorem mem_narrow_bits {x : K} (n : ℕ) {I : K × K} (h : I.1 ≤ x ∧ x ≤ I.2) :
    (narrow I (bits x n I)).1 ≤ x ∧ x ≤ (narrow I (bits x n I)).2 := by
  induction n generalizing I with
  | zero => exact h
  | succ n ih => exact ih (mem_half h)

/-! ## Section 2: Binary digits -/

/-- The `n` low binary digits of `k`, most significant first. -/
def binary : ℕ → ℕ → List Bool
  | 0, _ => []
  | n + 1, k => k.testBit n :: binary n k

@[simp] theorem length_binary (n k : ℕ) : (binary n k).length = n := by
  induction n with
  | zero => rfl
  | succ n ih => simp [binary, ih]

theorem binary_congr {n k k' : ℕ} (h : ∀ i < n, k.testBit i = k'.testBit i) :
    binary n k = binary n k' := by
  induction n with
  | zero => rfl
  | succ n ih =>
    have hlow : binary n k = binary n k' := by
      apply ih
      intro i hi
      exact h i (by omega)
    rw [binary, binary, h n (by omega), hlow]

theorem testBit_of_binary_eq {n k k' : ℕ} (h : binary n k = binary n k') :
    ∀ i < n, k.testBit i = k'.testBit i := by
  induction n with
  | zero =>
    intro i hi
    omega
  | succ n ih =>
    simp only [binary, List.cons.injEq] at h
    intro i hi
    rcases Nat.lt_succ_iff_lt_or_eq.mp hi with hlt | rfl
    · exact ih h.2 i hlt
    · exact h.1

/-- Below `2 ^ n` a number is determined by its `n` digits. -/
theorem binary_injective {n k k' : ℕ} (hk : k < 2 ^ n) (hk' : k' < 2 ^ n)
    (h : binary n k = binary n k') : k = k' := by
  apply Nat.eq_of_testBit_eq
  intro i
  rcases Nat.lt_or_ge i n with hi | hi
  · exact testBit_of_binary_eq h i hi
  · have hpow : 2 ^ n ≤ 2 ^ i := Nat.pow_le_pow_right (by omega) hi
    rw [Nat.testBit_lt_two_pow (by omega), Nat.testBit_lt_two_pow (by omega)]

/-! ## Section 3: The bits are the digits of the cell index -/

variable [FloorSemiring K]

/-- The index of the cell of `x` among `2 ^ n` equal cells of `I`.  The upper
    end of `I` belongs to the last cell. -/
def cellIndex (n : ℕ) (I : K × K) (x : K) : ℕ :=
  min (2 ^ n - 1) ⌊(x - I.1) * 2 ^ n / (I.2 - I.1)⌋₊

theorem cellIndex_lt (n : ℕ) (I : K × K) (x : K) : cellIndex n I x < 2 ^ n := by
  have hpos : 0 < 2 ^ n := Nat.two_pow_pos n
  unfold cellIndex
  omega

variable [IsStrictOrderedRing K]

/-- In the lower half the index is the index among that half's cells. -/
theorem cellIndex_lower {n : ℕ} {I : K × K} {x : K} (hI : I.1 < I.2) (hx : x < midpoint I) :
    cellIndex (n + 1) I x = cellIndex n (half I false) x := by
  have hw : 0 < I.2 - I.1 := sub_pos.mpr hI
  have hpos : 0 < 2 ^ n := Nat.two_pow_pos n
  -- half the interval has half the cells, so the quotient stays the same
  have hquot : (x - I.1) * 2 ^ (n + 1) / (I.2 - I.1)
      = (x - (half I false).1) * 2 ^ n / ((half I false).2 - (half I false).1) := by
    have hw' : (I.1 + I.2) / 2 - I.1 = (I.2 - I.1) / 2 := by ring
    simp only [half, midpoint, Bool.false_eq_true, if_false, hw']
    field_simp
    ring
  -- below the middle the floor stays below `2 ^ n`, and neither cap matters
  have hlt : (x - I.1) * 2 ^ (n + 1) / (I.2 - I.1) < ((2 ^ n : ℕ) : K) := by
    have hx' : (x - I.1) * 2 < I.2 - I.1 := by
      unfold midpoint at hx
      linarith
    rw [div_lt_iff₀ hw, pow_succ]
    push_cast
    have h2 : (0 : K) < 2 ^ n := by positivity
    calc (x - I.1) * (2 ^ n * 2) = 2 ^ n * ((x - I.1) * 2) := by ring
      _ < 2 ^ n * (I.2 - I.1) := mul_lt_mul_of_pos_left hx' h2
  have hfloor := (Nat.floor_lt' (by omega)).mpr hlt
  unfold cellIndex
  rw [← hquot, pow_succ]
  omega

/-- In the upper half it is `2 ^ n` more. -/
theorem cellIndex_upper {n : ℕ} {I : K × K} {x : K} (hI : I.1 < I.2) (hx : midpoint I ≤ x) :
    cellIndex (n + 1) I x = 2 ^ n + cellIndex n (half I true) x := by
  have hw : 0 < I.2 - I.1 := sub_pos.mpr hI
  have hpos : 0 < 2 ^ n := Nat.two_pow_pos n
  -- the cells of the lower half come first
  have hquot : (x - I.1) * 2 ^ (n + 1) / (I.2 - I.1)
      = (x - (half I true).1) * 2 ^ n / ((half I true).2 - (half I true).1)
        + ((2 ^ n : ℕ) : K) := by
    have hw' : I.2 - (I.1 + I.2) / 2 = (I.2 - I.1) / 2 := by ring
    simp only [half, midpoint, if_true, hw']
    field_simp
    push_cast
    ring
  have hnonneg : 0 ≤ (x - (half I true).1) * 2 ^ n / ((half I true).2 - (half I true).1) := by
    have hmid : midpoint I < I.2 := by
      unfold midpoint
      linarith
    apply div_nonneg
    · exact mul_nonneg (sub_nonneg.mpr hx) (by positivity)
    · exact le_of_lt (sub_pos.mpr hmid)
  unfold cellIndex
  rw [hquot, Nat.floor_add_natCast hnonneg, pow_succ]
  omega

/-- **The bits of the bisection are the digits of the cell index.** -/
theorem bits_eq_binary {x : K} (n : ℕ) {I : K × K} (hI : I.1 < I.2) (h : I.1 ≤ x ∧ x ≤ I.2) :
    bits x n I = binary n (cellIndex n I x) := by
  induction n generalizing I with
  | zero => rfl
  | succ n ih =>
    have hmid : I.1 < midpoint I ∧ midpoint I < I.2 := by
      unfold midpoint
      constructor <;> linarith
    -- the first bit names the half; the others are the digits of the index in it
    have hlt := cellIndex_lt n (half I (decide (midpoint I ≤ x))) x
    by_cases hx : midpoint I ≤ x
    · rw [cellIndex_upper hI hx, bits, binary]
      simp only [hx, decide_true] at hlt ⊢
      rw [ih (by simpa [half] using hmid.2) (by simpa [half] using ⟨hx, h.2⟩)]
      congr 1
      · rw [Nat.testBit_two_pow_add_eq, Nat.testBit_lt_two_pow hlt]
        rfl
      · exact binary_congr fun i hi => (Nat.testBit_two_pow_add_gt hi _).symm
    · have hx' := not_le.mp hx
      rw [cellIndex_lower hI hx', bits, binary]
      simp only [hx, decide_false] at hlt ⊢
      rw [ih (by simpa [half] using hmid.1) (by simpa [half] using ⟨h.1, le_of_lt hx'⟩)]
      rw [Nat.testBit_lt_two_pow hlt]

/-! ## Section 4: The points that write given bits -/

omit [FloorSemiring K]

theorem half_bounds {I : K × K} (hI : I.1 < I.2) (b : Bool) :
    I.1 ≤ (half I b).1 ∧ (half I b).1 < (half I b).2 ∧ (half I b).2 ≤ I.2 := by
  have hmid : I.1 < midpoint I ∧ midpoint I < I.2 := by
    unfold midpoint
    constructor <;> linarith
  cases b with
  | false => exact ⟨le_refl _, hmid.1, le_of_lt hmid.2⟩
  | true => exact ⟨le_of_lt hmid.1, hmid.2, le_refl _⟩

/-- Following bits never leaves the interval and never makes it empty. -/
theorem narrow_bounds {I : K × K} (hI : I.1 < I.2) (bs : List Bool) :
    I.1 ≤ (narrow I bs).1 ∧ (narrow I bs).1 < (narrow I bs).2 ∧ (narrow I bs).2 ≤ I.2 := by
  induction bs generalizing I with
  | nil => exact ⟨le_refl _, hI, le_refl _⟩
  | cons b bs ih =>
    obtain ⟨hlo, hlt, hhi⟩ := half_bounds hI b
    obtain ⟨hlo', hlt', hhi'⟩ := ih hlt
    exact ⟨hlo.trans hlo', hlt', hhi'.trans hhi⟩

omit [LinearOrder K] [IsStrictOrderedRing K] in
theorem narrow_append (I : K × K) (bs bs' : List Bool) :
    narrow I (bs ++ bs') = narrow (narrow I bs) bs' :=
  List.foldl_append

/-- Every bit halves the width. -/
theorem narrow_width (I : K × K) (bs : List Bool) :
    (narrow I bs).2 - (narrow I bs).1 = (I.2 - I.1) / 2 ^ bs.length := by
  induction bs generalizing I with
  | nil => simp [narrow]
  | cons b bs ih =>
    have hhalf : (half I b).2 - (half I b).1 = (I.2 - I.1) / 2 := by
      cases b <;> simp only [half, midpoint, Bool.false_eq_true, if_false, if_true] <;> ring
    show (narrow (half I b) bs).2 - (narrow (half I b) bs).1 = _
    rw [ih, hhalf, List.length_cons, pow_succ, div_div, mul_comm]

/-- `x` belongs to the part `J` of `I`: it is not below `J` and is below its upper
    end.  At an end of `I` the part goes on beyond `I`. -/
structure InCell (I J : K × K) (x : K) : Prop where
  lower : J.1 = I.1 ∨ J.1 ≤ x
  upper : J.2 = I.2 ∨ x < J.2

/-- **A point writes the bits exactly if it belongs to the part they lead to**,
    whether or not it lies in the interval. -/
theorem bits_eq_iff {I : K × K} (hI : I.1 < I.2) (bs : List Bool) (x : K) :
    bits x bs.length I = bs ↔ InCell I (narrow I bs) x := by
  induction bs generalizing I with
  | nil => exact ⟨fun _ => ⟨.inl rfl, .inl rfl⟩, fun _ => rfl⟩
  | cons b bs ih =>
    have hmid : I.1 < midpoint I ∧ midpoint I < I.2 := by
      unfold midpoint
      constructor <;> linarith
    obtain ⟨hlo, hlt, hhi⟩ := narrow_bounds (half_bounds hI b).2.1 bs
    have hcons : bits x (b :: bs).length I = b :: bs ↔
        decide (midpoint I ≤ x) = b ∧ InCell (half I b) (narrow (half I b) bs) x := by
      rw [← ih (half_bounds hI b).2.1]
      simp only [List.length_cons, bits, List.cons.injEq]
      constructor
      · intro h
        obtain ⟨hb, hbs⟩ := h
        exact ⟨hb, hb ▸ hbs⟩
      · intro h
        obtain ⟨hb, hbs⟩ := h
        exact ⟨hb, hb.symm ▸ hbs⟩
    rw [hcons]
    show _ ↔ InCell I (narrow (half I b) bs) x
    -- the part lies in the half named by the first bit, so only one end can be an end of `I`
    cases b with
    | false =>
      have hlo : I.1 ≤ (narrow (half I false) bs).1 := hlo
      have hhi : (narrow (half I false) bs).2 ≤ midpoint I := hhi
      constructor
      · intro h
        obtain ⟨hx, hcell⟩ := h
        have hx : x < midpoint I := not_le.mp (of_decide_eq_false hx)
        refine ⟨hcell.lower, .inr ?_⟩
        rcases hcell.upper with hend | hbelow
        · have hend : (narrow (half I false) bs).2 = midpoint I := hend
          rw [hend]
          exact hx
        · exact hbelow
      · intro hcell
        have hbelow : x < (narrow (half I false) bs).2 := by
          rcases hcell.upper with hend | hbelow
          · exact absurd hend (ne_of_lt (hhi.trans_lt hmid.2))
          · exact hbelow
        exact ⟨decide_eq_false (not_le.mpr (hbelow.trans_le hhi)), hcell.lower, .inr hbelow⟩
    | true =>
      have hlo : midpoint I ≤ (narrow (half I true) bs).1 := hlo
      constructor
      · intro h
        obtain ⟨hx, hcell⟩ := h
        have hx : midpoint I ≤ x := of_decide_eq_true hx
        refine ⟨.inr ?_, hcell.upper⟩
        rcases hcell.lower with hend | habove
        · have hend : (narrow (half I true) bs).1 = midpoint I := hend
          rw [hend]
          exact hx
        · exact habove
      · intro hcell
        have habove : (narrow (half I true) bs).1 ≤ x := by
          rcases hcell.lower with hend | habove
          · exact absurd hend (ne_of_gt (hmid.1.trans_le hlo))
          · exact habove
        exact ⟨decide_eq_true (hlo.trans habove), .inr habove, hcell.upper⟩

/-- The middle of a part belongs to it. -/
theorem inCell_midpoint {I J : K × K} (hJ : J.1 < J.2) : InCell I J (midpoint J) := by
  unfold midpoint
  constructor
  · right
    linarith
  · right
    linarith

/-- The middle of the part that `x` leads to is at most half a part away from `x`. -/
theorem abs_midpoint_sub_le {x : K} (n : ℕ) {I : K × K} (h : I.1 ≤ x ∧ x ≤ I.2) :
    |midpoint (narrow I (bits x n I)) - x| ≤ (I.2 - I.1) / 2 / 2 ^ n := by
  obtain ⟨hlo, hhi⟩ := mem_narrow_bits n h
  have hwidth := narrow_width I (bits x n I)
  rw [length_bits] at hwidth
  have hhalf : (I.2 - I.1) / 2 / 2 ^ n = (I.2 - I.1) / 2 ^ n / 2 := by
    rw [div_div, div_div, mul_comm]
  rw [hhalf, ← hwidth, midpoint, abs_le]
  constructor
  · linarith
  · linarith

/-! ## Section 5: The values of the midpoints -/

omit [LinearOrder K] [IsStrictOrderedRing K] in
/-- The ends of a part are neighbouring multiples of its width. -/
theorem exists_narrow_eq [CharZero K] (c : K) (a : ℤ) (m : ℕ) (bs : List Bool) :
    ∃ a' : ℤ, narrow (c * a / 2 ^ m, c * (a + 2) / 2 ^ m) bs =
      (c * a' / 2 ^ (m + bs.length), c * (a' + 2) / 2 ^ (m + bs.length)) := by
  induction bs generalizing a m with
  | nil => exact ⟨a, rfl⟩
  | cons b bs ih =>
    -- the half is again such an interval, one halving further
    have hhalf : half (c * a / 2 ^ m, c * (a + 2) / 2 ^ m) b =
        (c * ((2 * a + 2 * b.toNat : ℤ) : K) / 2 ^ (m + 1),
          c * (((2 * a + 2 * b.toNat : ℤ) : K) + 2) / 2 ^ (m + 1)) := by
      cases b with
      | false =>
        simp only [half, midpoint, Bool.false_eq_true, if_false, Bool.toNat_false, Prod.mk.injEq]
        push_cast
        constructor
        · field_simp
          ring
        · field_simp
          ring
      | true =>
        simp only [half, midpoint, if_true, Bool.toNat_true, Prod.mk.injEq]
        push_cast
        constructor
        · field_simp
          ring
        · field_simp
          ring
    obtain ⟨a', ha'⟩ := ih (2 * a + 2 * b.toNat) (m + 1)
    refine ⟨a', ?_⟩
    show narrow (half _ b) bs = _
    rw [hhalf, ha', List.length_cons, Nat.add_right_comm, Nat.add_assoc]

/-- The midpoint of a part of `[-c, c]` is a multiple of its width less than `c`. -/
theorem exists_midpoint_eq {c : K} (hc : 0 < c) (bs : List Bool) :
    ∃ k : ℤ, |k| < 2 ^ bs.length ∧ midpoint (narrow (-c, c) bs) = c * k / 2 ^ bs.length := by
  have hI : ((-c, c) : K × K) = (c * ((-1 : ℤ) : K) / 2 ^ 0, c * (((-1 : ℤ) : K) + 2) / 2 ^ 0) := by
    simp only [Prod.mk.injEq]
    push_cast
    constructor
    · ring
    · ring
  obtain ⟨a, ha⟩ := exists_narrow_eq c (-1) 0 bs
  rw [← hI, Nat.zero_add] at ha
  obtain ⟨hlo, _, hhi⟩ := narrow_bounds (I := (-c, c)) (neg_lt_self hc) bs
  rw [ha] at hlo hhi
  have hpow : (0 : K) < 2 ^ bs.length := by positivity
  -- the part lies in the interval
  have hlo' : -(2 ^ bs.length : K) ≤ a := by
    rw [le_div_iff₀ hpow] at hlo
    nlinarith
  have hhi' : (a : K) + 2 ≤ 2 ^ bs.length := by
    rw [div_le_iff₀ hpow] at hhi
    nlinarith
  have hloZ : -(2 ^ bs.length : ℤ) ≤ a := by exact_mod_cast hlo'
  have hhiZ : a + 2 ≤ (2 ^ bs.length : ℤ) := by exact_mod_cast hhi'
  refine ⟨a + 1, abs_lt.mpr ⟨by omega, by omega⟩, ?_⟩
  rw [ha, midpoint]
  push_cast
  field_simp
  ring

end Bisection
