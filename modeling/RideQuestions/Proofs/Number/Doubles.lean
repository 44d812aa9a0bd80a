import RideQuestions.Proofs.Number.Magnitudes

/-! The double nearest to a ratio. It is found by the power of two below the ratio, which tells the
spacing of the doubles around it, and it is nearest to the ratio among all doubles, with ties to the
even one and infinity from the overflow on.
-/

namespace RideQuestions.Number.Binary64

-----------------------------------------------------------------------------------------
-- The magnitude that a ratio is rounded to
-----------------------------------------------------------------------------------------

/-- A power of two is not above a ratio when it is not above its numerator, scaled by the
denominator. -/
theorem zpow_le_ratio_iff (num : ℕ) {den : ℕ} (positive : 0 < den) (power : ℤ)
    : (if 0 ≤ power then den * Nat.pow 2 power.toNat ≤ num
          else den ≤ num * Nat.pow 2 (-power).toNat)
        ↔ (2 : ℚ) ^ power ≤ num / den := by
  have divisor : (0 : ℚ) < den := by exact_mod_cast positive
  rw [le_div_iff₀ divisor]
  split
  · next up =>
      obtain ⟨n, rfl⟩ := Int.eq_ofNat_of_zero_le up
      rw [zpow_natCast, mul_comm]
      exact_mod_cast Iff.rfl
  · next down =>
      obtain ⟨n, rfl⟩ : ∃ n : ℕ, power = -n := ⟨(-power).toNat, by omega⟩
      rw [neg_neg, Int.toNat_natCast, zpow_neg, zpow_natCast, inv_mul_le_iff₀ (by positivity),
        mul_comm]
      exact_mod_cast Iff.rfl

/-- The power of two below a positive ratio. -/
theorem floorLog2_spec {num den : ℕ} (filled : num ≠ 0) (positive : 0 < den)
    : (2 : ℚ) ^ floorLog2 num den ≤ num / den
      ∧ (num / den : ℚ) < 2 ^ (floorLog2 num den + 1) := by
  have divisor : (0 : ℚ) < den := by exact_mod_cast positive
  have above : (num : ℚ) < 2 ^ ((num.log2 : ℤ) + 1) := by
    exact_mod_cast Nat.lt_log2_self (n := num)
  have below : (2 : ℚ) ^ (num.log2 : ℤ) ≤ num := by
    exact_mod_cast Nat.log2_self_le filled
  have above' : (den : ℚ) < 2 ^ ((den.log2 : ℤ) + 1) := by
    exact_mod_cast Nat.lt_log2_self (n := den)
  have below' : (2 : ℚ) ^ (den.log2 : ℤ) ≤ den := by
    exact_mod_cast Nat.log2_self_le positive.ne'
  have upper : (num / den : ℚ) < 2 ^ ((num.log2 - den.log2 : ℤ) + 1) := by
    have scale : (0 : ℚ) < 2 ^ ((num.log2 - den.log2 : ℤ) + 1) := zpow_pos two_pos _
    have total : (2 : ℚ) ^ ((num.log2 - den.log2 : ℤ) + 1) * 2 ^ (den.log2 : ℤ)
        = 2 ^ ((num.log2 : ℤ) + 1) := by
      rw [← zpow_add₀ two_ne_zero]
      ring_nf
    rw [div_lt_iff₀ divisor]
    calc
      (num : ℚ) < 2 ^ ((num.log2 : ℤ) + 1) := above
      _ ≤ 2 ^ ((num.log2 - den.log2 : ℤ) + 1) * den :=
        total ▸ mul_le_mul_of_nonneg_left below' scale.le
  have lower : (2 : ℚ) ^ ((num.log2 - den.log2 : ℤ) - 1) ≤ num / den := by
    have scale : (0 : ℚ) < 2 ^ ((num.log2 - den.log2 : ℤ) - 1) := zpow_pos two_pos _
    have total : (2 : ℚ) ^ ((num.log2 - den.log2 : ℤ) - 1) * 2 ^ ((den.log2 : ℤ) + 1)
        = 2 ^ (num.log2 : ℤ) := by
      rw [← zpow_add₀ two_ne_zero]
      ring_nf
    rw [le_div_iff₀ divisor]
    calc
      (2 : ℚ) ^ ((num.log2 - den.log2 : ℤ) - 1) * den ≤ 2 ^ (num.log2 : ℤ) :=
        total ▸ mul_le_mul_of_nonneg_left above'.le scale.le
      _ ≤ num := below
  have reached := zpow_le_ratio_iff num positive (num.log2 - den.log2)
  unfold floorLog2
  dsimp only [Int.ofNat_eq_natCast]
  by_cases up : (2 : ℚ) ^ (num.log2 - den.log2 : ℤ) ≤ num / den
  · rw [if_pos (reached.mpr up)]
    exact ⟨up, upper⟩
  · rw [if_neg (fun h => up (reached.mp h)), sub_add_cancel]
    exact ⟨lower, not_le.mp up⟩

/-- The steps of a spacing that a ratio is rounded to, which is scaled by the spacing first. -/
theorem nearestInt_scaled (num : ℕ) {den : ℕ} (positive : 0 < den) (unit : ℤ)
    : NearestInt (num / den / 2 ^ unit)
        (if 0 ≤ unit then roundDiv num (den * Nat.pow 2 unit.toNat)
          else roundDiv (num * Nat.pow 2 (-unit).toNat) den : ℕ) := by
  split
  · next up =>
      obtain ⟨n, rfl⟩ := Int.eq_ofNat_of_zero_le up
      have near := nearestInt_roundDiv num (Nat.mul_pos positive (Nat.two_pow_pos n))
      rw [Nat.cast_mul, ← div_div] at near
      rw [zpow_natCast]
      exact_mod_cast near
  · next down =>
      obtain ⟨n, rfl⟩ : ∃ n : ℕ, unit = -n := ⟨(-unit).toNat, by omega⟩
      have near := nearestInt_roundDiv (num * 2 ^ n) positive
      rw [neg_neg, Int.toNat_natCast, zpow_neg, zpow_natCast, div_inv_eq_mul, div_mul_eq_mul_div]
      exact_mod_cast near

/-- The magnitude that a ratio is rounded to is nearest to it, as if there were no greatest one. -/
theorem ofRatio_eq (negative : Bool) (num : ℕ) {den : ℕ} (positive : 0 < den)
    : ∃ magnitude, NearestMagnitude (num / den) magnitude
        ∧ ofRatio negative num den
          = if infinityMagnitude ≤ magnitude then infinity negative
            else ofMagnitude negative magnitude := by
  rw [ofRatio]
  split
  · next zero =>
      refine ⟨0, ⟨fun k => ?_, fun _ _ _ => rfl⟩, by rw [if_neg (by decide)]; rfl⟩
      rw [zero, Nat.cast_zero, zero_div, valueOf_zero, sub_zero, abs_zero]
      exact abs_nonneg _
  · next filled =>
      obtain ⟨below, above⟩ := floorLog2_spec filled positive
      dsimp only
      refine ⟨_, ?_, rfl⟩
      obtain ⟨e, unit⟩ : ∃ e : ℕ, max (floorLog2 num den - 52) (-1074) = (e - 1074 : ℤ) :=
        ⟨(max (floorLog2 num den - 52) (-1074) + 1074).toNat, by omega⟩
      have near := nearestInt_scaled num positive (e - 1074)
      have spacing : (0 : ℚ) < 2 ^ (e - 1074 : ℤ) := zpow_pos two_pos _
      have bound : (num / den : ℚ) / 2 ^ (e - 1074 : ℤ) < 2 ^ 53 := by
        rw [div_lt_iff₀ spacing, ← zpow_natCast, ← zpow_add₀ two_ne_zero]
        exact above.trans_le (zpow_le_zpow_right₀ one_le_two (by omega))
      have normal : e = 0 ∨ 2 ^ 52 ≤ (num / den : ℚ) / 2 ^ (e - 1074 : ℤ) := by
        refine or_iff_not_imp_left.mpr fun later => ?_
        rw [le_div_iff₀ spacing, ← zpow_natCast, ← zpow_add₀ two_ne_zero]
        exact (zpow_le_zpow_right₀ one_le_two (by omega)).trans below
      rw [unit, sub_add_cancel, Int.toNat_natCast]
      generalize (if 0 ≤ (e - 1074 : ℤ) then roundDiv num (den * Nat.pow 2 (e - 1074 : ℤ).toNat)
          else roundDiv (num * Nat.pow 2 (-(e - 1074 : ℤ)).toNat) den) = steps at near ⊢
      have few : (steps : ℤ) ≤ 2 ^ 53 := near.le (by exact_mod_cast bound.le)
      have many : e = 0 ∨ (2 ^ 52 : ℤ) ≤ steps :=
        normal.imp_right fun normal => near.ge (by exact_mod_cast normal)
      exact nearestMagnitude_steps near normal (by omega) (by omega)

-----------------------------------------------------------------------------------------
-- Doubles by their values
-----------------------------------------------------------------------------------------

variable {x : Binary64} {q : ℚ}

/-- The value of a finite double. -/
def toRat (x : Binary64) : ℚ :=
  signedRat x.negative (x.significand * 2 ^ x.exponent)

theorem toRat_eq (x : Binary64)
    : x.toRat = signedRat x.negative (valueOf x.magnitude) := by
  have same : (x.significand * 2 ^ x.exponent : ℚ) = valueOf x.magnitude := by
    have power : Nat.pow 2 52 = 2 ^ 52 := rfl
    unfold significand exponent valueOf doublings
    rw [power]
    generalize x.magnitude = magnitude
    by_cases small : magnitude < 2 ^ 52
    · have first : magnitude / 2 ^ 52 - 1 = 0 := by omega
      rw [if_pos small, if_pos small, first]
      norm_num
    · have rest : magnitude - (magnitude / 2 ^ 52 - 1) * 2 ^ 52 = magnitude % 2 ^ 52 + 2 ^ 52 := by
        omega
      have shift : ((magnitude / 2 ^ 52 - 1 : ℕ) - 1074 : ℤ)
          = Int.ofNat (magnitude / 2 ^ 52) - 1075 := by
        rw [Int.ofNat_eq_natCast]
        omega
      rw [if_neg small, if_neg small, rest, shift]
  rw [toRat, same]

theorem ofMagnitude_fields (negative : Bool) {magnitude : ℕ} (bound : magnitude < 2 ^ 63)
    : (ofMagnitude negative magnitude).magnitude = magnitude
      ∧ (ofMagnitude negative magnitude).negative = negative := by
  have power : Nat.pow 2 63 = 9223372036854775808 := rfl
  unfold Binary64.magnitude Binary64.negative ofMagnitude
  rw [power, UInt64.toNat_ofNat']
  cases negative with
  | false =>
      rw [if_neg Bool.false_ne_true, decide_eq_false_iff_not]
      omega
  | true =>
      rw [if_pos rfl, decide_eq_true_eq]
      omega

/-- A double that is no further from a value than any other finite one, the even one of two that are
equally near; from the overflow on it is infinite. A value that is not zero gives it its sign. -/
structure Nearest (q : ℚ) (x : Binary64) : Prop where
  number : x.isNaN = false
  sign : q ≠ 0 → (x.negative = true ↔ q < 0)
  infinite : x.isInfinite = true ↔ overflow ≤ |q|
  closest : x.isFinite = true → ∀ y : Binary64, y.isFinite = true → |q - x.toRat| ≤ |q - y.toRat|
  even : x.isFinite = true → ∀ y : Binary64, y.isFinite = true → y.toRat ≠ x.toRat →
    |q - y.toRat| = |q - x.toRat| → x.magnitude % 2 = 0

/-- A double is finite unless it is infinite or no number. -/
theorem isFinite_iff
    : x.isFinite = true ↔ x.isNaN = false ∧ x.isInfinite = false := by
  rw [isFinite, isNaN, isInfinite, decide_eq_true_eq, decide_eq_false_iff_not,
    decide_eq_false_iff_not]
  omega

/-- Numbers of one sign are as far apart as their absolute values, and numbers of different signs as
far as both values together. -/
theorem abs_sub_signedRat {r v : ℚ} (hr : 0 ≤ r) (hv : 0 ≤ v) (negative other : Bool)
    : |signedRat negative r - signedRat other v| = if other = negative then |r - v| else r + v := by
  unfold signedRat
  cases negative <;> cases other
  · rfl
  · simp [abs_of_nonneg (add_nonneg hr hv)]
  · simp only [Bool.false_eq_true, if_false, if_true]
    rw [← neg_add', abs_neg, abs_of_nonneg (add_nonneg hr hv)]
  · simp only [if_true]
    rw [neg_sub_neg, abs_sub_comm]

/-- The double with the nearest magnitude is nearest: doubles of the other sign are no nearer than
zero is. -/
theorem nearest_of_magnitude {r : ℚ} (positive : 0 ≤ r) {magnitude : ℕ}
    (h : NearestMagnitude r magnitude) (negative : Bool)
    : Nearest (signedRat negative r)
        (if infinityMagnitude ≤ magnitude then infinity negative
          else ofMagnitude negative magnitude) := by
  have absolute : |signedRat negative r| = r := abs_signedRat negative positive
  generalize made : (if infinityMagnitude ≤ magnitude then infinity negative
    else ofMagnitude negative magnitude) = x
  obtain ⟨fields, sign⟩
      : x.magnitude = min infinityMagnitude magnitude ∧ x.negative = negative := by
    rw [← made]
    split
    · next beyond =>
        rw [min_eq_left beyond]
        exact ofMagnitude_fields negative (by decide)
    · next within =>
        have limit : infinityMagnitude < 2 ^ 63 := by decide
        rw [min_eq_right (by omega)]
        exact ofMagnitude_fields negative (by omega)
  have finite (h : x.isFinite = true) : x.magnitude = magnitude := by
    rw [isFinite, decide_eq_true_eq] at h
    omega
  have zero : |r - valueOf 0| = r := by rw [valueOf_zero, sub_zero, abs_of_nonneg positive]
  have distance (y : Binary64) : |signedRat negative r - y.toRat|
      = if y.negative = negative then |r - valueOf y.magnitude| else r + valueOf y.magnitude := by
    rw [toRat_eq, abs_sub_signedRat positive (valueOf_nonneg _)]
  constructor
  · rw [isNaN, decide_eq_false_iff_not]
    omega
  · intro filled
    have : 0 < r := lt_of_le_of_ne positive fun same => filled (by simp [signedRat, ← same])
    rw [sign]
    cases negative <;> simp [signedRat, this, this.le]
  · rw [absolute, isInfinite, decide_eq_true_eq, ← h.infinite_iff]
    omega
  · intro inside y _
    rw [distance x, distance y, if_pos sign, finite inside]
    split
    · exact h.closest y.magnitude
    · have := h.closest 0
      have := valueOf_nonneg y.magnitude
      linarith
  · intro inside y _ other tied
    rw [distance x, distance y, if_pos sign, finite inside] at tied
    rw [finite inside]
    rw [toRat_eq, toRat_eq, sign, finite inside] at other
    split at tied
    · next same =>
        refine h.even y.magnitude (fun equal => other ?_) tied
        rw [same, equal]
    · have := h.closest 0
      have nothing : valueOf y.magnitude = 0 := by linarith [valueOf_nonneg y.magnitude]
      refine h.even 0 (fun equal => other ?_) (by linarith)
      rw [nothing, ← equal, valueOf_zero]
      simp [signedRat]

/-- A ratio is rounded to the nearest double. -/
theorem nearest_ofRatio (negative : Bool) (num : ℕ) {den : ℕ} (positive : 0 < den)
    : Nearest (signedRat negative (num / den)) (ofRatio negative num den) := by
  obtain ⟨magnitude, nearest, made⟩ := ofRatio_eq negative num positive
  rw [made]
  exact nearest_of_magnitude (by positivity) nearest negative

/-- A whole number is rounded to the nearest double. -/
theorem nearest_ofInt (n : ℤ)
    : Nearest n (ofInt n) := by
  have same : signedRat (decide (n < 0)) ((n.natAbs : ℕ) / (1 : ℕ)) = n := by
    rw [Nat.cast_one, div_one, signedRat, Nat.cast_natAbs]
    split
    · next negative =>
        rw [abs_of_neg (of_decide_eq_true negative), Int.cast_neg, neg_neg]
    · next positive =>
        rw [abs_of_nonneg (not_lt.mp fun negative => positive (decide_eq_true negative))]
  have near := nearest_ofRatio (decide (n < 0)) n.natAbs one_pos
  rwa [same] at near

/-- A finite double is nearest to its own value. -/
theorem nearest_toRat (finite : x.isFinite = true)
    : Nearest x.toRat x := by
  have bound : x.magnitude < infinityMagnitude := of_decide_eq_true finite
  have positive := valueOf_nonneg x.magnitude
  have absolute : |x.toRat| = valueOf x.magnitude := by
    rw [toRat_eq, abs_signedRat x.negative positive]
  constructor
  · rw [isNaN, decide_eq_false_iff_not]
    omega
  · rw [toRat_eq]
    cases x.negative with
    | false => simpa [signedRat] using fun _ => positive
    | true => simpa [signedRat] using fun filled => lt_of_le_of_ne positive (Ne.symm filled)
  · obtain ⟨half, spacing, greatest, _⟩ := exists_overflow
    have inside := valueOf_strictMono.monotone (by omega : x.magnitude ≤ infinityMagnitude - 1)
    rw [absolute, isInfinite, decide_eq_true_eq]
    exact iff_of_false (by omega) (by linarith)
  · intro _ y _
    rw [sub_self, abs_zero]
    exact abs_nonneg _
  · intro _ y _ other tied
    rw [sub_self, abs_zero, abs_eq_zero, sub_eq_zero] at tied
    exact absurd tied.symm other

-----------------------------------------------------------------------------------------
-- Doubles rounded to decimals
-----------------------------------------------------------------------------------------

/-- Numerator and denominator of a double give its absolute value. -/
theorem fraction_eq (x : Binary64)
    : 0 < x.fraction.2 ∧ x.toRat = signedRat x.negative (x.fraction.1 / x.fraction.2) := by
  obtain ⟨positive, value⟩ := scaled_eq_div x.significand two_pos x.exponent (rfl : x.fraction = _)
  rw [Nat.cast_ofNat] at value
  exact ⟨positive, congrArg _ value⟩

/-- A double is rounded to the nearest whole number. -/
theorem nearestInt_round (x : Binary64)
    : NearestInt x.toRat x.round := by
  obtain ⟨positive, value⟩ := fraction_eq x
  rw [value]
  exact nearestInt_signed x.negative x.fraction.1 positive

/-- A double is rounded to decimals by way of the nearest whole number of units of the last one. -/
theorem exists_roundTo (finite : x.isFinite = true) (places : ℕ)
    : ∃ units : ℤ, NearestInt (x.toRat * 10 ^ places) units
        ∧ Nearest (units / 10 ^ places) (x.roundTo places) := by
  obtain ⟨positive, value⟩ := fraction_eq x
  have scale : 0 < Nat.pow 10 places := Nat.pow_pos (by decide)
  have near := nearestInt_signed x.negative (x.fraction.1 * Nat.pow 10 places) positive
  have double := nearest_ofRatio x.negative
    (roundDiv (x.fraction.1 * Nat.pow 10 places) x.fraction.2) scale
  have power : ((Nat.pow 10 places : ℕ) : ℚ) = 10 ^ places := by exact_mod_cast rfl
  rw [roundTo, if_pos finite]
  refine ⟨signed x.negative (roundDiv (x.fraction.1 * Nat.pow 10 places) x.fraction.2), ?_, ?_⟩
  · rw [value, signedRat_mul, div_mul_eq_mul_div]
    rw [Nat.cast_mul, power] at near
    exact near
  · rw [cast_signed, div_eq_mul_inv, signedRat_mul, ← div_eq_mul_inv]
    rw [power] at double
    exact double

end RideQuestions.Number.Binary64
