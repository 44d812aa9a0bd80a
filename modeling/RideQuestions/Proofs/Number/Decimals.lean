import RideQuestions.Number.Decimal
import RideQuestions.Proofs.Number.Doubles
import RideQuestions.Proofs.Text.Numeral

/-! Decimals by their values. A decimal is whole exactly when its value is a whole number, it is
rounded to the nearest one, and its double is nearest to it, also for decimals far outside the range
of doubles, which are told from the place of their first digit.
-/

namespace RideQuestions.Text

/-- A numeral has as many digits as its number has powers of ten below it, by induction. -/
theorem length_toDigits {n : ℕ} (positive : 0 < n)
    : n < 10 ^ (Nat.toDigits 10 n).length ∧ 10 ^ (Nat.toDigits 10 n).length ≤ 10 * n := by
  induction n using Nat.base_induction 10 (by decide) with
  | single d hd =>
      rw [Nat.toDigits_of_lt_base hd]
      exact ⟨hd, Nat.mul_le_mul_left 10 positive⟩
  | digit rest d hd hrest ih =>
      obtain ⟨below, above⟩ := ih hrest
      rw [← Nat.toDigits_append_toDigits (by decide) hrest hd, Nat.toDigits_of_lt_base hd,
        List.length_append, List.length_singleton, pow_succ]
      omega

end RideQuestions.Text

namespace RideQuestions.Number

open Binary64

namespace Decimal

/-- The value of a finite decimal. -/
def toRat (negative : Bool) (coefficient : ℕ) (exponent : ℤ) : ℚ :=
  signedRat negative (coefficient * 10 ^ exponent)

variable (negative : Bool) (coefficient : ℕ) (exponent : ℤ)

/-- Numerator and denominator of a decimal give its absolute value. -/
theorem ratio_eq
    : 0 < (ratio coefficient exponent).2
      ∧ (coefficient * 10 ^ exponent : ℚ)
        = (ratio coefficient exponent).1 / (ratio coefficient exponent).2 :=
  scaled_eq_div coefficient (by decide) exponent rfl

/-- A decimal is rounded to the nearest whole number. -/
theorem nearestInt_roundFinite
    : NearestInt (toRat negative coefficient exponent)
        (roundFinite negative coefficient exponent) := by
  obtain ⟨positive, value⟩ := ratio_eq coefficient exponent
  rw [toRat, value]
  exact nearestInt_signed negative (ratio coefficient exponent).1 positive

/-- A decimal is whole exactly when its value is a whole number. -/
theorem isWhole_iff
    : isWhole coefficient exponent = true ↔ ∃ n : ℤ, toRat negative coefficient exponent = n := by
  obtain ⟨positive, value⟩ := ratio_eq coefficient exponent
  have divisor : ((ratio coefficient exponent).2 : ℚ) ≠ 0 := by exact_mod_cast positive.ne'
  rw [toRat, value, isWhole, decide_eq_true_eq, ← Nat.dvd_iff_mod_eq_zero]
  constructor
  · rintro ⟨k, product⟩
    refine ⟨signed negative k, ?_⟩
    rw [product, cast_signed, Nat.cast_mul, mul_div_cancel_left₀ _ divisor]
  · rintro ⟨n, same⟩
    have absolute : ((ratio coefficient exponent).1 : ℚ) / (ratio coefficient exponent).2
        = n.natAbs := by
      rw [Nat.cast_natAbs, Int.cast_abs, ← same, abs_signedRat negative (by positivity)]
    rw [div_eq_iff divisor] at absolute
    exact Dvd.intro_left n.natAbs (by exact_mod_cast absolute.symm)

/-- A whole decimal is rounded to its own value. -/
theorem toRat_eq_roundFinite (whole : isWhole coefficient exponent = true)
    : toRat negative coefficient exponent = roundFinite negative coefficient exponent := by
  obtain ⟨n, value⟩ := (isWhole_iff negative coefficient exponent).mp whole
  have near := nearestInt_roundFinite negative coefficient exponent
  rw [value] at near ⊢
  rw [near.eq]

/-- Values of less than half the least positive double are rounded to zero. -/
theorem nearestMagnitude_zero {r : ℚ} (positive : 0 ≤ r) (small : r ≤ 2 ^ (-1075 : ℤ))
    : NearestMagnitude r 0 := by
  refine ⟨fun k => ?_, fun _ _ _ => rfl⟩
  rw [valueOf_zero, sub_zero, abs_of_nonneg positive]
  cases k with
  | zero => rw [valueOf_zero, sub_zero, abs_of_nonneg positive]
  | succ k =>
      have least : valueOf 1 = 2 * 2 ^ (-1075 : ℤ) := by
        have steps := valueOf_steps (e := 0) (s := 1) (.inl rfl) (by norm_num)
        rw [← zpow_one_add₀ two_ne_zero]
        simpa using steps
      have grown := valueOf_strictMono.monotone (by omega : 1 ≤ k + 1)
      rw [abs_sub_comm]
      exact le_trans (by linarith) (le_abs_self _)

variable {coefficient} in
/-- The place of the first digit tells between which powers of ten a decimal lies. -/
theorem place_bounds (filled : coefficient ≠ 0)
    : (coefficient * 10 ^ exponent : ℚ) < 10 ^ (exponent + (toString coefficient).length)
      ∧ (10 : ℚ) ^ (exponent + (toString coefficient).length)
        ≤ 10 * (coefficient * 10 ^ exponent) := by
  have digits : (toString coefficient).length = (Nat.toDigits 10 coefficient).length :=
    String.length_ofList
  obtain ⟨below, above⟩ := Text.length_toDigits (Nat.pos_of_ne_zero filled)
  have scale : (0 : ℚ) < 10 ^ exponent := zpow_pos (by norm_num) _
  have power : (10 : ℚ) ^ (exponent + (toString coefficient).length)
      = 10 ^ (Nat.toDigits 10 coefficient).length * 10 ^ exponent := by
    rw [digits, add_comm, zpow_add₀ (by norm_num), zpow_natCast]
  rw [power, ← mul_assoc]
  constructor
  · exact mul_lt_mul_of_pos_right (by exact_mod_cast below) scale
  · exact mul_le_mul_of_nonneg_right (by exact_mod_cast above) scale.le

/-- A power of ten is greater than the power of two with three times the exponent. -/
theorem two_zpow_le_ten_zpow (n : ℕ)
    : (2 : ℚ) ^ (3 * n : ℤ) ≤ 10 ^ (n : ℤ) := by
  rw [zpow_mul, zpow_natCast, zpow_natCast]
  exact pow_le_pow_left₀ (by norm_num) (by norm_num) n

/-- The double of a decimal is nearest to it. -/
theorem nearest_nearestBinary
    : Nearest (toRat negative coefficient exponent)
        (nearestBinary negative coefficient exponent) := by
  have positive : (0 : ℚ) ≤ coefficient * 10 ^ exponent := by positivity
  obtain ⟨divisor, value⟩ := ratio_eq coefficient exponent
  rw [nearestBinary]
  dsimp only
  split
  · next small =>
      have tiny : (coefficient * 10 ^ exponent : ℚ) ≤ 2 ^ (-1075 : ℤ) := by
        by_cases zero : coefficient = 0
        · rw [zero, Nat.cast_zero, zero_mul]
          exact (zpow_pos two_pos _).le
        · have below := (place_bounds exponent zero).1
          have far := small.resolve_left zero
          calc
            (coefficient * 10 ^ exponent : ℚ) ≤ 10 ^ (-(401 : ℕ) : ℤ) :=
              below.le.trans (zpow_le_zpow_right₀ (by norm_num) (by omega))
            _ ≤ 2 ^ (-(3 * (401 : ℕ)) : ℤ) := by
              rw [zpow_neg, zpow_neg]
              exact inv_anti₀ (zpow_pos two_pos _) (two_zpow_le_ten_zpow 401)
            _ ≤ 2 ^ (-1075 : ℤ) := zpow_le_zpow_right₀ one_le_two (by norm_num)
      exact nearest_of_magnitude positive (nearestMagnitude_zero positive tiny) negative
  · next digits =>
      split
      · next great =>
          have filled : coefficient ≠ 0 := fun zero => digits (.inl zero)
          have above := (place_bounds exponent filled).2
          have huge : overflow ≤ coefficient * 10 ^ exponent := by
            have ten : (10 : ℚ) ^ ((400 : ℕ) : ℤ) * 10
                ≤ 10 ^ (exponent + (toString coefficient).length) := by
              rw [← zpow_add_one₀ (by norm_num)]
              exact zpow_le_zpow_right₀ (by norm_num) (by omega)
            calc
              overflow ≤ 2 ^ (1024 : ℤ) := sub_le_self _ (zpow_pos two_pos _).le
              _ ≤ 2 ^ (3 * (400 : ℕ) : ℤ) := zpow_le_zpow_right₀ one_le_two (by norm_num)
              _ ≤ 10 ^ ((400 : ℕ) : ℤ) := two_zpow_le_ten_zpow 400
              _ ≤ coefficient * 10 ^ exponent := by linarith
          obtain ⟨magnitude, nearest, _⟩ :=
            ofRatio_eq negative (ratio coefficient exponent).1 divisor
          rw [← value] at nearest
          have infinite := nearest_of_magnitude positive nearest negative
          rw [if_pos (nearest.infinite_iff.mpr huge)] at infinite
          exact infinite
      · rw [toRat, value]
        exact nearest_ofRatio negative _ divisor

end Decimal

end RideQuestions.Number
