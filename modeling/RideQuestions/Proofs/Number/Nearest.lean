import Mathlib.Algebra.Order.Field.Basic
import Mathlib.Algebra.Ring.Int.Parity
import Mathlib.Data.Rat.Cast.Order
import Mathlib.Tactic.FieldSimp
import Mathlib.Tactic.Linarith
import Mathlib.Tactic.Ring
import RideQuestions.Number.Binary64

/-! Rounding to whole numbers. A quotient is rounded to the whole number that is nearest to its
exact value, and to the even one of two that are equally near.
-/

namespace RideQuestions.Number

/-- A whole number that no other one is nearer to, and that is even if another one is as near. -/
structure NearestInt (q : ℚ) (n : ℤ) : Prop where
  closest : ∀ m : ℤ, |q - n| ≤ |q - m|
  even : ∀ m : ℤ, m ≠ n → |q - m| = |q - n| → Even n

variable {q : ℚ} {n : ℤ}

/-- What lies at most a half away is nearest, since two whole numbers lie one apart. -/
theorem nearestInt_of_half (near : |q - n| ≤ 1 / 2) (tied : |q - n| = 1 / 2 → Even n)
    : NearestInt q n := by
  have apart {m : ℤ} (other : m ≠ n) : 1 ≤ |q - m| + |q - n| := by
    have whole : (1 : ℚ) ≤ |(m : ℚ) - n| := by
      exact_mod_cast Int.one_le_abs (sub_ne_zero.mpr other)
    have triangle := abs_sub_le (m : ℚ) q n
    rw [abs_sub_comm (m : ℚ) q] at triangle
    exact whole.trans triangle
  constructor
  · intro m
    by_cases same : m = n
    · rw [same]
    · linarith [apart same]
  · intro m other same
    refine tied ?_
    linarith [apart other]

/-- A whole number is nearest to itself. -/
theorem nearestInt_self (n : ℤ)
    : NearestInt n n := by
  apply nearestInt_of_half <;> norm_num

/-- Only a whole number itself is nearest to it. -/
theorem NearestInt.eq {m : ℤ} (h : NearestInt (m : ℚ) n)
    : n = m := by
  have near := h.closest m
  rw [sub_self, abs_zero, abs_nonpos_iff, sub_eq_zero] at near
  exact_mod_cast near.symm

theorem NearestInt.neg (h : NearestInt q n)
    : NearestInt (-q) (-n) := by
  have mirrored (m : ℤ) : |-q - m| = |q - (-m : ℤ)| := by
    rw [← abs_neg]
    push_cast
    ring_nf
  constructor
  · intro m
    rw [mirrored, mirrored, neg_neg]
    exact h.closest (-m)
  · intro m other same
    rw [mirrored, mirrored, neg_neg] at same
    exact (h.even (-m) (fun equal => other (by omega)) same).neg

/-- What lies below a whole number is not rounded beyond it. -/
theorem NearestInt.le {m : ℤ} (h : NearestInt q n) (below : q ≤ m)
    : n ≤ m := by
  have near := h.closest m
  rw [abs_sub_comm q m, abs_of_nonneg (sub_nonneg.mpr below)] at near
  have : (n : ℚ) ≤ m := by linarith [neg_abs_le (q - n)]
  exact_mod_cast this

/-- What lies above a whole number is not rounded beyond it. -/
theorem NearestInt.ge {m : ℤ} (h : NearestInt q n) (above : (m : ℚ) ≤ q)
    : m ≤ n := by
  have := h.neg.le (by push_cast; linarith : -q ≤ (-m : ℤ))
  omega

/-- A rounded quotient is off by no more than a half, and by a half only if it is even: the
remainder is less than half of the divisor, or more, or the half itself. -/
theorem roundDiv_near (n : ℕ) {d : ℕ} (positive : 0 < d)
    : |(n / d : ℚ) - roundDiv n d| ≤ 1 / 2
      ∧ (|(n / d : ℚ) - roundDiv n d| = 1 / 2 → roundDiv n d % 2 = 0) := by
  have divisor : (0 : ℚ) < d := by exact_mod_cast positive
  have below : ((n % d : ℕ) : ℚ) < d := by exact_mod_cast Nat.mod_lt n positive
  have exact : (n / d : ℚ) = (n / d : ℕ) + (n % d : ℕ) / d := by
    have parts : (d : ℚ) * (n / d : ℕ) + (n % d : ℕ) = n := by exact_mod_cast Nat.div_add_mod n d
    rw [← parts]
    field_simp
  have rest : (0 : ℚ) ≤ (n % d : ℕ) / d := by positivity
  unfold roundDiv
  dsimp only
  rw [exact]
  generalize n / d = quotient
  split
  · next less =>
      have less : ((n % d : ℕ) : ℚ) / d < 1 / 2 := by
        rw [div_lt_div_iff₀ divisor two_pos]
        exact_mod_cast (by omega : n % d * 2 < 1 * d)
      rw [add_sub_cancel_left, abs_of_nonneg rest]
      exact ⟨less.le, fun half => absurd half less.ne⟩
  · split
    · next more =>
        have more : 1 / 2 < ((n % d : ℕ) : ℚ) / d := by
          rw [div_lt_div_iff₀ two_pos divisor]
          exact_mod_cast (by omega : 1 * d < n % d * 2)
        have less : ((n % d : ℕ) : ℚ) / d < 1 := (div_lt_one divisor).mpr below
        push_cast
        rw [add_sub_add_left_eq_sub, abs_sub_comm, abs_of_pos (by linarith)]
        exact ⟨by linarith, fun half => by linarith⟩
    · next same =>
        have half : ((n % d : ℕ) : ℚ) / d = 1 / 2 := by
          rw [div_eq_div_iff divisor.ne' two_ne_zero]
          exact_mod_cast (by omega : n % d * 2 = 1 * d)
        rw [half]
        split
        · next even =>
            rw [add_sub_cancel_left, abs_of_pos one_half_pos]
            exact ⟨le_rfl, fun _ => even⟩
        · next odd =>
            push_cast
            rw [add_sub_add_left_eq_sub, abs_sub_comm, abs_of_pos (by norm_num)]
            exact ⟨by norm_num, fun _ => by omega⟩

/-- A quotient is rounded to the nearest whole number. -/
theorem nearestInt_roundDiv (n : ℕ) {d : ℕ} (positive : 0 < d)
    : NearestInt (n / d) (roundDiv n d) := by
  obtain ⟨near, tied⟩ := roundDiv_near n positive
  refine nearestInt_of_half (by exact_mod_cast near) fun half => ?_
  rw [Int.even_coe_nat, Nat.even_iff]
  exact tied (by exact_mod_cast half)

-----------------------------------------------------------------------------------------
-- Numbers by sign and scale
-----------------------------------------------------------------------------------------

/-- A number that is scaled by a power of a base is a ratio, in which the power stands on the side
that its sign tells. -/
theorem scaled_eq_div (number : ℕ) {base : ℕ} (positive : 0 < base) (power : ℤ) {ratio : ℕ × ℕ}
    (parts : ratio
      = if 0 ≤ power then (number * Nat.pow base power.toNat, 1)
        else (number, Nat.pow base (-power).toNat))
    : 0 < ratio.2 ∧ (number * base ^ power : ℚ) = ratio.1 / ratio.2 := by
  rw [parts]
  split
  · next up =>
      obtain ⟨n, rfl⟩ := Int.eq_ofNat_of_zero_le up
      refine ⟨one_pos, ?_⟩
      rw [Int.toNat_natCast, Nat.cast_one, div_one, zpow_natCast]
      exact_mod_cast rfl
  · next down =>
      obtain ⟨n, rfl⟩ : ∃ n : ℕ, power = -n := ⟨(-power).toNat, by omega⟩
      refine ⟨Nat.pow_pos positive, ?_⟩
      rw [neg_neg, Int.toNat_natCast, zpow_neg, zpow_natCast, div_eq_mul_inv]
      exact_mod_cast rfl

/-- The value of a number by its sign. -/
def signedRat (negative : Bool) (value : ℚ) : ℚ :=
  if negative then -value else value

theorem abs_signedRat (negative : Bool) {value : ℚ} (positive : 0 ≤ value)
    : |signedRat negative value| = value := by
  cases negative <;> simp [signedRat, abs_of_nonneg positive]

theorem signedRat_mul (negative : Bool) (value factor : ℚ)
    : signedRat negative value * factor = signedRat negative (value * factor) := by
  cases negative <;> simp [signedRat]

theorem cast_signed (negative : Bool) (magnitude : ℕ)
    : (signed negative magnitude : ℚ) = signedRat negative magnitude := by
  cases negative <;> simp [signed, signedRat]

/-- The sign of a number changes its rounded value alike. -/
theorem nearestInt_signed (negative : Bool) (n : ℕ) {d : ℕ} (positive : 0 < d)
    : NearestInt (signedRat negative (n / d)) (signed negative (roundDiv n d)) := by
  have near := nearestInt_roundDiv n positive
  cases negative with
  | false => exact near
  | true => exact near.neg

end RideQuestions.Number
