import Mathlib.Algebra.Order.Field.Power
import Mathlib.Order.Monotone.Basic
import RideQuestions.Number.Binary64
import RideQuestions.Proofs.Number.Nearest

/-! Doubles by their magnitudes. The bits without the sign number the absolute values of doubles in
their order, also beyond the greatest double, and a ratio is rounded to the magnitude whose value is
nearest to it.
-/

namespace RideQuestions.Number.Binary64

-----------------------------------------------------------------------------------------
-- Values of magnitudes
-----------------------------------------------------------------------------------------

/-- How many times the spacing of values has doubled up to a magnitude. -/
def doublings (magnitude : ℕ) : ℕ :=
  magnitude / 2 ^ 52 - 1

/-- The absolute value of the doubles with some magnitude. -/
def valueOf (magnitude : ℕ) : ℚ :=
  (magnitude - doublings magnitude * 2 ^ 52 : ℕ) * 2 ^ (doublings magnitude - 1074 : ℤ)

/-- A magnitude made of doublings and steps of the spacing has the value of these steps. -/
theorem valueOf_steps {e s : ℕ} (normal : e = 0 ∨ 2 ^ 52 ≤ s) (bound : s ≤ 2 ^ 53)
    : valueOf (e * 2 ^ 52 + s) = s * 2 ^ (e - 1074 : ℤ) := by
  rcases Nat.lt_or_eq_of_le bound with below | rfl
  · have same : doublings (e * 2 ^ 52 + s) = e := by
      unfold doublings
      omega
    rw [valueOf, same, Nat.add_sub_cancel_left]
  · have next : doublings (e * 2 ^ 52 + 2 ^ 53) = e + 1 := by
      unfold doublings
      omega
    have rest : e * 2 ^ 52 + 2 ^ 53 - (e + 1) * 2 ^ 52 = 2 ^ 52 := by omega
    have shift : ((e + 1 : ℕ) - 1074 : ℤ) = (e - 1074 : ℤ) + 1 := by push_cast; ring
    rw [valueOf, next, rest, shift, zpow_add_one₀ two_ne_zero]
    push_cast
    ring

/-- Every magnitude is made of doublings and less than twice as many steps as there are between two
of them. -/
theorem exists_steps (magnitude : ℕ)
    : ∃ e s, magnitude = e * 2 ^ 52 + s ∧ (e = 0 ∨ 2 ^ 52 ≤ s) ∧ s < 2 ^ 53
        ∧ valueOf magnitude = s * 2 ^ (e - 1074 : ℤ) := by
  refine ⟨doublings magnitude, magnitude - doublings magnitude * 2 ^ 52, ?_, ?_, ?_, rfl⟩ <;>
    unfold doublings <;> omega

/-- Values grow with magnitudes, by one step at a time. -/
theorem valueOf_strictMono
    : StrictMono valueOf := by
  refine strictMono_nat_of_lt_succ fun magnitude => ?_
  obtain ⟨e, s, rfl, normal, bound, value⟩ := exists_steps magnitude
  have spacing : (0 : ℚ) < 2 ^ (e - 1074 : ℤ) := zpow_pos two_pos _
  rw [value, Nat.add_assoc, valueOf_steps (by omega) (by omega)]
  push_cast
  linarith

theorem valueOf_zero
    : valueOf 0 = 0 := by
  rw [valueOf]
  norm_num

theorem valueOf_nonneg (magnitude : ℕ)
    : 0 ≤ valueOf magnitude := by
  rw [← valueOf_zero]
  exact valueOf_strictMono.monotone (Nat.zero_le magnitude)

/-- From as many doublings on, all values are multiples of the spacing, and before that they lie
below the first value behind them. -/
theorem valueOf_multiple_or_lt (magnitude e : ℕ)
    : (∃ j : ℕ, valueOf magnitude = j * 2 ^ (e - 1074 : ℤ))
      ∨ 0 < e ∧ valueOf magnitude < 2 ^ 52 * 2 ^ (e - 1074 : ℤ) := by
  obtain ⟨e', s, -, -, bound, value⟩ := exists_steps magnitude
  rcases Nat.lt_or_ge e' e with before | behind
  · refine .inr ⟨by omega, ?_⟩
    have fewer : (2 : ℚ) ^ (e' - 1074 : ℤ) * 2 ≤ 2 ^ (e - 1074 : ℤ) := by
      rw [← zpow_add_one₀ two_ne_zero]
      exact zpow_le_zpow_right₀ one_le_two (by omega)
    have steps : (s : ℚ) < 2 ^ 53 := by exact_mod_cast bound
    have spacing : (0 : ℚ) < 2 ^ (e' - 1074 : ℤ) := zpow_pos two_pos _
    rw [value]
    nlinarith
  · refine .inl ⟨s * 2 ^ (e' - e), ?_⟩
    have shift : (e' - 1074 : ℤ) = (e' - e : ℕ) + (e - 1074 : ℤ) := by omega
    rw [value, shift, zpow_add₀ two_ne_zero, zpow_natCast]
    push_cast
    ring

-----------------------------------------------------------------------------------------
-- The nearest magnitude
-----------------------------------------------------------------------------------------

/-- A magnitude with a value that no other one is nearer to than its own, and that is even if
another value is as near. -/
structure NearestMagnitude (r : ℚ) (magnitude : ℕ) : Prop where
  closest : ∀ k, |r - valueOf magnitude| ≤ |r - valueOf k|
  even : ∀ k, k ≠ magnitude → |r - valueOf k| = |r - valueOf magnitude| → magnitude % 2 = 0

/-- Steps of a spacing are rounded to the nearest magnitude when they are as many as the spacing is
meant for. Values are multiples of the spacing or lie below its first one, which is no further away
than they are. -/
theorem nearestMagnitude_steps {r : ℚ} {e s : ℕ}
    (nearest : NearestInt (r / 2 ^ (e - 1074 : ℤ)) s)
    (normal : e = 0 ∨ 2 ^ 52 ≤ r / 2 ^ (e - 1074 : ℤ)) (few : e = 0 ∨ 2 ^ 52 ≤ s)
    (bound : s ≤ 2 ^ 53)
    : NearestMagnitude r (e * 2 ^ 52 + s) := by
  have spacing : (0 : ℚ) < 2 ^ (e - 1074 : ℤ) := zpow_pos two_pos _
  have scaled (j : ℤ) : |r - j * 2 ^ (e - 1074 : ℤ)|
      = |r / 2 ^ (e - 1074 : ℤ) - j| * 2 ^ (e - 1074 : ℤ) := by
    nth_rewrite 3 [← abs_of_pos spacing]
    rw [← abs_mul, sub_mul, div_mul_cancel₀ _ spacing.ne']
  have multiple {k j : ℕ} (value : valueOf k = j * 2 ^ (e - 1074 : ℤ))
      : |r - valueOf k| = |r / 2 ^ (e - 1074 : ℤ) - (j : ℤ)| * 2 ^ (e - 1074 : ℤ) := by
    rw [value, ← scaled]
    rfl
  have own := multiple (valueOf_steps few bound)
  have below {k : ℕ} (positive : 0 < e) (less : valueOf k < 2 ^ 52 * 2 ^ (e - 1074 : ℤ))
      : |r - valueOf (e * 2 ^ 52 + s)| < |r - valueOf k| := by
    have inside : 2 ^ 52 * 2 ^ (e - 1074 : ℤ) ≤ r :=
      (le_div_iff₀ spacing).mp (normal.resolve_left positive.ne')
    have first := mul_le_mul_of_nonneg_right (nearest.closest (2 ^ 52)) spacing.le
    rw [← scaled (2 ^ 52), ← own, Int.cast_pow, Int.cast_ofNat,
      abs_of_nonneg (sub_nonneg.mpr inside)] at first
    exact first.trans_lt (lt_of_lt_of_le (by linarith) (le_abs_self _))
  constructor
  · intro k
    rcases valueOf_multiple_or_lt k e with ⟨j, value⟩ | ⟨positive, less⟩
    · rw [own, multiple value]
      exact mul_le_mul_of_nonneg_right (nearest.closest j) spacing.le
    · exact (below positive less).le
  · intro k other tied
    rcases valueOf_multiple_or_lt k e with ⟨j, value⟩ | ⟨positive, less⟩
    · rw [own, multiple value] at tied
      have apart : (j : ℤ) ≠ s := by
        intro equal
        refine other (valueOf_strictMono.injective ?_)
        rw [value, valueOf_steps few bound, Int.ofNat_inj.mp equal]
      have even := nearest.even j apart (mul_right_cancel₀ spacing.ne' tied)
      rw [Int.even_coe_nat, Nat.even_iff] at even
      omega
    · exact absurd tied (below positive less).ne'

-----------------------------------------------------------------------------------------
-- Overflow
-----------------------------------------------------------------------------------------

/-- The value from which on no double is near: halfway between the greatest one and the next value
that there would be. -/
def overflow : ℚ :=
  2 ^ (1024 : ℤ) - 2 ^ (970 : ℤ)

/-- The overflow lies one half of the last spacing above the greatest double, and one half below
what would follow it. -/
theorem exists_overflow
    : ∃ half : ℚ, 0 < half ∧ valueOf (infinityMagnitude - 1) = overflow - half
        ∧ valueOf infinityMagnitude = overflow + half := by
  have last : infinityMagnitude - 1 = 2045 * 2 ^ 52 + (2 ^ 53 - 1) := by decide
  have limit : infinityMagnitude = 2045 * 2 ^ 52 + 2 ^ 53 := by decide
  have value {s : ℕ} (many : 2 ^ 52 ≤ s) (bound : s ≤ 2 ^ 53)
      : valueOf (2045 * 2 ^ 52 + s) = s * (2 ^ (970 : ℤ) * 2) := by
    have spacing : ((2045 : ℕ) - 1074 : ℤ) = 970 + 1 := by norm_num
    rw [valueOf_steps (.inr many) bound, spacing, zpow_add_one₀ two_ne_zero]
  have top : (1024 : ℤ) = 54 + 970 := by norm_num
  have middle : overflow = (2 ^ 54 - 1) * 2 ^ (970 : ℤ) := by
    rw [overflow, top, zpow_add₀ two_ne_zero, sub_mul, one_mul]
    rfl
  refine ⟨2 ^ (970 : ℤ), zpow_pos two_pos _, ?_, ?_⟩
  · rw [last, value (by norm_num) (by norm_num), middle]
    generalize (2 : ℚ) ^ (970 : ℤ) = half
    norm_num
    ring
  · rw [limit, value (by norm_num) (by norm_num), middle]
    generalize (2 : ℚ) ^ (970 : ℤ) = half
    norm_num
    ring

variable {r : ℚ} {magnitude : ℕ}

/-- Magnitudes of infinity and beyond are nearest to the values from the overflow on: in the middle
itself the greatest double, which is odd, gives way. -/
theorem NearestMagnitude.infinite_iff (h : NearestMagnitude r magnitude)
    : infinityMagnitude ≤ magnitude ↔ overflow ≤ r := by
  obtain ⟨half, positive, greatest, limit⟩ := exists_overflow
  constructor
  · intro beyond
    by_contra less
    have far := valueOf_strictMono.monotone beyond
    have near := h.closest (infinityMagnitude - 1)
    rw [abs_sub_comm, abs_of_pos (by linarith)] at near
    rcases abs_cases (r - valueOf (infinityMagnitude - 1)) with ⟨same, _⟩ | ⟨same, _⟩ <;> linarith
  · intro above
    by_contra less
    have far := valueOf_strictMono.monotone (by omega : magnitude ≤ infinityMagnitude - 1)
    have near := h.closest infinityMagnitude
    rw [abs_of_nonneg (by linarith)] at near
    have inside : r ≤ valueOf infinityMagnitude := by
      by_contra outside
      rw [abs_of_pos (by linarith)] at near
      linarith
    rw [abs_sub_comm, abs_of_nonneg (by linarith)] at near
    have own : magnitude = infinityMagnitude - 1 :=
      valueOf_strictMono.injective (le_antisymm far (by linarith))
    have even := h.even infinityMagnitude (by omega) (by
      rw [abs_sub_comm, abs_of_nonneg (by linarith), abs_of_nonneg (by linarith)]
      linarith)
    rw [own] at even
    exact absurd even (by decide)

end RideQuestions.Number.Binary64
