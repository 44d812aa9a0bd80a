import RideQuestions.Proofs.Number.Doubles

/-! The greater of two rounded numbers. Rounding to the nearest double keeps the order of numbers,
so the greater of two doubles is nearest to the greater of the numbers that they were rounded from.
-/

namespace RideQuestions.Number.Binary64

variable {x y : Binary64} {q r : ℚ}

-----------------------------------------------------------------------------------------
-- Doubles without a sign
-----------------------------------------------------------------------------------------

theorem toRat_of_positive (positive : x.negative = false)
    : x.toRat = valueOf x.magnitude := by
  rw [toRat_eq, positive]
  rfl

/-- Positive doubles are ordered as their values are. -/
theorem orderKey_lt_iff (positive : x.negative = false) (positive' : y.negative = false)
    : x.orderKey < y.orderKey ↔ x.toRat < y.toRat := by
  rw [toRat_of_positive positive, toRat_of_positive positive', valueOf_strictMono.lt_iff_lt,
    orderKey, orderKey, positive, positive']
  exact Int.ofNat_lt

/-- A positive double is known by its value. -/
theorem eq_of_toRat_eq (positive : x.negative = false) (positive' : y.negative = false)
    (same : x.toRat = y.toRat)
    : x = y := by
  rw [toRat_of_positive positive, toRat_of_positive positive'] at same
  have magnitudes := valueOf_strictMono.injective same
  have below := UInt64.toNat_lt x.bits
  have below' := UInt64.toNat_lt y.bits
  have power : Nat.pow 2 63 = 9223372036854775808 := rfl
  rw [negative, power, decide_eq_false_iff_not] at positive positive'
  rw [magnitude, magnitude, power] at magnitudes
  have bits : x.bits.toNat = y.bits.toNat := by omega
  have words : x.bits = y.bits := UInt64.toNat_inj.mp bits
  cases x
  cases y
  exact congrArg mk words

/-- A ratio is rounded to a double of its own sign. -/
theorem negative_ofRatio (negative : Bool) (num : ℕ) {den : ℕ} (positive : 0 < den)
    : (ofRatio negative num den).negative = negative := by
  obtain ⟨magnitude, _, made⟩ := ofRatio_eq negative num positive
  have limit : infinityMagnitude < 2 ^ 63 := by decide
  rw [made]
  split
  · exact (ofMagnitude_fields negative limit).2
  · exact (ofMagnitude_fields negative (by omega)).2

theorem one_lt_overflow
    : 1 < overflow := by
  have power : (1 : ℚ) ≤ 2 ^ (970 : ℤ) := one_le_zpow₀ one_le_two (by decide)
  have top : (1024 : ℤ) = 54 + 970 := by norm_num
  rw [overflow, top, zpow_add₀ two_ne_zero]
  generalize (2 : ℚ) ^ (970 : ℤ) = last at power
  norm_num
  linarith

/-- What is nearest to a part of one is finite. -/
theorem Nearest.isFinite_of_le_one (h : Nearest q x) (positive : 0 ≤ q) (part : q ≤ 1)
    : x.isFinite = true := by
  refine isFinite_iff.mpr ⟨h.number, eq_false_of_ne_true fun infinite => ?_⟩
  have beyond := h.infinite.mp infinite
  rw [abs_of_nonneg positive] at beyond
  exact absurd (beyond.trans part) (not_le.mpr one_lt_overflow)

-----------------------------------------------------------------------------------------
-- Rounding keeps the order
-----------------------------------------------------------------------------------------

/-- What is nearer to a number than something less is not further from it than the middle. -/
theorem add_le_of_abs_le {v w : ℚ} (less : w < v) (nearer : |q - v| ≤ |q - w|)
    : v + w ≤ 2 * q := by
  have squares := sq_le_sq.mpr nearer
  nlinarith

theorem le_add_of_abs_le {v w : ℚ} (more : v < w) (nearer : |q - v| ≤ |q - w|)
    : 2 * q ≤ v + w := by
  have squares := sq_le_sq.mpr nearer
  nlinarith

/-- A smaller number is not rounded to a greater double: the middle of the two doubles would lie
above the one number and below the other. -/
theorem Nearest.mono (hx : Nearest q x) (hy : Nearest r y) (finite : x.isFinite = true)
    (finite' : y.isFinite = true) (less : q < r)
    : x.toRat ≤ y.toRat := by
  by_contra greater
  have above := add_le_of_abs_le (not_le.mp greater) (hx.closest finite y finite')
  have below := le_add_of_abs_le (not_le.mp greater) (hy.closest finite' x finite)
  linarith

/-- The greater of two doubles is nearest to the greater of two positive numbers. -/
theorem Nearest.greater (hx : Nearest q x) (hy : Nearest r y) (finite : x.isFinite = true)
    (finite' : y.isFinite = true) (positive : x.negative = false) (positive' : y.negative = false)
    : Nearest (max q r) (if x.orderKey < y.orderKey then y else x) := by
  have order := orderKey_lt_iff positive positive'
  rcases lt_trichotomy q r with less | rfl | more
  · rw [max_eq_right less.le]
    split
    · exact hy
    · next reached =>
        have behind := not_lt.mp (order.not.mp reached)
        have same := le_antisymm (hx.mono hy finite finite' less) behind
        rwa [eq_of_toRat_eq positive positive' same]
  · rw [max_self]
    split
    · exact hy
    · exact hx
  · rw [max_eq_left more.le, if_neg (order.not.mpr (not_lt.mpr (hy.mono hx finite' finite more)))]
    exact hx

end RideQuestions.Number.Binary64
