import RideQuestions.Proofs.Text.Signed
import Mathlib.Data.Nat.Digits.Defs

/-! Numerals padded with zeros. They have the width that they are padded to unless the number
needs more digits, and zeros in front change nothing of the number that is read.
-/

namespace RideQuestions.Text

theorem toList_padded (width n : ℕ)
    : (padded width n).toList
      = List.replicate (width - (Nat.toDigits 10 n).length) '0' ++ Nat.toDigits 10 n := by
  have digits : (toString n).toList = Nat.toDigits 10 n := String.toList_ofList
  rw [padded, String.toList_append, String.toList_ofList, ← String.length_toList, digits]

/-- A padded numeral is made of digits: its zeros and those of the numeral. -/
theorem isDigit_of_mem_padded {width n : ℕ} {c : Char} (hc : c ∈ (padded width n).toList)
    : isDigit c = true := by
  rw [toList_padded] at hc
  rcases List.mem_append.mp hc with zero | digit
  · rw [List.eq_of_mem_replicate zero]
    decide
  · exact isDigit_of_mem_toDigits digit

/-- A number with no more digits than the width is padded to just that width. -/
theorem length_padded {width n : ℕ} (positive : 0 < width) (small : n < 10 ^ width)
    : (padded width n).length = width := by
  have fits : (Nat.toDigits 10 n).length ≤ width := Nat.toDigits_length 10 n width positive small
  rw [← String.length_toList, toList_padded, List.length_append, List.length_replicate]
  omega

/-- Zeros in front of digits do not count, by induction on the number of zeros. -/
theorem digitsValue_zeros (zeros : ℕ) (digits : List Char)
    : digitsValue digit? (List.replicate zeros '0' ++ digits) = digitsValue digit? digits := by
  induction zeros with
  | zero => rfl
  | succ zeros ih =>
      have zero : digit? '0' = some 0 := by decide
      rw [List.replicate_succ, List.cons_append, digitsValue, List.foldl_cons, zero,
        Option.getD_some]
      exact ih

theorem digitsValue_padded (width n : ℕ)
    : digitsValue digit? (padded width n).toList = n := by
  rw [toList_padded, digitsValue_zeros, digitsValue_toDigits]

/-- A number with no more digits than the width is read back from its padded numeral. -/
theorem readInt?_padded {width n : ℕ} (positive : 0 < width) (small : n < 10 ^ width)
    (short : width ≤ digitLimit)
    : readInt? (padded width n) = some (n : ℤ) := by
  have filled : (padded width n).toList ≠ [] := by
    rw [toList_padded]
    exact List.append_ne_nil_of_right_ne_nil _ Nat.toDigits_ne_nil
  have length := length_padded positive small
  have read := readInt?_digits (fun c member => isDigit_of_mem_padded member) filled
  rwa [String.length_toList, length, if_pos short, String.ofList_toList, digitsValue_padded]
    at read

/-- A number below a power of ten that has few digits can be written. -/
theorem isWritable_of_lt {width n : ℕ} (positive : 0 < width) (small : n < 10 ^ width)
    (short : width ≤ digitLimit)
    : isWritable n = true :=
  decide_eq_true ((Nat.toDigits_length 10 n width positive small).trans short)

end RideQuestions.Text
