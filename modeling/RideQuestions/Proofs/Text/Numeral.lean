import RideQuestions.Text.Digits
import RideQuestions.Text.Word

/-! Numerals written with the plain digits: each character is a digit and part of a word, and
reading the digits gives the number back. Digits without a leading zero are the numeral of their
value, so that a number has one plain numeral only.
-/

namespace RideQuestions.Text

/-- A plain digit has its own value, by the ten cases. -/
theorem digit?_digitChar {d : Nat} (hd : d < 10)
    : digit? d.digitChar = some d := by
  revert d
  decide

/-- A digit is written with a character of the basic row, by the ten cases. -/
theorem isPlainDigit_digitChar {d : Nat} (hd : d < 10)
    : isPlainDigit d.digitChar = true := by
  revert d
  decide

/-- A plain digit is part of a word, by the ten cases. -/
theorem isWord_digitChar {d : Nat} (hd : d < 10)
    : isWord d.digitChar = true := by
  revert d
  decide

/-- A numeral is made of plain digits, by induction on its digits. -/
theorem mem_toDigits {n : Nat} {c : Char} (hc : c ∈ Nat.toDigits 10 n)
    : ∃ d < 10, c = d.digitChar := by
  induction n using Nat.base_induction 10 (by decide) with
  | single d hd =>
      rw [Nat.toDigits_of_lt_base hd] at hc
      exact ⟨d, hd, List.mem_singleton.mp hc⟩
  | digit rest d hd hrest ih =>
      rw [← Nat.toDigits_append_toDigits (by decide) hrest hd, Nat.toDigits_of_lt_base hd] at hc
      rcases List.mem_append.mp hc with hc | hc
      · exact ih hc
      · exact ⟨d, hd, List.mem_singleton.mp hc⟩

/-- Every character of a numeral is a decimal digit. -/
theorem isDigit_of_mem_toDigits {n : Nat} {c : Char} (hc : c ∈ Nat.toDigits 10 n)
    : isDigit c = true := by
  obtain ⟨d, hd, rfl⟩ := mem_toDigits hc
  simp [isDigit, digit?_digitChar hd]

/-- Every character of a numeral is part of a word. -/
theorem isWord_of_mem_toDigits {n : Nat} {c : Char} (hc : c ∈ Nat.toDigits 10 n)
    : isWord c = true := by
  obtain ⟨d, hd, rfl⟩ := mem_toDigits hc
  exact isWord_digitChar hd

/-- Reading a numeral gives its number back, by induction on its digits. -/
theorem digitsValue_toDigits (n : Nat)
    : digitsValue digit? (Nat.toDigits 10 n) = n := by
  induction n using Nat.base_induction 10 (by decide) with
  | single d hd =>
      rw [Nat.toDigits_of_lt_base hd]
      simp [digitsValue, digit?_digitChar hd]
  | digit rest d hd hrest ih =>
      rw [← Nat.toDigits_append_toDigits (by decide) hrest hd, Nat.toDigits_of_lt_base hd]
      rw [digitsValue, List.foldl_append, ← digitsValue, ih]
      simp only [List.foldl_cons, List.foldl_nil, digit?_digitChar hd, Option.getD_some]
      omega

-----------------------------------------------------------------------------------------
-- The one numeral of a number
-----------------------------------------------------------------------------------------

/-- Digits of the basic row that do not begin with a zero. -/
def PlainNumeral (digits : List Char) : Prop :=
  (∀ c ∈ digits, isPlainDigit c = true) ∧ digits.head? ≠ some '0'

instance (digits : List Char) : Decidable (PlainNumeral digits) :=
  decidable_of_iff (digits.all isPlainDigit = true ∧ digits.head? ≠ some '0')
    (by rw [List.all_eq_true, PlainNumeral])

/-- A digit of the basic row is written for a value below ten, and is read as that value. -/
theorem exists_digitChar {c : Char} (plain : isPlainDigit c = true)
    : ∃ d < 10, c = d.digitChar ∧ digit? c = some d := by
  have range : 48 ≤ c.toNat ∧ c.toNat ≤ 57 := by
    rw [isPlainDigit, plainDigit?] at plain
    split at plain
    · next inside => exact inside
    · exact absurd plain (by decide)
  have below : c.toNat - 48 < 10 := by omega
  have same : c = (c.toNat - 48).digitChar := by
    apply Char.toNat_inj.mp
    rw [Nat.toNat_digitChar_of_lt_ten below]
    omega
  have read := digit?_digitChar below
  rw [← same] at read
  exact ⟨c.toNat - 48, below, same, read⟩

/-- Plain digits behind a numeral go on with it, by induction: a numeral of a positive number is
followed by one digit at a time. -/
theorem toDigits_foldl {digits : List Char} (plain : ∀ c ∈ digits, isPlainDigit c = true)
    {value : Nat} (positive : 0 < value)
    : Nat.toDigits 10 (digits.foldl (fun value c => value * 10 + (digit? c).getD 0) value)
      = Nat.toDigits 10 value ++ digits := by
  induction digits generalizing value with
  | nil => simp
  | cons c rest ih =>
      obtain ⟨first, others⟩ := List.forall_mem_cons.mp plain
      obtain ⟨d, below, written, read⟩ := exists_digitChar first
      have next : value * 10 + d = 10 * value + d := by omega
      have step : Nat.toDigits 10 (10 * value + d) = Nat.toDigits 10 value ++ [c] := by
        rw [← Nat.toDigits_append_toDigits (by decide) positive below,
          Nat.toDigits_of_lt_base below, written]
      rw [List.foldl_cons, read, Option.getD_some, next, ih others (by omega), step]
      simp

/-- Reading a plain numeral and writing the number gives the digits back. -/
theorem toDigits_digitsValue {digits : List Char} (plain : PlainNumeral digits)
    (some_digit : digits ≠ [])
    : Nat.toDigits 10 (digitsValue digit? digits) = digits := by
  obtain ⟨all, leading⟩ := plain
  cases digits with
  | nil => exact absurd rfl some_digit
  | cons c rest =>
      obtain ⟨first, others⟩ := List.forall_mem_cons.mp all
      obtain ⟨d, below, written, read⟩ := exists_digitChar first
      have positive : 0 < d := by
        refine Nat.pos_of_ne_zero fun zero => leading ?_
        rw [written, zero]
        rfl
      rw [digitsValue, List.foldl_cons, read, Option.getD_some, Nat.zero_mul, Nat.zero_add,
        toDigits_foldl others positive, Nat.toDigits_of_lt_base below, written]
      rfl

/-- The numeral of a positive number is plain, by induction on its digits. -/
theorem plainNumeral_toDigits {n : Nat} (positive : 0 < n)
    : PlainNumeral (Nat.toDigits 10 n) := by
  induction n using Nat.base_induction 10 (by decide) with
  | single d hd =>
      have nonzero : ∀ d < 10, 0 < d → d.digitChar ≠ '0' := by decide
      rw [Nat.toDigits_of_lt_base hd]
      constructor
      · intro c hc
        rw [List.mem_singleton.mp hc]
        exact isPlainDigit_digitChar hd
      · exact fun zero => nonzero d hd positive (Option.some.inj zero)
  | digit rest d hd hrest ih =>
      obtain ⟨all, leading⟩ := ih hrest
      rw [← Nat.toDigits_append_toDigits (by decide) hrest hd, Nat.toDigits_of_lt_base hd]
      constructor
      · intro c hc
        rcases List.mem_append.mp hc with hc | hc
        · exact all c hc
        · rw [List.mem_singleton.mp hc]
          exact isPlainDigit_digitChar hd
      · cases written : Nat.toDigits 10 rest with
        | nil => exact absurd written Nat.toDigits_ne_nil
        | cons first others =>
            rw [written] at leading
            exact leading

end RideQuestions.Text
