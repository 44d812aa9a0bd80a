import RideQuestions.Proofs.Text.Numeral
import RideQuestions.Proofs.Text.Words

/-! Whole numbers with a sign. Every one that can be written is read back from the text that it is
written as, and the text of any other is not read.
-/

namespace RideQuestions.Text

/-- Digits without underscores are kept, by induction. -/
theorem digitsWithUnderscores_eq {isDigit : Char → Bool} {digits : List Char}
    (whole : ∀ c ∈ digits, isDigit c = true) (filled : digits ≠ [])
    : digitsWithUnderscores isDigit false digits = some digits := by
  have kept (afterDigit : Bool) (ends : digits = [] → afterDigit = true)
      : digitsWithUnderscores isDigit afterDigit digits = some digits := by
    clear filled
    induction digits generalizing afterDigit with
    | nil => rw [digitsWithUnderscores, ends rfl, if_pos rfl]
    | cons c rest ih =>
        obtain ⟨first, others⟩ := List.forall_mem_cons.mp whole
        rw [digitsWithUnderscores, if_pos first, ih others true (fun _ => rfl), Option.map_some]
  exact kept false (fun empty => absurd empty filled)

/-- A text without blanks needs no trimming. -/
theorem trimWhile_eq_self {s : List Char} (solid : ∀ c ∈ s, isBlank c = false)
    : trimWhile isBlank s = s := by
  have kept : trim (String.ofList s) = String.ofList s :=
    trim_eq_self (fun c member => solid c (List.mem_of_mem_head? (by simpa using member)))
      (fun c member => solid c (List.mem_of_mem_getLast? (by simpa using member)))
  rw [trim, String.toList_ofList] at kept
  exact String.ofList_injective kept

theorem isBlank_of_isDigit {c : Char} (digit : isDigit c = true)
    : isBlank c = false := by
  obtain ⟨value, stands⟩ := Option.isSome_iff_exists.mp digit
  exact isBlank_of_isWord (isWord_of_digit? stands)

/-- Digits have no sign. -/
theorem splitSign_digits {digits : List Char} (whole : ∀ c ∈ digits, isDigit c = true)
    : splitSign digits = (false, digits) := by
  unfold splitSign
  split
  · exact absurd (whole '-' List.mem_cons_self) (by decide)
  · exact absurd (whole '+' List.mem_cons_self) (by decide)
  · rfl

/-- A row of digits is read as the number that it writes, unless it is too long. -/
theorem readInt?_digits {digits : List Char} (whole : ∀ c ∈ digits, isDigit c = true)
    (filled : digits ≠ [])
    : readInt? (String.ofList digits)
      = if digits.length ≤ digitLimit then some (digitsValue digit? digits : Int) else none := by
  have solid : ∀ c ∈ digits, isBlank c = false :=
    fun c member => isBlank_of_isDigit (whole c member)
  rw [readInt?, String.toList_ofList, trimWhile_eq_self solid, splitSign_digits whole]
  dsimp only
  rw [digitsWithUnderscores_eq whole filled]
  simp only [← not_le, ite_not]
  rfl

/-- The text that a whole number is written as is read as this number, unless it is too long to be
written. -/
theorem readInt?_toString (n : Int)
    : readInt? (toString n) = if isWritable n then some n else none := by
  have whole (m : Nat) : ∀ c ∈ Nat.toDigits 10 m, isDigit c = true :=
    fun c hc => isDigit_of_mem_toDigits hc
  have short : isWritable n = true ↔ (Nat.toDigits 10 n.natAbs).length ≤ digitLimit :=
    decide_eq_true_iff
  rw [ite_congr (propext short) (fun _ => rfl) (fun _ => rfl)]
  cases n with
  | ofNat m =>
      have text : toString (Int.ofNat m) = String.ofList (Nat.toDigits 10 m) := rfl
      rw [text, readInt?_digits (whole m) Nat.toDigits_ne_nil, digitsValue_toDigits]
      rfl
  | negSucc m =>
      have text : (toString (Int.negSucc m)).toList = '-' :: Nat.toDigits 10 (m + 1) :=
        String.toList_append.trans (congrArg ('-' :: ·) String.toList_ofList)
      have signed : ∀ c ∈ '-' :: Nat.toDigits 10 (m + 1), isBlank c = false :=
        List.forall_mem_cons.mpr
          ⟨by decide, fun c member => isBlank_of_isDigit (whole (m + 1) c member)⟩
      rw [readInt?, text, trimWhile_eq_self signed, splitSign]
      dsimp only
      rw [digitsWithUnderscores_eq (whole (m + 1)) Nat.toDigits_ne_nil]
      simp only [← not_le, ite_not, digitsValue_toDigits]
      rfl

end RideQuestions.Text
