import RideQuestions.Proofs.Calendar.Timeline
import RideQuestions.Proofs.Text.Padded

/-! Timestamp literals read back. The fields of a literal stand between its marks, and reading them
gives the instant to the millisecond, so that literals tell milliseconds apart and keep the order
of the ends of a span.
-/

namespace RideQuestions.Calendar

open RideQuestions.Text

namespace Instant

-----------------------------------------------------------------------------------------
-- Whole milliseconds
-----------------------------------------------------------------------------------------

/-- The last whole millisecond up to an instant. -/
def toMillisecond (t : Instant) : Instant :=
  {
    t with
    clock :=
      {
        t.clock with
        microsecond := t.clock.microsecond / 1000 * 1000,
        microsecond_lt :=
          Nat.lt_of_le_of_lt (Nat.div_mul_le_self _ _) t.clock.microsecond_lt
      }
  }

variable {s t : Instant}

theorem elapsed_toMillisecond (t : Instant)
    : t.toMillisecond.elapsed = t.elapsed / 1000 * 1000 := by
  unfold elapsed toMillisecond Clock.micros
  dsimp only
  omega

/-- Instants agree to the millisecond when as many whole milliseconds are before them. -/
theorem toMillisecond_eq_iff
    : s.toMillisecond = t.toMillisecond ↔ s.elapsed / 1000 = t.elapsed / 1000 := by
  constructor
  · intro same
    have elapsed := congrArg Instant.elapsed same
    rw [elapsed_toMillisecond, elapsed_toMillisecond] at elapsed
    omega
  · intro same
    apply eq_of_elapsed
    rw [elapsed_toMillisecond, elapsed_toMillisecond, same]

/-- Rounding down to the millisecond keeps the order of instants. -/
theorem toMillisecond_le (ordered : s.key ≤ t.key)
    : s.toMillisecond.le t.toMillisecond = true := by
  have elapsed : s.elapsed ≤ t.elapsed := le_iff_elapsed_le.mp (decide_eq_true ordered)
  rw [le_iff_elapsed_le, elapsed_toMillisecond, elapsed_toMillisecond]
  exact Nat.mul_le_mul_right 1000 (Nat.div_le_div_right elapsed)

-----------------------------------------------------------------------------------------
-- Literals
-----------------------------------------------------------------------------------------

/-- A mark between two fields of a timestamp literal. -/
def isMark (c : Char) : Bool :=
  ['-', ' ', ':', '.'].contains c

/-- The fields of a timestamp literal: what stands between its marks. -/
def literalFields (literal : String) : List String :=
  (literal.toList.splitOnP isMark).map String.ofList

/-- Reads the fields of a timestamp literal as numbers, and these as an instant. -/
def ofLiteral? (literal : String) : Option Instant := do
  match ← (literalFields literal).mapM readInt? with
  | [year, month, day, hour, minute, second, millisecond] =>
      let date ← (Date.of year month day).toOption
      let clock ←
        Clock.of? hour.toNat minute.toNat second.toNat (millisecond.toNat * 1000)
      return { date, clock }
  | _ => none

/-- Fields put together with a mark before each but the first. -/
def joined : String → List (Char × String) → String
  | field, [] => field
  | field, (mark, next) :: rest => field ++ String.singleton mark ++ joined next rest

/-- A digit is no mark. -/
theorem isMark_of_isDigit {c : Char} (digit : isDigit c = true)
    : isMark c = false := by
  have apart : ∀ mark ∈ ['-', ' ', ':', '.'], isDigit mark = false := by
    simp only [List.forall_mem_cons]
    exact ⟨rfl, rfl, rfl, rfl, List.forall_mem_nil _⟩
  refine Bool.eq_false_iff.mpr fun marked => ?_
  rw [apart c (List.contains_iff_mem.mp marked)] at digit
  exact absurd digit (by decide)

/-- Fields of digits are found again between the marks, by induction on the fields. -/
theorem literalFields_joined {field : String} {rest : List (Char × String)}
    (whole : ∀ c ∈ field.toList, isDigit c = true)
    (others : ∀ part ∈ rest, isMark part.1 = true ∧ ∀ c ∈ part.2.toList, isDigit c = true)
    : literalFields (joined field rest) = field :: rest.map Prod.snd := by
  have unmarked : ∀ c ∈ field.toList, isMark c = false :=
    fun c member => isMark_of_isDigit (whole c member)
  induction rest generalizing field with
  | nil =>
      rw [joined, literalFields, List.splitOnP_eq_singleton unmarked]
      simp
  | cons part rest ih =>
      obtain ⟨mark, next⟩ := part
      obtain ⟨⟨marks, digits⟩, others⟩ := List.forall_mem_cons.mp others
      have text : (joined field ((mark, next) :: rest)).toList
          = field.toList ++ mark :: (joined next rest).toList := by
        simp [joined]
      have more := ih digits others (fun c member => isMark_of_isDigit (digits c member))
      rw [literalFields] at more
      rw [literalFields, text, List.splitOnP_append_cons_of_forall_mem unmarked mark marks,
        List.map_cons, more, String.ofList_toList]
      rfl

/-- A literal is written from seven fields. -/
theorem literalFields_literal (t : Instant)
    : literalFields t.literal
      = [
          toString t.date.year, padded 2 t.date.month, padded 2 t.date.day, padded 2 t.clock.hour,
          padded 2 t.clock.minute, padded 2 t.clock.second, padded 3 (t.clock.microsecond / 1000)
        ] := by
  have year : ∀ c ∈ (toString t.date.year).toList, isDigit c = true := by
    have digits : (toString t.date.year).toList = Nat.toDigits 10 t.date.year :=
      String.toList_ofList
    rw [digits]
    exact fun c member => isDigit_of_mem_toDigits member
  have text : t.literal = joined (toString t.date.year)
      [
        ('-', padded 2 t.date.month), ('-', padded 2 t.date.day), (' ', padded 2 t.clock.hour),
        (':', padded 2 t.clock.minute), (':', padded 2 t.clock.second),
        ('.', padded 3 (t.clock.microsecond / 1000))
      ] := by
    simp only [literal, joined, String.append_assoc]
    rfl
  rw [text, literalFields_joined year]
  · rfl
  · simp only [List.forall_mem_cons]
    refine ⟨?_, ?_, ?_, ?_, ?_, ?_, List.forall_mem_nil _⟩
    all_goals exact ⟨by decide, fun c member => isDigit_of_mem_padded member⟩

/-- The fields of a literal are read as the numbers that they were written from. -/
theorem mapM_readInt?_literal (t : Instant)
    : (literalFields t.literal).mapM readInt?
      = some [
          (t.date.year : Int), t.date.month, t.date.day, t.clock.hour, t.clock.minute,
          t.clock.second, (t.clock.microsecond / 1000 : Nat)
        ] := by
  have year : readInt? (toString t.date.year) = some (t.date.year : Int) := by
    have four : t.date.year < 10 ^ 4 := Nat.lt_succ_of_le t.date.year_le
    exact (readInt?_toString t.date.year).trans
      (if_pos (isWritable_of_lt (by decide) four (by decide)))
  have two {n : ℕ} (small : n < 10 ^ 2) : readInt? (padded 2 n) = some (n : Int) :=
    readInt?_padded Nat.two_pos small (by decide)
  have month := t.date.month_le
  have day := t.date.day_le
  have within := daysIn_le t.date.year t.date.month
  have hour := t.clock.hour_lt
  have minute := t.clock.minute_lt
  have second := t.clock.second_lt
  have part := t.clock.microsecond_lt
  rw [literalFields_literal]
  simp only [List.mapM_cons, List.mapM_nil, year, two (by omega : t.date.month < 10 ^ 2),
    two (by omega : t.date.day < 10 ^ 2), two (by omega : t.clock.hour < 10 ^ 2),
    two (by omega : t.clock.minute < 10 ^ 2), two (by omega : t.clock.second < 10 ^ 2),
    readInt?_padded three_pos (by omega : t.clock.microsecond / 1000 < 10 ^ 3) (by decide)]
  rfl

theorem ofLiteral?_literal (t : Instant)
    : ofLiteral? t.literal = some t.toMillisecond := by
  have hour := t.clock.hour_lt
  have minute := t.clock.minute_lt
  have second := t.clock.second_lt
  have part : t.clock.microsecond / 1000 * 1000 < 1000000 :=
    Nat.lt_of_le_of_lt (Nat.div_mul_le_self _ _) t.clock.microsecond_lt
  rw [ofLiteral?, mapM_readInt?_literal]
  simp only [Option.bind_eq_bind, Option.bind_some, Date.of_self, Except.toOption,
    Int.toNat_natCast, Clock.of?]
  rw [dif_pos ⟨hour, minute, second, part⟩]
  rfl

/-- Rounding down to the millisecond does not show in the literal. -/
theorem literal_toMillisecond (t : Instant)
    : t.toMillisecond.literal = t.literal := by
  have part : t.toMillisecond.clock.microsecond / 1000 = t.clock.microsecond / 1000 :=
    Nat.mul_div_cancel _ (by decide)
  rw [literal, literal, part]
  rfl

theorem literal_eq_iff
    : s.literal = t.literal ↔ s.elapsed / 1000 = t.elapsed / 1000 := by
  rw [← toMillisecond_eq_iff]
  constructor
  · intro same
    have read := ofLiteral?_literal s
    rw [same, ofLiteral?_literal] at read
    exact (Option.some.inj read).symm
  · intro same
    rw [← literal_toMillisecond s, same, literal_toMillisecond]

/-- Month, day and time of day have two digits and milliseconds have three. -/
theorem length_literalFields (t : Instant)
    : (literalFields t.literal).map String.length
      = [(toString t.date.year).length, 2, 2, 2, 2, 2, 3] := by
  have two {n : ℕ} (small : n < 10 ^ 2) : (padded 2 n).length = 2 := length_padded Nat.two_pos small
  have month := t.date.month_le
  have day := t.date.day_le
  have within := daysIn_le t.date.year t.date.month
  have hour := t.clock.hour_lt
  have minute := t.clock.minute_lt
  have second := t.clock.second_lt
  have part := t.clock.microsecond_lt
  rw [literalFields_literal]
  simp only [List.map_cons, List.map_nil, two (by omega : t.date.month < 10 ^ 2),
    two (by omega : t.date.day < 10 ^ 2), two (by omega : t.clock.hour < 10 ^ 2),
    two (by omega : t.clock.minute < 10 ^ 2), two (by omega : t.clock.second < 10 ^ 2),
    length_padded three_pos (by omega : t.clock.microsecond / 1000 < 10 ^ 3)]

/-- Timestamp literals are read back. Between its marks a literal has year, month, day, hour,
minute, second and milliseconds, the year without padding, the others with two digits and the
milliseconds with three, and they are read as the instant to the millisecond. So two literals are
the same exactly when as many whole milliseconds are before both instants, and the literals of a
span are read back in the order of its ends. -/
theorem literals_read_back
    : (∀ t : Instant,
        (literalFields t.literal).mapM readInt?
            = some [
                (t.date.year : Int), t.date.month, t.date.day, t.clock.hour, t.clock.minute,
                t.clock.second, (t.clock.microsecond / 1000 : Nat)
              ]
          ∧ (literalFields t.literal).map String.length
            = [(toString t.date.year).length, 2, 2, 2, 2, 2, 3]
          ∧ ofLiteral? t.literal = some t.toMillisecond)
      ∧ (∀ s t : Instant, s.literal = t.literal ↔ s.elapsed / 1000 = t.elapsed / 1000)
      ∧ ∀ span : Span, ∃ first last, ofLiteral? span.literals.1 = some first
          ∧ ofLiteral? span.literals.2 = some last ∧ first.le last = true := by
  refine ⟨fun t => ⟨mapM_readInt?_literal t, length_literalFields t, ofLiteral?_literal t⟩,
    fun _ _ => literal_eq_iff, fun span => ?_⟩
  exact ⟨span.first.toMillisecond, span.last.toMillisecond, ofLiteral?_literal span.first,
    ofLiteral?_literal span.last, toMillisecond_le span.ordered⟩

example : (ofLiteral? "999-06-01 00:00:07.070").map literal = some "999-06-01 00:00:07.070" := by
  decide +kernel

end Instant

end RideQuestions.Calendar
