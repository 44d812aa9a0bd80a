import RideQuestions.Proofs.Query.Rendering
import RideQuestions.Proofs.Query.Settling
import RideQuestions.Proofs.Sql.Counting

/-! How many tokens a compiled query has. Names and numbers are single words, so what its clauses
say bounds their number, whatever the names are.
-/

namespace RideQuestions.Query

open RideQuestions.Text Sql

-----------------------------------------------------------------------------------------
-- Segments
-----------------------------------------------------------------------------------------

/-- How many characters of a segment go on with no word when its names and numbers are words. -/
def Segment.beginnings (blanks : Bool) : Segment Value → Nat
  | fixed (.words text) => Sql.beginnings blanks none text.toList
  | fixed (.start _) => Sql.beginnings blanks none "FROM ".toList + 1
  | fixed (.join _) => Sql.beginnings blanks none "LEFT JOIN ".toList + 1
  | fixed (.column _) => 3
  | bound _ => 2

/-- How many characters of some segments go on with no word when names and numbers are words. -/
def beginningsOf (blanks : Bool) : List (Segment Value) → Nat
  | [] => 0
  | segment :: rest => segment.beginnings blanks + beginningsOf blanks rest

section Segments

variable {blanks : Bool} {before : Option Char}

theorem beginningsOf_append (first second : List (Segment Value))
    : beginningsOf blanks (first ++ second)
      = beginningsOf blanks first + beginningsOf blanks second := by
  induction first with
  | nil => simp [beginningsOf]
  | cons segment rest ih =>
      rw [List.cons_append, beginningsOf, beginningsOf, ih, Nat.add_assoc]

theorem beginnings_name_le {name : List Char} (plain : isPlainName name = true)
    : Sql.beginnings blanks before name ≤ 1 :=
  beginnings_word_le fun c member => (mem_plain_of_isPlainName plain c member).2

/-- Behind its mark, a number is one word. -/
theorem beginnings_dollarMark_le (n : Nat)
    : Sql.beginnings blanks before (dollarMark n) ≤ 2 := by
  have digits : Sql.beginnings blanks (some '$') (Nat.toDigits 10 n) ≤ 1 :=
    beginnings_word_le fun c member => isWord_of_mem_toDigits member
  rw [dollarMark, Sql.beginnings]
  split <;> omega

theorem Phrase.Plain.beginnings_text_le {phrase : Phrase} (h : phrase.Plain)
    : Sql.beginnings blanks before phrase.text.toList
      ≤ Segment.beginnings blanks (.fixed phrase) := by
  cases phrase with
  | words text => exact beginnings_le_none _
  | start table =>
      rw [text, String.toList_append]
      refine (beginnings_append_le _ _).trans ?_
      exact Nat.add_le_add (beginnings_le_none _) (beginnings_name_le (PlainTable.name h))
  | join table =>
      rw [text, String.toList_append]
      refine (beginnings_append_le _ _).trans ?_
      exact Nat.add_le_add (beginnings_le_none _) (beginnings_name_le (PlainTable.name h))
  | column ref =>
      have table : Sql.beginnings blanks before ref.table.toList ≤ 1 :=
        beginnings_name_le (PlainColumn.table h).name
      have column : Sql.beginnings blanks none ref.column.toList ≤ 1 :=
        beginnings_name_le (PlainColumn.name h)
      have point : Sql.beginnings blanks none ".".toList ≤ 1 := by cases blanks <;> decide
      have front : Sql.beginnings blanks before (ref.table.toList ++ ".".toList) ≤ _ :=
        beginnings_append_le _ _
      have whole : Sql.beginnings blanks before
          (ref.table.toList ++ ".".toList ++ ref.column.toList) ≤ _ :=
        beginnings_append_le _ _
      rw [text, ColumnRef.text, String.toList_append, String.toList_append, Segment.beginnings]
      omega

/-- A written text has no more beginnings than its segments, by induction on these. -/
theorem beginnings_writeFrom_le {segments : List (Segment Value)}
    (plain : AllPhrases Phrase.Plain segments) (count : Nat)
    : Sql.beginnings blanks before (writeFrom dollarMark count segments)
      ≤ beginningsOf blanks segments := by
  induction segments generalizing before count with
  | nil => exact Nat.zero_le _
  | cons segment rest ih =>
      rw [beginningsOf]
      cases segment with
      | fixed phrase =>
          rw [allPhrases_fixed] at plain
          exact (beginnings_append_le _ _).trans
            (Nat.add_le_add plain.1.beginnings_text_le (ih plain.2 count))
      | bound value =>
          rw [allPhrases_bound] at plain
          exact (beginnings_append_le _ _).trans
            (Nat.add_le_add (beginnings_dollarMark_le _) (ih plain (count + 1)))

theorem length_valuesOf_le (segments : List (Segment Value))
    : (valuesOf segments).length ≤ beginningsOf blanks segments := by
  induction segments with
  | nil => exact Nat.zero_le _
  | cons segment rest ih =>
      rw [beginningsOf]
      cases segment with
      | fixed phrase => exact ih.trans (Nat.le_add_left _ _)
      | bound value =>
          rw [valuesOf_bound, List.length_cons, Segment.beginnings]
          omega

/-- What some lists amount to when a separator is counted with each of them. -/
def beginningsWith (blanks : Bool) (separator : String) : List (List (Segment Value)) → Nat
  | [] => 0
  | first :: rest =>
      beginningsOf blanks first + Sql.beginnings blanks none separator.toList
        + beginningsWith blanks separator rest

theorem beginningsWith_filter_le (separator : String) (kept : List (Segment Value) → Bool)
    (lists : List (List (Segment Value)))
    : beginningsWith blanks separator (lists.filter kept)
      ≤ beginningsWith blanks separator lists := by
  induction lists with
  | nil => exact Nat.le_refl 0
  | cons first rest ih =>
      cases chosen : kept first with
      | true =>
          rw [List.filter_cons_of_pos chosen, beginningsWith, beginningsWith]
          exact Nat.add_le_add_left ih _
      | false =>
          rw [List.filter_cons_of_neg (by simp [chosen]), beginningsWith]
          exact ih.trans (Nat.le_add_left _ _)

/-- Joined lists amount to no more than that, by induction. -/
theorem beginningsOf_joined_le (separator : String) (lists : List (List (Segment Value)))
    : beginningsOf blanks (joined separator lists) ≤ beginningsWith blanks separator lists := by
  induction lists with
  | nil => exact Nat.zero_le _
  | cons first rest ih =>
      cases rest with
      | nil =>
          rw [joined_singleton, beginningsWith, beginningsWith]
          omega
      | cons second rest =>
          have whole : beginningsOf blanks (joined separator (first :: second :: rest))
              = beginningsOf blanks first + (Sql.beginnings blanks none separator.toList
                + beginningsOf blanks (joined separator (second :: rest))) := by
            simp [beginningsOf, beginningsOf_append, Segment.beginnings]
          rw [whole, beginningsWith]
          omega

theorem beginningsOf_filterSegments_le (conditions : List (List (Segment Value)))
    : beginningsOf blanks (filterSegments conditions)
      ≤ beginningsOf blanks [.words "WHERE "] + beginningsWith blanks " AND " conditions := by
  cases conditions with
  | nil => exact Nat.zero_le _
  | cons first rest =>
      have joint : beginningsOf blanks (joined " AND " (first :: rest)) ≤ _ :=
        beginningsOf_joined_le " AND " (first :: rest)
      have whole : beginningsOf blanks (filterSegments (first :: rest))
          = beginningsOf blanks [.words "WHERE "]
            + beginningsOf blanks (joined " AND " (first :: rest)) := by
        simp [beginningsOf]
      rw [whole]
      exact Nat.add_le_add_left joint _

/-- A clause that is not there amounts to nothing. -/
theorem beginningsOf_segments_le (p : Plan)
    : beginningsOf blanks p.segments ≤ beginningsWith blanks " " p.clauses := by
  exact (beginningsOf_joined_le " " _).trans (beginningsWith_filter_le " " _ _)

end Segments

-----------------------------------------------------------------------------------------
-- Clauses
-----------------------------------------------------------------------------------------

namespace Reading

variable (r : Reading) (blanks : Bool)

/-- What a reading returns and how it groups and orders that: a grouped query returns no average. -/
theorem beginnings_returned_le
    : beginningsWith blanks " "
        [r.projection.segments, groupSegments r.groupKey, orderSegments r.greatestOnly]
      ≤ 25 + 30 * blanks.toNat := by
  unfold projection groupKey greatestOnly
  cases r.intent with
  | tally =>
      cases r.stationCandidate <;> cases blanks <;> exact Nat.le_of_ble_eq_true rfl
  | average =>
      dsimp only
      split <;> cases blanks <;> exact Nat.le_of_ble_eq_true rfl
  | total =>
      dsimp only
      split <;> cases blanks <;> exact Nat.le_of_ble_eq_true rfl
  | maximum =>
      cases r.stationCandidate <;> cases blanks <;> exact Nat.le_of_ble_eq_true rfl
  | enumerate =>
      cases r.stationCandidate <;> cases blanks <;> exact Nat.le_of_ble_eq_true rfl
  | minimum => cases blanks <;> exact Nat.le_of_ble_eq_true rfl
  | filter => cases blanks <;> exact Nat.le_of_ble_eq_true rfl

theorem beginnings_source_le (referenced : List String)
    : beginningsOf blanks (r.source referenced).segments ≤ 27 + 30 * blanks.toNat := by
  refine (beginningsOf_joined_le " " _).trans ?_
  unfold source joins
  dsimp only
  split
  · split <;> split <;> cases blanks <;> exact Nat.le_of_ble_eq_true rfl
  · cases blanks <;> exact Nat.le_of_ble_eq_true rfl

theorem beginnings_filter_le
    : beginningsOf blanks (filterSegments (r.predicates.map Predicate.segments))
      ≤ 48 + 30 * blanks.toNat := by
  refine (beginningsOf_filterSegments_le _).trans ?_
  unfold predicates
  cases r.span <;> cases r.gender? <;> cases r.needsWeather <;> cases r.namesLocation <;>
    cases blanks <;> exact Nat.le_of_ble_eq_true rfl

/-- No compiled query has more than a hundred tokens that are no white space. -/
theorem beginnings_plan_le
    : beginningsOf blanks r.plan.segments ≤ 100 + 100 * blanks.toNat := by
  have returned := r.beginnings_returned_le blanks
  have source := r.beginnings_source_le blanks r.referenced
  have filter := r.beginnings_filter_le blanks
  have whole : beginningsOf blanks r.plan.segments ≤ _ := beginningsOf_segments_le r.plan
  have blank : Sql.beginnings blanks none " ".toList = blanks.toNat := by cases blanks <;> rfl
  simp only [Plan.clauses, plan, beginningsWith, blank]
    at whole returned ⊢
  omega

end Reading

end RideQuestions.Query
