import RideQuestions.Calendar.Span
import RideQuestions.Question.Wording

/-! Date phrases of a question, in order of precedence: `last month`, `first week of` a month, and
a month followed by a year.
-/

namespace RideQuestions.Question

open RideQuestions.Calendar RideQuestions.Text

/-- The months as they stand in a lower-case question. -/
def monthWords : List String :=
  ["january", "february", "march", "april", "may", "june", "july", "august", "september",
   "october", "november", "december"]

/-- The number of a month named by a lower-case word. -/
def monthNumber? (word : String) : Option Nat :=
  (monthWords.findIdx? (· = word)).map (· + 1)

/-- The year written by a word of four digits that begins with 19 or 20. -/
def yearNumber? (word : String) : Option Nat :=
  match word.toList with
  | [a, b, c, d] =>
      if ((a = '1' ∧ b = '9') ∨ (a = '2' ∧ b = '0')) ∧ isDigit c ∧ isDigit d then
        some (digitsValue digit? [a, b, c, d])
      else none
  | _ => none

/-- The words behind an optional `of`. -/
def skipOf : List String → List String
  | "of" :: rest => rest
  | words => words

/-- The year that stands right at the beginning of some words, an `of` before it allowed. -/
def yearAhead? (words : List String) : Option Nat :=
  (skipOf words).head?.bind yearNumber?

/-- The leftmost place of a phrase where a reader succeeds. -/
def atFirst? {α : Type} (read : List String → Option α) : List String → Option α
  | [] => none
  | word :: rest => (read (word :: rest)).orElse fun _ => atFirst? read rest

/-- Reads `last month`. -/
def lastMonth? : List String → Option Unit
  | "last" :: "month" :: _ => some ()
  | _ => none

/-- Reads `first week of` a month, with the year behind it if one is there. -/
def firstWeek? : List String → Option (Nat × Option Nat)
  | "first" :: "week" :: rest =>
      match skipOf rest with
      | [] => none
      | word :: rest => (monthNumber? word).map fun month => (month, yearAhead? rest)
  | _ => none

/-- Reads a month and the year behind it. -/
def monthYear? : List String → Option (Nat × Nat)
  | [] => none
  | word :: rest => do return (← monthNumber? word, ← yearAhead? rest)

/-- The first year among the words of a question. -/
def firstYear? (phrases : List (List String)) : Option Nat :=
  phrases.flatten.findSome? yearNumber?

/-- The span that a question's date phrase stands for, if it has one. A first week takes its year
from the phrase, else from anywhere in the question, else from the reference year. -/
def span? (question : String) (now : Instant) (referenceYear : Int)
    : Except CalendarError (Option Span) :=
  let phrases := wording question
  match phrases.findSome? (atFirst? lastMonth?) with
  | some _ => (Span.previousMonth now).map some
  | none =>
      match phrases.findSome? (atFirst? firstWeek?) with
      | some (month, year?) =>
          let year := (year? <|> firstYear? phrases).elim referenceYear Int.ofNat
          (Span.days year month 1 7).map some
      | none =>
          match phrases.findSome? (atFirst? monthYear?) with
          | some (month, year) => (Span.month year month).map some
          | none => .ok none

end RideQuestions.Question
