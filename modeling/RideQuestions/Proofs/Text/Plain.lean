import Mathlib.Data.List.TakeWhile
import RideQuestions.Sql.Lexeme

/-! Runs of characters of a class, and the plain characters: the letters, digits and underscores
that names are made of, and a few marks. Every class that tells tokens apart is read off them.
-/

namespace RideQuestions.Text

-----------------------------------------------------------------------------------------
-- Runs
-----------------------------------------------------------------------------------------

section Runs

variable {α : Type} (p : α → Bool) (s : List α)

theorem take_length_takeWhile
    : s.take (s.takeWhile p).length = s.takeWhile p :=
  (List.prefix_iff_eq_take.mp (List.takeWhile_prefix p)).symm

theorem drop_length_takeWhile
    : s.drop (s.takeWhile p).length = s.dropWhile p := by
  have split := List.takeWhile_append_dropWhile (p := p) (l := s)
  calc s.drop (s.takeWhile p).length
      = (s.takeWhile p ++ s.dropWhile p).drop (s.takeWhile p).length := by rw [split]
    _ = s.dropWhile p := List.drop_left

/-- A run is as long as it can be. -/
theorem not_of_mem_head?_dropWhile {p : α → Bool} {s : List α} {a : α}
    (behind : a ∈ (s.dropWhile p).head?)
    : p a = false := by
  have stops := List.head?_dropWhile_not p s
  rwa [Option.mem_def.mp behind] at stops

/-- A run of a class that none of the class follows is as long as it can be. -/
theorem takeWhile_eq_of_split {p : α → Bool} {s run behind : List α} (split : s = run ++ behind)
    (inside : ∀ a ∈ run, p a = true) (next : ∀ a ∈ behind.head?, p a = false)
    : s.takeWhile p = run := by
  rw [split, List.takeWhile_append_of_pos inside]
  cases behind with
  | nil => simp
  | cons a rest => simp [next a rfl]

end Runs

-----------------------------------------------------------------------------------------
-- Plain characters
-----------------------------------------------------------------------------------------

-- There are finitely many characters, but what holds of those in a list is to be decided by going
-- through the list.

instance decidableForallMem (s : List Char) (p : Char → Prop) [DecidablePred p]
    : Decidable (∀ c ∈ s, p c) :=
  s.decidableBAll p

instance decidableForallMem? (c? : Option Char) (p : Char → Prop) [DecidablePred p]
    : Decidable (∀ c ∈ c?, p c) :=
  Option.decidableForallMem c?

/-- The letters of the plain alphabet, in either case. -/
def plainLetters : List Char :=
  "ABCDEFGHIJKLMNOPQRSTUVWXYZabcdefghijklmnopqrstuvwxyz".toList

/-- The capital letters of the plain alphabet. -/
def plainCapitalLetters : List Char :=
  "ABCDEFGHIJKLMNOPQRSTUVWXYZ".toList

/-- The digits of the basic row. -/
def plainDigits : List Char :=
  "0123456789".toList

/-- The marks that stand between names and numbers. -/
def plainMarks : List Char :=
  " (),.*=<>-/$".toList

/-- A letter, digit or mark that is plain, or an underscore. -/
def plainCharacters : List Char :=
  '_' :: plainLetters ++ plainDigits ++ plainMarks

theorem isDigit_iff_of_plain
    : ∀ c ∈ plainCharacters, isDigit c = true ↔ c ∈ plainDigits := by
  decide

end RideQuestions.Text
