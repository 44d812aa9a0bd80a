import RideQuestions.Number.Binary64
import RideQuestions.Text.Word

/-! Likeness of two texts by the pairs of neighbouring characters that they share, blanks left
aside. Pairs are counted as often as they occur.
-/

namespace RideQuestions.Matching

open Number Text

/-- The pairs of neighbouring characters. -/
def bigrams (s : List Char) : List (Char × Char) :=
  s.zip s.tail

/-- How many members two lists share, counted with repetition. -/
def sharedCount {α : Type} [BEq α] : List α → List α → Nat
  | [], _ => 0
  | x :: xs, ys => if ys.contains x then sharedCount xs (ys.erase x) + 1 else sharedCount xs ys

/-- A ratio of two counts. -/
structure Ratio where
  num : Nat
  den : Nat
  den_pos : 0 < den

/-- The likeness of two texts as an exact ratio: one for equal texts, zero for a text of fewer
than two characters, and otherwise twice the shared pairs over all pairs. -/
def likeness (first second : List Char) : Ratio :=
  let a := withoutBlanks first
  let b := withoutBlanks second
  if a = b then ⟨1, 1, Nat.one_pos⟩
  else if h : a.length < 2 ∨ b.length < 2 then ⟨0, 1, Nat.one_pos⟩
  else ⟨2 * sharedCount (bigrams a) (bigrams b), a.length + b.length - 2, by omega⟩

/-- The likeness of two texts as a number. -/
def similarity (first second : String) : Binary64 :=
  let ratio := likeness first.toList second.toList
  Binary64.ofRatio false ratio.num ratio.den

end RideQuestions.Matching
