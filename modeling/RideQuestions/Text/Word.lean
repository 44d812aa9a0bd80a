import RideQuestions.Text.Blank
import RideQuestions.Text.WordTable

/-! Words of a text: maximal runs of word characters, and the phrases they form. Two words are
in one phrase when nothing but blanks stands between them.
-/

namespace RideQuestions.Text

def isWord (c : Char) : Bool :=
  Ranges.contains wordRanges c.toNat

/-- The maximal runs of characters of a class, from left to right. -/
def runs (p : Char → Bool) (s : List Char) : List (List Char) :=
  (s.splitOnP (fun c => !p c)).filter (fun run => !run.isEmpty)

/-- The words of a text. -/
def words (s : List Char) : List (List Char) :=
  runs isWord s

/-- A character that ends a phrase: neither part of a word nor blank. -/
def endsPhrase (c : Char) : Bool :=
  !isWord c && !isBlank c

/-- The words of a text, phrase by phrase; a phrase may have no words. -/
def phrases (s : List Char) : List (List (List Char)) :=
  (s.splitOnP endsPhrase).map words

/-- A text without its blanks. -/
def withoutBlanks (s : List Char) : List Char :=
  s.filter (fun c => !isBlank c)

end RideQuestions.Text
