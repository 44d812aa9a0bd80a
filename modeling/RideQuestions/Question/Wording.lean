import RideQuestions.Text.Case
import RideQuestions.Text.Word

/-! The wording of a question: its lower-case words, phrase by phrase, and the tokens that carry
its meaning.
-/

namespace RideQuestions.Question

open RideQuestions.Text

/-- The lower-case words of a question, grouped into phrases that only blanks run through. -/
def wording (question : String) : List (List String) :=
  (phrases (lower question).toList).map fun phrase => phrase.map String.ofList

/-- The lower-case words of a question in order. -/
def wordsOf (question : String) : List String :=
  (words (lower question).toList).map String.ofList

/-- Words that say nothing about what is asked. -/
def stopWords : List String :=
  ["the", "a", "an", "and", "or", "but", "in", "on", "at", "to", "for", "of", "with", "by",
   "what", "when", "where", "why", "how", "which", "who", "was", "were", "is", "are", "be",
   "been", "being", "have", "has", "had", "do", "does", "did", "will", "would", "could",
   "should"]

def minTokenLength : Nat := 3

/-- Whether a word is kept as a token: long enough and no stop word. -/
def isToken (word : String) : Bool :=
  minTokenLength ≤ word.length && !stopWords.contains word

/-- The meaningful words of a question, each once, by first occurrence. -/
def tokens (question : String) : List String :=
  ((wordsOf question).filter isToken).eraseDups

end RideQuestions.Question
