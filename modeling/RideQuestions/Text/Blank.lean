/-! Sorted tables of code points, and the first of them, the blank characters, with cutting them
off the ends of a text. Two sets are told apart: the blanks that separate words, and the smaller set
that configuration values are trimmed of.
-/

namespace RideQuestions.Text

/-- Closed ranges of code points, in increasing order and apart from each other. -/
abbrev Ranges := List (Nat × Nat)

/-- Looks a code point up, stopping at the first range that begins beyond it. -/
def Ranges.contains : Ranges → Nat → Bool
  | [], _ => false
  | (first, last) :: rest, code =>
      if code < first then false
      else if code ≤ last then true
      else Ranges.contains rest code

def blankRanges : Ranges :=
  [(9, 13), (28, 32), (133, 133), (160, 160), (5760, 5760), (8192, 8202), (8232, 8233),
   (8239, 8239), (8287, 8287), (12288, 12288)]

/-- Characters that separate words: white space and the four information separators. -/
def isBlank (c : Char) : Bool :=
  Ranges.contains blankRanges c.toNat

/-- White space proper, without the information separators U+001C to U+001F. -/
def isSpace (c : Char) : Bool :=
  isBlank c && !(28 ≤ c.toNat && c.toNat ≤ 31)

/-- Drops the characters of a class from the end of a text. -/
def dropEndWhile (p : Char → Bool) (s : List Char) : List Char :=
  (s.reverse.dropWhile p).reverse

/-- Drops the characters of a class from both ends of a text. -/
def trimWhile (p : Char → Bool) (s : List Char) : List Char :=
  dropEndWhile p (s.dropWhile p)

/-- A text without the blanks at its ends. -/
def trim (s : String) : String :=
  String.ofList (trimWhile isBlank s.toList)

/-- A text without the white space at its ends. -/
def trimSpace (s : String) : String :=
  String.ofList (trimWhile isSpace s.toList)

/-- Holds of the empty text and of texts made of blanks only. -/
def isBlankText (s : String) : Bool :=
  s.toList.all isBlank

end RideQuestions.Text
