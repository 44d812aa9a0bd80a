import RideQuestions.Text.Digits
import RideQuestions.Value

/-! Bound values of a query text: unnumbered markers while a query is put together, numbered
placeholders in the finished text, and named binds for the store.
-/

namespace RideQuestions.Query

open RideQuestions.Text

/-- The mark that stands for a bound value until the values are numbered. -/
def marker : Char := '?'

def markerCount (text : String) : Nat :=
  text.toList.count marker

/-- Writes the markers as `$n`, counting on from `count`. -/
def numberFrom (count : Nat) : List Char → List Char
  | [] => []
  | c :: rest =>
      if c = marker then
        '$' :: ((toString (count + 1)).toList ++ numberFrom (count + 1) rest)
      else c :: numberFrom count rest

/-- Numbers the markers of a text from left to right. -/
def numberMarkers (text : String) : String :=
  String.ofList (numberFrom 0 text.toList)

/-- A part of a query text: a character, or a placeholder with the digits of its number. -/
inductive Piece where
  | plain (c : Char)
  | placeholder (digits : List Char)

/-- What a dollar sign with the digits behind it stands for. -/
def Piece.ofDollar (digits : List Char) : Piece :=
  if digits.isEmpty then plain '$' else placeholder digits

/-- Cuts a text into characters and placeholders; the digits behind an open dollar sign are
gathered as they come. -/
def piecesFrom : Option (List Char) → List Char → List Piece
  | none, [] => []
  | some digits, [] => [.ofDollar digits]
  | none, c :: rest =>
      if c = '$' then piecesFrom (some []) rest else .plain c :: piecesFrom none rest
  | some digits, c :: rest =>
      if isDigit c then piecesFrom (some (digits ++ [c])) rest
      else if c = '$' then .ofDollar digits :: piecesFrom (some []) rest
      else .ofDollar digits :: .plain c :: piecesFrom none rest

def pieces (text : String) : List Piece :=
  piecesFrom none text.toList

def Piece.digits? : Piece → Option (List Char)
  | plain _ => none
  | placeholder digits => some digits

/-- The digits of the placeholders of a text, from left to right. -/
def placeholders (text : String) : List (List Char) :=
  (pieces text).filterMap Piece.digits?

def placeholderCount (text : String) : Nat :=
  (placeholders text).length

/-- The numbers of the placeholders of a text. -/
def ordinals (text : String) : List Nat :=
  (placeholders text).map (digitsValue digit?)

/-- A piece as it stands in a statement with named binds. -/
def Piece.named : Piece → List Char
  | plain c => [c]
  | placeholder digits => [':', 'p'] ++ digits

/-- A statement with named binds. -/
structure NamedStatement where
  text : String
  binds : List (String × Value)

/-- Names each placeholder `$n` as `:pn` and keys the values accordingly, from `p1` on. -/
def toNamedBinds (text : String) (parameters : List Value) : NamedStatement :=
  {
    text := String.ofList ((pieces text).flatMap Piece.named),
    binds := parameters.zipIdx.map fun (value, i) => ("p" ++ toString (i + 1), value)
  }

end RideQuestions.Query
