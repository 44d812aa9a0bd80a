/-! Occurrence of one text inside another, and cutting texts at separators.
-/

namespace RideQuestions.Text

/-- Whether the first text stands somewhere inside the second; the empty text always does. -/
def occursIn (needle : List Char) : List Char → Bool
  | [] => needle.isEmpty
  | c :: rest => needle.isPrefixOf (c :: rest) || occursIn needle rest

theorem occursIn_iff (needle hay : List Char)
    : occursIn needle hay = true ↔ needle <:+: hay := by
  induction hay with
  | nil => simp [occursIn]
  | cons c rest ih => simp [occursIn, ih, List.infix_cons_iff]

/-- `occursIn` for two texts. -/
def holds (hay needle : String) : Bool :=
  occursIn needle.toList hay.toList

/-- Whether either text stands inside the other. -/
def overlap (first second : String) : Bool :=
  holds second first || holds first second

/-- The text behind a given beginning, if the text begins so. -/
def afterPrefix? : List Char → List Char → Option (List Char)
  | [], rest => some rest
  | _ :: _, [] => none
  | p :: ps, c :: rest => if p = c then afterPrefix? ps rest else none

/-- The pieces between the occurrences of a separator of two or more characters, searched from
the left; `skip` counts the characters of a separator still to be passed over. -/
def splitAtText (separator : List Char) : Nat → List Char → List Char → List (List Char)
  | _, piece, [] => [piece.reverse]
  | skip + 1, piece, _ :: rest => splitAtText separator skip piece rest
  | 0, piece, c :: rest =>
      if separator.isPrefixOf (c :: rest) then
        piece.reverse :: splitAtText separator (separator.length - 1) [] rest
      else
        splitAtText separator 0 (c :: piece) rest

/-- The pieces of a text between the occurrences of a separator. -/
def splitOn (separator text : String) : List String :=
  (splitAtText separator.toList 0 [] text.toList).map String.ofList

end RideQuestions.Text
