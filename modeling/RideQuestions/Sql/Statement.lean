import RideQuestions.Sql.Token
import RideQuestions.Text.Blank

/-! Statements of a query text. A separator ends a statement outside parentheses and blocks; blanks
and line comments behind it still belong to the statement that it ends.
-/

namespace RideQuestions.Sql

abbrev Statement := List Token

/-- What the tokens of a statement so far have opened. -/
structure Progress where
  level : Int := 0
  /-- A definition has begun, so words may open blocks. -/
  defining : Bool := false
  blockDepth : Nat := 0
  /-- A block was opened and nothing has come behind it. -/
  blockJustOpened : Bool := false
  inCase : Bool := false
  /-- The statement is complete but for blanks and line comments. -/
  ended : Bool := false

namespace Progress

/-- The level behind a token, and what keywords open and close. -/
def nest (p : Progress) (t : Token) : Progress :=
  if t.isMark "(" then { p with level := p.level + 1 }
  else if t.isMark ")" then { p with level := p.level - 1 }
  else if !t.isKeyword then p
  else
    let word := t.upper
    if t.kind = .keyword .objects && "CREATE".toList.isPrefixOf word.toList then
      { p with defining := true }
    else if word = "DECLARE" && p.defining && p.blockDepth = 0 then
      { p with level := p.level + 1 }
    else if word = "BEGIN" then
      {
        p with
        blockDepth := p.blockDepth + 1,
        blockJustOpened := true,
        level := if p.defining then p.level + 1 else p.level
      }
    else if word = "END" then
      let p :=
        if p.inCase then { p with inCase := false }
        else { p with blockDepth := p.blockDepth - 1 }
      { p with level := p.level - 1 }
    else if ["IF", "FOR", "WHILE", "CASE"].contains word && p.defining && 0 < p.blockDepth then
      { p with level := p.level + 1, inCase := p.inCase || word = "CASE" }
    else if ["END IF", "END FOR", "END WHILE"].contains word then
      { p with level := p.level - 1 }
    else p

/-- The keyword that separates batches, with or without a count, in capitals. -/
def separatesBatches (t : Token) : Bool :=
  t.kind = .keyword .other && t.text.toList.takeWhile (fun c => !Text.isBlank c) = ['G', 'O']

/-- Takes a token into the statement. -/
def take (p : Progress) (t : Token) : Progress :=
  let p := p.nest t
  if t.isMark ";" then
    let p :=
      {
        p with
        blockDepth := if p.blockJustOpened then p.blockDepth - 1 else p.blockDepth,
        blockJustOpened := false
      }
    if p.level ≤ 0 && p.blockDepth = 0 then { p with ended := true } else p
  else if separatesBatches t then { p with ended := true }
  else if t.isSignificant && !t.isWord "BEGIN" then { p with blockJustOpened := false }
  else p

end Progress

/-- What may stand behind the end of a statement and still belongs to it. -/
def Token.mayTrail (t : Token) : Bool :=
  t.kind = .blank || t.kind = .lineComment

/-- Cuts tokens into statements; `current` holds the open statement reversed. White space alone is
no statement. -/
def splitFrom (p : Progress) (current : List Token) : List Token → List Statement
  | [] => if current.all Token.isWhite then [] else [current.reverse]
  | t :: rest =>
      if p.ended && !t.mayTrail then
        current.reverse :: splitFrom (Progress.take {} t) [t] rest
      else splitFrom (p.take t) (t :: current) rest

def statements (tokens : List Token) : List Statement :=
  splitFrom {} [] tokens

namespace Statement

/-- The tokens that say something. -/
def significant (s : Statement) : List Token :=
  s.filter Token.isSignificant

/-- Where the reading of common table expressions has come to. -/
inductive CommonPart where
  | name
  | definition
  | columns (depth : Nat)
  | body
  | query (depth : Nat)
  | behind

/-- The keyword behind a list of common table expressions `name AS (...)`, if it is one that works
on rows. -/
def afterCommon? : CommonPart → List Token → Option String
  | _, [] => none
  | .name, t :: rest =>
      if t.kind = .name then afterCommon? .definition rest
      else if t.isWord "RECURSIVE" then afterCommon? .name rest
      else none
  | .definition, t :: rest =>
      if t.isWord "AS" then afterCommon? .body rest
      else if t.isMark "(" then afterCommon? (.columns 0) rest
      else none
  | .columns depth, t :: rest =>
      if t.isMark "(" then afterCommon? (.columns (depth + 1)) rest
      else if t.isMark ")" then
        match depth with
        | 0 => afterCommon? .definition rest
        | depth + 1 => afterCommon? (.columns depth) rest
      else afterCommon? (.columns depth) rest
  | .body, t :: rest =>
      if t.isMark "(" then afterCommon? (.query 0) rest else none
  | .query depth, t :: rest =>
      if t.isMark "(" then afterCommon? (.query (depth + 1)) rest
      else if t.isMark ")" then
        match depth with
        | 0 => afterCommon? .behind rest
        | depth + 1 => afterCommon? (.query depth) rest
      else afterCommon? (.query depth) rest
  | .behind, t :: rest =>
      if t.isMark "," then afterCommon? .name rest
      else if t.kind = .keyword .rows then some t.upper
      else none

/-- The type of a statement that is told by no first word. -/
def unknownType : String := "UNKNOWN"

/-- The type of a statement: its first word, or the one behind common table expressions. -/
def type (s : Statement) : String :=
  match s.significant with
  | [] => unknownType
  | t :: rest =>
      match t.kind with
      | .keyword .rows => t.upper
      | .keyword .objects => t.upper
      | .keyword .common => (afterCommon? .name rest).getD unknownType
      | _ => unknownType

end Statement

end RideQuestions.Sql
