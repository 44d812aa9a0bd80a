import RideQuestions.Text.Case

/-! Tokens of query text. Words of the language are told apart by what they begin or control;
every other word is a name.
-/

namespace RideQuestions.Sql

/-- What a keyword is there for. -/
inductive KeywordClass where
  /-- Reads or changes rows, or ends a transaction. -/
  | rows
  /-- Defines or drops objects. -/
  | objects
  /-- Gives or takes rights. -/
  | rights
  /-- Opens a list of common table expressions. -/
  | common
  | other
  deriving DecidableEq

inductive TokenKind where
  | blank
  | lineEnd
  | lineComment
  | blockComment
  | keyword (keywordClass : KeywordClass)
  | name
  | literal
  | placeholder
  | operator
  | punctuation
  /-- A character that begins no token. -/
  | stray
  deriving DecidableEq

structure Token where
  kind : TokenKind
  text : String
  deriving DecidableEq

namespace Token

/-- The text of a token in capitals. -/
def upper (t : Token) : String :=
  Text.plainUpper t.text

def isKeyword (t : Token) : Bool :=
  match t.kind with
  | .keyword _ => true
  | _ => false

/-- A keyword with a given text, letter case aside. -/
def isWord (word : String) (t : Token) : Bool :=
  t.isKeyword && t.upper = word

def isMark (mark : String) (t : Token) : Bool :=
  t.kind = .punctuation && t.text = mark

/-- White space of any kind. -/
def isWhite (t : Token) : Bool :=
  t.kind = .blank || t.kind = .lineEnd

def isComment (t : Token) : Bool :=
  t.kind = .lineComment || t.kind = .blockComment

/-- A token that says something: neither white space nor a comment. -/
def isSignificant (t : Token) : Bool :=
  !t.isWhite && !t.isComment

end Token

def rowWords : List String :=
  ["SELECT", "INSERT", "DELETE", "UPDATE", "UPSERT", "REPLACE", "MERGE", "COMMIT", "ROLLBACK",
   "START"]

def objectWords : List String :=
  ["DROP", "CREATE", "ALTER", "TRUNCATE"]

def rightWords : List String :=
  ["GRANT", "REVOKE"]

/-- Words without a class of their own that matter to statements. -/
def otherWords : List String :=
  ["AS", "BEGIN", "CASE", "COPY", "DECLARE", "END", "EXEC", "EXECUTE", "FOR", "FROM", "GO", "IF",
   "IN", "RECURSIVE", "USING", "VALUES", "WHILE"]

/-- The kind of a word, letter case aside. -/
def wordKind (word : String) : TokenKind :=
  let upper := Text.plainUpper word
  if rowWords.contains upper then .keyword .rows
  else if objectWords.contains upper then .keyword .objects
  else if rightWords.contains upper then .keyword .rights
  else if upper = "WITH" then .keyword .common
  else if otherWords.contains upper then .keyword .other
  else .name

end RideQuestions.Sql
