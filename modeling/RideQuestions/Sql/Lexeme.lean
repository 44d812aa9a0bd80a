import RideQuestions.Sql.Token
import RideQuestions.Text.Digits
import RideQuestions.Text.Word

/-! The token that stands at the beginning of a text: rules in order of precedence, each of which
gives a kind and a length. Letters are compared without regard to case.
-/

namespace RideQuestions.Sql

open RideQuestions.Text

/-- How many characters at the beginning of a text belong together, if any do. -/
abbrev Matcher := List Char → Option Nat

namespace Matcher

/-- One character of a class. -/
def one (p : Char → Bool) : Matcher
  | [] => none
  | c :: _ => if p c then some 1 else none

/-- As many characters of a class as there are, at least one. -/
def run (p : Char → Bool) : Matcher := fun s =>
  let length := (s.takeWhile p).length
  if length = 0 then none else some length

/-- As many characters of a class as there are, or none. -/
def runOrNone (p : Char → Bool) : Matcher := fun s =>
  some (s.takeWhile p).length

/-- One match behind the other. -/
def andThen (first second : Matcher) : Matcher := fun s => do
  let n ← first s
  let m ← second (s.drop n)
  return n + m

/-- A match, or nothing at all. -/
def orNone (m : Matcher) : Matcher := fun s =>
  some ((m s).getD 0)

def orElse (first second : Matcher) : Matcher := fun s =>
  (first s).or (second s)

/-- A match that is followed by a text with some property. -/
def followedBy (p : List Char → Bool) (m : Matcher) : Matcher := fun s => do
  let n ← m s
  if p (s.drop n) then some n else none

/-- A given text, letter for letter. -/
def exactly (text : String) : Matcher := fun s =>
  if text.toList.isPrefixOf s then some text.length else none

end Matcher

open Matcher

/-- Whether a character is a letter of the range A to Z or a Latin letter with a mark, in either
case; the dotted and dotless i, the long s and the signs for kelvin and ångström count too. -/
def isLetter (c : Char) : Bool :=
  let code := c.toNat
  (65 ≤ code && code ≤ 90) || (97 ≤ code && code ≤ 122) || (192 ≤ code && code ≤ 220)
    || (224 ≤ code && code ≤ 246) || (248 ≤ code && code ≤ 252) || code = 304 || code = 305
    || code = 383 || code = 8490 || code = 8491

/-- Whether a character is a given capital letter A to Z, letter case aside. -/
def isLetterOf (capital c : Char) : Bool :=
  let code := c.toNat
  c = capital || code = capital.toNat + 32
    || (capital = 'I' && (code = 304 || code = 305))
    || (capital = 'K' && code = 8490)
    || (capital = 'S' && code = 383)

/-- A word given in capitals, letter case aside. -/
def spelled : List Char → Matcher
  | [], _ => some 0
  | _ :: _, [] => none
  | capital :: capitals, c :: rest =>
      if isLetterOf capital c then (spelled capitals rest).map (· + 1) else none

def endsWord (rest : List Char) : Bool :=
  match rest with
  | [] => true
  | c :: _ => !isWord c

/-- Words given in capitals with blanks between them, ending where a word ends. -/
def phrase (words : List String) : Matcher :=
  followedBy endsWord (joined words)
where
  joined : List String → Matcher
    | [] => fun _ => some 0
    | [word] => spelled word.toList
    | word :: rest => andThen (spelled word.toList) (andThen (run isBlank) (joined rest))

/-- The first of several phrases that fits. -/
def anyPhrase (phrases : List (List String)) : Matcher := fun s =>
  phrases.findSome? fun words => phrase words s

/-- The length of a text up to and including some characters, counted from `count` on. -/
def lengthThrough (ending : List Char → Bool) (width : Nat) : Nat → Matcher
  | _, [] => none
  | count, c :: rest =>
      if ending (c :: rest) then some (count + width)
      else lengthThrough ending width (count + 1) rest

def sameLetters (tag s : List Char) : Bool :=
  tag.length ≤ s.length && (tag.zip s).all fun (a, b) => smallLetter a = smallLetter b

/-- A literal between two equal tags, each a name or nothing between dollar signs. -/
def taggedLiteral : Matcher := fun s => do
  let isTagStart := fun c => c = '_' || isLetter c
  let name := orNone (andThen (one isTagStart) (runOrNone isWord))
  let length ← andThen (one (· = '$')) (andThen name (one (· = '$'))) s
  lengthThrough (sameLetters (s.take length)) length length (s.drop length)

/-- A comment between a slash with a star and a star with a slash. -/
def blockComment : Matcher := fun s => do
  let _ ← exactly "/*" s
  lengthThrough (['*', '/'].isPrefixOf ·) 2 2 (s.drop 2)

def lineEnd : Matcher
  | '\r' :: '\n' :: _ => some 2
  | '\r' :: _ => some 1
  | '\n' :: _ => some 1
  | _ => none

/-- A comment that the end of its line ends. -/
def lineComment : Matcher :=
  andThen (orElse (exactly "--") (exactly "# "))
    (andThen (runOrNone fun c => c ≠ '\r' && c ≠ '\n') (orNone lineEnd))

/-- The length of a quoted text behind its opening mark. A mark inside is written twice, or behind
a backslash where `escapes` says so. A text that is never closed ends at the last mark inside. -/
def quotedRest (mark : Char) (escapes : Bool) (last : Option Nat) (skip count : Nat)
    : List Char → Option Nat
  | [] => last
  | c :: rest =>
      match skip with
      | skip + 1 => quotedRest mark escapes last skip (count + 1) rest
      | 0 =>
          let doubled := c = mark && rest.head? = some mark
          let escaped := escapes && c = '\\' && rest.head? = some mark
          if doubled then quotedRest mark escapes (some (count + 1)) 1 (count + 1) rest
          else if escaped then quotedRest mark escapes (some (count + 2)) 1 (count + 1) rest
          else if c = mark then some (count + 1)
          else quotedRest mark escapes last 0 (count + 1) rest

def quotedText (mark : Char) (escapes : Bool) : Matcher := fun s => do
  let _ ← one (· = mark) s
  quotedRest mark escapes none 0 1 s.tail

/-- A word that begins with a letter. -/
def letterWord : Matcher :=
  andThen (one isLetter) (runOrNone isWord)

/-- A point that no digit follows, with blanks before it at will. -/
def pointAhead (rest : List Char) : Bool :=
  match rest.dropWhile isBlank with
  | '.' :: c :: _ => !isDigit c
  | ['.'] => true
  | _ => false

def isHexLetter (c : Char) : Bool :=
  ['A', 'B', 'C', 'D', 'E', 'F'].any (isLetterOf · c)

/-- As many digits as there are, fewer by one if a letter follows them. -/
def digitsBeforeLetter (s : List Char) : Nat :=
  let length := (s.takeWhile isDigit).length
  match s.drop length with
  | [] => length
  | c :: _ => if c = '_' || isLetter c then length - 1 else length

def orNoneSign : Matcher :=
  orNone (one (· = '-'))

def hexNumber : Matcher :=
  andThen orNoneSign (andThen (one (· = '0')) (andThen (spelled ['X'])
    (run fun c => isDigit c || isHexLetter c)))

def scaledNumber : Matcher :=
  andThen orNoneSign (andThen (run isDigit)
    (andThen (orNone (andThen (one (· = '.')) (run isDigit)))
      (andThen (spelled ['E']) (andThen orNoneSign (run isDigit)))))

def letterFollows (rest : List Char) : Bool :=
  match rest with
  | [] => false
  | c :: _ => c = '_' || isLetter c

def digitsAfterPoint (least : Nat) : Matcher := fun s =>
  let length := digitsBeforeLetter s
  if length < least || letterFollows (s.drop length) then none else some length

def pointNumber : Matcher :=
  andThen orNoneSign (orElse
    (andThen (run isDigit) (andThen (one (· = '.')) (digitsAfterPoint 0)))
    (andThen (one (· = '.')) (digitsAfterPoint 1)))

def wholeNumber : Matcher :=
  andThen orNoneSign (digitsAfterPoint 1)

/-- A number in one of its forms. -/
def numberText : Matcher :=
  orElse hexNumber (orElse scaledNumber (orElse pointNumber wholeNumber))

def bracketed : Matcher :=
  andThen (one (· = '[')) (andThen (run fun c => c ≠ '[' && c ≠ ']') (one (· = ']')))

/-- A rule looks at the character before a text and at the text. -/
abbrev Rule := Option Char → List Char → Option (TokenKind × Nat)

/-- The rule that gives matches of one kind. -/
def rule (kind : TokenKind) (m : Matcher) : Rule := fun _ s =>
  (m s).map (kind, ·)

/-- The rule that applies unless it stands behind a character of a class. -/
def ruleNotAfter (p : Char → Bool) (kind : TokenKind) (m : Matcher) : Rule := fun before s =>
  if before.any p then none else rule kind m before s

def wordChar (c : Char) : Bool :=
  isWord c || c = '$' || c = '#'

/-- A whole word with its kind. -/
def wordRule : Rule := fun _ s => do
  let length ← andThen (one isWord) (runOrNone wordChar) s
  return (wordKind (String.ofList (s.take length)), length)

def isPunctuation (c : Char) : Bool :=
  [';', ':', '(', ')', '[', ']', ',', '.'].contains c

def isComparison (c : Char) : Bool :=
  ['<', '>', '=', '~', '!'].contains c

def isArithmetic (c : Char) : Bool :=
  ['+', '/', '@', '#', '%', '^', '&', '|', '-'].contains c

def shortOperators : List String :=
  ["->>", "->", "#>>", "#>", "@>", "<@", "-", "#-"]

/-- Phrases that are one keyword together, and words that are a keyword even where a number sign or
a dollar sign follows them. -/
def keywordPhrases : List (List String) :=
  [
    ["END", "IF"], ["END", "LOOP"], ["END", "WHILE"], ["END", "FOR"], ["END", "CASE"], ["END"],
    ["IF", "EXISTS"], ["IF", "NOT", "EXISTS"], ["HANDLER", "FOR"], ["JOIN"], ["NOT", "NULL"],
    ["ASC"], ["DESC"], ["NULLS", "FIRST"], ["NULLS", "LAST"], ["UNION", "ALL"], ["GROUP", "BY"],
    ["ORDER", "BY"], ["PRIMARY", "KEY"]
  ]

/-- Words that compare. -/
def comparisonWords : List (List String) :=
  [["LIKE"], ["ILIKE"], ["RLIKE"], ["REGEXP"]]

/-- The batch separator with a count behind it. -/
def countedSeparator : Matcher :=
  followedBy endsWord (andThen (spelled ['G', 'O']) (andThen (one isBlank) (run isDigit)))

/-- The rules in order of precedence. -/
def rules : List Rule :=
  [
    ruleNotAfter (fun c => isWord c || c = Char.ofNat 34 || c = '$') .literal taggedLiteral,
    rule .blockComment blockComment,
    rule .lineComment lineComment,
    rule .lineEnd lineEnd,
    rule .blank (one isBlank),
    rule .operator (orElse (exactly ":=") (orElse (exactly "::") (exactly "*"))),
    rule .name (quotedText (Char.ofNat 96) false),
    rule .name (quotedText (Char.ofNat 180) false),
    rule .placeholder (one (· = '?')),
    rule .placeholder
      (andThen (one (· = '%'))
        (andThen (orNone (andThen (one (· = '(')) (andThen (run isWord) (one (· = ')')))))
          (spelled ['S']))),
    ruleNotAfter isWord .placeholder
      (andThen (one fun c => c = '$' || c = ':') (run isWord)),
    rule .name (andThen (one (· = '\\')) (run isWord)),
    rule (.keyword .other)
      (anyPhrase [["CASE"], ["IN"], ["VALUES"], ["USING"], ["FROM"], ["AS"]]),
    rule .name
      (andThen (orElse (exactly "@") (orElse (exactly "##") (exactly "#")))
        (andThen (one isLetter) (run isWord))),
    rule .name (followedBy pointAhead letterWord),
    fun before s => if before = some '.' then rule .name letterWord before s else none,
    rule .name (followedBy (['('].isPrefixOf ·) letterWord),
    rule .literal numberText,
    rule .literal (quotedText (Char.ofNat 39) true),
    rule .name (quotedText (Char.ofNat 34) true),
    ruleNotAfter (fun c => isWord c || c = ']' || c = ')') .name bracketed,
    rule (.keyword .other) (anyPhrase keywordPhrases),
    rule (.keyword .objects) (anyPhrase [["CREATE", "OR", "REPLACE"], ["CREATE"]]),
    rule .name (phrase ["DOUBLE", "PRECISION"]),
    rule .operator (anyPhrase comparisonWords),
    rule (.keyword .other) countedSeparator,
    wordRule,
    rule .punctuation (one isPunctuation),
    rule .operator (fun s => shortOperators.findSome? fun text => exactly text s),
    rule .operator (run isComparison),
    rule .operator (run isArithmetic)
  ]

/-- Kind and length of the first token of a text, given the character before it. -/
def firstToken (before : Option Char) (s : List Char) : TokenKind × Nat :=
  (rules.findSome? fun rule => rule before s).getD (.stray, 1)

/-- Cuts a text into tokens; `skip` counts characters of the token cut last. -/
def tokensFrom : Nat → Option Char → List Char → List Token
  | _, _, [] => []
  | skip + 1, _, c :: rest => tokensFrom skip (some c) rest
  | 0, before, c :: rest =>
      let (kind, length) := firstToken before (c :: rest)
      ⟨kind, String.ofList ((c :: rest).take length)⟩
        :: tokensFrom (length - 1) (some c) rest

/-- The tokens of a text, from left to right; nothing of the text is left out. -/
def tokens (text : String) : List Token :=
  tokensFrom 0 none text.toList

end RideQuestions.Sql
