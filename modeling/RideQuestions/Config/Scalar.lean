import RideQuestions.Config.Issue
import RideQuestions.Text.Case
import RideQuestions.Text.Search
import RideQuestions.Value

/-! Reading numbers and truth values leniently: numbers may come as text, whole numbers as doubles
or decimals without a fraction, and truth values as words.
-/

namespace RideQuestions.Config

open Number Text

/-- Drops a fraction that is all zeros. -/
private def withoutZeroFraction (s : List Char) : List Char :=
  let rest := s.dropWhile (· != '.')
  match rest with
  | '.' :: zeros => if zeros.all (· == '0') then s.takeWhile (· != '.') else s
  | _ => s

/-- Reads a whole number in digits 0 to 9: white space around it, a sign, underscores between
digits and a fraction of zeros are allowed. -/
def readWhole? (s : String) : Option Int :=
  let (negative, rest) := splitSign (trimWhile isSpace s.toList)
  (digitsWithUnderscores isPlainDigit false (withoutZeroFraction rest)).map fun digits =>
    signed negative (digitsValue plainDigit? digits)

def int (value : Value) : Except IssueKind Int :=
  match value with
  | .int n => .ok n
  | .bool b => .ok (if b then 1 else 0)
  | .float x =>
      if !x.isFinite then .error .finiteNumber
      else if !x.isWhole then .error .intFromFloat
      else if x.truncate.natAbs < Nat.pow 2 63 then .ok x.truncate
      else .error .intParsingSize
  | .decimal (.finite negative coefficient exponent) =>
      if Decimal.isWhole coefficient exponent then
        .ok (Decimal.roundFinite negative coefficient exponent)
      else .error .intFromFloat
  | .decimal _ => .error .finiteNumber
  | .text s =>
      match readWhole? s with
      | some n => if isWritable n then .ok n else .error .intParsingSize
      | none => .error .intParsing
  | _ => .error .intType

/-- Reads a number written with digits 0 to 9, or the name of an infinity or a missing number. -/
private def readReal? (s : List Char) : Option Binary64 :=
  if s.all fun c => c.toNat < 128 && c != '_' && !isBlank c then
    (Decimal.ofText? (String.ofList s)).map Decimal.toBinary64
  else none

/-- Takes single underscores out of the inside of a text. -/
private def withoutUnderscores? (s : List Char) : Option (List Char) :=
  if s.head? = some '_' ∨ s.getLast? = some '_' ∨ occursIn ['_', '_'] s then none
  else some (s.filter (· != '_'))

def readFloat? (s : String) : Option Binary64 :=
  (readReal? (trimWhile isSpace s.toList)).orElse fun _ =>
    (withoutUnderscores? s.toList).bind readReal?

def float (value : Value) : Except IssueKind Binary64 :=
  match value with
  | .float x => .ok x
  | .int n => .ok (Binary64.ofInt n)
  | .bool b => .ok (Binary64.ofInt (if b then 1 else 0))
  | .decimal d => .ok d.toBinary64
  | .text s =>
      match readFloat? s with
      | some x => .ok x
      | none => .error .floatParsing
  | _ => .error .floatType

private def falseWords : List String := ["0", "off", "f", "false", "n", "no"]
private def trueWords : List String := ["1", "on", "t", "true", "y", "yes"]

private def boolOfInt (n : Int) : Except IssueKind Bool :=
  if n = 0 then .ok false
  else if n = 1 then .ok true
  else .error .boolParsing

private def boolOfReal (x : Binary64) : Except IssueKind Bool :=
  if x.isFinite && x.isWhole && decide (x.truncate.natAbs < Nat.pow 2 63) then boolOfInt x.truncate
  else .error .boolType

def bool (value : Value) : Except IssueKind Bool :=
  match value with
  | .bool b => .ok b
  | .text s =>
      let word := lower s
      if trueWords.contains word then .ok true
      else if falseWords.contains word then .ok false
      else .error .boolParsing
  | .int n => if n.natAbs < Nat.pow 2 63 then boolOfInt n else .error .boolType
  | .float x => boolOfReal x
  | .decimal d => boolOfReal d.toBinary64
  | _ => .error .boolType

def text (value : Value) : Except IssueKind String :=
  match value with
  | .text s => .ok s
  | _ => .error .stringType

end RideQuestions.Config
