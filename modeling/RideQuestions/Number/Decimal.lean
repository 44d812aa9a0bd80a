import RideQuestions.Number.Binary64
import RideQuestions.Text.Digits

/-! Decimal numbers: a whole coefficient and a power of ten. Trailing zeros are kept, so a number
is written with as many digits as it was given.
-/

namespace RideQuestions.Number

open RideQuestions.Text

inductive Decimal where
  | finite (negative : Bool) (coefficient : Nat) (exponent : Int)
  | infinity (negative : Bool)
  | nan
  deriving DecidableEq

namespace Decimal

/-- Numerator and denominator of `coefficient * 10 ^ exponent`. -/
def ratio (coefficient : Nat) (exponent : Int) : Nat × Nat :=
  if 0 ≤ exponent then (coefficient * Nat.pow 10 exponent.toNat, 1)
  else (coefficient, Nat.pow 10 (-exponent).toNat)

/-- Whether a decimal has nothing behind the point. -/
def isWhole (coefficient : Nat) (exponent : Int) : Bool :=
  let (num, den) := ratio coefficient exponent
  num % den = 0

/-- The double nearest to `coefficient * 10 ^ exponent`. Numbers beyond the range of doubles are
told from the place of their first digit. -/
def nearestBinary (negative : Bool) (coefficient : Nat) (exponent : Int) : Binary64 :=
  let place := exponent + (toString coefficient).length
  if coefficient = 0 ∨ place < -400 then Binary64.zeroOf negative
  else if 400 < place then Binary64.infinity negative
  else
    let (num, den) := ratio coefficient exponent
    Binary64.ofRatio negative num den

def toBinary64 : Decimal → Binary64
  | finite negative coefficient exponent => nearestBinary negative coefficient exponent
  | infinity negative => Binary64.infinity negative
  | nan => Binary64.nan

/-- The nearest whole number, a half going to the even neighbour. -/
def roundFinite (negative : Bool) (coefficient : Nat) (exponent : Int) : Int :=
  let (num, den) := ratio coefficient exponent
  signed negative (roundDiv num den)

private def sign (negative : Bool) : String :=
  if negative then "-" else ""

private def zeros (count : Nat) : List Char :=
  List.replicate count '0'

/-- Digits with a point behind the first `place` of them, filled up with zeros where the place
lies outside the digits. -/
def withPoint (digits : List Char) (place : Int) : List Char :=
  if place ≤ 0 then ['0', '.'] ++ zeros (-place).toNat ++ digits
  else
    let whole := place.toNat
    if digits.length ≤ whole then digits ++ zeros (whole - digits.length)
    else digits.take whole ++ ['.'] ++ digits.drop whole

private def withSign (n : Int) : String :=
  if n < 0 then toString n else "+" ++ toString n

/-- A decimal as text: in full when the exponent is not positive and at most five zeros follow
the point, otherwise with one digit before the point and a power of ten. -/
def toText : Decimal → String
  | finite negative coefficient exponent =>
      let digits := (toString coefficient).toList
      let left : Int := exponent + digits.length
      if exponent ≤ 0 ∧ -6 < left then
        sign negative ++ String.ofList (withPoint digits left)
      else
        sign negative ++ String.ofList (withPoint digits 1) ++ "E" ++ withSign (left - 1)
  | infinity negative => sign negative ++ "Infinity"
  | nan => "NaN"

/-- The exponent behind an `e`, as whole number with an optional sign. -/
private def readExponent? (s : List Char) : Option Int :=
  let (negative, digits) := splitSign s
  if digits.isEmpty || !digits.all isDigit then none
  else some (signed negative (digitsValue digit? digits))

/-- Reads the digits, point and exponent of an unsigned decimal. -/
def readUnsigned? (negative : Bool) (s : List Char) : Option Decimal :=
  let whole := s.takeWhile isDigit
  let rest := s.dropWhile isDigit
  let (part, rest) :=
    match rest with
    | '.' :: r => (r.takeWhile isDigit, r.dropWhile isDigit)
    | r => ([], r)
  if whole.isEmpty && part.isEmpty then none
  else
    let coefficient := digitsValue digit? (whole ++ part)
    match rest with
    | [] => some (finite negative coefficient (-Int.ofNat part.length))
    | c :: r =>
        if c = 'e' ∨ c = 'E' then
          (readExponent? r).map fun e => finite negative coefficient (e - Int.ofNat part.length)
        else none

private def lowerPlain (s : List Char) : String :=
  String.ofList (s.map Char.toLower)

/-- Reads a decimal number, an infinity, or the mark of a missing number. -/
def ofText? (s : String) : Option Decimal :=
  let text := (trimWhile isBlank s.toList).filter (· != '_')
  let (negative, rest) := splitSign text
  match lowerPlain rest with
  | "inf" => some (infinity negative)
  | "infinity" => some (infinity negative)
  | "nan" => some nan
  | _ => readUnsigned? negative rest

end Decimal

end RideQuestions.Number
