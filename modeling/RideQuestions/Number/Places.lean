import RideQuestions.Number.Shortest
import RideQuestions.Text.Quoted

/-! Whole numbers in other bases, and fractions with a chosen count of digits: so many of them
behind the point, or so many in all and a power of ten. The last digit of a fraction is rounded, a
half going to the even neighbour.
-/

namespace RideQuestions.Number

/-- The digits of a number in a base from two to sixteen. -/
def digitsIn (base n : Nat) : List Char :=
  if _h : 2 ≤ base ∧ base ≤ n then digitsIn base (n / base) ++ Text.hexDigits 1 (n % base)
  else Text.hexDigits 1 n
termination_by n
decreasing_by exact Nat.div_lt_self (by omega) (by omega)

/-- A point between two rows of digits, which stands without the second one only if kept. -/
def pointed (keepPoint : Bool) (whole part : List Char) : List Char :=
  if part.isEmpty && !keepPoint then whole else whole ++ '.' :: part

/-- A fraction with a number of decimals. -/
def fixedForm (places : Nat) (keepPoint : Bool) (num den : Nat) : List Char :=
  let digits := (Text.padded (places + 1) (roundDiv (num * Nat.pow 10 places) den)).toList
  let left := digits.length - places
  pointed keepPoint (digits.take left) (digits.drop left)

/-- The power of ten of the first digit of a positive fraction. -/
def leadingPlace (num den : Nat) : Int :=
  let guess := Int.ofNat (toString num).length - Int.ofNat (toString den).length
  let (unit, scale) := Decimal.ratio 1 guess
  if unit * den ≤ num * scale then guess else guess - 1

/-- The first `places + 1` digits of a fraction and the power of ten of the first one. -/
def leadingDigits (places num den : Nat) : Nat × Int :=
  if num = 0 then (0, 0)
  else
    let place := leadingPlace num den
    let (unit, scale) := Decimal.ratio 1 (Int.ofNat places - place)
    let digits := roundDiv (num * unit) (den * scale)
    if digits = Nat.pow 10 (places + 1) then (Nat.pow 10 places, place + 1) else (digits, place)

/-- A fraction with one digit before the point, a number of decimals, and a power of ten. -/
def exponentForm (places : Nat) (keepPoint : Bool) (num den : Nat) : List Char :=
  let (value, place) := leadingDigits places num den
  let digits := (Text.padded (places + 1) value).toList
  pointed keepPoint (digits.take 1) (digits.drop 1) ++ 'e' :: (exponentText place).toList

/-- Takes the zeros at the end of a row of decimals away, and a point that is left without any. -/
def withoutZeros (digits : List Char) : List Char :=
  if digits.contains '.' then
    Text.dropEndWhile (· == '.') (Text.dropEndWhile (· == '0') digits)
  else digits

/-- A fraction with a number of digits, in full unless it is too great or too small for that. -/
def generalForm (digits : Nat) (keepZeros : Bool) (num den : Nat) : List Char :=
  let digits := max 1 digits
  let place := (leadingDigits (digits - 1) num den).2
  let trimmed := fun text => if keepZeros then text else withoutZeros text
  if -4 ≤ place ∧ place < digits then
    trimmed (fixedForm (Int.ofNat digits - 1 - place).toNat keepZeros num den)
  else
    let text := exponentForm (digits - 1) keepZeros num den
    trimmed (text.takeWhile (· != 'e')) ++ text.dropWhile (· != 'e')

end RideQuestions.Number
