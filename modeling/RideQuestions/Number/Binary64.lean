/-! Binary floating-point numbers of 64 bits, kept as their bits. Arithmetic is done exactly on
the numbers that the bits stand for and rounded once, to the nearest number with ties to even.
-/

namespace RideQuestions.Number

/-- The whole number nearest to `n / d`; of two equally near ones the even one. -/
def roundDiv (n d : Nat) : Nat :=
  let quotient := n / d
  let twice := 2 * (n % d)
  if twice < d then quotient
  else if d < twice then quotient + 1
  else if quotient % 2 = 0 then quotient
  else quotient + 1

/-- Gives a magnitude its sign. -/
def signed (negative : Bool) (magnitude : Nat) : Int :=
  if negative then -Int.ofNat magnitude else Int.ofNat magnitude

/-- A double, as its bit pattern: sign, eleven bits of exponent, fifty-two of fraction. -/
structure Binary64 where
  bits : UInt64
  deriving DecidableEq, Inhabited

namespace Binary64

def negative (x : Binary64) : Bool :=
  x.bits.toNat / Nat.pow 2 63 = 1

/-- The bits without the sign. Among numbers it grows with the absolute value. -/
def magnitude (x : Binary64) : Nat :=
  x.bits.toNat % Nat.pow 2 63

def infinityMagnitude : Nat := 2047 * Nat.pow 2 52

def isNaN (x : Binary64) : Bool :=
  infinityMagnitude < x.magnitude

def isInfinite (x : Binary64) : Bool :=
  x.magnitude = infinityMagnitude

def isFinite (x : Binary64) : Bool :=
  x.magnitude < infinityMagnitude

def ofMagnitude (negative : Bool) (magnitude : Nat) : Binary64 :=
  ⟨UInt64.ofNat ((if negative then Nat.pow 2 63 else 0) + magnitude)⟩

def infinity (negative : Bool) : Binary64 :=
  ofMagnitude negative infinityMagnitude

/-- The one pattern that every answer without a number is given. -/
def nan : Binary64 :=
  ⟨0x7ff8000000000000⟩

def zeroOf (negative : Bool) : Binary64 :=
  ofMagnitude negative 0

/-- The power of two that a finite number is a multiple of. -/
def exponent (x : Binary64) : Int :=
  if x.magnitude < Nat.pow 2 52 then -1074 else Int.ofNat (x.magnitude / Nat.pow 2 52) - 1075

/-- The multiple of `2 ^ exponent` that a finite number is, without its sign. -/
def significand (x : Binary64) : Nat :=
  if x.magnitude < Nat.pow 2 52 then x.magnitude else x.magnitude % Nat.pow 2 52 + Nat.pow 2 52

/-- Numerator and denominator of the absolute value of a finite number. -/
def fraction (x : Binary64) : Nat × Nat :=
  if 0 ≤ x.exponent then (x.significand * Nat.pow 2 x.exponent.toNat, 1)
  else (x.significand, Nat.pow 2 (-x.exponent).toNat)

/-- The greatest power of two not above a positive ratio. -/
def floorLog2 (num den : Nat) : Int :=
  let guess := Int.ofNat num.log2 - Int.ofNat den.log2
  let reached :=
    if 0 ≤ guess then den * Nat.pow 2 guess.toNat ≤ num
    else den ≤ num * Nat.pow 2 (-guess).toNat
  if reached then guess else guess - 1

/-- The double nearest to a ratio; too great a ratio gives infinity. -/
def ofRatio (negative : Bool) (num den : Nat) : Binary64 :=
  if num = 0 then zeroOf negative
  else
    let unit := max (floorLog2 num den - 52) (-1074)
    let steps :=
      if 0 ≤ unit then roundDiv num (den * Nat.pow 2 unit.toNat)
      else roundDiv (num * Nat.pow 2 (-unit).toNat) den
    let magnitude := (unit + 1074).toNat * Nat.pow 2 52 + steps
    if infinityMagnitude ≤ magnitude then infinity negative else ofMagnitude negative magnitude

/-- The double nearest to a whole number. -/
def ofInt (n : Int) : Binary64 :=
  ofRatio (decide (n < 0)) n.natAbs 1

/-- A finite number as a signed multiple of `2 ^ unit`, for a unit not above its exponent. -/
private def multiples (x : Binary64) (unit : Int) : Int :=
  signed x.negative (x.significand * Nat.pow 2 (x.exponent - unit).toNat)

def add (x y : Binary64) : Binary64 :=
  if x.isNaN || y.isNaN then nan
  else if x.isInfinite then
    if y.isInfinite && x.negative != y.negative then nan else x
  else if y.isInfinite then y
  else
    let unit := min x.exponent y.exponent
    let sum := x.multiples unit + y.multiples unit
    if sum = 0 then zeroOf (x.negative && y.negative)
    else if 0 ≤ unit then ofRatio (decide (sum < 0)) (sum.natAbs * Nat.pow 2 unit.toNat) 1
    else ofRatio (decide (sum < 0)) sum.natAbs (Nat.pow 2 (-unit).toNat)

/-- The double nearest to a number divided by a positive count. -/
def divNat (x : Binary64) (count : Nat) : Binary64 :=
  if x.isFinite then ofRatio x.negative x.fraction.1 (x.fraction.2 * count) else x

/-- Numbers in their order: of two doubles that are numbers, the smaller has the smaller key, and
both zeros have the same. -/
def orderKey (x : Binary64) : Int :=
  signed x.negative x.magnitude

/-- `x ≤ y` as numbers; false when either is not a number. -/
def le (x y : Binary64) : Bool :=
  !x.isNaN && !y.isNaN && decide (x.orderKey ≤ y.orderKey)

/-- `x < y` as numbers; false when either is not a number. -/
def lt (x y : Binary64) : Bool :=
  !x.isNaN && !y.isNaN && decide (x.orderKey < y.orderKey)

/-- The whole number nearest to a finite number, a half going to the even neighbour. -/
def round (x : Binary64) : Int :=
  signed x.negative (roundDiv x.fraction.1 x.fraction.2)

/-- The part of a finite number before the point. -/
def truncate (x : Binary64) : Int :=
  signed x.negative (x.fraction.1 / x.fraction.2)

/-- Whether a finite number has nothing behind the point. -/
def isWhole (x : Binary64) : Bool :=
  x.fraction.1 % x.fraction.2 = 0

/-- A number rounded to `places` decimals, a half of its exact value going to the even neighbour,
and then to the nearest double. -/
def roundTo (places : Nat) (x : Binary64) : Binary64 :=
  if x.isFinite then
    let scale := Nat.pow 10 places
    ofRatio x.negative (roundDiv (x.fraction.1 * scale) x.fraction.2) scale
  else x

end Binary64

end RideQuestions.Number
