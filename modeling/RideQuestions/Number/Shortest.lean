import RideQuestions.Number.Decimal

/-! The shortest decimal text of a double: the fewest digits that read back as the same number,
and of several texts of that length the one nearest to it.
-/

namespace RideQuestions.Number

/-- A positive double with the halfway points to its neighbours, all over one denominator. -/
structure Interval where
  low : Nat
  value : Nat
  high : Nat
  den : Nat
  /-- Whether the halfway points themselves read back as the number. -/
  closed : Bool

/-- The numbers that read back as a positive finite double. -/
def interval (x : Binary64) : Interval :=
  let m := x.significand
  let e := x.exponent
  -- below a power of two the neighbour is only half as far away
  let narrow := m = Nat.pow 2 52 ∧ -1074 < e
  let scale := if 0 ≤ e then 4 * Nat.pow 2 e.toNat else 4
  let den := if 0 ≤ e then 4 else 4 * Nat.pow 2 (-e).toNat
  let quarter := scale / 4
  {
    low := m * scale - (if narrow then quarter else 2 * quarter),
    value := m * scale,
    high := m * scale + 2 * quarter,
    den,
    closed := m % 2 = 0
  }

/-- Whether `digits * 10 ^ place` lies in an interval. -/
def Interval.holds (i : Interval) (digits : Nat) (place : Int) : Bool :=
  let (num, scale) := Decimal.ratio digits place
  let point := num * i.den
  if i.closed then i.low * scale ≤ point ∧ point ≤ i.high * scale
  else i.low * scale < point ∧ point < i.high * scale

/-- The distance of `digits * 10 ^ place` to the number, times a scale common to one place. -/
private def Interval.distance (i : Interval) (digits : Nat) (place : Int) : Nat :=
  let (num, scale) := Decimal.ratio digits place
  let point := num * i.den
  let value := i.value * scale
  (point - value) + (value - point)

/-- The neighbours of the number on the grid of a place, if one lies in the interval. -/
def Interval.onGrid? (i : Interval) (place : Int) : Option Nat :=
  let (unit, scale) := Decimal.ratio 1 place
  let below := i.value * scale / (unit * i.den)
  let above := below + 1
  match i.holds below place, i.holds above place with
  | true, true =>
      let toBelow := i.distance below place
      let toAbove := i.distance above place
      if toBelow < toAbove then some below
      else if toAbove < toBelow then some above
      else if below % 2 = 0 then some below
      else some above
  | true, false => some below
  | false, true => some above
  | false, false => none

/-- Searches the grids from coarse to fine, `fuel` of them. -/
private def Interval.search (i : Interval) : Nat → Int → Nat × Int
  | 0, place => (i.value / i.den, place)
  | fuel + 1, place =>
      match i.onGrid? place with
      | some digits => if 0 < digits then (digits, place) else i.search fuel (place - 1)
      | none => i.search fuel (place - 1)

/-- Digits and place of the shortest decimal that reads back as a positive finite double. The
first grid is one place above the number itself, and no double needs more than seventeen digits. -/
def shortestDigits (x : Binary64) : Nat × Int :=
  let (num, den) := x.fraction
  let length : Int := (toString (num / den)).length
  let leading : Int :=
    if den ≤ num then length
    else 1 - Int.ofNat (toString (den / num)).length
  (interval x).search 22 (leading + 1)

/-- A power of ten with its sign and at least two digits. -/
def exponentText (e : Int) : String :=
  (if e < 0 then "-" else "+") ++ Text.padded 2 e.natAbs

/-- A double as text. Numbers from 0.0001 up to 10 to the 16th are written in full, with a point;
others with one digit before the point and a power of ten. -/
def Binary64.toText (x : Binary64) : String :=
  let sign := if x.negative then "-" else ""
  if x.isNaN then "nan"
  else if x.isInfinite then sign ++ "inf"
  else if x.magnitude = 0 then sign ++ "0.0"
  else
    let (value, place) := shortestDigits x
    let digits := Text.dropEndWhile (· == '0') (toString value).toList
    let left : Int := place + (toString value).length
    if -4 < left ∧ left ≤ 16 then
      let text := Decimal.withPoint digits left
      sign ++ String.ofList (if text.contains '.' then text else text ++ ['.', '0'])
    else
      let mantissa := if digits.length = 1 then digits else Decimal.withPoint digits 1
      sign ++ String.ofList mantissa ++ "e" ++ exponentText (left - 1)

end RideQuestions.Number
