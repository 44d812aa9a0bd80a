import RideQuestions.Question.Intent
import RideQuestions.Value

/-! The smallest useful form of a result: nothing, one number, one text, or the rows.
-/

namespace RideQuestions

open Number

namespace Answer

/-- A cell without decimals: a whole decimal becomes the whole number, any other the nearest
double. -/
def plainValue : Value → Except NumberError Value
  | .decimal (.finite negative coefficient exponent) =>
      if Decimal.isWhole coefficient exponent then
        .ok (.int (Decimal.roundFinite negative coefficient exponent))
      else .ok (.float (Decimal.nearestBinary negative coefficient exponent))
  | .decimal (.infinity _) => .error .decimalInfinite
  | .decimal .nan => .ok (.float Binary64.nan)
  | value => .ok value

/-- A number rounded to the nearest whole one, a half going to the even neighbour. -/
def rounded : Value → Except NumberError Value
  | .float x =>
      if x.isNaN then .error .floatNaN
      else if x.isInfinite then .error .floatInfinite
      else .ok (.int x.round)
  | .decimal (.finite negative coefficient exponent) =>
      .ok (.int (Decimal.roundFinite negative coefficient exponent))
  | .decimal (.infinity _) => .error .decimalInfinite
  | .decimal .nan => .error .decimalNaN
  | value => .ok value

/-- A number as a double rounded to one decimal. -/
def tenths : Value → Except NumberError Value
  | .int n =>
      let x := Binary64.ofInt n
      if x.isInfinite then .error .wholeTooLarge else .ok (.float (x.roundTo 1))
  | .float x => .ok (.float (x.roundTo 1))
  | .decimal d => .ok (.float (d.toBinary64.roundTo 1))
  | value => .ok value

/-- The only cell of a result: averages are rounded to whole numbers and totals to tenths. -/
def scalar (intent : Intent) (value : Value) : Except NumberError Value :=
  match intent with
  | .average => rounded value
  | .total => tenths value
  | _ => plainValue value

/-- The text at the beginning of a row, if it begins with one. -/
def leadingText? : Row → Option String
  | (_, .text text) :: _ => some text
  | _ => none

def plainRow (row : Row) : Except NumberError Value := do
  let cells ← row.mapM fun (name, value) => return (name, ← plainValue value)
  return .map cells

/-- Collapses the rows of a result. No rows give nothing, one row of one cell gives the cell, one
longer row that begins with a text gives the text, and anything else stays a list of rows. -/
def ofRows (rows : List Row) (intent : Intent) : Except NumberError Value :=
  match rows with
  | [] => .ok .null
  | [[(_, value)]] => scalar intent value
  | [row] =>
      match leadingText? row with
      | some text => .ok (.text text)
      | none => do return .list [← plainRow row]
  | rows => do return .list (← rows.mapM plainRow)

end Answer

end RideQuestions
