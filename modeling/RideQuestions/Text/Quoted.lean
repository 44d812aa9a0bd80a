import RideQuestions.Text.PrintableTable

/-! Quoted texts. A text is put between single quotes, or between double quotes when it holds a
single quote and no double one, and what cannot be shown is written by its code point.
-/

namespace RideQuestions.Text

private def hexDigit (n : Nat) : Char :=
  if n < 10 then Char.ofNat (48 + n) else Char.ofNat (87 + n)

/-- The lowest `width` hexadecimal digits of a number, highest first. -/
def hexDigits : Nat → Nat → List Char
  | 0, _ => []
  | width + 1, value => hexDigits width (value / 16) ++ [hexDigit (value % 16)]

def isPrintable (c : Char) : Bool :=
  Ranges.contains printableRanges c.toNat

/-- How a character is written between given quotes. -/
def quotedChar (mark c : Char) : List Char :=
  if c = mark ∨ c = '\\' then ['\\', c]
  else if c = '\t' then ['\\', 't']
  else if c = '\n' then ['\\', 'n']
  else if c = '\r' then ['\\', 'r']
  else if isPrintable c then [c]
  else if c.toNat < 0x100 then ['\\', 'x'] ++ hexDigits 2 c.toNat
  else if c.toNat < 0x10000 then ['\\', 'u'] ++ hexDigits 4 c.toNat
  else ['\\', 'U'] ++ hexDigits 8 c.toNat

private def singleQuote : Char := Char.ofNat 39
private def doubleQuote : Char := Char.ofNat 34

/-- The quotes put around a text. -/
def quoteMark (s : List Char) : Char :=
  if singleQuote ∈ s ∧ doubleQuote ∉ s then doubleQuote else singleQuote

/-- A text between quotes. -/
def quoted (s : String) : String :=
  let mark := quoteMark s.toList
  String.ofList ([mark] ++ s.toList.flatMap (quotedChar mark) ++ [mark])

end RideQuestions.Text
