import RideQuestions.Value

/-! Values as JSON text. Everything outside the printable ASCII range is written by its UTF-16
units, and a decimal, which JSON has no form for, is written as the text of its digits.
-/

namespace RideQuestions.Json

open RideQuestions

/-- The UTF-16 units of a character. -/
def units (c : Char) : List Nat :=
  let code := c.toNat
  if code < 0x10000 then [code]
  else [0xd800 + (code - 0x10000) / 0x400, 0xdc00 + (code - 0x10000) % 0x400]

/-- How a character is written between the quotes of a JSON text. -/
def escaped (c : Char) : List Char :=
  if c = Char.ofNat 34 ∨ c = '\\' then ['\\', c]
  else if c = '\n' then ['\\', 'n']
  else if c = '\r' then ['\\', 'r']
  else if c = '\t' then ['\\', 't']
  else if c = Char.ofNat 8 then ['\\', 'b']
  else if c = Char.ofNat 12 then ['\\', 'f']
  else if 32 ≤ c.toNat ∧ c.toNat < 127 then [c]
  else (units c).flatMap fun unit => ['\\', 'u'] ++ Text.hexDigits 4 unit

/-- A text between JSON quotes. -/
def quoted (s : String) : String :=
  "\"" ++ String.ofList (s.toList.flatMap escaped) ++ "\""

private def number (x : Number.Binary64) : String :=
  if x.isNaN then "NaN"
  else if x.isInfinite then (if x.negative then "-Infinity" else "Infinity")
  else x.toText

mutual

/-- JSON text on one line. -/
def write : Value → String
  | .null => "null"
  | .bool true => "true"
  | .bool false => "false"
  | .int value => toString value
  | .float value => number value
  | .decimal value => quoted value.toText
  | .text value => quoted value
  | .list items => "[" ++ String.intercalate ", " (writeItems items) ++ "]"
  | .map entries => "\x7b" ++ String.intercalate ", " (writeEntries entries) ++ "\x7d"

def writeItems : List Value → List String
  | [] => []
  | item :: rest => write item :: writeItems rest

def writeEntries : List (String × Value) → List String
  | [] => []
  | (key, value) :: rest => (quoted key ++ ": " ++ write value) :: writeEntries rest

end

private def margin (depth : Nat) : String :=
  "\n" ++ String.ofList (List.replicate (2 * depth) ' ')

/-- Brackets around parts that stand on lines of their own; no parts leave nothing between. -/
private def block (opening closing : String) (depth : Nat) (parts : List String) : String :=
  if parts.isEmpty then opening ++ closing
  else
    opening ++ margin (depth + 1) ++ String.intercalate ("," ++ margin (depth + 1)) parts
      ++ margin depth ++ closing

mutual

/-- JSON text over several lines, two spaces deeper for each level. -/
def writeIndented (depth : Nat) : Value → String
  | .list items => block "[" "]" depth (indentedItems depth items)
  | .map entries => block "\x7b" "\x7d" depth (indentedEntries depth entries)
  | value => write value

def indentedItems (depth : Nat) : List Value → List String
  | [] => []
  | item :: rest => writeIndented (depth + 1) item :: indentedItems depth rest

def indentedEntries (depth : Nat) : List (String × Value) → List String
  | [] => []
  | (key, value) :: rest =>
      (quoted key ++ ": " ++ writeIndented (depth + 1) value) :: indentedEntries depth rest

end

end RideQuestions.Json
