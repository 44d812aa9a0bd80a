import RideQuestions.Value

/-! Reading JSON text. The words for missing and infinite numbers are accepted, a key that comes
twice keeps its first place and its last value, and control characters inside texts are refused.
Whole numbers have a greatest length, and lists and maps lie inside one another only as deep as
there is room for.
-/

namespace RideQuestions.Json

open RideQuestions

/-- Why a text is not read. -/
inductive ReadError where
  /-- It is no JSON. -/
  | malformed
  /-- A whole number has too many digits. -/
  | tooLong (digits : Nat)
  /-- Lists and maps lie too deep inside one another. -/
  | tooNested
  deriving DecidableEq

/-- What was read, and what is left of the text. -/
abbrev Reading (α : Type) := Except ReadError (α × List Char)

/-- The blanks that JSON allows between its parts. -/
def isGap (c : Char) : Bool :=
  c = ' ' || c = '\t' || c = '\n' || c = '\r'

private def hexValue? (c : Char) : Option Nat :=
  let code := c.toNat
  if 48 ≤ code ∧ code ≤ 57 then some (code - 48)
  else if 97 ≤ code ∧ code ≤ 102 then some (code - 87)
  else if 65 ≤ code ∧ code ≤ 70 then some (code - 55)
  else none

/-- The UTF-16 unit written by four hexadecimal digits. -/
private def unit? (a b c d : Char) : Option Nat := do
  let a ← hexValue? a
  let b ← hexValue? b
  let c ← hexValue? c
  let d ← hexValue? d
  return ((a * 16 + b) * 16 + c) * 16 + d

private def simpleEscape? (c : Char) : Option Char :=
  if c = Char.ofNat 34 ∨ c = '\\' ∨ c = '/' then some c
  else if c = 'b' then some (Char.ofNat 8)
  else if c = 'f' then some (Char.ofNat 12)
  else if c = 'n' then some '\n'
  else if c = 'r' then some '\r'
  else if c = 't' then some '\t'
  else none

/-- A unit as a character. Half of a pair that lacks its other half is no character, and the
replacement character stands for it. -/
private def ofUnit (unit : Nat) : Char :=
  if 0xd800 ≤ unit ∧ unit < 0xe000 then Char.ofNat 0xfffd else Char.ofNat unit

/-- The character of a pair of units. -/
private def ofPair? (high low : Nat) : Option Char :=
  if 0xd800 ≤ high ∧ high < 0xdc00 ∧ 0xdc00 ≤ low ∧ low < 0xe000 then
    some (Char.ofNat (0x10000 + (high - 0xd800) * 0x400 + (low - 0xdc00)))
  else none

/-- Reads a text behind its opening quote, up to and including the closing one. `skip` counts
characters that an earlier step has taken already, and `found` holds the text so far reversed. -/
private def textFrom (skip : Nat) (found : List Char)
    : List Char → Option (List Char × List Char)
  | [] => none
  | c :: rest =>
      match skip with
      | skip + 1 => textFrom skip found rest
      | 0 =>
          if c = Char.ofNat 34 then some (found.reverse, rest)
          else if c.toNat < 32 then none
          else if c ≠ '\\' then textFrom 0 (c :: found) rest
          else
            match rest with
            | 'u' :: h₁ :: h₂ :: h₃ :: h₄ :: more =>
                match unit? h₁ h₂ h₃ h₄ with
                | none => none
                | some high =>
                    let pair :=
                      match more with
                      | '\\' :: 'u' :: l₁ :: l₂ :: l₃ :: l₄ :: _ =>
                          (unit? l₁ l₂ l₃ l₄).bind (ofPair? high)
                      | _ => none
                    match pair with
                    | some c => textFrom 11 (c :: found) rest
                    | none => textFrom 5 (ofUnit high :: found) rest
            | e :: _ =>
                match simpleEscape? e with
                | some c => textFrom 1 (c :: found) rest
                | none => none
            | [] => none

private def digitRun (s : List Char) : List Char × List Char :=
  s.span Text.isPlainDigit

/-- The digits before the point: a lone zero, or a run that does not begin with one. -/
private def wholePart? : List Char → Option (List Char × List Char)
  | '0' :: rest => some (['0'], rest)
  | s =>
      match digitRun s with
      | ([], _) => none
      | found => some found

/-- The point with at least one digit behind it. -/
private def fractionPart : List Char → List Char × List Char
  | '.' :: rest =>
      match digitRun rest with
      | ([], _) => ([], '.' :: rest)
      | found => found
  | s => ([], s)

/-- The exponent with at least one digit. -/
private def exponentPart? (s : List Char) : Option (Int × List Char) :=
  match s with
  | [] => none
  | e :: rest =>
      if e = 'e' ∨ e = 'E' then
        let (negative, digits) := Text.splitSign rest
        match digitRun digits with
        | ([], _) => none
        | (found, more) =>
            some (Number.signed negative (Text.digitsValue Text.plainDigit? found), more)
      else none

/-- Reads a number: a whole number stays whole, any other becomes the nearest double. -/
private def readNumber (s : List Char) : Reading Value :=
  let (negative, s) :=
    match s with
    | '-' :: rest => (true, rest)
    | s => (false, s)
  match wholePart? s with
  | none => .error .malformed
  | some (whole, rest) =>
      let (part, rest) := fractionPart rest
      let value := Text.digitsValue Text.plainDigit? (whole ++ part)
      match exponentPart? rest with
      | some (e, rest) =>
          .ok (.float (Number.Decimal.nearestBinary negative value (e - part.length)), rest)
      | none =>
          if !part.isEmpty then
            .ok (.float (Number.Decimal.nearestBinary negative value (-part.length)), rest)
          else if Text.digitLimit < whole.length then .error (.tooLong whole.length)
          else .ok (.int (Number.signed negative value), rest)

/-- The words that stand for values. -/
private def constants : List (String × Value) :=
  [
    ("null", .null),
    ("true", .bool true),
    ("false", .bool false),
    ("NaN", .float Number.Binary64.nan),
    ("Infinity", .float (Number.Binary64.infinity false)),
    ("-Infinity", .float (Number.Binary64.infinity true))
  ]

private def constant? (s : List Char) : Option (Value × List Char) :=
  constants.findSome? fun (word, value) =>
    if word.toList.isPrefixOf s then some (value, s.drop word.length) else none

private def skipGap (s : List Char) : List Char :=
  s.dropWhile isGap

mutual

/-- Reads one value with room for so many open brackets. Every nested value and every further item
costs one unit of `fuel`, so the length of the text is enough. -/
def readValue (room : Nat) : Nat → List Char → Reading Value
  | 0, _ => .error .malformed
  | fuel + 1, s =>
      match s with
      | '[' :: rest =>
          if room = 0 then .error .tooNested
          else
            match skipGap rest with
            | ']' :: rest => .ok (.list [], rest)
            | rest => (readItems (room - 1) fuel rest).map fun (items, rest) => (.list items, rest)
      | '\x7b' :: rest =>
          if room = 0 then .error .tooNested
          else
            match skipGap rest with
            | '\x7d' :: rest => .ok (.map [], rest)
            | rest =>
                (readEntries (room - 1) fuel [] rest).map fun (entries, rest) =>
                  (.map entries, rest)
      | c :: rest =>
          if c = Char.ofNat 34 then
            match textFrom 0 [] rest with
            | some (text, rest) => .ok (.text (String.ofList text), rest)
            | none => .error .malformed
          else
            match constant? s with
            | some found => .ok found
            | none => readNumber s
      | [] => .error .malformed

/-- Reads the items of a list up to its closing bracket. -/
def readItems (room : Nat) : Nat → List Char → Reading (List Value)
  | 0, _ => .error .malformed
  | fuel + 1, s =>
      match readValue room fuel s with
      | .error e => .error e
      | .ok (item, rest) =>
          match skipGap rest with
          | ']' :: rest => .ok ([item], rest)
          | ',' :: rest =>
              (readItems room fuel (skipGap rest)).map fun (items, rest) => (item :: items, rest)
          | _ => .error .malformed

/-- Reads the entries of a map up to its closing brace, adding them to those read before. -/
def readEntries (room : Nat)
    : Nat → List (String × Value) → List Char → Reading (List (String × Value))
  | 0, _, _ => .error .malformed
  | fuel + 1, entries, s =>
      match s with
      | [] => .error .malformed
      | mark :: rest =>
          if mark ≠ Char.ofNat 34 then .error .malformed
          else
            match textFrom 0 [] rest with
            | none => .error .malformed
            | some (key, rest) =>
                match skipGap rest with
                | ':' :: rest =>
                    match readValue room fuel (skipGap rest) with
                    | .error e => .error e
                    | .ok (value, rest) =>
                        let entries := Value.put (String.ofList key) value entries
                        match skipGap rest with
                        | '\x7d' :: rest => .ok (entries, rest)
                        | ',' :: rest => readEntries room fuel entries (skipGap rest)
                        | _ => .error .malformed
                | _ => .error .malformed

end

/-- Reads a text that holds one JSON value and nothing else but blanks around it. -/
def read (room : Nat) (s : List Char) : Except ReadError Value := do
  let (value, rest) ← readValue room (s.length + 2) (skipGap s)
  if (skipGap rest).isEmpty then return value else .error .malformed

end RideQuestions.Json
