import RideQuestions.Number.Places
import RideQuestions.Text.Case
import RideQuestions.Text.Word
import RideQuestions.Value

/-! Templates with slots for values. A slot begins with `%` and ends with a mark that tells how its
value is written; in between may stand the name of the value, flags, a width and a precision.
Slots without names take the values in their order.
-/

namespace RideQuestions.Logging

open Number

/-- The flags of a slot. -/
structure Flags where
  /-- Fills up behind the value. -/
  left : Bool := false
  /-- Writes the sign of positive numbers. -/
  plus : Bool := false
  /-- Writes a blank for the sign of positive numbers. -/
  blank : Bool := false
  /-- Marks the base of whole numbers and keeps the point of others. -/
  full : Bool := false
  /-- Fills up numbers with zeros. -/
  zeros : Bool := false

/-- A width or a precision. -/
inductive Extent where
  | fixed (size : Nat)
  /-- Taken from the values. -/
  | supplied

structure Slot where
  name : Option String := none
  flags : Flags := {}
  width : Option Extent := none
  precision : Option Extent := none
  /-- The mark and its place; none where the template ends before it. -/
  mark : Option (Char × Nat) := none

inductive Piece where
  | plain (c : Char)
  | slot (slot : Slot)
  /-- A slot whose name does not end. -/
  | openName

/-- Why a template cannot be filled. -/
inductive TemplateError where
  /-- Slots and values differ in number or kind. -/
  | mismatch
  | noMark
  | openName
  | unknownMark (mark : Char) (place : Nat)
  | noValue (name : String)
  | noCharacter
  | number (error : NumberError)

def TemplateError.message : TemplateError → String
  | mismatch => "values do not fit the template"
  | noMark => "incomplete format"
  | openName => "incomplete format key"
  | unknownMark mark place =>
      let shown := if 31 ≤ mark.toNat ∧ mark.toNat < 127 then mark else '?'
      "unsupported format character '" ++ String.ofList [shown] ++ "' (0x"
        ++ String.ofList (digitsIn 16 mark.toNat) ++ ") at index " ++ toString place
  | noValue name => Text.quoted name
  | noCharacter => "%c arg not in range(0x110000)"
  | number error => error.message

/-! ### Reading -/

/-- Reads up to the bracket that closes the `depth + 1`st open one. -/
def readName : Nat → List Char → Option (List Char × List Char)
  | _, [] => none
  | 0, ')' :: rest => some ([], rest)
  | depth + 1, ')' :: rest => (readName depth rest).map fun (name, rest) => (')' :: name, rest)
  | depth, '(' :: rest => (readName (depth + 1) rest).map fun (name, rest) => ('(' :: name, rest)
  | depth, c :: rest => (readName depth rest).map fun (name, rest) => (c :: name, rest)

def readFlags (flags : Flags) : List Char → Flags × List Char
  | '-' :: rest => readFlags { flags with left := true } rest
  | '+' :: rest => readFlags { flags with plus := true } rest
  | ' ' :: rest => readFlags { flags with blank := true } rest
  | '#' :: rest => readFlags { flags with full := true } rest
  | '0' :: rest => readFlags { flags with zeros := true } rest
  | s => (flags, s)

/-- The number that a template begins with; no digits are zero. -/
def readSize (s : List Char) : Nat × List Char :=
  (Text.digitsValue Text.plainDigit? (s.takeWhile Text.isPlainDigit),
    s.dropWhile Text.isPlainDigit)

def readWidth (s : List Char) : Option Extent × List Char :=
  match s with
  | '*' :: rest => (some .supplied, rest)
  | c :: _ =>
      if Text.isPlainDigit c then
        let (size, rest) := readSize s
        (some (.fixed size), rest)
      else (none, s)
  | [] => (none, s)

def readPrecision (s : List Char) : Option Extent × List Char :=
  match s with
  | '.' :: '*' :: rest => (some .supplied, rest)
  | '.' :: rest =>
      let (size, rest) := readSize rest
      (some (.fixed size), rest)
  | _ => (none, s)

/-- Passes over one letter that tells the size of a number. -/
def skipSize : List Char → List Char
  | c :: rest => if c = 'h' || c = 'l' || c = 'L' then rest else c :: rest
  | [] => []

/-- Reads a slot behind its `%`, in a template of a given length. -/
def readSlot (length : Nat) (s : List Char) : Piece × List Char :=
  let after := fun (name : Option String) (s : List Char) =>
    let (flags, s) := readFlags {} s
    let (width, s) := readWidth s
    let (precision, s) := readPrecision s
    match skipSize s with
    | [] => (Piece.slot { name, flags, width, precision }, [])
    | c :: rest =>
        (.slot { name, flags, width, precision, mark := some (c, length - rest.length - 1) }, rest)
  match s with
  | '(' :: rest =>
      match readName 0 rest with
      | some (name, rest) => after (some (String.ofList name)) rest
      | none => (.openName, [])
  | s => after none s

/-- Reads at most `fuel` pieces. Two signs in a row stand for one. -/
def readPieces (length : Nat) : Nat → List Char → List Piece
  | fuel + 1, '%' :: '%' :: rest => .plain '%' :: readPieces length fuel rest
  | fuel + 1, '%' :: rest =>
      let (piece, rest) := readSlot length rest
      piece :: readPieces length fuel rest
  | fuel + 1, c :: rest => .plain c :: readPieces length fuel rest
  | _, _ => []

/-- The pieces of a template, of which each is at least one character long. -/
def pieces (template : String) : List Piece :=
  readPieces template.length template.length template.toList

/-! ### Writing -/

/-- The number part of a text that is to be filled up. -/
structure Numeral where
  negative : Bool
  base : List Char := []
  digits : List Char

/-- Fills a text up with blanks. -/
def fillBlanks (left : Bool) (width : Nat) (text : List Char) : List Char :=
  let blanks := List.replicate (width - text.length) ' '
  if left then text ++ blanks else blanks ++ text

/-- Fills a number up, with zeros behind its sign or with blanks before it. -/
def fillNumeral (flags : Flags) (width : Nat) (n : Numeral) : List Char :=
  let sign :=
    if n.negative then ['-']
    else if flags.plus then ['+']
    else if flags.blank then [' ']
    else []
  let lead := sign ++ n.base
  if flags.zeros && !flags.left then
    lead ++ List.replicate (width - lead.length - n.digits.length) '0' ++ n.digits
  else fillBlanks flags.left width (lead ++ n.digits)

/-- A whole number for a mark that rounds toward zero. -/
def whole : Value → Except TemplateError Int
  | .int n => .ok n
  | .bool b => .ok (if b then 1 else 0)
  | .float x =>
      if x.isNaN then .error (.number .floatNaN)
      else if x.isInfinite then .error (.number .floatInfinite)
      else .ok x.truncate
  | .decimal (.finite negative coefficient exponent) =>
      let (num, den) := Decimal.ratio coefficient exponent
      .ok (signed negative (num / den))
  | .decimal (.infinity _) => .error (.number .decimalInfinite)
  | .decimal .nan => .error (.number .decimalNaN)
  | _ => .error .mismatch

/-- A whole number that is written with decimal digits. -/
def inTens (value : Value) : Except TemplateError Int := do
  let n ← whole value
  if Text.isWritable n then return n else .error (.number .unwritable)

/-- The text made of a value. -/
def asText (room : Nat) (text : Value → String) (value : Value) : Except TemplateError String :=
  (value.written text room).mapError .number

/-- A whole number for a mark that takes no other. -/
def exactly : Value → Except TemplateError Int
  | .int n => .ok n
  | .bool b => .ok (if b then 1 else 0)
  | _ => .error .mismatch

def real : Value → Except TemplateError Binary64
  | .int n =>
      let x := Binary64.ofInt n
      if x.isInfinite then .error (.number .wholeTooLarge) else .ok x
  | .bool b => .ok (Binary64.ofInt (if b then 1 else 0))
  | .float x => .ok x
  | .decimal d => .ok d.toBinary64
  | _ => .error .mismatch

/-- The one character that a value stands for. -/
def character : Value → Except TemplateError Char
  | .text s =>
      match s.toList with
      | [c] => .ok c
      | _ => .error .mismatch
  | value => do
      let n ← exactly value
      if 0 ≤ n ∧ n < 0x110000 then return Char.ofNat n.toNat else .error .noCharacter

/-- A text in which everything outside ASCII is written by its code point. -/
def plainly (s : String) : String :=
  String.ofList (s.toList.flatMap fun c =>
    if c.toNat < 0x80 then [c]
    else if c.toNat < 0x100 then ['\\', 'x'] ++ Text.hexDigits 2 c.toNat
    else if c.toNat < 0x10000 then ['\\', 'u'] ++ Text.hexDigits 4 c.toNat
    else ['\\', 'U'] ++ Text.hexDigits 8 c.toNat)

/-- A double in one of its three forms; `small` is the mark in its small form. -/
def realDigits (small : Char) (flags : Flags) (precision : Nat) (x : Binary64) : List Char :=
  let (num, den) := x.fraction
  if x.isNaN then "nan".toList
  else if x.isInfinite then "inf".toList
  else if small = 'f' then fixedForm precision flags.full num den
  else if small = 'e' then exponentForm precision flags.full num den
  else generalForm precision flags.full num den

/-- How a mark writes a value. -/
def written (room : Nat) (mark : Char) (place : Nat) (flags : Flags) (width : Nat)
    (precision : Option Nat) (value : Value) : Except TemplateError (List Char) :=
  let text := fun (s : String) =>
    let shown := match precision with | some size => s.toList.take size | none => s.toList
    fillBlanks flags.left width shown
  let inBase := fun (base : Nat) (mark : Char) (n : Int) =>
    let digits := digitsIn base n.natAbs
    let zeros := List.replicate (precision.getD 0 - digits.length) '0'
    fillNumeral flags width
      {
        negative := n < 0,
        base := if flags.full && base != 10 then ['0', mark] else [],
        digits := zeros ++ digits
      }
  let inForm := fun (small : Char) (x : Binary64) =>
    fillNumeral flags width
      {
        negative := x.negative && !x.isNaN,
        digits := realDigits small flags (precision.getD 6) x
      }
  let capital := fun (cs : List Char) => cs.map Char.toUpper
  match mark with
  | 's' => (asText room Value.display value).map text
  | 'r' => (asText room Value.shown value).map text
  | 'a' => (asText room Value.shown value).map fun s => text (plainly s)
  | 'c' => (character value).map fun c => fillBlanks flags.left width [c]
  | 'd' => (inTens value).map (inBase 10 'd')
  | 'i' => (inTens value).map (inBase 10 'd')
  | 'u' => (inTens value).map (inBase 10 'd')
  | 'o' => (exactly value).map (inBase 8 'o')
  | 'x' => (exactly value).map (inBase 16 'x')
  | 'X' => (exactly value).map fun n => capital (inBase 16 'x' n)
  | 'f' => (real value).map (inForm 'f')
  | 'F' => (real value).map fun x => capital (inForm 'f' x)
  | 'e' => (real value).map (inForm 'e')
  | 'E' => (real value).map fun x => capital (inForm 'e' x)
  | 'g' => (real value).map (inForm 'g')
  | 'G' => (real value).map fun x => capital (inForm 'g' x)
  | _ => .error (.unknownMark mark place)

/-! ### Filling -/

/-- What a template is filled with. -/
inductive Filling where
  | values (all : List Value)
  | single (value : Value)
  | named (entries : List (String × Value))

/-- The values that are left for slots without names. -/
inductive Supply where
  | values (rest : List Value)
  /-- A value on its own, or the whole of the named ones. -/
  | single (value : Value)
  | spent

def Filling.supply : Filling → Supply
  | values all => .values all
  | single value => .single value
  | named entries => .single (.map entries)

def Supply.next : Supply → Except TemplateError (Value × Supply)
  | values (value :: rest) => .ok (value, .values rest)
  | single value => .ok (value, .spent)
  | _ => .error .mismatch

/-- The supply of a slot, which for a slot with a name is the value of that name. -/
def supplyOf (filling : Filling) (name : Option String) (supply : Supply)
    : Except TemplateError Supply :=
  match name, filling with
  | none, _ => .ok supply
  | some name, .named entries =>
      match Value.lookup? name entries with
      | some value => .ok (.single value)
      | none => .error (.noValue name)
  | some _, _ => .error .mismatch

/-- The size that an extent stands for. -/
def sizeOf (extent : Option Extent) (supply : Supply)
    : Except TemplateError (Option Int × Supply) :=
  match extent with
  | none => .ok (none, supply)
  | some (.fixed size) => .ok (some size, supply)
  | some .supplied => do
      let (value, supply) ← supply.next
      return (some (← exactly value), supply)

/-- Fills a slot. A negative width stands for filling up behind the value. -/
def fillSlot (room : Nat) (filling : Filling) (slot : Slot) (supply : Supply)
    : Except TemplateError (List Char × Supply) := do
  let supply ← supplyOf filling slot.name supply
  let (width, supply) ← sizeOf slot.width supply
  let (precision, supply) ← sizeOf slot.precision supply
  let flags := { slot.flags with left := slot.flags.left || decide (width.getD 0 < 0) }
  match slot.mark with
  | none => .error .noMark
  | some (mark, place) =>
      let (value, supply) ← supply.next
      let precision := precision.map Int.toNat
      let text ← written room mark place flags (width.getD 0).natAbs precision value
      return (text, supply)

def fillPieces (room : Nat) (filling : Filling) : List Piece → Supply
    → Except TemplateError (List Char × Supply)
  | [], supply => .ok ([], supply)
  | .plain c :: rest, supply => do
      let (text, supply) ← fillPieces room filling rest supply
      return (c :: text, supply)
  | .openName :: _, _ => .error .openName
  | .slot slot :: rest, supply => do
      let (first, supply) ← fillSlot room filling slot supply
      let (text, supply) ← fillPieces room filling rest supply
      return (first ++ text, supply)

/-- Whether all values have been used that have to be. -/
def isUsed (filling : Filling) (supply : Supply) : Bool :=
  match filling, supply with
  | .named _, _ => true
  | _, .values rest => rest.isEmpty
  | _, .single _ => false
  | _, .spent => true

/-- Fills a template, using up all values that are not named. -/
def fill (template : String) (filling : Filling) (room : Nat := Value.usualRoom)
    : Except TemplateError String := do
  let (text, supply) ← fillPieces room filling (pieces template) filling.supply
  if isUsed filling supply then return String.ofList text else .error .mismatch

/-! ### Templates of log lines -/

/-- Passes over a row of digits of any script, or over a star. -/
def skipExtent? : List Char → Option (List Char)
  | '*' :: rest => some rest
  | c :: rest => if Text.isDigit c then some (rest.dropWhile Text.isDigit) else none
  | [] => none

/-- Whether a character is a mark, letter case aside. The long s, the dotless small and the dotted
capital i stand for their plain letters. -/
def isMark (c : Char) : Bool :=
  "diouxefgcrsa%".toList.contains (Text.smallLetter c)
    || [0x17f, 0x131, 0x130].contains c.toNat

/-- Whether a text begins with a slot that has a name of letters, digits and underscores. -/
def beginsWithField : List Char → Bool
  | '%' :: '(' :: rest =>
      match rest.dropWhile Text.isWord with
      | ')' :: after =>
          let s := (readFlags {} after).2
          let s := (skipExtent? s).getD s
          let s :=
            match s with
            | '.' :: part => (skipExtent? part).getD s
            | _ => s
          rest.head?.any Text.isWord && s.head?.any isMark
      | _ => false
  | _ => false

/-- Whether a template has a slot with a name anywhere. -/
def hasField : List Char → Bool
  | [] => false
  | c :: rest => beginsWithField (c :: rest) || hasField rest

end RideQuestions.Logging
