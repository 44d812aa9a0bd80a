import RideQuestions.Json.Reader

/-! JSON documents as bytes. The encoding is told from a byte order mark or from the places of
zero bytes among the first four, and bytes that are no text of it make the document unreadable.
-/

namespace RideQuestions.Json

open RideQuestions

inductive ByteOrder where
  | big
  | little

inductive Encoding where
  | utf8
  | utf16 (order : ByteOrder)
  | utf32 (order : ByteOrder)

/-- The encoding of a document and its bytes behind the byte order mark, if there is one. -/
def Encoding.detect (bytes : List UInt8) : Encoding × List UInt8 :=
  match bytes with
  | 0 :: 0 :: 0xfe :: 0xff :: rest => (.utf32 .big, rest)
  | 0xff :: 0xfe :: 0 :: 0 :: rest => (.utf32 .little, rest)
  | 0xfe :: 0xff :: rest => (.utf16 .big, rest)
  | 0xff :: 0xfe :: rest => (.utf16 .little, rest)
  | 0xef :: 0xbb :: 0xbf :: rest => (.utf8, rest)
  | a :: b :: c :: d :: _ =>
      if a = 0 then (if b = 0 then .utf32 .big else .utf16 .big, bytes)
      else if b = 0 then (if c = 0 ∧ d = 0 then .utf32 .little else .utf16 .little, bytes)
      else (.utf8, bytes)
  | [a, b] =>
      if a = 0 then (.utf16 .big, bytes)
      else if b = 0 then (.utf16 .little, bytes)
      else (.utf8, bytes)
  | _ => (.utf8, bytes)

private def charOf (code : Nat) : Option Char :=
  if 0x10ffff < code then none
  else if 0xd800 ≤ code ∧ code < 0xe000 then some (Char.ofNat 0xfffd)
  else some (Char.ofNat code)

private def continuation? (b : UInt8) : Option Nat :=
  if b.toNat / 64 = 2 then some (b.toNat % 64) else none

/-- UTF-8 without overlong forms. -/
private def ofUtf8 : List UInt8 → Option (List Char)
  | [] => some []
  | a :: rest =>
      if a < 0x80 then do
        let c ← charOf a.toNat
        return c :: (← ofUtf8 rest)
      else if a.toNat / 32 = 6 then
        match rest with
        | b :: rest => do
            let code := a.toNat % 32 * 64 + (← continuation? b)
            if code < 0x80 then none
            let c ← charOf code
            return c :: (← ofUtf8 rest)
        | _ => none
      else if a.toNat / 16 = 14 then
        match rest with
        | b :: c :: rest => do
            let code := (a.toNat % 16 * 64 + (← continuation? b)) * 64 + (← continuation? c)
            if code < 0x800 then none
            let c ← charOf code
            return c :: (← ofUtf8 rest)
        | _ => none
      else if a.toNat / 8 = 30 then
        match rest with
        | b :: c :: d :: rest => do
            let code :=
              ((a.toNat % 8 * 64 + (← continuation? b)) * 64 + (← continuation? c)) * 64
                + (← continuation? d)
            if code < 0x10000 then none
            let c ← charOf code
            return c :: (← ofUtf8 rest)
        | _ => none
      else none

private def unitOf (order : ByteOrder) (a b : UInt8) : Nat :=
  match order with
  | .big => a.toNat * 256 + b.toNat
  | .little => b.toNat * 256 + a.toNat

private def units16 (order : ByteOrder) : List UInt8 → Option (List Nat)
  | [] => some []
  | a :: b :: rest => (units16 order rest).map (unitOf order a b :: ·)
  | [_] => none

/-- Characters of UTF-16 units; a half pair reads as the replacement character. -/
private def ofUnits : List Nat → List Char
  | [] => []
  | [unit] => [if 0xd800 ≤ unit ∧ unit < 0xe000 then Char.ofNat 0xfffd else Char.ofNat unit]
  | high :: low :: rest =>
      if 0xd800 ≤ high ∧ high < 0xdc00 ∧ 0xdc00 ≤ low ∧ low < 0xe000 then
        Char.ofNat (0x10000 + (high - 0xd800) * 0x400 + (low - 0xdc00)) :: ofUnits rest
      else if 0xd800 ≤ high ∧ high < 0xe000 then
        Char.ofNat 0xfffd :: ofUnits (low :: rest)
      else Char.ofNat high :: ofUnits (low :: rest)

private def ofUtf32 (order : ByteOrder) : List UInt8 → Option (List Char)
  | [] => some []
  | a :: b :: c :: d :: rest => do
      let code :=
        match order with
        | .big => unitOf .big a b * 65536 + unitOf .big c d
        | .little => unitOf .little c d * 65536 + unitOf .little a b
      let c ← charOf code
      return c :: (← ofUtf32 order rest)
  | _ => none

def Encoding.decode (bytes : List UInt8) : Encoding → Option (List Char)
  | .utf8 => ofUtf8 bytes
  | .utf16 order => (units16 order bytes).map ofUnits
  | .utf32 order => ofUtf32 order bytes

/-- Reads a document given as bytes. -/
def readBytes (room : Nat) (bytes : List UInt8) : Except ReadError Value :=
  let (encoding, bytes) := Encoding.detect bytes
  match encoding.decode bytes with
  | some s => read room s
  | none => .error .malformed

/-- Reads a document given as text; a byte order mark left in it makes it unreadable. -/
def readText (room : Nat) (s : String) : Except ReadError Value :=
  read room s.toList

/-- The value of a document given as text, where there is the usual room. -/
def readText? (s : String) : Option Value :=
  (readText Value.usualRoom s).toOption

end RideQuestions.Json
