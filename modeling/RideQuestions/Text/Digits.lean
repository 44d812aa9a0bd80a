import RideQuestions.Text.Blank

/-! Decimal digits of every script, and whole numbers written with them.
-/

namespace RideQuestions.Text

/-- The zero of each decimal digit row; the nine digits behind it follow in order. -/
def digitZeros : List Nat :=
  [48, 1632, 1776, 1984, 2406, 2534, 2662, 2790, 2918, 3046, 3174, 3302, 3430, 3558, 3664, 3792,
   3872, 4160, 4240, 6112, 6160, 6470, 6608, 6784, 6800, 6992, 7088, 7232, 7248, 42528, 43216,
   43264, 43472, 43504, 43600, 44016, 65296, 66720, 68912, 69734, 69872, 69942, 70096, 70384,
   70736, 70864, 71248, 71360, 71472, 71904, 72016, 72784, 73040, 73120, 92768, 92864, 93008,
   120782, 120792, 120802, 120812, 120822, 123200, 123632, 125264, 130032]

private def digitFrom : List Nat → Nat → Option Nat
  | [], _ => none
  | base :: rest, code =>
      if code < base then none
      else if code < base + 10 then some (code - base)
      else digitFrom rest code

/-- The value of a decimal digit of any script. -/
def digit? (c : Char) : Option Nat :=
  digitFrom digitZeros c.toNat

private theorem exists_base_of_digitFrom {zeros : List Nat} {code value : Nat}
    (h : digitFrom zeros code = some value)
    : ∃ base ∈ zeros, value < 10 ∧ code = base + value := by
  induction zeros with
  | nil => simp [digitFrom] at h
  | cons base rest ih =>
      rw [digitFrom] at h
      split at h
      · exact absurd h (by simp)
      · split at h
        · obtain rfl := Option.some.inj h
          exact ⟨base, List.mem_cons_self, by omega, by omega⟩
        · obtain ⟨found, member, inside⟩ := ih h
          exact ⟨found, List.mem_cons_of_mem _ member, inside⟩

/-- A digit stands in the row of some zero, row by row. -/
theorem exists_base_of_digit? {c : Char} {value : Nat} (h : digit? c = some value)
    : ∃ base ∈ digitZeros, value < 10 ∧ c.toNat = base + value :=
  exists_base_of_digitFrom h

/-- The value of a digit is below ten. -/
theorem digit?_lt {c : Char} {value : Nat} (h : digit? c = some value)
    : value < 10 := by
  obtain ⟨_, _, small, _⟩ := exists_base_of_digit? h
  exact small

def isDigit (c : Char) : Bool :=
  (digit? c).isSome

/-- The value of a digit 0 to 9 of the basic row. -/
def plainDigit? (c : Char) : Option Nat :=
  if 48 ≤ c.toNat ∧ c.toNat ≤ 57 then some (c.toNat - 48) else none

def isPlainDigit (c : Char) : Bool :=
  (plainDigit? c).isSome

/-- The number written by a row of digits; characters that are no digits count as zero. -/
def digitsValue (digit : Char → Option Nat) (s : List Char) : Nat :=
  s.foldl (fun value c => value * 10 + (digit c).getD 0) 0

/-- Takes the single underscores out of a row of digits: each must stand between two digits.
`afterDigit` tells whether a digit precedes. -/
def digitsWithUnderscores (isDigit : Char → Bool) : Bool → List Char → Option (List Char)
  | afterDigit, [] => if afterDigit then some [] else none
  | afterDigit, c :: rest =>
      if isDigit c then
        (digitsWithUnderscores isDigit true rest).map (c :: ·)
      else if c = '_' ∧ afterDigit then
        digitsWithUnderscores isDigit false rest
      else none

/-- Splits a sign off a number; true stands for minus. -/
def splitSign : List Char → Bool × List Char
  | '-' :: rest => (true, rest)
  | '+' :: rest => (false, rest)
  | s => (false, s)

/-- The most digits that a whole number is read from, or written with. -/
def digitLimit : Nat := 4300

/-- Reads a whole number: blanks around it, a sign, and underscores between digits are allowed,
and the digits may be of any script. Too many of them are not read. -/
def readInt? (s : String) : Option Int :=
  let (negative, digits) := splitSign (trimWhile isBlank s.toList)
  match digitsWithUnderscores isDigit false digits with
  | none => none
  | some ds =>
      if digitLimit < ds.length then none
      else
        let value := Int.ofNat (digitsValue digit? ds)
        some (if negative then -value else value)

/-- Whether a whole number has no more digits than can be written. -/
def isWritable (n : Int) : Bool :=
  (Nat.toDigits 10 n.natAbs).length ≤ digitLimit

/-- The decimal digits of a number, padded with zeros to a width. -/
def padded (width value : Nat) : String :=
  let digits := toString value
  String.ofList (List.replicate (width - digits.length) '0') ++ digits

end RideQuestions.Text
