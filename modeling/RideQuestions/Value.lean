import RideQuestions.Number.Shortest
import RideQuestions.Text.Quoted

/-! Values whose shape is known only when they arrive: cells of result rows, documents, bound
values and the contents of log records. Maps keep the order of their keys. Not every value has a
form of every other kind.
-/

namespace RideQuestions

open Number

/-- Why a value has no form of another kind. -/
inductive NumberError where
  | floatNaN
  | floatInfinite
  | decimalNaN
  | decimalInfinite
  | wholeTooLarge
  /-- A text has too many digits to be read as a whole number. -/
  | unreadable (digits : Nat)
  /-- A whole number has too many digits to be written. -/
  | unwritable
  /-- Values lie too deep inside one another. -/
  | tooNested
  deriving DecidableEq

namespace NumberError

def message : NumberError → String
  | floatNaN => "cannot convert float NaN to integer"
  | floatInfinite => "cannot convert float infinity to integer"
  | decimalNaN => "cannot convert NaN to integer"
  | decimalInfinite => "cannot convert Infinity to integer"
  | wholeTooLarge => "int too large to convert to float"
  | unreadable digits =>
      s!"Exceeds the limit ({Text.digitLimit} digits) for integer string conversion: value has "
        ++ s!"{digits} digits; use sys.set_int_max_str_digits() to increase the limit"
  | unwritable =>
      s!"Exceeds the limit ({Text.digitLimit} digits) for integer string conversion; use "
        ++ "sys.set_int_max_str_digits() to increase the limit"
  | tooNested => "maximum recursion depth exceeded"

/-- Whether a number was too great, rather than none at all. -/
def isOverflow : NumberError → Bool
  | floatInfinite => true
  | decimalInfinite => true
  | wholeTooLarge => true
  | _ => false

end NumberError

inductive Value where
  | null
  | bool (value : Bool)
  | int (value : Int)
  | float (value : Binary64)
  | decimal (value : Decimal)
  | text (value : String)
  | list (items : List Value)
  | map (entries : List (String × Value))
  deriving Inhabited

/-- A row of a result: column names with their values, in column order. -/
abbrev Row := List (String × Value)

namespace Value

def text? : Value → Option String
  | text value => some value
  | _ => none

/-- The value of the first entry with a given key. -/
def lookup? (key : String) (entries : List (String × Value)) : Option Value :=
  (entries.find? (·.1 = key)).map (·.2)

/-- Replaces the value of a key in its place, or adds the entry at the end. -/
def put {α : Type} (key : String) (value : α) : List (String × α) → List (String × α)
  | [] => [(key, value)]
  | (k, v) :: rest => if k = key then (k, value) :: rest else (k, v) :: put key value rest

mutual

/-- Whether two values are equal in every part, floats bit by bit. -/
def same : Value → Value → Bool
  | null, null => true
  | bool a, bool b => a = b
  | int a, int b => a = b
  | float a, float b => a = b
  | decimal a, decimal b => a = b
  | text a, text b => a = b
  | list a, list b => sameItems a b
  | map a, map b => sameEntries a b
  | _, _ => false

def sameItems : List Value → List Value → Bool
  | [], [] => true
  | a :: as, b :: bs => same a b && sameItems as bs
  | _, _ => false

def sameEntries : List (String × Value) → List (String × Value) → Bool
  | [], [] => true
  | (k, a) :: as, (l, b) :: bs => k = l && same a b && sameEntries as bs
  | _, _ => false

end

instance : BEq Value := ⟨same⟩

mutual

/-- A value as it stands inside a list or a map: texts are quoted. -/
def shown : Value → String
  | null => "None"
  | bool true => "True"
  | bool false => "False"
  | int value => toString value
  | float value => value.toText
  | decimal value => "Decimal('" ++ value.toText ++ "')"
  | text value => Text.quoted value
  | list items => "[" ++ String.intercalate ", " (shownItems items) ++ "]"
  | map entries => "\x7b" ++ String.intercalate ", " (shownEntries entries) ++ "\x7d"

def shownItems : List Value → List String
  | [] => []
  | item :: rest => shown item :: shownItems rest

def shownEntries : List (String × Value) → List String
  | [] => []
  | (key, value) :: rest => (Text.quoted key ++ ": " ++ shown value) :: shownEntries rest

end

/-- A value as text of its own: texts and decimals stand as they are. -/
def display : Value → String
  | text value => value
  | decimal value => value.toText
  | value => shown value

mutual

/-- Whether every whole number in a value can be written. -/
def isWritable : Value → Bool
  | int value => Text.isWritable value
  | list items => areWritable items
  | map entries => haveWritable entries
  | _ => true

def areWritable : List Value → Bool
  | [] => true
  | item :: rest => isWritable item && areWritable rest

def haveWritable : List (String × Value) → Bool
  | [] => true
  | (_, value) :: rest => isWritable value && haveWritable rest

end

mutual

/-- How deep lists and maps lie inside one another. -/
def depth : Value → Nat
  | list items => depthOfItems items + 1
  | map entries => depthOfEntries entries + 1
  | _ => 0

def depthOfItems : List Value → Nat
  | [] => 0
  | item :: rest => max (depth item) (depthOfItems rest)

def depthOfEntries : List (String × Value) → Nat
  | [] => 0
  | (_, value) :: rest => max (depth value) (depthOfEntries rest)

end

/-- How deep lists and maps may usually lie inside one another: somewhat less than the thousand
calls that may be under way at once. -/
def usualRoom : Nat := 900

/-- What keeps a value from being written. -/
def flaw? (room : Nat) (value : Value) : Option NumberError :=
  if room < value.depth then some .tooNested
  else if value.isWritable then none
  else some .unwritable

/-- The text made of a value, where nothing keeps it from being written. -/
def written (text : Value → String) (value : Value) (room : Nat := usualRoom)
    : Except NumberError String :=
  match value.flaw? room with
  | some flaw => .error flaw
  | none => .ok (text value)

end Value

end RideQuestions
