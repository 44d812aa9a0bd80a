import RideQuestions.Config.Environment
import RideQuestions.Text.Search

/-! Variables written in a file, one `NAME=value` a line. Values may stand in quotes and refer to
other variables, `#` begins a comment, and a line that cannot be read is passed over.
-/

namespace RideQuestions.Config.VariableFile

open RideQuestions.Text

private def isLineEnd (c : Char) : Bool :=
  c = '\r' || c = '\n'

/-- A variable by name, with its value unless it is only named. -/
abbrev Entry := String × Option String

/-- A blank within a line. -/
private def isGap (c : Char) : Bool :=
  isBlank c && !isLineEnd c

private def skipGap (s : List Char) : List Char :=
  s.dropWhile isGap

private def skipLine (s : List Char) : List Char :=
  s.dropWhile fun c => !isLineEnd c

/-- Drops the word that marks a variable for other programs. -/
private def skipExport (s : List Char) : List Char :=
  match afterPrefix? "export".toList s with
  | some (c :: rest) => if isGap c then skipGap rest else s
  | _ => s

/-- The text up to a closing mark: the first mark without a backslash before it, or else the last
one. `escaped` tells whether a backslash precedes. -/
private def quoted? (mark : Char) (escaped : Bool) : List Char → Option (List Char × List Char)
  | [] => none
  | c :: rest =>
      if c = mark && !escaped then some ([], rest)
      else
        match quoted? mark (c = '\\') rest with
        | some (text, after) => some (c :: text, after)
        | none => if c = mark then some ([], rest) else none

private def escape? (c : Char) : Option Char :=
  if c = '\\' ∨ c = Char.ofNat 39 ∨ c = Char.ofNat 34 then some c
  else if c = 'a' then some (Char.ofNat 7)
  else if c = 'b' then some (Char.ofNat 8)
  else if c = 'f' then some (Char.ofNat 12)
  else if c = 'n' then some '\n'
  else if c = 'r' then some '\r'
  else if c = 't' then some '\t'
  else if c = 'v' then some (Char.ofNat 11)
  else none

/-- Replaces backslashes with the character behind them by what `meaning` says. -/
private def unescaped (meaning : Char → Option Char) : List Char → List Char
  | '\\' :: c :: rest =>
      match meaning c with
      | some plain => plain :: unescaped meaning rest
      | none => '\\' :: c :: unescaped meaning rest
  | c :: rest => c :: unescaped meaning rest
  | [] => []

/-- A value without quotes ends at its line or at a comment with a blank before it. -/
private def beforeComment : List Char → List Char
  | [] => []
  | c :: rest =>
      if isBlank c && (rest.dropWhile isBlank).head? = some '#' then []
      else c :: beforeComment rest

private def value? (s : List Char) : Option (List Char × List Char) :=
  match s with
  | [] => some ([], [])
  | c :: rest =>
      if c = Char.ofNat 39 then
        (quoted? c false rest).map fun (text, rest) =>
          (unescaped (fun d => if d = '\\' ∨ d = c then some d else none) text, rest)
      else if c = Char.ofNat 34 then
        (quoted? c false rest).map fun (text, rest) => (unescaped escape? text, rest)
      else
        let line := s.takeWhile fun c => !isLineEnd c
        some (dropEndWhile isBlank (beforeComment line), skipLine s)

private def key? (s : List Char) : Option (List Char × List Char) :=
  match s with
  | [] => none
  | c :: rest =>
      if c = Char.ofNat 39 then
        match rest.span (· ≠ c) with
        | (name, _ :: rest) => if name.isEmpty then none else some (name, rest)
        | _ => none
      else
        match s.span fun c => c ≠ '=' && c ≠ '#' && !isBlank c with
        | ([], _) => none
        | found => some found

/-- What is left of a line behind a variable: nothing but a comment. -/
private def lineRest? (s : List Char) : Option (Unit × List Char) :=
  let s := skipGap s
  let s := if s.head? = some '#' then skipLine s else s
  match s with
  | [] => some ((), [])
  | c :: _ => if isLineEnd c then some ((), s) else none

/-- Reads a part of a variable, or breaks off in front of it. -/
private def part {α : Type} (read? : List Char → Option (α × List Char)) (s : List Char)
    : Except (List Char) (α × List Char) :=
  match read? s with
  | some found => .ok found
  | none => .error s

/-- Reads a variable that is given a value; one that is only named has none. What cannot be read
is left from the part on that breaks it off. -/
private def binding (s : List Char) : Except (List Char) (Entry × List Char) := do
  let (name, s) ← part key? (skipExport s)
  match skipGap s with
  | '=' :: s => do
      let (value, s) ← part value? (skipGap s)
      let (_, s) ← part lineRest? s
      return ((String.ofList name, some (String.ofList value)), s)
  | s => do
      let (_, s) ← part lineRest? s
      return ((String.ofList name, none), s)

/-- The entries of a text; every line costs one unit of `fuel`. -/
def entriesFrom : Nat → List Char → List Entry
  | 0, _ => []
  | fuel + 1, s =>
      match s.dropWhile isBlank with
      | [] => []
      | c :: rest =>
          if c = '#' then entriesFrom fuel (skipLine rest)
          else
            match binding (c :: rest) with
            | .ok (entry, rest) => entry :: entriesFrom fuel rest
            | .error rest => entriesFrom fuel (skipLine rest)

/-- The name in a reference to a variable at the beginning of a text, what stands for a variable
that is not there, and the length of the reference. -/
private def reference? (s : List Char) : Option (List Char × List Char × Nat) :=
  match s with
  | '$' :: '\x7b' :: rest =>
      let (name, rest) := rest.span fun c => c ≠ '\x7d' && c ≠ ':'
      match rest with
      | '\x7d' :: _ => some (name, [], name.length + 3)
      | ':' :: '-' :: rest =>
          match rest.span (· ≠ '\x7d') with
          | (other, _ :: _) => some (name, other, name.length + other.length + 5)
          | _ => none
      | _ => none
  | _ => none

/-- Replaces the references to variables in a value; `skip` counts the characters of a reference
still to be passed over. -/
def expand (known : List Entry) : Nat → List Char → List Char
  | _, [] => []
  | skip + 1, _ :: rest => expand known skip rest
  | 0, c :: rest =>
      match reference? (c :: rest) with
      | none => c :: expand known 0 rest
      | some (name, other, length) =>
          let text :=
            match known.lookup (String.ofList name) with
            | some value? => (value?.getD "").toList
            | none => other
          text ++ expand known (length - 1) rest

/-- Expands the value of an entry by the entries before it, which win over the variables of the
process, and puts it behind them. -/
def resolveEntry (process : Variables) (found : List Entry) (entry : Entry) : List Entry :=
  let known := found ++ process.map fun (name, text) => (name, some text)
  let value? := entry.2.map fun text => String.ofList (expand known 0 text.toList)
  Value.put entry.1 value? found

/-- The variables written in a file, in the order of their lines, as far as they have values. -/
def read (process : Variables) (text : String) : Variables :=
  let entries := (entriesFrom (text.length + 1) text.toList).foldl (resolveEntry process) []
  entries.filterMap fun (name, value?) => value?.map (name, ·)

end RideQuestions.Config.VariableFile
