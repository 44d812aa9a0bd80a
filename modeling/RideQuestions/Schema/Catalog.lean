import RideQuestions.Json.Writer
import RideQuestions.Schema.Basic

/-! Snapshots read from what a store or a file reports: rows of a column catalog, and listings
that map each table to pairs of column and type.
-/

namespace RideQuestions.Schema

open RideQuestions Number

/-- What a label counts as where tables are told apart. Numbers of any kind are the same when they
are equal, and what is no number is taken for one object. -/
inductive Key where
  | null
  | number (value : Rat)
  | infinity (negative : Bool)
  | nan (isDecimal : Bool)
  | text (value : String)
  deriving DecidableEq

/-- The key of a label; lists and maps have none. -/
def keyOf? : Value → Option Key
  | .null => some .null
  | .bool b => some (.number (if b then 1 else 0))
  | .int n => some (.number n)
  | .float x =>
      if x.isNaN then some (.nan false)
      else if x.isInfinite then some (.infinity x.negative)
      else
        let (num, den) := x.fraction
        some (.number (mkRat (signed x.negative num) den))
  | .decimal (.finite negative coefficient exponent) =>
      let (num, den) := Decimal.ratio coefficient exponent
      some (.number (mkRat (signed negative num) den))
  | .decimal (.infinity negative) => some (.infinity negative)
  | .decimal .nan => some (.nan true)
  | .text s => some (.text s)
  | .list _ => none
  | .map _ => none

inductive CatalogError where
  /-- A row of the catalog lacks a column of it. -/
  | missing (key : String)
  /-- A listing is no map of tables. -/
  | notAMap
  /-- What should be a sequence is none. -/
  | notASequence
  | tooMany
  | tooFew (found : Nat)
  /-- The label of a table is of a kind without keys. -/
  | noKey (kind : String)
  /-- What a row says of nullability has no text. -/
  | unwritten (error : NumberError)

def CatalogError.message : CatalogError → String
  | missing key => Text.quoted key
  | notAMap => "a schema listing maps tables to columns"
  | notASequence => "a table lists pairs of column and type"
  | tooMany => "too many values to unpack (expected 2)"
  | tooFew found => s!"not enough values to unpack (expected 2, got {found})"
  | noKey kind => "unhashable type: " ++ Text.quoted kind
  | unwritten error => error.message

/-- The value of a key that a row has to have. -/
def require (key : String) (row : Row) : Except CatalogError Value :=
  match Value.lookup? key row with
  | some value => .ok value
  | none => .error (.missing key)

/-- A label of a table, which has to have a key. -/
def labelled : Value → Except CatalogError Value
  | .list _ => .error (.noKey "list")
  | .map _ => .error (.noKey "dict")
  | label => .ok label

/-- The column that a row of the catalog describes. It is nullable unless the row says no. -/
def columnOfRow (room : Nat) (row : Row) : Except CatalogError (Column Value) := do
  let table ← labelled (← require "table_name" row)
  let name ← require "column_name" row
  let declaredType ← require "data_type" row
  let nullable := (Value.lookup? "is_nullable" row).getD (.text "YES")
  let nullable ← (nullable.written Value.display room).mapError .unwritten
  return { table, name, declaredType, nullable := Text.plainUpper nullable != "NO" }

/-- The snapshot of the rows of a catalog. -/
def ofRows (rows : List Row) (room : Nat := Value.usualRoom)
    : Except CatalogError (Snapshot Value) := do
  return Snapshot.ofColumns keyOf? (← rows.mapM (columnOfRow room))

/-- The parts of a value that can be gone through: items, characters or keys. -/
def parts? : Value → Option (List Value)
  | .list items => some items
  | .text text => some (text.toList.map fun c => .text (String.singleton c))
  | .map entries => some (entries.map fun (key, _) => .text key)
  | _ => none

/-- Takes a value of exactly two parts apart. -/
def pairOf (value : Value) : Except CatalogError (Value × Value) :=
  match parts? value with
  | none => .error .notASequence
  | some [first, second] => .ok (first, second)
  | some parts => .error (if 2 < parts.length then .tooMany else .tooFew parts.length)

/-- The snapshot of a listing. -/
def ofListing (listing : Value) : Except CatalogError (Snapshot Value) :=
  match listing with
  | .map tables => do
      let tables ← tables.mapM fun (name, columns) => do
        match parts? columns with
        | none => .error .notASequence
        | some parts => return (Value.text name, ← parts.mapM pairOf)
      return Snapshot.ofListing tables
  | _ => .error .notAMap

/-- A label as text: a text itself, any other value by its JSON text. -/
def labelText : Value → String
  | .text text => text
  | value => Json.write value

private def isText (value : Value) : Bool :=
  value.text?.isSome

/-- The schema of a snapshot whose labels may be any values. -/
def ofSnapshot (s : Snapshot Value) : Schema :=
  s.map labelText

/-- Whether some column has a name that is no text. -/
def hasNamelessColumn (s : Snapshot Value) : Bool :=
  s.columns.any fun c => !isText c.name

/-- Table, column and type text of the columns whose type is no text. -/
def untypedColumns (s : Snapshot Value) : List (String × String × String) :=
  (s.columns.filter fun c => !isText c.declaredType).map fun c =>
    (labelText c.table, labelText c.name, labelText c.declaredType)

end RideQuestions.Schema
