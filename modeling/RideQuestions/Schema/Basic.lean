import RideQuestions.Text.Case
import RideQuestions.Text.Search

/-! Tables and columns of the ride store, in the order in which they were reported. Labels are
texts in a usable schema; a schema that is only being read may hold labels of another type.
-/

namespace RideQuestions

/-- One column; within a schema it is known by its table and its name. -/
structure Column (α : Type) where
  table : α
  name : α
  declaredType : α
  nullable : Bool := true

structure Table (α : Type) where
  name : α
  columns : List (Column α)

/-- The tables of a store with their columns. -/
structure Snapshot (α : Type) where
  tables : List (Table α) := []

/-- A snapshot whose labels are texts. -/
abbrev Schema := Snapshot String

namespace Snapshot

variable {α β κ : Type}

/-- Holds when no table has a column. -/
def isEmpty (s : Snapshot α) : Bool :=
  s.tables.all (·.columns.isEmpty)

def tableNames (s : Snapshot α) : List α :=
  s.tables.map Table.name

/-- All columns, table by table. -/
def columns (s : Snapshot α) : List (Column α) :=
  s.tables.flatMap Table.columns

/-- Changes every label and nothing else. -/
def map (f : α → β) (s : Snapshot α) : Snapshot β :=
  {
    tables := s.tables.map fun table =>
      {
        name := f table.name,
        columns := table.columns.map fun c =>
          ⟨f c.table, f c.name, f c.declaredType, c.nullable⟩
      }
  }

/-- Adds a column at the end of its table, or a new table at the end. Labels are told apart by their
keys, and a table is called by the first of its labels. -/
def insertColumn [DecidableEq κ] (key : α → κ) (tables : List (Table α)) (c : Column α)
    : List (Table α) :=
  match tables with
  | [] => [⟨c.table, [c]⟩]
  | table :: rest =>
      if key table.name = key c.table then { table with columns := table.columns ++ [c] } :: rest
      else table :: insertColumn key rest c

/-- Groups columns by table: tables by first appearance, columns in the order given. -/
def ofColumns [DecidableEq κ] (key : α → κ) (columns : List (Column α)) : Snapshot α :=
  { tables := columns.foldl (insertColumn key) [] }

/-- The snapshot of a listing of tables, each with the names and types of its columns. -/
def ofListing (tables : List (α × List (α × α))) : Snapshot α :=
  {
    tables := tables.map fun (name, columns) =>
      ⟨name, columns.map fun (column, type) => ⟨name, column, type, true⟩⟩
  }

end Snapshot

namespace Schema

def numericTypeMarkers : List String :=
  ["integer", "smallint", "bigint", "decimal", "numeric", "real", "double", "float"]

def temporalTypeMarkers : List String :=
  ["timestamp", "date", "time", "interval"]

/-- Whether a declared type names numbers. -/
def isNumericType (declaredType : String) : Bool :=
  numericTypeMarkers.any (Text.holds (Text.lower declaredType))

/-- Whether a declared type names points or lengths of time. -/
def isTemporalType (declaredType : String) : Bool :=
  temporalTypeMarkers.any (Text.holds (Text.lower declaredType))

end Schema

end RideQuestions
