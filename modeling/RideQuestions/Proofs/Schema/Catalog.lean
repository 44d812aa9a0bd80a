import RideQuestions.Proofs.Outcome
import RideQuestions.Proofs.Repeats
import RideQuestions.Proofs.Schema.Grouping
import RideQuestions.Proofs.Value.Writing
import RideQuestions.Schema.Catalog
import Mathlib.Data.List.Nodup

/-! Snapshots of the rows of a catalog. Nothing of the rows is lost: each gives a column with what
it says, and the columns are grouped by table. Rows listed from the snapshot of a listing give
that snapshot back, but for tables without columns.
-/

namespace RideQuestions.Schema

open Snapshot

-----------------------------------------------------------------------------------------
-- Rows
-----------------------------------------------------------------------------------------

/-- The keys that every row of the catalog must have. -/
def rowKeys : List String := ["table_name", "column_name", "data_type"]

/-- Holds of a row that can be read: it has every key, the label of its table can be told from
others, and what it says of nullability has a text. -/
structure Readable (room : Nat) (row : Row) : Prop where
  complete : ∀ key ∈ rowKeys, (Value.lookup? key row).isSome = true
  labelled : ∀ label, Value.lookup? "table_name" row = some label → (keyOf? label).isSome = true
  written : ∀ answer, Value.lookup? "is_nullable" row = some answer → answer.Writable room

/-- Holds of a column that is as a row of the catalog says: it is nullable unless the row says no,
letter case aside. -/
structure Tells (row : Row) (c : Column Value) : Prop where
  table : Value.lookup? "table_name" row = some c.table
  name : Value.lookup? "column_name" row = some c.name
  declaredType : Value.lookup? "data_type" row = some c.declaredType
  nullable
    : c.nullable = false
      ↔ ∃ answer, Value.lookup? "is_nullable" row = some answer
          ∧ Text.plainUpper answer.display = "NO"

variable {room : Nat} {row : Row} {c : Column Value}

/-- A row with every key can be read where the label of its table is a text and so is what it says
of nullability, if anything. -/
theorem readable_of_texts {label : String}
    (complete : ∀ key ∈ rowKeys, (Value.lookup? key row).isSome = true)
    (table : Value.lookup? "table_name" row = some (.text label))
    (nullable : ∀ answer, Value.lookup? "is_nullable" row = some answer →
      ∃ said, answer = .text said)
    : Readable room row where
  complete := complete
  labelled other found := by
    obtain rfl := Option.some.inj (table.symm.trans found)
    rfl
  written answer found := by
    obtain ⟨said, rfl⟩ := nullable answer found
    exact ⟨Nat.zero_le room, rfl⟩

theorem require_eq_ok_iff {key : String} {value : Value}
    : require key row = .ok value ↔ Value.lookup? key row = some value := by
  rw [require]
  cases Value.lookup? key row <;> simp

/-- A label that is told from others is any but a list and a map. -/
theorem labelled_eq_ok_iff {label other : Value}
    : labelled label = .ok other ↔ (keyOf? label).isSome = true ∧ label = other := by
  cases label with
  | float x =>
      rw [labelled, keyOf?]
      · split_ifs <;> simp
      all_goals simp
  | decimal d => cases d <;> simp [labelled, keyOf?]
  | _ => simp [labelled, keyOf?]

/-- What a row says of nullability, if it says anything. -/
theorem says_no_iff (said : Option Value)
    : (Text.plainUpper (said.getD (.text "YES")).display != "NO") = false
      ↔ ∃ answer, said = some answer ∧ Text.plainUpper answer.display = "NO" := by
  cases said with
  | none =>
      have yes : Text.plainUpper (Value.text "YES").display = "YES" := by decide
      simp [yes]
  | some answer => simp

/-- A row says nothing of nullability that has no text, or says nothing at all. -/
theorem writable_said_iff {said : Option Value}
    : (said.getD (.text "YES")).Writable room
      ↔ ∀ answer, said = some answer → answer.Writable room := by
  cases said with
  | none => simpa using ⟨Nat.zero_le room, rfl⟩
  | some answer => simp

/-- A row gives a column exactly when it can be read, and the column is as it says. -/
theorem columnOfRow_eq_ok_iff
    : columnOfRow room row = .ok c ↔ Readable room row ∧ Tells row c := by
  simp only [columnOfRow, bind_eq_ok_iff, require_eq_ok_iff, labelled_eq_ok_iff,
    mapError_eq_ok_iff, Value.written_eq_ok_iff, writable_said_iff]
  constructor
  · rintro ⟨table, ht, _, ⟨keyed, rfl⟩, name, hn, declaredType, hd, _, ⟨written, rfl⟩, same⟩
    obtain rfl := Except.ok.inj same
    refine ⟨{ complete := ?_, labelled := ?_, written }, ⟨ht, hn, hd, says_no_iff _⟩⟩
    · simp [rowKeys, ht, hn, hd]
    · intro label found
      obtain rfl := Option.some.inj (ht.symm.trans found)
      exact keyed
  · rintro ⟨readable, told⟩
    refine ⟨c.table, told.table, _, ⟨readable.labelled _ told.table, rfl⟩, c.name, told.name,
      c.declaredType, told.declaredType, _, ⟨readable.written, rfl⟩, ?_⟩
    have nullable := (says_no_iff (Value.lookup? "is_nullable" row)).trans told.nullable.symm
    exact congrArg (fun nullable => Except.ok (Column.mk c.table c.name c.declaredType nullable))
      (Bool.eq_iff_iff.mpr (not_iff_not.mp (by simpa using nullable)))

theorem Readable.exists_tells (readable : Readable room row)
    : ∃ c, columnOfRow room row = .ok c ∧ Tells row c := by
  have complete := readable.complete
  simp only [rowKeys, List.forall_mem_cons, Option.isSome_iff_exists] at complete
  obtain ⟨⟨table, ht⟩, ⟨name, hn⟩, ⟨declaredType, hd⟩, _⟩ := complete
  have told : Tells row ⟨table, name, declaredType, _⟩ :=
    { table := ht, name := hn, declaredType := hd, nullable := says_no_iff _ }
  exact ⟨_, columnOfRow_eq_ok_iff.mpr ⟨readable, told⟩, told⟩

/-- Rows give columns exactly when each can be read, and the columns are as they say. -/
theorem mapM_columnOfRow_eq_ok_iff {rows : List Row} {columns : List (Column Value)}
    : rows.mapM (columnOfRow room) = .ok columns
      ↔ (∀ row ∈ rows, Readable room row) ∧ List.Forall₂ Tells rows columns := by
  simp only [mapM_eq_ok_iff, columnOfRow_eq_ok_iff]
  exact List.forall₂_and_left rows columns

/-- Rows give a snapshot exactly when they give columns, which are grouped in it. -/
theorem ofRows_eq_ok_iff {rows : List Row} {s : Snapshot Value}
    : ofRows rows room = .ok s
      ↔ ∃ columns, ((∀ row ∈ rows, Readable room row) ∧ List.Forall₂ Tells rows columns)
        ∧ ofColumns keyOf? columns = s := by
  rw [ofRows, bind_eq_ok_iff]
  simp only [mapM_columnOfRow_eq_ok_iff]
  exact exists_congr fun columns => and_congr_right fun _ => ⟨Except.ok.inj, congrArg Except.ok⟩

/-- The row of the catalog that tells of a column. -/
def rowOf (c : Column Value) : Row :=
  [("table_name", c.table), ("column_name", c.name), ("data_type", c.declaredType),
    ("is_nullable", .text (if c.nullable then "YES" else "NO"))]

theorem tells_rowOf (c : Column Value)
    : Tells (rowOf c) c where
  table := rfl
  name := rfl
  declaredType := rfl
  nullable := by
    have yes : Text.plainUpper "YES" ≠ "NO" := by decide
    have no : Text.plainUpper "NO" = "NO" := by decide
    cases nullable : c.nullable <;> simp [rowOf, Value.lookup?, nullable, Value.display, yes, no]

theorem readable_rowOf (keyed : (keyOf? c.table).isSome = true)
    : Readable room (rowOf c) where
  complete := by simp [rowKeys, rowOf, Value.lookup?]
  labelled label found := by
    obtain rfl := Option.some.inj ((tells_rowOf c).table.symm.trans found)
    exact keyed
  written answer found := by
    obtain rfl : Value.text (if c.nullable then "YES" else "NO") = answer := by
      simpa [rowOf, Value.lookup?] using found
    exact ⟨Nat.zero_le room, rfl⟩

/-- The rows of columns whose tables can be told apart are read as these columns. -/
theorem ofRows_map_rowOf {columns : List (Column Value)}
    (keyed : ∀ c ∈ columns, (keyOf? c.table).isSome = true)
    : ofRows (columns.map rowOf) room = .ok (ofColumns keyOf? columns) := by
  refine ofRows_eq_ok_iff.mpr ⟨columns, ⟨?_, ?_⟩, rfl⟩
  · exact List.forall_mem_map.mpr fun c member => readable_rowOf (keyed c member)
  · rw [List.forall₂_map_left_iff, List.forall₂_same]
    exact fun c _ => tells_rowOf c

-----------------------------------------------------------------------------------------
-- Listings
-----------------------------------------------------------------------------------------

/-- A listing of tables as a value: a map from each name to the pairs of column and type. -/
def listingOf (tables : List (String × List (Value × Value))) : Value :=
  .map (tables.map fun (name, pairs) => (name, .list (pairs.map fun (c, type) => .list [c, type])))

/-- A table as a listing has it: its name, with its columns and their types. -/
def listed (table : Table Value) : Value × List (Value × Value) :=
  (table.name, table.columns.map fun c => (c.name, c.declaredType))

/-- A listing of pairs is read as the snapshot of its tables. -/
theorem ofListing_listingOf (tables : List (String × List (Value × Value)))
    : ofListing (listingOf tables)
      = .ok (Snapshot.ofListing (tables.map fun (name, pairs) => (Value.text name, pairs))) := by
  have pairs (pairs : List (Value × Value))
      : (pairs.map fun (c, type) => Value.list [c, type]).mapM pairOf = .ok pairs := by
    rw [mapM_eq_ok_iff, List.forall₂_map_left_iff, List.forall₂_same]
    exact fun _ _ => rfl
  rw [listingOf, ofListing]
  refine bind_eq_ok_iff.mpr ⟨_, mapM_eq_ok_iff.mpr ?_, rfl⟩
  rw [List.forall₂_map_left_iff, List.forall₂_map_right_iff, List.forall₂_same]
  intro table _
  exact bind_eq_ok_iff.mpr ⟨table.2, pairs table.2, rfl⟩

variable {tables : List (Value × List (Value × Value))}

/-- The snapshot of a listing has the tables of the listing, each with its columns. -/
theorem map_listed_ofListing
    : (Snapshot.ofListing tables).tables.map listed = tables := by
  rw [Snapshot.ofListing, List.map_map]
  refine (List.map_congr_left fun table _ => ?_).trans (List.map_id tables)
  simp [listed, Function.comp_def]

theorem tableNames_ofListing
    : (Snapshot.ofListing tables).tableNames = tables.map Prod.fst := by
  rw [Snapshot.ofListing, tableNames, List.map_map]
  rfl

/-- Every column of a listing has the name of its table. -/
theorem table_of_mem_ofListing {table : Table Value}
    (member : table ∈ (Snapshot.ofListing tables).tables)
    : ∀ c ∈ table.columns, c.table = table.name := by
  obtain ⟨entry, _, rfl⟩ := List.mem_map.mp member
  intro c listed
  obtain ⟨pair, _, rfl⟩ := List.mem_map.mp listed
  rfl

/-- Where the names of a listing are texts, its columns belong to tables that are called by texts.
-/
theorem table_of_mem_columns {tables : List (String × List (Value × Value))} {c : Column Value}
    (member : c ∈ (Snapshot.ofListing (tables.map fun (name, pairs) =>
      (Value.text name, pairs))).columns)
    : ∃ name, c.table = .text name := by
  obtain ⟨table, stands, listed⟩ := List.mem_flatMap.mp member
  obtain ⟨_, entry, rfl⟩ := List.mem_map.mp stands
  obtain ⟨⟨name, _⟩, _, rfl⟩ := List.mem_map.mp entry
  obtain ⟨_, _, rfl⟩ := List.mem_map.mp listed
  exact ⟨name, rfl⟩

-----------------------------------------------------------------------------------------
-- Nothing is lost
-----------------------------------------------------------------------------------------

/-- Building a snapshot from the rows of a catalog loses and reorders nothing. Rows give one
exactly when each can be read. Its tables have distinct names, by the places where these stand
first, and each table has the columns that its own rows tell of, in the order of the rows; labels
that count as one name one table, which is called by the first of them. When the rows of each table
stand together, all columns come in the order of the rows. And for every listing of tables under
distinct names, the rows of its columns give its snapshot back, without the tables that have no
columns. -/
theorem catalog_kept (room : Nat)
    : (∀ rows : List Row, (∃ s, ofRows rows room = .ok s) ↔ ∀ row ∈ rows, Readable room row)
      ∧ (∀ (rows : List Row) (s : Snapshot Value), ofRows rows room = .ok s → ∃ columns,
          List.Forall₂ Tells rows columns
          ∧ (s.tableNames.map keyOf?).Nodup
          ∧ s.tableNames.map keyOf? = (columns.map (tableKey keyOf?)).eraseDups
          ∧ (∀ table ∈ s.tables, table.columns = columns.filter (belongs keyOf? table.name)
            ∧ table.columns.head?.map Column.table = some table.name)
          ∧ (Contiguous (columns.map (tableKey keyOf?)) → s.columns = columns))
      ∧ ∀ tables : List (String × List (Value × Value)), (tables.map Prod.fst).Nodup →
        ∃ s, ofListing (listingOf tables) = .ok s
          ∧ s.tables.map listed = tables.map (fun (name, pairs) => (.text name, pairs))
          ∧ ofRows (s.columns.map rowOf) room = .ok s.withoutEmpty := by
  refine ⟨fun rows => ⟨?read, ?given⟩, fun rows s made => ?kept, fun tables distinct => ?listing⟩
  case read =>
    rintro ⟨s, made⟩
    obtain ⟨_, ⟨readable, _⟩, _⟩ := ofRows_eq_ok_iff.mp made
    exact readable
  case given =>
    intro readable
    obtain ⟨columns, _, tells⟩ :=
      exists_mapM_eq_ok fun row member => (readable row member).exists_tells
    exact ⟨_, ofRows_eq_ok_iff.mpr ⟨columns, ⟨readable, tells⟩, rfl⟩⟩
  case kept =>
    obtain ⟨columns, ⟨_, tells⟩, rfl⟩ := ofRows_eq_ok_iff.mp made
    have names := keys_ofColumns keyOf? columns
    exact ⟨columns, tells, names ▸ nodup_eraseDups _, names,
      fun table => of_mem_ofColumns, columns_ofColumns⟩
  case listing =>
    have texts : ((tables.map fun (name, pairs) =>
        (Value.text name, pairs)).map Prod.fst) = (tables.map Prod.fst).map Value.text := by
      rw [List.map_map, List.map_map]
      rfl
    refine ⟨_, ofListing_listingOf tables, map_listed_ofListing, ?_⟩
    have own : ∀ table ∈ (Snapshot.ofListing (tables.map fun (name, pairs) =>
        (Value.text name, pairs))).tables, ∀ c ∈ table.columns, c.table = table.name :=
      fun table => table_of_mem_ofListing
    rw [ofRows_map_rowOf, ofColumns_columns _ own]
    · rw [tableNames_ofListing, texts, List.map_map]
      exact List.Nodup.map (fun _ _ same => Key.text.inj (Option.some.inj same)) distinct
    · intro c member
      obtain ⟨name, same⟩ := table_of_mem_columns member
      rw [same]
      rfl

/-- Rows of two tables, each of which stands in one piece. -/
def rideRows : List Row :=
  [
    [("table_name", .text "trips"), ("column_name", .text "started_at"), ("data_type", .text "date")],
    [("table_name", .text "trips"), ("column_name", .text "ended_at"), ("data_type", .text "date"),
      ("is_nullable", .text "no")],
    [("table_name", .text "stations"), ("column_name", .text "id"), ("data_type", .text "integer")]
  ]

/-- The columns of rides come in the order of their rows, and a table without columns is lost with
them. -/
theorem catalog_kept_rides
    : (∃ s columns, ofRows rideRows = .ok s ∧ List.Forall₂ Tells rideRows columns
        ∧ s.columns = columns)
      ∧ ∃ s, ofListing (listingOf [("trips", [(.text "id", .text "integer")]), ("docks", [])]) = .ok s
        ∧ ofRows (s.columns.map rowOf) = .ok s.withoutEmpty := by
  obtain ⟨reads, rows, listing⟩ := catalog_kept Value.usualRoom
  refine ⟨?rows, ?listing⟩
  case rows =>
    have readable : ∀ row ∈ rideRows, Readable Value.usualRoom row := by
      simp only [rideRows, List.forall_mem_cons]
      exact ⟨readable_of_texts (by decide) rfl nofun,
        readable_of_texts (by decide) rfl fun _ said => ⟨"no", (Option.some.inj said).symm⟩,
        readable_of_texts (by decide) rfl nofun, nofun⟩
    obtain ⟨s, made⟩ := (reads rideRows).mpr readable
    obtain ⟨columns, tells, _, _, _, kept⟩ := rows rideRows s made
    refine ⟨s, columns, made, tells, kept ?_⟩
    obtain _ | ⟨first, _ | ⟨second, _ | ⟨third, _ | _⟩⟩⟩ := tells
    intro a b places
    have labels := List.Sublist.eq_of_length places rfl
    simp only [List.map_cons, List.map_nil, List.cons.injEq] at labels
    have same := first.table.symm.trans second.table
    simp_all [tableKey]
  case listing =>
    obtain ⟨s, read, _, back⟩ :=
      listing [("trips", [(.text "id", .text "integer")]), ("docks", [])] (by decide)
    exact ⟨s, read, back⟩

end RideQuestions.Schema
