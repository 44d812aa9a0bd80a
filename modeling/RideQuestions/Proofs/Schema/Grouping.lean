import RideQuestions.Schema.Basic
import Mathlib.Data.List.Basic

/-! Columns grouped by table. Every table stands once, by the place of its first column, and has its
columns in the order given. Grouping changes no list in which the columns of each table stand
together, and gives a snapshot back from its columns, but for tables without any. Labels of one key
are labels of one table.
-/

namespace RideQuestions.Snapshot

variable {α κ : Type}

-----------------------------------------------------------------------------------------
-- Labels that stand together
-----------------------------------------------------------------------------------------

/-- The places of each label are next to one another: no other label stands between two of them. -/
def Contiguous (labels : List α) : Prop :=
  ∀ a b, [a, b, a].Sublist labels → b = a

/-- Items of a kind that no other item comes before are the beginning of their list, by induction.
-/
theorem filter_append_filter_not {p : α → Bool} {items : List α}
    (first : ∀ a b, [a, b].Sublist items → p b = true → p a = true)
    : items.filter p ++ items.filter (fun item => !p item) = items := by
  induction items with
  | nil => rfl
  | cons item rest ih =>
      cases kind : p item with
      | true =>
          have others := ih fun a b both => first a b (both.cons item)
          simpa [kind] using others
      | false =>
          have none : ∀ other ∈ rest, p other = false := by
            intro other member
            by_contra holds
            have both : [item, other].Sublist (item :: rest) :=
              (List.singleton_sublist.mpr member).cons_cons item
            have here := first item other both (by simpa using holds)
            simp [kind] at here
          have all : rest.filter (fun item => !p item) = rest :=
            List.filter_eq_self.mpr fun other member => by simp [none other member]
          have empty : rest.filter p = [] :=
            List.filter_eq_nil_iff.mpr fun other member => by simp [none other member]
          simp [kind, all, empty]

theorem Contiguous.sublist {labels others : List α} (h : Contiguous others)
    (part : labels.Sublist others)
    : Contiguous labels :=
  fun a b places => h a b (places.trans part)

/-- The key of the table that a column belongs to. -/
def tableKey (key : α → κ) (c : Column α) : κ :=
  key c.table

variable [DecidableEq κ] {key : α → κ} {c : Column α} {columns rest : List (Column α)}
  {tables : List (Table α)}

/-- Whether a column belongs to the table of a name. -/
def belongs (key : α → κ) (name : α) (c : Column α) : Bool :=
  tableKey key c = key name

-----------------------------------------------------------------------------------------
-- The first table and the others
-----------------------------------------------------------------------------------------

/-- Of columns that come to tables, the first table takes its own, and the others come to the other
tables as if it were not there, by induction on the columns. -/
theorem foldl_insertColumn_cons (table : Table α) (tables : List (Table α))
    (columns : List (Column α))
    : columns.foldl (insertColumn key) (table :: tables)
      = { table with columns := table.columns ++ columns.filter (belongs key table.name) }
        :: (columns.filter fun c => !belongs key table.name c).foldl (insertColumn key) tables := by
  induction columns generalizing table tables with
  | nil => simp
  | cons c rest ih =>
      by_cases own : key c.table = key table.name
      · have here : insertColumn key (table :: tables) c
            = { table with columns := table.columns ++ [c] } :: tables :=
          if_pos own.symm
        rw [List.foldl_cons, here, ih]
        simp [belongs, tableKey, own]
      · have later : insertColumn key (table :: tables) c = table :: insertColumn key tables c :=
          if_neg fun same => own same.symm
        rw [List.foldl_cons, later, ih]
        simp [belongs, tableKey, own]

/-- The first column begins the first table, and the columns of other tables make the others. -/
theorem tables_ofColumns_cons (key : α → κ) (c : Column α) (rest : List (Column α))
    : (ofColumns key (c :: rest)).tables
      = ⟨c.table, c :: rest.filter (belongs key c.table)⟩
        :: (ofColumns key (rest.filter fun other => !belongs key c.table other)).tables :=
  foldl_insertColumn_cons ⟨c.table, [c]⟩ [] rest

/-- What holds of no columns, and of some when it holds of those of all tables but the first, holds
of any columns, by recursion on what is left of them. -/
theorem columns_induction (key : α → κ) {motive : List (Column α) → Prop} (nil : motive [])
    (cons : ∀ c rest, motive (rest.filter fun other => !belongs key c.table other) →
      motive (c :: rest))
    : ∀ columns, motive columns
  | [] => nil
  | c :: rest => cons c rest (columns_induction key nil cons _)
termination_by columns => columns.length
decreasing_by exact Nat.lt_succ_of_le (List.length_filter_le _ _)

-----------------------------------------------------------------------------------------
-- Tables and their columns
-----------------------------------------------------------------------------------------

/-- The tables are those of the columns, each once and by the place where its key stands first. -/
theorem keys_ofColumns [BEq κ] [LawfulBEq κ] (key : α → κ) (columns : List (Column α))
    : (ofColumns key columns).tableNames.map key = (columns.map (tableKey key)).eraseDups := by
  induction columns using columns_induction key with
  | nil => rfl
  | cons c rest ih =>
      have others : (rest.map (tableKey key)).filter (fun other => !other == key c.table)
          = (rest.filter fun other => !belongs key c.table other).map (tableKey key) := by
        rw [List.filter_map]
        refine congrArg _ (List.filter_congr fun other _ => ?_)
        rw [Function.comp_apply, belongs, beq_eq_decide]
      rw [tableNames, tables_ofColumns_cons, List.map_cons, List.map_cons, List.map_cons,
        tableKey, List.eraseDups_cons, others, ← ih, tableNames]

/-- A table has the columns that belong to it, and is called as the first of them says. -/
theorem of_mem_ofColumns {table : Table α} (member : table ∈ (ofColumns key columns).tables)
    : table.columns = columns.filter (belongs key table.name)
      ∧ table.columns.head?.map Column.table = some table.name := by
  induction columns using columns_induction key with
  | nil => exact absurd member List.not_mem_nil
  | cons c rest ih =>
      rw [tables_ofColumns_cons, List.mem_cons] at member
      rcases member with rfl | later
      · simp [belongs, tableKey]
      · obtain ⟨listed, called⟩ := ih later
        refine ⟨?_, called⟩
        obtain ⟨first, stands, same⟩ := Option.map_eq_some_iff.mp called
        have kept := List.mem_of_mem_head? stands
        rw [listed, List.mem_filter, List.mem_filter] at kept
        have differ : key table.name ≠ key c.table := by
          simpa [belongs, tableKey, same] using kept.1.2
        have foreign : ¬ belongs key table.name c = true := fun own =>
          differ (of_decide_eq_true own).symm
        rw [List.filter_cons_of_neg foreign, listed, List.filter_filter]
        refine List.filter_congr fun other _ => ?_
        by_cases own : tableKey key other = key table.name <;> simp [belongs, own, differ]

/-- Grouping leaves columns as they are when those of each table stand together. -/
theorem columns_ofColumns (together : Contiguous (columns.map (tableKey key)))
    : (ofColumns key columns).columns = columns := by
  induction columns using columns_induction key with
  | nil => rfl
  | cons c rest ih =>
      have part : (rest.filter fun other => !belongs key c.table other).Sublist (c :: rest) :=
        List.filter_sublist.trans (List.sublist_cons_self c rest)
      have first : ∀ a b, [a, b].Sublist rest → belongs key c.table b = true →
          belongs key c.table a = true := by
        intro a b both own
        have places := (both.cons_cons c).map (tableKey key)
        rw [List.map_cons, List.map_cons, List.map_cons, List.map_nil, of_decide_eq_true own]
          at places
        exact decide_eq_true (together (key c.table) (tableKey key a) places)
      rw [Snapshot.columns, tables_ofColumns_cons, List.flatMap_cons, ← Snapshot.columns,
        ih (together.sublist (part.map _)), List.cons_append, filter_append_filter_not first]

-----------------------------------------------------------------------------------------
-- Columns of a snapshot
-----------------------------------------------------------------------------------------

/-- A snapshot without the tables that have no columns. -/
def withoutEmpty (s : Snapshot α) : Snapshot α :=
  { tables := s.tables.filter fun table => !table.columns.isEmpty }

/-- The columns of tables of which no two have one key make these tables, but for the empty ones, by
induction on the tables. -/
theorem tables_ofColumns_flatMap (distinct : (tables.map fun table => key table.name).Nodup)
    (own : ∀ table ∈ tables, ∀ c ∈ table.columns, c.table = table.name)
    : (ofColumns key (tables.flatMap Table.columns)).tables
      = tables.filter fun table => !table.columns.isEmpty := by
  induction tables with
  | nil => rfl
  | cons table rest ih =>
      obtain ⟨fresh, distinct⟩ := List.nodup_cons.mp distinct
      obtain ⟨here, others⟩ := List.forall_mem_cons.mp own
      have made := ih distinct others
      obtain ⟨name, columns⟩ := table
      cases columns with
      | nil => simpa using made
      | cons c more =>
          obtain ⟨rfl, later⟩ := List.forall_mem_cons.mp here
          have mine : ∀ other ∈ more, belongs key c.table other = true := fun other member => by
            simp [belongs, tableKey, later other member]
          have theirs : ∀ other ∈ rest.flatMap Table.columns,
              belongs key c.table other = false := by
            intro other member
            obtain ⟨table, stands, listed⟩ := List.mem_flatMap.mp member
            refine decide_eq_false fun same => fresh (List.mem_map.mpr ⟨table, stands, ?_⟩)
            rw [← others table stands other listed]
            exact same
          have kept : (more ++ rest.flatMap Table.columns).filter (belongs key c.table) = more := by
            rw [List.filter_append, List.filter_eq_self.mpr mine,
              List.filter_eq_nil_iff.mpr (by simpa using theirs), List.append_nil]
          have left : (more ++ rest.flatMap Table.columns).filter
              (fun other => !belongs key c.table other) = rest.flatMap Table.columns := by
            rw [List.filter_append, List.filter_eq_nil_iff.mpr (by simpa using mine),
              List.filter_eq_self.mpr (by simpa using theirs), List.nil_append]
          rw [List.flatMap_cons, List.cons_append, tables_ofColumns_cons, kept, left, made]
          simp

/-- Grouping the columns of a snapshot gives it back without its empty tables, when no two names
have one key and every column has the name of its table. -/
theorem ofColumns_columns {s : Snapshot α} (distinct : (s.tableNames.map key).Nodup)
    (own : ∀ table ∈ s.tables, ∀ c ∈ table.columns, c.table = table.name)
    : ofColumns key s.columns = s.withoutEmpty := by
  rw [tableNames, List.map_map] at distinct
  exact congrArg Snapshot.mk (tables_ofColumns_flatMap distinct own)

end RideQuestions.Snapshot
