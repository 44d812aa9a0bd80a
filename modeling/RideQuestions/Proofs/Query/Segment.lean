import Mathlib.Data.List.Chain
import RideQuestions.Query.Clause
import RideQuestions.Proofs.Text.Numeral

/-! A query text as segments: phrases that never change, and places that carry their bound value.
The open text, the numbered text and the named statement write the same segments with other marks.
-/

namespace RideQuestions.Query

open RideQuestions.Text

/-- A stretch of query text without bound values. -/
inductive Phrase where
  /-- Words of the query language. -/
  | words (text : String)
  /-- The table that rows are taken from. -/
  | start (table : String)
  /-- A table hung onto the first one. -/
  | join (table : String)
  | column (ref : ColumnRef)

def Phrase.text : Phrase → String
  | words text => text
  | start table => "FROM " ++ table
  | join table => "LEFT JOIN " ++ table
  | column ref => ref.text

/-- Holds when a character stands nowhere in a phrase. -/
def Phrase.Avoids (c : Char) (phrase : Phrase) : Prop :=
  c ∉ phrase.text.toList

instance (c : Char) (phrase : Phrase) : Decidable (phrase.Avoids c) :=
  inferInstanceAs (Decidable (c ∉ phrase.text.toList))

inductive Segment (α : Type) where
  | fixed (phrase : Phrase)
  /-- The place of a bound value. -/
  | bound (value : α)

namespace Segment

variable {α β : Type}

abbrev words (text : String) : Segment α := .fixed (.words text)
abbrev start (table : String) : Segment α := .fixed (.start table)
abbrev join (table : String) : Segment α := .fixed (.join table)
abbrev column (ref : ColumnRef) : Segment α := .fixed (.column ref)

def value? : Segment α → Option α
  | fixed _ => none
  | bound value => some value

/-- Keeps the place of a bound value and forgets the value. -/
def erase : Segment α → Segment Unit
  | fixed phrase => .fixed phrase
  | bound _ => .bound ()

end Segment

variable {α : Type}

/-- The bound values of some segments, from left to right. -/
def valuesOf (segments : List (Segment α)) : List α :=
  segments.filterMap Segment.value?

/-- Holds when every phrase of some segments has a property. -/
def AllPhrases (P : Phrase → Prop) (segments : List (Segment α)) : Prop :=
  ∀ phrase, Segment.fixed phrase ∈ segments → P phrase

/-- Writes segments, the places of bound values with marks counted on from `count`. -/
def writeFrom (mark : Nat → List Char) (count : Nat) : List (Segment α) → List Char
  | [] => []
  | .fixed phrase :: rest => phrase.text.toList ++ writeFrom mark count rest
  | .bound _ :: rest => mark (count + 1) ++ writeFrom mark (count + 1) rest

def write (mark : Nat → List Char) (segments : List (Segment α)) : String :=
  String.ofList (writeFrom mark 0 segments)

/-- The mark of a value that has no number yet. -/
def openMark (_ : Nat) : List Char :=
  [marker]

/-- The mark `$n` of a finished query text. -/
def dollarMark (n : Nat) : List Char :=
  '$' :: Nat.toDigits 10 n

/-- The mark `:pn` of a statement with named binds. -/
def colonMark (n : Nat) : List Char :=
  ':' :: 'p' :: Nat.toDigits 10 n

-----------------------------------------------------------------------------------------
-- Segments one after another
-----------------------------------------------------------------------------------------

@[simp] theorem valuesOf_nil : valuesOf ([] : List (Segment α)) = [] := rfl

@[simp] theorem valuesOf_fixed (phrase : Phrase) (rest : List (Segment α))
    : valuesOf (.fixed phrase :: rest) = valuesOf rest := rfl

@[simp] theorem valuesOf_bound (value : α) (rest : List (Segment α))
    : valuesOf (.bound value :: rest) = value :: valuesOf rest := rfl

@[simp] theorem valuesOf_append (xs ys : List (Segment α))
    : valuesOf (xs ++ ys) = valuesOf xs ++ valuesOf ys :=
  List.filterMap_append

@[simp] theorem allPhrases_nil (P : Phrase → Prop) : AllPhrases P ([] : List (Segment α)) := by
  simp [AllPhrases]

@[simp] theorem allPhrases_fixed (P : Phrase → Prop) (phrase : Phrase) (rest : List (Segment α))
    : AllPhrases P (.fixed phrase :: rest) ↔ P phrase ∧ AllPhrases P rest := by
  simp [AllPhrases]

@[simp] theorem allPhrases_bound (P : Phrase → Prop) (value : α) (rest : List (Segment α))
    : AllPhrases P (.bound value :: rest) ↔ AllPhrases P rest := by
  simp [AllPhrases]

@[simp] theorem allPhrases_append (P : Phrase → Prop) (xs ys : List (Segment α))
    : AllPhrases P (xs ++ ys) ↔ AllPhrases P xs ∧ AllPhrases P ys := by
  simp only [AllPhrases, List.mem_append, or_imp, forall_and]

/-- Forgetting values keeps the phrases. -/
theorem allPhrases_erase (P : Phrase → Prop) (segments : List (Segment α))
    : AllPhrases P (segments.map Segment.erase) ↔ AllPhrases P segments := by
  induction segments with
  | nil => simp
  | cons segment rest ih =>
      cases segment with
      | fixed phrase => simp [Segment.erase, ih]
      | bound value => simp [Segment.erase, ih]

/-- Writing goes on behind some segments with the count that they leave, by induction. -/
theorem writeFrom_append (mark : Nat → List Char) (count : Nat) (xs ys : List (Segment α))
    : writeFrom mark count (xs ++ ys)
      = writeFrom mark count xs ++ writeFrom mark (count + (valuesOf xs).length) ys := by
  induction xs generalizing count with
  | nil => rfl
  | cons segment rest ih =>
      cases segment with
      | fixed phrase => simp [writeFrom, ih]
      | bound value => simp [writeFrom, ih, Nat.add_assoc, Nat.add_comm 1]

/-- What is written does not depend on the values, by induction. -/
theorem writeFrom_erase (mark : Nat → List Char) (count : Nat) (segments : List (Segment α))
    : writeFrom mark count (segments.map Segment.erase) = writeFrom mark count segments := by
  induction segments generalizing count with
  | nil => rfl
  | cons segment rest ih =>
      cases segment with
      | fixed phrase => simp [writeFrom, Segment.erase, ih]
      | bound value => simp [writeFrom, Segment.erase, ih]

-----------------------------------------------------------------------------------------
-- Segments joined by words
-----------------------------------------------------------------------------------------

/-- Lists of segments one after another, with the same words between any two. -/
def joined (separator : String) (lists : List (List (Segment α))) : List (Segment α) :=
  [Segment.words separator].intercalate lists

@[simp] theorem joined_nil (separator : String)
    : joined separator ([] : List (List (Segment α))) = [] := rfl

@[simp] theorem joined_singleton (separator : String) (segments : List (Segment α))
    : joined separator [segments] = segments :=
  List.intercalate_singleton

@[simp] theorem joined_cons_cons (separator : String) (first second : List (Segment α))
    (rest : List (List (Segment α)))
    : joined separator (first :: second :: rest)
      = first ++ .words separator :: joined separator (second :: rest) := by
  simp [joined]

/-- A reading of segments that skips the separator skips it wherever it stands, by induction. -/
theorem filterMap_joined {β : Type} {separator : String} (read : Segment α → Option β)
    (skipped : read (.words separator) = none) (lists : List (List (Segment α)))
    : (joined separator lists).filterMap read = lists.flatMap (·.filterMap read) := by
  induction lists with
  | nil => rfl
  | cons first rest ih =>
      cases rest with
      | nil => simp
      | cons second rest =>
          rw [joined_cons_cons, List.filterMap_append, List.filterMap_cons_none skipped, ih]
          rfl

theorem valuesOf_joined (separator : String) (lists : List (List (Segment α)))
    : valuesOf (joined separator lists) = lists.flatMap valuesOf :=
  filterMap_joined Segment.value? rfl lists

/-- A property of the separator holds of all phrases of the whole when it does in each list. -/
theorem allPhrases_joined {P : Phrase → Prop} {separator : String} (h : P (.words separator))
    (lists : List (List (Segment α)))
    : AllPhrases P (joined separator lists) ↔ ∀ segments ∈ lists, AllPhrases P segments := by
  induction lists with
  | nil => simp
  | cons first rest ih =>
      cases rest with
      | nil => simp
      | cons second rest =>
          rw [joined_cons_cons, allPhrases_append, allPhrases_fixed, ih]
          simp [h]

theorem map_erase_joined (separator : String) (lists : List (List (Segment α)))
    : (joined separator lists).map Segment.erase
      = joined separator (lists.map (·.map Segment.erase)) := by
  induction lists with
  | nil => rfl
  | cons first rest ih =>
      cases rest with
      | nil => simp
      | cons second rest => simp_all [Segment.erase]

-----------------------------------------------------------------------------------------
-- The open text
-----------------------------------------------------------------------------------------

/-- The text of some segments while their values have no numbers. -/
def openText (segments : List (Segment α)) : String :=
  write openMark segments

@[simp] theorem openText_nil : openText ([] : List (Segment α)) = "" := rfl

@[simp] theorem openText_fixed (phrase : Phrase) (rest : List (Segment α))
    : openText (.fixed phrase :: rest) = phrase.text ++ openText rest := by
  simp [openText, write, writeFrom, String.ofList_append]

/-- Open marks do not depend on the count, by induction. -/
theorem writeFrom_openMark (count : Nat) (segments : List (Segment α))
    : writeFrom openMark count segments = (openText segments).toList := by
  induction segments generalizing count with
  | nil => rfl
  | cons segment rest ih =>
      cases segment with
      | fixed phrase => simp [writeFrom, ih]
      | bound value =>
          calc writeFrom openMark count (.bound value :: rest)
              = [marker] ++ (openText rest).toList := by rw [writeFrom, ih]; rfl
            _ = [marker] ++ writeFrom openMark 1 rest := by rw [ih]
            _ = (openText (.bound value :: rest)).toList := String.toList_ofList.symm

@[simp] theorem openText_bound (value : α) (rest : List (Segment α))
    : openText (.bound value :: rest) = "?" ++ openText rest := by
  apply String.toList_inj.mp
  rw [← writeFrom_openMark 0, writeFrom, writeFrom_openMark, String.toList_append]
  rfl

@[simp] theorem openText_append (xs ys : List (Segment α))
    : openText (xs ++ ys) = openText xs ++ openText ys := by
  apply String.toList_inj.mp
  rw [← writeFrom_openMark 0, writeFrom_append, writeFrom_openMark, writeFrom_openMark]
  simp

/-- The open text of joined lists is their open texts with the separator between them. -/
theorem openText_joined (separator : String) (lists : List (List (Segment α)))
    : openText (joined separator lists) = String.intercalate separator (lists.map openText) := by
  induction lists with
  | nil => simp
  | cons first rest ih =>
      cases rest with
      | nil => simp
      | cons second rest =>
          rw [joined_cons_cons, openText_append, openText_fixed, ih]
          simp [Phrase.text, String.append_assoc]

end RideQuestions.Query
