import RideQuestions.Proofs.Query.Segment

/-! Numbering the bound values of a text and naming them again. Reading a numbered text finds the
numbers one to n in order, and the named statement is the same text with other marks.
-/

namespace RideQuestions.Query

open RideQuestions.Text

variable {α : Type}

-----------------------------------------------------------------------------------------
-- From open marks to numbers
-----------------------------------------------------------------------------------------

/-- An open text has at least the marks of its values, by induction. -/
theorem length_valuesOf_le_markerCount (segments : List (Segment α))
    : (valuesOf segments).length ≤ markerCount (openText segments) := by
  induction segments with
  | nil => simp
  | cons segment rest ih =>
      cases segment with
      | fixed phrase =>
          simp only [markerCount, openText_fixed, String.toList_append, List.count_append] at ih ⊢
          exact Nat.le_add_left_of_le ih
      | bound value =>
          simp only [markerCount, openText_bound, String.toList_append, List.count_append] at ih ⊢
          have one : "?".toList.count marker = 1 := rfl
          simp only [one, valuesOf_bound, List.length_cons]
          omega

/-- An open text has as many marks as values exactly when no phrase holds a mark, by induction:
a mark inside a phrase has no value that could make up for it. -/
theorem markerCount_openText_iff (segments : List (Segment α))
    : markerCount (openText segments) = (valuesOf segments).length
      ↔ AllPhrases (Phrase.Avoids marker) segments := by
  induction segments with
  | nil => simp [markerCount]
  | cons segment rest ih =>
      cases segment with
      | fixed phrase =>
          have least := length_valuesOf_le_markerCount rest
          rw [allPhrases_fixed, ← ih, Phrase.Avoids, ← List.count_eq_zero]
          simp only [markerCount, openText_fixed, String.toList_append, List.count_append,
            valuesOf_fixed] at least ⊢
          omega
      | bound value =>
          have one : "?".toList.count marker = 1 := rfl
          rw [allPhrases_bound, ← ih]
          simp only [markerCount, openText_bound, String.toList_append, List.count_append, one,
            valuesOf_bound, List.length_cons]
          omega

/-- Characters other than the mark pass through numbering. -/
theorem numberFrom_append {text : List Char} (h : marker ∉ text) (count : Nat)
    (rest : List Char)
    : numberFrom count (text ++ rest) = text ++ numberFrom count rest := by
  induction text with
  | nil => rfl
  | cons c text ih =>
      have hc : c ≠ marker := fun same => h (by simp [same])
      have ht : marker ∉ text := fun member => h (List.mem_cons_of_mem c member)
      simp [numberFrom, hc, ih ht]

/-- Numbering an open text whose phrases hold no mark writes the same segments with numbers. -/
theorem numberFrom_openText {segments : List (Segment α)}
    (h : AllPhrases (Phrase.Avoids marker) segments) (count : Nat)
    : numberFrom count (openText segments).toList = writeFrom dollarMark count segments := by
  induction segments generalizing count with
  | nil => rfl
  | cons segment rest ih =>
      cases segment with
      | fixed phrase =>
          obtain ⟨hp, hr⟩ := (allPhrases_fixed _ phrase rest).mp h
          rw [openText_fixed, String.toList_append, numberFrom_append hp, ih hr, writeFrom]
      | bound value =>
          have hr := (allPhrases_bound _ value rest).mp h
          rw [openText_bound, String.toList_append]
          change numberFrom count (marker :: (openText rest).toList) = _
          rw [numberFrom, if_pos rfl, ih hr, writeFrom, Nat.toString_eq_repr, Nat.toList_repr]
          rfl

theorem numberMarkers_openText {segments : List (Segment α)}
    (h : AllPhrases (Phrase.Avoids marker) segments)
    : numberMarkers (openText segments) = write dollarMark segments := by
  rw [numberMarkers, numberFrom_openText h, write]

-----------------------------------------------------------------------------------------
-- From numbers to pieces
-----------------------------------------------------------------------------------------

/-- Holds of two neighbours when the first is no bound value, or a blank is written next. -/
def Segment.Apart : Segment α → Segment α → Prop
  | .fixed _, _ => True
  | .bound _, .fixed phrase => phrase.text.toList.head? = some ' '
  | .bound _, .bound _ => False

/-- Holds when every bound value is the last segment or has a blank behind it. -/
def Spaced (segments : List (Segment α)) : Prop :=
  segments.IsChain Segment.Apart

@[simp] theorem spaced_nil : Spaced ([] : List (Segment α)) :=
  List.isChain_nil

@[simp] theorem spaced_fixed (phrase : Phrase) (rest : List (Segment α))
    : Spaced (.fixed phrase :: rest) ↔ Spaced rest := by
  simp [Spaced, List.isChain_cons, Segment.Apart]

/-- A text behind a spaced bound value is empty or begins with a blank. -/
theorem spaced_bound {value : α} {rest : List (Segment α)} (h : Spaced (.bound value :: rest))
    (mark : Nat → List Char) (count : Nat)
    : Spaced rest ∧ ∀ c ∈ (writeFrom mark count rest).head?, c = ' ' := by
  obtain ⟨apart, spaced⟩ := List.isChain_cons.mp h
  refine ⟨spaced, ?_⟩
  cases rest with
  | nil => simp [writeFrom]
  | cons segment rest =>
      have next := apart segment rfl
      cases segment with
      | bound _ => exact next.elim
      | fixed phrase =>
          intro c hc
          rw [Segment.Apart] at next
          simp only [writeFrom, List.head?_append, next, Option.some_or, Option.mem_some] at hc
          exact hc.symm

/-- Lists that are spaced stay so when they are joined by words that begin with a blank. -/
theorem spaced_joined {separator : String} (blank : separator.toList.head? = some ' ')
    {lists : List (List (Segment α))} (h : ∀ segments ∈ lists, Spaced segments)
    : Spaced (joined separator lists) := by
  induction lists with
  | nil => simp
  | cons first rest ih =>
      have hf := h first (by simp)
      have hr := ih fun segments member => h segments (List.mem_cons_of_mem first member)
      cases rest with
      | nil => simpa using hf
      | cons second rest =>
          rw [joined_cons_cons]
          refine List.isChain_append.mpr ⟨hf, (spaced_fixed _ _).mpr hr, ?_⟩
          intro last _ next hn
          obtain rfl : Segment.words separator = next := by simpa using hn
          cases last with
          | fixed _ => trivial
          | bound _ => exact blank

/-- The pieces of a numbered text: the characters of its phrases and its placeholders. -/
def numberedPieces (count : Nat) : List (Segment α) → List Piece
  | [] => []
  | .fixed phrase :: rest => phrase.text.toList.map .plain ++ numberedPieces count rest
  | .bound _ :: rest =>
      .placeholder (Nat.toDigits 10 (count + 1)) :: numberedPieces (count + 1) rest

theorem piecesFrom_append {text : List Char} (h : '$' ∉ text) (rest : List Char)
    : piecesFrom none (text ++ rest) = text.map .plain ++ piecesFrom none rest := by
  induction text with
  | nil => rfl
  | cons c text ih =>
      have hc : c ≠ '$' := fun same => h (by simp [same])
      have ht : '$' ∉ text := fun member => h (List.mem_cons_of_mem c member)
      simp [piecesFrom, hc, ih ht]

/-- Digits behind an open dollar sign are gathered. -/
theorem piecesFrom_digits {digits : List Char} (h : ∀ c ∈ digits, isDigit c = true)
    (gathered rest : List Char)
    : piecesFrom (some gathered) (digits ++ rest)
      = piecesFrom (some (gathered ++ digits)) rest := by
  induction digits generalizing gathered with
  | nil => simp
  | cons c digits ih =>
      have hc : isDigit c = true := h c (by simp)
      have hd := ih (fun d member => h d (List.mem_cons_of_mem c member)) (gathered ++ [c])
      simpa [piecesFrom, hc] using hd

/-- The end of a text or a blank closes a placeholder. -/
theorem piecesFrom_close {rest : List Char} (h : ∀ c ∈ rest.head?, c = ' ')
    (gathered : List Char)
    : piecesFrom (some gathered) rest = .ofDollar gathered :: piecesFrom none rest := by
  cases rest with
  | nil => simp [piecesFrom]
  | cons c rest =>
      obtain rfl : c = ' ' := h c rfl
      have blank : isDigit ' ' = false := by decide
      simp [piecesFrom, blank]

/-- A numbered text is cut into the characters of its phrases and its placeholders, by induction:
a placeholder ends where its digits end, because a blank or nothing stands behind it. -/
theorem piecesFrom_writeFrom {segments : List (Segment α)}
    (free : AllPhrases (Phrase.Avoids '$') segments) (spaced : Spaced segments) (count : Nat)
    : piecesFrom none (writeFrom dollarMark count segments) = numberedPieces count segments := by
  induction segments generalizing count with
  | nil => rfl
  | cons segment rest ih =>
      cases segment with
      | fixed phrase =>
          obtain ⟨hp, hr⟩ := (allPhrases_fixed _ phrase rest).mp free
          rw [writeFrom, piecesFrom_append hp, ih hr ((spaced_fixed phrase rest).mp spaced),
            numberedPieces]
      | bound value =>
          obtain ⟨hs, blank⟩ := spaced_bound spaced dollarMark (count + 1)
          have digits := fun c => isDigit_of_mem_toDigits (n := count + 1) (c := c)
          have some_digit : (Nat.toDigits 10 (count + 1)).isEmpty = false := by simp
          rw [writeFrom, dollarMark, List.cons_append, piecesFrom, if_pos rfl,
            piecesFrom_digits digits, piecesFrom_close blank,
            ih ((allPhrases_bound _ value rest).mp free) hs, numberedPieces, List.nil_append,
            Piece.ofDollar, some_digit, if_neg Bool.false_ne_true]

/-- The placeholders of a numbered text are numbered one after another. -/
theorem filterMap_numberedPieces (count : Nat) (segments : List (Segment α))
    : (numberedPieces count segments).filterMap Piece.digits?
      = (List.range' (count + 1) (valuesOf segments).length).map (Nat.toDigits 10) := by
  induction segments generalizing count with
  | nil => rfl
  | cons segment rest ih =>
      cases segment with
      | fixed phrase =>
          rw [numberedPieces, List.filterMap_append, ih, valuesOf_fixed]
          simp [List.filterMap_map, Piece.digits?]
      | bound value =>
          rw [numberedPieces, List.filterMap_cons_some (f := Piece.digits?) rfl, ih]
          simp [List.range'_succ]

theorem placeholders_write {segments : List (Segment α)}
    (free : AllPhrases (Phrase.Avoids '$') segments) (spaced : Spaced segments)
    : placeholders (write dollarMark segments)
      = (List.range' 1 (valuesOf segments).length).map (Nat.toDigits 10) := by
  have cut : pieces (write dollarMark segments) = numberedPieces 0 segments := by
    rw [pieces, write, String.toList_ofList, piecesFrom_writeFrom free spaced]
  rw [placeholders, cut, filterMap_numberedPieces]

/-- The numbers found in a numbered text are one to n, from left to right. -/
theorem ordinals_write {segments : List (Segment α)}
    (free : AllPhrases (Phrase.Avoids '$') segments) (spaced : Spaced segments)
    : ordinals (write dollarMark segments) = List.range' 1 (valuesOf segments).length := by
  rw [ordinals, placeholders_write free spaced, List.map_map]
  simp [Function.comp_def, digitsValue_toDigits]

-----------------------------------------------------------------------------------------
-- From numbers to names
-----------------------------------------------------------------------------------------

theorem flatMap_named_numberedPieces (count : Nat) (segments : List (Segment α))
    : (numberedPieces count segments).flatMap Piece.named = writeFrom colonMark count segments := by
  induction segments generalizing count with
  | nil => rfl
  | cons segment rest ih =>
      cases segment with
      | fixed phrase =>
          rw [numberedPieces, List.flatMap_append, ih, writeFrom]
          simp [List.flatMap_map, Piece.named]
      | bound value =>
          rw [numberedPieces, List.flatMap_cons, ih, writeFrom]
          rfl

/-- The named statement writes the segments of the numbered text with names for numbers. -/
theorem toNamedBinds_write {segments : List (Segment α)}
    (free : AllPhrases (Phrase.Avoids '$') segments) (spaced : Spaced segments)
    (values : List Value)
    : (toNamedBinds (write dollarMark segments) values).text = write colonMark segments := by
  rw [toNamedBinds, pieces, write, String.toList_ofList, piecesFrom_writeFrom free spaced,
    flatMap_named_numberedPieces, write]

/-- The name of the bound value with a number. -/
def bindName (n : Nat) : String :=
  "p" ++ toString n

/-- The names that stand behind the colons of a statement, each a longest run of word characters,
from left to right. -/
def bindNames : List Char → List (List Char)
  | [] => []
  | c :: rest => if c = ':' then rest.takeWhile isWord :: bindNames rest else bindNames rest

theorem bindNames_append {text : List Char} (h : ':' ∉ text) (rest : List Char)
    : bindNames (text ++ rest) = bindNames rest := by
  induction text with
  | nil => rfl
  | cons c text ih =>
      have hc : c ≠ ':' := fun same => h (by simp [same])
      have ht : ':' ∉ text := fun member => h (List.mem_cons_of_mem c member)
      simp [bindNames, hc, ih ht]

/-- A name ends where a blank or nothing stands behind it. -/
theorem takeWhile_bindName {rest : List Char} (h : ∀ c ∈ rest.head?, c = ' ') (n : Nat)
    : ('p' :: Nat.toDigits 10 n ++ rest).takeWhile isWord = 'p' :: Nat.toDigits 10 n := by
  have word : ∀ c ∈ 'p' :: Nat.toDigits 10 n, isWord c = true := by
    intro c hc
    rcases List.mem_cons.mp hc with rfl | hc
    · decide
    · exact isWord_of_mem_toDigits hc
  rw [List.takeWhile_append_of_pos word]
  cases rest with
  | nil => simp
  | cons c rest =>
      obtain rfl : c = ' ' := h c rfl
      have blank : isWord ' ' = false := by decide
      simp [blank]

/-- A colon inside a mark is the only one of that mark. -/
theorem colon_not_mem_bindName (n : Nat)
    : ':' ∉ 'p' :: Nat.toDigits 10 n := by
  intro member
  rcases List.mem_cons.mp member with same | member
  · exact absurd same (by decide)
  · exact absurd (isWord_of_mem_toDigits member) (by decide)

/-- The colons of a named statement stand before the names of its values, each name once and in
order, by induction. -/
theorem bindNames_writeFrom {segments : List (Segment α)}
    (free : AllPhrases (Phrase.Avoids ':') segments) (spaced : Spaced segments) (count : Nat)
    : (bindNames (writeFrom colonMark count segments)).map String.ofList
      = (List.range' (count + 1) (valuesOf segments).length).map bindName := by
  induction segments generalizing count with
  | nil => rfl
  | cons segment rest ih =>
      cases segment with
      | fixed phrase =>
          obtain ⟨hp, hr⟩ := (allPhrases_fixed _ phrase rest).mp free
          rw [writeFrom, bindNames_append hp, ih hr ((spaced_fixed phrase rest).mp spaced),
            valuesOf_fixed]
      | bound value =>
          obtain ⟨hs, blank⟩ := spaced_bound spaced colonMark (count + 1)
          rw [writeFrom, colonMark, List.cons_append, bindNames, if_pos rfl,
            takeWhile_bindName blank, bindNames_append (colon_not_mem_bindName _), List.map_cons,
            ih ((allPhrases_bound _ value rest).mp free) hs, valuesOf_bound, List.length_cons,
            List.range'_succ, List.map_cons]
          simp [bindName, String.ofList_cons, Nat.repr_eq_ofList_toDigits]

end RideQuestions.Query
