import RideQuestions.Proofs.Query.Rendering
import RideQuestions.Proofs.Sql.Calm

/-! Clauses over plain names, written with their numbers. Each begins behind a blank and settles: it
ends so that the text may end, or go on with a blank and the next clause.
-/

namespace RideQuestions.Query

open RideQuestions.Text Sql

-----------------------------------------------------------------------------------------
-- Calm texts part by part
-----------------------------------------------------------------------------------------

/-- Where a text has come to behind some of its characters, if they are calm: the mark before the
word under way, and that word. -/
def calmBehind (mark : Option Char) (word : List Char)
    : List Char → Option (Option Char × List Char)
  | [] => some (mark, word)
  | c :: rest =>
      if isWord c then calmBehind mark (word ++ [c]) rest
      else if Fits mark word (some c) then calmBehind (some c) [] rest
      else none

section Parts

variable {mark : Option Char} {word s : List Char}

theorem calmBehind_append (mark : Option Char) (word s t : List Char)
    : calmBehind mark word (s ++ t)
      = (calmBehind mark word s).bind fun (mark, word) => calmBehind mark word t := by
  induction s generalizing mark word with
  | nil => rfl
  | cons c rest ih =>
      rw [List.cons_append, calmBehind, calmBehind]
      split
      · exact ih mark (word ++ [c])
      · split
        · exact ih (some c) []
        · rfl

/-- A text is calm that comes to where it may end. -/
theorem calm_of_calmBehind {mark' : Option Char} {word' : List Char}
    (h : calmBehind mark word s = some (mark', word')) (ends : Fits mark' word' none)
    : calm mark word s = true := by
  induction s generalizing mark word with
  | nil =>
      obtain ⟨rfl, rfl⟩ := Prod.mk.inj (Option.some.inj h)
      exact decide_eq_true ends
  | cons c rest ih =>
      rw [calmBehind] at h
      rw [calm]
      split at h
      · next inside =>
          rw [if_pos inside]
          exact ih h
      · next outside =>
          rw [Option.ite_none_right_eq_some] at h
          rw [if_neg outside, decide_eq_true h.1, Bool.true_and]
          exact ih h.2

/-- The last character of a text is that of the word under way, or else the mark before it. -/
theorem getLast?_of_calmBehind {mark' : Option Char} {word' : List Char}
    (h : calmBehind mark word s = some (mark', word'))
    : s.getLast?.or (word.getLast?.or mark) = word'.getLast?.or mark' := by
  induction s generalizing mark word with
  | nil =>
      obtain ⟨rfl, rfl⟩ := Prod.mk.inj (Option.some.inj h)
      rfl
  | cons c rest ih =>
      rw [calmBehind] at h
      rw [getLast?_cons_or]
      split at h
      · have next := ih h
        simpa using next
      · rw [Option.ite_none_right_eq_some] at h
        simpa using ih h.2

/-- A word goes on with word characters. -/
theorem calmBehind_word {name : List Char} (inside : ∀ c ∈ name, isWord c = true)
    (mark : Option Char) (word : List Char)
    : calmBehind mark word name = some (mark, word ++ name) := by
  induction name generalizing word with
  | nil => simp [calmBehind]
  | cons c rest ih =>
      obtain ⟨first, others⟩ := List.forall_mem_cons.mp inside
      rw [calmBehind, if_pos first, ih others]
      simp

/-- What is calm goes on behind it. -/
theorem calmBehind_fixed {mark' : Option Char} {word' : List Char}
    (h : calmBehind mark word s = some (mark', word')) (rest : List Char)
    : calmBehind mark word (s ++ rest) = calmBehind mark' word' rest := by
  rw [calmBehind_append, h]
  rfl

theorem calmBehind_opening (text : String) (mark' : Char) (word' : List Char)
    (h : calmBehind mark word text.toList = some (some mark', word')) (rest : List Char)
    : calmBehind mark word (text.toList ++ rest) = calmBehind (some mark') word' rest :=
  calmBehind_fixed h rest

/-- A word is closed when any mark but a point may follow it. -/
def Closed (mark : Option Char) (word : List Char) : Prop :=
  ∀ c ∈ plainMarks, c ≠ '.' → Fits mark word (some c)

instance (mark : Option Char) (word : List Char) : Decidable (Closed mark word) :=
  inferInstanceAs (Decidable (∀ c ∈ plainMarks, c ≠ '.' → Fits mark word (some c)))

/-- Where words of the query language lead that begin with a mark other than a point. -/
def leads (text : String) : Option (Option Char × List Char) :=
  match text.toList with
  | [] => none
  | c :: rest =>
      if c ∈ plainMarks ∧ c ≠ '.' then calmBehind (some c) [] rest else none

/-- Behind a word that is closed, such words lead to the same place. -/
theorem calmBehind_words (text : String) (mark' : Char) (word' : List Char)
    (closed : Closed mark word) (h : leads text = some (some mark', word')) (rest : List Char)
    : calmBehind mark word (text.toList ++ rest) = calmBehind (some mark') word' rest := by
  have outside : ∀ c ∈ plainMarks, isWord c = false := by decide
  refine calmBehind_fixed ?_ rest
  rw [leads] at h
  split at h
  · exact absurd h (by simp)
  · next c more letters =>
      rw [Option.ite_none_right_eq_some] at h
      obtain ⟨⟨member, noPoint⟩, goes⟩ := h
      rw [letters, calmBehind, if_neg (by simp [outside c member]),
        if_pos (closed c member noPoint), goes]

end Parts

-----------------------------------------------------------------------------------------
-- Names and numbers
-----------------------------------------------------------------------------------------

/-- A table that a calm text may name. -/
structure PlainTable (table : String) : Prop where
  name : isPlainName table.toList = true
  allowed : isForbidden table.toList = false

/-- A column that a calm text may name. -/
structure PlainColumn (ref : ColumnRef) : Prop where
  table : PlainTable ref.table
  name : isPlainName ref.column.toList = true

/-- A phrase is plain when the table or the column that it names is. -/
def Phrase.Plain : Phrase → Prop
  | words _ => True
  | start table => PlainTable table
  | join table => PlainTable table
  | column ref => PlainColumn ref

/-- Where a name may begin: behind a blank or an opening parenthesis. -/
def BeginsName (mark : Char) : Prop :=
  mark = ' ' ∨ mark = '('

theorem PlainTable.fits {table : String} {mark : Char} {after : Option Char} (h : PlainTable table)
    (begins : BeginsName mark) (marks : ∀ c ∈ after, c ∈ plainMarks)
    : Fits (some mark) table.toList after where
  mark := marks
  word := .inr (.inr ⟨h.name, .inl h.allowed⟩)
  dollar := by rcases begins with rfl | rfl <;> simp
  spaced := by rcases begins with rfl | rfl <;> simp

theorem PlainColumn.fits {ref : ColumnRef} {after : Option Char} (h : PlainColumn ref)
    (marks : ∀ c ∈ after, c ∈ plainMarks)
    : Fits (some '.') ref.column.toList after where
  mark := marks
  word := .inr (.inr ⟨h.name, .inr rfl⟩)
  dollar := by simp
  spaced := by simp

theorem calmBehind_column {ref : ColumnRef} {mark : Char} (h : PlainColumn ref)
    (begins : BeginsName mark) (rest : List Char)
    : calmBehind (some mark) [] (ref.text.toList ++ rest)
      = calmBehind (some '.') ref.column.toList rest := by
  have table := calmBehind_word (fun c member => (mem_plain_of_isPlainName h.table.name c member).2)
    (some mark) []
  have column := calmBehind_word (fun c member => (mem_plain_of_isPlainName h.name c member).2)
    (some '.') []
  refine calmBehind_fixed ?_ rest
  rw [ColumnRef.text, String.toList_append, String.toList_append, List.append_assoc,
    calmBehind_fixed table, List.nil_append]
  change calmBehind (some mark) ref.table.toList ('.' :: ref.column.toList) = _
  rw [calmBehind, if_neg (by decide), if_pos (h.table.fits begins (by decide)), column,
    List.nil_append]

theorem isPlainNumber_toDigits (n : Nat)
    : isPlainNumber (Nat.toDigits 10 n) = true := by
  have digits : ∀ d < 10, d.digitChar ∈ plainDigits := by decide
  have plain : ∀ c ∈ Nat.toDigits 10 n, c ∈ plainDigits := by
    intro c member
    obtain ⟨d, few, rfl⟩ := mem_toDigits member
    exact digits d few
  simpa [isPlainNumber] using plain

theorem fits_number {n : Nat} {after : Option Char} (marks : ∀ c ∈ after, c ∈ plainMarks)
    (noPoint : after ≠ some '.')
    : Fits (some '$') (Nat.toDigits 10 n) after where
  mark := marks
  word := .inr (.inl ⟨isPlainNumber_toDigits n, by decide, noPoint⟩)
  dollar := fun _ => isPlainNumber_toDigits n
  spaced := by simp

theorem calmBehind_number {mark : Char} (begins : BeginsName mark) (n : Nat) (rest : List Char)
    : calmBehind (some mark) [] (dollarMark n ++ rest)
      = calmBehind (some '$') (Nat.toDigits 10 n) rest := by
  have opens : Fits (some mark) [] (some '$') := by rcases begins with rfl | rfl <;> decide
  have digits := calmBehind_word (fun c member => isWord_of_mem_toDigits (n := n) member)
    (some '$') []
  refine calmBehind_fixed ?_ rest
  rw [dollarMark, calmBehind, if_neg (by decide), if_pos opens, digits, List.nil_append]

-----------------------------------------------------------------------------------------
-- Clauses
-----------------------------------------------------------------------------------------

/-- A text may end, or go on with a mark, behind a word with the mark before it. -/
structure Settled (mark : Option Char) (word : List Char) : Prop where
  closed : Closed mark word
  ends : Fits mark word none
  last : ∀ c ∈ word.getLast?.or mark, isBlank c = false

instance (mark : Option Char) (word : List Char) : Decidable (Settled mark word) :=
  decidable_of_iff
    (Closed mark word ∧ Fits mark word none ∧ ∀ c ∈ word.getLast?.or mark, isBlank c = false)
    ⟨fun ⟨closed, ends, last⟩ => ⟨closed, ends, last⟩, fun h => ⟨h.closed, h.ends, h.last⟩⟩

theorem isBlank_getLast? {word : List Char} {mark : Option Char} (some_text : word ≠ [])
    (plain : ∀ c ∈ word, c ∈ plainCharacters ∧ isWord c = true)
    : ∀ c ∈ word.getLast?.or mark, isBlank c = false := by
  have blanks : ∀ c ∈ plainCharacters, isWord c = true → isBlank c = false := by decide
  rw [List.getLast?_eq_some_getLast some_text]
  rintro c ⟨⟩
  obtain ⟨member, inside⟩ := plain _ (List.getLast_mem some_text)
  exact blanks _ member inside

theorem PlainTable.settled {table : String} (h : PlainTable table)
    : Settled (some ' ') table.toList where
  closed := fun c member _ => h.fits (.inl rfl) (by simpa using member)
  ends := h.fits (.inl rfl) (by simp)
  last := isBlank_getLast? (ne_nil_of_isPlainName h.name) (mem_plain_of_isPlainName h.name)

theorem PlainColumn.settled {ref : ColumnRef} (h : PlainColumn ref)
    : Settled (some '.') ref.column.toList where
  closed := fun c member _ => h.fits (by simpa using member)
  ends := h.fits (by simp)
  last := isBlank_getLast? (ne_nil_of_isPlainName h.name) (mem_plain_of_isPlainName h.name)

theorem settled_number (n : Nat)
    : Settled (some '$') (Nat.toDigits 10 n) where
  closed := fun c member noPoint => fits_number (by simpa using member) (by simpa using noPoint)
  ends := fits_number (by simp) (by simp)
  last := by
    have digits : ∀ d < 10, d.digitChar ∈ plainCharacters ∧ isWord d.digitChar = true := by decide
    refine isBlank_getLast? (by simp) ?_
    intro c member
    obtain ⟨d, few, rfl⟩ := mem_toDigits member
    exact digits d few

/-- Holds of segments that, behind a blank, come to where a text may end or go on. -/
def Settles (segments : List (Segment Value)) : Prop :=
  ∀ count, ∃ mark word,
    calmBehind (some ' ') [] (writeFrom dollarMark count segments) = some (mark, word)
      ∧ Settled mark word

/-- Clauses that settle do so one behind the other, with words between them that lead to a blank. -/
theorem settles_joined {separator : String} (blank : leads separator = some (some ' ', []))
    {lists : List (List (Segment Value))} (settles : ∀ segments ∈ lists, Settles segments)
    (some_clause : lists ≠ [])
    : Settles (joined separator lists) := by
  induction lists with
  | nil => exact absurd rfl some_clause
  | cons first rest ih =>
      obtain ⟨settled, others⟩ := List.forall_mem_cons.mp settles
      cases rest with
      | nil => simpa using settled
      | cons second rest =>
          intro count
          obtain ⟨mark, word, comes, closed⟩ := settled count
          obtain ⟨mark', word', goes, final⟩ :=
            ih others (by simp) (count + (valuesOf first).length)
          refine ⟨mark', word', ?_, final⟩
          rw [joined_cons_cons, writeFrom_append, calmBehind_fixed comes, writeFrom,
            Phrase.text, calmBehind_words separator ' ' [] closed.closed blank, goes]

/-- A column that is compared with a value. -/
theorem settles_comparison {column : ColumnRef} {comparison : String} {value : Value}
    (plain : PlainColumn column) (blank : leads comparison = some (some ' ', []))
    : Settles [.column column, .words comparison, .bound value] := by
  intro count
  refine ⟨some '$', Nat.toDigits 10 (count + 1), ?_, settled_number _⟩
  simp only [writeFrom, Phrase.text]
  rw [calmBehind_column plain (.inl rfl),
    calmBehind_words comparison ' ' [] plain.settled.closed blank, calmBehind_number (.inl rfl)]
  rfl

theorem Predicate.settles {p : Predicate} (plain : AllPhrases Phrase.Plain p.segments)
    : Settles p.segments := by
  cases p with
  | startedWithin start span =>
      intro count
      have column : PlainColumn start := plain (.column start) (by simp [segments])
      refine ⟨some ')', [], ?_, by decide⟩
      simp only [segments, writeFrom, Phrase.text]
      rw [calmBehind_column column (.inl rfl),
        calmBehind_words " >= CAST(" '(' [] column.settled.closed (by decide),
        calmBehind_number (.inr rfl),
        calmBehind_words " AS timestamp) AND " ' ' [] (settled_number _).closed (by decide),
        calmBehind_column column (.inl rfl),
        calmBehind_words " <= CAST(" '(' [] column.settled.closed (by decide),
        calmBehind_number (.inr rfl),
        calmBehind_words " AS timestamp)" ')' [] (settled_number _).closed (by decide)]
      rfl
  | riderGender column gender =>
      exact settles_comparison (plain (.column column) (by simp [segments])) (by decide)
  | someRain precipitation =>
      exact settles_comparison (plain (.column precipitation) (by simp [segments])) (by decide)
  | atLocation name pattern =>
      exact settles_comparison (plain (.column name) (by simp [segments])) (by decide)

/-- Words that lead from a blank to a blank may stand before what settles. -/
theorem Settles.cons_words {text : String} {segments : List (Segment Value)}
    (h : Settles segments)
    (blank : calmBehind (some ' ') [] text.toList = some (some ' ', []))
    : Settles (.words text :: segments) := by
  intro count
  obtain ⟨mark, word, comes, settled⟩ := h count
  refine ⟨mark, word, ?_, settled⟩
  rw [writeFrom, Phrase.text, calmBehind_fixed blank, comes]

theorem settles_column {ref : ColumnRef} (plain : PlainColumn ref)
    : Settles [.column ref] := by
  intro count
  refine ⟨some '.', ref.column.toList, ?_, plain.settled⟩
  simp only [writeFrom, Phrase.text]
  rw [calmBehind_column plain (.inl rfl)]
  rfl

theorem settles_filterSegments {predicates : List Predicate} (some_predicate : predicates ≠ [])
    (plain : ∀ p ∈ predicates, AllPhrases Phrase.Plain p.segments)
    : Settles (filterSegments (predicates.map Predicate.segments)) := by
  cases predicates with
  | nil => exact absurd rfl some_predicate
  | cons first rest =>
      rw [List.map_cons, filterSegments_cons, ← List.map_cons]
      refine Settles.cons_words (settles_joined (by decide) ?_ (by simp)) (by decide)
      rw [List.forall_mem_map]
      exact fun p member => Predicate.settles (plain p member)

theorem settles_groupSegments {key : ColumnRef} (plain : PlainColumn key)
    : Settles (groupSegments (some key)) :=
  (settles_column plain).cons_words (by decide)

theorem settles_orderSegments
    : Settles (orderSegments true) := by
  intro count
  refine ⟨some ' ', ['1'], ?_, by decide⟩
  simp only [orderSegments, if_true, writeFrom, Phrase.text]
  rw [calmBehind_opening "ORDER BY count DESC LIMIT 1" ' ' ['1'] (by decide)]
  rfl

/-- A table behind words that introduce it. -/
theorem calmBehind_table {opening table : String} (plain : PlainTable table)
    (blank : calmBehind (some ' ') [] opening.toList = some (some ' ', [])) (rest : List Char)
    : calmBehind (some ' ') [] ((opening ++ table).toList ++ rest)
      = calmBehind (some ' ') table.toList rest := by
  have name := calmBehind_word (fun c member => (mem_plain_of_isPlainName plain.name c member).2)
    (some ' ') []
  rw [String.toList_append, List.append_assoc, calmBehind_fixed blank, calmBehind_fixed name]
  rfl

theorem settles_start {table : String} (plain : PlainTable table)
    : Settles [.start table] := by
  intro count
  refine ⟨some ' ', table.toList, ?_, plain.settled⟩
  simp only [writeFrom, Phrase.text]
  rw [calmBehind_table plain (by decide)]
  rfl

theorem Join.settles {j : Join} (plain : AllPhrases Phrase.Plain j.segments)
    : Settles j.segments := by
  intro count
  cases j with
  | station foreignKey key =>
      have table : PlainTable key.table := plain (.join key.table) (by simp [segments])
      have foreign : PlainColumn foreignKey := plain (.column foreignKey) (by simp [segments])
      have own : PlainColumn key := plain (.column key) (by simp [segments])
      refine ⟨some '.', key.column.toList, ?_, own.settled⟩
      simp only [segments, writeFrom, Phrase.text]
      rw [calmBehind_table table (by decide),
        calmBehind_words " ON " ' ' [] table.settled.closed (by decide),
        calmBehind_column foreign (.inl rfl),
        calmBehind_words " = " ' ' [] foreign.settled.closed (by decide),
        calmBehind_column own (.inl rfl)]
      rfl
  | weather moment day =>
      have table : PlainTable day.table := plain (.join day.table) (by simp [segments])
      have start : PlainColumn moment := plain (.column moment) (by simp [segments])
      have own : PlainColumn day := plain (.column day) (by simp [segments])
      refine ⟨some '.', day.column.toList, ?_, own.settled⟩
      simp only [segments, writeFrom, Phrase.text]
      rw [calmBehind_table table (by decide),
        calmBehind_words " ON DATE(" '(' [] table.settled.closed (by decide),
        calmBehind_column start (.inr rfl),
        calmBehind_words ") = " ' ' [] start.settled.closed (by decide),
        calmBehind_column own (.inl rfl)]
      rfl

theorem Source.settles {s : Source} (plain : AllPhrases Phrase.Plain s.segments)
    : Settles s.segments := by
  rw [segments, allPhrases_joined trivial, List.forall_mem_cons, List.forall_mem_map] at plain
  obtain ⟨start, joins⟩ := plain
  refine settles_joined (by decide) ?_ (by simp)
  rw [List.forall_mem_cons, List.forall_mem_map]
  exact ⟨settles_start (start (.start s.start) (by simp)),
    fun j member => Join.settles (joins j member)⟩

/-- A projection begins the text and ends so that a blank may follow. -/
theorem Projection.closed_segments {p : Projection} (plain : AllPhrases Phrase.Plain p.segments)
    (count : Nat)
    : ∃ mark word,
      calmBehind none [] (writeFrom dollarMark count p.segments) = some (mark, word)
        ∧ Closed mark word := by
  cases p with
  | everything =>
      refine ⟨some '*', [], ?_, by decide⟩
      simp only [segments, writeFrom, Phrase.text]
      rw [calmBehind_opening "SELECT *" '*' [] (by decide)]
      rfl
  | count =>
      refine ⟨some ' ', "count".toList, ?_, by decide⟩
      simp only [segments, writeFrom, Phrase.text]
      rw [calmBehind_opening "SELECT COUNT(*) AS count" ' ' "count".toList (by decide)]
      rfl
  | averageMinutes start finish =>
      have first : PlainColumn start := plain (.column start) (by simp [segments])
      have last : PlainColumn finish := plain (.column finish) (by simp [segments])
      refine ⟨some ' ', "average".toList, ?_, by decide⟩
      simp only [segments, writeFrom, Phrase.text]
      rw [calmBehind_opening "SELECT ROUND(AVG(EXTRACT(EPOCH FROM (" '(' [] (by decide),
        calmBehind_column last (.inr rfl),
        calmBehind_words " - " ' ' [] last.settled.closed (by decide),
        calmBehind_column first (.inl rfl),
        calmBehind_words ")) / 60)) AS average" ' ' "average".toList first.settled.closed (by decide)]
      rfl
  | sum ref =>
      have column : PlainColumn ref := plain (.column ref) (by simp [segments])
      refine ⟨some ' ', "total".toList, ?_, by decide⟩
      simp only [segments, writeFrom, Phrase.text]
      rw [calmBehind_opening "SELECT ROUND(CAST(SUM(" '(' [] (by decide),
        calmBehind_column column (.inr rfl),
        calmBehind_words ") AS numeric), 1) AS total" ' ' "total".toList column.settled.closed
          (by decide)]
      rfl
  | countPer ref =>
      have column : PlainColumn ref := plain (.column ref) (by simp [segments])
      refine ⟨some ' ', "count".toList, ?_, by decide⟩
      simp only [segments, writeFrom, Phrase.text]
      rw [calmBehind_opening "SELECT " ' ' [] (by decide), calmBehind_column column (.inl rfl),
        calmBehind_words ", COUNT(*) AS count" ' ' "count".toList column.settled.closed (by decide)]
      rfl
  | values ref =>
      have column : PlainColumn ref := plain (.column ref) (by simp [segments])
      refine ⟨some '.', ref.column.toList, ?_, column.settled.closed⟩
      simp only [segments, writeFrom, Phrase.text]
      rw [calmBehind_opening "SELECT " ' ' [] (by decide), calmBehind_column column (.inl rfl)]
      rfl

end RideQuestions.Query
