import RideQuestions.Proofs.Sql.Pieces
import RideQuestions.Proofs.Sql.Separation

/-! Words with blanks and commas between them. As long as they are no keywords but perhaps the one
in front of a table, they open nothing, whether they are tokens alone or two of them together.
-/

namespace RideQuestions.Sql

open RideQuestions.Text

-----------------------------------------------------------------------------------------
-- Words that open nothing
-----------------------------------------------------------------------------------------

/-- The words that begin a definition, separate batches, or open or close a block. -/
def shapingWords : List String :=
  ["CREATE", "GO", "DECLARE", "BEGIN", "END", "IF", "FOR", "WHILE", "CASE"]

/-- What opens or closes a block is one of these words, or a phrase that begins with one. A token
that does not at most begins a definition. -/
theorem Progress.nest_shapeless {t : Token} (opens : t.isMark "(" = false)
    (closes : t.isMark ")" = false)
    (shapeless : ∀ word, String.ofList (word.toList.takeWhile (· ≠ ' ')) ∈ shapingWords →
      t.upper ≠ word)
    (p : Progress)
    : p.nest t = p ∨ p.nest t = { p with defining := true } := by
  have known : ∀ word ∈ ["DECLARE", "BEGIN", "END", "IF", "FOR", "WHILE", "CASE", "END IF",
      "END FOR", "END WHILE"],
      String.ofList (word.toList.takeWhile (· ≠ ' ')) ∈ shapingWords := by
    decide
  have others := fun word member => shapeless word (known word member)
  simp only [List.forall_mem_cons] at others
  dsimp only [nest]
  rw [opens, closes, if_neg Bool.false_ne_true, if_neg Bool.false_ne_true]
  split
  · exact .inl rfl
  · split
    · exact .inr rfl
    · exact .inl (by simp [others])

section Words

variable {name behind : List Char} (plain : isPlainName name = true)
  (next : ∀ c ∈ behind.head?, c = ' ')
include plain next

/-- The first word of a token in capitals is the capital form of its first word. -/
theorem takeWhile_upper (kind : TokenKind)
    : (Token.upper ⟨kind, String.ofList (name ++ behind)⟩).toList.takeWhile (· ≠ ' ')
      = (plainUpper (String.ofList name)).toList := by
  have noBlank : ∀ c ∈ plainCharacters, isWord c = true → ∀ d ∈ plainCapitals c, d ≠ ' ' := by
    decide
  have blank : plainCapitals ' ' = [' '] := by decide
  simp only [Token.upper, plainUpper, String.toList_ofList, List.flatMap_append]
  refine takeWhile_eq_of_split rfl ?_ ?_
  · intro d member
    obtain ⟨c, inside, capital⟩ := List.mem_flatMap.mp member
    obtain ⟨known, word⟩ := mem_plain_of_isPlainName plain c inside
    exact decide_eq_true (noBlank c known word d capital)
  · intro d first
    cases behind with
    | nil => exact absurd first (by simp)
    | cons c rest =>
        obtain rfl : c = ' ' := next c rfl
        rw [List.flatMap_cons, blank] at first
        obtain rfl : ' ' = d := by simpa using first
        rfl

/-- A token that begins with a word that shapes nothing is flat. -/
theorem flat_of_name (shapeless : plainUpper (String.ofList name) ∉ shapingWords)
    (inside : ∀ c ∈ behind, c = ' ' ∨ isWord c = true) (kind : TokenKind)
    : Token.Flat ⟨kind, String.ofList (name ++ behind)⟩ := by
  have noMark := isMark_words (List.forall_mem_append.mpr
    ⟨fun c member => .inr (mem_plain_of_isPlainName plain c member).2, inside⟩)
  have nest := Progress.nest_shapeless (noMark '(' (by decide) (by decide) kind)
    (noMark ')' (by decide) (by decide) kind) (by
      rintro word shapes rfl
      rw [takeWhile_upper plain next, String.ofList_toList] at shapes
      exact shapeless shapes)
  refine ⟨⟨noMark ';' (by decide) (by decide) kind, ?batch⟩, fun p => ?level,
    fun p => ?blockDepth⟩
  case batch =>
    refine separatesBatches_name plain (fun c first => ?_) (fun batch => ?_) kind
    · rw [next c first]
      decide
    · exact shapeless (batch ▸ by decide)
  case level => rcases nest p with same | same <;> rw [same]
  case blockDepth => rcases nest p with same | same <;> rw [same]

end Words

/-- A word that shapes nothing is flat. -/
theorem flat_name {name : List Char} (plain : isPlainName name = true)
    (shapeless : plainUpper (String.ofList name) ∉ shapingWords) (kind : TokenKind)
    : Token.Flat ⟨kind, String.ofList name⟩ := by
  have flat : Token.Flat ⟨kind, String.ofList (name ++ [])⟩ :=
    flat_of_name plain (by simp) shapeless (by simp) kind
  rwa [List.append_nil] at flat

/-- A comma is flat. -/
theorem flat_comma
    : Token.Flat ⟨.punctuation, ","⟩ :=
  Token.flat_of_noKeyword ⟨by decide, by decide⟩ (by decide) (by decide) (by decide)

-----------------------------------------------------------------------------------------
-- Words with blanks and commas between them
-----------------------------------------------------------------------------------------

/-- A word with the blanks and commas in front of it. -/
structure Spaced where
  gap : String
  word : String

namespace Spaced

def text (s : Spaced) : String :=
  s.gap ++ s.word

/-- Some blanks and commas, and a plain name that is no keyword but perhaps the one in front of a
table. -/
structure Fine (s : Spaced) : Prop where
  some_gap : s.gap ≠ ""
  gap : ∀ c ∈ s.gap.toList, c = ' ' ∨ c = ','
  plain : isPlainName s.word.toList = true
  known : wordKind s.word = .name ∨ plainUpper s.word = "FROM"

end Spaced

theorem shapeless_of_known {word : String}
    (known : wordKind word = .name ∨ plainUpper word = "FROM")
    : plainUpper word ∉ shapingWords := by
  rcases known with name | same
  · intro member
    simp only [shapingWords, List.mem_cons, List.not_mem_nil, or_false] at member
    rcases member with same | same | same | same | same | same | same | same | same
    all_goals
      rw [wordKind, same] at name
      exact absurd name (by decide)
  · rw [same]
    decide

/-- The text of some words. -/
def spaced (words : List Spaced) : List Char :=
  words.flatMap (·.text.toList)

theorem spaced_cons (s : Spaced) (words : List Spaced) (left : List Char)
    : spaced (s :: words) ++ left
      = s.gap.toList ++ (s.word.toList ++ (spaced words ++ left)) := by
  simp [spaced, Spaced.text]

/-- Behind the blanks and commas in front of a word stands either the word, when they are blanks,
or a comma. By induction on them. -/
theorem dropWhile_gap {gap left : List Char} (fine : ∀ c ∈ gap, c = ' ' ∨ c = ',')
    (next : ∀ c ∈ left.head?, isBlank c = false)
    : ((∀ c ∈ gap, c = ' ') ∧ (gap ++ left).dropWhile isBlank = left)
      ∨ ∃ rest, (gap ++ left).dropWhile isBlank = ',' :: rest := by
  induction gap with
  | nil =>
      refine .inl ⟨nofun, ?_⟩
      cases left with
      | nil => rfl
      | cons c rest => exact List.dropWhile_cons_of_neg (by simp [next c rfl])
  | cons c gap ih =>
      obtain ⟨first, others⟩ := List.forall_mem_cons.mp fine
      rcases first with rfl | rfl
      · rw [List.cons_append, List.dropWhile_cons_of_pos (by decide)]
        exact (ih others).imp_left fun ⟨blank, same⟩ =>
          ⟨List.forall_mem_cons.mpr ⟨rfl, blank⟩, same⟩
      · exact .inr ⟨gap ++ left, List.dropWhile_cons_of_neg (by decide)⟩

/-- Blanks and commas are passed as flat tokens, by induction. -/
theorem through_gap {gap left : List Char} (fine : ∀ c ∈ gap, c = ' ' ∨ c = ',')
    : Through Token.Flat (gap ++ left) left := by
  induction gap with
  | nil => exact .refl
  | cons c gap ih =>
      obtain ⟨first, others⟩ := List.forall_mem_cons.mp fine
      rcases first with rfl | rfl
      · exact (single_space (Token.flat_of_isWhite rfl)).through.trans (ih others)
      · exact (single_mark (by decide) flat_comma).through.trans (ih others)

/-- Two words that are one token are passed as a flat token. -/
theorem through_pair {name gap second left : List Char} (plain : isPlainName name = true)
    (shapeless : plainUpper (String.ofList name) ∉ shapingWords)
    (some_gap : gap ≠ []) (blank : ∀ c ∈ gap, c = ' ') (plainSecond : isPlainName second = true)
    (length : (firstToken none (name ++ (gap ++ second) ++ left)).2
      = name.length + (gap.length + second.length))
    : Through Token.Flat (name ++ (gap ++ second) ++ left) left := by
  refine (single_start ?start ?last (by simpa using length) fun kind _ =>
    flat_of_name plain ?next shapeless ?inside kind).through
  case start =>
    obtain ⟨c, start, head⟩ := head?_of_isPlainName plain
    exact ⟨c, start, by rw [List.head?_append, head, Option.some_or]⟩
  case last =>
    have last := List.getLast?_eq_some_getLast (ne_nil_of_isPlainName plainSecond)
    rw [List.getLast?_append, List.getLast?_append, last, Option.some_or, Option.some_or, ← last]
    exact getLast?_of_isPlainName plainSecond
  case next =>
    obtain ⟨c, rest, rfl⟩ := List.exists_cons_of_ne_nil some_gap
    rintro d ⟨⟩
    exact blank c List.mem_cons_self
  case inside =>
    intro c member
    rcases List.mem_append.mp member with member | member
    · exact .inl (blank c member)
    · exact .inr (mem_plain_of_isPlainName plainSecond c member).2

section Words

variable {left : List Char} (separated : ∃ rest, left.dropWhile isBlank = ';' :: rest)
include separated

/-- Blanks at most stand between words and the separator. -/
theorem head?_of_separated
    : ∀ c ∈ left.head?, isBlank c = true ∨ c = ';' := by
  obtain ⟨rest, same⟩ := separated
  rintro c first
  obtain ⟨more, rfl⟩ := List.head?_eq_some_iff.mp first
  cases blank : isBlank c with
  | true => exact .inl rfl
  | false =>
      rw [List.dropWhile_cons_of_neg (by simp [blank])] at same
      exact .inr (List.cons.inj same).1

theorem head?_spaced {words : List Spaced} (fine : ∀ s ∈ words, s.Fine)
    : ∀ c ∈ (spaced words ++ left).head?, isBlank c = true ∨ c = ';' ∨ c = ',' := by
  cases words with
  | nil => exact fun c first => (head?_of_separated separated c first).imp_right .inl
  | cons s words =>
      obtain ⟨first, _⟩ := List.forall_mem_cons.mp fine
      obtain ⟨c, rest, same⟩ := List.exists_cons_of_ne_nil
        (show s.gap.toList ≠ [] by simpa using first.some_gap)
      have member := first.gap c (by simp [same])
      rw [spaced_cons, same]
      rintro d ⟨⟩
      rcases member with rfl | rfl
      · exact .inl (by decide)
      · exact .inr (.inr rfl)

/-- Behind the blanks in front of words stands no point. -/
theorem noPoint_spaced {words : List Spaced} (fine : ∀ s ∈ words, s.Fine)
    : ∀ c ∈ ((spaced words ++ left).dropWhile isBlank).head?, c ≠ '.' := by
  cases words with
  | nil =>
      obtain ⟨rest, same⟩ := separated
      change ∀ c ∈ (left.dropWhile isBlank).head?, c ≠ '.'
      rw [same]
      rintro c ⟨⟩
      decide
  | cons s words =>
      obtain ⟨first, _⟩ := List.forall_mem_cons.mp fine
      obtain ⟨c, start, head⟩ := head?_of_isPlainName first.plain
      have next : (s.word.toList ++ (spaced words ++ left)).head? = some c := by
        rw [List.head?_append, head, Option.some_or]
      rw [spaced_cons]
      rcases dropWhile_gap first.gap (by rw [next]; simpa using (apart_of_start start).1)
        with ⟨_, same⟩ | ⟨rest, same⟩
      · rw [same, next]
        simpa using (apart_of_start start).2
      · rw [same]
        rintro c ⟨⟩
        decide

/-- Neither a word nor a call goes on behind words. -/
theorem apart_spaced {words : List Spaced} (fine : ∀ s ∈ words, s.Fine)
    : ∀ c ∈ (spaced words ++ left).head?, wordChar c = false ∧ c ≠ '(' := by
  intro c first
  rcases head?_spaced separated fine c first with blank | rfl | rfl
  · refine ⟨?_, ?_⟩
    · have other : c ≠ '$' ∧ c ≠ '#' := by
        refine ⟨?_, ?_⟩
        all_goals
          rintro rfl
          exact absurd blank (by decide)
      simp [wordChar, isWord_of_isBlank blank, other]
    · rintro rfl
      exact absurd blank (by decide)
  · decide
  · decide

/-- A phrase of several words that begins with a word that shapes nothing is that word and the
next one, with blanks between them. -/
theorem longPhrase_spaced {words : List Spaced} (fine : ∀ s ∈ words, s.Fine) {name : List Char}
    (plain : isPlainName name = true) (shapeless : plainUpper (String.ofList name) ∉ shapingWords)
    {phrase : List String} (known : phrase ∈ longPhrases) {n : Nat}
    (matched : Sql.phrase phrase (name ++ (spaced words ++ left)) = some n)
    : ∃ next more, words = next :: more ∧ (∀ c ∈ next.gap.toList, c = ' ')
        ∧ n = name.length + (next.gap.toList.length + next.word.toList.length) := by
  have pairs : ∀ words ∈ longPhrases, (∀ word ∈ words.head?, word ∉ shapingWords) →
      words.tail.length = 1 ∧ (∀ word ∈ words.tail, ∀ c ∈ word.toList, c ∈ plainCapitalLetters)
        ∧ beginsWith ',' words.tail = false ∧ beginsWith ';' words.tail = false := by
    decide
  have apart : ∀ c ∈ (spaced words ++ left).head?, isWord c = false :=
    fun c next => isWord_of_wordChar (apart_spaced separated fine c next).1
  obtain ⟨head, _, m, tail, rfl⟩ := longPhrase_name known plain apart matched
  obtain ⟨pair, capitals, noComma, noSeparator⟩ :=
    pairs phrase known (by rw [head]; rintro word ⟨⟩; exact shapeless)
  obtain ⟨second, pair⟩ := List.length_eq_one_iff.mp pair
  rw [pair] at tail capitals noComma noSeparator
  cases words with
  | nil =>
      obtain ⟨rest, same⟩ := separated
      change Sql.phrase [second] (left.dropWhile isBlank) = some m at tail
      rw [same, phrase_eq_none noSeparator] at tail
      exact absurd tail (by simp)
  | cons next more =>
      obtain ⟨first, others⟩ := List.forall_mem_cons.mp fine
      have apartMore : ∀ c ∈ (spaced more ++ left).head?, isWord c = false :=
        fun c next => isWord_of_wordChar (apart_spaced separated others c next).1
      have word : ∀ c ∈ (next.word.toList ++ (spaced more ++ left)).head?, isBlank c = false := by
        obtain ⟨c, start, head⟩ := head?_of_isPlainName first.plain
        rw [List.head?_append, head, Option.some_or]
        rintro d ⟨⟩
        exact (apart_of_start start).1
      rw [spaced_cons] at tail ⊢
      rcases dropWhile_gap first.gap word with ⟨blank, same⟩ | ⟨rest, same⟩
      · rw [same] at tail
        obtain ⟨rfl, _⟩ := phrase_name first.plain apartMore
          (capitals second (List.mem_singleton_self second)) tail
        have run : (next.gap.toList
              ++ (next.word.toList ++ (spaced more ++ left))).takeWhile isBlank
            = next.gap.toList :=
          takeWhile_eq_of_split rfl (fun c member => by rw [blank c member]; decide) word
        exact ⟨next, more, rfl, blank, by rw [run]⟩
      · rw [same, phrase_eq_none noComma] at tail
        exact absurd tail (by simp)

/-- Words are passed as flat tokens, by induction on their number; two of them may be one phrase. -/
theorem through_spaced {words : List Spaced} (fine : ∀ s ∈ words, s.Fine)
    : Through Token.Flat (spaced words ++ left) left := by
  induction length : words.length using Nat.strong_induction_on generalizing words with
  | h n ih =>
      cases words with
      | nil => exact .refl
      | cons s words =>
          obtain ⟨first, others⟩ := List.forall_mem_cons.mp fine
          rw [List.length_cons] at length
          have apart : ∀ c ∈ (spaced words ++ left).head?, wordChar c = false :=
            fun c next => (apart_spaced separated others c next).1
          have shapeless : plainUpper (String.ofList s.word.toList) ∉ shapingWords := by
            rw [String.ofList_toList]
            exact shapeless_of_known first.known
          have noBatch : plainUpper (String.ofList s.word.toList) ≠ "GO" :=
            fun same => shapeless (same ▸ by decide)
          rw [spaced_cons]
          refine (through_gap first.gap).trans ?_
          rcases firstToken_takes first.plain apart noBatch none
            with whole | ⟨phrase, known, matched⟩
          · have alone : Through Token.Flat (s.word.toList ++ (spaced words ++ left))
                (spaced words ++ left) :=
              (single_start (head?_of_isPlainName first.plain)
                (getLast?_of_isPlainName first.plain) whole
                fun kind _ => flat_name first.plain shapeless kind).through
            exact alone.trans (ih words.length (by omega) others rfl)
          · -- The next word belongs to the same token, and what follows it is shorter by two.
            obtain ⟨next, more, rfl, blank, total⟩ :=
              longPhrase_spaced separated others first.plain shapeless known matched
            obtain ⟨second, later⟩ := List.forall_mem_cons.mp others
            have regroup : s.word.toList ++ (spaced (next :: more) ++ left)
                = s.word.toList ++ (next.gap.toList ++ next.word.toList)
                  ++ (spaced more ++ left) := by
              rw [spaced_cons]
              simp
            rw [regroup] at total ⊢
            have pair := through_pair first.plain shapeless (by simpa using second.some_gap) blank
              second.plain total
            rw [List.length_cons] at length
            exact pair.trans (ih more.length (by omega) later rfl)

end Words

end RideQuestions.Sql
