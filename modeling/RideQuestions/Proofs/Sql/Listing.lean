import RideQuestions.Proofs.Sql.Pieces
import RideQuestions.Proofs.Sql.Separation

/-! Lists of names and literals. Each of them is one token that the guard has nothing against,
whatever a literal says and whatever keyword a name begins with, so that a query for such a list
is let through once its tokens are grouped.
-/

namespace RideQuestions.Sql

open RideQuestions.Text

-----------------------------------------------------------------------------------------
-- Harmless tokens
-----------------------------------------------------------------------------------------

/-- A token that ends no statement and is neither a dangerous keyword nor a comment. -/
structure Token.Harmless (t : Token) : Prop where
  inner : t.Inner
  keyword : t.isKeyword = true → t.upper ∉ dangerousWords
  comment : t.isComment = false

theorem Token.harmless_of_isWhite {t : Token} (white : t.isWhite = true)
    : t.Harmless := by
  refine ⟨inner_of_isWhite white, by simp [isKeyword_of_isWhite white], ?_⟩
  rw [isWhite, Bool.or_eq_true, decide_eq_true_eq, decide_eq_true_eq] at white
  rcases white with kind | kind <;> simp [isComment, kind]

theorem Token.harmless_comma
    : Token.Harmless ⟨.punctuation, ","⟩ :=
  ⟨⟨by decide, by decide⟩, nofun, rfl⟩

theorem Token.harmless_literal (text : String)
    : Token.Harmless ⟨.literal, text⟩ :=
  ⟨⟨rfl, rfl⟩, nofun, rfl⟩

theorem noBatch_of_allowed {name : List Char} (allowed : isForbidden name = false)
    : plainUpper (String.ofList name) ≠ "GO" := by
  intro batch
  exact absurd ((congrArg forbiddenWords.contains batch).symm.trans allowed) (by decide)

/-- A name that is no forbidden word is harmless, whatever kind of token it is that says something.
-/
theorem Token.harmless_of_name {name : List Char} (plain : isPlainName name = true)
    (allowed : isForbidden name = false) (kind : TokenKind)
    (speaks : Token.isSignificant ⟨kind, String.ofList name⟩ = true)
    : Token.Harmless ⟨kind, String.ofList name⟩ := by
  have noMark := isMark_words fun c member => .inr (mem_plain_of_isPlainName plain c member).2
  rw [isSignificant, Bool.and_eq_true, Bool.not_eq_true', Bool.not_eq_true'] at speaks
  refine ⟨⟨noMark ';' (by decide) (by decide) kind, ?_⟩, ?_, speaks.2⟩
  · have alone : Progress.separatesBatches ⟨kind, String.ofList (name ++ [])⟩ = false :=
      separatesBatches_name plain (by simp) (noBatch_of_allowed allowed) kind
    rwa [List.append_nil] at alone
  · intro _ dangerous
    rw [isForbidden, ← Bool.not_eq_true, List.contains_iff_mem] at allowed
    exact allowed (List.mem_cons_of_mem _ dangerous)

/-- A row of so many harmless tokens, so many of them no white space. -/
structure Row (solid total : Nat) (passed : List Token) : Prop where
  harmless : ∀ t ∈ passed, t.Harmless
  weight : Statement.weight passed = solid
  length : passed.length = total

/-- Up to what is left of a text, there are so many harmless tokens, so many of them no white
space. -/
abbrev Counted (solid total : Nat) : List Char → List Char → Prop :=
  Reads (Row solid total)

section Counted

variable {s middle left : List Char}

theorem Counted.trans {solid total solid' total' : Nat} (first : Counted solid total s middle)
    (second : Counted solid' total' middle left)
    : Counted (solid + solid') (total + total') s left := by
  refine first.append second fun passed more row row' => ⟨?_, ?_, ?_⟩
  · exact List.forall_mem_append.mpr ⟨row.harmless, row'.harmless⟩
  · rw [Statement.weight, List.countP_append, ← row.weight, ← row'.weight]
    rfl
  · rw [List.length_append, row.length, row'.length]

theorem Single.solid (h : Single (fun t => t.Harmless ∧ t.isWhite = false) s left)
    : Counted 1 1 s left := by
  refine h.mono ?_
  rintro passed ⟨t, ⟨harmless, solid⟩, rfl⟩
  exact ⟨List.forall_mem_singleton.mpr harmless, by simp [Statement.weight, solid], rfl⟩

theorem Single.white (h : Single (fun t => t.isWhite = true) s left)
    : Counted 0 1 s left := by
  refine h.mono ?_
  rintro passed ⟨t, white, rfl⟩
  have harmless := Token.harmless_of_isWhite white
  exact ⟨List.forall_mem_singleton.mpr harmless, by simp [Statement.weight, white], rfl⟩

end Counted

-----------------------------------------------------------------------------------------
-- Items
-----------------------------------------------------------------------------------------

/-- What a query may ask for: a name, or a literal with its content. -/
inductive Item where
  | name (text : String)
  | literal (content : String)

namespace Item

def text : Item → String
  | name text => text
  | literal content => String.singleton quoteMark ++ content ++ String.singleton quoteMark

/-- A plain name that is no forbidden word, or any content without a quotation mark and a
backslash. -/
def Fine : Item → Prop
  | name text => isPlainName text.toList = true ∧ isForbidden text.toList = false
  | literal content => quoteMark ∉ content.toList ∧ '\\' ∉ content.toList

instance : DecidablePred Fine
  | name text => inferInstanceAs (Decidable (isPlainName text.toList = true ∧ _))
  | literal content => inferInstanceAs (Decidable (quoteMark ∉ content.toList ∧ _))

end Item

/-- What may stand behind an item: it neither goes on with it nor ends a phrase of several words
that the item begins. -/
structure Closes (left : List Char) : Prop where
  apart : ∀ c ∈ left.head?, wordChar c = false ∧ c ≠ quoteMark
  alone : 0 < (left.takeWhile isBlank).length →
    ∀ words ∈ longPhrases, phrase words.tail (left.dropWhile isBlank) = none

/-- A plain name is one harmless token as long as no phrase of several words begins with it. -/
theorem counted_name {name left : List Char} (plain : isPlainName name = true)
    (allowed : isForbidden name = false) (apart : ∀ c ∈ left.head?, wordChar c = false)
    (alone : ∀ words ∈ longPhrases, phrase words (name ++ left) = none)
    : Counted 1 1 (name ++ left) left := by
  refine Single.solid (single_name plain apart (noBatch_of_allowed allowed) alone ?_)
  intro kind speaks
  exact ⟨Token.harmless_of_name plain allowed kind speaks,
    (Token.mayTrail_of_isSignificant speaks).1⟩

/-- An item is passed as one harmless token. -/
theorem Item.counted {item : Item} {left : List Char} (fine : item.Fine) (closes : Closes left)
    : Counted 1 1 (item.text.toList ++ left) left := by
  cases item with
  | name text =>
      obtain ⟨plain, allowed⟩ := fine
      have apart : ∀ c ∈ left.head?, isWord c = false := fun c next =>
        isWord_of_wordChar (closes.apart c next).1
      refine counted_name plain allowed (fun c next => (closes.apart c next).1) ?alone
      case alone =>
        intro words known
        rw [Option.eq_none_iff_forall_ne_some]
        intro n matched
        obtain ⟨_, blanks, m, behind, _⟩ := longPhrase_name known plain apart matched
        exact absurd ((closes.alone blanks words known).symm.trans behind) (by simp)
  | literal content =>
      obtain ⟨noMark, noBackslash⟩ := fine
      have whole : (literal content).text.toList
          = quoteMark :: content.toList ++ [quoteMark] := by
        simp [Item.text]
      rw [whole]
      exact Single.solid (single_literal noMark noBackslash (fun next => (closes.apart _ next).2 rfl)
        ⟨Token.harmless_literal _, rfl⟩)

/-- An item begins with neither a blank nor a point. -/
theorem Item.begins {item : Item} (fine : item.Fine)
    : ∃ c rest, item.text.toList = c :: rest ∧ isBlank c = false ∧ c ≠ '.' := by
  cases item with
  | name text =>
      obtain ⟨c, rest, same, start⟩ := exists_cons_of_isPlainName fine.1
      exact ⟨c, rest, same, apart_of_start start⟩
  | literal content =>
      have other : isBlank quoteMark = false ∧ quoteMark ≠ '.' := by decide
      exact ⟨quoteMark, content.toList ++ [quoteMark], by simp [Item.text], other⟩

theorem closes_comma (rest : List Char)
    : Closes (',' :: rest) where
  apart := by
    have mark : wordChar ',' = false ∧ ',' ≠ quoteMark := by decide
    simpa using mark
  alone := by
    have noBlank : isBlank ',' = false := by decide
    simp [noBlank]

/-- No phrase goes on with the word in front of a table. -/
theorem closes_from (rest : List Char)
    : Closes (" FROM ".toList ++ rest) where
  apart := by
    have mark : wordChar ' ' = false ∧ ' ' ≠ quoteMark := by decide
    simpa using mark
  alone := by
    intro _ words known
    have left : (" FROM ".toList ++ rest).dropWhile isBlank
        = 'F' :: 'R' :: 'O' :: 'M' :: ' ' :: rest :=
      rfl
    have others : ∀ words ∈ longPhrases, beginsWith 'F' words.tail = false
        ∨ words.tail = ["FOR"] ∨ words.tail = ["FIRST"] := by
      decide
    rw [left]
    rcases others words known with other | same | same
    · exact phrase_eq_none other
    · rw [same]
      rfl
    · rw [same]
      rfl

/-- Items with commas and blanks between them are passed as harmless tokens, one for an item and two
between any two, by induction on the items. -/
theorem counted_items (item : Item) {rest : List Item} {left : List Char}
    (fine : ∀ i ∈ item :: rest, i.Fine) (closes : Closes left)
    : Counted (2 * rest.length + 1) (3 * rest.length + 1)
        ([',', ' '].intercalate ((item :: rest).map (·.text.toList)) ++ left) left := by
  obtain ⟨first, others⟩ := List.forall_mem_cons.mp fine
  induction rest generalizing item with
  | nil =>
      rw [List.map_singleton, List.intercalate_singleton]
      exact Item.counted first closes
  | cons second more ih =>
      obtain ⟨next, later⟩ := List.forall_mem_cons.mp others
      have comma {left : List Char} : Counted 1 1 (',' :: left) left :=
        Single.solid (single_mark (by decide) ⟨Token.harmless_comma, rfl⟩)
      have space {left : List Char} : Counted 0 1 (' ' :: left) left :=
        Single.white (single_space rfl)
      have solid : 2 * (second :: more).length + 1 = 1 + (1 + (0 + (2 * more.length + 1))) := by
        rw [List.length_cons]
        omega
      have total : 3 * (second :: more).length + 1 = 1 + (1 + (1 + (3 * more.length + 1))) := by
        rw [List.length_cons]
        omega
      rw [List.map_cons, List.map_cons, List.intercalate_cons_cons, List.append_assoc,
        List.append_assoc, solid, total]
      exact (Item.counted first (closes_comma _)).trans
        (comma.trans (space.trans (ih second others next later)))

-----------------------------------------------------------------------------------------
-- Queries for a list
-----------------------------------------------------------------------------------------

/-- The query for some items of a table. -/
def listing (items : List Item) (table : String) : String :=
  "SELECT " ++ ", ".intercalate (items.map Item.text) ++ " FROM " ++ table

/-- The query without its first word and the blank behind that. -/
def listed (items : List Item) (table : String) : List Char :=
  [',', ' '].intercalate (items.map (·.text.toList)) ++ (" FROM ".toList ++ table.toList)

theorem toList_listing (items : List Item) (table : String)
    : (listing items table).toList = selectWord ++ ' ' :: listed items table := by
  simp only [listing, String.toList_append, String.toList_intercalate, List.map_map,
    List.append_assoc]
  rfl

theorem counted_table {table : String} (plain : isPlainName table.toList = true)
    (allowed : isForbidden table.toList = false)
    : Counted 2 4 (" FROM ".toList ++ table.toList) [] := by
  have space {left : List Char} : Counted 0 1 (' ' :: left) left := Single.white (single_space rfl)
  have word : Counted 1 1 ("FROM".toList ++ ' ' :: table.toList) (' ' :: table.toList) := by
    have mark : wordChar ' ' = false := by decide
    have apart : ∀ c ∈ (' ' :: table.toList).head?, wordChar c = false := by simpa using mark
    refine counted_name (by decide) (by decide) apart ?alone
    case alone =>
      intro words known
      have others : ∀ words ∈ longPhrases,
          words.head? ≠ some (plainUpper (String.ofList "FROM".toList)) := by
        decide
      rw [Option.eq_none_iff_forall_ne_some]
      intro n matched
      obtain ⟨head, _⟩ := longPhrase_name known (by decide)
        (fun c next => isWord_of_wordChar (apart c next)) matched
      exact others words known head
  have item : (Item.name table).Fine := ⟨plain, allowed⟩
  have name : Counted 1 1 (table.toList ++ []) [] := Item.counted item ⟨nofun, nofun⟩
  rw [List.append_nil] at name
  exact space.trans (word.trans (space.trans name))

section Listing

variable {items : List Item} {table : String} (some_items : items ≠ [])
  (fine : ∀ item ∈ items, item.Fine) (plain : isPlainName table.toList = true)
  (allowed : isForbidden table.toList = false)
include some_items fine plain allowed

/-- The tokens of such a query: the word that it begins with, and for every item three more. -/
theorem tokens_listing
    : Row (2 * items.length + 2) (3 * items.length + 4) (tokens (listing items table))
      ∧ ∃ behind, tokens (listing items table) = ⟨.keyword .rows, "SELECT"⟩ :: behind := by
  obtain ⟨item, rest, rfl⟩ := List.exists_cons_of_ne_nil some_items
  have cut : tokens (listing (item :: rest) table)
      = ⟨.keyword .rows, "SELECT"⟩
        :: tokensFrom 0 (some 'T') (' ' :: listed (item :: rest) table) := by
    have mark : wordChar ' ' = false ∧ isBlank ' ' = true := by decide
    rw [tokens, toList_listing]
    refine tokensFrom_select (by simpa using mark.1) (pointAhead_eq_false ?_)
    obtain ⟨c, more, same, noBlank, noPoint⟩ := Item.begins (fine item List.mem_cons_self)
    rw [List.dropWhile_cons_of_pos mark.2, listed]
    cases rest with
    | nil => simpa [same, noBlank] using noPoint
    | cons second others => simpa [same, noBlank, List.intercalate_cons_cons] using noPoint
  have space : Counted 0 1 (' ' :: listed (item :: rest) table) (listed (item :: rest) table) :=
    Single.white (single_space rfl)
  have counted := space.trans
    ((counted_items item fine (closes_from _)).trans (counted_table plain allowed))
  obtain ⟨passed, _, _, row, behind⟩ := counted (some 'T') (by decide)
  rw [cut, behind, tokensFrom, List.append_nil]
  refine ⟨⟨?_, ?_, ?_⟩, passed, rfl⟩
  · exact List.forall_mem_cons.mpr ⟨⟨⟨by decide, by decide⟩, by decide, rfl⟩, row.harmless⟩
  · have word : Token.isWhite ⟨.keyword .rows, "SELECT"⟩ = false := rfl
    rw [Statement.weight, List.countP_cons_of_pos (by simp [word]), ← Statement.weight, row.weight,
      List.length_cons]
    omega
  · rw [List.length_cons, row.length, List.length_cons]
    omega

theorem refusal?_listing_few (grouping : Grouping) (few : items.length ≤ 49)
    : grouping.refusal? (tokens (listing items table)) = none := by
  obtain ⟨row, _⟩ := tokens_listing some_items fine plain allowed
  have limits : depthLimit = 100 ∧ partLimit = 10000 := ⟨rfl, rfl⟩
  exact grouping.refusal?_eq_none (by rw [row.weight]; omega) (by rw [row.length]; omega)

theorem refusal?_listing_many (grouping : Grouping) (many : 3332 < items.length)
    : grouping.refusal? (tokens (listing items table)) = some .tooMany := by
  obtain ⟨row, _⟩ := tokens_listing some_items fine plain allowed
  have limit : partLimit = 10000 := rfl
  exact grouping.refusal?_of_long (fun t member => (row.harmless t member).comment)
    (by rw [row.length]; omega)

/-- What is said about such a query depends on nothing but how it is grouped. -/
theorem inspect_listing_eq (grouping : Grouping)
    : inspect (listing items table) none true grouping
      = match grouping.refusal? (tokens (listing items table)) with
        | some error => .error (.grouping error)
        | none =>
            .ok
              {
                complaints := [],
                separatorInside := separatorInside (listing items table),
                type? := some "SELECT"
              } := by
  obtain ⟨row, behind, cut⟩ := tokens_listing some_items fine plain allowed
  refine inspect_of_select grouping (toList_listing items table) ?last cut
    (fun t member => (row.harmless t member).inner)
    (fun t member => (row.harmless t member).keyword) rfl
  case last =>
    intro c last
    have some_name := ne_nil_of_isPlainName plain
    rw [listing, String.toList_append, List.getLast?_append,
      List.getLast?_eq_some_getLast some_name] at last
    have member : c ∈ table.toList := Option.some.inj last ▸ List.getLast_mem some_name
    exact isBlank_of_isWord (mem_plain_of_isPlainName plain c member).2

end Listing

/-- The query for a list of names and literals is let through, in whatever way its tokens are
grouped: whatever keywords the names begin with and whatever the literals say, nothing is wrong
with it, unless a group of its tokens lies too deep or has too many parts for it to be looked at.
Few items are always looked at; many never are. -/
theorem inspect_listing (grouping : Grouping) {items : List Item} {table : String}
    (some_items : items ≠ []) (fine : ∀ item ∈ items, item.Fine)
    (plain : isPlainName table.toList = true) (allowed : isForbidden table.toList = false)
    : (∀ error, grouping.refusal? (tokens (listing items table)) = some error →
        inspect (listing items table) none true grouping = .error (.grouping error))
      ∧ (grouping.refusal? (tokens (listing items table)) = none →
        ∃ verdict, inspect (listing items table) none true grouping = .ok verdict
          ∧ verdict.isValid = true ∧ verdict.errors = [] ∧ verdict.type? = some "SELECT")
      ∧ (items.length ≤ 49 → grouping.refusal? (tokens (listing items table)) = none)
      ∧ (3332 < items.length →
        grouping.refusal? (tokens (listing items table)) = some .tooMany) := by
  have looked := inspect_listing_eq some_items fine plain allowed grouping
  refine ⟨fun error refused => ?_, fun grouped => ?_,
    refusal?_listing_few some_items fine plain allowed grouping,
    refusal?_listing_many some_items fine plain allowed grouping⟩
  · rw [looked, refused]
  · rw [looked, grouped]
    exact ⟨_, rfl, rfl, rfl, rfl⟩

/-- Names that resemble keywords, and a literal that looks like a further statement. -/
theorem inspect_listing_resembling
    : ∃ verdict,
        inspect
            (listing [.name "updated_at", .literal "; DROP TABLE trips --", .name "end"] "trips")
            none true
          = .ok verdict
        ∧ verdict.isValid = true ∧ verdict.errors = [] ∧ verdict.type? = some "SELECT" := by
  have fine : ∀ item ∈ [Item.name "updated_at", .literal "; DROP TABLE trips --", .name "end"],
      item.Fine := by
    decide
  have plain : isPlainName "trips".toList = true := by decide
  obtain ⟨_, accepted, few, _⟩ := inspect_listing .pairs (by simp) fine plain (by decide)
  exact accepted (few (by decide))

/-- A long list of one name has too many tokens to be looked at. -/
theorem inspect_listing_long
    : ¬ ∃ verdict,
        inspect (listing (List.replicate 3334 (.name "a")) "trips") none true = .ok verdict
        ∧ verdict.isValid = true ∧ verdict.errors = [] ∧ verdict.type? = some "SELECT" := by
  have some_items : List.replicate 3334 (Item.name "a") ≠ [] := by
    rw [Ne, List.replicate_eq_nil_iff]
    decide
  have fine : ∀ item ∈ List.replicate 3334 (Item.name "a"), item.Fine := by
    intro item member
    rw [List.eq_of_mem_replicate member]
    decide
  have plain : isPlainName "trips".toList = true := by decide
  have refused := refusal?_listing_many some_items fine plain (by decide) .pairs
    (by rw [List.length_replicate]; decide)
  rintro ⟨verdict, looked, _⟩
  rw [inspect_listing_eq some_items fine plain (by decide), refused] at looked
  exact absurd looked (by simp)

end RideQuestions.Sql
