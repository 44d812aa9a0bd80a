import RideQuestions.Proofs.Sql.Names
import RideQuestions.Sql.Guard

/-! Calm texts. Their names and numbers stand between plain marks, and a name that is a dangerous
word or separates batches stands only behind a point. Cut into tokens, such a text has none that the
guard would refuse.
-/

namespace RideQuestions.Sql

open RideQuestions.Text

-----------------------------------------------------------------------------------------
-- Where tokens begin
-----------------------------------------------------------------------------------------

/-- The token at the beginning of a text, given the character before it. -/
def tokenAt (before : Option Char) (s : List Char) : Token :=
  ⟨(firstToken before s).1, String.ofList (s.take (firstToken before s).2)⟩

theorem getLast?_cons_or (c : Char) (rest : List Char) (before : Option Char)
    : (c :: rest).getLast?.or before = rest.getLast?.or (some c) := by
  rw [List.getLast?_cons]
  cases rest.getLast? <;> rfl

theorem getLast?_take_cons (c : Char) (rest : List Char) (k : Nat) (before : Option Char)
    : ((c :: rest).take (k + 1)).getLast?.or before = (rest.take k).getLast?.or (some c) := by
  rw [List.take_succ_cons, getLast?_cons_or]

theorem tokensFrom_zero (before : Option Char) (c : Char) (rest : List Char)
    : tokensFrom 0 before (c :: rest)
      = tokenAt before (c :: rest)
        :: tokensFrom ((firstToken before (c :: rest)).2 - 1) (some c) rest :=
  rfl

/-- A property of places in a text that passes from the beginning of each token to its end holds
where every token begins, by induction on the text with the characters still to be skipped. -/
theorem tokensFrom_begins {P : Option Char → List Char → Prop}
    (passes : ∀ before c rest, P before (c :: rest) →
      0 < (firstToken before (c :: rest)).2
        ∧ P (((c :: rest).take (firstToken before (c :: rest)).2).getLast?.or before)
          ((c :: rest).drop (firstToken before (c :: rest)).2))
    {skip : Nat} {before : Option Char} {s : List Char}
    (h : P ((s.take skip).getLast?.or before) (s.drop skip))
    : ∀ t ∈ tokensFrom skip before s,
        ∃ before c rest, P before (c :: rest) ∧ t = tokenAt before (c :: rest) := by
  induction s generalizing skip before with
  | nil => cases skip <;> simp [tokensFrom]
  | cons c rest ih =>
      cases skip with
      | succ k =>
          rw [getLast?_take_cons] at h
          exact ih h
      | zero =>
          obtain ⟨pos, next⟩ := passes before c rest (by simpa using h)
          have length : (firstToken before (c :: rest)).2
              = (firstToken before (c :: rest)).2 - 1 + 1 := by omega
          rw [length, getLast?_take_cons] at next
          rw [tokensFrom_zero]
          intro t member
          rcases List.mem_cons.mp member with rfl | member
          · exact ⟨before, c, rest, by simpa using h, rfl⟩
          · exact ih next t member

-----------------------------------------------------------------------------------------
-- Calm texts
-----------------------------------------------------------------------------------------

/-- A row of plain digits. -/
def isPlainNumber (word : List Char) : Bool :=
  !word.isEmpty && word.all plainDigits.contains

/-- The words that no name may be, letter case aside, unless it stands behind a point. -/
def forbiddenWords : List String :=
  "GO" :: dangerousWords

def isForbidden (word : List Char) : Bool :=
  forbiddenWords.contains (plainUpper (String.ofList word))

/-- What may stand between two marks or at an end of the text: nothing, a number without a point at
its side, or a name, and no forbidden word unless it stands behind a point. A dollar sign needs a
number behind it, and a minus sign or slash a blank. -/
structure Fits (before : Option Char) (run : List Char) (after : Option Char) : Prop where
  mark : ∀ c ∈ after, c ∈ plainMarks
  word : run = []
    ∨ (isPlainNumber run = true ∧ before ≠ some '.' ∧ after ≠ some '.')
    ∨ (isPlainName run = true ∧ (isForbidden run = false ∨ before = some '.'))
  dollar : before = some '$' → isPlainNumber run = true
  spaced : before = some '-' ∨ before = some '/' → run = [] ∧ after = some ' '

instance (before : Option Char) (run : List Char) (after : Option Char)
    : Decidable (Fits before run after) :=
  decidable_of_iff
    ((∀ c ∈ after, c ∈ plainMarks)
      ∧ (run = []
        ∨ (isPlainNumber run = true ∧ before ≠ some '.' ∧ after ≠ some '.')
        ∨ (isPlainName run = true ∧ (isForbidden run = false ∨ before = some '.')))
      ∧ (before = some '$' → isPlainNumber run = true)
      ∧ (before = some '-' ∨ before = some '/' → run = [] ∧ after = some ' '))
    ⟨fun ⟨mark, word, dollar, spaced⟩ => ⟨mark, word, dollar, spaced⟩,
      fun h => ⟨h.mark, h.word, h.dollar, h.spaced⟩⟩

/-- Whether a text is calm that goes on behind a mark and the beginning of a word. -/
def calm (mark : Option Char) (word : List Char) : List Char → Bool
  | [] => decide (Fits mark word none)
  | c :: rest =>
      if isWord c then calm mark (word ++ [c]) rest
      else decide (Fits mark word (some c)) && calm (some c) [] rest

theorem mem_digits_of_isPlainNumber {word : List Char} (h : isPlainNumber word = true)
    : word ≠ [] ∧ ∀ c ∈ word, c ∈ plainDigits := by
  simpa [isPlainNumber] using h

-----------------------------------------------------------------------------------------
-- Places in a calm text
-----------------------------------------------------------------------------------------

section Places

variable {mark : Option Char} {word s : List Char}

/-- A word of a calm text fits, with what is still to come of it, by induction. -/
theorem fits_of_calm (h : calm mark word s = true)
    : Fits mark (word ++ s.takeWhile isWord) (s.dropWhile isWord).head? := by
  induction s generalizing word with
  | nil => simpa [calm] using h
  | cons c rest ih =>
      cases inside : isWord c with
      | true =>
          rw [calm, if_pos inside] at h
          simpa [inside] using ih h
      | false =>
          rw [calm, if_neg (by simp [inside]), Bool.and_eq_true, decide_eq_true_eq] at h
          simpa [inside] using h.1

/-- What stands between marks is plain. -/
theorem Fits.plain {after : Option Char} {run : List Char} (h : Fits mark run after)
    : ∀ c ∈ run, c ∈ plainCharacters := by
  intro c member
  rcases h.word with rfl | ⟨number, _⟩ | ⟨name, _⟩
  · exact absurd member List.not_mem_nil
  · have digits : ∀ c ∈ plainDigits, c ∈ plainCharacters := by decide
    exact digits c ((mem_digits_of_isPlainNumber number).2 c member)
  · exact (mem_plain_of_isPlainName name c member).1

/-- A calm text is plain, by induction on the text with the word under way. -/
theorem plain_of_calm (h : calm mark word s = true)
    : ∀ c ∈ word ++ s, c ∈ plainCharacters := by
  induction s generalizing mark word with
  | nil =>
      rw [List.append_nil]
      exact Fits.plain (by simpa [calm] using h)
  | cons c rest ih =>
      cases inside : isWord c with
      | true =>
          rw [calm, if_pos inside] at h
          simpa using ih h
      | false =>
          rw [calm, if_neg (by simp [inside]), Bool.and_eq_true, decide_eq_true_eq] at h
          obtain ⟨fits, rest⟩ := h
          have marks : ∀ c ∈ plainMarks, c ∈ plainCharacters := by decide
          simp only [List.mem_append, List.mem_cons, or_imp, forall_and, forall_eq]
          exact ⟨fits.plain, marks c (fits.mark c rfl), by simpa using ih rest⟩

/-- A place in a calm text at which no word is under way: a mark stands before it, or the word that
stands before it is over. -/
structure Place (before : Option Char) (s : List Char) : Prop where
  calm : ∃ mark word, calm mark word s = true ∧ (∀ c ∈ mark, isWord c = false)
    ∧ (∀ c ∈ word, isWord c = true) ∧ before = word.getLast?.or mark
  edge : ∀ c ∈ before, ∀ next ∈ s.head?, isWord c = true → isWord next = false

theorem place_of_calm (h : calm none [] s = true)
    : Place none s :=
  ⟨⟨none, [], h, by simp, by simp, rfl⟩, by simp⟩

/-- A calm text stays so behind any of its characters, by induction on the text. -/
theorem calm_drop (h : calm mark word s = true) (outside : ∀ c ∈ mark, isWord c = false)
    (inside : ∀ c ∈ word, isWord c = true) (n : Nat)
    : ∃ mark' word', calm mark' word' (s.drop n) = true ∧ (∀ c ∈ mark', isWord c = false)
      ∧ (∀ c ∈ word', isWord c = true)
      ∧ (s.take n).getLast?.or (word.getLast?.or mark) = word'.getLast?.or mark' := by
  induction s generalizing mark word n with
  | nil => exact ⟨mark, word, by simpa using h, outside, inside, by simp⟩
  | cons c rest ih =>
      cases n with
      | zero => exact ⟨mark, word, h, outside, inside, rfl⟩
      | succ k =>
          rw [getLast?_take_cons, List.drop_succ_cons]
          cases kind : isWord c with
          | true =>
              rw [calm, if_pos kind] at h
              have same : (word ++ [c]).getLast?.or mark = some c := by simp
              rw [← same]
              refine ih h outside ?_ k
              intro d member
              rcases List.mem_append.mp member with member | member
              · exact inside d member
              · obtain rfl := List.mem_singleton.mp member
                exact kind
          | false =>
              rw [calm, if_neg (by simp [kind]), Bool.and_eq_true] at h
              exact ih h.2 (by simpa using kind) (by simp) k

/-- From one place to the end of a token is another place. -/
theorem Place.pass {before : Option Char} {n : Nat} (h : Place before s) (ends : EndsAt s n)
    : Place ((s.take n).getLast?.or before) (s.drop n) := by
  obtain ⟨mark, word, goes, outside, inside, rfl⟩ := h.calm
  refine ⟨calm_drop goes outside inside n, ?_⟩
  intro c last next behind
  refine ends.edge c ?_ next behind
  cases taken : (s.take n).getLast? with
  | some d => simpa [taken] using last
  | none =>
      have pos := ends.pos
      rw [List.getLast?_eq_none_iff, List.take_eq_nil_iff] at taken
      rcases taken with rfl | rfl
      · omega
      · simp at behind

variable {before : Option Char} {c : Char} {rest : List Char}

/-- Where a word begins, nothing of it is under way. -/
theorem Place.calm_word (h : Place before (c :: rest)) (begins : isWord c = true)
    : RideQuestions.Sql.calm before [] (c :: rest) = true := by
  obtain ⟨mark, word, goes, _, inside, rfl⟩ := h.calm
  cases last : word.getLast? with
  | none =>
      obtain rfl := List.getLast?_eq_none_iff.mp last
      exact goes
  | some d =>
      have word : isWord d = true := inside d (List.mem_of_getLast? last)
      have outside := h.edge d (by simp [last]) c rfl word
      exact absurd (outside.symm.trans begins) (by decide)

/-- A word that begins at a place fits between what stands before and behind it. -/
theorem Place.fits_word (h : Place before (c :: rest)) (begins : isWord c = true)
    : Fits before ((c :: rest).takeWhile isWord) ((c :: rest).dropWhile isWord).head? :=
  fits_of_calm (h.calm_word begins)

/-- Behind a mark, a calm text begins anew. -/
theorem Place.calm_mark (h : Place before (c :: rest)) (mark : isWord c = false)
    : RideQuestions.Sql.calm (some c) [] rest = true := by
  obtain ⟨_, _, goes, _⟩ := h.calm
  rw [RideQuestions.Sql.calm, if_neg (by simp [mark]), Bool.and_eq_true] at goes
  exact goes.2

theorem Place.fits_behind (h : Place before (c :: rest)) (mark : isWord c = false)
    : Fits (some c) (rest.takeWhile isWord) (rest.dropWhile isWord).head? :=
  fits_of_calm (h.calm_mark mark)

theorem Place.plain (h : Place before s)
    : ∀ c ∈ s, c ∈ plainCharacters := by
  obtain ⟨mark, word, goes, _⟩ := h.calm
  exact fun c member => plain_of_calm goes c (List.mem_append_right _ member)

/-- What begins with a digit is a number where it fits. -/
theorem Fits.number {after : Option Char} {run : List Char} (h : Fits before (c :: run) after)
    (digit : isDigit c = true)
    : isPlainNumber (c :: run) = true ∧ before ≠ some '.' ∧ after ≠ some '.' := by
  rcases h.word with empty | number | ⟨name, _⟩
  · exact absurd empty (by simp)
  · exact number
  · have letters : ∀ c ∈ '_' :: plainLetters, isDigit c = false := by decide
    rw [isPlainName, Bool.and_eq_true, List.contains_iff_mem] at name
    exact absurd ((letters c name.1).symm.trans digit) (by decide)

/-- A number that begins at a place goes on to where its word ends, and no point stands there. -/
theorem Place.counted (h : Place before (c :: rest)) (digit : isDigit c = true)
    : ∀ next ∈ ((c :: rest).dropWhile isDigit).head?, isWord next = false ∧ next ≠ '.' := by
  have words : ∀ d ∈ plainCharacters, isDigit d = true → isWord d = true := by decide
  have basic : ∀ d ∈ plainDigits, isDigit d = true := by decide
  have begins : isWord c = true := words c (h.plain c List.mem_cons_self) digit
  have run : (c :: rest).takeWhile isWord = c :: rest.takeWhile isWord := by simp [begins]
  have fits := h.fits_word begins
  rw [run] at fits
  obtain ⟨number, _, noPoint⟩ := fits.number digit
  rw [← run] at number
  -- The whole word is digits, so the digits end where it ends.
  have whole : (c :: rest).dropWhile isDigit
      = ((c :: rest).dropWhile isWord).dropWhile isDigit :=
    calc (c :: rest).dropWhile isDigit
        = ((c :: rest).takeWhile isWord ++ (c :: rest).dropWhile isWord).dropWhile isDigit := by
          rw [List.takeWhile_append_dropWhile]
      _ = ((c :: rest).dropWhile isWord).dropWhile isDigit :=
          List.dropWhile_append_of_pos fun d member =>
            basic d ((mem_digits_of_isPlainNumber number).2 d member)
  rw [whole]
  cases behind : (c :: rest).dropWhile isWord with
  | nil => simp
  | cons d more =>
      have member : d ∈ c :: rest := (List.dropWhile_sublist isWord).subset (by simp [behind])
      have outside : isWord d = false :=
        not_of_mem_head?_dropWhile (s := c :: rest) (by simp [behind])
      have stops : ¬ isDigit d = true := fun counts =>
        absurd ((words d (h.plain d member) counts).symm.trans outside) (by decide)
      rw [List.dropWhile_cons_of_neg stops]
      rintro next ⟨⟩
      exact ⟨outside, by simpa [behind] using noPoint⟩

/-- Every place in a calm text is one at which tokens end where words end. -/
theorem Place.tame (h : Place before s)
    : Tame s where
  plain := h.plain
  dollar := by
    rintro rest rfl
    have number := (h.fits_behind (by decide)).dollar rfl
    obtain ⟨some_digit, digits⟩ := mem_digits_of_isPlainNumber number
    have basic : ∀ d ∈ plainDigits, isDigit d = true := by decide
    cases rest with
    | nil => exact absurd rfl some_digit
    | cons d more =>
        cases begins : isWord d with
        | false => simp [begins] at some_digit
        | true => exact ⟨d, more, rfl, basic d (digits d (by simp [begins]))⟩
  spaced := by
    rintro c rest rfl mark
    have outside : isWord c = false := by rcases mark with rfl | rfl <;> decide
    obtain ⟨empty, blank⟩ := (h.fits_behind outside).spaced (by simpa using mark)
    have same := List.takeWhile_append_dropWhile (p := isWord) (l := rest)
    rw [empty, List.nil_append] at same
    rwa [same] at blank
  pointed := by
    rintro d rest rfl
    have words : ∀ d ∈ plainCharacters, isDigit d = true → isWord d = true := by decide
    have fits := h.fits_behind (by decide)
    by_contra digit
    rw [Bool.not_eq_false] at digit
    have begins : isWord d = true := words d (h.plain d (by simp)) digit
    rw [List.takeWhile_cons_of_pos begins] at fits
    exact (fits.number digit).2.1 rfl
  counted := by
    rintro c rest rfl
    exact h.counted

end Places

-----------------------------------------------------------------------------------------
-- Forbidden words
-----------------------------------------------------------------------------------------

/-- A plain text whose capital form is a forbidden word is made of letters. -/
theorem letters_of_isForbidden {run : List Char} (plain : ∀ c ∈ run, c ∈ plainCharacters)
    (forbidden : isForbidden run = true)
    : ∀ c ∈ run, c ∈ plainLetters := by
  intro c member
  rw [isForbidden, List.contains_iff_mem] at forbidden
  have same : ∀ c ∈ plainCharacters, c ∉ plainLetters → plainCapitals c = [c] := by decide
  have capitals : ∀ word ∈ forbiddenWords, ∀ c ∈ word.toList, c ∈ plainLetters := by decide
  by_contra other
  refine other (capitals _ forbidden c ?_)
  rw [plainUpper, String.toList_ofList, String.toList_ofList, List.mem_flatMap]
  exact ⟨c, member, by simp [same c (plain c member) other]⟩

/-- A forbidden word is none of the keywords that are looked for before names. -/
theorem anyPhrase_eq_none {s : List Char} (plain : ∀ c ∈ s, c ∈ plainCharacters)
    (forbidden : isForbidden (s.takeWhile isWord) = true)
    : anyPhrase [["CASE"], ["IN"], ["VALUES"], ["USING"], ["FROM"], ["AS"]] s = none := by
  have allowed : ∀ word ∈ ["CASE", "IN", "VALUES", "USING", "FROM", "AS"],
      (∀ c ∈ word.toList, c ∈ plainCapitalLetters) ∧ word ∉ forbiddenWords := by
    decide
  rw [anyPhrase, List.findSome?_eq_none_iff]
  intro words member
  obtain ⟨word, keyword, rfl⟩ : ∃ word ∈ ["CASE", "IN", "VALUES", "USING", "FROM", "AS"],
      words = [word] := by simpa using member
  obtain ⟨capitals, other⟩ := allowed word keyword
  rw [Option.eq_none_iff_forall_ne_some]
  intro n matched
  obtain ⟨spelt, ends⟩ := Matcher.followedBy_eq_some_iff.mp matched
  obtain ⟨_, words⟩ := isWord_of_spelled capitals spelt
  have upper := spelled_upper capitals spelt fun c member => plain c (List.mem_of_mem_take member)
  rw [takeWhile_eq_of_split (List.take_append_drop n s).symm words
    (Matcher.next_of_endsWord ends), isForbidden, plainUpper,
    String.toList_ofList, upper, String.ofList_toList, List.contains_iff_mem] at forbidden
  exact other forbidden

/-- Behind a point, a forbidden word is a name. -/
theorem firstToken_behind_point {c : Char} {rest : List Char}
    (plain : ∀ d ∈ c :: rest, d ∈ plainCharacters) (letter : c ∈ plainLetters)
    (forbidden : isForbidden ((c :: rest).takeWhile isWord) = true)
    : (firstToken (some '.') (c :: rest)).1 = .name := by
  have noKeyword : rule (.keyword .other)
      (anyPhrase [["CASE"], ["IN"], ["VALUES"], ["USING"], ["FROM"], ["AS"]]) (some '.') (c :: rest)
      = none :=
    rule_eq_none (anyPhrase_eq_none plain forbidden)
  have split : nameRules
      = rule (.keyword .other)
          (anyPhrase [["CASE"], ["IN"], ["VALUES"], ["USING"], ["FROM"], ["AS"]])
        :: rule .name (Matcher.followedBy pointAhead letterWord)
        :: (fun before s => if before = some '.' then rule .name letterWord before s else none)
        :: nameRules.drop 3 := rfl
  have found := findSome?_nameRules (List.mem_cons_of_mem _ letter) (some '.') rest
  rw [split, List.findSome?_cons, noKeyword] at found
  dsimp only at found
  rw [List.findSome?_cons] at found
  cases ahead : rule .name (Matcher.followedBy pointAhead letterWord) (some '.') (c :: rest) with
  | some token =>
      rw [ahead, Option.some.injEq] at found
      obtain ⟨k, _, rfl⟩ := Option.map_eq_some_iff.mp ahead
      rw [← found]
  | none =>
      rw [ahead] at found
      dsimp only at found
      rw [List.findSome?_cons] at found
      dsimp only at found
      rw [if_pos rfl, rule, letterWord_eq letter, Option.map_some, Option.some.injEq] at found
      rw [← found]

-----------------------------------------------------------------------------------------
-- Tokens of a calm text
-----------------------------------------------------------------------------------------

/-- A token that the guard has nothing against: no dangerous keyword, no end of a batch, and made of
plain characters. -/
structure Token.Quiet (t : Token) : Prop where
  keyword : t.isKeyword = true → t.upper ∉ dangerousWords
  batch : Progress.separatesBatches t = false
  plain : ∀ c ∈ t.text.toList, c ∈ plainCharacters

section Quiet

variable {before : Option Char} {c : Char} {rest : List Char}

/-- A forbidden word at a place of a calm text is a name. -/
theorem Place.name_of_isForbidden (h : Place before (c :: rest)) (word : isWord c = true)
    (forbidden : isForbidden ((c :: rest).takeWhile isWord) = true)
    : (firstToken before (c :: rest)).1 = .name := by
  have fits := h.fits_word word
  have letters := letters_of_isForbidden fits.plain forbidden
  have run : (c :: rest).takeWhile isWord = c :: rest.takeWhile isWord := by simp [word]
  have letter : c ∈ plainLetters := letters c (by simp [run])
  have noDigit : c ∉ plainDigits := by
    have apart : ∀ c ∈ plainLetters, c ∉ plainDigits := by decide
    exact apart c letter
  rcases fits.word with empty | ⟨number, _⟩ | ⟨_, allowed | rfl⟩
  · exact absurd (run.symm.trans empty) (by simp)
  · exact absurd ((mem_digits_of_isPlainNumber number).2 c (by simp [run])) noDigit
  · exact absurd (forbidden.symm.trans allowed) (by decide)
  · exact firstToken_behind_point h.plain letter forbidden

/-- A token that is a forbidden word, alone or with more behind it that goes on with no word, is a
name. -/
theorem Place.name_of_token (h : Place before (c :: rest)) {word behind : List Char}
    (taken : (c :: rest).take (firstToken before (c :: rest)).2 = word ++ behind)
    (forbidden : isForbidden word = true) (some_text : word ≠ [])
    (apart : ∀ d ∈ behind.head?, isWord d = false)
    : (firstToken before (c :: rest)).1 = .name := by
  have ends := h.tame.firstToken_endsAt before
  generalize (firstToken before (c :: rest)).2 = n at taken ends
  have whole : c :: rest = word ++ (behind ++ (c :: rest).drop n) := by
    rw [← List.append_assoc, ← taken, List.take_append_drop]
  have member : ∀ d ∈ word, d ∈ c :: rest := by
    intro d inside
    rw [whole]
    exact List.mem_append_left _ inside
  have letters := letters_of_isForbidden (fun d inside => h.plain d (member d inside)) forbidden
  have inside : ∀ d ∈ word, isWord d = true := by
    have words : ∀ d ∈ plainLetters, isWord d = true := by decide
    exact fun d member => words d (letters d member)
  have next : ∀ d ∈ (behind ++ (c :: rest).drop n).head?, isWord d = false := by
    intro d first
    cases behind with
    | cons e more => exact apart d (by simpa using first)
    | nil =>
        have final := List.getLast?_eq_some_getLast some_text
        rw [List.append_nil] at taken
        exact ends.edge _ (by rw [taken]; exact final) d (by simpa using first)
          (inside _ (List.getLast_mem some_text))
  have run := takeWhile_eq_of_split whole inside next
  have first : isWord c = true := by
    by_contra outside
    rw [List.takeWhile_cons_of_neg outside] at run
    exact some_text run.symm
  exact h.name_of_isForbidden first (by rwa [run])

/-- Every token that begins at a place of a calm text is quiet. -/
theorem Place.quiet (h : Place before (c :: rest))
    : (tokenAt before (c :: rest)).Quiet where
  keyword := by
    intro keyword dangerous
    have pos := (h.tame.firstToken_endsAt before).pos
    have forbidden : isForbidden ((c :: rest).take (firstToken before (c :: rest)).2) = true := by
      rw [isForbidden, List.contains_iff_mem]
      exact List.mem_cons_of_mem _ dangerous
    have name := h.name_of_token (List.append_nil _).symm forbidden (by simp; omega) (by simp)
    simp [tokenAt, Token.isKeyword, name] at keyword
  batch := by
    by_contra separates
    rw [Bool.not_eq_false, Progress.separatesBatches, Bool.and_eq_true, decide_eq_true_eq,
      decide_eq_true_eq, tokenAt, String.toList_ofList] at separates
    obtain ⟨kind, go⟩ := separates
    have taken := List.takeWhile_append_dropWhile (p := fun c => !isBlank c)
      (l := (c :: rest).take (firstToken before (c :: rest)).2)
    rw [go] at taken
    have apart : ∀ d ∈ (((c :: rest).take (firstToken before (c :: rest)).2).dropWhile
        fun c => !isBlank c).head?, isWord d = false := by
      intro d first
      have blanks : ∀ d ∈ plainCharacters, isBlank d = true → isWord d = false := by decide
      have blank : isBlank d = true := by simpa using not_of_mem_head?_dropWhile first
      have member : d ∈ c :: rest :=
        List.mem_of_mem_take ((List.dropWhile_sublist _).subset (List.mem_of_mem_head? first))
      exact blanks d (h.plain d member) blank
    have name := h.name_of_token taken.symm (by decide) (by simp) apart
    exact absurd (kind.symm.trans name) (by decide)
  plain := by
    intro d member
    rw [tokenAt, String.toList_ofList] at member
    exact h.plain d (List.mem_of_mem_take member)

end Quiet

/-- A place passes to where the token that begins there ends. -/
theorem Place.passes {before : Option Char} {c : Char} {rest : List Char}
    (place : Place before (c :: rest))
    : 0 < (firstToken before (c :: rest)).2
      ∧ Place (((c :: rest).take (firstToken before (c :: rest)).2).getLast?.or before)
        ((c :: rest).drop (firstToken before (c :: rest)).2) :=
  have ends := place.tame.firstToken_endsAt before
  ⟨ends.pos, place.pass ends⟩

/-- Every token of a calm text is quiet. -/
theorem tokens_quiet {text : String} (h : calm none [] text.toList = true)
    : ∀ t ∈ tokens text, t.Quiet := by
  intro t member
  have start : Place ((text.toList.take 0).getLast?.or none) (text.toList.drop 0) := place_of_calm h
  obtain ⟨before, c, rest, place, rfl⟩ :=
    tokensFrom_begins (fun _ _ _ => Place.passes) start t member
  exact place.quiet

end RideQuestions.Sql
