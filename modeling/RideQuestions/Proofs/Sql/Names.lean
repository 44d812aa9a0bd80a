import RideQuestions.Proofs.Sql.Edge
import RideQuestions.Proofs.Text.Words

/-! Names in a text. What begins with a letter or an underscore is told by the rules for words
alone, so that a plain name is a token of its own, unless a phrase of several words begins with
it.
-/

namespace RideQuestions.Sql

open RideQuestions.Text

-----------------------------------------------------------------------------------------
-- Matches told by the first character
-----------------------------------------------------------------------------------------

theorem rule_eq_none {kind : TokenKind} {m : Matcher} {before : Option Char} {s : List Char}
    (h : m s = none)
    : rule kind m before s = none := by
  rw [rule, h]
  rfl

theorem ruleNotAfter_eq_none {p : Char → Bool} {kind : TokenKind} {m : Matcher}
    {before : Option Char} {s : List Char} (h : m s = none)
    : ruleNotAfter p kind m before s = none := by
  rw [ruleNotAfter, rule_eq_none h, ite_self]

section First

variable {c : Char} {rest : List Char}

theorem Matcher.one_eq_none {p : Char → Bool} (other : p c = false)
    : Matcher.one p (c :: rest) = none := by
  rw [Matcher.one, other]
  rfl

theorem Matcher.andThen_one_eq_none {p : Char → Bool} {m : Matcher} (other : p c = false)
    : Matcher.andThen (Matcher.one p) m (c :: rest) = none := by
  rw [Matcher.andThen, Matcher.one_eq_none other]
  rfl

theorem Matcher.followedBy_eq_none {ahead : List Char → Bool} {m : Matcher} {s : List Char}
    {n : Nat} (matched : m s = some n) (other : ahead (s.drop n) = false)
    : Matcher.followedBy ahead m s = none := by
  rw [Matcher.followedBy, matched]
  exact if_neg (by simp [other])

theorem Matcher.exactly_eq_none {text : String} (other : ∀ d ∈ text.toList.head?, d ≠ c)
    (some_text : text.toList ≠ [])
    : Matcher.exactly text (c :: rest) = none := by
  rw [Option.eq_none_iff_forall_ne_some]
  intro n matched
  obtain ⟨_, behind, same⟩ := Matcher.exactly_eq_some_iff.mp matched
  cases opens : text.toList with
  | nil => exact some_text opens
  | cons d more =>
      obtain rfl : d = c := by simpa [opens] using congrArg List.head? same
      exact other d (by simp [opens]) rfl

theorem quotedText_eq_none {mark : Char} {escapes : Bool} (other : c ≠ mark)
    : quotedText mark escapes (c :: rest) = none := by
  rw [quotedText, Matcher.one_eq_none (decide_eq_false other)]
  rfl

theorem taggedLiteral_eq_none (other : c ≠ '$')
    : taggedLiteral (c :: rest) = none := by
  rw [taggedLiteral, Matcher.andThen_one_eq_none (decide_eq_false other)]
  rfl

theorem blockComment_eq_none (other : c ≠ '/')
    : blockComment (c :: rest) = none := by
  rw [blockComment, Matcher.exactly_eq_none (by simpa using other.symm) (by decide)]
  rfl

theorem lineComment_eq_none (dash : c ≠ '-') (hash : c ≠ '#')
    : lineComment (c :: rest) = none := by
  rw [lineComment, Matcher.andThen, Matcher.orElse,
    Matcher.exactly_eq_none (by simpa using dash.symm) (by decide),
    Matcher.exactly_eq_none (by simpa using hash.symm) (by decide)]
  rfl

/-- What begins with neither a digit nor a minus sign or point is no number. -/
theorem numberText_eq_none (digit : isDigit c = false) (minus : c ≠ '-') (point : c ≠ '.')
    : numberText (c :: rest) = none := by
  have zero : c ≠ '0' := by
    rintro rfl
    exact absurd digit (by decide)
  have unsigned (m : Matcher) : Matcher.andThen orNoneSign m (c :: rest) = m (c :: rest) := by
    rw [Matcher.andThen, orNoneSign, Matcher.orNone, Matcher.one_eq_none (decide_eq_false minus)]
    simp
  have noDigits : Matcher.run isDigit (c :: rest) = none := by simp [Matcher.run, digit]
  have few : digitsBeforeLetter (c :: rest) = 0 := by simp [digitsBeforeLetter, digit]
  rw [numberText, Matcher.orElse, Matcher.orElse, Matcher.orElse, hexNumber, scaledNumber,
    pointNumber, wholeNumber, unsigned, unsigned, unsigned, unsigned,
    Matcher.andThen_one_eq_none (decide_eq_false zero), Matcher.orElse,
    Matcher.andThen_one_eq_none (decide_eq_false point), digitsAfterPoint, few, Matcher.andThen,
    Matcher.andThen, noDigits]
  rfl

end First

-----------------------------------------------------------------------------------------
-- The rules for words
-----------------------------------------------------------------------------------------

/-- The characters that a plain name begins with. -/
def nameStarts : List Char :=
  '_' :: plainLetters

/-- The rules that make a token of what begins like a name, in order of precedence. -/
def nameRules : List Rule :=
  (rules.drop 12).take 1 ++ ((rules.drop 14).take 3 ++ (rules.drop 21).take 6)

section Starts

variable {c : Char} {rest : List Char}

theorem wordRule_eq (word : isWord c = true) (before : Option Char)
    : wordRule before (c :: rest)
      = some (wordKind (String.ofList ((c :: rest).take (1 + (rest.takeWhile wordChar).length))),
          1 + (rest.takeWhile wordChar).length) := by
  simp [wordRule, Matcher.andThen, Matcher.one, Matcher.runOrNone, word]

theorem letterWord_eq (letter : c ∈ plainLetters)
    : letterWord (c :: rest) = some (1 + (rest.takeWhile isWord).length) := by
  have letters : ∀ c ∈ plainLetters, isLetter c = true := by decide
  simp [letterWord, Matcher.andThen, Matcher.one, Matcher.runOrNone, letters c letter]

/-- A name begins with neither a blank nor a point. -/
theorem apart_of_start (start : c ∈ nameStarts)
    : isBlank c = false ∧ c ≠ '.' := by
  have others : ∀ c ∈ nameStarts, isBlank c = false ∧ c ≠ '.' := by decide
  exact others c start

theorem isWord_of_wordChar {c : Char} (other : wordChar c = false)
    : isWord c = false := by
  rw [wordChar, Bool.or_eq_false_iff, Bool.or_eq_false_iff] at other
  exact other.1.1

/-- All other rules make no token of what begins like a name. -/
theorem markRules_eq_none (start : c ∈ nameStarts) (before : Option Char) (rest : List Char)
    : ∀ r ∈ rules.take 12 ++ ((rules.drop 13).take 1 ++ (rules.drop 17).take 4),
        r before (c :: rest) = none := by
  have other {d : Char} (h : d ∉ nameStarts) : c ≠ d := fun same => h (same ▸ start)
  have single {p : Char → Bool} (h : ∀ d ∈ nameStarts, p d = false)
      : Matcher.one p (c :: rest) = none :=
    Matcher.one_eq_none (h c start)
  have led {p : Char → Bool} {m : Matcher} (h : ∀ d ∈ nameStarts, p d = false)
      : Matcher.andThen (Matcher.one p) m (c :: rest) = none :=
    Matcher.andThen_one_eq_none (h c start)
  have exact_none {text : String} (marks : ∀ d ∈ text.toList.head?, d ∉ nameStarts)
      (some_text : text.toList ≠ []) : Matcher.exactly text (c :: rest) = none :=
    Matcher.exactly_eq_none (fun d first => (other (marks d first)).symm) some_text
  simp only [rules, List.take_succ_cons, List.take_zero, List.drop_succ_cons, List.drop_zero,
    List.cons_append, List.nil_append, List.forall_mem_cons]
  refine ⟨?tagged, ?block, ?line, ?lineEnd, ?blank, ?operator, ?back, ?accent, ?mark, ?percent,
    ?placeholder, ?backslash, ?sign, ?number, ?quoted, ?doubled, ?bracketed, by simp⟩
  case tagged => exact ruleNotAfter_eq_none (taggedLiteral_eq_none (other (by decide)))
  case block => exact rule_eq_none (blockComment_eq_none (other (by decide)))
  case line =>
    exact rule_eq_none (lineComment_eq_none (other (by decide)) (other (by decide)))
  case lineEnd =>
    refine rule_eq_none ?_
    rw [lineEnd]
    · exact fun _ same => other (by decide) (List.cons.inj same).1
    · exact fun _ same => other (by decide) (List.cons.inj same).1
    · exact fun _ same => other (by decide) (List.cons.inj same).1
  case blank => exact rule_eq_none (single (by decide))
  case operator =>
    refine rule_eq_none ?_
    rw [Matcher.orElse, Matcher.orElse, exact_none (by decide) (by decide),
      exact_none (by decide) (by decide), exact_none (by decide) (by decide)]
    rfl
  case back => exact rule_eq_none (quotedText_eq_none (other (by decide)))
  case accent => exact rule_eq_none (quotedText_eq_none (other (by decide)))
  case mark => exact rule_eq_none (single (by decide))
  case percent => exact rule_eq_none (led (by decide))
  case placeholder => exact ruleNotAfter_eq_none (led (by decide))
  case backslash => exact rule_eq_none (led (by decide))
  case sign =>
    refine rule_eq_none ?_
    rw [Matcher.andThen, Matcher.orElse, Matcher.orElse, exact_none (by decide) (by decide),
      exact_none (by decide) (by decide), exact_none (by decide) (by decide)]
    rfl
  case number =>
    have digits : ∀ d ∈ nameStarts, isDigit d = false := by decide
    exact rule_eq_none
      (numberText_eq_none (digits c start) (other (by decide)) (other (by decide)))
  case quoted => exact rule_eq_none (quotedText_eq_none (other (by decide)))
  case doubled => exact rule_eq_none (quotedText_eq_none (other (by decide)))
  case bracketed => exact ruleNotAfter_eq_none (led (by decide))

/-- What begins like a name is told by the rules for words alone, the last of which takes it if no
other does. -/
theorem findSome?_nameRules (start : c ∈ nameStarts) (before : Option Char) (rest : List Char)
    : nameRules.findSome? (· before (c :: rest)) = some (firstToken before (c :: rest)) := by
  have others := List.findSome?_eq_none_iff.mpr (markRules_eq_none start before rest)
  simp only [List.findSome?_append, Option.or_eq_none_iff] at others
  obtain ⟨first, second, third⟩ := others
  have split : rules = rules.take 12 ++ ((rules.drop 12).take 1 ++ ((rules.drop 13).take 1
      ++ ((rules.drop 14).take 3 ++ ((rules.drop 17).take 4 ++ ((rules.drop 21).take 6
        ++ rules.drop 27))))) := rfl
  have words : ∀ d ∈ nameStarts, isWord d = true := by decide
  -- The rule for any word is among the last of them, so that no rule behind it is reached.
  have last : ((rules.drop 21).take 6).findSome? (· before (c :: rest)) ≠ none := by
    intro unmatched
    have word := List.findSome?_eq_none_iff.mp unmatched wordRule (by simp [rules])
    rw [wordRule_eq (words c start)] at word
    exact absurd word (by simp)
  obtain ⟨lastToken, lastMade⟩ := Option.ne_none_iff_exists'.mp last
  have same : rules.findSome? (· before (c :: rest))
      = nameRules.findSome? (· before (c :: rest)) := by
    rw [split]
    simp only [nameRules, List.findSome?_append, first, second, third, lastMade, Option.none_or,
      Option.some_or]
  have found : nameRules.findSome? (· before (c :: rest)) ≠ none := by
    simp [nameRules, lastMade]
  obtain ⟨token, made⟩ := Option.ne_none_iff_exists'.mp found
  rw [firstToken, same, made]
  rfl

/-- Except behind a point, what stands before a name does not matter. -/
theorem firstToken_start (start : c ∈ nameStarts) {before : Option Char}
    (noPoint : before ≠ some '.')
    : firstToken before (c :: rest) = firstToken none (c :: rest) := by
  have same : ∀ r ∈ nameRules, r before (c :: rest) = r none (c :: rest) := by
    simp only [nameRules, rules, List.take_succ_cons, List.take_zero, List.drop_succ_cons,
      List.drop_zero, List.cons_append, List.nil_append, List.forall_mem_cons]
    refine ⟨rfl, rfl, ?behindPoint, rfl, rfl, rfl, rfl, rfl, rfl, rfl, by simp⟩
    case behindPoint => rw [if_neg noPoint, if_neg (Option.some_ne_none _).symm]
  have made := congrArg (List.findSome? id) (List.map_congr_left same)
  rw [List.findSome?_map, List.findSome?_map] at made
  exact Option.some.inj
    ((findSome?_nameRules start before rest).symm.trans
      (made.trans (findSome?_nameRules start none rest)))

/-- A token that begins like a name says something. -/
theorem isSignificant_start (start : c ∈ nameStarts) (before : Option Char) (text : String)
    : Token.isSignificant ⟨(firstToken before (c :: rest)).1, text⟩ = true := by
  have of_rule {kind : TokenKind} {m : Matcher} (speaks : Token.isSignificant ⟨kind, text⟩ = true)
      : ∀ token, rule kind m before (c :: rest) = some token →
          Token.isSignificant ⟨token.1, text⟩ = true := by
    intro token made
    obtain ⟨n, matched, rfl⟩ := Option.map_eq_some_iff.mp made
    exact speaks
  have speaks : ∀ r ∈ nameRules, ∀ token, r before (c :: rest) = some token →
      Token.isSignificant ⟨token.1, text⟩ = true := by
    simp only [nameRules, rules, List.take_succ_cons, List.take_zero, List.drop_succ_cons,
      List.drop_zero, List.cons_append, List.nil_append, List.forall_mem_cons]
    refine ⟨of_rule rfl, of_rule rfl, ?behindPoint, of_rule rfl, of_rule rfl, of_rule rfl,
      of_rule rfl, of_rule rfl, of_rule rfl, ?word, by simp⟩
    case behindPoint =>
      intro token made
      rw [Option.ite_none_right_eq_some] at made
      exact of_rule rfl token made.2
    case word =>
      intro token made
      have words : ∀ d ∈ nameStarts, isWord d = true := by decide
      rw [wordRule_eq (words c start), Option.some.injEq] at made
      rw [← made, wordKind]
      dsimp only
      repeat' split
      all_goals rfl
  obtain ⟨r, member, made⟩ :=
    List.exists_of_findSome?_eq_some (findSome?_nameRules start before rest)
  exact speaks r member _ made

end Starts

-----------------------------------------------------------------------------------------
-- Plain names
-----------------------------------------------------------------------------------------

/-- A letter or underscore with letters, digits and underscores behind it. -/
def isPlainName : List Char → Bool
  | [] => false
  | c :: rest =>
      ('_' :: plainLetters).contains c && rest.all ('_' :: plainLetters ++ plainDigits).contains

theorem mem_plain_of_isPlainName {word : List Char} (h : isPlainName word = true)
    : ∀ c ∈ word, c ∈ plainCharacters ∧ isWord c = true := by
  have parts : ∀ c ∈ '_' :: plainLetters ++ plainDigits, c ∈ plainCharacters ∧ isWord c = true := by
    decide
  cases word with
  | nil => simp
  | cons first rest =>
      simp only [isPlainName, Bool.and_eq_true, List.contains_iff_mem, List.all_eq_true] at h
      obtain ⟨start, behind⟩ := h
      intro c member
      rcases List.mem_cons.mp member with rfl | member
      · exact parts c (List.mem_append_left _ start)
      · exact parts c (behind c member)

theorem ne_nil_of_isPlainName {word : List Char} (name : isPlainName word = true)
    : word ≠ [] := by
  rintro rfl
  exact absurd name (by decide)

theorem exists_cons_of_isPlainName {word : List Char} (h : isPlainName word = true)
    : ∃ c rest, word = c :: rest ∧ c ∈ nameStarts := by
  cases word with
  | nil => exact absurd h (by decide)
  | cons c rest =>
      rw [isPlainName, Bool.and_eq_true, List.contains_iff_mem] at h
      exact ⟨c, rest, rfl, h.1⟩

-----------------------------------------------------------------------------------------
-- Spelling
-----------------------------------------------------------------------------------------

/-- What a capital letter is spelled with is part of a word. -/
theorem isWord_of_isLetterOf {capital c : Char} (known : capital ∈ plainCapitalLetters)
    (h : isLetterOf capital c = true)
    : isWord c = true := by
  have either : ∀ capital ∈ plainCapitalLetters,
      isWord capital = true ∧ Ranges.contains wordRanges (capital.toNat + 32) = true := by
    decide
  have signs : ∀ code ∈ [304, 305, 8490, 383], Ranges.contains wordRanges code = true := by
    decide +kernel
  obtain ⟨large, small⟩ := either capital known
  simp only [isLetterOf, Bool.or_eq_true, Bool.and_eq_true, decide_eq_true_eq] at h
  rcases h with (((rfl | code) | ⟨_, code | code⟩) | ⟨_, code⟩) | ⟨_, code⟩
  · exact large
  · rw [isWord, code]
    exact small
  all_goals
    rw [isWord, code]
    exact signs _ (by decide)

/-- What spells a word is as long as the word and made of characters of words, by induction on the
word. -/
theorem isWord_of_spelled {word s : List Char} {n : Nat}
    (capitals : ∀ c ∈ word, c ∈ plainCapitalLetters) (h : spelled word s = some n)
    : n ≤ s.length ∧ ∀ c ∈ s.take n, isWord c = true := by
  induction word generalizing s n with
  | nil =>
      obtain rfl := Option.some.inj h
      simp
  | cons capital rest ih =>
      cases s with
      | nil => simp [spelled] at h
      | cons c behind =>
          rw [spelled, Option.ite_none_right_eq_some, Option.map_eq_some_iff] at h
          obtain ⟨letter, k, spelt, rfl⟩ := h
          obtain ⟨known, others⟩ := List.forall_mem_cons.mp capitals
          obtain ⟨least, words⟩ := ih others spelt
          rw [List.take_succ_cons, List.length_cons]
          exact ⟨by omega, List.forall_mem_cons.mpr ⟨isWord_of_isLetterOf known letter, words⟩⟩

/-- What spells a word with plain characters has it as capital form, by induction on the word. -/
theorem spelled_upper {word s : List Char} {n : Nat}
    (capitals : ∀ c ∈ word, c ∈ plainCapitalLetters) (h : spelled word s = some n)
    (plain : ∀ c ∈ s.take n, c ∈ plainCharacters)
    : (s.take n).flatMap plainCapitals = word := by
  have letters : ∀ capital ∈ plainCapitalLetters, ∀ c ∈ plainCharacters,
      isLetterOf capital c = true → plainCapitals c = [capital] := by
    decide +kernel
  induction word generalizing s n with
  | nil =>
      obtain rfl := Option.some.inj h
      simp
  | cons capital rest ih =>
      cases s with
      | nil => simp [spelled] at h
      | cons c behind =>
          rw [spelled, Option.ite_none_right_eq_some, Option.map_eq_some_iff] at h
          obtain ⟨letter, k, spelt, rfl⟩ := h
          obtain ⟨known, others⟩ := List.forall_mem_cons.mp capitals
          rw [List.take_succ_cons] at plain
          obtain ⟨first, behind⟩ := List.forall_mem_cons.mp plain
          rw [List.take_succ_cons, List.flatMap_cons, letters capital known c first letter,
            ih others spelt behind]
          rfl

/-- What spells a word at a plain name and goes on with no word is the whole name. -/
theorem spelled_name {name rest : List Char} {word : String} {n : Nat}
    (plain : isPlainName name = true) (apart : ∀ c ∈ rest.head?, isWord c = false)
    (capitals : ∀ c ∈ word.toList, c ∈ plainCapitalLetters)
    (h : spelled word.toList (name ++ rest) = some n)
    (ends : ∀ c ∈ ((name ++ rest).drop n).head?, isWord c = false)
    : n = name.length ∧ plainUpper (String.ofList name) = word := by
  obtain ⟨least, words⟩ := isWord_of_spelled capitals h
  have taken : (name ++ rest).take n = name :=
    calc (name ++ rest).take n
        = (name ++ rest).takeWhile isWord :=
          (takeWhile_eq_of_split (List.take_append_drop n _).symm words ends).symm
      _ = name :=
          takeWhile_eq_of_split rfl (fun c member => (mem_plain_of_isPlainName plain c member).2)
            apart
  have upper := spelled_upper capitals h (by
    rw [taken]
    exact fun c member => (mem_plain_of_isPlainName plain c member).1)
  refine ⟨?_, ?_⟩
  · rw [← taken, List.length_take, Nat.min_eq_left least]
  · rw [plainUpper, String.toList_ofList, ← taken, upper, String.ofList_toList]

-----------------------------------------------------------------------------------------
-- Phrases
-----------------------------------------------------------------------------------------

/-- Whether the first letter of some words is a given character, letter case aside. -/
def beginsWith (c : Char) (words : List String) : Bool :=
  (words.head?.bind fun word => word.toList.head?).all fun capital => isLetterOf capital c

theorem phrase_eq_none {c : Char} {rest : List Char} {words : List String}
    (other : beginsWith c words = false)
    : phrase words (c :: rest) = none := by
  rw [Option.eq_none_iff_forall_ne_some]
  intro n matched
  have joined := (Matcher.followedBy_eq_some_iff.mp matched).1
  have unspelled : ∀ word ∈ words.head?, spelled word.toList (c :: rest) = none := by
    intro word first
    rw [beginsWith, first, Option.bind_some] at other
    cases letters : word.toList with
    | nil => simp [letters] at other
    | cons capital more =>
        rw [letters, List.head?_cons, Option.all_some] at other
        rw [spelled, if_neg (by simp [other])]
  cases words with
  | nil => simp [beginsWith] at other
  | cons word more =>
      have first := unspelled word rfl
      cases more with
      | nil => exact absurd (joined.symm.trans first) (by simp)
      | cons second rest =>
          obtain ⟨_, _, matched, _⟩ := Matcher.andThen_eq_some_iff.mp joined
          exact absurd (matched.symm.trans first) (by simp)

theorem anyPhrase_eq_none_of_first {c : Char} {rest : List Char} {phrases : List (List String)}
    (others : phrases.all (!beginsWith c ·) = true)
    : anyPhrase phrases (c :: rest) = none := by
  rw [anyPhrase, List.findSome?_eq_none_iff]
  intro words member
  exact phrase_eq_none (by simpa using List.all_eq_true.mp others words member)

section Phrases

variable {name rest : List Char} {n : Nat}

/-- A phrase of one word is a whole name. -/
theorem phrase_name {word : String} (plain : isPlainName name = true)
    (apart : ∀ c ∈ rest.head?, isWord c = false)
    (capitals : ∀ c ∈ word.toList, c ∈ plainCapitalLetters)
    (h : phrase [word] (name ++ rest) = some n)
    : n = name.length ∧ plainUpper (String.ofList name) = word := by
  obtain ⟨spelt, ends⟩ := Matcher.followedBy_eq_some_iff.mp h
  exact spelled_name plain apart capitals spelt (Matcher.next_of_endsWord ends)

/-- The phrases of several words that are a token together. -/
def longPhrases : List (List String) :=
  (keywordPhrases ++ [["CREATE", "OR", "REPLACE"], ["DOUBLE", "PRECISION"]]).filter
    fun words => 1 < words.length

/-- A phrase of several words is a name, blanks, and a phrase of the other words. -/
theorem longPhrase_name {words : List String} (known : words ∈ longPhrases)
    (plain : isPlainName name = true) (apart : ∀ c ∈ rest.head?, isWord c = false)
    (h : phrase words (name ++ rest) = some n)
    : words.head? = some (plainUpper (String.ofList name))
      ∧ 0 < (rest.takeWhile isBlank).length
      ∧ ∃ m, phrase words.tail (rest.dropWhile isBlank) = some m
          ∧ n = name.length + ((rest.takeWhile isBlank).length + m) := by
  have spelt : ∀ words ∈ longPhrases, 1 < words.length
      ∧ ∀ word ∈ words, ∀ c ∈ word.toList, c ∈ plainCapitalLetters := by
    decide
  obtain ⟨several, capitals⟩ := spelt words known
  rcases words with _ | ⟨first, _ | ⟨second, more⟩⟩
  · simp at several
  · simp at several
  obtain ⟨joined, ends⟩ := Matcher.followedBy_eq_some_iff.mp h
  obtain ⟨k, l, spelt, behind, rfl⟩ := Matcher.andThen_eq_some_iff.mp joined
  obtain ⟨blanks, m, run, others, rfl⟩ := Matcher.andThen_eq_some_iff.mp behind
  obtain ⟨rfl, pos⟩ := Matcher.run_eq_some_iff.mp run
  have blankNext : ∀ c ∈ ((name ++ rest).drop k).head?, isWord c = false := by
    intro c next
    cases left : (name ++ rest).drop k with
    | nil => simp [left] at next
    | cons d more =>
        rw [left] at next pos
        obtain rfl : d = c := by simpa using next
        cases blank : isBlank d with
        | true => exact isWord_of_isBlank blank
        | false => simp [blank] at pos
  obtain ⟨rfl, upper⟩ :=
    spelled_name plain apart (capitals first List.mem_cons_self) spelt blankNext
  rw [List.drop_left] at pos others ends
  rw [drop_length_takeWhile] at others
  rw [← List.drop_drop, List.drop_left, ← List.drop_drop, drop_length_takeWhile] at ends
  rw [List.drop_left]
  exact ⟨congrArg some upper.symm, pos, m, Matcher.followedBy_eq_some_iff.mpr ⟨others, ends⟩, rfl⟩

end Phrases

-----------------------------------------------------------------------------------------
-- The token at a name
-----------------------------------------------------------------------------------------

section Names

variable {name rest : List Char}

/-- What a match at a name takes: the whole name, or a phrase of several words. -/
def Takes (name rest : List Char) (n : Nat) : Prop :=
  n = name.length ∨ ∃ words ∈ longPhrases, phrase words (name ++ rest) = some n

theorem letterWord_takes (plain : isPlainName name = true)
    (apart : ∀ c ∈ rest.head?, isWord c = false) {n : Nat}
    (h : letterWord (name ++ rest) = some n)
    : Takes name rest n := by
  obtain ⟨c, more, rfl, _⟩ := exists_cons_of_isPlainName plain
  have inside : ∀ d ∈ more, isWord d = true := fun d member =>
    (mem_plain_of_isPlainName plain d (List.mem_cons_of_mem c member)).2
  obtain ⟨k, l, first, behind, rfl⟩ := Matcher.andThen_eq_some_iff.mp h
  obtain ⟨rfl, _⟩ := Matcher.one_eq_some_iff.mp first
  obtain rfl := Option.some.inj behind
  refine .inl ?_
  rw [List.cons_append, List.drop_succ_cons, List.drop_zero, takeWhile_eq_of_split rfl inside apart,
    List.length_cons, Nat.add_comm]

theorem anyPhrase_takes {phrases : List (List String)} (plain : isPlainName name = true)
    (apart : ∀ c ∈ rest.head?, isWord c = false)
    (known : ∀ words ∈ phrases, words ∈ longPhrases
      ∨ words.length = 1 ∧ ∀ word ∈ words, ∀ c ∈ word.toList, c ∈ plainCapitalLetters)
    {n : Nat} (h : anyPhrase phrases (name ++ rest) = some n)
    : Takes name rest n := by
  obtain ⟨words, member, matched⟩ := List.exists_of_findSome?_eq_some h
  rcases known words member with long | ⟨single, capitals⟩
  · exact .inr ⟨words, long, matched⟩
  · obtain ⟨word, rfl⟩ := List.length_eq_one_iff.mp single
    exact .inl (phrase_name plain apart (capitals word (List.mem_singleton_self word)) matched).1

/-- A token that begins with a plain name is the name alone, or a phrase of several words that
begins with it, unless the name separates batches. -/
theorem firstToken_takes (plain : isPlainName name = true)
    (apart : ∀ c ∈ rest.head?, wordChar c = false)
    (noBatch : plainUpper (String.ofList name) ≠ "GO") (before : Option Char)
    : Takes name rest (firstToken before (name ++ rest)).2 := by
  have apartWord : ∀ c ∈ rest.head?, isWord c = false := fun c next =>
    isWord_of_wordChar (apart c next)
  have of_rule {kind : TokenKind} {m : Matcher} {token : TokenKind × Nat}
      (made : rule kind m before (name ++ rest) = some token)
      (takes : ∀ n, m (name ++ rest) = some n → Takes name rest n) : Takes name rest token.2 := by
    obtain ⟨n, matched, rfl⟩ := Option.map_eq_some_iff.mp made
    exact takes n matched
  have found : nameRules.findSome? (· before (name ++ rest))
      = some (firstToken before (name ++ rest)) := by
    obtain ⟨c, more, rfl, start⟩ := exists_cons_of_isPlainName plain
    exact findSome?_nameRules start before _
  obtain ⟨r, member, made⟩ := List.exists_of_findSome?_eq_some found
  simp only [nameRules, rules, List.take_succ_cons, List.take_zero, List.drop_succ_cons,
    List.drop_zero, List.cons_append, List.nil_append, List.mem_cons, List.not_mem_nil, or_false]
    at member
  rcases member with rfl | rfl | rfl | rfl | rfl | rfl | rfl | rfl | rfl | rfl
  · exact of_rule made fun n => anyPhrase_takes plain apartWord (by decide)
  · exact of_rule made fun n matched =>
      letterWord_takes plain apartWord (Matcher.followedBy_eq_some_iff.mp matched).1
  · rw [Option.ite_none_right_eq_some] at made
    exact of_rule made.2 fun n => letterWord_takes plain apartWord
  · exact of_rule made fun n matched =>
      letterWord_takes plain apartWord (Matcher.followedBy_eq_some_iff.mp matched).1
  · exact of_rule made fun n => anyPhrase_takes plain apartWord (by decide)
  · exact of_rule made fun n => anyPhrase_takes plain apartWord (by decide)
  · exact of_rule made fun n matched => .inr ⟨_, by decide, matched⟩
  · exact of_rule made fun n => anyPhrase_takes plain apartWord (by decide)
  · -- The rule for the word between batches with a count behind it: the name would be that word.
    refine of_rule made fun n matched => absurd ?_ noBatch
    obtain ⟨_, _, spelt, behind, _⟩ :=
      Matcher.andThen_eq_some_iff.mp (Matcher.followedBy_eq_some_iff.mp matched).1
    obtain ⟨_, _, blank, _⟩ := Matcher.andThen_eq_some_iff.mp behind
    obtain ⟨_, c, more, next, blank⟩ := Matcher.one_eq_some_iff.mp blank
    have spelt : spelled "GO".toList (name ++ rest) = some _ := spelt
    refine (spelled_name plain apartWord (by decide) spelt ?_).2
    rw [next]
    exact fun d first => Option.some.inj first ▸ isWord_of_isBlank blank
  · obtain ⟨c, more, rfl, start⟩ := exists_cons_of_isPlainName plain
    have inside : ∀ d ∈ c :: more, isWord d = true ∧ wordChar d = true := by
      intro d member
      have word := (mem_plain_of_isPlainName plain d member).2
      exact ⟨word, by rw [wordChar, word]; rfl⟩
    rw [List.cons_append, wordRule_eq (inside c List.mem_cons_self).1, Option.some.injEq] at made
    rw [List.cons_append, ← made, takeWhile_eq_of_split rfl
      (fun d member => (inside d (List.mem_cons_of_mem c member)).2) apart]
    exact .inl (Nat.add_comm _ _)

end Names

end RideQuestions.Sql
