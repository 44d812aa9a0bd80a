import RideQuestions.Proofs.Text.Plain

/-! Where tokens end. In a text of plain characters whose numbers stand alone, no token ends inside
a word: a match stops where its run stops, at the end of a word, or with a mark.
-/

namespace RideQuestions.Sql

open RideQuestions.Text

-----------------------------------------------------------------------------------------
-- The end of a match
-----------------------------------------------------------------------------------------

/-- Some characters at the beginning of a text are more than none, and no word goes on behind
them. -/
structure EndsAt (s : List Char) (n : Nat) : Prop where
  pos : 0 < n
  edge : ∀ last ∈ (s.take n).getLast?, ∀ next ∈ (s.drop n).head?,
    isWord last = true → isWord next = false

theorem EndsAt.of_next {s : List Char} {n : Nat} (pos : 0 < n)
    (next : ∀ c ∈ (s.drop n).head?, isWord c = false)
    : EndsAt s n :=
  ⟨pos, fun _ _ c behind _ => next c behind⟩

theorem EndsAt.of_last {s : List Char} {n : Nat} (pos : 0 < n)
    (last : ∀ c ∈ s.take n, isWord c = false)
    : EndsAt s n := by
  refine ⟨pos, ?_⟩
  intro c final _ _ word
  exact absurd ((last c (List.mem_of_getLast? final)).symm.trans word) (by decide)

/-- Holds when every match on a text ends where a word ends. -/
def Matcher.Ends (m : Matcher) (s : List Char) : Prop :=
  ∀ n, m s = some n → EndsAt s n

namespace Matcher

variable {m first second : Matcher} {s : List Char} {n : Nat} {p : Char → Bool}

theorem one_eq_some_iff
    : one p s = some n ↔ n = 1 ∧ ∃ c rest, s = c :: rest ∧ p c = true := by
  cases s with
  | nil => simp [one]
  | cons c rest =>
      rw [one, Option.ite_none_right_eq_some, Option.some.injEq]
      constructor
      · rintro ⟨holds, rfl⟩
        exact ⟨rfl, c, rest, rfl, holds⟩
      · rintro ⟨rfl, _, _, same, holds⟩
        obtain ⟨rfl, rfl⟩ := List.cons.inj same
        exact ⟨holds, rfl⟩

theorem andThen_eq_some_iff
    : andThen first second s = some n
      ↔ ∃ k l, first s = some k ∧ second (s.drop k) = some l ∧ n = k + l := by
  simp only [andThen, Option.bind_eq_bind, Option.bind_eq_some_iff, Option.pure_def,
    Option.some.injEq]
  constructor
  · rintro ⟨k, hk, l, hl, rfl⟩
    exact ⟨k, l, hk, hl, rfl⟩
  · rintro ⟨k, l, hk, hl, rfl⟩
    exact ⟨k, hk, l, hl, rfl⟩

theorem followedBy_eq_some_iff {ahead : List Char → Bool}
    : followedBy ahead m s = some n ↔ m s = some n ∧ ahead (s.drop n) = true := by
  simp only [followedBy, Option.bind_eq_bind, Option.bind_eq_some_iff,
    Option.ite_none_right_eq_some, Option.some.injEq]
  constructor
  · rintro ⟨k, hk, holds, rfl⟩
    exact ⟨hk, holds⟩
  · rintro ⟨hn, holds⟩
    exact ⟨n, hn, holds, rfl⟩

theorem run_eq_some_iff
    : run p s = some n ↔ n = (s.takeWhile p).length ∧ 0 < n := by
  change (if (s.takeWhile p).length = 0 then none else some (s.takeWhile p).length) = _ ↔ _
  rw [Option.ite_none_left_eq_some, Option.some.injEq]
  omega

theorem exactly_eq_some_iff {text : String}
    : exactly text s = some n ↔ n = text.toList.length ∧ text.toList <+: s := by
  rw [exactly, Option.ite_none_right_eq_some, Option.some.injEq, List.isPrefixOf_iff_prefix,
    String.length_toList, and_comm, eq_comm]

theorem orElse_eq_some (h : orElse first second s = some n)
    : first s = some n ∨ second s = some n := by
  rw [orElse, Option.or_eq_some_iff] at h
  exact h.imp_right And.right

/-- A run of a class with all word characters leaves no word behind it. -/
theorem next_of_run {skipped : Nat} (words : ∀ c, isWord c = true → p c = true)
    : ∀ c ∈ (s.drop (skipped + ((s.drop skipped).takeWhile p).length)).head?, isWord c = false := by
  intro c behind
  rw [← List.drop_drop, drop_length_takeWhile] at behind
  cases word : isWord c with
  | false => rfl
  | true =>
      have outside := not_of_mem_head?_dropWhile behind
      exact absurd ((words c word).symm.trans outside) (by decide)

theorem ends_one (marks : ∀ c, p c = true → isWord c = false)
    : (one p).Ends s := by
  intro n matched
  obtain ⟨rfl, c, rest, rfl, holds⟩ := one_eq_some_iff.mp matched
  exact .of_last Nat.one_pos (by simpa using marks c holds)

theorem ends_run (marks : ∀ c, p c = true → isWord c = false)
    : (run p).Ends s := by
  intro n matched
  obtain ⟨rfl, pos⟩ := run_eq_some_iff.mp matched
  refine .of_last pos ?_
  intro c member
  rw [take_length_takeWhile] at member
  exact marks c (List.mem_takeWhile_imp member)

theorem ends_exactly {text : String} (marks : ∀ c ∈ text.toList, isWord c = false)
    (some_text : text.toList ≠ [])
    : (exactly text).Ends s := by
  intro n matched
  obtain ⟨rfl, rest, rfl⟩ := exactly_eq_some_iff.mp matched
  refine .of_last (List.length_pos_iff.mpr some_text) ?_
  rw [List.take_left]
  exact marks

theorem Ends.orElse (h : first.Ends s) (other : second.Ends s)
    : (orElse first second).Ends s := by
  intro n matched
  rcases orElse_eq_some matched with matched | matched
  · exact h n matched
  · exact other n matched

theorem Ends.followedBy (h : m.Ends s) (ahead : List Char → Bool)
    : (followedBy ahead m).Ends s :=
  fun n matched => h n (followedBy_eq_some_iff.mp matched).1

/-- One character and a run of a class with all word characters behind it end with the run. -/
theorem ends_one_runOrNone {q : Char → Bool} (words : ∀ c, isWord c = true → q c = true)
    : (andThen (one p) (runOrNone q)).Ends s := by
  intro n matched
  obtain ⟨k, l, first, second, rfl⟩ := andThen_eq_some_iff.mp matched
  obtain ⟨rfl, _⟩ := one_eq_some_iff.mp first
  obtain rfl := Option.some.inj second
  exact .of_next (by omega) (next_of_run words)

theorem ends_one_run
    : (andThen (one p) (run isWord)).Ends s := by
  intro n matched
  obtain ⟨k, l, first, second, rfl⟩ := andThen_eq_some_iff.mp matched
  obtain ⟨rfl, _⟩ := one_eq_some_iff.mp first
  obtain ⟨rfl, pos⟩ := run_eq_some_iff.mp second
  exact .of_next (by omega) (next_of_run fun _ word => word)

theorem ends_letterWord
    : letterWord.Ends s :=
  ends_one_runOrNone fun _ word => word

theorem next_of_endsWord {behind : List Char} (ends : endsWord behind = true)
    : ∀ c ∈ behind.head?, isWord c = false := by
  cases behind with
  | nil => simp
  | cons c rest => simpa [endsWord] using ends

/-- What ends a word by its look at the text behind it. -/
theorem ends_followedBy_endsWord (pos : ∀ n, m s = some n → 0 < n)
    : (Matcher.followedBy endsWord m).Ends s := by
  intro n matched
  obtain ⟨matched, ends⟩ := followedBy_eq_some_iff.mp matched
  exact .of_next (pos n matched) (next_of_endsWord ends)

theorem spelled_length {word : List Char} (h : spelled word s = some n)
    : n = word.length := by
  induction word generalizing s n with
  | nil => exact (Option.some.inj h).symm
  | cons capital capitals ih =>
      cases s with
      | nil => simp [spelled] at h
      | cons c rest =>
          rw [spelled, Option.ite_none_right_eq_some, Option.map_eq_some_iff] at h
          obtain ⟨_, k, more, rfl⟩ := h
          rw [ih more, List.length_cons]

theorem joined_pos {word : String} {rest : List String} (some_text : word.toList ≠ [])
    (h : phrase.joined (word :: rest) s = some n)
    : 0 < n := by
  have some_length := List.length_pos_iff.mpr some_text
  cases rest with
  | nil =>
      have length : n = word.toList.length := spelled_length h
      omega
  | cons second more =>
      obtain ⟨k, l, first, _, rfl⟩ := andThen_eq_some_iff.mp h
      have length := spelled_length first
      omega

theorem ends_phrase {word : String} {rest : List String} (some_text : word.toList ≠ [])
    : (phrase (word :: rest)).Ends s :=
  ends_followedBy_endsWord fun _ => joined_pos some_text

theorem ends_anyPhrase {phrases : List (List String)}
    (some_text : phrases.all (·.head?.any (!·.toList.isEmpty)) = true)
    : (anyPhrase phrases).Ends s := by
  intro n matched
  obtain ⟨words, member, matched⟩ := List.exists_of_findSome?_eq_some matched
  have said := List.all_eq_true.mp some_text words member
  cases words with
  | nil => simp at said
  | cons word rest => exact ends_phrase (by simpa using said) n matched

end Matcher

-----------------------------------------------------------------------------------------
-- Texts of plain characters
-----------------------------------------------------------------------------------------

/-- A text of plain characters that begins with no number inside a word or a greater number. A
dollar sign has a number behind it, a minus sign or slash a blank, and a point no number. -/
structure Tame (s : List Char) : Prop where
  plain : ∀ c ∈ s, c ∈ plainCharacters
  dollar : ∀ rest, s = '$' :: rest → ∃ d more, rest = d :: more ∧ isDigit d = true
  spaced : ∀ c rest, s = c :: rest → c = '-' ∨ c = '/' → rest.head? = some ' '
  pointed : ∀ d rest, s = '.' :: d :: rest → isDigit d = false
  counted : ∀ c rest, s = c :: rest → isDigit c = true →
    ∀ next ∈ (s.dropWhile isDigit).head?, isWord next = false ∧ next ≠ '.'

namespace Tame

open Matcher

variable {s : List Char}

theorem one_eq_none {p : Char → Bool} (tame : Tame s)
    (absent : ∀ c ∈ plainCharacters, p c = false)
    : one p s = none := by
  rw [Option.eq_none_iff_forall_ne_some]
  intro n matched
  obtain ⟨_, c, rest, rfl, holds⟩ := one_eq_some_iff.mp matched
  exact absurd (holds.symm.trans (absent c (tame.plain c List.mem_cons_self))) (by decide)

/-- A dollar sign opens no tag, because a number stands behind it. -/
theorem taggedLiteral_eq_none (tame : Tame s)
    : taggedLiteral s = none := by
  rw [taggedLiteral, Option.bind_eq_bind, Option.bind_eq_none_iff]
  intro n matched
  exfalso
  obtain ⟨_, _, first, matched, _⟩ := andThen_eq_some_iff.mp matched
  obtain ⟨rfl, c, rest, rfl, dollar⟩ := one_eq_some_iff.mp first
  obtain rfl : c = '$' := by simpa using dollar
  obtain ⟨d, more, rfl, digit⟩ := tame.dollar rest rfl
  have plain : d ∈ plainDigits := (isDigit_iff_of_plain d (tame.plain d (by simp))).mp digit
  have noTag : ∀ d ∈ plainDigits, d ≠ '_' ∧ isLetter d = false ∧ d ≠ '$' := by decide
  obtain ⟨underscore, letter, mark⟩ := noTag d plain
  obtain ⟨k, _, name, closing, _⟩ := andThen_eq_some_iff.mp matched
  obtain rfl : 0 = k := by simpa [orNone, andThen, one, underscore, letter] using name
  obtain ⟨_, _, _, same, closed⟩ := one_eq_some_iff.mp closing
  obtain ⟨rfl, rfl⟩ := List.cons.inj same
  exact mark (by simpa using closed)

theorem exactly_eq_none {text : String} {c : Char} {rest : List Char} (tame : Tame s)
    (opens : text.toList = c :: rest) (absent : c ∉ plainCharacters)
    : exactly text s = none := by
  rw [Option.eq_none_iff_forall_ne_some]
  intro n matched
  obtain ⟨_, behind, rfl⟩ := exactly_eq_some_iff.mp matched
  exact absent (tame.plain c (by simp [opens]))

/-- A minus sign or slash with a blank behind it begins no longer mark. -/
theorem exactly_pair_eq_none {text : String} {c d : Char} (tame : Tame s)
    (pair : text.toList = [c, d]) (opens : c = '-' ∨ c = '/') (other : d ≠ ' ')
    : exactly text s = none := by
  rw [Option.eq_none_iff_forall_ne_some]
  intro n matched
  obtain ⟨_, behind, rfl⟩ := exactly_eq_some_iff.mp matched
  have blank := tame.spaced c (d :: behind) (by rw [pair]; rfl) opens
  exact other (by simpa using blank)

theorem blockComment_eq_none (tame : Tame s)
    : blockComment s = none := by
  rw [blockComment, Option.bind_eq_bind,
    tame.exactly_pair_eq_none (c := '/') (d := '*') rfl (.inr rfl) (by decide)]
  rfl

theorem lineComment_eq_none (tame : Tame s)
    : lineComment s = none := by
  have dashes : exactly "--" s = none :=
    tame.exactly_pair_eq_none (c := '-') (d := '-') rfl (.inl rfl) (by decide)
  have hash : exactly "# " s = none := tame.exactly_eq_none rfl (by decide)
  simp [lineComment, andThen, orElse, dashes, hash]

theorem lineEnd_eq_none (tame : Tame s)
    : lineEnd s = none := by
  unfold lineEnd
  split
  all_goals first | rfl | exact absurd (tame.plain _ List.mem_cons_self) (by decide)

theorem quotedText_eq_none {mark : Char} {escapes : Bool} (tame : Tame s)
    (absent : mark ∉ plainCharacters)
    : quotedText mark escapes s = none := by
  rw [quotedText, tame.one_eq_none fun c plain => by
    rw [decide_eq_false_iff_not]; rintro rfl; exact absent plain]
  rfl

/-- What begins with a character that is not plain matches nothing. -/
theorem andThen_eq_none {p : Char → Bool} {m : Matcher} (tame : Tame s)
    (absent : ∀ c ∈ plainCharacters, p c = false)
    : andThen (one p) m s = none := by
  rw [andThen, tame.one_eq_none absent]
  rfl

-----------------------------------------------------------------------------------------
-- Numbers
-----------------------------------------------------------------------------------------

/-- A minus sign has a blank behind it and so begins no number. -/
theorem unsigned {m : Matcher} {n : Nat} (tame : Tame s)
    (blank : ∀ more, m (' ' :: more) = none) (matched : andThen orNoneSign m s = some n)
    : m s = some n := by
  obtain ⟨k, l, sign, unsigned, rfl⟩ := andThen_eq_some_iff.mp matched
  cases signed : one (· = '-') s with
  | none =>
      obtain rfl : 0 = k := by simpa [orNoneSign, orNone, signed] using sign
      simpa using unsigned
  | some one =>
      obtain ⟨rfl, c, rest, rfl, minus⟩ := one_eq_some_iff.mp signed
      obtain rfl : c = '-' := by simpa using minus
      obtain rfl : 1 = k := by simpa [orNoneSign, orNone, signed] using sign
      obtain ⟨more, rfl⟩ := List.head?_eq_some_iff.mp (tame.spaced '-' rest rfl (.inl rfl))
      exact absurd (unsigned.symm.trans (blank more)) (by simp)

/-- Behind a number stands neither a word nor a point. -/
theorem next_of_digits (tame : Tame s) (digits : 0 < (s.takeWhile isDigit).length)
    : ∀ next ∈ (s.dropWhile isDigit).head?, isWord next = false ∧ next ≠ '.' := by
  cases s with
  | nil => simp at digits
  | cons c rest =>
      cases digit : isDigit c with
      | true => exact tame.counted c rest rfl digit
      | false => simp [digit] at digits

theorem not_letter_behind_digits (capital : Char) (tame : Tame s)
    (digits : 0 < (s.takeWhile isDigit).length)
    (word : ∀ c ∈ plainCharacters, isLetterOf capital c = true → isWord c = true)
    : spelled [capital] (s.dropWhile isDigit) = none := by
  have next := tame.next_of_digits digits
  cases behind : s.dropWhile isDigit with
  | nil => rfl
  | cons c rest =>
      have member : c ∈ s := (List.dropWhile_sublist isDigit).subset (by simp [behind])
      rw [spelled, if_neg]
      intro letter
      have outside := (next c (by simp [behind])).1
      exact absurd ((word c (tame.plain c member) letter).symm.trans outside) (by decide)

theorem not_point_behind_digits (tame : Tame s) (digits : 0 < (s.takeWhile isDigit).length)
    : one (· = '.') (s.dropWhile isDigit) = none := by
  rw [Option.eq_none_iff_forall_ne_some]
  intro n matched
  obtain ⟨_, c, rest, behind, point⟩ := one_eq_some_iff.mp matched
  exact (tame.next_of_digits digits c (by simp [behind])).2 (by simpa using point)

theorem hexNumber_eq_none (tame : Tame s)
    : hexNumber s = none := by
  rw [Option.eq_none_iff_forall_ne_some]
  intro n matched
  have matched := tame.unsigned (fun _ => rfl) matched
  obtain ⟨_, _, first, matched, _⟩ := andThen_eq_some_iff.mp matched
  obtain ⟨rfl, c, rest, rfl, zero⟩ := one_eq_some_iff.mp first
  obtain rfl : c = '0' := by simpa using zero
  obtain ⟨k, _, letter, _⟩ := andThen_eq_some_iff.mp matched
  -- The letter is no digit, so it stands right behind the digits.
  cases rest with
  | nil => exact absurd letter (by simp [spelled])
  | cons d more =>
      have plain := tame.plain d (by simp)
      have noDigit : ∀ d ∈ plainCharacters, isLetterOf 'X' d = true → isDigit d = false := by decide
      have spelt : isLetterOf 'X' d = true := by
        by_contra other
        simp [spelled, other] at letter
      have behind : ('0' :: d :: more).dropWhile isDigit = d :: more := by
        rw [List.dropWhile_cons_of_pos (by decide),
          List.dropWhile_cons_of_neg (by simp [noDigit d plain spelt])]
      have other := tame.not_letter_behind_digits 'X'
        (by rw [List.takeWhile_cons_of_pos (by decide)]; exact Nat.succ_pos _) (by decide)
      rw [behind] at other
      exact absurd (letter.symm.trans other) (by simp)

theorem scaledNumber_eq_none (tame : Tame s)
    : scaledNumber s = none := by
  rw [Option.eq_none_iff_forall_ne_some]
  intro n matched
  have matched := tame.unsigned (fun _ => rfl) matched
  obtain ⟨_, _, first, matched, _⟩ := andThen_eq_some_iff.mp matched
  obtain ⟨rfl, digits⟩ := run_eq_some_iff.mp first
  rw [drop_length_takeWhile] at matched
  obtain ⟨k, _, part, matched, _⟩ := andThen_eq_some_iff.mp matched
  have whole : andThen (one (· = '.')) (run isDigit) (s.dropWhile isDigit) = none := by
    rw [andThen, tame.not_point_behind_digits digits]
    rfl
  obtain rfl : 0 = k := by simpa [orNone, whole] using part
  obtain ⟨_, _, letter, _⟩ := andThen_eq_some_iff.mp matched
  have other := tame.not_letter_behind_digits 'E' digits (by decide)
  exact absurd (letter.symm.trans other) (by simp)

theorem pointNumber_eq_none (tame : Tame s)
    : pointNumber s = none := by
  rw [Option.eq_none_iff_forall_ne_some]
  intro n matched
  have matched := tame.unsigned (fun _ => rfl) matched
  rcases orElse_eq_some matched with matched | matched
  · obtain ⟨_, _, first, matched, _⟩ := andThen_eq_some_iff.mp matched
    obtain ⟨rfl, digits⟩ := run_eq_some_iff.mp first
    rw [drop_length_takeWhile] at matched
    obtain ⟨_, _, point, _⟩ := andThen_eq_some_iff.mp matched
    exact absurd (point.symm.trans (tame.not_point_behind_digits digits)) (by simp)
  · obtain ⟨_, _, first, matched, _⟩ := andThen_eq_some_iff.mp matched
    obtain ⟨rfl, c, rest, rfl, point⟩ := one_eq_some_iff.mp first
    obtain rfl : c = '.' := by simpa using point
    have empty : digitsBeforeLetter rest = 0 := by
      cases rest with
      | nil => rfl
      | cons d more =>
          rw [digitsBeforeLetter]
          simp [tame.pointed d more rfl]
    simp [digitsAfterPoint, empty] at matched

theorem digitsBeforeLetter_eq (tame : Tame s)
    : digitsBeforeLetter s = (s.takeWhile isDigit).length := by
  rw [digitsBeforeLetter, drop_length_takeWhile]
  rcases Nat.eq_zero_or_pos (s.takeWhile isDigit).length with empty | digits
  · rw [empty]
    split
    · rfl
    · split <;> rfl
  · split
    · rfl
    · next c rest behind =>
        have outside := (tame.next_of_digits digits c (by simp [behind])).1
        have plain : c ∈ plainCharacters :=
          tame.plain c ((List.dropWhile_sublist isDigit).subset (by simp [behind]))
        have letters : ∀ c ∈ plainCharacters, isWord c = false →
            (decide (c = '_') || isLetter c) = false := by decide
        rw [letters c plain outside, if_neg (by decide)]

/-- A number is its digits, without a sign, a point or an exponent. -/
theorem numberText_eq_some {n : Nat} (tame : Tame s) (matched : numberText s = some n)
    : n = (s.takeWhile isDigit).length ∧ 0 < n := by
  rw [numberText, orElse, orElse, orElse, tame.hexNumber_eq_none, tame.scaledNumber_eq_none,
    tame.pointNumber_eq_none] at matched
  have matched := tame.unsigned (fun _ => rfl) matched
  change (if digitsBeforeLetter s < 1 || letterFollows (s.drop (digitsBeforeLetter s)) then none
    else some (digitsBeforeLetter s)) = some n at matched
  rw [Option.ite_none_left_eq_some, Option.some.injEq, Bool.or_eq_true, not_or,
    decide_eq_true_eq, tame.digitsBeforeLetter_eq] at matched
  obtain ⟨⟨least, _⟩, rfl⟩ := matched
  exact ⟨rfl, by omega⟩

theorem numberText_ends (tame : Tame s)
    : numberText.Ends s := by
  intro n matched
  obtain ⟨rfl, digits⟩ := tame.numberText_eq_some matched
  refine .of_next digits ?_
  rw [drop_length_takeWhile]
  exact fun c behind => (tame.next_of_digits digits c behind).1

end Tame

-----------------------------------------------------------------------------------------
-- Rules
-----------------------------------------------------------------------------------------

/-- Holds when every token that a rule makes at the beginning of a text ends where a word ends. -/
def Rule.Ends (r : Rule) (s : List Char) : Prop :=
  ∀ before kind n, r before s = some (kind, n) → EndsAt s n

variable {s : List Char} {m : Matcher} {kind : TokenKind}

theorem ends_rule (h : m.Ends s)
    : (rule kind m).Ends s := by
  intro before made n matched
  rw [rule, Option.map_eq_some_iff] at matched
  obtain ⟨k, matched, same⟩ := matched
  obtain ⟨_, rfl⟩ := Prod.mk.inj same
  exact h k matched

theorem ends_ruleNotAfter {p : Char → Bool} (h : m.Ends s)
    : (ruleNotAfter p kind m).Ends s := by
  intro before made n matched
  rw [ruleNotAfter, Option.ite_none_left_eq_some] at matched
  exact ends_rule h before made n matched.2

theorem ends_of_none (h : m s = none)
    : m.Ends s := by
  intro n matched
  exact absurd (h.symm.trans matched) (by simp)

theorem ends_wordRule
    : wordRule.Ends s := by
  intro before made n matched
  simp only [wordRule, Option.bind_eq_bind, Option.bind_eq_some_iff, Option.pure_def,
    Option.some.injEq, Prod.mk.injEq] at matched
  obtain ⟨k, matched, _, rfl⟩ := matched
  have words : ∀ c, isWord c = true → wordChar c = true := by
    intro c word
    rw [wordChar, word]
    rfl
  exact Matcher.ends_one_runOrNone words k matched

/-- Characters of a list of marks are no words. -/
theorem not_word_of_contains {marks : List Char} (apart : ∀ c ∈ marks, isWord c = false)
    : ∀ c, marks.contains c = true → isWord c = false := by
  intro c member
  exact apart c (by simpa using member)

namespace Tame

open Matcher

theorem ends_one_of_plain {p : Char → Bool} (tame : Tame s)
    (marks : ∀ c ∈ plainCharacters, p c = true → isWord c = false)
    : (one p).Ends s := by
  intro n matched
  obtain ⟨rfl, c, rest, rfl, holds⟩ := one_eq_some_iff.mp matched
  exact .of_last Nat.one_pos (by simpa using marks c (tame.plain c List.mem_cons_self) holds)

theorem countedSeparator_ends
    : countedSeparator.Ends s := by
  refine ends_followedBy_endsWord ?_
  intro n matched
  obtain ⟨k, l, word, _, rfl⟩ := andThen_eq_some_iff.mp matched
  have length := spelled_length word
  simp only [List.length_cons, List.length_nil] at length
  omega

/-- Every rule ends its tokens where words end, by the rules in their order. -/
theorem rules_end (tame : Tame s)
    : ∀ r ∈ rules, Rule.Ends r s := by
  have absent {c : Char} (h : c ∉ plainCharacters) :
      ∀ d ∈ plainCharacters, decide (d = c) = false := by
    intro d plain
    rw [decide_eq_false_iff_not]
    rintro rfl
    exact h plain
  simp only [rules, List.forall_mem_cons]
  refine ⟨?tagged, ?block, ?line, ?lineEnd, ?blank, ?operator, ?back, ?accent, ?mark, ?percent,
    ?placeholder, ?backslash, ?words, ?sign, ?beforePoint, ?behindPoint, ?function, ?number,
    ?quoted, ?doubled, ?bracketed, ?phrases, ?create, ?double, ?comparison, ?counted, ?word,
    ?punctuation, ?short, ?comparing, ?arithmetic, by simp⟩
  case tagged => exact ends_ruleNotAfter (ends_of_none tame.taggedLiteral_eq_none)
  case block => exact ends_rule (ends_of_none tame.blockComment_eq_none)
  case line => exact ends_rule (ends_of_none tame.lineComment_eq_none)
  case lineEnd => exact ends_rule (ends_of_none tame.lineEnd_eq_none)
  case blank => exact ends_rule (tame.ends_one_of_plain (by decide))
  case operator =>
    have assigned : (exactly ":=").Ends s := ends_exactly (by decide) (by decide)
    have cast : (exactly "::").Ends s := ends_exactly (by decide) (by decide)
    have star : (exactly "*").Ends s := ends_exactly (by decide) (by decide)
    exact ends_rule (assigned.orElse (cast.orElse star))
  case back => exact ends_rule (ends_of_none (tame.quotedText_eq_none (by decide)))
  case accent => exact ends_rule (ends_of_none (tame.quotedText_eq_none (by decide)))
  case mark => exact ends_rule (ends_of_none (tame.one_eq_none (absent (by decide))))
  case percent => exact ends_rule (ends_of_none (tame.andThen_eq_none (absent (by decide))))
  case placeholder => exact ends_ruleNotAfter ends_one_run
  case backslash => exact ends_rule ends_one_run
  case words => exact ends_rule (ends_anyPhrase (by decide))
  case sign =>
    have single : exactly "@" s = none := tame.exactly_eq_none rfl (by decide)
    have double : exactly "##" s = none := tame.exactly_eq_none rfl (by decide)
    have hash : exactly "#" s = none := tame.exactly_eq_none rfl (by decide)
    refine ends_rule (ends_of_none ?_)
    simp [andThen, orElse, single, double, hash]
  case beforePoint => exact ends_rule (ends_letterWord.followedBy pointAhead)
  case behindPoint =>
    intro before kind n matched
    rw [Option.ite_none_right_eq_some] at matched
    exact ends_rule ends_letterWord before kind n matched.2
  case function => exact ends_rule (ends_letterWord.followedBy _)
  case number => exact ends_rule tame.numberText_ends
  case quoted => exact ends_rule (ends_of_none (tame.quotedText_eq_none (by decide)))
  case doubled => exact ends_rule (ends_of_none (tame.quotedText_eq_none (by decide)))
  case bracketed =>
    exact ends_ruleNotAfter (ends_of_none (tame.andThen_eq_none (absent (by decide))))
  case phrases => exact ends_rule (ends_anyPhrase (by decide))
  case create => exact ends_rule (ends_anyPhrase (by decide))
  case double => exact ends_rule (ends_phrase (by decide))
  case comparison => exact ends_rule (ends_anyPhrase (by decide))
  case counted => exact ends_rule countedSeparator_ends
  case word => exact ends_wordRule
  case punctuation => exact ends_rule (ends_one (not_word_of_contains (by decide)))
  case short =>
    refine ends_rule ?_
    intro n matched
    obtain ⟨text, member, matched⟩ := List.exists_of_findSome?_eq_some matched
    have marks : ∀ text ∈ shortOperators,
        (∀ c ∈ text.toList, isWord c = false) ∧ text.toList ≠ [] := by decide
    exact ends_exactly (marks text member).1 (marks text member).2 n matched
  case comparing => exact ends_rule (ends_run (not_word_of_contains (by decide)))
  case arithmetic => exact ends_rule (ends_run (not_word_of_contains (by decide)))

/-- The first token of such a text ends where a word ends. One that no rule makes is a single
character, and no part of a word, because every word is a token. -/
theorem firstToken_endsAt {c : Char} {rest : List Char} (tame : Tame (c :: rest))
    (before : Option Char)
    : EndsAt (c :: rest) (firstToken before (c :: rest)).2 := by
  rw [firstToken]
  cases made : rules.findSome? fun r => r before (c :: rest) with
  | some token =>
      obtain ⟨r, member, matched⟩ := List.exists_of_findSome?_eq_some made
      exact tame.rules_end r member before token.1 token.2 matched
  | none =>
      refine .of_last Nat.one_pos ?_
      have unmatched := List.findSome?_eq_none_iff.mp made wordRule (by simp [rules])
      simp only [Option.getD_none, List.take_succ_cons, List.take_zero, List.mem_singleton,
        forall_eq]
      by_contra word
      rw [Bool.not_eq_false] at word
      simp [wordRule, andThen, one, runOrNone, word] at unmatched

end Tame

end RideQuestions.Sql
