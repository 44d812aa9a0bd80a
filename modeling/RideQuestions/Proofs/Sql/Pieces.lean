import RideQuestions.Proofs.Sql.Acceptance

/-! A text read piece by piece. Each piece is one token whatever stands behind it, as long as that
does not go on with it, so that what holds of the tokens of all pieces holds of those of the text.
-/

namespace RideQuestions.Sql

open RideQuestions.Text

-----------------------------------------------------------------------------------------
-- From place to place
-----------------------------------------------------------------------------------------

/-- From the beginning of a text to that of what is left of it, the tokens have a property. No point
stands before either place. -/
def Reads (P : List Token → Prop) (s left : List Char) : Prop :=
  ∀ before, before ≠ some '.' → ∃ passed behind, behind ≠ some '.' ∧ P passed
    ∧ tokensFrom 0 before s = passed ++ tokensFrom 0 behind left

/-- Up to what is left of a text, each token has a property. -/
abbrev Through (P : Token → Prop) : List Char → List Char → Prop :=
  Reads fun passed => ∀ t ∈ passed, P t

/-- Up to what is left of a text, there is one token, which has a property. -/
abbrev Single (P : Token → Prop) : List Char → List Char → Prop :=
  Reads fun passed => ∃ t, P t ∧ passed = [t]

section Through

variable {P : Token → Prop} {s middle left piece : List Char}

theorem Reads.append {Q R S : List Token → Prop} (first : Reads Q s middle)
    (second : Reads R middle left) (joint : ∀ passed more, Q passed → R more → S (passed ++ more))
    : Reads S s left := by
  intro before noPoint
  obtain ⟨passed, between, noPoint, holds, cut⟩ := first before noPoint
  obtain ⟨more, behind, noPoint, holds', cut'⟩ := second between noPoint
  refine ⟨passed ++ more, behind, noPoint, joint passed more holds holds', ?_⟩
  rw [cut, cut', List.append_assoc]

theorem Reads.mono {Q R : List Token → Prop} (h : Reads Q s left)
    (imp : ∀ passed, Q passed → R passed)
    : Reads R s left := by
  intro before noPoint
  obtain ⟨passed, behind, noPoint, holds, cut⟩ := h before noPoint
  exact ⟨passed, behind, noPoint, imp passed holds, cut⟩

theorem Through.refl : Through P s s :=
  fun before noPoint => ⟨[], before, noPoint, List.forall_mem_nil P, rfl⟩

theorem Through.trans (first : Through P s middle) (second : Through P middle left)
    : Through P s left :=
  first.append second fun _ _ each each' => List.forall_mem_append.mpr ⟨each, each'⟩

theorem Single.through (h : Single P s left)
    : Through P s left := by
  refine h.mono ?_
  rintro passed ⟨t, holds, rfl⟩
  exact List.forall_mem_singleton.mpr holds

/-- The characters of a token are skipped, by induction. -/
theorem tokensFrom_skip (before : Option Char)
    : tokensFrom piece.length before (piece ++ left)
      = tokensFrom 0 (piece.getLast?.or before) left := by
  induction piece generalizing before with
  | nil => rfl
  | cons c rest ih =>
      rw [getLast?_cons_or, ← ih (some c)]
      rfl

/-- A piece that is one token wherever no point stands before it. -/
theorem single_piece (piece : List Char) (some_text : piece ≠ [])
    (last : piece.getLast? ≠ some '.')
    (one : ∀ before, before ≠ some '.' → ∃ kind,
      firstToken before (piece ++ left) = (kind, piece.length) ∧ P ⟨kind, String.ofList piece⟩)
    : Single P (piece ++ left) left := by
  intro before noPoint
  obtain ⟨c, rest, rfl⟩ := List.exists_cons_of_ne_nil some_text
  obtain ⟨kind, token, holds⟩ := one before noPoint
  refine ⟨_, rest.getLast?.or (some c), ?_, ⟨⟨kind, String.ofList (c :: rest)⟩, holds, rfl⟩, ?_⟩
  · rw [← getLast?_cons_or c rest none, Option.or_none]
    exact last
  · rw [List.cons_append] at token
    rw [List.cons_append, tokensFrom_zero, tokenAt, token, List.length_cons, Nat.add_sub_cancel,
      tokensFrom_skip, ← List.cons_append, ← List.length_cons, List.take_left]
    rfl

end Through

-----------------------------------------------------------------------------------------
-- Blanks, marks and literals
-----------------------------------------------------------------------------------------

section Tokens

variable {c : Char} {rest : List Char}

/-- A comma, separator or parenthesis is a token of its own. -/
theorem firstToken_mark (mark : c ∈ [',', ';', '(', ')']) (before : Option Char)
    : firstToken before (c :: rest) = (.punctuation, 1) := by
  have split : rules = rules.take 27 ++ rule .punctuation (Matcher.one isPunctuation)
      :: rules.drop 28 := rfl
  have known : ∀ c ∈ [',', ';', '(', ')'], isPunctuation c = true := by decide
  have earlier : ∀ r ∈ rules.take 27, r before (c :: rest) = none := by
    simp only [rules, List.take_succ_cons, List.take_zero, List.forall_mem_cons]
    simp only [List.mem_cons, List.not_mem_nil, or_false] at mark
    rcases mark with rfl | rfl | rfl | rfl
    all_goals
      exact ⟨ruleNotAfter_eq_none rfl, rfl, rfl, rfl, rfl, rfl, rfl, rfl, rfl, rfl,
        ruleNotAfter_eq_none rfl, rfl, rfl, rfl, rfl, ite_self _, rfl, rfl, rfl, rfl,
        ruleNotAfter_eq_none rfl, rfl, rfl, rfl, rfl, rfl, rfl, by simp⟩
  rw [firstToken, split, List.findSome?_append, List.findSome?_eq_none_iff.mpr earlier,
    Option.none_or, List.findSome?_cons, rule, Matcher.one, if_pos (known c mark)]
  rfl

end Tokens

/-- The mark that a literal stands between. -/
def quoteMark : Char :=
  Char.ofNat 39

/-- A quoted text that has neither a mark nor a backslash inside ends at the first mark, by
induction on what is inside. -/
theorem quotedRest_eq {mark : Char} {content rest : List Char} (noMark : mark ∉ content)
    (noBackslash : '\\' ∉ content) (next : rest.head? ≠ some mark) (last : Option Nat)
    (count : Nat)
    : quotedRest mark true last 0 count (content ++ mark :: rest)
      = some (count + content.length + 1) := by
  induction content generalizing count with
  | nil => simp [quotedRest, next]
  | cons c content ih =>
      rw [List.mem_cons, not_or] at noMark noBackslash
      have goesOn := ih noMark.2 noBackslash.2 (count + 1)
      rw [List.cons_append, quotedRest]
      simp only [Ne.symm noMark.1, Ne.symm noBackslash.1, decide_false, Bool.false_and,
        Bool.and_false, Bool.false_eq_true, if_false]
      rw [goesOn, List.length_cons]
      exact congrArg some (by omega)

/-- A literal is a token of its own as long as no further mark follows it. -/
theorem firstToken_literal {content rest : List Char} (noMark : quoteMark ∉ content)
    (noBackslash : '\\' ∉ content) (next : rest.head? ≠ some quoteMark) (before : Option Char)
    : firstToken before (quoteMark :: (content ++ quoteMark :: rest))
      = (.literal, content.length + 2) := by
  have split : rules = rules.take 18 ++ rule .literal (quotedText quoteMark true)
      :: rules.drop 19 := rfl
  have earlier : ∀ r ∈ rules.take 18, r before (quoteMark :: (content ++ quoteMark :: rest)) = none
      := by
    simp only [rules, List.take_succ_cons, List.take_zero, List.forall_mem_cons]
    exact ⟨ruleNotAfter_eq_none rfl, rfl, rfl, rfl, rfl, rfl, rfl, rfl, rfl, rfl,
      ruleNotAfter_eq_none rfl, rfl, rfl, rfl, rfl, ite_self _, rfl, rfl, by simp⟩
  have quoted : quotedText quoteMark true (quoteMark :: (content ++ quoteMark :: rest))
      = some (content.length + 2) := by
    rw [quotedText, Matcher.one, if_pos (decide_eq_true rfl)]
    refine (quotedRest_eq noMark noBackslash next none 1).trans ?_
    exact congrArg some (by omega)
  rw [firstToken, split, List.findSome?_append, List.findSome?_eq_none_iff.mpr earlier,
    Option.none_or, List.findSome?_cons, rule, quoted]
  rfl

-----------------------------------------------------------------------------------------
-- Pieces
-----------------------------------------------------------------------------------------

section Pieces

variable {P : Token → Prop} {left : List Char}

theorem tokensFrom_mark {c : Char} (mark : c ∈ [',', ';', '(', ')']) (before : Option Char)
    (rest : List Char)
    : tokensFrom 0 before (c :: rest)
      = ⟨.punctuation, String.singleton c⟩ :: tokensFrom 0 (some c) rest := by
  rw [tokensFrom_zero, tokenAt, firstToken_mark mark]
  rfl

/-- What begins like a name has the same tokens behind another text as alone. -/
theorem tokensFrom_start {s : List Char} (start : ∃ c ∈ nameStarts, s.head? = some c)
    {before : Option Char} (noPoint : before ≠ some '.')
    : tokensFrom 0 before s = tokensFrom 0 none s := by
  obtain ⟨c, start, first⟩ := start
  obtain ⟨rest, rfl⟩ := List.head?_eq_some_iff.mp first
  rw [tokensFrom_zero, tokensFrom_zero, tokenAt, tokenAt, firstToken_start start noPoint]

theorem single_mark {c : Char} (mark : c ∈ [',', ';', '(', ')'])
    (holds : P ⟨.punctuation, String.singleton c⟩)
    : Single P (c :: left) left := by
  have noPoint : ∀ c ∈ [',', ';', '(', ')'], c ≠ '.' := by decide
  exact single_piece [c] (by simp) (by simpa using noPoint c mark) fun before _ =>
    ⟨.punctuation, firstToken_mark mark before, holds⟩

theorem single_space (holds : P ⟨.blank, " "⟩)
    : Single P (' ' :: left) left :=
  single_piece [' '] (by simp) (by decide) fun before _ =>
    ⟨.blank, firstToken_blank (by decide) before, holds⟩

/-- A blank is passed alone, or with the line feed behind it. -/
theorem through_blank {c : Char} (blank : isBlank c = true)
    (white : ∀ t : Token, t.isWhite = true → P t)
    : Through P (c :: left) left ∨ ∃ rest, left = '\n' :: rest ∧ Through P (c :: left) rest := by
  have noPoint : c ≠ '.' := by
    rintro rfl
    exact absurd blank (by decide)
  have single {kind : TokenKind} (speaks : ∀ text, Token.isWhite ⟨kind, text⟩ = true)
      (token : ∀ before, firstToken before (c :: left) = (kind, 1)) : Through P (c :: left) left :=
    Single.through <| single_piece [c] (by simp) (by simpa using noPoint) fun before _ =>
      ⟨kind, token before, white _ (speaks _)⟩
  have token : ∀ before, firstToken before (c :: left) = _ := firstToken_blank blank
  unfold lineEnd at token
  split at token
  · next rest same =>
      obtain ⟨rfl, rfl⟩ := List.cons.inj same
      exact .inr ⟨rest, rfl, Single.through <| single_piece ['\r', '\n'] (by simp) (by decide)
        fun before _ => ⟨.lineEnd, token before, white _ rfl⟩⟩
  · exact .inl (single (fun _ => rfl) token)
  · exact .inl (single (fun _ => rfl) token)
  · exact .inl (single (fun _ => rfl) token)

/-- Blanks are white space, by induction on their number. -/
theorem through_blanks {gap : List Char} (blank : ∀ c ∈ gap, isBlank c = true)
    (next : left.head? ≠ some '\n') (white : ∀ t : Token, t.isWhite = true → P t)
    : Through P (gap ++ left) left := by
  -- Two characters at once when they end a line, hence no induction on the blanks themselves.
  induction length : gap.length using Nat.strong_induction_on generalizing gap with
  | h n ih =>
      cases gap with
      | nil => exact .refl
      | cons c rest =>
          obtain ⟨first, others⟩ := List.forall_mem_cons.mp blank
          rw [List.length_cons] at length
          rcases through_blank first white with alone | ⟨more, same, pair⟩
          · exact alone.trans (ih rest.length (by omega) others rfl)
          · cases rest with
            | nil => exact absurd (congrArg List.head? same) next
            | cons d rest =>
                obtain ⟨rfl, rfl⟩ := List.cons.inj same
                rw [List.length_cons] at length
                exact pair.trans
                  (ih rest.length (by omega) (List.forall_mem_cons.mp others).2 rfl)

theorem single_literal {content : List Char} (noMark : quoteMark ∉ content)
    (noBackslash : '\\' ∉ content) (next : left.head? ≠ some quoteMark)
    (holds : P ⟨.literal, String.ofList (quoteMark :: content ++ [quoteMark])⟩)
    : Single P (quoteMark :: content ++ [quoteMark] ++ left) left := by
  have noPoint : quoteMark ≠ '.' := by decide
  have last : (quoteMark :: content ++ [quoteMark]).getLast? ≠ some '.' := by
    rw [List.getLast?_concat]
    simpa using noPoint
  refine single_piece _ (by simp) last fun before _ => ⟨.literal, ?_, holds⟩
  have token := firstToken_literal noMark noBackslash next before
  simpa using token

/-- What is made of words and blanks is no mark. -/
theorem isMark_words {text : List Char} (inside : ∀ c ∈ text, c = ' ' ∨ isWord c = true)
    (mark : Char) (noBlank : mark ≠ ' ') (noWord : isWord mark = false) (kind : TokenKind)
    : Token.isMark (String.ofList [mark]) ⟨kind, String.ofList text⟩ = false := by
  refine Token.isMark_eq_false (c := mark) (by simp) ?_
  rw [String.toList_ofList]
  intro member
  rcases inside mark member with blank | word
  · exact noBlank blank
  · exact absurd (noWord.symm.trans word) (by decide)

/-- A token that begins with a name separates batches only if the name does. -/
theorem separatesBatches_name {name behind : List Char} (plain : isPlainName name = true)
    (next : ∀ c ∈ behind.head?, isBlank c = true) (noBatch : plainUpper (String.ofList name) ≠ "GO")
    (kind : TokenKind)
    : Progress.separatesBatches ⟨kind, String.ofList (name ++ behind)⟩ = false := by
  have whole : (name ++ behind).takeWhile (fun c => !isBlank c) = name := by
    refine takeWhile_eq_of_split rfl (fun c member => ?_) fun c first => ?_
    · rw [isBlank_of_isWord (mem_plain_of_isPlainName plain c member).2]
      rfl
    · rw [next c first]
      rfl
  rw [← Bool.not_eq_true, Progress.separatesBatches, Bool.and_eq_true, decide_eq_true_eq,
    decide_eq_true_eq, String.toList_ofList, whole]
  rintro ⟨_, rfl⟩
  exact noBatch (by decide)

theorem head?_of_isPlainName {name : List Char} (plain : isPlainName name = true)
    : ∃ c ∈ nameStarts, name.head? = some c := by
  obtain ⟨c, rest, rfl, start⟩ := exists_cons_of_isPlainName plain
  exact ⟨c, start, rfl⟩

theorem getLast?_of_isPlainName {name : List Char} (plain : isPlainName name = true)
    : name.getLast? ≠ some '.' := by
  intro last
  exact absurd (mem_plain_of_isPlainName plain '.' (List.mem_of_getLast? last)).2 (by decide)

/-- What begins like a name is passed as the one token that it is in front of nothing. -/
theorem single_start {piece : List Char} (start : ∃ c ∈ nameStarts, piece.head? = some c)
    (last : piece.getLast? ≠ some '.')
    (length : (firstToken none (piece ++ left)).2 = piece.length)
    (holds : ∀ kind, Token.isSignificant ⟨kind, String.ofList piece⟩ = true →
      P ⟨kind, String.ofList piece⟩)
    : Single P (piece ++ left) left := by
  obtain ⟨c, start, first⟩ := start
  obtain ⟨rest, rfl⟩ := List.head?_eq_some_iff.mp first
  refine single_piece _ (by simp) last fun before noPoint =>
    ⟨(firstToken before (c :: rest ++ left)).1, Prod.ext rfl ?_,
      holds _ (isSignificant_start start before _)⟩
  rw [List.cons_append] at length ⊢
  rw [firstToken_start start noPoint, length]

/-- A name is passed alone as long as no phrase of several words begins with it. -/
theorem single_name {name : List Char} (plain : isPlainName name = true)
    (apart : ∀ c ∈ left.head?, wordChar c = false)
    (noBatch : plainUpper (String.ofList name) ≠ "GO")
    (alone : ∀ words ∈ longPhrases, phrase words (name ++ left) = none)
    (holds : ∀ kind, Token.isSignificant ⟨kind, String.ofList name⟩ = true →
      P ⟨kind, String.ofList name⟩)
    : Single P (name ++ left) left := by
  refine single_start (head?_of_isPlainName plain) (getLast?_of_isPlainName plain) ?_ holds
  rcases firstToken_takes plain apart noBatch none with whole | ⟨words, known, matched⟩
  · exact whole
  · exact absurd ((alone words known).symm.trans matched) (by simp)

end Pieces

end RideQuestions.Sql
