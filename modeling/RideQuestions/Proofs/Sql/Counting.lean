import RideQuestions.Proofs.Sql.Calm

/-! How many tokens a calm text has: no more than there are characters that go on with no word.
Blanks need not be counted when only the tokens are that are no white space.
-/

namespace RideQuestions.Sql

open RideQuestions.Text

/-- A blank is white space, alone or as the end of a line. -/
theorem firstToken_blank (blank : isBlank c = true) (before : Option Char)
    : firstToken before (c :: rest)
      = ((lineEnd (c :: rest)).map (TokenKind.lineEnd, ·)).getD (.blank, 1) := by
  have other {d : Char} (h : isBlank d = false) : c ≠ d := by
    rintro rfl
    exact absurd (h.symm.trans blank) (by decide)
  have split : rules
      = rules.take 3 ++ rule .lineEnd lineEnd :: rule .blank (Matcher.one isBlank)
        :: rules.drop 5 := rfl
  have earlier : ∀ r ∈ rules.take 3, r before (c :: rest) = none := by
    simp only [rules, List.take_succ_cons, List.take_zero, List.forall_mem_cons]
    refine ⟨?tagged, ?block, ?line, by simp⟩
    case tagged => exact ruleNotAfter_eq_none (taggedLiteral_eq_none (other (by decide)))
    case block => exact rule_eq_none (blockComment_eq_none (other (by decide)))
    case line =>
      exact rule_eq_none (lineComment_eq_none (other (by decide)) (other (by decide)))
  rw [firstToken, split, List.findSome?_append, List.findSome?_eq_none_iff.mpr earlier,
    Option.none_or, List.findSome?_cons, rule]
  cases ends : lineEnd (c :: rest) with
  | some n => rfl
  | none =>
      dsimp only [Option.map_none]
      rw [List.findSome?_cons, rule, Matcher.one, if_pos blank]
      rfl

theorem isWhite_tokenAt {before : Option Char} {c : Char} {rest : List Char}
    (blank : isBlank c = true)
    : (tokenAt before (c :: rest)).isWhite = true := by
  rw [tokenAt, Token.isWhite, firstToken_blank blank]
  cases lineEnd (c :: rest) <;> rfl

/-- How many characters of a text go on with no word, given the character before it, with blanks or
without. -/
def beginnings (blanks : Bool) : Option Char → List Char → Nat
  | _, [] => 0
  | before, c :: rest =>
      (if (blanks || !isBlank c) && !(before.any isWord && isWord c) then 1 else 0)
        + beginnings blanks (some c) rest

section Beginnings

variable {blanks : Bool} {before : Option Char}

theorem beginnings_le_cons (c : Char) (rest : List Char)
    : beginnings blanks (some c) rest ≤ beginnings blanks before (c :: rest) := by
  rw [beginnings]
  exact Nat.le_add_left _ _

theorem beginnings_le_none (s : List Char)
    : beginnings blanks before s ≤ beginnings blanks none s := by
  cases s with
  | nil => exact Nat.le_refl 0
  | cons c rest =>
      rw [beginnings, beginnings]
      refine Nat.add_le_add_right ?_ _
      cases blanks || !isBlank c <;> simp
      split <;> simp

/-- Behind another text, a text has no more beginnings than alone, by induction on the other. -/
theorem beginnings_append_le (first second : List Char)
    : beginnings blanks before (first ++ second)
      ≤ beginnings blanks before first + beginnings blanks none second := by
  induction first generalizing before with
  | nil => simpa [beginnings] using beginnings_le_none second
  | cons c rest ih =>
      rw [List.cons_append, beginnings, beginnings, Nat.add_assoc]
      exact Nat.add_le_add_left ih _

/-- A word has at most one beginning, and none behind a character of it. -/
theorem beginnings_word_le {word : List Char} (inside : ∀ c ∈ word, isWord c = true)
    : beginnings blanks before word ≤ 1 := by
  have within {word : List Char} {c : Char} (first : isWord c = true)
      (inside : ∀ c ∈ word, isWord c = true) : beginnings blanks (some c) word = 0 := by
    induction word generalizing c with
    | nil => rfl
    | cons d rest ih =>
        obtain ⟨second, others⟩ := List.forall_mem_cons.mp inside
        simp [beginnings, first, second, ih second others]
  cases word with
  | nil => exact Nat.zero_le 1
  | cons c rest =>
      obtain ⟨first, others⟩ := List.forall_mem_cons.mp inside
      rw [beginnings, within first others]
      split <;> simp

end Beginnings

/-- In a calm text, no more tokens are counted than there are characters that may begin one, by
induction on the text with the characters still to be skipped. -/
theorem countP_tokensFrom_le (blanks : Bool) {skip : Nat} {before : Option Char} {s : List Char}
    (place : Place ((s.take skip).getLast?.or before) (s.drop skip))
    : (tokensFrom skip before s).countP (fun t => blanks || !t.isWhite)
      ≤ beginnings blanks before s := by
  induction s generalizing skip before with
  | nil => cases skip <;> exact Nat.zero_le _
  | cons c rest ih =>
      cases skip with
      | succ k =>
          rw [getLast?_take_cons] at place
          exact (ih place).trans (beginnings_le_cons c rest)
      | zero =>
          have here : Place before (c :: rest) := by simpa using place
          obtain ⟨pos, next⟩ := here.passes
          have length : (firstToken before (c :: rest)).2
              = (firstToken before (c :: rest)).2 - 1 + 1 := by omega
          rw [length, getLast?_take_cons] at next
          have others := ih next
          -- The token that begins here is counted only if its first character is.
          have apart : (before.any isWord && isWord c) = false := by
            cases before with
            | none => rfl
            | some d => cases word : isWord d <;> simp [word, here.edge d rfl c rfl]
          have first : (if (blanks || !(tokenAt before (c :: rest)).isWhite) = true then 1 else 0)
              ≤ if ((blanks || !isBlank c) && !(before.any isWord && isWord c)) = true then 1
                else 0 := by
            rw [apart, Bool.not_false, Bool.and_true]
            cases blank : isBlank c with
            | false => split <;> simp
            | true => rw [isWhite_tokenAt blank]
          rw [tokensFrom_zero, List.countP_cons, beginnings, Nat.add_comm]
          exact Nat.add_le_add first others

section Calm

variable {text : String} (h : calm none [] text.toList = true)
include h

/-- A calm text has few tokens that are no white space where few characters other than blanks go on
with no word. -/
theorem weight_tokens_le
    : Statement.weight (tokens text) ≤ beginnings false none text.toList :=
  countP_tokensFrom_le false (place_of_calm h)

theorem length_tokens_le
    : (tokens text).length ≤ beginnings true none text.toList := by
  rw [← List.countP_true]
  exact countP_tokensFrom_le true (place_of_calm h)

end Calm

end RideQuestions.Sql
