import RideQuestions.Proofs.Text.Trimming
import RideQuestions.Text.Digits
import RideQuestions.Text.Word

/-! Where the words of a text stand. A word begins at every place between a character that is no
part of a word and one that is, and the words of a phrase from there on are the ones that blanks and
nothing else stand between, so that what is read off them is read off the text.
-/

namespace RideQuestions.Text

-----------------------------------------------------------------------------------------
-- Boundaries of words
-----------------------------------------------------------------------------------------

/-- Whether a text begins inside a word. -/
def wordAhead (s : List Char) : Bool :=
  s.head?.any isWord

/-- Whether a text ends inside a word. -/
def wordBehind (s : List Char) : Bool :=
  s.getLast?.any isWord

theorem isWord_of_isBlank {c : Char} (blank : isBlank c = true)
    : isWord c = false := by
  have apart : ∀ code ∈ blankCodes, Ranges.contains wordRanges code = false := by decide +kernel
  exact apart _ (mem_blankCodes blank)

theorem isBlank_of_isWord {c : Char} (word : isWord c = true)
    : isBlank c = false := by
  rw [← Bool.not_eq_true]
  intro blank
  exact absurd word (by simp [isWord_of_isBlank blank])

theorem endsPhrase_of_isBlank {c : Char} (blank : isBlank c = true)
    : endsPhrase c = false := by
  rw [endsPhrase, blank, Bool.not_true, Bool.and_false]

theorem endsPhrase_of_isWord {c : Char} (word : isWord c = true)
    : endsPhrase c = false := by
  rw [endsPhrase, word, Bool.not_true, Bool.false_and]

theorem isWord_of_endsPhrase {c : Char} (ends : endsPhrase c = true)
    : isWord c = false := by
  simpa using (Bool.and_eq_true_iff.mp ends).1

/-- The end of the range that a code point lies in. -/
def Ranges.last? : Ranges → Nat → Option Nat
  | [], _ => none
  | (first, last) :: rest, code =>
      if code < first then none else if code ≤ last then some last else Ranges.last? rest code

/-- What follows a code point up to the end of its range lies in that range, by induction. -/
theorem Ranges.contains_add {ranges : Ranges} {code last more : Nat}
    (inside : ranges.last? code = some last) (within : code + more ≤ last)
    : ranges.contains (code + more) = true := by
  induction ranges with
  | nil => exact absurd inside (by simp [Ranges.last?])
  | cons range rest ih =>
      obtain ⟨first, last'⟩ := range
      rw [Ranges.last?] at inside
      split at inside
      · exact absurd inside (by simp)
      · next above =>
          rw [contains, if_neg (by omega)]
          split at inside
          · obtain rfl := Option.some.inj inside
            rw [if_pos within]
          · next beyond => rw [if_neg (by omega), ih inside]

/-- Digits of every script are parts of words, since their rows lie in ranges of word characters. -/
theorem isWord_of_digit? {c : Char} {value : Nat} (digit : digit? c = some value)
    : isWord c = true := by
  have rows : ∀ base ∈ digitZeros,
      ∃ last ∈ Ranges.last? wordRanges base, base + 9 ≤ last := by decide +kernel
  obtain ⟨base, member, small, code⟩ := exists_base_of_digit? digit
  obtain ⟨last, inside, within⟩ := rows base member
  rw [isWord, code]
  exact Ranges.contains_add inside (by omega)

/-- A run of characters that words are made of. -/
structure IsWordText (w : List Char) : Prop where
  filled : w ≠ []
  whole : ∀ c ∈ w, isWord c = true

instance (w : List Char) : Decidable (IsWordText w) :=
  decidable_of_iff (w ≠ [] ∧ w.all isWord = true)
    ⟨fun h => ⟨h.1, List.all_eq_true.mp h.2⟩, fun h => ⟨h.filled, List.all_eq_true.mpr h.whole⟩⟩

/-- A text that begins inside a word begins with what is left of the word. -/
theorem exists_word_of_wordAhead {s : List Char} (ahead : wordAhead s = true)
    : ∃ w rest, s = w ++ rest ∧ IsWordText w ∧ wordAhead rest = false := by
  refine ⟨s.takeWhile isWord, s.dropWhile isWord, List.takeWhile_append_dropWhile.symm,
    ⟨?_, ?_⟩, ?_⟩
  · cases s with
    | nil => exact absurd ahead (by simp [wordAhead])
    | cons c rest =>
        have word : isWord c = true := by simpa [wordAhead] using ahead
        rw [List.takeWhile_cons_of_pos word]
        exact List.cons_ne_nil _ _
  · exact fun c member => List.mem_takeWhile_imp member
  · have stops := List.head?_dropWhile_not isWord s
    unfold wordAhead
    cases head : (s.dropWhile isWord).head? with
    | none => rfl
    | some c => simpa [head] using stops

/-- Induction on a text along its words: a character that ends a phrase, a blank, or a whole word
stands at its front. -/
theorem induction_on_words {motive : List Char → Prop} (nil : motive [])
    (mark : ∀ c s, endsPhrase c = true → motive s → motive (c :: s))
    (blank : ∀ c s, isBlank c = true → motive s → motive (c :: s))
    (word : ∀ w s, IsWordText w → wordAhead s = false → motive s → motive (w ++ s))
    (s : List Char)
    : motive s := by
  cases s with
  | nil => exact nil
  | cons c s =>
      cases ends : endsPhrase c with
      | true => exact mark c s ends (induction_on_words nil mark blank word s)
      | false =>
          cases white : isBlank c with
          | true => exact blank c s white (induction_on_words nil mark blank word s)
          | false =>
              have ahead : wordAhead (c :: s) = true := by
                simpa [wordAhead, endsPhrase, white] using ends
              obtain ⟨w, rest, whole, text, stops⟩ := exists_word_of_wordAhead ahead
              rw [whole]
              have shorter : rest.length < (c :: s).length := by
                rw [whole, List.length_append]
                exact Nat.lt_add_of_pos_left (List.length_pos_iff.mpr text.filled)
              exact word w rest text stops (induction_on_words nil mark blank word rest)
termination_by s.length
decreasing_by
  · exact shorter
  · exact Nat.lt_succ_self _
  · exact Nat.lt_succ_self _

-----------------------------------------------------------------------------------------
-- Phrases from their front
-----------------------------------------------------------------------------------------

/-- The words of a text as texts, phrase by phrase. -/
def worded (s : List Char) : List (List String) :=
  (phrases s).map fun phrase => phrase.map String.ofList

section Runs

variable {p : Char → Bool}

theorem runs_cons_of_not {c : Char} (other : p c = false) (s : List Char)
    : runs p (c :: s) = runs p s := by
  rw [runs, List.splitOnP_cons_eq_if_modifyHead, if_pos (by simp [other])]
  rfl

/-- A run at the front of a text is the first one. -/
theorem runs_append {run s : List Char} (filled : run ≠ []) (whole : ∀ c ∈ run, p c = true)
    (stops : ∀ c ∈ s.head?, p c = false)
    : runs p (run ++ s) = run :: runs p s := by
  have kept (more : List (List Char))
      : (run :: more).filter (fun run => !run.isEmpty)
        = run :: more.filter (fun run => !run.isEmpty) :=
    List.filter_cons_of_pos (by simpa using filled)
  have whole : ∀ c ∈ run, (!p c) = false := fun c member => by simp [whole c member]
  cases s with
  | nil =>
      rw [List.append_nil, runs, List.splitOnP_eq_singleton whole, kept]
      rfl
  | cons c rest =>
      have other : p c = false := stops c rfl
      rw [runs_cons_of_not other, runs,
        List.splitOnP_append_cons_of_forall_mem whole c (by simp [other]), kept]
      rfl

end Runs

theorem words_cons_of_not_isWord {c : Char} (other : isWord c = false) (s : List Char)
    : words (c :: s) = words s :=
  runs_cons_of_not other s

/-- A word at the front of a text is the first one. -/
theorem words_append {w s : List Char} (word : IsWordText w) (stops : wordAhead s = false)
    : words (w ++ s) = w :: words s := by
  refine runs_append word.filled word.whole fun c first => ?_
  rw [wordAhead, Option.mem_def.mp first] at stops
  exact stops

theorem worded_cons_of_endsPhrase {c : Char} (ends : endsPhrase c = true) (s : List Char)
    : worded (c :: s) = [] :: worded s := by
  rw [worded, phrases, List.splitOnP_cons_eq_if_modifyHead, if_pos ends]
  rfl

/-- The first piece of a text begins as the text does, unless it is empty. -/
theorem wordAhead_of_splitOnP {s piece : List Char} {more : List (List Char)}
    (split : s.splitOnP endsPhrase = piece :: more) (stops : wordAhead s = false)
    : wordAhead piece = false := by
  cases s with
  | nil =>
      rw [List.splitOnP_nil] at split
      obtain ⟨rfl, _⟩ := List.cons.inj split
      rfl
  | cons c rest =>
      rw [List.splitOnP_cons_eq_if_modifyHead] at split
      split at split
      · obtain ⟨rfl, _⟩ := List.cons.inj split
        rfl
      · obtain ⟨first, others, same⟩ :=
          List.exists_cons_of_ne_nil (List.splitOnP_ne_nil endsPhrase rest)
        rw [same] at split
        obtain ⟨rfl, _⟩ := List.cons.inj split
        exact stops

theorem worded_cons_of_isBlank {c : Char} (blank : isBlank c = true) (s : List Char)
    : worded (c :: s) = worded s := by
  obtain ⟨piece, more, split⟩ := List.exists_cons_of_ne_nil (List.splitOnP_ne_nil endsPhrase s)
  rw [worded, worded, phrases, phrases, List.splitOnP_cons_eq_if_modifyHead,
    if_neg (by simp [endsPhrase_of_isBlank blank]), split]
  simp only [List.modifyHead_cons, List.map_cons,
    words_cons_of_not_isWord (isWord_of_isBlank blank)]

theorem splitOnP_append {w s : List Char} (whole : ∀ c ∈ w, isWord c = true)
    {piece : List Char} {more : List (List Char)} (split : s.splitOnP endsPhrase = piece :: more)
    : (w ++ s).splitOnP endsPhrase = (w ++ piece) :: more := by
  induction w with
  | nil => exact split
  | cons c w ih =>
      obtain ⟨word, whole⟩ := List.forall_mem_cons.mp whole
      rw [List.cons_append, List.splitOnP_cons_eq_if_modifyHead,
        if_neg (by simp [endsPhrase_of_isWord word]), ih whole]
      rfl

/-- A word at the front of a text is the first one of its first phrase. -/
theorem worded_append {w s : List Char} (word : IsWordText w) (stops : wordAhead s = false)
    : worded (w ++ s) = (worded s).modifyHead (String.ofList w :: ·) := by
  obtain ⟨piece, more, split⟩ := List.exists_cons_of_ne_nil (List.splitOnP_ne_nil endsPhrase s)
  rw [worded, worded, phrases, phrases, splitOnP_append word.whole split, split]
  simp only [List.modifyHead_cons, List.map_cons,
    words_append word (wordAhead_of_splitOnP split stops)]

/-- The words of a text before anything but blanks stands between them. -/
def opening (s : List Char) : List String :=
  (worded s).headD []

theorem worded_eq_cons (s : List Char)
    : ∃ more, worded s = opening s :: more := by
  have filled : worded s ≠ [] := by simp [worded, phrases, List.splitOnP_ne_nil]
  obtain ⟨first, more, same⟩ := List.exists_cons_of_ne_nil filled
  exact ⟨more, by rw [opening, same]; rfl⟩

theorem opening_cons_of_endsPhrase {c : Char} (ends : endsPhrase c = true) (s : List Char)
    : opening (c :: s) = [] := by
  rw [opening, worded_cons_of_endsPhrase ends]
  rfl

theorem opening_cons_of_isBlank {c : Char} (blank : isBlank c = true) (s : List Char)
    : opening (c :: s) = opening s := by
  rw [opening, worded_cons_of_isBlank blank, opening]

theorem opening_append {w s : List Char} (word : IsWordText w) (stops : wordAhead s = false)
    : opening (w ++ s) = String.ofList w :: opening s := by
  obtain ⟨more, same⟩ := worded_eq_cons s
  rw [opening, worded_append word stops, same]
  rfl

-----------------------------------------------------------------------------------------
-- Places where a word begins
-----------------------------------------------------------------------------------------

/-- What a text is from each of the places on where one of its words begins; `afterWord` tells
whether a word goes on at its front. -/
def starts : Bool → List Char → List (List Char)
  | _, [] => []
  | afterWord, c :: s =>
      if isWord c && !afterWord then (c :: s) :: starts true s else starts (isWord c) s

/-- A word begins exactly where none ends and one goes on, by induction. -/
theorem mem_starts {afterWord : Bool} {s t : List Char}
    : t ∈ starts afterWord s
      ↔ ∃ before, s = before ++ t ∧ wordAhead t = true
        ∧ (before.getLast?.map isWord).getD afterWord = false := by
  induction s generalizing afterWord with
  | nil =>
      rw [starts]
      refine iff_of_false List.not_mem_nil ?_
      rintro ⟨before, whole, ahead, _⟩
      rw [(List.append_eq_nil_iff.mp whole.symm).2] at ahead
      exact absurd ahead (by simp [wordAhead])
  | cons c s ih =>
      have later : (∃ before, s = before ++ t ∧ wordAhead t = true
            ∧ (before.getLast?.map isWord).getD (isWord c) = false)
          ↔ ∃ before, s = before ++ t ∧ wordAhead t = true
            ∧ (((c :: before).getLast?).map isWord).getD afterWord = false := by
        refine exists_congr fun before => and_congr_right fun _ => and_congr_right fun _ => ?_
        rw [List.getLast?_cons]
        cases before.getLast? <;> rfl
      have front : t ∈ starts afterWord (c :: s)
          ↔ (t = c :: s ∧ isWord c = true ∧ afterWord = false) ∨ t ∈ starts (isWord c) s := by
        rw [starts]
        cases word : isWord c <;> cases afterWord <;> simp
      rw [front, ih, later]
      constructor
      · rintro (⟨rfl, word, rfl⟩ | ⟨before, rfl, ahead, apart⟩)
        · exact ⟨[], rfl, by simpa [wordAhead] using word, rfl⟩
        · exact ⟨c :: before, rfl, ahead, apart⟩
      · rintro ⟨before, whole, ahead, apart⟩
        cases before with
        | nil =>
            rw [List.nil_append] at whole
            obtain rfl := whole
            exact .inl ⟨rfl, by simpa [wordAhead] using ahead, apart⟩
        | cons d before =>
            obtain ⟨rfl, behind⟩ := List.cons.inj whole
            exact .inr ⟨before, behind, ahead, apart⟩

/-- Later places have less of the text behind them, by induction. -/
theorem pairwise_starts (afterWord : Bool) (s : List Char)
    : (starts afterWord s).Pairwise fun t t' => t'.length < t.length := by
  induction s generalizing afterWord with
  | nil => exact List.Pairwise.nil
  | cons c s ih =>
      rw [starts]
      split
      · refine List.pairwise_cons.mpr ⟨fun t member => ?_, ih true⟩
        obtain ⟨before, rfl, _⟩ := mem_starts.mp member
        rw [List.length_cons, List.length_append]
        omega
      · exact ih (isWord c)

/-- No word begins inside another. -/
theorem starts_append {w s : List Char} (word : IsWordText w) (stops : wordAhead s = false)
    : starts false (w ++ s) = (w ++ s) :: starts false s := by
  have inside {w : List Char} (whole : ∀ c ∈ w, isWord c = true)
      : starts true (w ++ s) = starts false s := by
    induction w with
    | nil =>
        cases s with
        | nil => rfl
        | cons c rest =>
            have other : isWord c = false := by simpa [wordAhead] using stops
            rw [List.nil_append, starts, starts, other]
            rfl
    | cons c w ih =>
        obtain ⟨word, whole⟩ := List.forall_mem_cons.mp whole
        rw [List.cons_append, starts, word]
        exact ih whole
  obtain ⟨c, w, rfl⟩ := List.exists_cons_of_ne_nil word.filled
  obtain ⟨first, whole⟩ := List.forall_mem_cons.mp word.whole
  rw [List.cons_append, starts, first, inside whole]
  rfl

/-- All places of a list that are not its end. -/
def places {α : Type} : List α → List (List α)
  | [] => []
  | a :: rest => (a :: rest) :: places rest

/-- The words of a text from each place on are those that can be read where a word begins. -/
theorem places_worded (s : List Char)
    : (worded s).flatMap places = (starts false s).map opening := by
  induction s using induction_on_words with
  | nil => rfl
  | mark c s ends ih =>
      have other := isWord_of_endsPhrase ends
      rw [worded_cons_of_endsPhrase ends, List.flatMap_cons, ih, starts, other]
      rfl
  | blank c s blank ih =>
      rw [worded_cons_of_isBlank blank, ih, starts, isWord_of_isBlank blank]
      rfl
  | word w s word stops ih =>
      obtain ⟨more, same⟩ := worded_eq_cons s
      rw [worded_append word stops, starts_append word stops, List.map_cons,
        opening_append word stops, ← ih, same]
      rfl

-----------------------------------------------------------------------------------------
-- The leftmost place
-----------------------------------------------------------------------------------------

/-- A word begins between two parts of a text. -/
structure Begins (before t : List Char) : Prop where
  ahead : wordAhead t = true
  apart : wordBehind before = false

theorem mem_starts_iff_begins {s t : List Char}
    : t ∈ starts false s ↔ ∃ before, s = before ++ t ∧ Begins before t := by
  rw [mem_starts]
  refine exists_congr fun before => and_congr_right fun _ => ?_
  have last : (before.getLast?.map isWord).getD false = wordBehind before := by
    unfold wordBehind
    cases before.getLast? <;> rfl
  rw [last]
  exact ⟨fun h => ⟨h.1, h.2⟩, fun h => ⟨h.ahead, h.apart⟩⟩

/-- What is found first at the places where a word begins is found at the leftmost place where
anything is. -/
theorem findSome?_starts {α : Type} {find : List Char → Option α} {s : List Char} {a : α}
    : (starts false s).findSome? find = some a
      ↔ ∃ before t, s = before ++ t ∧ Begins before t ∧ find t = some a
        ∧ ∀ before' t', s = before' ++ t' → Begins before' t' → find t' ≠ none →
          before.length ≤ before'.length := by
  have lengths {before t before' t' : List Char} (whole : s = before ++ t)
      (whole' : s = before' ++ t') : before.length + t.length = before'.length + t'.length := by
    rw [← List.length_append, ← List.length_append, ← whole, ← whole']
  rw [List.findSome?_eq_some_iff]
  constructor
  · rintro ⟨earlier, t, later, split, found, missed⟩
    have order := pairwise_starts false s
    rw [split] at order
    obtain ⟨before, whole, begins⟩ := mem_starts_iff_begins.mp (split ▸ List.mem_append_cons_self)
    refine ⟨before, t, whole, begins, found, fun before' t' whole' begins' finds => ?_⟩
    have total := lengths whole whole'
    have member := mem_starts_iff_begins.mpr ⟨before', whole', begins'⟩
    rw [split] at member
    -- A place further left has more of the text behind it, so it comes earlier in the list.
    rcases List.mem_append.mp member with passed | stands
    · exact absurd (missed t' passed) finds
    · rcases List.mem_cons.mp stands with rfl | behind
      · omega
      · have shorter := List.rel_of_pairwise_cons (List.pairwise_append.mp order).2.1 behind
        omega
  · rintro ⟨before, t, whole, begins, found, leftmost⟩
    obtain ⟨earlier, later, split⟩ :=
      List.append_of_mem (mem_starts_iff_begins.mpr ⟨before, whole, begins⟩)
    refine ⟨earlier, t, later, split, found, fun t' passed => ?_⟩
    have order := pairwise_starts false s
    rw [split] at order
    have longer := (List.pairwise_append.mp order).2.2 t' passed t List.mem_cons_self
    obtain ⟨before', whole', begins'⟩ :=
      mem_starts_iff_begins.mp (split ▸ List.mem_append_left _ passed)
    by_contra finds
    have := leftmost before' t' whole' begins' finds
    have := lengths whole whole'
    omega

/-- Nothing is found exactly where it is found at no place. -/
theorem findSome?_starts_eq_none_iff {α : Type} {find : List Char → Option α} {s : List Char}
    : (starts false s).findSome? find = none
      ↔ ∀ before t, s = before ++ t → Begins before t → find t = none := by
  rw [List.findSome?_eq_none_iff]
  constructor
  · exact fun missed before t whole begins =>
      missed t (mem_starts_iff_begins.mpr ⟨before, whole, begins⟩)
  · intro missed t member
    obtain ⟨before, whole, begins⟩ := mem_starts_iff_begins.mp member
    exact missed before t whole begins

end RideQuestions.Text
