import RideQuestions.Proofs.Sql.Counting
import RideQuestions.Proofs.Text.Trimming

/-! Texts that the guard lets through. A calm text that begins as a reading query is one statement
without anything to complain about, as long as its placeholders fit and its tokens are few.
-/

namespace RideQuestions.Sql

open RideQuestions.Text

-----------------------------------------------------------------------------------------
-- One statement
-----------------------------------------------------------------------------------------

theorem Progress.ended_nest (p : Progress) (t : Token)
    : (p.nest t).ended = p.ended := by
  unfold nest
  dsimp only
  repeat' split
  all_goals rfl

theorem Token.isMark_iff {t : Token} {mark : String}
    : t.isMark mark = true ↔ t.kind = .punctuation ∧ t.text = mark := by
  rw [isMark, Bool.and_eq_true, decide_eq_true_eq, decide_eq_true_eq]

/-- A token is no mark with a character that it has not. -/
theorem Token.isMark_eq_false {t : Token} {mark : String} {c : Char} (member : c ∈ mark.toList)
    (absent : c ∉ t.text.toList)
    : t.isMark mark = false := by
  rw [← Bool.not_eq_true, isMark_iff]
  rintro ⟨_, rfl⟩
  exact absent member

section White

variable {t : Token} (white : t.isWhite = true)
include white

theorem Token.isMark_of_isWhite (mark : String)
    : t.isMark mark = false := by
  rw [isWhite, Bool.or_eq_true, decide_eq_true_eq, decide_eq_true_eq] at white
  rcases white with kind | kind <;> simp [isMark, kind]

theorem Token.isKeyword_of_isWhite
    : t.isKeyword = false := by
  rw [isWhite, Bool.or_eq_true, decide_eq_true_eq, decide_eq_true_eq] at white
  rcases white with kind | kind <;> simp [isKeyword, kind]

theorem Progress.separatesBatches_of_isWhite
    : separatesBatches t = false := by
  rw [Token.isWhite, Bool.or_eq_true, decide_eq_true_eq, decide_eq_true_eq] at white
  rcases white with kind | kind <;> simp [separatesBatches, kind]

end White

/-- A token that ends no statement: neither a separator nor the end of a batch. -/
structure Token.Inner (t : Token) : Prop where
  separator : t.isMark ";" = false
  batch : Progress.separatesBatches t = false

theorem Token.Quiet.inner {t : Token} (quiet : t.Quiet)
    : t.Inner where
  separator := isMark_eq_false (List.mem_singleton_self ';') fun member =>
    absurd (quiet.plain ';' member) (by decide)
  batch := quiet.batch

theorem Token.inner_of_isWhite {t : Token} (white : t.isWhite = true)
    : t.Inner :=
  ⟨isMark_of_isWhite white ";", Progress.separatesBatches_of_isWhite white⟩

theorem Progress.ended_take {p : Progress} {t : Token} (inner : t.Inner) (goes : p.ended = false)
    : (p.take t).ended = false := by
  have same := (p.ended_nest t).trans goes
  rw [take]
  dsimp only
  rw [inner.separator, inner.batch, if_neg Bool.false_ne_true, if_neg Bool.false_ne_true]
  split <;> exact same

theorem splitFrom_nil {p : Progress} {current : List Token}
    (visible : ∃ t ∈ current, t.isWhite = false)
    : splitFrom p current [] = [current.reverse] := by
  obtain ⟨t, member, seen⟩ := visible
  rw [splitFrom, if_neg]
  intro white
  exact absurd ((List.all_eq_true.mp white t member).symm.trans seen) (by decide)

/-- Tokens that end no statement stay in the one that they begin in, by induction on the tokens. -/
theorem splitFrom_inner {p : Progress} {current rest : List Token} (goes : p.ended = false)
    (inner : ∀ t ∈ rest, t.Inner) (visible : ∃ t ∈ current.reverse ++ rest, t.isWhite = false)
    : splitFrom p current rest = [current.reverse ++ rest] := by
  induction rest generalizing p current with
  | nil =>
      rw [splitFrom_nil (by simpa using visible), List.append_nil]
  | cons t rest ih =>
      obtain ⟨first, others⟩ := List.forall_mem_cons.mp inner
      have goesOn := Progress.ended_take first goes
      rw [splitFrom, goes, Bool.false_and, if_neg Bool.false_ne_true,
        ih goesOn others (by simpa using visible)]
      simp

-----------------------------------------------------------------------------------------
-- Reading queries
-----------------------------------------------------------------------------------------

/-- The word that a reading query begins with. -/
abbrev selectWord : List Char :=
  ['S', 'E', 'L', 'E', 'C', 'T']

/-- A text that begins with the word of a reading query and a blank. -/
abbrev selecting (rest : List Char) : List Char :=
  'S' :: 'E' :: 'L' :: 'E' :: 'C' :: 'T' :: ' ' :: rest

section Selecting

variable {rest : List Char}

theorem takeWhile_select {p : Char → Bool} (inside : ∀ c ∈ selectWord, p c = true)
    (apart : ∀ c ∈ rest.head?, p c = false)
    : ('E' :: 'L' :: 'E' :: 'C' :: 'T' :: rest).takeWhile p = ['E', 'L', 'E', 'C', 'T'] :=
  takeWhile_eq_of_split (show _ = ['E', 'L', 'E', 'C', 'T'] ++ rest from rfl)
    (fun c member => inside c (List.mem_cons_of_mem _ member)) apart

/-- The word that a reading query begins with is a keyword, as long as neither a point nor a
parenthesis follows it. -/
theorem firstToken_select (apart : ∀ c ∈ rest.head?, wordChar c = false ∧ c ≠ '(')
    (noPoint : pointAhead rest = false)
    : firstToken none (selectWord ++ rest) = (.keyword .rows, 6) := by
  have apartWord : ∀ c ∈ rest.head?, isWord c = false := fun c next =>
    isWord_of_wordChar (apart c next).1
  have noCall : ['('].isPrefixOf rest = false := by
    rw [← Bool.not_eq_true, List.isPrefixOf_iff_prefix]
    rintro ⟨more, rfl⟩
    exact (apart '(' rfl).2 rfl
  have word : letterWord (selectWord ++ rest) = some 6 := by
    rw [List.cons_append, letterWord_eq (by decide)]
    exact congrArg (fun taken => some (1 + taken.length))
      (takeWhile_select (by decide) apartWord)
  have whole : wordRule none (selectWord ++ rest) = some (.keyword .rows, 6) := by
    have kind : wordKind (String.ofList selectWord) = .keyword .rows := by decide
    have taken := takeWhile_select (p := wordChar) (by decide) fun c next => (apart c next).1
    rw [List.cons_append, wordRule_eq (by decide)]
    simp only [List.cons_append, List.nil_append, taken]
    exact congrArg (fun kind => some (kind, 6)) kind
  have earlier : ∀ r ∈ nameRules.take 9, r none (selectWord ++ rest) = none := by
    simp only [nameRules, rules, List.take_succ_cons, List.take_zero, List.drop_succ_cons,
      List.drop_zero, List.cons_append, List.nil_append, List.forall_mem_cons]
    refine ⟨?words, ?beforePoint, rfl, ?function, ?phrases, ?create, ?double, ?comparison,
      ?counted, by simp⟩
    case words => exact rule_eq_none (anyPhrase_eq_none_of_first (by decide))
    case beforePoint => exact rule_eq_none (Matcher.followedBy_eq_none word noPoint)
    case function => exact rule_eq_none (Matcher.followedBy_eq_none word noCall)
    case phrases => exact rule_eq_none (anyPhrase_eq_none_of_first (by decide))
    case create => exact rule_eq_none (anyPhrase_eq_none_of_first (by decide))
    case double => exact rule_eq_none (phrase_eq_none (by decide))
    case comparison => exact rule_eq_none (anyPhrase_eq_none_of_first (by decide))
    case counted =>
      have other : isLetterOf 'G' 'S' = false := by decide
      exact rule_eq_none
        (by simp [countedSeparator, Matcher.followedBy, Matcher.andThen, spelled, other])
  have split : nameRules = nameRules.take 9 ++ [wordRule] := rfl
  have found : nameRules.findSome? (· none (selectWord ++ rest))
      = some (firstToken none (selectWord ++ rest)) :=
    findSome?_nameRules (by decide) none _
  rw [split, List.findSome?_append, List.findSome?_eq_none_iff.mpr earlier, Option.none_or,
    List.findSome?_singleton] at found
  exact Option.some.inj (found.symm.trans whole)

/-- A text that begins so has that word as its first token. -/
theorem tokensFrom_select (apart : ∀ c ∈ rest.head?, wordChar c = false ∧ c ≠ '(')
    (noPoint : pointAhead rest = false)
    : tokensFrom 0 none (selectWord ++ rest)
      = ⟨.keyword .rows, "SELECT"⟩ :: tokensFrom 0 (some 'T') rest := by
  have first := firstToken_select apart noPoint
  calc tokensFrom 0 none (selectWord ++ rest)
      = tokenAt none (selectWord ++ rest)
          :: tokensFrom ((firstToken none (selectWord ++ rest)).2 - 1) (some 'S')
            (['E', 'L', 'E', 'C', 'T'] ++ rest) := tokensFrom_zero none 'S' _
    _ = ⟨.keyword .rows, "SELECT"⟩ :: tokensFrom 0 (some 'T') rest := by
      rw [tokenAt, first]
      rfl

/-- A word is not taken for a name as long as no point stands behind the blanks that follow it. -/
theorem pointAhead_eq_false (noPoint : ∀ c ∈ (rest.dropWhile isBlank).head?, c ≠ '.')
    : pointAhead rest = false := by
  unfold pointAhead
  split
  · next same => exact absurd rfl (noPoint '.' (by simp [same]))
  · next same => exact absurd rfl (noPoint '.' (by simp [same]))
  · rfl

end Selecting

-----------------------------------------------------------------------------------------
-- The verdict
-----------------------------------------------------------------------------------------

/-- Nothing dangerous is found where no keyword is a dangerous word. -/
theorem dangerousIn_eq_nil {statement : Statement}
    (harmless : ∀ t ∈ statement, t.isKeyword = true → t.upper ∉ dangerousWords)
    : dangerousIn [statement] = [] := by
  have none_found : dangerousWords.filter
      ((([statement].flatten.filter Token.isKeyword).map Token.upper).contains ·) = [] := by
    rw [List.filter_eq_nil_iff]
    intro word dangerous found
    simp only [List.flatten_cons, List.flatten_nil, List.append_nil, List.contains_iff_mem,
      List.mem_map, List.mem_filter] at found
    obtain ⟨t, ⟨member, keyword⟩, rfl⟩ := found
    exact harmless t member keyword dangerous
  rw [dangerousIn, none_found, List.mergeSort_nil]

theorem separatorInside_eq_false {text : String} (absent : ';' ∉ text.toList)
    : separatorInside text = false := by
  have part (p : Char → Bool) (s : List Char) : ∀ c ∈ dropEndWhile p s, c ∈ s := by
    intro c member
    rw [dropEndWhile, List.mem_reverse] at member
    exact List.mem_reverse.mp ((List.dropWhile_sublist p).subset member)
  rw [separatorInside, ← Bool.not_eq_true, List.contains_iff_mem]
  intro member
  have trimmed : ';' ∈ dropEndWhile isBlank (text.toList.dropWhile isBlank) := part _ _ _ member
  exact absent ((List.dropWhile_sublist isBlank).subset (part _ _ _ trimmed))

/-- Why a text is refused that is one statement. -/
theorem refusal?_of_single {grouping : Grouping} {text : String} {statement : Statement}
    (single : statements (tokens (trim text)) = [statement])
    : refusal? grouping text = grouping.refusal? statement := by
  rw [refusal?, single, List.findSome?_singleton]

/-- A text is not refused when its statements have few tokens. -/
theorem refusal?_of_light (grouping : Grouping) {text : String}
    (light : ∀ s ∈ statements (tokens (trim text)), s.weight ≤ depthLimit ∧ s.length ≤ partLimit)
    : refusal? grouping text = none := by
  rw [refusal?, List.findSome?_eq_none_iff]
  exact fun s member => grouping.refusal?_eq_none (light s member).1 (light s member).2

/-- One statement that only reads, with nothing dangerous in it, is let through when its
placeholders fit, as long as it is grouped. -/
theorem inspect_of_single (grouping : Grouping) {text : String} {statement : Statement}
    {parameters : Option Nat} (said : isBlankText text = false)
    (single : statements (tokens (trim text)) = [statement]) (reads : statement.type = "SELECT")
    (harmless : dangerousIn [statement] = [])
    (placeholders : bindingComplaints text parameters = .ok [])
    : inspect text parameters true grouping
      = match grouping.refusal? statement with
        | some error => .error (.grouping error)
        | none =>
            .ok
              {
                complaints := [],
                separatorInside := separatorInside text,
                type? := some "SELECT"
              } := by
  have significant : statement.significant.isEmpty = false := by
    cases empty : statement.significant with
    | nil =>
        rw [Statement.type, empty] at reads
        exact absurd reads (by decide)
    | cons t rest => rfl
  have kept : [statement].filter (fun s => !(Statement.significant s).isEmpty) = [statement] := by
    simp [significant]
  rw [inspect, said, if_neg Bool.false_ne_true, refusal?_of_single single, single, kept]
  cases grouping.refusal? statement with
  | some error => rfl
  | none =>
      dsimp only [verdictOn]
      rw [reads, harmless, placeholders]
      rfl

theorem type_of_select (behind : List Token)
    : Statement.type (⟨.keyword .rows, "SELECT"⟩ :: behind) = "SELECT" := by
  have significant : Token.isSignificant ⟨.keyword .rows, "SELECT"⟩ = true := by decide
  have upper : Token.upper ⟨.keyword .rows, "SELECT"⟩ = "SELECT" := by decide
  rw [Statement.type, Statement.significant, List.filter_cons_of_pos significant]
  exact upper

/-- A text of tokens that end no statement is one statement, and let through if it begins as a
reading query and is grouped. -/
theorem inspect_of_select (grouping : Grouping) {text : String} {rest : List Char}
    {behind : List Token} {parameters : Option Nat} (begins : text.toList = selectWord ++ rest)
    (last : ∀ c ∈ text.toList.getLast?, isBlank c = false)
    (cut : tokens text = ⟨.keyword .rows, "SELECT"⟩ :: behind)
    (inner : ∀ t ∈ tokens text, t.Inner)
    (harmless : ∀ t ∈ tokens text, t.isKeyword = true → t.upper ∉ dangerousWords)
    (placeholders : bindingComplaints text parameters = .ok [])
    : inspect text parameters true grouping
      = match grouping.refusal? (tokens text) with
        | some error => .error (.grouping error)
        | none =>
            .ok
              {
                complaints := [],
                separatorInside := separatorInside text,
                type? := some "SELECT"
              } := by
  have one : statements (tokens text) = [tokens text] :=
    splitFrom_inner rfl inner ⟨⟨.keyword .rows, "SELECT"⟩, by simp [cut], rfl⟩
  have first : isBlank 'S' = false := by decide
  have trimmed : trim text = text := by
    refine trim_eq_self ?_ last
    rw [begins]
    rintro d ⟨⟩
    exact first
  have said : isBlankText text = false := by
    rw [isBlankText, begins, selectWord, List.cons_append, List.all_cons, first, Bool.false_and]
  have reads : Statement.type (tokens text) = "SELECT" := cut ▸ type_of_select behind
  exact inspect_of_single grouping said (trimmed.symm ▸ one) reads (dangerousIn_eq_nil harmless)
    placeholders

/-- A calm text is let through that begins as a reading query, whose placeholders fit, and in which
few characters go on with no word: it is one statement without any complaint. -/
theorem inspect_of_calm (grouping : Grouping) {text : String} {c : Char} {rest : List Char}
    {parameters : Option Nat} (h : calm none [] text.toList = true)
    (begins : text.toList = selecting (c :: rest)) (noBlank : isBlank c = false) (noPoint : c ≠ '.')
    (last : ∀ c ∈ text.toList.getLast?, isBlank c = false)
    (light : beginnings false none text.toList ≤ depthLimit)
    (short : beginnings true none text.toList ≤ partLimit)
    (placeholders : bindingComplaints text parameters = .ok [])
    : inspect text parameters true grouping
      = .ok { complaints := [], separatorInside := false, type? := some "SELECT" } := by
  have quiet := tokens_quiet h
  have mark : wordChar ' ' = false ∧ isBlank ' ' = true := by decide
  have cut : tokens text
      = ⟨.keyword .rows, "SELECT"⟩ :: tokensFrom 0 (some 'T') (' ' :: c :: rest) := by
    rw [tokens, begins]
    exact tokensFrom_select (by simpa using mark.1)
      (pointAhead_eq_false (by simpa [noBlank, mark.2] using noPoint))
  have whole : separatorInside text = false := by
    refine separatorInside_eq_false fun member => ?_
    exact absurd ((place_of_calm h).plain ';' member) (by decide)
  have grouped : grouping.refusal? (tokens text) = none :=
    grouping.refusal?_eq_none ((weight_tokens_le h).trans light) ((length_tokens_le h).trans short)
  have begins : text.toList = selectWord ++ ' ' :: c :: rest := begins
  rw [inspect_of_select grouping begins last cut
    (fun t member => (quiet t member).inner) (fun t member => (quiet t member).keyword)
    placeholders, grouped, whole]

end RideQuestions.Sql
