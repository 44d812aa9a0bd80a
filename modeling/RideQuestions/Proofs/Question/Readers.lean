import RideQuestions.Proofs.Question.Grammar

/-! The readers of date phrases. Each looks for certain words at the front of others, so that it
reads the phrases that these words spell, and the first thing it reads is the leftmost phrase of its
kind.
-/

namespace RideQuestions.Question

open RideQuestions.Text

variable {α β : Type}

-----------------------------------------------------------------------------------------
-- Readers
-----------------------------------------------------------------------------------------

/-- A reader of words reads the phrases of a kind: it looks for words of some forms at the front,
the phrases are what these words spell, and its value may depend on the words behind them. -/
structure Reader (read : List String → Option β) (form : List String → α → Prop)
    (value : α → List String → β) (kind : List Char → α → Prop) : Prop where
  reads : ∀ words b, read words = some b
    ↔ ∃ ws rest a, words = ws ++ rest ∧ form ws a ∧ value a rest = b
  spelled : ∀ said a, kind said a ↔ ∃ ws, form ws a ∧ Spelled ws said
  filled : ∀ ws a, form ws a → ws ≠ []
  proper : ∀ ws a, form ws a → ∀ w ∈ ws, IsWordText w.toList

/-- What is read at the first place of each phrase is read at the places where a word begins. -/
theorem findSome?_worded (read : List String → Option β) (s : List Char)
    : (worded s).findSome? (atFirst? read)
      = (starts false s).findSome? fun t => read (opening t) := by
  have along (words : List String) : atFirst? read words = (places words).findSome? read := by
    induction words with
    | nil => rfl
    | cons w rest ih =>
        rw [atFirst?, places, List.findSome?_cons, ih]
        cases read (w :: rest) <;> rfl
  have flat (phrases : List (List String))
      : phrases.findSome? (atFirst? read) = (phrases.flatMap places).findSome? read := by
    induction phrases with
    | nil => rfl
    | cons phrase rest ih =>
        rw [List.findSome?_cons, List.flatMap_cons, List.findSome?_append, along, ih]
        cases (places phrase).findSome? read <;> rfl
  rw [flat, places_worded, List.findSome?_map]
  rfl

namespace Reader

variable {read : List String → Option β} {form : List String → α → Prop}
  {value : α → List String → β} {kind : List Char → α → Prop}

/-- A reader reads the phrase in the front of a text that begins with a word. -/
theorem read_opening (h : Reader read form value kind) {t : List Char} (ahead : wordAhead t = true)
    {b : β}
    : read (opening t) = some b
      ↔ ∃ said behind a, t = said ++ behind ∧ kind said a ∧ wordAhead behind = false
          ∧ value a (opening behind) = b := by
  rw [h.reads]
  constructor
  · rintro ⟨ws, rest, a, opens, formed, rfl⟩
    obtain ⟨said, behind, whole, spelled, stops, rfl⟩ :=
      (opening_eq_append_iff (h.filled ws a formed) (h.proper ws a formed) ahead).mp opens
    exact ⟨said, behind, a, whole, (h.spelled said a).mpr ⟨ws, formed, spelled⟩, stops, rfl⟩
  · rintro ⟨said, behind, a, whole, said', stops, rfl⟩
    obtain ⟨ws, formed, spelled⟩ := (h.spelled said a).mp said'
    refine ⟨ws, opening behind, a, ?_, formed, rfl⟩
    exact (opening_eq_append_iff (h.filled ws a formed) (h.proper ws a formed) ahead).mpr
      ⟨said, behind, whole, spelled, stops, rfl⟩

/-- A phrase that is read begins and ends inside words, so that it stands between boundaries where a
word begins before it and none goes on behind it. -/
theorem occurs_iff (h : Reader read form value kind) {s before said behind : List Char} {a : α}
    : Occurs kind s before said behind a
      ↔ s = before ++ (said ++ behind) ∧ kind said a ∧ Begins before (said ++ behind)
        ∧ wordAhead behind = false := by
  have framed (said' : kind said a) : wordAhead said = true ∧ wordBehind said = true := by
    obtain ⟨ws, formed, spelled⟩ := (h.spelled said a).mp said'
    exact spelled.framed (h.proper ws a formed)
  constructor
  · rintro ⟨whole, said', opens, closes⟩
    obtain ⟨first, last⟩ := framed said'
    have ahead := wordAhead_append first behind
    rw [Boundary, ahead] at opens
    rw [Boundary, wordBehind_append last before] at closes
    refine ⟨whole.trans (List.append_assoc _ _ _), said', ⟨ahead, ?_⟩, ?_⟩
    · exact eq_false_of_ne_true opens
    · exact eq_false_of_ne_true closes.symm
  · rintro ⟨whole, said', begins, stops⟩
    obtain ⟨first, last⟩ := framed said'
    refine ⟨whole.trans (List.append_assoc _ _ _).symm, said', ?_, ?_⟩
    · rw [Boundary, begins.ahead, begins.apart]
      exact Bool.false_ne_true
    · rw [Boundary, wordBehind_append last before, stops]
      exact Bool.false_ne_true.symm

/-- The first thing that is read is the leftmost phrase of the kind. -/
theorem findSome?_eq_some_iff (h : Reader read form value kind) {s : List Char} {b : β}
    : (worded s).findSome? (atFirst? read) = some b
      ↔ ∃ before said behind a, Leftmost kind s before said behind a
          ∧ value a (opening behind) = b := by
  rw [findSome?_worded, findSome?_starts]
  constructor
  · rintro ⟨before, t, whole, begins, found, leftmost⟩
    obtain ⟨said, behind, a, rfl, said', stops, same⟩ := (h.read_opening begins.ahead).mp found
    refine ⟨before, said, behind, a, ⟨h.occurs_iff.mpr ⟨whole, said', begins, stops⟩, ?_⟩, same⟩
    intro before' said₂ behind' a' occurs
    obtain ⟨whole', said₂', begins', stops'⟩ := h.occurs_iff.mp occurs
    refine leftmost before' _ whole' begins' ?_
    rw [(h.read_opening begins'.ahead).mpr ⟨said₂, behind', a', rfl, said₂', stops', rfl⟩]
    exact Option.some_ne_none _
  · rintro ⟨before, said, behind, a, ⟨occurs, first⟩, same⟩
    obtain ⟨whole, said', begins, stops⟩ := h.occurs_iff.mp occurs
    refine ⟨before, said ++ behind, whole, begins, ?_, fun before' t' whole' begins' finds => ?_⟩
    · exact (h.read_opening begins.ahead).mpr ⟨said, behind, a, rfl, said', stops, same⟩
    · obtain ⟨b', found⟩ := Option.ne_none_iff_exists'.mp finds
      obtain ⟨said₂, behind', a', rfl, said₂', stops', _⟩ :=
        (h.read_opening begins'.ahead).mp found
      exact first before' said₂ behind' a' (h.occurs_iff.mpr ⟨whole', said₂', begins', stops'⟩)

/-- Nothing is read exactly when no phrase of the kind is there. -/
theorem findSome?_eq_none_iff (h : Reader read form value kind) {s : List Char}
    : (worded s).findSome? (atFirst? read) = none ↔ Absent kind s := by
  rw [findSome?_worded, findSome?_starts_eq_none_iff]
  constructor
  · intro missed before said behind a occurs
    obtain ⟨whole, said', begins, stops⟩ := h.occurs_iff.mp occurs
    have found := (h.read_opening begins.ahead).mpr ⟨said, behind, a, rfl, said', stops, rfl⟩
    rw [missed before _ whole begins] at found
    exact absurd found (by simp)
  · intro absent before t whole begins
    rw [Option.eq_none_iff_forall_ne_some]
    intro b found
    obtain ⟨said, behind, a, rfl, said', stops, _⟩ := (h.read_opening begins.ahead).mp found
    exact absent before said behind a (h.occurs_iff.mpr ⟨whole, said', begins, stops⟩)

end Reader

-----------------------------------------------------------------------------------------
-- Names of months and years
-----------------------------------------------------------------------------------------

theorem monthNumber?_eq_some_iff {m : String} {month : Nat}
    : monthNumber? m = some month ↔ MonthSaid m.toList month := by
  have numbered : ∀ i (h : i < monthWords.length),
      monthNumber? monthWords[i] = some (i + 1) := by decide
  unfold MonthSaid
  rw [String.ofList_toList]
  constructor
  · intro named
    obtain ⟨i, found, rfl⟩ := Option.map_eq_some_iff.mp named
    obtain ⟨bound, same, _⟩ := List.findIdx?_eq_some_iff_getElem.mp found
    exact ⟨i, List.getElem?_eq_some_iff.mpr ⟨bound, of_decide_eq_true same⟩, rfl⟩
  · rintro ⟨i, stands, rfl⟩
    obtain ⟨bound, rfl⟩ := List.getElem?_eq_some_iff.mp stands
    exact numbered i bound

theorem isWordText_of_monthNumber? {m : String} {month : Nat} (named : monthNumber? m = some month)
    : IsWordText m.toList := by
  have words : ∀ m ∈ monthWords, IsWordText m.toList := by decide +kernel
  obtain ⟨i, stands, _⟩ := monthNumber?_eq_some_iff.mp named
  rw [String.ofList_toList] at stands
  exact words m (List.mem_of_getElem? stands)

theorem yearNumber?_eq_some_iff {y : String} {year : Nat}
    : yearNumber? y = some year ↔ YearSaid y.toList year := by
  have value (a b c d : Char) {thousands hundreds tens ones : Nat} (ha : digit? a = some thousands)
      (hb : digit? b = some hundreds) (hc : digit? c = some tens) (hd : digit? d = some ones)
      : digitsValue digit? [a, b, c, d] = 1000 * thousands + 100 * hundreds + 10 * tens + ones := by
    simp only [digitsValue, List.foldl_cons, List.foldl_nil, ha, hb, hc, hd, Option.getD_some]
    omega
  have one : digit? '1' = some 1 := by decide
  have two : digit? '2' = some 2 := by decide
  have nine : digit? '9' = some 9 := by decide
  have zero : digit? '0' = some 0 := by decide
  constructor
  · intro named
    unfold yearNumber? at named
    split at named
    · next a b c d spelled =>
        split at named
        · next written =>
            obtain ⟨century, decade, last⟩ := written
            obtain ⟨tens, hc⟩ := Option.isSome_iff_exists.mp decade
            obtain ⟨ones, hd⟩ := Option.isSome_iff_exists.mp last
            rw [spelled, ← Option.some.inj named]
            rcases century with ⟨rfl, rfl⟩ | ⟨rfl, rfl⟩
            · rw [value _ _ _ _ one nine hc hd]
              exact .nineteen hc hd
            · rw [value _ _ _ _ two zero hc hd]
              exact .twenty hc hd
        · exact absurd named (by simp)
    · exact absurd named (by simp)
  · intro said
    have read {a b c d : Char} (spelled : y.toList = [a, b, c, d])
        (century : (a = '1' ∧ b = '9') ∨ (a = '2' ∧ b = '0')) {tens ones : Nat}
        (hc : digit? c = some tens) (hd : digit? d = some ones)
        : yearNumber? y = some (digitsValue digit? [a, b, c, d]) := by
      rw [yearNumber?, spelled]
      exact if_pos ⟨century, by simp [isDigit, hc], by simp [isDigit, hd]⟩
    generalize spelled : y.toList = text at said
    cases said with
    | nineteen hc hd => rw [read spelled (by simp) hc hd, value _ _ _ _ one nine hc hd]
    | twenty hc hd => rw [read spelled (by simp) hc hd, value _ _ _ _ two zero hc hd]

theorem isWordText_of_yearNumber? {y : String} {year : Nat} (named : yearNumber? y = some year)
    : IsWordText y.toList := by
  have said := yearNumber?_eq_some_iff.mp named
  generalize y.toList = text at said
  have word {a b c d : Char} (front : isWord a = true ∧ isWord b = true) {tens ones : Nat}
      (hc : digit? c = some tens) (hd : digit? d = some ones) : IsWordText [a, b, c, d] :=
    ⟨List.cons_ne_nil _ _, by simp [front, isWord_of_digit? hc, isWord_of_digit? hd]⟩
  cases said with
  | nineteen hc hd => exact word (by decide +kernel) hc hd
  | twenty hc hd => exact word (by decide +kernel) hc hd

-----------------------------------------------------------------------------------------
-- The four kinds of phrases
-----------------------------------------------------------------------------------------

/-- A gap between two words is spelled with an `of` or without one. -/
theorem spelled_across_gap {w v : String} {said : List Char}
    : (∃ ws, (ws = [w, v] ∨ ws = [w, "of", v]) ∧ Spelled ws said)
      ↔ ∃ g, Gap g ∧ said = w.toList ++ g ++ v.toList := by
  constructor
  · rintro ⟨_, rfl | rfl, spelled⟩
    · obtain ⟨b, rest, between, behind, rfl⟩ := spelled_cons_iff.mp spelled
      exact ⟨b, .blanks between, by rw [spelled_singleton_iff.mp behind]⟩
    · obtain ⟨b, rest, before, more, rfl⟩ := spelled_cons_iff.mp spelled
      obtain ⟨b', rest, behind, last, rfl⟩ := spelled_cons_iff.mp more
      refine ⟨_, .of before behind, ?_⟩
      rw [spelled_singleton_iff.mp last]
      simp only [List.append_assoc]
  · rintro ⟨g, gap, rfl⟩
    cases gap with
    | blanks between => exact ⟨_, .inl rfl, .more between .last⟩
    | of before behind =>
        refine ⟨_, .inr rfl, ?_⟩
        simpa only [List.append_assoc] using Spelled.more (w := w) before (.more behind .last)

/-- What is read as last month is the phrase of last month. -/
theorem reader_lastMonth
    : Reader lastMonth? (fun ws (_ : Unit) => ws = ["last", "month"]) (fun _ _ => ())
        LastMonthSaid := by
  refine ⟨fun words _ => ?_, fun said _ => ?_, ?_, ?_⟩
  · unfold lastMonth?
    split
    · next rest => exact iff_of_true rfl ⟨_, rest, (), rfl, rfl, rfl⟩
    · next other =>
        refine iff_of_false (by simp) ?_
        rintro ⟨_, rest, _, rfl, rfl, _⟩
        exact other rest rfl
  · constructor
    · rintro ⟨between⟩
      exact ⟨_, rfl, .more between .last⟩
    · rintro ⟨_, rfl, spelled⟩
      obtain ⟨b, rest, between, behind, rfl⟩ := spelled_cons_iff.mp spelled
      rw [spelled_singleton_iff.mp behind]
      exact ⟨between⟩
  · rintro _ _ rfl
    exact List.cons_ne_nil _ _
  · rintro _ _ rfl
    decide +kernel

theorem skipOf_eq_cons_iff {words rest : List String} {w : String} (other : w ≠ "of")
    : skipOf words = w :: rest ↔ words = w :: rest ∨ words = "of" :: w :: rest := by
  unfold skipOf
  split
  · next behind => simp [other.symm]
  · next unlike =>
      refine ⟨.inl, fun same => same.resolve_right ?_⟩
      rintro rfl
      exact unlike _ rfl

/-- The year ahead of some words is their first one or follows an `of`. -/
theorem yearAhead?_eq_some_iff {words : List String} {year : Nat}
    : yearAhead? words = some year
      ↔ ∃ y rest, (words = y :: rest ∨ words = "of" :: y :: rest) ∧ yearNumber? y = some year := by
  have other {y : String} (named : yearNumber? y = some year) : y ≠ "of" := by
    rintro rfl
    have unnamed : yearNumber? "of" = none := by decide
    exact absurd (unnamed.symm.trans named) (by simp)
  unfold yearAhead?
  constructor
  · intro read
    obtain ⟨y, first, named⟩ := Option.bind_eq_some_iff.mp read
    obtain ⟨rest, words⟩ := List.head?_eq_some_iff.mp first
    exact ⟨y, rest, (skipOf_eq_cons_iff (other named)).mp words, named⟩
  · rintro ⟨y, rest, words, named⟩
    rw [(skipOf_eq_cons_iff (other named)).mpr words]
    exact named

/-- A first week is two words and a month behind them, which may follow an `of`. -/
theorem firstWeek?_eq_some_iff {words : List String} {month : Nat} {year? : Option Nat}
    : firstWeek? words = some (month, year?)
      ↔ ∃ m rest, (words = "first" :: "week" :: m :: rest
            ∨ words = "first" :: "week" :: "of" :: m :: rest)
          ∧ monthNumber? m = some month ∧ yearAhead? rest = year? := by
  have other {m : String} (named : monthNumber? m = some month) : m ≠ "of" := by
    rintro rfl
    have unnamed : monthNumber? "of" = none := by decide
    exact absurd (unnamed.symm.trans named) (by simp)
  constructor
  · intro read
    unfold firstWeek? at read
    split at read
    · split at read
      · exact absurd read (by simp)
      · next m rest skipped =>
          obtain ⟨_, named, same⟩ := Option.map_eq_some_iff.mp read
          obtain ⟨rfl, ahead⟩ := Prod.mk.inj same
          rcases (skipOf_eq_cons_iff (other named)).mp skipped with rfl | rfl
          · exact ⟨m, rest, .inl rfl, named, ahead⟩
          · exact ⟨m, rest, .inr rfl, named, ahead⟩
    · exact absurd read (by simp)
  · rintro ⟨m, rest, shape, named, rfl⟩
    have read {behind : List String} (skipped : skipOf behind = m :: rest)
        : firstWeek? ("first" :: "week" :: behind) = some (month, yearAhead? rest) := by
      rw [firstWeek?, skipped]
      dsimp only
      rw [named]
      rfl
    rcases shape with rfl | rfl
    · exact read ((skipOf_eq_cons_iff (other named)).mpr (.inl rfl))
    · exact read ((skipOf_eq_cons_iff (other named)).mpr (.inr rfl))

theorem exists_toList_eq (s : List Char)
    : ∃ w : String, w.toList = s :=
  ⟨.ofList s, String.toList_ofList⟩

theorem isWordText_of_mem_fixed
    : ∀ w ∈ ["first", "week", "of"], IsWordText w.toList := by
  decide +kernel

/-- What is read as a first week is a phrase of one, with the year ahead of the words behind it. -/
theorem reader_firstWeek
    : Reader firstWeek?
        (fun ws month => ∃ m, monthNumber? m = some month
          ∧ (ws = ["first", "week", m] ∨ ws = ["first", "week", "of", m]))
        (fun month rest => (month, yearAhead? rest)) FirstWeekSaid := by
  refine ⟨fun words b => ?_, fun said month => ?_, ?_, ?_⟩
  · obtain ⟨month, year?⟩ := b
    rw [firstWeek?_eq_some_iff]
    constructor
    · rintro ⟨m, rest, rfl | rfl, named, rfl⟩
      · exact ⟨_, rest, month, rfl, ⟨m, named, .inl rfl⟩, rfl⟩
      · exact ⟨_, rest, month, rfl, ⟨m, named, .inr rfl⟩, rfl⟩
    · rintro ⟨_, rest, month', rfl, ⟨m, named, rfl | rfl⟩, same⟩
      · obtain ⟨rfl, rfl⟩ := Prod.mk.inj same
        exact ⟨m, rest, .inl rfl, named, rfl⟩
      · obtain ⟨rfl, rfl⟩ := Prod.mk.inj same
        exact ⟨m, rest, .inr rfl, named, rfl⟩
  · constructor
    · rintro @⟨b, g, m, _, between, gap, said⟩
      obtain ⟨m, rfl⟩ := exists_toList_eq m
      have named := monthNumber?_eq_some_iff.mpr said
      obtain ⟨_, rfl | rfl, behind⟩ := spelled_across_gap.mpr ⟨g, gap, rfl⟩
      · exact ⟨_, ⟨_, named, .inl rfl⟩, .more between behind⟩
      · exact ⟨_, ⟨_, named, .inr rfl⟩, .more between behind⟩
    · rintro ⟨_, ⟨m, named, rfl | rfl⟩, spelled⟩
      all_goals obtain ⟨b, rest, between, behind, rfl⟩ := spelled_cons_iff.mp spelled
      · obtain ⟨g, gap, rfl⟩ := spelled_across_gap.mp ⟨_, .inl rfl, behind⟩
        exact .intro between gap (monthNumber?_eq_some_iff.mp named)
      · obtain ⟨g, gap, rfl⟩ := spelled_across_gap.mp ⟨_, .inr rfl, behind⟩
        exact .intro between gap (monthNumber?_eq_some_iff.mp named)
  · rintro _ _ ⟨m, _, rfl | rfl⟩ <;> exact List.cons_ne_nil _ _
  · rintro ws _ ⟨m, named, shape⟩ w member
    have all : ∀ w ∈ m :: ["first", "week", "of"], IsWordText w.toList :=
      List.forall_mem_cons.mpr ⟨isWordText_of_monthNumber? named, isWordText_of_mem_fixed⟩
    refine all w ?_
    rcases shape with rfl | rfl <;> simp only [List.mem_cons] at member ⊢ <;> tauto

/-- A month and a year are a month's word and the year ahead of the words behind it. -/
theorem monthYear?_eq_some_iff {words : List String} {month year : Nat}
    : monthYear? words = some (month, year)
      ↔ ∃ m rest, words = m :: rest ∧ monthNumber? m = some month
          ∧ yearAhead? rest = some year := by
  cases words with
  | nil => simp [monthYear?]
  | cons m rest =>
      cases named : monthNumber? m <;> cases ahead : yearAhead? rest <;>
        simp [monthYear?, named, ahead]

/-- What is read as a month of a year is a phrase of one. -/
theorem reader_monthYear
    : Reader monthYear?
        (fun ws a => ∃ m y, monthNumber? m = some a.1 ∧ yearNumber? y = some a.2
          ∧ (ws = [m, y] ∨ ws = [m, "of", y]))
        (fun a _ => a) MonthYearSaid := by
  refine ⟨fun words b => ?_, fun said a => ?_, ?_, ?_⟩
  · obtain ⟨month, year⟩ := b
    rw [monthYear?_eq_some_iff]
    constructor
    · rintro ⟨m, rest, rfl, named, ahead⟩
      obtain ⟨y, more, rfl | rfl, written⟩ := yearAhead?_eq_some_iff.mp ahead
      · exact ⟨[m, y], more, (month, year), rfl, ⟨m, y, named, written, .inl rfl⟩, rfl⟩
      · exact ⟨[m, "of", y], more, (month, year), rfl, ⟨m, y, named, written, .inr rfl⟩, rfl⟩
    · rintro ⟨_, more, _, rfl, ⟨m, y, named, written, rfl | rfl⟩, rfl⟩
      · exact ⟨m, _, rfl, named, yearAhead?_eq_some_iff.mpr ⟨y, more, .inl rfl, written⟩⟩
      · exact ⟨m, _, rfl, named, yearAhead?_eq_some_iff.mpr ⟨y, more, .inr rfl, written⟩⟩
  · constructor
    · rintro @⟨m, g, y, month, year, named, gap, written⟩
      obtain ⟨m, rfl⟩ := exists_toList_eq m
      obtain ⟨y, rfl⟩ := exists_toList_eq y
      obtain ⟨ws, shape, spelled⟩ := spelled_across_gap.mpr ⟨g, gap, rfl⟩
      exact ⟨ws, ⟨m, y, monthNumber?_eq_some_iff.mpr named, yearNumber?_eq_some_iff.mpr written,
        shape⟩, spelled⟩
    · rintro ⟨ws, ⟨m, y, named, written, shape⟩, spelled⟩
      obtain ⟨g, gap, rfl⟩ := spelled_across_gap.mp ⟨ws, shape, spelled⟩
      exact .intro (monthNumber?_eq_some_iff.mp named) gap (yearNumber?_eq_some_iff.mp written)
  · rintro _ _ ⟨m, y, _, _, rfl | rfl⟩ <;> exact List.cons_ne_nil _ _
  · rintro ws _ ⟨m, y, named, written, shape⟩ w member
    have all : ∀ w ∈ m :: y :: ["first", "week", "of"], IsWordText w.toList :=
      List.forall_mem_cons.mpr ⟨isWordText_of_monthNumber? named,
        List.forall_mem_cons.mpr ⟨isWordText_of_yearNumber? written, isWordText_of_mem_fixed⟩⟩
    refine all w ?_
    rcases shape with rfl | rfl <;> simp only [List.mem_cons] at member ⊢ <;> tauto

/-- Reads a year that is the first word. -/
def firstWordYear? (words : List String) : Option Nat :=
  words.head?.bind yearNumber?

/-- What is read as a year is one that is written. -/
theorem reader_year
    : Reader firstWordYear? (fun ws year => ∃ y, yearNumber? y = some year ∧ ws = [y])
        (fun a _ => a) YearSaid := by
  refine ⟨fun words year => ?_, fun said year => ?_, ?_, ?_⟩
  · constructor
    · intro read
      obtain ⟨y, first, named⟩ := Option.bind_eq_some_iff.mp read
      obtain ⟨rest, rfl⟩ := List.head?_eq_some_iff.mp first
      exact ⟨[y], rest, year, rfl, ⟨y, named, rfl⟩, rfl⟩
    · rintro ⟨_, rest, _, rfl, ⟨y, named, rfl⟩, rfl⟩
      exact named
  · constructor
    · intro written
      obtain ⟨y, rfl⟩ := exists_toList_eq said
      exact ⟨[y], ⟨y, yearNumber?_eq_some_iff.mpr written, rfl⟩, .last⟩
    · rintro ⟨_, ⟨y, named, rfl⟩, spelled⟩
      rw [spelled_singleton_iff.mp spelled]
      exact yearNumber?_eq_some_iff.mp named
  · rintro _ _ ⟨y, _, rfl⟩
    exact List.cons_ne_nil _ _
  · rintro _ _ ⟨y, named, rfl⟩
    simpa using isWordText_of_yearNumber? named

-----------------------------------------------------------------------------------------
-- Years
-----------------------------------------------------------------------------------------

/-- The first year among the words of a text is the leftmost one. -/
theorem firstYear?_worded (s : List Char)
    : firstYear? (worded s) = (worded s).findSome? (atFirst? firstWordYear?) := by
  have phrase (words : List String)
      : atFirst? firstWordYear? words = words.findSome? yearNumber? := by
    induction words with
    | nil => rfl
    | cons w rest ih =>
        rw [atFirst?, ih, List.findSome?_cons, firstWordYear?, List.head?_cons, Option.bind_some]
        cases yearNumber? w <;> rfl
  unfold firstYear?
  induction worded s with
  | nil => rfl
  | cons words rest ih =>
      rw [List.flatten_cons, List.findSome?_append, List.findSome?_cons, ih, phrase]
      cases words.findSome? yearNumber? <;> rfl

/-- The year ahead of the words behind a phrase is the one written right behind the phrase. -/
theorem yearAhead?_opening_eq_some_iff {behind : List Char} (stops : wordAhead behind = false)
    {year : Nat}
    : yearAhead? (opening behind) = some year ↔ YearBehind behind year := by
  have of : IsWordText "of".toList := isWordText_of_mem_fixed "of" (by simp)
  rw [yearAhead?_eq_some_iff]
  constructor
  · rintro ⟨y, more, opens, named⟩
    have word := isWordText_of_yearNumber? named
    have said := yearNumber?_eq_some_iff.mp named
    have closes (g : List Char) {rest : List Char} (ends : wordAhead rest = false)
        : Boundary (g ++ y.toList) rest := by
      rw [Boundary, wordBehind_append word.framed.2, ends]
      exact Bool.false_ne_true.symm
    have wordy : opening behind ≠ [] := by
      rcases opens with opens | opens <;> simp [opens]
    obtain ⟨b, t, rfl, between, ahead, same⟩ := exists_blanks_of_opening stops wordy
    rw [← same] at opens
    rcases opens with opens | opens
    · obtain ⟨_, rest, rfl, spelled, ends, _⟩ :=
        (opening_eq_append_iff (List.cons_ne_nil y []) (by simpa using word) ahead).mp opens
      rw [spelled_singleton_iff.mp spelled, ← List.append_assoc]
      exact ⟨b, _, rest, rfl, .blanks between, said, closes b ends⟩
    · obtain ⟨_, rest, rfl, spelled, ends, _⟩ :=
        (opening_eq_append_iff (List.cons_ne_nil "of" [y])
          (List.forall_mem_cons.mpr ⟨of, by simpa using word⟩) ahead).mp opens
      obtain ⟨b', _, between', last, rfl⟩ := spelled_cons_iff.mp spelled
      rw [spelled_singleton_iff.mp last]
      exact ⟨b ++ "of".toList ++ b', _, rest, by simp only [List.append_assoc],
        .of between between', said, closes _ ends⟩
  · rintro ⟨g, y, rest, rfl, gap, said, closes⟩
    obtain ⟨y, rfl⟩ := exists_toList_eq y
    have named := yearNumber?_eq_some_iff.mpr said
    have word := isWordText_of_yearNumber? named
    have ends : wordAhead rest = false := by
      rw [Boundary, wordBehind_append word.framed.2] at closes
      exact eq_false_of_ne_true closes.symm
    cases gap with
    | blanks between =>
        refine ⟨y, opening rest, .inl ?_, named⟩
        rw [List.append_assoc, opening_append_of_blanks between.whole]
        exact Spelled.last.opening_append (by simpa using word) ends
    | of before between =>
        refine ⟨y, opening rest, .inr ?_, named⟩
        rw [List.append_assoc, List.append_assoc, List.append_assoc,
          opening_append_of_blanks before.whole, ← List.append_assoc, ← List.append_assoc]
        exact (Spelled.more between .last).opening_append
          (List.forall_mem_cons.mpr ⟨of, by simpa using word⟩) ends

/-- The year that is taken for a first week, from the phrase, from anywhere or from the
reference. -/
theorem weekYear_iff {s behind : List Char} (stops : wordAhead behind = false)
    {referenceYear year : Int}
    : (yearAhead? (opening behind) <|> firstYear? (worded s)).elim referenceYear Int.ofNat = year
      ↔ WeekYear s behind referenceYear year := by
  cases ahead : yearAhead? (opening behind) with
  | some written =>
      have here := (yearAhead?_opening_eq_some_iff stops).mp ahead
      constructor
      · rintro rfl
        exact .behind here
      · rintro (there | ⟨unwritten, _⟩ | ⟨unwritten, _⟩)
        · have same := (yearAhead?_opening_eq_some_iff stops).mpr there
          exact congrArg Int.ofNat (Option.some.inj (ahead.symm.trans same))
        · exact absurd here (unwritten written)
        · exact absurd here (unwritten written)
  | none =>
      have unwritten (y : Nat) : ¬YearBehind behind y := by
        intro there
        have found := (yearAhead?_opening_eq_some_iff stops).mpr there
        exact absurd (ahead.symm.trans found) (by simp)
      change (firstYear? (worded s)).elim referenceYear Int.ofNat = year ↔ _
      rw [firstYear?_worded]
      cases first : (worded s).findSome? (atFirst? firstWordYear?) with
      | some written =>
          obtain ⟨before, said, rest, _, leftmost, rfl⟩ :=
            reader_year.findSome?_eq_some_iff.mp first
          constructor
          · rintro rfl
            exact .anywhere unwritten leftmost
          · rintro (there | ⟨_, other⟩ | ⟨_, yearless⟩)
            · exact absurd there (unwritten _)
            · have same := reader_year.findSome?_eq_some_iff.mpr ⟨_, _, _, _, other, rfl⟩
              exact congrArg Int.ofNat (Option.some.inj (first.symm.trans same))
            · exact absurd leftmost.occurs (yearless _ _ _ _)
      | none =>
          have yearless := reader_year.findSome?_eq_none_iff.mp first
          constructor
          · rintro rfl
            exact .reference unwritten yearless
          · rintro (there | ⟨_, other⟩ | _)
            · exact absurd there (unwritten _)
            · exact absurd other.occurs (yearless _ _ _ _)
            · rfl

end RideQuestions.Question
