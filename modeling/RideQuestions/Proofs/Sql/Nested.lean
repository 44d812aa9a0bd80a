import RideQuestions.Proofs.Sql.Spaced

/-! Brackets inside one another. Put together, as many as open and then close make as many groups,
each inside the one before, and past the limit of depth the statement is refused.
-/

namespace RideQuestions.Sql

open RideQuestions.Text Pairing

-----------------------------------------------------------------------------------------
-- Groups inside one another
-----------------------------------------------------------------------------------------

/-- The brackets that open and close a group. -/
abbrev roundBrackets : Pair :=
  .marks "(" ")"

/-- So many brackets that open, and as many that close. -/
def brackets (depth : Nat) : List Token :=
  List.replicate depth ⟨.punctuation, "("⟩ ++ List.replicate depth ⟨.punctuation, ")"⟩

/-- So many groups, each inside the one before. -/
def tower : Nat → List Tree
  | 0 => []
  | depth + 1 =>
      [.group ⟨⟨.punctuation, "("⟩, by decide⟩ (.leaf ⟨.punctuation, ")"⟩ :: tower depth).reverse]

theorem brackets_succ (depth : Nat)
    : brackets (depth + 1) = ⟨.punctuation, "("⟩ :: (brackets depth ++ [⟨.punctuation, ")"⟩]) := by
  rw [brackets, List.replicate_succ, List.replicate_succ', brackets, List.cons_append,
    List.append_assoc]

/-- Tokens that neither open nor close a group stay as they are, by induction. -/
theorem pairedIn_leaves {p : Pair} {passed : List Token}
    (apart : ∀ t ∈ passed, p.opens t = false ∧ p.closes t = false) (frames : List Frame)
    (current rest : List Tree)
    : pairedIn p ⟨frames, current⟩ (passed.map .leaf ++ rest)
      = pairedIn p ⟨frames, (passed.map .leaf).reverse ++ current⟩ rest := by
  induction passed generalizing current with
  | nil => rfl
  | cons t passed ih =>
      obtain ⟨⟨opens, closes⟩, others⟩ := List.forall_mem_cons.mp apart
      rw [List.map_cons, List.cons_append, pairedIn, Pending.take, dif_neg (by simp [opens]),
        if_neg (by simp [closes]), Pending.add, ih others]
      simp

/-- Brackets become a tower behind what stands before them, by induction on their number: the
innermost pair closes first. -/
theorem pairedIn_brackets (depth : Nat) (frames : List Frame) (current rest : List Tree)
    : pairedIn roundBrackets ⟨frames, current⟩ ((brackets depth).map .leaf ++ rest)
      = pairedIn roundBrackets ⟨frames, tower depth ++ current⟩ rest := by
  have opening : roundBrackets.opens ⟨.punctuation, "("⟩ = true := by decide
  have closing : roundBrackets.opens ⟨.punctuation, ")"⟩ = false
      ∧ roundBrackets.closes ⟨.punctuation, ")"⟩ = true := by decide
  induction depth generalizing frames current rest with
  | zero => rfl
  | succ depth ih =>
      rw [brackets_succ, List.map_cons, List.cons_append, pairedIn, Pending.take, dif_pos opening,
        List.map_append, List.append_assoc, ih, List.map_singleton, List.singleton_append, pairedIn,
        Pending.take, dif_neg (by simp [closing.1]), if_pos closing.2]
      simp [tower]

theorem mem_looksIn {look : Look} {depth : Nat} {trees : List Tree}
    : look ∈ looksIn depth trees ↔ ∃ tree ∈ trees, look ∈ tree.looks depth := by
  induction trees with
  | nil => simp [looksIn]
  | cons tree rest ih => simp [looksIn, ih]

/-- The innermost group of a tower lies as deep as there are others around it. -/
theorem looks_tower (depth within : Nat)
    : .group (within + depth) 2 ∈ looksIn within (tower (depth + 1)) := by
  induction depth generalizing within with
  | zero => simp [tower, looksIn, Tree.looks]
  | succ depth ih =>
      obtain ⟨tree, member, deep⟩ := mem_looksIn.mp (ih (within + 1))
      have inside : .group (within + 1 + depth) 2
          ∈ looksIn (within + 1) (.leaf ⟨.punctuation, ")"⟩ :: tower (depth + 1)).reverse :=
        mem_looksIn.mpr ⟨tree, by simp [member], deep⟩
      rw [tower, looksIn, Tree.looks, show within + (depth + 1) = within + 1 + depth by omega]
      exact List.mem_append_left _ (List.mem_cons_of_mem _ inside)

theorem looksIn_subset_looksFor (pairs : List Pair) (trees : List Tree)
    : looksIn 1 trees ⊆ looksFor pairs trees := by
  intro look member
  cases pairs <;> simp [looksFor, member]

/-- A token that is no bracket of either kind. -/
def Token.NoBracket (t : Token) : Prop :=
  ∀ p ∈ [Pair.marks "[" "]", roundBrackets], p.opens t = false ∧ p.closes t = false

theorem Token.noBracket_of_isWhite {t : Token} (white : t.isWhite = true)
    : t.NoBracket := by
  rw [isWhite, Bool.or_eq_true, decide_eq_true_eq, decide_eq_true_eq] at white
  rcases white with kind | kind <;> simp [NoBracket, Pair.opens, Pair.closes, Pair.marks, kind]

/-- Behind tokens that are no brackets, brackets past the limit of depth are refused. -/
theorem refusal?_brackets {passed : List Token} {depth : Nat} (deep : depthLimit < depth)
    (apart : ∀ t ∈ passed, t.NoBracket)
    : (Grouping.pairs.refusal? (passed ++ brackets depth)).isSome = true := by
  have square : ∀ t ∈ passed ++ brackets depth,
      (Pair.marks "[" "]").opens t = false ∧ (Pair.marks "[" "]").closes t = false := by
    refine List.forall_mem_append.mpr ⟨fun t member => apart t member _ (by simp), ?_⟩
    refine List.forall_mem_append.mpr ⟨?_, ?_⟩
    all_goals
      intro t member
      rw [List.eq_of_mem_replicate member]
      decide
  have round : ∀ t ∈ passed, roundBrackets.opens t = false ∧ roundBrackets.closes t = false :=
    fun t member => apart t member _ (by simp)
  have first : pairedIn (.marks "[" "]") {} ((passed ++ brackets depth).map .leaf)
      = (passed ++ brackets depth).map .leaf := by
    have same := pairedIn_leaves square [] [] []
    rw [List.append_nil] at same
    rw [same]
    simp [pairedIn, Pending.trees, Pending.unclosed]
  have second : pairedIn roundBrackets {} ((passed ++ brackets depth).map .leaf)
      = (tower depth ++ (passed.map Tree.leaf).reverse).reverse := by
    have before := pairedIn_leaves round [] [] ((brackets depth).map .leaf)
    have within := pairedIn_brackets depth [] (passed.map Tree.leaf).reverse []
    rw [List.append_nil] at before within
    rw [List.map_append, before, within]
    rfl
  obtain ⟨n, rfl⟩ := Nat.exists_eq_add_one.mpr (Nat.zero_lt_of_lt deep)
  obtain ⟨tree, member, found⟩ := mem_looksIn.mp (looks_tower n 1)
  have look : .group (1 + n) 2 ∈ Grouping.pairs.looks (passed ++ brackets (n + 1)) := by
    change _ ∈ looksFor allPairs _
    rw [allPairs, looksFor, looksFor, first, second]
    refine List.mem_append_right _ (List.mem_append_right _ (looksIn_subset_looksFor _ _ ?_))
    exact mem_looksIn.mpr ⟨tree, by simp [member], found⟩
  rw [Grouping.refusal?, List.findSome?_isSome_iff]
  exact ⟨_, look, by rw [Look.refusal?, if_pos (by omega)]; rfl⟩

-----------------------------------------------------------------------------------------
-- Calls with brackets inside one another
-----------------------------------------------------------------------------------------

/-- A call without arguments, with parentheses inside one another. -/
def nested (depth : Nat) : String :=
  String.ofList ('f' :: (List.replicate depth '(' ++ List.replicate depth ')'))

theorem tokensFrom_replicate (mark : Char) (known : mark ∈ [',', ';', '(', ')']) (depth : Nat)
    (rest : List Char) (before : Option Char)
    : ∃ behind, tokensFrom 0 before (List.replicate depth mark ++ rest)
        = List.replicate depth ⟨.punctuation, String.singleton mark⟩
          ++ tokensFrom 0 behind rest := by
  induction depth generalizing before with
  | zero => exact ⟨before, rfl⟩
  | succ depth ih =>
      obtain ⟨behind, same⟩ := ih (some mark)
      refine ⟨behind, ?_⟩
      rw [List.replicate_succ, List.replicate_succ, List.cons_append, tokensFrom_mark known, same,
        List.cons_append]

/-- The tokens of such a call. -/
theorem tokens_nested (depth : Nat)
    : ∃ passed : List Token, (∀ t ∈ passed, t.Flat ∧ t.NoBracket)
        ∧ tokens (nested depth) = passed ++ brackets depth := by
  have marks : ∀ c ∈ (List.replicate depth '(' ++ List.replicate depth ')').head?,
      wordChar c = false ∧ isBlank c = false := by
    intro c first
    rcases List.mem_append.mp (List.mem_of_mem_head? first) with member | member
    · rw [List.eq_of_mem_replicate member]
      decide
    · rw [List.eq_of_mem_replicate member]
      decide
  have called : Single (fun t => t.Flat ∧ t.NoBracket)
      (['f'] ++ (List.replicate depth '(' ++ List.replicate depth ')'))
      (List.replicate depth '(' ++ List.replicate depth ')') := by
    refine single_name (by decide) (fun c first => (marks c first).1) (by decide) ?alone
      fun kind _ => ⟨flat_name (by decide) (by decide) kind, ?name⟩
    case name =>
      have upper : plainUpper (String.ofList ['f']) = "F" := by decide
      simp [Token.NoBracket, Pair.opens, Pair.closes, Pair.marks, Token.upper, upper]
    case alone =>
      intro words known
      rw [Option.eq_none_iff_forall_ne_some]
      intro n matched
      obtain ⟨_, blanks, _⟩ := longPhrase_name known (by decide)
        (fun c first => isWord_of_wordChar (marks c first).1) matched
      rw [takeWhile_eq_of_split (List.nil_append _).symm (by simp) fun c first => (marks c first).2]
        at blanks
      exact absurd blanks (by decide)
  obtain ⟨passed, behind, _, flat, cut⟩ := called.through none (by simp)
  obtain ⟨inside, opening⟩ := tokensFrom_replicate '(' (by decide) depth
    (List.replicate depth ')') behind
  obtain ⟨_, closing⟩ := tokensFrom_replicate ')' (by decide) depth [] inside
  refine ⟨passed, flat, ?_⟩
  rw [List.append_nil] at closing
  rw [tokens, nested, String.toList_ofList]
  refine cut.trans ?_
  rw [opening, closing, tokensFrom, List.append_nil]
  rfl

/-- Such a call is one statement. -/
theorem statements_nested {depth : Nat} (some_depth : depth ≠ 0)
    : ∃ passed : List Token, (∀ t ∈ passed, t.NoBracket)
        ∧ statements (tokens (trim (nested depth))) = [passed ++ brackets depth] := by
  obtain ⟨passed, flat, cut⟩ := tokens_nested depth
  have solid : ∀ c ∈ (nested depth).toList, isBlank c = false := by
    rw [nested, String.toList_ofList]
    refine List.forall_mem_cons.mpr ⟨by decide, List.forall_mem_append.mpr ⟨?_, ?_⟩⟩
    all_goals
      intro c member
      rw [List.eq_of_mem_replicate member]
      decide
  have trimmed : trim (nested depth) = nested depth :=
    trim_eq_self (fun c first => solid c (List.mem_of_mem_head? first))
      fun c last => solid c (List.mem_of_getLast? last)
  have inner : ∀ t ∈ passed ++ brackets depth, t.Inner := by
    refine List.forall_mem_append.mpr ⟨fun t member => (flat t member).1.inner, ?_⟩
    refine List.forall_mem_append.mpr ⟨?_, ?_⟩
    all_goals
      intro t member
      rw [List.eq_of_mem_replicate member]
      exact ⟨by decide, by decide⟩
  refine ⟨passed, fun t member => (flat t member).2, ?_⟩
  rw [trimmed, cut]
  exact splitFrom_inner rfl inner ⟨⟨.punctuation, "("⟩, by simp [brackets, some_depth], rfl⟩

end RideQuestions.Sql
