import RideQuestions.Sql.Grouping

/-! Grouping by pairs of marks or words that open and close: brackets of both kinds, cases,
conditions, loops and blocks, one kind after another. What comes between the two goes into the group
with them, unless only one of them is there. The groups of every other kind are left out, so that
fewer texts are refused than might be.
-/

namespace RideQuestions.Sql

namespace Pairing

/-- A token that is no white space. -/
abbrev Solid := { t : Token // t.isWhite = false }

/-- Tokens put together. -/
inductive Tree where
  | leaf (t : Token)
  /-- What opens a group, and the other parts of it. -/
  | group (opening : Solid) (parts : List Tree)

/-- What opens a group and what closes it. -/
structure Pair where
  kind : TokenKind
  opening : String
  closing : String
  solid : kind ≠ .blank ∧ kind ≠ .lineEnd

def Pair.opens (p : Pair) (t : Token) : Bool :=
  t.kind = p.kind && t.upper = p.opening

def Pair.closes (p : Pair) (t : Token) : Bool :=
  t.kind = p.kind && t.upper = p.closing

theorem Pair.solid_of_opens {p : Pair} {t : Token} (h : p.opens t = true)
    : t.isWhite = false := by
  rw [opens, Bool.and_eq_true, decide_eq_true_eq] at h
  simp [Token.isWhite, h.1, p.solid]

/-- A pair of marks. -/
def Pair.marks (opening closing : String) : Pair :=
  ⟨.punctuation, opening, closing, by decide⟩

/-- A pair of keywords. -/
def Pair.words (opening closing : String) : Pair :=
  ⟨.keyword .other, opening, closing, by decide⟩

/-- A group that is open: what stands before it, reversed, and what has opened it. -/
structure Frame where
  before : List Tree
  opening : Solid

/-- How far some trees have been gone through. -/
structure Pending where
  /-- The open groups, the one that opened last first. -/
  frames : List Frame := []
  /-- What has come since then, reversed. -/
  current : List Tree := []

namespace Pending

def add (s : Pending) (tree : Tree) : Pending :=
  { s with current := tree :: s.current }

/-- Takes a token that may open or close a group. What closes without anything open stands for
itself. -/
def take (p : Pair) (s : Pending) (t : Token) : Pending :=
  if h : p.opens t = true then
    { frames := ⟨s.current, t, p.solid_of_opens h⟩ :: s.frames }
  else if p.closes t then
    match s.frames with
    | [] => s.add (.leaf t)
    | frame :: frames =>
        let parts := (.leaf t :: s.current).reverse
        { frames, current := .group frame.opening parts :: frame.before }
  else s.add (.leaf t)

/-- What was opened and not closed stays as it is; all of it reversed. -/
def unclosed (current : List Tree) : List Frame → List Tree
  | [] => current
  | frame :: rest => unclosed (current ++ .leaf frame.opening.val :: frame.before) rest

def trees (s : Pending) : List Tree :=
  (unclosed s.current s.frames).reverse

end Pending

mutual

/-- Puts together what a pair opens and closes inside a tree. -/
def Tree.paired (p : Pair) : Tree → Tree
  | .leaf t => .leaf t
  | .group opening parts => .group opening (pairedIn p {} parts)

/-- Puts together what a pair opens and closes in some trees, behind those gone through. -/
def pairedIn (p : Pair) (s : Pending) : List Tree → List Tree
  | [] => s.trees
  | .leaf t :: rest => pairedIn p (s.take p t) rest
  | .group opening parts :: rest => pairedIn p (s.add ((Tree.group opening parts).paired p)) rest

end

mutual

/-- The looks at the groups of a tree that has so many groups around it. -/
def Tree.looks (depth : Nat) : Tree → List Look
  | .leaf _ => []
  | .group _ parts => .group depth (parts.length + 1) :: looksIn (depth + 1) parts

def looksIn (depth : Nat) : List Tree → List Look
  | [] => []
  | tree :: rest => tree.looks depth ++ looksIn depth rest

end

/-- The pairs in the order in which they are looked for. -/
def allPairs : List Pair :=
  [
    .marks "[" "]", .marks "(" ")", .words "CASE" "END", .words "IF" "END IF",
    .words "FOR" "END LOOP", .words "BEGIN" "END"
  ]

/-- Looks at everything before each pair is looked for, and at last. -/
def looksFor : List Pair → List Tree → List Look
  | [], trees => .group 0 trees.length :: looksIn 1 trees
  | p :: rest, trees =>
      (.group 0 trees.length :: looksIn 1 trees) ++ looksFor rest (pairedIn p {} trees)

/-! ### What the pairs leave as it is -/

mutual

/-- What the tokens of a tree amount to. -/
def Tree.total (amount : Token → Nat) : Tree → Nat
  | .leaf t => amount t
  | .group opening parts => amount opening + totalOf amount parts

def totalOf (amount : Token → Nat) : List Tree → Nat
  | [] => 0
  | tree :: rest => tree.total amount + totalOf amount rest

end

/-- What the tokens of open groups amount to. -/
def totalOfFrames (amount : Token → Nat) : List Frame → Nat
  | [] => 0
  | frame :: rest =>
      amount frame.opening + totalOf amount frame.before + totalOfFrames amount rest

section Total

variable {amount : Token → Nat}

theorem totalOf_append (first second : List Tree)
    : totalOf amount (first ++ second) = totalOf amount first + totalOf amount second := by
  induction first with
  | nil => simp [totalOf]
  | cons tree rest ih => rw [List.cons_append, totalOf, totalOf, ih, Nat.add_assoc]

theorem totalOf_reverse (trees : List Tree)
    : totalOf amount trees.reverse = totalOf amount trees := by
  induction trees with
  | nil => rfl
  | cons tree rest ih =>
      rw [List.reverse_cons, totalOf_append, ih, totalOf, totalOf, totalOf]
      omega

/-- What the tokens gone through amount to. -/
def Pending.total (amount : Token → Nat) (s : Pending) : Nat :=
  totalOf amount s.current + totalOfFrames amount s.frames

namespace Pending

theorem total_add (s : Pending) (tree : Tree)
    : (s.add tree).total amount = s.total amount + tree.total amount := by
  simp only [add, total, totalOf]
  omega

theorem total_take (p : Pair) (s : Pending) (t : Token)
    : (s.take p t).total amount = s.total amount + amount t := by
  unfold take
  split
  · simp only [total, totalOfFrames, totalOf]
    omega
  · split
    · split
      · exact total_add s (.leaf t)
      · next frame frames opened =>
          simp only [total, opened, totalOfFrames, totalOf, Tree.total, totalOf_reverse]
          omega
    · exact total_add s (.leaf t)

theorem totalOf_unclosed (current : List Tree) (frames : List Frame)
    : totalOf amount (unclosed current frames) = total amount ⟨frames, current⟩ := by
  induction frames generalizing current with
  | nil => simp [unclosed, total, totalOfFrames]
  | cons frame rest ih =>
      rw [unclosed, ih]
      simp only [total, totalOf_append, totalOf, Tree.total, totalOfFrames]
      omega

theorem totalOf_trees (s : Pending)
    : totalOf amount s.trees = s.total amount := by
  rw [trees, totalOf_reverse, totalOf_unclosed]

end Pending

mutual

/-- Looking for a pair loses no token, by recursion on the tree. -/
theorem Tree.total_paired (p : Pair)
    : ∀ tree : Tree, (tree.paired p).total amount = tree.total amount
  | .leaf t => by rw [Tree.paired]
  | .group opening parts => by
      rw [Tree.paired, Tree.total, Tree.total, totalOf_pairedIn p {} parts]
      simp [Pending.total, totalOfFrames, totalOf]

theorem totalOf_pairedIn (p : Pair) (s : Pending)
    : ∀ trees : List Tree,
        totalOf amount (pairedIn p s trees) = s.total amount + totalOf amount trees
  | [] => by rw [pairedIn, s.totalOf_trees, totalOf, Nat.add_zero]
  | .leaf t :: rest => by
      rw [pairedIn, totalOf_pairedIn p (s.take p t) rest, s.total_take, totalOf, Tree.total,
        Nat.add_assoc]
  | .group opening parts :: rest => by
      rw [pairedIn, totalOf_pairedIn p _ rest, s.total_add,
        Tree.total_paired p (.group opening parts), totalOf, Nat.add_assoc]

end

end Total

/-- One for every token that is no white space. -/
def solidAmount (t : Token) : Nat :=
  if t.isWhite then 0 else 1

theorem solidAmount_solid (t : Solid)
    : solidAmount t = 1 := by
  simp [solidAmount, t.property]

theorem length_le_totalOf (trees : List Tree)
    : trees.length ≤ totalOf (fun _ => 1) trees := by
  induction trees with
  | nil => exact Nat.zero_le _
  | cons tree rest ih =>
      have one : 1 ≤ tree.total fun _ => 1 := by cases tree <;> simp [Tree.total]
      rw [List.length_cons, totalOf]
      omega

variable {depth within parts : Nat}

mutual

/-- A group lies no deeper than there are tokens in its tree, over the groups around that, and has
no more parts than there are tokens. By recursion on the tree. -/
theorem Tree.bounds_of_looks
    : ∀ {tree : Tree} {within : Nat}, .group depth parts ∈ tree.looks within →
      depth < within + tree.total solidAmount ∧ parts ≤ tree.total fun _ => 1
  | .leaf _, _, member => absurd member (by simp [Tree.looks])
  | .group opening inner, within, member => by
      rw [Tree.looks, List.mem_cons] at member
      rw [Tree.total, Tree.total, solidAmount_solid]
      rcases member with same | member
      · obtain ⟨rfl, rfl⟩ := Look.group.inj same
        have short := length_le_totalOf inner
        omega
      · have bounds := bounds_of_looksIn member
        omega

theorem bounds_of_looksIn
    : ∀ {trees : List Tree} {within : Nat}, .group depth parts ∈ looksIn within trees →
      depth < within + totalOf solidAmount trees ∧ parts ≤ totalOf (fun _ => 1) trees
  | [], _, member => absurd member (by simp [looksIn])
  | tree :: rest, within, member => by
      rw [looksIn, List.mem_append] at member
      rw [totalOf, totalOf]
      rcases member with member | member
      · have bounds := Tree.bounds_of_looks member
        omega
      · have bounds := bounds_of_looksIn member
        omega

end

/-- The looks for some pairs find groups within these bounds, by induction on the pairs. -/
theorem bounds_of_looksFor {pairs : List Pair} {trees : List Tree}
    (member : .group depth parts ∈ looksFor pairs trees)
    : depth ≤ totalOf solidAmount trees ∧ parts ≤ totalOf (fun _ => 1) trees := by
  have once {trees : List Tree}
      (member : .group depth parts ∈ .group 0 trees.length :: looksIn 1 trees)
      : depth ≤ totalOf solidAmount trees ∧ parts ≤ totalOf (fun _ => 1) trees := by
    rcases List.mem_cons.mp member with same | member
    · obtain ⟨rfl, rfl⟩ := Look.group.inj same
      exact ⟨Nat.zero_le _, length_le_totalOf trees⟩
    · have bounds := bounds_of_looksIn member
      omega
  induction pairs generalizing trees with
  | nil => exact once member
  | cons p rest ih =>
      rw [looksFor, List.mem_append] at member
      rcases member with member | member
      · exact once member
      · have bounds := ih member
        simpa [totalOf_pairedIn, Pending.total, totalOfFrames, totalOf] using bounds

mutual

theorem Tree.beyond_not_mem_looks
    : ∀ (tree : Tree) (depth : Nat), .beyond ∉ tree.looks depth
  | .leaf _, _ => by simp [Tree.looks]
  | .group _ parts, depth => by simp [Tree.looks, beyond_not_mem_looksIn parts]

theorem beyond_not_mem_looksIn
    : ∀ (trees : List Tree) (depth : Nat), .beyond ∉ looksIn depth trees
  | [], _ => by simp [looksIn]
  | tree :: rest, depth => by
      simp [looksIn, Tree.beyond_not_mem_looks tree, beyond_not_mem_looksIn rest]

end

theorem beyond_not_mem_looksFor (pairs : List Pair) (trees : List Tree)
    : .beyond ∉ looksFor pairs trees := by
  induction pairs generalizing trees with
  | nil => simp [looksFor, beyond_not_mem_looksIn]
  | cons p rest ih => simp [looksFor, beyond_not_mem_looksIn, ih]

theorem totalOf_leaves_solid (s : Statement)
    : totalOf solidAmount (s.map .leaf) = s.weight := by
  induction s with
  | nil => rfl
  | cons t rest ih =>
      rw [List.map_cons, totalOf, Tree.total, ih, Statement.weight, Statement.weight,
        List.countP_cons, solidAmount]
      cases t.isWhite <;> simp [Nat.add_comm]

theorem totalOf_leaves_one (s : Statement)
    : totalOf (fun _ => 1) (s.map .leaf) = s.length := by
  induction s with
  | nil => rfl
  | cons t rest ih =>
      rw [List.map_cons, totalOf, Tree.total, ih, List.length_cons, Nat.add_comm]

end Pairing

open Pairing

/-- The grouping that only knows marks and words that open and close. -/
def Grouping.pairs : Grouping where
  looks s := looksFor allPairs (s.map .leaf)
  whole s _ := by simp [allPairs, looksFor]
  depth_le s depth parts member := by
    have few := (bounds_of_looksFor member).1
    rwa [totalOf_leaves_solid] at few
  parts_le s depth parts member := by
    have short := (bounds_of_looksFor member).2
    rwa [totalOf_leaves_one] at short
  beyond_deep s member := absurd member (beyond_not_mem_looksFor _ _)

end RideQuestions.Sql
