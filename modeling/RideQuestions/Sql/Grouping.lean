import RideQuestions.Sql.Statement

/-! Grouping the tokens of a statement. Tokens that belong together are put into groups and groups
into larger ones, and all of them are looked at on the way, each with the parts it has by then. A
statement is refused when groups lie too deep inside one another or have too many parts. Which
tokens belong together is left open but for what holds of every grouping.
-/

namespace RideQuestions.Sql

/-- How deep groups may lie inside one another. -/
def depthLimit : Nat := 100

/-- How many parts a group may have. -/
def partLimit : Nat := 10000

/-- Why a statement is not grouped. -/
inductive GroupingError where
  | tooDeep
  | tooMany
  /-- The groups lie too deep for the calls that may be under way at once. -/
  | exhausted
  deriving DecidableEq

def GroupingError.message : GroupingError → String
  | tooDeep => s!"Maximum grouping depth exceeded ({depthLimit})."
  | tooMany => s!"Maximum number of tokens exceeded ({partLimit})."
  | exhausted => "Maximum recursion depth exceeded"

/-- A look at a group. -/
inductive Look where
  /-- The group has so many others around it, and so many parts. -/
  | group (depth parts : Nat)
  /-- No call is left for the look. -/
  | beyond
  deriving DecidableEq

/-- The depth of a group is looked at before its parts are counted. -/
def Look.refusal? : Look → Option GroupingError
  | group depth parts =>
      if depthLimit < depth then some .tooDeep
      else if partLimit < parts then some .tooMany
      else none
  | beyond => some .exhausted

/-- How many tokens of a statement are no white space. -/
def Statement.weight (s : Statement) : Nat :=
  s.countP fun t => !t.isWhite

/-- A way to group statements. -/
structure Grouping where
  /-- The looks at the groups of a statement, from the first to the last. -/
  looks : Statement → List Look
  /-- Where there are no comments, nothing has been grouped before the first look. -/
  whole : ∀ s : Statement, (∀ t ∈ s, t.isComment = false) →
    (looks s).head? = some (.group 0 s.length)
  /-- Of two groups one inside the other, the outer one has a token of its own. -/
  depth_le : ∀ (s : Statement) (depth parts : Nat), .group depth parts ∈ looks s →
    depth ≤ s.weight
  /-- Every part has a token. -/
  parts_le : ∀ (s : Statement) (depth parts : Nat), .group depth parts ∈ looks s →
    parts ≤ s.length
  /-- There are calls enough for groups that may lie inside one another. -/
  beyond_deep : ∀ s : Statement, .beyond ∈ looks s → depthLimit < s.weight

namespace Grouping

/-- Why a statement is refused, if it is: what the first look found that found anything. -/
def refusal? (g : Grouping) (s : Statement) : Option GroupingError :=
  (g.looks s).findSome? Look.refusal?

variable {g : Grouping} {s : Statement}

/-- Few tokens are never refused. -/
theorem refusal?_eq_none (g : Grouping) (light : s.weight ≤ depthLimit)
    (short : s.length ≤ partLimit)
    : g.refusal? s = none := by
  rw [refusal?, List.findSome?_eq_none_iff]
  intro look member
  cases look with
  | group depth parts =>
      have deep := g.depth_le s depth parts member
      have long := g.parts_le s depth parts member
      rw [Look.refusal?, if_neg (by omega), if_neg (by omega)]
  | beyond =>
      have deep := g.beyond_deep s member
      omega

/-- Without comments, too many tokens are refused for their number. -/
theorem refusal?_of_long (g : Grouping) (plain : ∀ t ∈ s, t.isComment = false)
    (long : partLimit < s.length)
    : g.refusal? s = some .tooMany := by
  obtain ⟨rest, looks⟩ := List.head?_eq_some_iff.mp (g.whole s plain)
  have found : (Look.group 0 s.length).refusal? = some .tooMany := by
    rw [Look.refusal?, if_neg (Nat.not_lt_zero depthLimit), if_pos long]
  rw [refusal?, looks, List.findSome?_cons, found]

end Grouping

end RideQuestions.Sql
