import RideQuestions.Proofs.Matching.Key
import RideQuestions.Proofs.Value.Entries
import RideQuestions.Matching.Synonym
import Mathlib.Data.List.Induction

/-! The table of synonyms. It is the one that grows group by group and word by word, where a word
that has an entry takes further words into it. Two words are linked in it exactly when they differ
and one group holds both.
-/

namespace RideQuestions.Matching

variable {groups : List (List String)} {group : List String} {word other : String}

-----------------------------------------------------------------------------------------
-- The words of one entry
-----------------------------------------------------------------------------------------

/-- Adds a word to the ones related to another, unless it is that word or is among them. -/
def note (word : String) (related : List String) (other : String) : List String :=
  if other ≠ word ∧ other ∉ related then related ++ [other] else related

/-- Noting the words of a group adds the new ones in their order. -/
theorem foldl_note (word : String) (group first : List String)
    : group.foldl (note word) first.eraseDups
      = (first ++ group.filter (· != word)).eraseDups := by
  induction group generalizing first with
  | nil => rw [List.foldl_nil, List.filter_nil, List.append_nil]
  | cons other rest ih =>
      by_cases same : other = word
      · have kept : note word first.eraseDups other = first.eraseDups :=
          if_neg fun both => both.1 same
        rw [List.foldl_cons, kept, ih, List.filter_cons_of_neg (by simpa using same)]
      · have grows : note word first.eraseDups other = (first ++ [other]).eraseDups := by
          rw [eraseDups_concat, note]
          by_cases stands : other ∈ first <;> simp [same, stands]
        rw [List.foldl_cons, grows, ih, List.filter_cons_of_pos (by simpa using same),
          List.append_assoc, List.singleton_append]

/-- Words that are all related already change nothing. -/
theorem foldl_note_eq_self {related : List String}
    (known : ∀ other ∈ group, other ≠ word → other ∈ related)
    : group.foldl (note word) related = related := by
  induction group with
  | nil => rfl
  | cons other rest ih =>
      have kept : note word related other = related :=
        if_neg fun both => both.2 (known other List.mem_cons_self both.1)
      rw [List.foldl_cons, kept]
      exact ih fun later stands => known later (List.mem_cons_of_mem other stands)

-----------------------------------------------------------------------------------------
-- Related words
-----------------------------------------------------------------------------------------

theorem mem_related
    : other ∈ related groups word
      ↔ word ≠ other ∧ ∃ group ∈ groups, word ∈ group ∧ other ∈ group := by
  simp only [related, List.mem_eraseDups, List.mem_filter, List.mem_flatten, bne_iff_ne,
    List.contains_iff_mem]
  constructor
  · rintro ⟨⟨group, ⟨listed, stands⟩, member⟩, differ⟩
    exact ⟨differ.symm, group, listed, stands, member⟩
  · rintro ⟨differ, group, listed, stands, member⟩
    exact ⟨⟨group, ⟨listed, stands⟩, member⟩, differ.symm⟩

/-- A further group that holds a word adds its other words to the related ones. -/
theorem related_concat (stands : word ∈ group)
    : related (groups ++ [group]) word = group.foldl (note word) (related groups word) := by
  simp [related, foldl_note, List.filter_append, stands]

theorem related_concat_of_notMem (absent : word ∉ group)
    : related (groups ++ [group]) word = related groups word := by
  simp [related, List.filter_append, absent]

/-- Once a group is noted under one of its words, noting it again there changes nothing. -/
theorem foldl_note_related_concat (stands : word ∈ group)
    : group.foldl (note word) (related (groups ++ [group]) word)
      = related (groups ++ [group]) word := by
  apply foldl_note_eq_self
  intro other member differ
  exact mem_related.mpr ⟨differ.symm, group, by simp, stands, member⟩

theorem related_eq_nil (absent : word ∉ groups.flatten)
    : related groups word = [] := by
  apply List.eq_nil_iff_forall_not_mem.mpr
  intro other member
  obtain ⟨_, group, listed, stands, _⟩ := mem_related.mp member
  exact absent (List.mem_flatten.mpr ⟨group, listed, stands⟩)

-----------------------------------------------------------------------------------------
-- Tables over their keys
-----------------------------------------------------------------------------------------

section Tables

variable {α : Type} {keys : List String} {f g : String → α}

theorem lookup_map_key
    : (keys.map fun key => (key, f key)).lookup word
      = if word ∈ keys then some (f word) else none := by
  induction keys with
  | nil => rfl
  | cons key rest ih =>
      rw [List.map_cons, Value.lookup_cons_ite, ih]
      by_cases same : word = key
      · simp [same]
      · simp [same]

/-- A write under a key, told by what the table then has under each of its keys. -/
theorem put_map_key (distinct : keys.Nodup) (others : ∀ key, key ≠ word → g key = f key)
    : Value.put word (g word) (keys.map fun key => (key, f key))
      = (if word ∈ keys then keys else keys ++ [word]).map fun key => (key, g key) := by
  induction keys with
  | nil => rfl
  | cons key rest ih =>
      obtain ⟨fresh, distinct⟩ := List.nodup_cons.mp distinct
      rw [List.map_cons, Value.put]
      by_cases same : key = word
      · subst same
        have unchanged : rest.map (fun other => (other, f other))
            = rest.map fun other => (other, g other) :=
          List.map_congr_left fun other stands => by
            rw [others other fun same => fresh (same ▸ stands)]
        simp [unchanged]
      · have differ : word ≠ key := Ne.symm same
        rw [if_neg same, ih distinct, ← others key same]
        by_cases stands : word ∈ rest <;> simp [stands, differ]

end Tables

-----------------------------------------------------------------------------------------
-- Growing a table
-----------------------------------------------------------------------------------------

/-- Opens the entry of a word if it has none, and notes the words of a group in it. -/
def noteWord (group : List String) (table : List (String × List String)) (word : String)
    : List (String × List String) :=
  Value.put word (group.foldl (note word) ((table.lookup word).getD [])) table

/-- Notes a group in the entry of each of its words. -/
def noteGroup (table : List (String × List String)) (group : List String)
    : List (String × List String) :=
  group.foldl (noteWord group) table

/-- The table that grows with one group after another. -/
def grown (groups : List (List String)) : List (String × List String) :=
  groups.foldl noteGroup []

/-- What is listed under a word while a group is taken in and some of its words are done. -/
def listed (groups : List (List String)) (group done : List String) (word : String)
    : List String :=
  if word ∈ done then related (groups ++ [group]) word else related groups word

/-- The table while a group is taken in and some of its words are done. -/
def midway (groups : List (List String)) (group done : List String)
    : List (String × List String) :=
  (groups.flatten ++ done).eraseDups.map fun word => (word, listed groups group done word)

theorem midway_nil (groups : List (List String)) (group : List String)
    : midway groups group [] = synonymTable groups := by
  simp [midway, synonymTable, listed]

theorem midway_whole (groups : List (List String)) (group : List String)
    : midway groups group group = synonymTable (groups ++ [group]) := by
  have same (word : String)
      : listed groups group group word = related (groups ++ [group]) word := by
    by_cases stands : word ∈ group
    · exact if_pos stands
    · exact (if_neg stands).trans (related_concat_of_notMem stands).symm
  simp [midway, synonymTable, same]

variable {done : List String}

theorem getD_lookup_midway
    : ((midway groups group done).lookup word).getD [] = listed groups group done word := by
  rw [midway, lookup_map_key]
  by_cases stands : word ∈ (groups.flatten ++ done).eraseDups
  · rw [if_pos stands, Option.getD_some]
  · rw [List.mem_eraseDups, List.mem_append, not_or] at stands
    rw [if_neg (by simpa using stands), listed, if_neg stands.2, related_eq_nil stands.1]
    rfl

/-- A word that comes up again in its group finds it noted, and one that comes up first has it
noted now. -/
theorem foldl_note_listed (stands : word ∈ group)
    : group.foldl (note word) (listed groups group done word)
      = related (groups ++ [group]) word := by
  by_cases again : word ∈ done
  · rw [listed, if_pos again, foldl_note_related_concat stands]
  · rw [listed, if_neg again, related_concat stands]

/-- One word of a group more. -/
theorem noteWord_midway (stands : word ∈ group)
    : noteWord group (midway groups group done) word = midway groups group (done ++ [word]) := by
  have now : listed groups group (done ++ [word]) word = related (groups ++ [group]) word :=
    if_pos (by simp)
  have others (key : String) (differ : key ≠ word)
      : listed groups group (done ++ [word]) key = listed groups group done key := by
    simp [listed, differ]
  rw [noteWord, getD_lookup_midway, foldl_note_listed stands, ← now, midway,
    put_map_key (nodup_eraseDups _) others, midway, ← List.append_assoc, eraseDups_concat]
  simp only [List.mem_eraseDups]

/-- The rest of a group, by induction on it; `done` is what went before. -/
theorem foldl_noteWord_midway (rest : List String) (within : ∀ word ∈ rest, word ∈ group)
    : rest.foldl (noteWord group) (midway groups group done)
      = midway groups group (done ++ rest) := by
  induction rest generalizing done with
  | nil => rw [List.foldl_nil, List.append_nil]
  | cons word rest ih =>
      rw [List.foldl_cons, noteWord_midway (within word List.mem_cons_self),
        ih fun later stands => within later (List.mem_cons_of_mem word stands),
        List.append_assoc, List.singleton_append]

/-- One group more. -/
theorem noteGroup_synonymTable (groups : List (List String)) (group : List String)
    : noteGroup (synonymTable groups) group = synonymTable (groups ++ [group]) := by
  rw [noteGroup, ← midway_nil groups group, foldl_noteWord_midway group fun _ => id,
    List.nil_append, midway_whole]

/-- The table that grows is the one made of all groups at once, by induction on the groups from
the last one back. -/
theorem grown_eq (groups : List (List String))
    : grown groups = synonymTable groups := by
  induction groups using List.reverseRecOn with
  | nil => rfl
  | append_singleton groups group ih =>
      rw [← noteGroup_synonymTable, ← ih, grown, List.foldl_concat]
      rfl

-----------------------------------------------------------------------------------------
-- Links
-----------------------------------------------------------------------------------------

/-- A table lists a word under another one. -/
def Linked (table : List (String × List String)) (word other : String) : Prop :=
  ∃ related, table.lookup word = some related ∧ other ∈ related

theorem keys_synonymTable (groups : List (List String))
    : (synonymTable groups).map Prod.fst = groups.flatten.eraseDups := by
  rw [synonymTable, List.map_map]
  exact List.map_id _

theorem linked_synonymTable_iff
    : Linked (synonymTable groups) word other
      ↔ word ≠ other ∧ ∃ group ∈ groups, word ∈ group ∧ other ∈ group := by
  rw [Linked, synonymTable, lookup_map_key, ← mem_related]
  by_cases stands : word ∈ groups.flatten.eraseDups
  · simp [stands]
  · have none : related groups word = [] :=
      related_eq_nil fun member => stands (List.mem_eraseDups.mpr member)
    simp [stands, none]

/-- The table of any groups, repeated words and overlaps included. It is the table that grows word
by word; each word of the groups has one entry in it, and nothing else has; two words are linked
exactly when they differ and one group holds both, and no entry lists a word twice. Links are
therefore symmetric and irreflexive, and a third word that both are linked to links no two. -/
theorem synonymTable_links (groups : List (List String))
    : grown groups = synonymTable groups
      ∧ ((synonymTable groups).map Prod.fst).Nodup
      ∧ (∀ word, word ∈ (synonymTable groups).map Prod.fst ↔ ∃ group ∈ groups, word ∈ group)
      ∧ (∀ word other, Linked (synonymTable groups) word other
          ↔ word ≠ other ∧ ∃ group ∈ groups, word ∈ group ∧ other ∈ group)
      ∧ (∀ entry ∈ synonymTable groups, entry.2.Nodup)
      ∧ (∀ word other, Linked (synonymTable groups) word other
          ↔ Linked (synonymTable groups) other word)
      ∧ ∀ word, ¬Linked (synonymTable groups) word word := by
  refine ⟨grown_eq groups, ?distinct, ?keys, fun _ _ => linked_synonymTable_iff, ?lists,
    ?symmetric, ?irreflexive⟩
  case distinct =>
    rw [keys_synonymTable]
    exact nodup_eraseDups groups.flatten
  case keys =>
    intro word
    rw [keys_synonymTable, List.mem_eraseDups, List.mem_flatten]
  case lists =>
    intro entry member
    obtain ⟨word, _, rfl⟩ := List.mem_map.mp member
    exact nodup_eraseDups _
  case symmetric =>
    intro word other
    have turned (group : List String)
        : group ∈ groups ∧ word ∈ group ∧ other ∈ group
          ↔ group ∈ groups ∧ other ∈ group ∧ word ∈ group :=
      and_congr_right' and_comm
    rw [linked_synonymTable_iff, linked_synonymTable_iff, ne_comm, exists_congr turned]
  case irreflexive =>
    intro word linked
    exact (linked_synonymTable_iff.mp linked).1 rfl

/-- Two groups that overlap in a word which one of them has twice. -/
def avenues : List (List String) :=
  [["avenue", "station", "avenue"], ["street", "avenue"]]

/-- A street is no station, though each is linked to an avenue. -/
theorem synonymTable_links_avenues
    : Linked (synonymTable avenues) "station" "avenue"
        ∧ Linked (synonymTable avenues) "avenue" "street"
        ∧ ¬Linked (synonymTable avenues) "station" "street"
        ∧ ("avenue", ["station", "street"]) ∈ synonymTable avenues
        ∧ ["station", "street"].Nodup := by
  have entry : ("avenue", ["station", "street"]) ∈ synonymTable avenues := by decide
  obtain ⟨_, _, _, linked, distinct, _, _⟩ := synonymTable_links avenues
  refine ⟨(linked _ _).mpr (by decide), (linked _ _).mpr (by decide), ?apart, entry,
    distinct _ entry⟩
  case apart =>
    rw [linked]
    decide

end RideQuestions.Matching
