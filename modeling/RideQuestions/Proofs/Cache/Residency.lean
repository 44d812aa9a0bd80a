import RideQuestions.Cache
import RideQuestions.Proofs.Cache.Recency
import RideQuestions.Proofs.Value.Entries

/-! What a cache holds after a history of lookups and writes. Its keys are the first ones in the
order of latest use, as many as it has room for, and each stands for the value stored last.
-/

namespace RideQuestions

variable {α : Type}

/-- A call of a cache. -/
inductive Cache.Operation (α : Type) where
  | get (key : String)
  | set (key : String) (value : α)

namespace Cache

def step (c : Cache α) : Operation α → Cache α
  | .get key => (c.get key).2
  | .set key value => c.set key value

/-- The cache that a history leads to from the empty one; histories are given latest first. -/
def after (capacity : Capacity) : List (Operation α) → Cache α
  | [] => empty capacity
  | operation :: earlier => (after capacity earlier).step operation

/-- The key that an operation uses: the one stored under, or the one looked up if it is found. -/
def used (c : Cache α) : Operation α → List String
  | .get key => if (c.get key).1.isSome then [key] else []
  | .set key _ => [key]

/-- The keys that a history uses, latest first. -/
def uses (capacity : Capacity) : List (Operation α) → List String
  | [] => []
  | operation :: earlier => (after capacity earlier).used operation ++ uses capacity earlier

/-- The value that a history stored last under a key. -/
def latestSet? (key : String) : List (Operation α) → Option α
  | [] => none
  | .get _ :: earlier => latestSet? key earlier
  | .set other value :: earlier => if other = key then some value else latestSet? key earlier

/-- How often a history stored something under a key that the cache did not hold. -/
def insertions (capacity : Capacity) : List (Operation α) → Nat
  | [] => 0
  | .get _ :: earlier => insertions capacity earlier
  | .set key _ :: earlier =>
      insertions capacity earlier + if (after capacity earlier).holds key then 0 else 1

def Operation.isGet : Operation α → Bool
  | .get _ => true
  | .set _ _ => false

def Operation.isSet : Operation α → Bool
  | .get _ => false
  | .set _ _ => true

-----------------------------------------------------------------------------------------
-- The two maps and the clock of a cache
-----------------------------------------------------------------------------------------

/-- The stamps of a cache, latest first. Both of its maps have the same keys in the same places,
and no stamp lies ahead of the clock. -/
structure Stamped (c : Cache α) (recent : List (String × Nat)) : Prop where
  sameKeys : c.values.map Prod.fst = c.lastUsed.map Prod.fst
  stamps : c.lastUsed.Perm recent
  decreasing : recent.Pairwise fun later earlier => earlier.2 < later.2
  bounded : ∀ e ∈ recent, e.2 ≤ c.clock
  distinct : (recent.map Prod.fst).Nodup

variable {c : Cache α} {recent : List (String × Nat)} {key : String} {value : α}

theorem stamped_empty (capacity : Capacity)
    : (empty capacity : Cache α).Stamped [] where
  sameKeys := rfl
  stamps := .refl _
  decreasing := .nil
  bounded := fun _ member => absurd member List.not_mem_nil
  distinct := List.nodup_nil

/-- What is counted does not matter to the maps. -/
theorem Stamped.counting (h : c.Stamped recent) (stats : CacheStats)
    : { c with stats }.Stamped recent :=
  ⟨h.sameKeys, h.stamps, h.decreasing, h.bounded, h.distinct⟩

theorem Stamped.perm_keys (h : c.Stamped recent)
    : (c.values.map Prod.fst).Perm (recent.map Prod.fst) :=
  h.sameKeys ▸ h.stamps.map Prod.fst

theorem Stamped.size_eq (h : c.Stamped recent)
    : c.size = recent.length := by
  simpa only [size, List.length_map] using h.perm_keys.length_eq

theorem Stamped.holds_iff (h : c.Stamped recent)
    : c.holds key = true ↔ key ∈ recent.map Prod.fst := by
  rw [holds, peek?, Value.isSome_lookup_iff, h.perm_keys.mem_iff]

/-- Stamping a key moves it to the front, whether it is new or not. The values must have gained
the key as well if it is new. -/
theorem Stamped.markUsed (h : c.Stamped recent) {values : List (String × α)}
    (gained : values.map Prod.fst = (Value.put key (c.clock + 1) c.lastUsed).map Prod.fst)
    : ({ c with values }.markUsed key).Stamped
        ((key, c.clock + 1) :: recent.filter (·.1 ≠ key)) where
  sameKeys := gained
  stamps := by
    have distinct : (c.lastUsed.map Prod.fst).Nodup :=
      (h.stamps.map Prod.fst).nodup_iff.mpr h.distinct
    exact (Value.put_perm distinct).trans ((h.stamps.filter _).cons _)
  decreasing := by
    refine List.pairwise_cons.mpr ⟨?_, h.decreasing.filter _⟩
    intro e member
    exact Nat.lt_succ_of_le (h.bounded e (List.mem_filter.mp member).1)
  bounded := by
    intro e member
    rcases List.mem_cons.mp member with rfl | member
    · exact Nat.le_refl _
    · exact Nat.le_succ_of_le (h.bounded e (List.mem_filter.mp member).1)
  distinct := by
    rw [List.map_cons, Value.keys_filter_ne]
    exact nodup_moveToFront h.distinct

/-- Only where there are no stamps is none the oldest. -/
theorem eq_nil_of_oldest? {stamps : List (String × Nat)} (none : oldest? stamps = none)
    : stamps = [] := by
  cases stamps with
  | nil => rfl
  | cons first rest =>
      rw [oldest?] at none
      split at none
      · exact absurd none (by simp)
      · split at none <;> exact absurd none (by simp)

/-- The oldest stamp is one of the stamps, and none is older, by induction over the stamps. -/
theorem oldest?_spec {stamps : List (String × Nat)} {e : String × Nat}
    (found : oldest? stamps = some e)
    : e ∈ stamps ∧ ∀ other ∈ stamps, e.2 ≤ other.2 := by
  induction stamps generalizing e with
  | nil => exact absurd found (by simp [oldest?])
  | cons first rest ih =>
      rw [oldest?] at found
      split at found
      · next hr =>
          obtain rfl := Option.some.inj found
          simp [eq_nil_of_oldest? hr]
      · next oldest hr =>
          obtain ⟨member, least⟩ := ih hr
          split at found
          · next older =>
              obtain rfl := Option.some.inj found
              refine ⟨List.mem_cons_of_mem first member, ?_⟩
              intro other hm
              rcases List.mem_cons.mp hm with rfl | hm
              · exact Nat.le_of_lt older
              · exact least other hm
          · next younger =>
              obtain rfl := Option.some.inj found
              refine ⟨List.mem_cons_self, ?_⟩
              intro other hm
              rcases List.mem_cons.mp hm with rfl | hm
              · exact Nat.le_refl _
              · exact Nat.le_trans (Nat.le_of_not_lt younger) (least other hm)

/-- The oldest stamp is the last of those given latest first. -/
theorem Stamped.oldest? {front : List (String × Nat)} {last : String × Nat}
    (h : c.Stamped (front ++ [last]))
    : Cache.oldest? c.lastUsed = some last := by
  cases found : Cache.oldest? c.lastUsed with
  | none =>
      have empty := eq_nil_of_oldest? found ▸ h.stamps
      exact absurd empty.length_eq (by simp)
  | some e =>
      obtain ⟨member, least⟩ := oldest?_spec found
      have notAfter : e.2 ≤ last.2 :=
        least last (h.stamps.mem_iff.mpr (List.mem_append_right front List.mem_cons_self))
      rcases List.mem_append.mp (h.stamps.mem_iff.mp member) with inFront | isLast
      · have after := (List.pairwise_append.mp h.decreasing).2.2 e inFront last List.mem_cons_self
        exact absurd notAfter (Nat.not_le_of_lt after)
      · rw [List.mem_singleton.mp isLast]

/-- Giving up a key takes the last one of those given latest first out of both maps. -/
theorem Stamped.evict {front : List (String × Nat)} {last : String × Nat}
    (h : c.Stamped (front ++ [last]))
    : c.evict.Stamped front ∧ c.evict.stats.evictions = c.stats.evictions + 1 := by
  have distinct : (front.map Prod.fst).Nodup ∧ last.1 ∉ front.map Prod.fst := by
    have all := h.distinct
    rw [List.map_append, List.map_singleton] at all
    obtain ⟨front, _, apart⟩ := List.nodup_append.mp all
    exact ⟨front, fun member => apart _ member _ List.mem_cons_self rfl⟩
  have left : (front ++ [last]).filter (·.1 ≠ last.1) = front := by
    rw [List.filter_append, Value.filter_ne_eq_self distinct.2]
    simp
  rw [Cache.evict, h.oldest?]
  refine ⟨?_, rfl⟩
  exact {
    sameKeys := by rw [Value.keys_filter_ne, Value.keys_filter_ne, h.sameKeys]
    stamps := left ▸ h.stamps.filter _
    decreasing := (List.pairwise_append.mp h.decreasing).1
    bounded := fun e member => h.bounded e (List.mem_append_left _ member)
    distinct := distinct.1
  }

-----------------------------------------------------------------------------------------
-- What one operation does to the order of latest use
-----------------------------------------------------------------------------------------

/-- A lookup that finds its key moves it to the front, and any other changes no stamp. -/
theorem Stamped.get (h : c.Stamped recent) (key : String)
    : ∃ next, (c.get key).2.Stamped next
      ∧ next.map Prod.fst
        = if (c.get key).1.isSome then moveToFront key (recent.map Prod.fst)
          else recent.map Prod.fst := by
  unfold Cache.get
  cases hp : c.peek? key with
  | none => exact ⟨recent, h.counting _, rfl⟩
  | some value =>
      have stored : key ∈ c.lastUsed.map Prod.fst := by
        rw [← h.sameKeys, ← Value.isSome_lookup_iff, ← peek?, hp]
        rfl
      have gained : c.values.map Prod.fst
          = (Value.put key (c.clock + 1) c.lastUsed).map Prod.fst := by
        rw [Value.keys_put, if_pos stored, h.sameKeys]
      refine ⟨_, (h.markUsed gained).counting _, ?_⟩
      rw [List.map_cons, Value.keys_filter_ne]
      rfl

/-- A write moves its key to the front of the keys that are left when room is made for it. -/
theorem Stamped.put (h : c.Stamped recent) (key : String) (value : α)
    : ({ c with values := Value.put key value c.values }.markUsed key).Stamped
        ((key, c.clock + 1) :: recent.filter (·.1 ≠ key)) := by
  apply h.markUsed
  rw [Value.keys_put, Value.keys_put, h.sameKeys]

/-- A write moves its key to the front, and where that makes one key too many, the last goes. -/
theorem Stamped.set (h : c.Stamped recent) (room : recent.length ≤ c.capacity.size)
    (key : String) (value : α)
    : ∃ next, (c.set key value).Stamped next
      ∧ next.map Prod.fst
        = (moveToFront key (recent.map Prod.fst)).take c.capacity.size := by
  unfold Cache.set
  by_cases crowded : c.capacity.size ≤ c.size ∧ c.holds key = false
  · -- the key is new and the cache full, so the last key gives way to it
    rw [if_pos crowded]
    obtain ⟨full, notHeld⟩ := crowded
    have absent : key ∉ recent.map Prod.fst := fun member => by
      simp [h.holds_iff.mpr member] at notHeld
    have exactly : recent.length = c.capacity.size :=
      Nat.le_antisymm room (h.size_eq ▸ full)
    have filled : recent ≠ [] := List.ne_nil_of_length_pos (exactly ▸ c.capacity.pos)
    obtain ⟨front, last, rfl⟩ : ∃ front last, recent = front ++ [last] :=
      ⟨_, _, (List.dropLast_append_getLast filled).symm⟩
    refine ⟨_, (h.evict.1.put key value).counting _, ?_⟩
    rw [List.map_append] at absent
    have absentFront := fun member => absent (List.mem_append_left _ member)
    have size : c.capacity.size = (front.map Prod.fst).length + 1 := by
      simpa using exactly.symm
    rw [List.map_cons, Value.filter_ne_eq_self absentFront, List.map_append,
      moveToFront_of_not_mem absent, size, List.take_succ_cons, List.take_left]
  · rw [if_neg crowded]
    refine ⟨_, (h.put key value).counting _, ?_⟩
    have fits : (moveToFront key (recent.map Prod.fst)).length ≤ c.capacity.size := by
      by_cases member : key ∈ recent.map Prod.fst
      · exact (length_moveToFront_le member).trans (by simpa using room)
      · have free : recent.length < c.capacity.size := by
          rw [← h.size_eq]
          have notHeld : c.holds key = false := by
            simpa using fun held => member (h.holds_iff.mp held)
          exact Nat.lt_of_not_le fun full => crowded ⟨full, notHeld⟩
        rw [moveToFront_of_not_mem member, List.length_cons, List.length_map]
        exact free
    rw [List.map_cons, Value.keys_filter_ne, ← moveToFront, List.take_of_length_le fits]

-----------------------------------------------------------------------------------------
-- What one operation does to values and books
-----------------------------------------------------------------------------------------

theorem get_fst (c : Cache α) (key : String)
    : (c.get key).1 = c.peek? key := by
  unfold Cache.get
  cases c.peek? key <;> rfl

/-- A lookup changes no value and no capacity and counts itself. -/
theorem get_snd (c : Cache α) (key : String)
    : (c.get key).2.values = c.values ∧ (c.get key).2.capacity = c.capacity
      ∧ (c.get key).2.stats.hits + (c.get key).2.stats.misses = c.stats.hits + c.stats.misses + 1
      ∧ (c.get key).2.stats.sets = c.stats.sets
      ∧ (c.get key).2.stats.evictions = c.stats.evictions := by
  unfold Cache.get
  cases c.peek? key with
  | none => exact ⟨rfl, rfl, rfl, rfl, rfl⟩
  | some value => exact ⟨rfl, rfl, Nat.add_right_comm _ _ _, rfl, rfl⟩

/-- Giving up a key changes no capacity and counts no lookup and no write; what is still found was
found before. -/
theorem evict_keeps (c : Cache α)
    : c.evict.capacity = c.capacity ∧ c.evict.stats.hits = c.stats.hits
      ∧ c.evict.stats.misses = c.stats.misses ∧ c.evict.stats.sets = c.stats.sets
      ∧ ∀ key value, c.evict.peek? key = some value → c.peek? key = some value := by
  unfold Cache.evict
  split
  · exact ⟨rfl, rfl, rfl, rfl, fun _ _ found => found⟩
  · refine ⟨rfl, rfl, rfl, rfl, ?_⟩
    intro key value found
    rw [peek?, Value.lookup_filter_ne] at found
    split at found
    · exact absurd found (by simp)
    · exact found

/-- A write changes no capacity and counts itself; under its key it leaves its value, and what is
still found under any other key was found before. -/
theorem set_spec (c : Cache α) (key : String) (value : α)
    : (c.set key value).capacity = c.capacity
      ∧ (c.set key value).stats.hits + (c.set key value).stats.misses
        = c.stats.hits + c.stats.misses
      ∧ (c.set key value).stats.sets = c.stats.sets + 1
      ∧ ∀ other found, (c.set key value).peek? other = some found →
        if key = other then value = found else c.peek? other = some found := by
  obtain ⟨capacity, hits, misses, sets, values⟩ := c.evict_keeps
  have written : ∀ (room : Cache α) (other : String) (found : α),
      (Value.put key value room.values).lookup other = some found →
        if key = other then value = found else room.peek? other = some found := by
    intro room other found h
    rw [Value.lookup_put] at h
    split at h
    · next same => simpa [same] using h
    · next differ => simpa [Ne.symm differ, peek?] using h
  unfold Cache.set
  split
  · refine ⟨capacity, congrArg₂ _ hits misses, congrArg (· + 1) sets, ?_⟩
    intro other found h
    have known := written c.evict other found h
    split at known
    · next same => rwa [if_pos same]
    · next differ =>
        rw [if_neg differ]
        exact values other found known
  · exact ⟨rfl, rfl, rfl, written c⟩

/-- A write adds an entry exactly when its key is new, and gives up as many as it counts. -/
theorem Stamped.size_set (h : c.Stamped recent) (key : String) (value : α)
    : (c.set key value).size + (c.set key value).stats.evictions
      = c.size + c.stats.evictions + if c.holds key then 0 else 1 := by
  unfold Cache.set
  by_cases crowded : c.capacity.size ≤ c.size ∧ c.holds key = false
  · rw [if_pos crowded]
    obtain ⟨full, notHeld⟩ := crowded
    have filled : recent ≠ [] :=
      List.ne_nil_of_length_pos (h.size_eq ▸ Nat.lt_of_lt_of_le c.capacity.pos full)
    obtain ⟨front, last, rfl⟩ : ∃ front last, recent = front ++ [last] :=
      ⟨_, _, (List.dropLast_append_getLast filled).symm⟩
    obtain ⟨left, counted⟩ := h.evict
    have stillNot : ¬(c.evict.values.lookup key).isSome = true := by
      intro found
      obtain ⟨stored, hs⟩ := Option.isSome_iff_exists.mp found
      simp [holds, c.evict_keeps.2.2.2.2 key stored hs] at notHeld
    have entered : (Value.put key value c.evict.values).length = _ := Value.length_put
    have before := h.size_eq
    have between := left.size_eq
    rw [List.length_append, List.length_singleton] at before
    rw [if_neg stillNot] at entered
    rw [if_neg (by simp [notHeld])]
    change (Value.put key value c.evict.values).length + c.evict.stats.evictions = _
    rw [entered, counted, before, ← between, size]
    omega
  · rw [if_neg crowded]
    have entered : (Value.put key value c.values).length = _ := Value.length_put
    change (Value.put key value c.values).length + c.stats.evictions
      = c.values.length + c.stats.evictions + if (c.values.lookup key).isSome then 0 else 1
    omega

-----------------------------------------------------------------------------------------
-- What a history leads to
-----------------------------------------------------------------------------------------

/-- No operation changes the capacity. -/
theorem capacity_after (capacity : Capacity) (history : List (Operation α))
    : (after capacity history).capacity = capacity := by
  induction history with
  | nil => rfl
  | cons operation earlier ih =>
      cases operation with
      | get key => exact (get_snd _ key).2.1.trans ih
      | set key value => exact (set_spec _ key value).1.trans ih

/-- The keys held after a history are the first ones by latest use, as many as there is room for,
by induction over the history. -/
theorem stamped_after (capacity : Capacity) (history : List (Operation α))
    : ∃ recent, (after capacity history).Stamped recent
      ∧ recent.map Prod.fst = (recency (uses capacity history)).take capacity.size := by
  induction history with
  | nil => exact ⟨[], stamped_empty capacity, List.take_nil.symm⟩
  | cons operation earlier ih =>
      obtain ⟨recent, stamped, keys⟩ := ih
      have room : recent.length ≤ capacity.size := by
        rw [← List.length_map (f := Prod.fst), keys]
        exact List.length_take_le _ _
      have moved : ∀ key,
          (moveToFront key (recent.map Prod.fst)).take capacity.size
            = (recency (key :: uses capacity earlier)).take capacity.size := by
        intro key
        rw [keys, recency, take_moveToFront_take (nodup_recency _)]
      cases operation with
      | get key =>
          obtain ⟨next, h, order⟩ := stamped.get key
          refine ⟨next, h, ?_⟩
          rw [order, uses, used]
          by_cases found : ((after capacity earlier).get key).1.isSome
          · have member : key ∈ recent.map Prod.fst := by
              rwa [← stamped.holds_iff, holds, ← get_fst]
            have fits := (length_moveToFront_le member).trans (by simpa using room)
            rw [if_pos found, if_pos found, List.singleton_append, ← moved,
              List.take_of_length_le fits]
          · rw [if_neg found, if_neg found, List.nil_append, keys]
      | set key value =>
          have same := capacity_after capacity earlier
          obtain ⟨next, h, order⟩ := stamped.set (by rwa [same]) key value
          refine ⟨next, h, ?_⟩
          rw [order, same, moved]
          rfl

/-- What is found is what was stored last under the key. -/
theorem latestSet?_of_peek? {capacity : Capacity} {history : List (Operation α)}
    (found : (after capacity history).peek? key = some value)
    : latestSet? key history = some value := by
  induction history generalizing value with
  | nil => exact absurd found (by simp [after, empty, peek?])
  | cons operation earlier ih =>
      cases operation with
      | get other =>
          rw [after, step, peek?, (get_snd _ other).1] at found
          exact ih found
      | set other stored =>
          have known := (set_spec _ other stored).2.2.2 key value found
          rw [latestSet?]
          split at known
          · next same => rw [if_pos same, known]
          · next differ => rw [if_neg differ, ih known]

/-- Storing under a key is a use of it. -/
theorem mem_uses_of_latestSet? {capacity : Capacity} {history : List (Operation α)}
    (stored : latestSet? key history = some value)
    : key ∈ uses capacity history := by
  induction history with
  | nil => exact absurd stored (by simp [latestSet?])
  | cons operation earlier ih =>
      cases operation with
      | get other => exact List.mem_append_right _ (ih stored)
      | set other _ =>
          rw [latestSet?] at stored
          split at stored
          · next same => exact List.mem_append_left _ (List.mem_singleton.mpr same.symm)
          · exact List.mem_append_right _ (ih stored)

/-- Every lookup is counted as a hit or a miss and every write as a write, by induction over the
history. -/
theorem calls_after (capacity : Capacity) (history : List (Operation α))
    : (after capacity history).stats.hits + (after capacity history).stats.misses
        = history.countP Operation.isGet
      ∧ (after capacity history).stats.sets = history.countP Operation.isSet := by
  induction history with
  | nil => exact ⟨rfl, rfl⟩
  | cons operation earlier ih =>
      obtain ⟨lookups, writes⟩ := ih
      cases operation with
      | get key =>
          obtain ⟨_, _, counted, sets, _⟩ := get_snd (after capacity earlier) key
          rw [List.countP_cons_of_pos rfl, List.countP_cons_of_neg (by simp [Operation.isSet])]
          exact ⟨counted.trans (congrArg (· + 1) lookups), sets.trans writes⟩
      | set key value =>
          obtain ⟨_, kept, counted, _⟩ := set_spec (after capacity earlier) key value
          rw [List.countP_cons_of_neg (by simp [Operation.isGet]), List.countP_cons_of_pos rfl]
          exact ⟨kept.trans lookups, counted.trans (congrArg (· + 1) writes)⟩

/-- Every entry that was ever inserted is held or was given up, by induction over the history. -/
theorem size_after (capacity : Capacity) (history : List (Operation α))
    : (after capacity history).size + (after capacity history).stats.evictions
      = insertions capacity history := by
  induction history with
  | nil => rfl
  | cons operation earlier ih =>
      cases operation with
      | get key =>
          obtain ⟨values, _, _, _, evictions⟩ := get_snd (after capacity earlier) key
          rw [insertions, ← ih, after, step, size, size, values, evictions]
      | set key value =>
          obtain ⟨recent, stamped, _⟩ := stamped_after capacity earlier
          rw [insertions, ← ih]
          exact stamped.size_set key value

/-- A cache keeps what was used latest. After any history a lookup finds exactly what was stored
last under a key since whose latest use fewer other keys were used than the cache has room for. The
two maps have the same keys, each once; the stamps differ and none lies ahead of the clock; the
size keeps to the capacity, and the books agree with the history. -/
theorem after_leastRecentlyUsed (capacity : Capacity) (history : List (Operation α))
    : (∀ key value, ((after capacity history).get key).1 = some value
        ↔ latestSet? key history = some value
          ∧ (othersSince key (uses capacity history)).card < capacity.size)
      ∧ ((after capacity history).values.map Prod.fst
          = (after capacity history).lastUsed.map Prod.fst
        ∧ ((after capacity history).lastUsed.map Prod.fst).Nodup)
      ∧ (((after capacity history).lastUsed.map Prod.snd).Nodup
        ∧ ∀ e ∈ (after capacity history).lastUsed, e.2 ≤ (after capacity history).clock)
      ∧ (after capacity history).size ≤ capacity.size
      ∧ (after capacity history).stats.hits + (after capacity history).stats.misses
        = history.countP Operation.isGet
      ∧ (after capacity history).stats.sets = history.countP Operation.isSet
      ∧ (after capacity history).size + (after capacity history).stats.evictions
        = insertions capacity history := by
  obtain ⟨recent, stamped, keys⟩ := stamped_after capacity history
  obtain ⟨lookups, writes⟩ := calls_after capacity history
  have held : ∀ key, ((after capacity history).peek? key).isSome
      ↔ key ∈ uses capacity history
        ∧ (othersSince key (uses capacity history)).card < capacity.size := by
    intro key
    rw [← mem_take_recency_iff, ← keys, ← stamped.holds_iff, holds]
  refine ⟨?_, ⟨stamped.sameKeys, ?_⟩, ⟨?_, ?_⟩, ?_, lookups, writes, size_after capacity history⟩
  · intro key value
    rw [get_fst]
    constructor
    · intro found
      exact ⟨latestSet?_of_peek? found, ((held key).mp (by rw [found]; rfl)).2⟩
    · rintro ⟨latest, few⟩
      obtain ⟨stored, found⟩ := Option.isSome_iff_exists.mp
        ((held key).mpr ⟨mem_uses_of_latestSet? latest, few⟩)
      rw [found, ← latestSet?_of_peek? found, latest]
  · exact (stamped.stamps.map Prod.fst).nodup_iff.mpr stamped.distinct
  · have differ : (recent.map Prod.snd).Nodup :=
      List.pairwise_map.mpr (stamped.decreasing.imp fun later => (Nat.ne_of_lt later).symm)
    exact (stamped.stamps.map Prod.snd).nodup_iff.mpr differ
  · intro e member
    exact stamped.bounded e (stamped.stamps.mem_iff.mp member)
  · rw [stamped.size_eq, ← List.length_map (f := Prod.fst), keys]
    exact List.length_take_le _ _

/-- With room for two, the key that was looked up again outlives the one stored after it. -/
example
    : (after ⟨2, by decide⟩ [.set "c" 3, .get "a", .set "b" 2, .set "a" 1]).values
      = [("a", 1), ("c", 3)] := by
  decide

end Cache

end RideQuestions
