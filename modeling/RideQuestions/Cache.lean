import RideQuestions.Value

/-! A bounded store that gives up the key unused for longest. Every use of a key stamps it with the
next tick of a clock, so the oldest stamp marks the key to give up.
-/

namespace RideQuestions

open Number

/-- The greatest number of entries of a cache, at least one. -/
structure Capacity where
  size : Nat
  pos : 0 < size

def Capacity.ofInt? (size : Int) : Option Capacity :=
  if h : 0 < size then some ⟨size.toNat, by omega⟩ else none

/-- What is said of a size below one. -/
def Capacity.rejection : String :=
  "max_size must be at least 1"

structure CacheStats where
  hits : Nat := 0
  misses : Nat := 0
  sets : Nat := 0
  evictions : Nat := 0
  deriving DecidableEq

/-- The share of lookups that found something; zero before the first lookup. -/
def CacheStats.hitRate (s : CacheStats) : Binary64 :=
  if s.hits + s.misses = 0 then Binary64.zeroOf false
  else Binary64.ofRatio false s.hits (s.hits + s.misses)

structure Cache (α : Type) where
  capacity : Capacity
  values : List (String × α) := []
  /-- The tick of the clock at which each key was used last. -/
  lastUsed : List (String × Nat) := []
  clock : Nat := 0
  stats : CacheStats := {}

namespace Cache

variable {α : Type}

def empty (capacity : Capacity) : Cache α :=
  { capacity }

def size (c : Cache α) : Nat :=
  c.values.length

/-- The value stored under a key, without counting as a use. -/
def peek? (c : Cache α) (key : String) : Option α :=
  c.values.lookup key

def holds (c : Cache α) (key : String) : Bool :=
  (c.peek? key).isSome

/-- Stamps a key with the next tick of the clock. -/
def markUsed (c : Cache α) (key : String) : Cache α :=
  { c with clock := c.clock + 1, lastUsed := Value.put key (c.clock + 1) c.lastUsed }

/-- Looks a key up; finding it counts as a use. -/
def get (c : Cache α) (key : String) : Option α × Cache α :=
  match c.peek? key with
  | none => (none, { c with stats := { c.stats with misses := c.stats.misses + 1 } })
  | some value =>
      let c := c.markUsed key
      (some value, { c with stats := { c.stats with hits := c.stats.hits + 1 } })

/-- The first entry with the oldest stamp. -/
def oldest? : List (String × Nat) → Option (String × Nat)
  | [] => none
  | e :: rest =>
      match oldest? rest with
      | none => some e
      | some other => if other.2 < e.2 then some other else some e

/-- Gives up the key unused for longest. -/
def evict (c : Cache α) : Cache α :=
  match oldest? c.lastUsed with
  | none => c
  | some (oldest, _) =>
      {
        c with
        values := c.values.filter (·.1 ≠ oldest),
        lastUsed := c.lastUsed.filter (·.1 ≠ oldest),
        stats := { c.stats with evictions := c.stats.evictions + 1 }
      }

/-- Stores a value under a key, which counts as a use. A new key in a full cache takes the place
of the key unused for longest. -/
def set (c : Cache α) (key : String) (value : α) : Cache α :=
  let c := if c.capacity.size ≤ c.size ∧ c.holds key = false then c.evict else c
  let c := { c with values := Value.put key value c.values }.markUsed key
  { c with stats := { c.stats with sets := c.stats.sets + 1 } }

end Cache

end RideQuestions
