namespace DiceFormula

/-- A bounded store that gives up what has lain untouched the longest. -/
structure Lru (α : Type) where
  capacity : Nat
  capacity_pos : 0 < capacity
  /-- Least recently touched first. -/
  entries : List (String × α) := []
  hits : Nat := 0
  misses : Nat := 0

structure LruStats where
  size : Nat
  capacity : Nat
  hits : Nat
  misses : Nat
  deriving DecidableEq

def LruStats.hitRate (stats : LruStats) : Float :=
  let lookups := stats.hits + stats.misses
  if lookups = 0 then 0.0 else stats.hits.toFloat / lookups.toFloat

namespace Lru

def keys (store : Lru α) : List String := store.entries.map (·.1)

def contains (store : Lru α) (key : String) : Bool := store.keys.contains key

def size (store : Lru α) : Nat := store.entries.length

def find? (store : Lru α) (key : String) : Option α :=
  (store.entries.find? (·.1 = key)).map (·.2)

def touch (entries : List (String × α)) (key : String) (value : α) : List (String × α) :=
  entries.filter (·.1 ≠ key) ++ [(key, value)]

def get (store : Lru α) (key : String) : Option α × Lru α :=
  match store.find? key with
  | some value =>
    (some value,
      { store with entries := touch store.entries key value, hits := store.hits + 1 })
  | none => (none, { store with misses := store.misses + 1 })

/-- Stores a value and returns the keys that had to go. -/
def put (store : Lru α) (key : String) (value : α) : List String × Lru α :=
  let entries := touch store.entries key value
  let excess := entries.length - store.capacity
  ((entries.take excess).map (·.1), { store with entries := entries.drop excess })

def clear (store : Lru α) : Lru α := { store with entries := [], hits := 0, misses := 0 }

def stats (store : Lru α) : LruStats := ⟨store.size, store.capacity, store.hits, store.misses⟩

def ofCapacity (capacity : Int) : Except Int (Lru α) :=
  if positive : 0 < capacity.toNat then
    .ok { capacity := capacity.toNat, capacity_pos := positive }
  else .error capacity

def capacityMessage (capacity : Int) : String :=
  s!"cache capacity must be positive, got {capacity}"

end Lru

end DiceFormula

namespace DiceFormula.Lru

variable {α : Type}

theorem mem_touch {entries : List (String × α)} {key other : String} {value found : α}
    (member : (other, found) ∈ touch entries key value) :
    (other, found) ∈ entries ∨ other = key ∧ found = value := by
  rcases List.mem_append.mp member with old | new
  · exact .inl (List.mem_filter.mp old).1
  · rw [List.mem_singleton, Prod.mk.injEq] at new
    exact .inr new

theorem mem_of_find {store : Lru α} {key : String} {value : α}
    (found : store.find? key = some value) : (key, value) ∈ store.entries := by
  obtain ⟨⟨other, kept⟩, first, rfl⟩ := Option.map_eq_some_iff.mp found
  have same : other = key := by simpa using List.find?_some first
  rw [← same]
  exact List.mem_of_find?_eq_some first

theorem get_of_found {store : Lru α} {key : String} {value : α}
    (found : store.find? key = some value) :
    store.get key = (some value,
      { store with entries := touch store.entries key value, hits := store.hits + 1 }) := by
  unfold get
  rw [found]

theorem get_of_missing {store : Lru α} {key : String} (missing : store.find? key = none) :
    store.get key = (none, { store with misses := store.misses + 1 }) := by
  unfold get
  rw [missing]

theorem get_fst (store : Lru α) (key : String) : (store.get key).1 = store.find? key := by
  unfold get
  split
  · next found => exact found.symm
  · next missing => exact missing.symm

theorem mem_get {store : Lru α} {key other : String} {found : α}
    (member : (other, found) ∈ (store.get key).2.entries) : (other, found) ∈ store.entries := by
  unfold get at member
  split at member
  · next value present =>
    rcases mem_touch member with old | ⟨rfl, rfl⟩
    · exact old
    · exact mem_of_find present
  · exact member

theorem mem_put {store : Lru α} {key other : String} {value found : α}
    (member : (other, found) ∈ (store.put key value).2.entries) :
    (other, found) ∈ store.entries ∨ other = key ∧ found = value :=
  mem_touch (List.mem_of_mem_drop member)

end DiceFormula.Lru
