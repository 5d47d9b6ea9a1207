import DiceFormula.Proofs.Lru.Recency

namespace DiceFormula.Lru

variable {α : Type} {store few many : Lru α} {key : String}

def visit (store : Lru α) (key : String) (value : Option α) : Lru α :=
  match store.get key, value with
  | (none, later), some value => (later.put key value).2
  | (_, later), _ => later

def HoldsLast (store : Lru α) (touched : List String) : Prop :=
  store.keys = touched.dedup.rtake store.capacity

theorem rtake_rtake {keys : List String} {fewer more : Nat} (fewer_le : fewer ≤ more) :
    (keys.rtake more).rtake fewer = keys.rtake fewer := by
  simp only [List.rtake_eq_reverse_take_reverse, List.reverse_reverse, List.take_take,
    Nat.min_eq_left fewer_le]

theorem find_eq_none_iff : store.find? key = none ↔ key ∉ store.keys := by
  rw [← isSome_get_iff, get_fst]
  cases store.find? key with
  | none => simp
  | some value => simp

theorem visit_of_found {kept : α} (found : store.find? key = some kept) (value : Option α) :
    store.visit key value = { store with
      entries := touch store.entries key kept, hits := store.hits + 1 } := by
  unfold visit
  rw [get_of_found found]

theorem visit_of_missing (missing : store.find? key = none) :
    store.visit key none = { store with misses := store.misses + 1 } := by
  unfold visit
  rw [get_of_missing missing]

theorem visit_and_put (missing : store.find? key = none) (value : α) :
    store.visit key (some value) =
      (({ store with misses := store.misses + 1 } : Lru α).put key value).2 := by
  unfold visit
  rw [get_of_missing missing]

theorem capacity_visit (store : Lru α) (key : String) (value : Option α) :
    (store.visit key value).capacity = store.capacity := by
  cases found : store.find? key with
  | some kept => rw [visit_of_found found]
  | none =>
    cases value with
    | none => rw [visit_of_missing found]
    | some value =>
      rw [visit_and_put found]
      rfl

theorem hits_visit (store : Lru α) (key : String) (value : Option α) :
    (store.visit key value).hits = store.hits + if key ∈ store.keys then 1 else 0 := by
  cases found : store.find? key with
  | some kept =>
    have held : key ∈ store.keys := List.mem_map_of_mem (mem_of_find found)
    rw [visit_of_found found, if_pos held]
  | none =>
    rw [if_neg (find_eq_none_iff.mp found)]
    cases value with
    | none => rw [visit_of_missing found]; rfl
    | some value => rw [visit_and_put found]; rfl

theorem misses_visit (store : Lru α) (key : String) (value : Option α) :
    (store.visit key value).misses = store.misses + if key ∈ store.keys then 0 else 1 := by
  cases found : store.find? key with
  | some kept =>
    have held : key ∈ store.keys := List.mem_map_of_mem (mem_of_find found)
    rw [visit_of_found found, if_pos held]
    rfl
  | none =>
    rw [if_neg (find_eq_none_iff.mp found)]
    cases value with
    | none => rw [visit_of_missing found]
    | some value => rw [visit_and_put found]; rfl

namespace HoldsLast

variable {touched : List String}

theorem room (holds : store.HoldsLast touched) : store.keys.length ≤ store.capacity := by
  rw [holds, List.rtake, List.length_drop]
  omega

theorem visit (holds : store.HoldsLast touched) (key : String) (value : α) :
    (store.visit key (some value)).HoldsLast (touched ++ [key]) := by
  have moved : ∀ later : Lru α, later.capacity = store.capacity →
      later.keys = (store.keys.filter (· ≠ key) ++ [key]).rtake store.capacity →
      later.HoldsLast (touched ++ [key]) := by
    intro later same keys_eq
    rw [HoldsLast, keys_eq, same, holds, rtake_dedup_concat store.capacity_pos]
  refine moved _ (capacity_visit store key _) ?_
  cases found : store.find? key with
  | some kept =>
    have again := keys_get found holds.room
    rw [get_of_found found] at again
    rw [visit_of_found found]
    exact again
  | none =>
    rw [visit_and_put found]
    exact keys_put _ key value

theorem missed (holds : store.HoldsLast touched) (missing : store.find? key = none) :
    (store.visit key none).HoldsLast touched := by
  rw [visit_of_missing missing]
  exact holds

theorem nil (empty : store.entries = []) : store.HoldsLast [] := by
  rw [HoldsLast, keys, empty, List.dedup_nil, List.rtake_nil]
  rfl

end HoldsLast

/-- The second store has room for more, and in both the same keys have been touched. -/
structure Included (few many : Lru α) : Prop where
  room : few.capacity ≤ many.capacity
  same : ∃ touched, few.HoldsLast touched ∧ many.HoldsLast touched
  hits : few.hits ≤ many.hits
  misses : many.misses ≤ few.misses

namespace Included

theorem keys_eq (included : few.Included many) : few.keys = many.keys.rtake few.capacity := by
  obtain ⟨touched, fewer, more⟩ := included.same
  rw [fewer, more, rtake_rtake included.room]

theorem mem (included : few.Included many) (held : key ∈ few.keys) : key ∈ many.keys := by
  rw [included.keys_eq] at held
  exact List.mem_of_mem_drop held

theorem visit (included : few.Included many) {value : Option α}
    (unknown : value = none → many.find? key = none) :
    (few.visit key value).Included (many.visit key value) := by
  obtain ⟨touched, fewer, more⟩ := included.same
  have kept : key ∈ few.keys → key ∈ many.keys := included.mem
  refine ⟨?_, ?_, ?_, ?_⟩
  · rw [capacity_visit, capacity_visit]
    exact included.room
  · cases value with
    | some value => exact ⟨touched ++ [key], fewer.visit key value, more.visit key value⟩
    | none =>
      have absent := unknown rfl
      have missing : few.find? key = none :=
        find_eq_none_iff.mpr fun held => find_eq_none_iff.mp absent (kept held)
      exact ⟨touched, fewer.missed missing, more.missed absent⟩
  · rw [hits_visit, hits_visit]
    by_cases held : key ∈ few.keys
    · rw [if_pos held, if_pos (kept held)]
      exact Nat.add_le_add_right included.hits 1
    · rw [if_neg held]
      exact Nat.le_add_right_of_le included.hits
  · rw [misses_visit, misses_visit]
    by_cases held : key ∈ many.keys
    · rw [if_pos held]
      exact Nat.le_add_right_of_le included.misses
    · rw [if_neg held, if_neg fun also => held (kept also)]
      exact Nat.add_le_add_right included.misses 1

theorem clear (included : few.Included many) : few.clear.Included many.clear :=
  ⟨included.room, ⟨[], .nil rfl, .nil rfl⟩, Nat.le_refl 0, Nat.le_refl 0⟩

end Included

end DiceFormula.Lru
