import DiceFormula.Lru
import Mathlib.Data.List.Dedup
import Mathlib.Data.List.DropRight

namespace DiceFormula.Lru

variable {α : Type}

inductive Command (α : Type)
  | get (key : String)
  | put (key : String) (value : α)
  | clear
  | contains (key : String)
  | size
  | stats

inductive Event (α : Type)
  | hit (key : String) (value : α)
  | miss (key : String)
  | put (key : String) (value : α)
  | clear
  | contained (key : String) (held : Bool)
  | sized (size : Nat)
  | counted (stats : LruStats)

def Command.perform : Command α → Lru α → Event α × Lru α
  | get key, store =>
    match store.get key with
    | (some value, later) => (.hit key value, later)
    | (none, later) => (.miss key, later)
  | put key value, store => (.put key value, (store.put key value).2)
  | clear, store => (.clear, store.clear)
  | contains key, store => (.contained key (store.contains key), store)
  | size, store => (.sized store.size, store)
  | stats, store => (.counted store.stats, store)

def Command.asks : Command α → Bool
  | contains _ | size | stats => true
  | _ => false

def run (store : Lru α) : List (Command α) → List (Event α) × Lru α
  | [] => ([], store)
  | command :: rest =>
    let step := command.perform store
    let later := run step.2 rest
    (step.1 :: later.1, later.2)

namespace Event

def isClear : Event α → Bool
  | clear => true
  | _ => false

def isHit : Event α → Bool
  | hit _ _ => true
  | _ => false

def isMiss : Event α → Bool
  | miss _ => true
  | _ => false

def touched? : Event α → Option String
  | hit key _ => some key
  | put key _ => some key
  | _ => none

end Event

def sinceClear (events : List (Event α)) : List (Event α) := events.rtakeWhile fun e => !e.isClear

/-- The keys touched since the store was last cleared, one for each touch, in order. -/
def touchedKeys (events : List (Event α)) : List String :=
  (sinceClear events).filterMap Event.touched?

/-- The value is that of the latest put of the key since the store was last cleared. -/
def LatestPut (events : List (Event α)) (key : String) (value : α) : Prop :=
  ∃ before after, sinceClear events = before ++ .put key value :: after ∧
    ∀ other, .put key other ∉ after

/-- After the last touch of the key, fewer other keys were touched than the capacity. -/
def StillRecent (capacity : Nat) (touched : List String) (key : String) : Prop :=
  ∃ before after, touched = before ++ key :: after ∧ key ∉ after ∧ after.dedup.length < capacity

/-- The store is what the events since it was last cleared make it. Of a key touched more than
    once, `dedup` keeps the last touch. -/
structure MostRecent (capacity : Nat) (store : Lru α) (events : List (Event α)) : Prop where
  keys : store.keys = (touchedKeys events).dedup.rtake capacity
  distinct : store.keys.Nodup
  size : store.size = min capacity (touchedKeys events).dedup.length
  found : ∀ key, (store.get key).1.isSome = true ↔ StillRecent capacity (touchedKeys events) key
  value : ∀ key value, (store.get key).1 = some value → LatestPut events key value
  contains : ∀ key, store.contains key = true ↔ StillRecent capacity (touchedKeys events) key
  stats : store.stats = ⟨store.size, capacity, (sinceClear events).countP Event.isHit,
    (sinceClear events).countP Event.isMiss⟩

theorem dedup_concat (keys : List String) (key : String) :
    (keys ++ [key]).dedup = keys.dedup.filter (· ≠ key) ++ [key] := by
  induction keys with
  | nil => rfl
  | cons first rest ih =>
    by_cases again : first ∈ rest
    · rw [List.cons_append, List.dedup_cons_of_mem (List.mem_append_left _ again), ih,
        List.dedup_cons_of_mem again]
    · rw [List.dedup_cons_of_notMem again]
      by_cases same : first = key
      · subst same
        rw [List.cons_append, List.dedup_cons_of_mem (by simp), ih]
        simp
      · rw [List.cons_append, List.dedup_cons_of_notMem (by simp [again, same]), ih]
        simp [same]

theorem take_filter_ne {keys : List String} (distinct : keys.Nodup) (key : String) (count : Nat) :
    ((keys.take (count + 1)).filter (· ≠ key)).take count =
      (keys.filter (· ≠ key)).take count := by
  induction keys generalizing count with
  | nil => rfl
  | cons first rest ih =>
    obtain ⟨fresh, distinct⟩ := List.nodup_cons.mp distinct
    by_cases same : first = key
    · subst same
      have whole : rest.filter (· ≠ first) = rest := by
        rw [List.filter_eq_self]
        intro other member
        exact decide_eq_true fun same => fresh (same ▸ member)
      have part : (rest.take count).filter (· ≠ first) = rest.take count := by
        rw [List.filter_eq_self]
        intro other member
        exact decide_eq_true fun same => fresh (same ▸ List.mem_of_mem_take member)
      rw [List.take_succ_cons, List.filter_cons_of_neg (by simp), part,
        List.filter_cons_of_neg (by simp), whole, List.take_take, Nat.min_self]
    · cases count with
      | zero => simp
      | succ count => simpa [same] using ih distinct count

theorem rtake_dedup_concat {capacity : Nat} (positive : 0 < capacity) (keys : List String)
    (key : String) :
    ((keys.dedup.rtake capacity).filter (· ≠ key) ++ [key]).rtake capacity =
      (keys ++ [key]).dedup.rtake capacity := by
  obtain ⟨count, rfl⟩ : ∃ count, capacity = count + 1 := ⟨capacity - 1, by omega⟩
  have distinct := List.nodup_reverse.mpr (List.nodup_dedup keys)
  have same := take_filter_ne distinct key count
  rw [dedup_concat, List.rtake_concat_succ, List.rtake_concat_succ]
  simp only [List.rtake_eq_reverse_take_reverse, List.filter_reverse, List.reverse_reverse]
    at same ⊢
  rw [same]

theorem keys_touch (entries : List (String × α)) (key : String) (value : α) :
    (touch entries key value).map Prod.fst =
      (entries.map Prod.fst).filter (· ≠ key) ++ [key] := by
  rw [touch, List.map_append, List.filter_map]
  rfl

theorem keys_put (store : Lru α) (key : String) (value : α) :
    (store.put key value).2.keys =
      (store.keys.filter (· ≠ key) ++ [key]).rtake store.capacity := by
  have moved := keys_touch store.entries key value
  have lengths := congrArg List.length moved
  rw [List.length_map] at lengths
  simp only [put, keys, List.rtake, List.map_drop]
  rw [moved, lengths]

theorem keys_get {store : Lru α} {key : String} {value : α}
    (found : store.find? key = some value) (room : store.keys.length ≤ store.capacity) :
    (store.get key).2.keys =
      (store.keys.filter (· ≠ key) ++ [key]).rtake store.capacity := by
  have member : key ∈ store.keys := List.mem_map_of_mem (mem_of_find found)
  have moved := keys_touch store.entries key value
  have fewer : (store.keys.filter (· ≠ key)).length < store.keys.length := by
    rw [List.length_filter_lt_length_iff_exists]
    exact ⟨key, member, by simp⟩
  have fits : (store.keys.filter (· ≠ key) ++ [key]).length - store.capacity = 0 := by
    rw [List.length_append, List.length_singleton]
    omega
  rw [get_of_found found, keys, moved, List.rtake, fits]
  rfl

theorem sinceClear_concat (events : List (Event α)) (event : Event α) :
    sinceClear (events ++ [event]) =
      if event.isClear then [] else sinceClear events ++ [event] := by
  rw [sinceClear, List.rtakeWhile_concat]
  cases event.isClear with
  | true => rfl
  | false => rfl

theorem LatestPut.concat {events : List (Event α)} {key : String} {value : α}
    (latest : LatestPut events key value) {event : Event α} (goesOn : event.isClear = false)
    (others : ∀ other, event ≠ .put key other) : LatestPut (events ++ [event]) key value := by
  obtain ⟨before, after, split, none⟩ := latest
  refine ⟨before, after ++ [event], ?_, fun other member => ?_⟩
  · rw [sinceClear_concat, goesOn, split]
    simp
  · rcases List.mem_append.mp member with early | last
    · exact none other early
    · exact others other (List.mem_singleton.mp last).symm

theorem latestPut_put (events : List (Event α)) (key : String) (value : α) :
    LatestPut (events ++ [.put key value]) key value :=
  ⟨sinceClear events, [], by rw [sinceClear_concat]; rfl, by simp⟩

/-- What a run preserves: the keys and their order, the value of each, and the counts. -/
structure Tracks (capacity : Nat) (store : Lru α) (events : List (Event α)) : Prop where
  limit : store.capacity = capacity
  keys : store.keys = (touchedKeys events).dedup.rtake capacity
  latest : ∀ key value, (key, value) ∈ store.entries → LatestPut events key value
  hits : store.hits = (sinceClear events).countP Event.isHit
  misses : store.misses = (sinceClear events).countP Event.isMiss

namespace Tracks

variable {capacity : Nat} {store : Lru α} {events : List (Event α)}

theorem room (tracks : Tracks capacity store events) : store.keys.length ≤ store.capacity := by
  rw [tracks.keys, tracks.limit, List.rtake, List.length_drop]
  omega

theorem untouched (tracks : Tracks capacity store events) {later : Lru α} {event : Event α}
    (same : later.entries = store.entries ∧ later.capacity = store.capacity)
    (goesOn : event.isClear = false) (untouched : event.touched? = none)
    (hits : later.hits = store.hits + if event.isHit then 1 else 0)
    (misses : later.misses = store.misses + if event.isMiss then 1 else 0) :
    Tracks capacity later (events ++ [event]) := by
  have keys_eq : later.keys = store.keys := by rw [Lru.keys, same.1, Lru.keys]
  have since : sinceClear (events ++ [event]) = sinceClear events ++ [event] := by
    rw [sinceClear_concat, goesOn]
    rfl
  refine ⟨same.2.trans tracks.limit, ?_, fun key value member => ?_, ?_, ?_⟩
  · rw [keys_eq, tracks.keys, touchedKeys, touchedKeys, since]
    simp [untouched]
  · rw [same.1] at member
    refine (tracks.latest key value member).concat goesOn ?_
    rintro other rfl
    cases untouched
  · rw [hits, tracks.hits, since]
    simp [List.countP_singleton]
  · rw [misses, tracks.misses, since]
    simp [List.countP_singleton]

theorem hit (tracks : Tracks capacity store events) {key : String} {value : α}
    (found : store.find? key = some value) :
    Tracks capacity (store.get key).2 (events ++ [.hit key value]) := by
  have positive : 0 < capacity := tracks.limit ▸ store.capacity_pos
  have moved := keys_get found tracks.room
  refine ⟨?_, ?_, fun other kept member => ?_, ?_, ?_⟩
  · rw [get_of_found found]
    exact tracks.limit
  · rw [moved, tracks.limit, tracks.keys, rtake_dedup_concat positive, touchedKeys, touchedKeys,
      sinceClear_concat]
    simp [Event.isClear, Event.touched?]
  · exact (tracks.latest other kept (mem_get member)).concat rfl fun _ => by simp
  · rw [get_of_found found, sinceClear_concat]
    simp [Event.isClear, Event.isHit, tracks.hits]
  · rw [get_of_found found, sinceClear_concat]
    simp [Event.isClear, Event.isMiss, tracks.misses]

theorem put (tracks : Tracks capacity store events) (key : String) (value : α) :
    Tracks capacity (store.put key value).2 (events ++ [.put key value]) := by
  have positive : 0 < capacity := tracks.limit ▸ store.capacity_pos
  refine ⟨tracks.limit, ?_, fun other kept member => ?_, ?_, ?_⟩
  · rw [keys_put, tracks.limit, tracks.keys, rtake_dedup_concat positive, touchedKeys,
      touchedKeys, sinceClear_concat]
    simp [Event.isClear, Event.touched?]
  · have distinct : (other, kept) ∈ touch store.entries key value := List.mem_of_mem_drop member
    rcases List.mem_append.mp distinct with old | new
    · obtain ⟨old, different⟩ := List.mem_filter.mp old
      refine (tracks.latest other kept old).concat rfl fun _ same => ?_
      cases same
      simp at different
    · rw [List.mem_singleton, Prod.mk.injEq] at new
      obtain ⟨rfl, rfl⟩ := new
      exact latestPut_put events other kept
  · rw [sinceClear_concat]
    simp [Event.isClear, Event.isHit, Lru.put, tracks.hits]
  · rw [sinceClear_concat]
    simp [Event.isClear, Event.isMiss, Lru.put, tracks.misses]

theorem clear (tracks : Tracks capacity store events) :
    Tracks capacity store.clear (events ++ [.clear]) := by
  have since : sinceClear (events ++ [.clear]) = [] := by
    rw [sinceClear_concat]
    rfl
  refine ⟨tracks.limit, ?_, fun key value member => ?_, ?_, ?_⟩
  · rw [touchedKeys, since]
    simp [Lru.clear, Lru.keys]
  · cases member
  · rw [since]
    rfl
  · rw [since]
    rfl

theorem perform (tracks : Tracks capacity store events) (command : Command α) :
    Tracks capacity (command.perform store).2 (events ++ [(command.perform store).1]) := by
  cases command with
  | get key =>
    cases found : store.find? key with
    | some value =>
      have step := tracks.hit found
      rw [get_of_found found] at step
      simp only [Command.perform, get_of_found found]
      exact step
    | none =>
      simp only [Command.perform, get_of_missing found]
      exact tracks.untouched ⟨rfl, rfl⟩ rfl rfl rfl rfl
  | put key value => exact tracks.put key value
  | clear => exact tracks.clear
  | contains key =>
    exact tracks.untouched ⟨rfl, rfl⟩ rfl rfl rfl rfl
  | size => exact tracks.untouched ⟨rfl, rfl⟩ rfl rfl rfl rfl
  | stats => exact tracks.untouched ⟨rfl, rfl⟩ rfl rfl rfl rfl

theorem run (tracks : Tracks capacity store events) (commands : List (Command α)) :
    Tracks capacity (store.run commands).2 (events ++ (store.run commands).1) := by
  induction commands generalizing store events with
  | nil =>
    rw [Lru.run, List.append_nil]
    exact tracks
  | cons command rest ih =>
    have later := ih (tracks.perform command)
    rw [List.append_assoc] at later
    exact later

end Tracks

theorem mem_rtake_append_cons {front later : List String} {key : String} {count : Nat}
    (last : key ∉ later) : key ∈ (front ++ key :: later).rtake count ↔ later.length < count := by
  have total : (front ++ key :: later).length = front.length + (later.length + 1) := by simp
  rw [List.rtake, total]
  by_cases few : later.length < count
  · have within : front.length + (later.length + 1) - count ≤ front.length := by omega
    rw [List.drop_append_of_le_length within]
    simp [few]
  · have beyond : front.length + (later.length + 1) - count =
        front.length + (1 + (later.length - count)) := by omega
    rw [beyond, ← List.drop_drop, List.drop_left, ← List.drop_drop, List.drop_one, List.tail_cons]
    simp only [few, iff_false]
    exact fun member => last (List.mem_of_mem_drop member)

theorem mem_rtake_dedup_iff (capacity : Nat) (touched : List String) (key : String) :
    key ∈ touched.dedup.rtake capacity ↔ StillRecent capacity touched key := by
  have split {before after : List String} (last : key ∉ after) :
      key ∈ (before ++ key :: after).dedup.rtake capacity ↔ after.dedup.length < capacity := by
    have fresh : key ∉ after.dedup := fun member => last (List.mem_dedup.mp member)
    obtain ⟨front, whole⟩ : (key :: after).dedup <:+ (before ++ key :: after).dedup := by
      rw [List.dedup_append]
      exact List.suffix_union_right _ _
    rw [← whole, List.dedup_cons_of_notMem last]
    exact mem_rtake_append_cons fresh
  constructor
  · intro member
    have among : key ∈ touched := List.mem_dedup.mp (List.mem_of_mem_drop member)
    obtain ⟨after, before, reversed, last⟩ :=
      List.eq_append_cons_of_mem (List.mem_reverse.mpr among)
    have whole : touched = before.reverse ++ key :: after.reverse := by
      rw [← List.reverse_reverse touched, reversed]
      simp
    have absent : key ∉ after.reverse := by simpa using last
    rw [whole] at member
    exact ⟨_, _, whole, absent, (split absent).mp member⟩
  · rintro ⟨before, after, rfl, last, few⟩
    exact (split last).mpr few

theorem isSome_get_iff (store : Lru α) (key : String) :
    (store.get key).1.isSome = true ↔ key ∈ store.keys := by
  rw [get_fst, find?, Option.isSome_map, List.find?_isSome, keys, List.mem_map]
  constructor
  · rintro ⟨entry, member, same⟩
    exact ⟨entry, member, by simpa using same⟩
  · rintro ⟨entry, member, same⟩
    exact ⟨entry, member, by simpa using same⟩

theorem Tracks.mostRecent {capacity : Nat} {store : Lru α} {events : List (Event α)}
    (tracks : Tracks capacity store events) : MostRecent capacity store events := by
  have recent (key : String) :
      key ∈ store.keys ↔ StillRecent capacity (touchedKeys events) key := by
    rw [tracks.keys]
    exact mem_rtake_dedup_iff capacity (touchedKeys events) key
  have size_eq : store.size = store.keys.length := (List.length_map _).symm
  refine ⟨tracks.keys, ?_, ?_, fun key => ?_, fun key value found => ?_, fun key => ?_, ?_⟩
  · rw [tracks.keys]
    exact (List.nodup_dedup _).sublist (List.drop_sublist _ _)
  · rw [size_eq, tracks.keys, List.rtake, List.length_drop]
    omega
  · rw [isSome_get_iff, recent]
  · rw [get_fst] at found
    exact tracks.latest key value (mem_of_find found)
  · rw [contains, List.contains_iff_mem, recent]
  · rw [stats, tracks.limit, tracks.hits, tracks.misses]

theorem run_filter_asks (store : Lru α) (commands : List (Command α)) :
    (store.run (commands.filter fun command => !command.asks)).2 = (store.run commands).2 := by
  induction commands generalizing store with
  | nil => rfl
  | cons command rest ih =>
    cases command with
    | get key => exact ih _
    | put key value => exact ih _
    | clear => exact ih _
    | contains key => exact ih store
    | size => exact ih store
    | stats => exact ih store

/-- Whatever is asked of it, a store holds the keys touched last, as many as it has room for, each
    with its latest value. Questions leave it as it is. -/
theorem run_keeps_most_recent (α : Type) (capacity : Int) (positive : 1 ≤ capacity) :
    ∃ start : Lru α, ofCapacity capacity = .ok start ∧ ∀ commands,
      MostRecent capacity.toNat (start.run commands).2 (start.run commands).1 ∧
      (start.run (commands.filter fun command => !command.asks)).2 = (start.run commands).2 := by
  have room : 0 < capacity.toNat := by omega
  let start : Lru α := { capacity := capacity.toNat, capacity_pos := room }
  have created : ofCapacity capacity = .ok start := dif_pos room
  have tracks : Tracks capacity.toNat start [] := by
    refine ⟨rfl, ?_, fun key value member => ?_, rfl, rfl⟩
    · simp [start, keys, touchedKeys, sinceClear]
    · cases member
  exact ⟨start, created, fun commands =>
    ⟨(tracks.run commands).mostRecent, run_filter_asks start commands⟩⟩

theorem run_keeps_most_recent_of_two :
    let commands : List (Command Nat) :=
      [.put "1d6" 1, .clear, .put "2d6" 2, .put "3d6" 3, .get "2d6", .stats, .put "4d6" 4,
        .get "3d6", .put "2d6" 5]
    ∃ start : Lru Nat, ofCapacity 2 = .ok start ∧
      (start.run commands).2.keys = ["4d6", "2d6"] ∧
      ((start.run commands).2.get "2d6").1 = some 5 ∧
      (start.run commands).2.stats = ⟨2, 2, 1, 1⟩ ∧
      touchedKeys (start.run commands).1 = ["2d6", "3d6", "2d6", "4d6", "2d6"] ∧
      MostRecent 2 (start.run commands).2 (start.run commands).1 := by
  intro commands
  obtain ⟨start, created, keeps⟩ := run_keeps_most_recent Nat 2 (by decide)
  have same : start = { capacity := 2, capacity_pos := by decide } := by
    cases created
    rfl
  subst same
  exact ⟨_, created, by decide +kernel, by decide +kernel, by decide +kernel, by decide +kernel,
    (keeps commands).1⟩

end DiceFormula.Lru
