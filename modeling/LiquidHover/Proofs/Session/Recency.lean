/-
**The order of recency.** The cache is a list with the latest hover first. It holds what any bounded map
holds that keeps its entries by recency: putting an entry makes it the latest and, in a full map, drops the
oldest; looking at an entry changes nothing.

* `Cache.Operation`, `Cache.act`, `Cache.perform` — all that can be done to a cache.
* `Cache.Tidy` — the invariant of every cache: no more hovers than the capacity admits, and one for each
  key. It is kept by every operation (`Tidy.act`).
* `RecencyMap` — a map by recency, with what its operations promise.
* `RecencyMap.forget`, `RecencyMap.perform` — a cache on top of it. A document is forgotten by popping its
  keys one after another.
* `RecencyMap.Holds` — a map with the entries of a cache in the same order. It is kept by every operation
  (`Holds.act`), and so the two agree after all operations (`holds_perform`).
* `Cache.recencyMap` — the caches that keep their bounds are such a map.
-/
import LiquidHover.Session.Cache
import Mathlib.Data.List.Basic
import Mathlib.Data.List.Induction

namespace LiquidHover

/-! ### Keys of an insertion -/

namespace Keyed

variable {κ α : Type} [DecidableEq κ] {key : κ} {entries : List (κ × α)} {room : Nat}

theorem mem_keys_cons_erase {other : κ} {value : α} :
    other ∈ ((key, value) :: erase key entries).map Prod.fst ↔
      other = key ∨ other ∈ entries.map Prod.fst := by
  by_cases same : other = key
  · simp [same]
  · simp [erase, same]

/-- A pair in front of the pairs with other keys brings no key twice. -/
theorem nodup_keys_cons_erase (distinct : (entries.map Prod.fst).Nodup) (key : κ) (value : α) :
    (((key, value) :: erase key entries).map Prod.fst).Nodup := by
  have others : key ∉ (erase key entries).map Prod.fst := by simp [erase]
  exact List.nodup_cons.mpr ⟨others, distinct.sublist (List.filter_sublist.map Prod.fst)⟩

theorem take_cons_erase_of_mem (known : key ∈ entries.map Prod.fst) (bounded : entries.length ≤ room)
    (value : α) :
    ((key, value) :: erase key entries).take room = (key, value) :: erase key entries := by
  obtain ⟨entry, member, same⟩ := List.mem_map.mp known
  have fewer : (erase key entries).length < entries.length :=
    List.length_filter_lt_length_iff_exists.mpr ⟨entry, member, by simp [same]⟩
  exact List.take_of_length_le (Nat.lt_of_lt_of_le fewer bounded)

theorem erase_of_not_mem (unknown : key ∉ entries.map Prod.fst) : erase key entries = entries := by
  refine List.filter_eq_self.mpr fun entry member => decide_eq_true ?_
  rintro rfl
  exact unknown (List.mem_map_of_mem member)

theorem take_cons_erase_of_room (unknown : key ∉ entries.map Prod.fst) (less : entries.length < room)
    (value : α) : ((key, value) :: erase key entries).take room = (key, value) :: entries := by
  rw [erase_of_not_mem unknown]
  exact List.take_of_length_le less

theorem take_cons_erase_of_full (unknown : key ∉ entries.map Prod.fst) (full : entries.length = room)
    (roomy : 1 ≤ room) (value : α) :
    ((key, value) :: erase key entries).take room = (key, value) :: entries.dropLast := by
  obtain ⟨others, rfl⟩ := Nat.exists_eq_add_of_le' roomy
  rw [erase_of_not_mem unknown, List.take_succ_cons, List.dropLast_eq_take, full]
  rfl

end Keyed

namespace Cache

/-! ### What can be done to a cache -/

/-- Something that is done to a cache. -/
inductive Operation where
  | insert (key : CacheKey) (hover : PlacedHover)
  /-- A hover is looked up, which leaves the cache as it is. -/
  | get (key : CacheKey)
  | forget (uri : String)
  | clear

/-- The cache after an operation. -/
def act (cache : Cache) : Operation → Cache
  | .insert key hover => cache.insert key hover
  | .get _ => cache
  | .forget uri => cache.forget uri
  | .clear => cache.clear

/-- The cache after a row of operations. -/
def perform (cache : Cache) (operations : List Operation) : Cache := operations.foldl act cache

theorem perform_append (cache : Cache) (operations others : List Operation) :
    cache.perform (operations ++ others) = (cache.perform operations).perform others :=
  List.foldl_append

theorem perform_append_singleton (cache : Cache) (operations : List Operation) (last : Operation) :
    cache.perform (operations ++ [last]) = (cache.perform operations).act last :=
  perform_append cache operations [last]

@[simp] theorem capacity_act (cache : Cache) (operation : Operation) :
    (cache.act operation).capacity = cache.capacity := by
  cases operation <;> rfl

@[simp] theorem capacity_perform (cache : Cache) (operations : List Operation) :
    (cache.perform operations).capacity = cache.capacity := by
  induction operations using List.reverseRecOn with
  | nil => rfl
  | append_singleton operations last ih => rw [perform_append_singleton, capacity_act, ih]

/-! ### The invariant of every cache -/

/-- A cache with no more hovers than its capacity admits and at most one for each key. -/
structure Tidy (cache : Cache) : Prop where
  bounded : cache.size ≤ cache.capacity
  distinct : (cache.entries.map Prod.fst).Nodup

/-- A cache keeps the invariant when it loses hovers. -/
theorem Tidy.sublist {cache fewer : Cache} (tidy : cache.Tidy)
    (capacity : fewer.capacity = cache.capacity)
    (sublist : fewer.entries.Sublist cache.entries) : fewer.Tidy where
  bounded := capacity ▸ Nat.le_trans sublist.length_le tidy.bounded
  distinct := tidy.distinct.sublist (sublist.map Prod.fst)

/-- **Every operation keeps the invariant.** -/
theorem Tidy.act {cache : Cache} (tidy : cache.Tidy) (operation : Operation) :
    (cache.act operation).Tidy := by
  cases operation with
  | insert key hover =>
    have distinct := Keyed.nodup_keys_cons_erase tidy.distinct key hover
    exact ⟨size_insert_le cache key hover,
      distinct.sublist ((List.take_sublist _ _).map Prod.fst)⟩
  | get => exact tidy
  | forget => exact tidy.sublist rfl List.filter_sublist
  | clear => exact tidy.sublist rfl (List.nil_sublist _)

theorem Tidy.perform {cache : Cache} (tidy : cache.Tidy) (operations : List Operation) :
    (cache.perform operations).Tidy := by
  induction operations using List.reverseRecOn with
  | nil => exact tidy
  | append_singleton operations last ih =>
    rw [perform_append_singleton]
    exact ih.act last

theorem tidy_empty (capacity : Nat) : Tidy { capacity } := ⟨Nat.zero_le _, List.nodup_nil⟩

end Cache

/-! ### Maps by recency -/

/-- A bounded map that keeps its entries by recency, and what its operations promise. -/
structure RecencyMap (State : Type) where
  empty : Nat → State
  capacity : State → Nat
  /-- The entries, from the one that was put last to the one that was put first. -/
  entries : State → List (CacheKey × PlacedHover)
  peek : State → CacheKey → Option PlacedHover
  put : State → CacheKey → PlacedHover → State
  pop : State → CacheKey → State
  clear : State → State
  size_le (state : State) : (entries state).length ≤ capacity state
  entries_empty (room : Nat) : entries (empty room) = []
  capacity_empty (room : Nat) : capacity (empty room) = room
  peek_eq (state : State) (key : CacheKey) : peek state key = (entries state).lookup key
  /-- Putting a known key replaces its entry and makes it the latest. -/
  entries_put_known {state : State} {key : CacheKey} (hover : PlacedHover) :
    key ∈ (entries state).map Prod.fst →
      entries (put state key hover) = (key, hover) :: Keyed.erase key (entries state)
  /-- A new key takes up room as long as there is some. -/
  entries_put_room {state : State} {key : CacheKey} (hover : PlacedHover) :
    key ∉ (entries state).map Prod.fst → (entries state).length < capacity state →
      entries (put state key hover) = (key, hover) :: entries state
  /-- In a full map a new key takes the place of the oldest. -/
  entries_put_full {state : State} {key : CacheKey} (hover : PlacedHover) :
    key ∉ (entries state).map Prod.fst → (entries state).length = capacity state →
      1 ≤ capacity state → entries (put state key hover) = (key, hover) :: (entries state).dropLast
  capacity_put (state : State) (key : CacheKey) (hover : PlacedHover) :
    capacity (put state key hover) = capacity state
  entries_pop (state : State) (key : CacheKey) :
    entries (pop state key) = Keyed.erase key (entries state)
  capacity_pop (state : State) (key : CacheKey) : capacity (pop state key) = capacity state
  entries_clear (state : State) : entries (clear state) = []
  capacity_clear (state : State) : capacity (clear state) = capacity state

namespace RecencyMap

variable {State : Type} (map : RecencyMap State)

/-- The map without the entries of a document, which are popped one after another. -/
def forget (state : State) (uri : String) : State :=
  (((map.entries state).filter (·.1.uri = uri)).map Prod.fst).foldl map.pop state

/-- The map after an operation. -/
def act (state : State) : Cache.Operation → State
  | .insert key hover => map.put state key hover
  | .get _ => state
  | .forget uri => map.forget state uri
  | .clear => map.clear state

/-- The map after a row of operations. -/
def perform (state : State) (operations : List Cache.Operation) : State :=
  operations.foldl map.act state

/-! ### One operation -/

/-- **Putting an entry is adding it in front and cutting the rest off at the capacity.** -/
theorem entries_put {state : State} (roomy : 1 ≤ map.capacity state) (key : CacheKey)
    (hover : PlacedHover) :
    map.entries (map.put state key hover) =
      ((key, hover) :: Keyed.erase key (map.entries state)).take (map.capacity state) := by
  have bounded := map.size_le state
  by_cases known : key ∈ (map.entries state).map Prod.fst
  · rw [map.entries_put_known hover known, Keyed.take_cons_erase_of_mem known bounded]
  · rcases Nat.lt_or_eq_of_le bounded with room | full
    · rw [map.entries_put_room hover known room, Keyed.take_cons_erase_of_room known room]
    · rw [map.entries_put_full hover known full roomy,
        Keyed.take_cons_erase_of_full known full roomy]

theorem entries_foldl_pop (keys : List CacheKey) (state : State) :
    map.entries (keys.foldl map.pop state) = (map.entries state).filter (·.1 ∉ keys) := by
  induction keys generalizing state with
  | nil => simp
  | cons key keys ih =>
    rw [List.foldl_cons, ih, map.entries_pop, Keyed.erase, List.filter_filter]
    refine List.filter_congr fun entry _ => ?_
    simp [Bool.and_comm]

theorem capacity_foldl_pop (keys : List CacheKey) (state : State) :
    map.capacity (keys.foldl map.pop state) = map.capacity state := by
  induction keys generalizing state with
  | nil => rfl
  | cons key keys ih => rw [List.foldl_cons, ih, map.capacity_pop]

/-- **Popping all keys of a document leaves the entries of the others.** -/
theorem entries_forget (state : State) (uri : String) :
    map.entries (map.forget state uri) = (map.entries state).filter (·.1.uri ≠ uri) := by
  rw [forget, entries_foldl_pop]
  refine List.filter_congr fun entry member => decide_eq_decide.mpr (not_congr ?_)
  constructor
  · intro popped
    obtain ⟨other, among, same⟩ := List.mem_map.mp popped
    rw [← same]
    exact of_decide_eq_true (List.mem_filter.mp among).2
  · intro same
    exact List.mem_map_of_mem (List.mem_filter.mpr ⟨member, decide_eq_true same⟩)

/-! ### All operations -/

/-- A map that has the capacity of a cache, and its entries in the same order. -/
structure Holds (state : State) (cache : Cache) : Prop where
  capacity : map.capacity state = cache.capacity
  entries : map.entries state = cache.entries

variable {map}

theorem Holds.peek {state : State} {cache : Cache} (holds : map.Holds state cache) (key : CacheKey) :
    map.peek state key = cache.get? key := by
  rw [map.peek_eq, holds.entries]
  rfl

/-- **Every operation does the same to map and cache.** -/
theorem Holds.act {state : State} {cache : Cache} (holds : map.Holds state cache)
    (roomy : 1 ≤ cache.capacity) (operation : Cache.Operation) :
    map.Holds (map.act state operation) (cache.act operation) := by
  cases operation with
  | insert key hover =>
    refine ⟨(map.capacity_put ..).trans holds.capacity, ?_⟩
    show map.entries (map.put state key hover) = (cache.insert key hover).entries
    rw [map.entries_put (holds.capacity.symm ▸ roomy), holds.entries, holds.capacity]
    rfl
  | get => exact holds
  | forget uri =>
    refine ⟨(map.capacity_foldl_pop ..).trans holds.capacity, ?_⟩
    show map.entries (map.forget state uri) = (cache.forget uri).entries
    rw [map.entries_forget, holds.entries]
    rfl
  | clear => exact ⟨(map.capacity_clear state).trans holds.capacity, map.entries_clear state⟩

theorem Holds.perform {state : State} {cache : Cache} (holds : map.Holds state cache)
    (roomy : 1 ≤ cache.capacity) (operations : List Cache.Operation) :
    map.Holds (map.perform state operations) (cache.perform operations) := by
  induction operations generalizing state cache with
  | nil => exact holds
  | cons first operations ih =>
    exact ih (holds.act roomy first) ((Cache.capacity_act cache first).symm ▸ roomy)

variable (map)

/-- **The cache is any map that keeps its entries by recency**: after all operations on an empty one, the
same hovers stand in both in the same order. -/
theorem holds_perform {capacity : Nat} (roomy : 1 ≤ capacity) (operations : List Cache.Operation) :
    map.Holds (map.perform (map.empty capacity) operations)
      (Cache.perform { capacity } operations) := by
  have start : map.Holds (map.empty capacity) { capacity } :=
    ⟨map.capacity_empty capacity, map.entries_empty capacity⟩
  exact start.perform roomy operations

end RecencyMap

/-- The caches that keep their bounds, as maps that keep their entries by recency. -/
def Cache.recencyMap : RecencyMap { cache : Cache // cache.Tidy } where
  empty capacity := ⟨{ capacity }, tidy_empty capacity⟩
  capacity cache := cache.1.capacity
  entries cache := cache.1.entries
  peek cache key := cache.1.get? key
  put cache key hover := ⟨cache.1.insert key hover, cache.2.act (.insert key hover)⟩
  pop cache key :=
    ⟨{ cache.1 with entries := Keyed.erase key cache.1.entries },
      cache.2.sublist rfl List.filter_sublist⟩
  clear cache := ⟨cache.1.clear, cache.2.act .clear⟩
  size_le cache := cache.2.bounded
  entries_empty _ := rfl
  capacity_empty _ := rfl
  peek_eq _ _ := rfl
  entries_put_known {cache _} hover known :=
    Keyed.take_cons_erase_of_mem known cache.2.bounded hover
  entries_put_room hover unknown room := Keyed.take_cons_erase_of_room unknown room hover
  entries_put_full hover unknown full roomy := Keyed.take_cons_erase_of_full unknown full roomy hover
  capacity_put _ _ _ := rfl
  entries_pop _ _ := rfl
  capacity_pop _ _ := rfl
  entries_clear _ := rfl
  capacity_clear _ := rfl

end LiquidHover
