/-
**What the cache keeps.** A hover stays in the cache until hovers were inserted under as many other keys
as the cache has room for, and is gone from then on. Looking hovers up changes nothing about that, and
inserting one key again counts once.

* `Cache.insertedKeys` — the keys under which a row of operations inserts hovers.
* `entries_insert_of_split` — what an insertion does in front of another hover and behind it.
* `Cache.Keeps` — in front of a hover stand keys that were inserted since at most. It is kept as long as
  there is room for all of them (`Keeps.act`).
* `Cache.Ages` — in front of a hover stand all keys that were inserted since, or it is gone. It is kept as
  long as nothing is removed (`Ages.insert`).
* `retention_and_eviction` — the hover that was inserted last under a key is found, or not found, by the
  number of other keys since.
-/
import LiquidHover.Proofs.Session.Recency
import LiquidHover.Proofs.Session.Transparency
import Mathlib.Data.Finset.Card

namespace LiquidHover

namespace Cache

/-! ### What operations insert and remove -/

/-- The key under which an operation inserts a hover. -/
def Operation.inserted? : Operation → Option CacheKey
  | .insert key _ => some key
  | .get _ | .forget _ | .clear => none

/-- Whether an operation removes the hovers of a document. -/
def Operation.drops (uri : String) : Operation → Bool
  | .forget other => other == uri
  | .clear => true
  | .insert _ _ | .get _ => false

/-- Whether an operation removes the hovers of any document. -/
def Operation.removes : Operation → Bool
  | .forget _ | .clear => true
  | .insert _ _ | .get _ => false

/-- The keys under which a row of operations inserts hovers. -/
def insertedKeys (operations : List Operation) : Finset CacheKey :=
  (operations.filterMap Operation.inserted?).toFinset

theorem mem_insertedKeys {operations : List Operation} {key : CacheKey} :
    key ∈ insertedKeys operations ↔ ∃ operation ∈ operations, operation.inserted? = some key := by
  simp [insertedKeys]

theorem insertedKeys_append_insert (operations : List Operation) (key : CacheKey)
    (hover : PlacedHover) :
    insertedKeys (operations ++ [.insert key hover]) = Insert.insert key (insertedKeys operations) := by
  ext other
  simp [insertedKeys, Operation.inserted?, eq_comm]

theorem insertedKeys_append_get (operations : List Operation) (key : CacheKey) :
    insertedKeys (operations ++ [.get key]) = insertedKeys operations := by
  rw [insertedKeys, List.filterMap_append, List.filterMap_cons_none rfl, List.filterMap_nil,
    List.append_nil, insertedKeys]

/-! ### One insertion -/

/-- **An insertion under another key.** It goes in front of everything; behind it, the hovers that stood
in front of a hover and those that stood behind it stay there. -/
theorem entries_insert_of_split {cache : Cache} {kept : CacheKey × PlacedHover}
    {newer older : List (CacheKey × PlacedHover)} (split : cache.entries = newer ++ kept :: older)
    {key : CacheKey} (different : key ≠ kept.1) (hover : PlacedHover) :
    (cache.insert key hover).entries =
      (((key, hover) :: Keyed.erase key newer) ++ kept :: Keyed.erase key older).take
        cache.capacity := by
  have stays : Keyed.erase key (kept :: older) = kept :: Keyed.erase key older :=
    List.filter_cons_of_pos (by simpa using different.symm)
  have apart : Keyed.erase key (newer ++ kept :: older) =
      Keyed.erase key newer ++ kept :: Keyed.erase key older := by
    rw [← stays]
    exact List.filter_append ..
  rw [insert, split, apart]
  rfl

/-- While there is room for what stands in front of a hover, the hover stays. -/
theorem take_append_cons {entry : CacheKey × PlacedHover}
    {newer : List (CacheKey × PlacedHover)} {room : Nat} (fits : newer.length < room)
    (older : List (CacheKey × PlacedHover)) :
    (newer ++ entry :: older).take room = newer ++ entry :: older.take (room - newer.length - 1) := by
  obtain ⟨more, rfl⟩ := Nat.exists_eq_add_of_lt fits
  rw [Nat.add_assoc, List.take_length_add_append, List.take_succ_cons]
  congr 3
  omega

/-! ### Kept hovers -/

/-- A hover that is in a cache, with hovers under certain keys at most in front of it. -/
def Keeps (cache : Cache) (keys : Finset CacheKey) (entry : CacheKey × PlacedHover) : Prop :=
  ∃ newer older, cache.entries = newer ++ entry :: older ∧ ∀ key ∈ newer.map Prod.fst, key ∈ keys

/-- Hovers under different keys are no more than the keys among which theirs are. -/
theorem length_le_card {entries : List (CacheKey × PlacedHover)} {keys : Finset CacheKey}
    (distinct : (entries.map Prod.fst).Nodup) (among : ∀ key ∈ entries.map Prod.fst, key ∈ keys) :
    entries.length ≤ keys.card := by
  calc entries.length = (entries.map Prod.fst).toFinset.card := by
        rw [List.toFinset_card_of_nodup distinct, List.length_map]
    _ ≤ keys.card := Finset.card_le_card fun key member => among key (List.mem_toFinset.mp member)

/-- **One operation keeps a hover** when it does not remove the hovers of its document and there is room for
all keys that may come in front. -/
theorem Keeps.act {cache : Cache} {keys : Finset CacheKey} {entry : CacheKey × PlacedHover}
    (keeps : cache.Keeps keys entry) (tidy : cache.Tidy) (few : keys.card < cache.capacity)
    {operation : Operation} (other : operation.inserted? ≠ some entry.1)
    (counted : ∀ key, operation.inserted? = some key → key ∈ keys)
    (undropped : operation.drops entry.1.uri = false) : (cache.act operation).Keeps keys entry := by
  obtain ⟨newer, older, split, among⟩ := keeps
  cases operation with
  | insert key hover =>
    have different : key ≠ entry.1 := fun same => other (congrArg some same)
    have among' : ∀ front ∈ ((key, hover) :: Keyed.erase key newer).map Prod.fst, front ∈ keys := by
      intro front member
      rcases Keyed.mem_keys_cons_erase.mp member with rfl | earlier
      · exact counted front rfl
      · exact among front earlier
    have distinct : (newer.map Prod.fst).Nodup :=
      tidy.distinct.sublist ((split ▸ List.sublist_append_left newer _).map Prod.fst)
    have fits : ((key, hover) :: Keyed.erase key newer).length < cache.capacity :=
      (length_le_card (Keyed.nodup_keys_cons_erase distinct key hover) among').trans_lt few
    have whole := entries_insert_of_split split different hover
    exact ⟨_, _, whole.trans (take_append_cons fits _), among'⟩
  | get => exact ⟨newer, older, split, among⟩
  | forget uri =>
    have kept : entry.1.uri ≠ uri := fun same => by simp [Operation.drops, same] at undropped
    refine ⟨newer.filter (·.1.uri ≠ uri), older.filter (·.1.uri ≠ uri), ?_, ?_⟩
    · show cache.entries.filter _ = _
      rw [split, List.filter_append, List.filter_cons_of_pos (by simpa using kept)]
    · exact fun key member => among key ((List.filter_sublist.map Prod.fst).subset member)
  | clear => cases undropped

theorem Keeps.perform {cache : Cache} {keys : Finset CacheKey} {entry : CacheKey × PlacedHover}
    (keeps : cache.Keeps keys entry) (tidy : cache.Tidy) (few : keys.card < cache.capacity)
    {operations : List Operation}
    (others : ∀ operation ∈ operations, operation.inserted? ≠ some entry.1)
    (counted : ∀ operation ∈ operations, ∀ key, operation.inserted? = some key → key ∈ keys)
    (undropped : ∀ operation ∈ operations, operation.drops entry.1.uri = false) :
    (cache.perform operations).Keeps keys entry := by
  induction operations generalizing cache with
  | nil => exact keeps
  | cons first operations ih =>
    obtain ⟨other, others⟩ := List.forall_mem_cons.mp others
    obtain ⟨counted, later⟩ := List.forall_mem_cons.mp counted
    obtain ⟨undropped, undropped'⟩ := List.forall_mem_cons.mp undropped
    exact ih (keeps.act tidy few other counted undropped) (tidy.act first) (by simpa using few) others
      later undropped'

/-- A hover is found when no other hover under its key stands in front of it. -/
theorem Keeps.get? {cache : Cache} {keys : Finset CacheKey} {key : CacheKey} {hover : PlacedHover}
    (keeps : cache.Keeps keys (key, hover)) (fresh : key ∉ keys) : cache.get? key = some hover := by
  obtain ⟨newer, older, split, among⟩ := keeps
  refine List.lookup_eq_some_iff.mpr ⟨newer, older, split, fun entry member => ?_⟩
  refine bne_iff_ne.mpr ?_
  rintro rfl
  exact fresh (among _ (List.mem_map_of_mem member))

/-! ### Hovers that go -/

/-- A hover that a cache does not have, or that has hovers under certain keys at least in front of it. -/
def Ages (cache : Cache) (keys : Finset CacheKey) (entry : CacheKey × PlacedHover) : Prop :=
  entry.1 ∉ cache.entries.map Prod.fst ∨
    ∃ newer older, cache.entries = newer ++ entry :: older ∧ ∀ key ∈ keys, key ∈ newer.map Prod.fst

/-- **An insertion under another key** comes in front of a hover, if it does not push it out. -/
theorem Ages.insert {cache : Cache} {keys : Finset CacheKey} {entry : CacheKey × PlacedHover}
    (ages : cache.Ages keys entry) (tidy : cache.Tidy) {key : CacheKey} (different : key ≠ entry.1)
    (hover : PlacedHover) : (cache.insert key hover).Ages (Insert.insert key keys) entry := by
  rcases ages with gone | ⟨newer, older, split, all⟩
  · refine Or.inl fun member => ?_
    obtain ⟨found, among, same⟩ := List.mem_map.mp member
    rcases mem_of_mem_insert among with rfl | old
    · exact different same
    · exact gone (same ▸ List.mem_map_of_mem old)
  · have whole := entries_insert_of_split split different hover
    by_cases fits : ((key, hover) :: Keyed.erase key newer).length < cache.capacity
    · refine Or.inr ⟨_, _, whole.trans (take_append_cons fits _), fun other member => ?_⟩
      refine Keyed.mem_keys_cons_erase.mpr ?_
      exact (Finset.mem_insert.mp member).imp_right (all other)
    · -- What is in front takes all the room.
      rw [List.take_append_of_le_length (Nat.le_of_not_lt fits)] at whole
      refine Or.inl fun member => ?_
      rw [whole] at member
      have front := ((List.take_sublist _ _).map Prod.fst).subset member
      rcases Keyed.mem_keys_cons_erase.mp front with same | twice
      · exact different same.symm
      · have distinct := tidy.distinct
        rw [split, List.map_append, List.map_cons] at distinct
        exact (List.nodup_append.mp distinct).2.2 _ twice _ List.mem_cons_self rfl

/-- **Without removals, all keys that are inserted come in front of a hover**, until it is gone. -/
theorem Ages.perform {cache : Cache} {entry : CacheKey × PlacedHover} (ages : cache.Ages ∅ entry)
    (tidy : cache.Tidy) {operations : List Operation} (fresh : entry.1 ∉ insertedKeys operations)
    (unremoved : ∀ operation ∈ operations, operation.removes = false) :
    (cache.perform operations).Ages (insertedKeys operations) entry := by
  induction operations using List.reverseRecOn with
  | nil => exact ages
  | append_singleton operations last ih =>
    have unremoved' := List.forall_mem_append.mp unremoved
    rw [perform_append_singleton]
    cases last with
    | insert key hover =>
      rw [insertedKeys_append_insert, Finset.mem_insert, not_or] at fresh
      rw [insertedKeys_append_insert]
      exact (ih fresh.2 unremoved'.1).insert (tidy.perform operations) (Ne.symm fresh.1) hover
    | get key =>
      rw [insertedKeys_append_get] at fresh ⊢
      exact ih fresh unremoved'.1
    | forget | clear => cases unremoved'.2 _ List.mem_cons_self

/-- When as many keys are in front as there is room, the hover is gone. -/
theorem Ages.get?_eq_none {cache : Cache} {keys : Finset CacheKey} {entry : CacheKey × PlacedHover}
    (ages : cache.Ages keys entry) (tidy : cache.Tidy) (many : cache.capacity ≤ keys.card) :
    cache.get? entry.1 = none := by
  refine Keyed.lookup_eq_none_iff.mpr ?_
  rcases ages with gone | ⟨newer, older, split, all⟩
  · exact gone
  · have front : keys.card ≤ newer.length := by
      calc keys.card ≤ (newer.map Prod.fst).toFinset.card :=
            Finset.card_le_card fun key member => List.mem_toFinset.mpr (all key member)
        _ ≤ (newer.map Prod.fst).length := List.toFinset_card_le _
        _ = newer.length := List.length_map _
    have bounded : cache.entries.length ≤ cache.capacity := tidy.bounded
    rw [split, List.length_append, List.length_cons] at bounded
    omega

/-! ### All operations -/

/-- A hover that was just inserted stands in front of all others. -/
theorem exists_entries_insert {cache : Cache} (roomy : 1 ≤ cache.capacity) (key : CacheKey)
    (hover : PlacedHover) : ∃ older, (cache.insert key hover).entries = (key, hover) :: older := by
  obtain ⟨more, larger⟩ := Nat.exists_eq_add_of_le' roomy
  exact ⟨_, by rw [insert, larger, List.take_succ_cons]⟩

section

variable {cache : Cache} (tidy : cache.Tidy) (roomy : 1 ≤ cache.capacity) {key : CacheKey}
  {hover : PlacedHover} {since : List Operation} (last : key ∉ insertedKeys since)

include tidy roomy last

/-- **Retention.** While there is room for the other keys, the hover that was inserted last is found. -/
theorem get?_perform_insert_of_few (undropped : ∀ operation ∈ since, operation.drops key.uri = false)
    (few : (insertedKeys since).card < cache.capacity) :
    ((cache.insert key hover).perform since).get? key = some hover := by
  obtain ⟨older, first⟩ := exists_entries_insert roomy key hover
  have keeps : (cache.insert key hover).Keeps (insertedKeys since) (key, hover) :=
    ⟨[], older, first, by simp⟩
  refine (keeps.perform (tidy.act (.insert key hover)) few ?_ ?_ undropped).get? last
  · exact fun operation member same => last (mem_insertedKeys.mpr ⟨operation, member, same⟩)
  · exact fun operation member key same => mem_insertedKeys.mpr ⟨operation, member, same⟩

/-- **Eviction.** When the other keys take all the room, nothing is found any more. -/
theorem get?_perform_insert_of_many (unremoved : ∀ operation ∈ since, operation.removes = false)
    (many : cache.capacity ≤ (insertedKeys since).card) :
    ((cache.insert key hover).perform since).get? key = none := by
  obtain ⟨older, first⟩ := exists_entries_insert roomy key hover
  have tidy' : (cache.insert key hover).Tidy := tidy.act (.insert key hover)
  have ages : (cache.insert key hover).Ages ∅ (key, hover) := Or.inr ⟨[], older, first, by simp⟩
  have full : ((cache.insert key hover).perform since).capacity ≤ (insertedKeys since).card :=
    (capacity_perform _ since).trans_le many
  exact (ages.perform tidy' last unremoved).get?_eq_none (tidy'.perform since) full

end

/-- **Retention and eviction.** A cache on a map that keeps its entries by recency holds the hovers of this
cache, in the same order. With room for at least one hover, after all operations: there are no more hovers
than the capacity admits, and no key occurs twice. The hover that was inserted last under a key is found if
since then its document was not forgotten, the cache was not cleared and fewer other keys than the capacity
were inserted; if nothing at all was removed and at least as many other keys as the capacity were inserted,
nothing is found under the key. -/
theorem retention_and_eviction {State : Type} (map : RecencyMap State) {capacity : Nat}
    (roomy : 1 ≤ capacity) (operations : List Operation) :
    let held := map.perform (map.empty capacity) operations
    let cache := perform { capacity } operations
    map.entries held = cache.entries ∧ (∀ key, map.peek held key = cache.get? key) ∧
      cache.size ≤ capacity ∧ (cache.entries.map Prod.fst).Nodup ∧
      ∀ before key hover since, operations = before ++ .insert key hover :: since →
        key ∉ insertedKeys since →
        ((∀ operation ∈ since, operation.drops key.uri = false) →
          (insertedKeys since).card < capacity → cache.get? key = some hover) ∧
        ((∀ operation ∈ since, operation.removes = false) →
          capacity ≤ (insertedKeys since).card → cache.get? key = none) := by
  intro held cache
  have holds : map.Holds held cache := map.holds_perform roomy operations
  have tidy : cache.Tidy := (tidy_empty capacity).perform operations
  have room : cache.capacity = capacity := capacity_perform _ _
  refine ⟨holds.entries, holds.peek, room ▸ tidy.bounded, tidy.distinct, ?_⟩
  rintro before key hover since rfl last
  have earlier : (perform { capacity } before).Tidy := (tidy_empty capacity).perform before
  have room' : (perform { capacity } before).capacity = capacity := capacity_perform _ _
  have whole : cache = ((perform { capacity } before).insert key hover).perform since :=
    perform_append _ before (.insert key hover :: since)
  rw [whole]
  constructor
  · intro undropped few
    exact get?_perform_insert_of_few earlier (room'.symm ▸ roomy) last undropped (room'.symm ▸ few)
  · intro unremoved many
    exact get?_perform_insert_of_many earlier (room'.symm ▸ roomy) last unremoved (room'.symm ▸ many)

/-- A question about one of the first columns of a template. -/
def columnKey (column : Nat) : CacheKey := ⟨"file:///card.liquid", 1, ⟨0, column⟩⟩

/-- A hover with a text of its own. -/
def textHover (markdown : String) : PlacedHover := ⟨markdown, ⟨⟨0, 0⟩, ⟨0, 9⟩⟩⟩

/-- A hover that is looked up, between two insertions under one other key. -/
def lookedUpBetween : List Operation :=
  [ .get (columnKey 0), .insert (columnKey 1) (textHover "cart"), .get (columnKey 0),
    .insert (columnKey 1) (textHover "page"), .get (columnKey 0) ]

/-- With room for two hovers, the one that is looked up stays, also when another document is forgotten,
and goes with the next key. -/
theorem retention_and_eviction_lookedUpBetween :
    let cart := Operation.insert (columnKey 0) (textHover "product")
    let kept := cart :: .forget "file:///page.liquid" :: lookedUpBetween
    let crowded := cart :: (lookedUpBetween ++ [.insert (columnKey 2) (textHover "shop")])
    1 ≤ 2 ∧ (perform { capacity := 2 } kept).get? (columnKey 0) = some (textHover "product") ∧
      recencyMap.peek (recencyMap.perform (recencyMap.empty 2) kept) (columnKey 0) =
        some (textHover "product") ∧
      (perform { capacity := 2 } crowded).get? (columnKey 0) = none := by
  intro cart kept crowded
  have roomy : 1 ≤ 2 := by decide
  obtain ⟨-, same, -, -, lasts⟩ := retention_and_eviction recencyMap roomy kept
  obtain ⟨-, -, -, -, lasts'⟩ := retention_and_eviction recencyMap roomy crowded
  have found : (perform { capacity := 2 } kept).get? (columnKey 0) = some (textHover "product") :=
    (lasts [] (columnKey 0) (textHover "product") _ rfl (by decide)).1 (by decide) (by decide)
  have gone : (perform { capacity := 2 } crowded).get? (columnKey 0) = none :=
    (lasts' [] (columnKey 0) (textHover "product") _ rfl (by decide)).2 (by decide) (by decide)
  exact ⟨roomy, found, (same _).trans found, gone⟩

end Cache

end LiquidHover
