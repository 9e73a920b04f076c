/-
**The hover cache.** Hovers are kept by document, version and position, the latest first. When the
cache is full the one that was inserted longest ago goes; looking a hover up does not renew it.

* `Cache.get?`, `Cache.insert` — the hovers by key.
* `Cache.forget`, `Cache.clear` — the cache without the hovers of a document, and without any.
-/
import LiquidHover.Hover.Answer
import LiquidHover.Keyed

namespace LiquidHover

/-- A question for a hover, at one version of a document. -/
structure CacheKey where
  uri : String
  version : Int
  position : Position
  deriving DecidableEq, Repr

/-- The hovers that were given, the latest first. -/
structure Cache where
  capacity : Nat
  entries : List (CacheKey × PlacedHover) := []
  deriving DecidableEq, Repr

namespace Cache

/-- The hover under a key. -/
def get? (cache : Cache) (key : CacheKey) : Option PlacedHover := cache.entries.lookup key

/-- The cache with a hover added as its latest. -/
def insert (cache : Cache) (key : CacheKey) (hover : PlacedHover) : Cache :=
  { cache with
    entries := ((key, hover) :: Keyed.erase key cache.entries).take cache.capacity }

/-- The cache without the hovers of a document. -/
def forget (cache : Cache) (uri : String) : Cache :=
  { cache with entries := cache.entries.filter (·.1.uri ≠ uri) }

/-- The cache without hovers. -/
def clear (cache : Cache) : Cache := { cache with entries := [] }

/-- The number of hovers. -/
def size (cache : Cache) : Nat := cache.entries.length

@[simp] theorem get?_clear (cache : Cache) (key : CacheKey) : cache.clear.get? key = none := rfl

/-- **A cache with room finds what was inserted last.** -/
theorem get?_insert_self (cache : Cache) (key : CacheKey) (hover : PlacedHover)
    (roomy : 0 < cache.capacity) : (cache.insert key hover).get? key = some hover := by
  obtain ⟨rest, larger⟩ := Nat.exists_eq_succ_of_ne_zero (Nat.ne_of_gt roomy)
  simp [insert, get?, larger]

/-- **An insertion leaves at most as many hovers as the capacity admits.** -/
theorem size_insert_le (cache : Cache) (key : CacheKey) (hover : PlacedHover) :
    (cache.insert key hover).size ≤ cache.capacity :=
  List.length_take_le _ _

end Cache

end LiquidHover
