/-
**Keyed lists in order.** Writing a key puts it at its place in the order of the keys: the list stays sorted, a
new key comes between the others, and two keys can be written in either order.

* `insert_cons_of_lt`, `insert_cons_self`, `insert_cons_of_gt` — writing a key, by its place against the first.
* `sorted_insert`, `nodup_of_sorted` — a sorted list stays sorted, and it holds no key twice.
* `lookup_eq_some_iff`, `eq_of_lookup_eq` — a sorted list is known by what is found in it.
* `insert_of_forall_lt`, `exists_insert_eq`, `mem_insert_of_fresh` — where a new key is written.
* `insert_comm` — two keys in either order.
-/
import LiquidHover.Keyed
import Mathlib.Data.List.Nodup
import Mathlib.Data.String.Basic

namespace LiquidHover.Keyed

variable {α β : Type} {key other : String} {value : α} {entries others : List (String × α)}

theorem insert_cons_of_lt (before : key < other) (value held : α) (entries : List (String × α)) :
    insert key value ((other, held) :: entries) = (key, value) :: (other, held) :: entries :=
  if_pos before

theorem insert_cons_self (key : String) (value held : α) (entries : List (String × α)) :
    insert key value ((key, held) :: entries) = (key, value) :: entries := by
  rw [insert, if_neg (lt_irrefl key), if_pos rfl]

theorem insert_cons_of_gt (behind : other < key) (value held : α) (entries : List (String × α)) :
    insert key value ((other, held) :: entries) = (other, held) :: insert key value entries := by
  rw [insert, if_neg behind.asymm, if_neg behind.ne']

/-! ### Keys in order -/

theorem mem_of_mem_insert {entry : String × α} (member : entry ∈ insert key value entries) :
    entry = (key, value) ∨ entry ∈ entries := by
  induction entries with
  | nil => exact Or.inl (List.mem_singleton.mp member)
  | cons first entries ih =>
    obtain ⟨other, held⟩ := first
    rcases lt_trichotomy key other with before | rfl | behind
    · rw [insert_cons_of_lt before] at member
      exact List.mem_cons.mp member
    · rw [insert_cons_self] at member
      exact (List.mem_cons.mp member).imp_right (List.mem_cons_of_mem _)
    · rw [insert_cons_of_gt behind] at member
      rcases List.mem_cons.mp member with here | later
      · exact Or.inr (here ▸ List.mem_cons_self)
      · exact (ih later).imp_right (List.mem_cons_of_mem _)

/-- **Writing a key keeps the keys in order.** -/
theorem sorted_insert (sorted : entries.Pairwise (·.1 < ·.1)) :
    (insert key value entries).Pairwise (·.1 < ·.1) := by
  induction entries with
  | nil => exact List.pairwise_singleton _ _
  | cons first entries ih =>
    obtain ⟨other, held⟩ := first
    obtain ⟨ahead, rest⟩ := List.pairwise_cons.mp sorted
    rcases lt_trichotomy key other with before | rfl | behind
    · rw [insert_cons_of_lt before]
      refine List.pairwise_cons.mpr ⟨fun entry member => ?_, sorted⟩
      rcases List.mem_cons.mp member with rfl | later
      · exact before
      · exact before.trans (ahead entry later)
    · rw [insert_cons_self]
      exact List.pairwise_cons.mpr ⟨ahead, rest⟩
    · rw [insert_cons_of_gt behind]
      refine List.pairwise_cons.mpr ⟨fun entry member => ?_, ih rest⟩
      rcases mem_of_mem_insert member with rfl | later
      · exact behind
      · exact ahead entry later

theorem nodup_of_sorted (sorted : entries.Pairwise (·.1 < ·.1)) : (entries.map Prod.fst).Nodup :=
  List.pairwise_map.mpr (sorted.imp ne_of_lt)

/-- In a sorted list every pair is found. -/
theorem lookup_eq_some_iff (sorted : entries.Pairwise (·.1 < ·.1)) :
    entries.lookup key = some value ↔ (key, value) ∈ entries := by
  refine ⟨mem_of_lookup, fun member => ?_⟩
  induction entries with
  | nil => cases member
  | cons first entries ih =>
    obtain ⟨ahead, rest⟩ := List.pairwise_cons.mp sorted
    rw [lookup_cons]
    rcases List.mem_cons.mp member with rfl | later
    · exact if_pos rfl
    · rw [if_neg (ahead _ later).ne', ih rest later]

/-- **Keyed lists in order are known by what is found in them.** -/
theorem eq_of_lookup_eq (sorted : entries.Pairwise (·.1 < ·.1)) (sorted' : others.Pairwise (·.1 < ·.1))
    (same : ∀ key, entries.lookup key = others.lookup key) : entries = others := by
  have members (entry : String × α) : entry ∈ entries ↔ entry ∈ others := by
    rw [← lookup_eq_some_iff sorted, ← lookup_eq_some_iff sorted', same]
  have distinct : entries.Nodup := List.Nodup.of_map Prod.fst (nodup_of_sorted sorted)
  have distinct' : others.Nodup := List.Nodup.of_map Prod.fst (nodup_of_sorted sorted')
  refine List.Perm.eq_of_pairwise (fun left right _ _ less more => absurd less (lt_asymm more)) sorted sorted' ?_
  exact (List.perm_ext_iff_of_nodup distinct distinct').mpr members

/-! ### A new key -/

/-- A key behind all others is written at the end. -/
theorem insert_of_forall_lt (behind : ∀ entry ∈ entries, entry.1 < key) (value : α) :
    insert key value entries = entries ++ [(key, value)] := by
  induction entries with
  | nil => rfl
  | cons first entries ih =>
    obtain ⟨other, held⟩ := first
    obtain ⟨before, others⟩ := List.forall_mem_cons.mp behind
    rw [insert_cons_of_gt before, ih others]
    rfl

/-- **A new key is written between the others.** -/
theorem exists_insert_eq (fresh : key ∉ entries.map Prod.fst) (value : α) :
    ∃ front back, entries = front ++ back ∧ insert key value entries = front ++ (key, value) :: back := by
  induction entries with
  | nil => exact ⟨[], [], rfl, rfl⟩
  | cons entry entries ih =>
    obtain ⟨other, held⟩ := entry
    obtain ⟨different, fresh⟩ := not_or.mp (List.mem_cons.not.mp fresh)
    rcases lt_or_gt_of_ne different with before | behind
    · exact ⟨[], _, rfl, insert_cons_of_lt before value held entries⟩
    · obtain ⟨front, back, whole, written⟩ := ih fresh
      refine ⟨(other, held) :: front, back, by rw [whole]; rfl, ?_⟩
      rw [insert_cons_of_gt behind, written]
      rfl

theorem mem_insert_of_fresh (fresh : key ∉ entries.map Prod.fst) (value : α) {entry : String × α} :
    entry ∈ insert key value entries ↔ entry = (key, value) ∨ entry ∈ entries := by
  obtain ⟨front, back, whole, written⟩ := exists_insert_eq fresh value
  rw [written, whole]
  simp only [List.mem_append, List.mem_cons]
  exact or_left_comm

theorem map_insert (convert : α → β) (key : String) (value : α) (entries : List (String × α)) :
    (insert key value entries).map (fun entry => (entry.1, convert entry.2)) =
      insert key (convert value) (entries.map fun entry => (entry.1, convert entry.2)) := by
  induction entries with
  | nil => rfl
  | cons entry entries ih =>
    obtain ⟨other, held⟩ := entry
    rw [List.map_cons]
    rcases lt_trichotomy key other with before | rfl | behind
    · rw [insert_cons_of_lt before, insert_cons_of_lt before]
      rfl
    · rw [insert_cons_self, insert_cons_self]
      rfl
    · rw [insert_cons_of_gt behind, insert_cons_of_gt behind, List.map_cons, ih]

/-! ### Two keys -/

theorem insert_comm_of_lt (less : key < other) (value held : α) (entries : List (String × α)) :
    insert key value (insert other held entries) = insert other held (insert key value entries) := by
  induction entries with
  | nil =>
    show insert key value [(other, held)] = insert other held [(key, value)]
    rw [insert_cons_of_lt less, insert_cons_of_gt less]
    rfl
  | cons entry entries ih =>
    obtain ⟨third, kept⟩ := entry
    rcases lt_trichotomy key third with first | rfl | first
    · rw [insert_cons_of_lt first, insert_cons_of_gt less]
      rcases lt_trichotomy other third with second | rfl | second
      · rw [insert_cons_of_lt second, insert_cons_of_lt less]
      · rw [insert_cons_self, insert_cons_of_lt less]
      · rw [insert_cons_of_gt second, insert_cons_of_lt first]
    · rw [insert_cons_self, insert_cons_of_gt less, insert_cons_of_gt less, insert_cons_self]
    · have second := first.trans less
      rw [insert_cons_of_gt first, insert_cons_of_gt second, insert_cons_of_gt first,
        insert_cons_of_gt second, ih]

/-- **Two different keys can be written in either order.** -/
theorem insert_comm (different : key ≠ other) (value held : α) (entries : List (String × α)) :
    insert key value (insert other held entries) = insert other held (insert key value entries) := by
  rcases lt_or_gt_of_ne different with less | greater
  · exact insert_comm_of_lt less value held entries
  · exact (insert_comm_of_lt greater held value entries).symm

end LiquidHover.Keyed
