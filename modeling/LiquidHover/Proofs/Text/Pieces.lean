/-
**The pieces of a text with string literals.** Cutting a text at a separator outside its literals loses
nothing but the separators, and each piece stands in the text at the offset that is given for it.

* `splitAt_joinWith` — pieces without the separator, joined with it, are cut apart again.
* `joinWith_splitUnquoted` — the pieces, joined with the separator, give the text back.
* `occursAt_of_mem_withOffsets` — where a piece stands.
* `pairwise_withOffsets` — neighbours are at least one character apart.
-/
import LiquidHover.Proofs.Text.Occurrence
import LiquidHover.Text.Quoted

namespace LiquidHover.Text

/-! ### Cutting everywhere -/

theorem splitAt_of_not_mem {separator : Char} {piece : List Char} (whole : separator ∉ piece) :
    splitAt separator piece = [piece] := by
  induction piece with
  | nil => rfl
  | cons c piece ih =>
    obtain ⟨different, whole⟩ := not_or.mp (List.mem_cons.not.mp whole)
    rw [splitAt, if_neg (Ne.symm different), ih whole]
    rfl

theorem splitAt_append {separator : Char} {piece : List Char} (whole : separator ∉ piece)
    (rest : List Char) :
    splitAt separator (piece ++ separator :: rest) = piece :: splitAt separator rest := by
  induction piece with
  | nil => simp [splitAt]
  | cons c piece ih =>
    obtain ⟨different, whole⟩ := not_or.mp (List.mem_cons.not.mp whole)
    rw [List.cons_append, splitAt, if_neg (Ne.symm different), ih whole]
    rfl

/-- **Pieces that were joined are cut apart again.** -/
theorem splitAt_joinWith {separator : Char} {pieces : List (List Char)} (nonempty : pieces ≠ [])
    (whole : ∀ piece ∈ pieces, separator ∉ piece) :
    splitAt separator (joinWith separator pieces) = pieces := by
  induction pieces with
  | nil => exact absurd rfl nonempty
  | cons piece pieces ih =>
    have first := whole piece List.mem_cons_self
    cases pieces with
    | nil => exact splitAt_of_not_mem first
    | cons next pieces =>
      rw [joinWith, splitAt_append first, ih (by simp) fun other member =>
        whole other (List.mem_cons_of_mem _ member)]

/-- What stands in joined pieces is the separator or stands in a piece. -/
theorem mem_joinWith {separator c : Char} {pieces : List (List Char)}
    (member : c ∈ joinWith separator pieces) : c = separator ∨ ∃ piece ∈ pieces, c ∈ piece := by
  induction pieces with
  | nil => cases member
  | cons piece pieces ih =>
    cases pieces with
    | nil => exact Or.inr ⟨piece, List.mem_cons_self, member⟩
    | cons next pieces =>
      rcases List.mem_append.mp member with here | later
      · exact Or.inr ⟨piece, List.mem_cons_self, here⟩
      · rcases List.mem_cons.mp later with same | later
        · exact Or.inl same
        · rcases ih later with same | ⟨other, found, inside⟩
          · exact Or.inl same
          · exact Or.inr ⟨other, List.mem_cons_of_mem _ found, inside⟩

/-- Joined pieces begin as the first of them. -/
theorem head?_joinWith {word : List Char} (nonempty : word ≠ []) (separator : Char)
    (pieces : List (List Char)) : (joinWith separator (word :: pieces)).head? = word.head? := by
  cases pieces with
  | nil => rfl
  | cons next pieces => rw [joinWith, List.head?_append_of_ne_nil _ nonempty]

/-! ### Cutting outside literals -/

/-- A cut is made at the separator only. -/
theorem eq_of_cutsHere {separator c : Char} {literal : Literal}
    (cuts : cutsHere (· == separator) literal c = true) : c = separator := by
  simp only [cutsHere, Bool.and_eq_true, beq_iff_eq] at cuts
  exact cuts.2

theorem joinWith_splitFrom (separator : Char) (literal : Literal) (text : List Char) :
    joinWith separator (splitFrom (· == separator) literal text) = text := by
  induction text generalizing literal with
  | nil => rfl
  | cons c rest ih =>
    simp only [splitFrom]
    split
    · rename_i cuts
      have nonempty := splitFrom_ne_nil (· == separator) none rest
      obtain ⟨piece, pieces, cut⟩ := List.exists_cons_of_ne_nil nonempty
      have whole := ih none
      rw [cut] at whole ⊢
      rw [joinWith, whole, eq_of_cutsHere cuts]
      rfl
    · rw [joinWith_consHead _ _ (splitFrom_ne_nil _ _ _), ih]

/-- **Nothing is lost.** Joining the pieces gives the text back. -/
theorem joinWith_splitUnquoted (separator : Char) (text : List Char) :
    joinWith separator (splitUnquoted separator text) = text :=
  joinWith_splitFrom separator none text

theorem map_snd_withOffsets (start : Nat) (pieces : List (List Char)) :
    (withOffsets start pieces).map (·.2) = pieces := by
  induction pieces generalizing start with
  | nil => rfl
  | cons piece pieces ih => rw [withOffsets, List.map_cons, ih]

/-- **Where a piece stands** in the text that was cut. -/
theorem occursAt_of_mem_withOffsets (separator : Char) {start : Nat} {pieces : List (List Char)}
    {place : Nat} {piece : List Char} (member : (place, piece) ∈ withOffsets start pieces) :
    ∃ offset, place = start + offset ∧ OccursAt piece (joinWith separator pieces) offset := by
  induction pieces generalizing start with
  | nil => cases member
  | cons first pieces ih =>
    rcases List.mem_cons.mp member with same | later
    · cases same
      refine ⟨0, rfl, ?_⟩
      cases pieces with
      | nil => exact List.prefix_refl _
      | cons next pieces => exact List.prefix_append _ _
    · obtain ⟨offset, place, occurs⟩ := ih later
      refine ⟨(first ++ [separator]).length + offset, ?_, ?_⟩
      · rw [place, List.length_append, List.length_singleton]
        omega
      · cases pieces with
        | nil => cases later
        | cons next pieces =>
          have whole : joinWith separator (first :: next :: pieces) =
              (first ++ [separator]) ++ joinWith separator (next :: pieces) := by
            simp [joinWith]
          rw [whole]
          exact (occursAt_append_left _).mpr occurs

theorem le_of_mem_withOffsets {start place : Nat} {pieces : List (List Char)} {piece : List Char}
    (member : (place, piece) ∈ withOffsets start pieces) : start ≤ place := by
  obtain ⟨offset, rfl, _⟩ := occursAt_of_mem_withOffsets ' ' member
  exact Nat.le_add_right _ _

/-- Pieces behind other pieces have the offsets behind these and their separators. -/
theorem withOffsets_append (start : Nat) (front back : List (List Char)) :
    withOffsets start (front ++ back) =
      withOffsets start front ++ withOffsets (start + front.flatten.length + front.length) back := by
  induction front generalizing start with
  | nil => rfl
  | cons piece front ih =>
    have behind : start + piece.length + 1 + front.flatten.length + front.length =
        start + (piece :: front).flatten.length + (piece :: front).length := by
      simp only [List.flatten_cons, List.length_append, List.length_cons]
      omega
    rw [List.cons_append, withOffsets, withOffsets, ih, behind, List.cons_append]

/-- **Between neighbours there is a separator.** -/
theorem pairwise_withOffsets (start : Nat) (pieces : List (List Char)) :
    (withOffsets start pieces).Pairwise fun left right =>
      left.1 + left.2.length < right.1 := by
  induction pieces generalizing start with
  | nil => exact List.Pairwise.nil
  | cons first pieces ih =>
    refine List.Pairwise.cons (fun right member => ?_) (ih _)
    exact le_of_mem_withOffsets member

end LiquidHover.Text
