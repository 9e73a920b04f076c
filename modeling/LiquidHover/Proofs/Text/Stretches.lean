/-
**Stretches between separators.** The pieces of a text that is cut outside its literals are its stretches without
separators, each as long as it can be. Which stretches a text has is said by its places alone, without cutting it.

* `IsStretch`, `IsStretch.unique` — a longest stretch without separators, and that two of them have no place in common.
* `AreStretches.cut`, `AreStretches.go_on` — one more character keeps the pieces stretches of the text.
* `mem_withOffsets_iff` — the pieces of a text, at their offsets, are its stretches.
* `unparted`, `flatten_splitUnquotedBy` — the text without its separators.
* `splitUnquotedBy_append_open` — a literal that is not ended is the end of the last piece.
-/
import LiquidHover.Proofs.Text.Unquoted

namespace LiquidHover.Text

variable {separates : Char → Bool} {text piece : List Char} {pieces : List (List Char)} {c : Char}
variable {place start stop : Nat}

/-- A class without quotes cuts exactly at its separators outside literals. -/
theorem cutsHere_iff_partsAt (plain : ∀ c, separates c = true → isQuote c = false) :
    cutsHere separates (text.foldl literalAfter none) c = true ↔
      PartsAt separates (text ++ [c]) text.length := by
  rw [partsAt_length_iff, endsOutside_iff]
  simp only [cutsHere, Bool.and_eq_true, Option.isNone_iff_eq_none, Bool.not_eq_true']
  constructor
  · rintro ⟨⟨outside, -⟩, separator⟩
    exact ⟨separator, outside⟩
  · rintro ⟨separator, outside⟩
    exact ⟨⟨outside, plain c separator⟩, separator⟩

/-! ### Longest stretches without separators -/

/-- A stretch of a text without separators outside literals, as long as it can be: in front of it and behind it stands
a separator, unless the text begins or ends there. Between two neighbouring separators it is empty. -/
structure IsStretch (separates : Char → Bool) (text : List Char) (start stop : Nat) : Prop where
  ordered : start ≤ stop
  within : stop ≤ text.length
  solid : ∀ place, start ≤ place → place < stop → ¬ PartsAt separates text place
  begins : start = 0 ∨ ∃ before, start = before + 1 ∧ PartsAt separates text before
  ends : stop = text.length ∨ PartsAt separates text stop

/-- **Two stretches that touch are the same.** -/
theorem IsStretch.unique {start' stop' : Nat} (left : IsStretch separates text start stop)
    (right : IsStretch separates text start' stop') (before : start ≤ stop') (behind : start' ≤ stop) :
    start = start' ∧ stop = stop' := by
  -- The later one of the starts has a separator in front of it, and the earlier one of the stops is one.
  have starts : ∀ {a b a' b' : Nat}, IsStretch separates text a b → IsStretch separates text a' b' →
      a' ≤ b → a' ≤ a := by
    intro a b a' b' first second touches
    refine Nat.le_of_not_lt fun later => ?_
    rcases second.begins with zero | ⟨place, rfl, parts⟩
    · omega
    · exact first.solid place (by omega) (by omega) parts
  have stops : ∀ {a b a' b' : Nat}, IsStretch separates text a b → IsStretch separates text a' b' →
      a' ≤ b → b' ≤ b := by
    intro a b a' b' first second touches
    refine Nat.le_of_not_lt fun longer => ?_
    rcases first.ends with last | parts
    · have within := second.within
      omega
    · exact second.solid b touches longer parts
  exact ⟨Nat.le_antisymm (starts right left before) (starts left right behind),
    Nat.le_antisymm (stops right left before) (stops left right behind)⟩

/-- In front of a stretch no literal is open. -/
theorem IsStretch.endsOutside_take (plain : ∀ c, separates c = true → isQuote c = false)
    (stretch : IsStretch separates text start stop) : EndsOutside (text.take start) := by
  rcases stretch.begins with rfl | ⟨before, rfl, parts⟩
  · exact .nil
  · obtain ⟨c, found, separator⟩ := (Option.any_eq_true _ _).mp parts.here
    rw [List.take_add_one, found]
    exact parts.outside.plain (plain c separator)

/-- A stretch in front of a further character. -/
theorem IsStretch.concat (stretch : IsStretch separates text start stop)
    (ends : stop < text.length ∨ PartsAt separates (text ++ [c]) text.length) :
    IsStretch separates (text ++ [c]) start stop := by
  have within := stretch.within
  refine ⟨stretch.ordered, ?_, fun place from_start before_stop => ?_, ?_, ?_⟩
  · simp
    omega
  · rw [partsAt_concat_of_lt (by omega)]
    exact stretch.solid place from_start before_stop
  · rcases stretch.begins with zero | ⟨before, rfl, parts⟩
    · exact Or.inl zero
    · exact Or.inr ⟨before, rfl, (partsAt_concat_of_lt parts.lt_length).mpr parts⟩
  · rcases stretch.ends with last | parts
    · rcases ends with inside | parts
      · omega
      · exact Or.inr (last ▸ parts)
    · exact Or.inr ((partsAt_concat_of_lt parts.lt_length).mpr parts)

/-- The last stretch goes on with a character that is no separator. -/
theorem IsStretch.concat_last (stretch : IsStretch separates text start text.length)
    (stays : ¬ PartsAt separates (text ++ [c]) text.length) :
    IsStretch separates (text ++ [c]) start (text.length + 1) := by
  have ordered := stretch.ordered
  refine ⟨by omega, by simp, fun place from_start before_stop => ?_, ?_, Or.inl (by simp)⟩
  · by_cases last : place = text.length
    · rwa [last]
    · rw [partsAt_concat_of_lt (by omega)]
      exact stretch.solid place from_start (by omega)
  · rcases stretch.begins with zero | ⟨before, rfl, parts⟩
    · exact Or.inl zero
    · exact Or.inr ⟨before, rfl, (partsAt_concat_of_lt parts.lt_length).mpr parts⟩

/-- Behind a separator at the end of a text an empty stretch begins. -/
theorem isStretch_behind (parts : PartsAt separates (text ++ [c]) text.length) :
    IsStretch separates (text ++ [c]) (text.length + 1) (text.length + 1) where
  ordered := Nat.le_refl _
  within := by simp
  solid place from_start before_stop := absurd before_stop (Nat.not_lt.mpr from_start)
  begins := Or.inr ⟨text.length, rfl, parts⟩
  ends := Or.inl (by simp)

/-! ### Pieces at their offsets -/

/-- With the separators, which are one less, the pieces have as many characters as the text. -/
theorem length_flatten_splitFrom (separates : Char → Bool) (literal : Literal) (text : List Char) :
    (splitFrom separates literal text).flatten.length + (splitFrom separates literal text).length =
      text.length + 1 := by
  induction text generalizing literal with
  | nil => rfl
  | cons c text ih =>
    rw [splitFrom]
    by_cases cuts : cutsHere separates literal c = true
    · rw [if_pos cuts]
      have whole := ih none
      simp only [List.flatten_cons, List.nil_append, List.length_cons]
      omega
    · rw [if_neg cuts]
      have whole := ih (literalAfter literal c)
      obtain ⟨piece, pieces, cut⟩ := List.exists_cons_of_ne_nil
        (splitFrom_ne_nil separates (literalAfter literal c) text)
      rw [cut] at whole ⊢
      simp only [consHead, List.flatten_cons, List.length_append, List.length_cons] at whole ⊢
      omega

/-- The last piece ends where the text ends. -/
theorem offset_last {done : List (List Char)} {last : List Char}
    (pieces : splitUnquotedBy separates text = done ++ [last]) :
    done.flatten.length + done.length + last.length = text.length := by
  have whole := length_flatten_splitFrom separates none text
  rw [← splitUnquotedBy, pieces] at whole
  simp only [List.flatten_append, List.flatten_singleton, List.length_append, List.length_singleton] at whole
  omega

/-- Every place of a text is in a piece or at the end of one. -/
theorem exists_mem_withOffsets (start : Nat) (pieces : List (List Char)) (from_start : start ≤ place)
    (within : place < start + pieces.flatten.length + pieces.length) :
    ∃ offset piece, (offset, piece) ∈ withOffsets start pieces ∧ offset ≤ place ∧
      place ≤ offset + piece.length := by
  induction pieces generalizing start with
  | nil =>
    simp at within
    omega
  | cons first pieces ih =>
    by_cases inside : place ≤ start + first.length
    · exact ⟨start, first, List.mem_cons_self, from_start, inside⟩
    · simp only [List.flatten_cons, List.length_append, List.length_cons] at within
      obtain ⟨offset, piece, member, bounds⟩ := ih (start + first.length + 1) (by omega) (by omega)
      exact ⟨offset, piece, List.mem_cons_of_mem _ member, bounds⟩

theorem withOffsets_singleton (start : Nat) (piece : List Char) :
    withOffsets start [piece] = [(start, piece)] := rfl

/-- What stands at the end of a text goes on with the next character. -/
theorem OccursAt.concat (occurs : OccursAt piece text start) (stop : start + piece.length = text.length) :
    OccursAt (piece ++ [c]) (text ++ [c]) start := by
  have all : piece = text.drop start := occurs.eq_of_length (by rw [List.length_drop]; omega)
  rw [OccursAt, List.drop_append_of_le_length (by omega), ← all]

/-- Every piece, at its offset, is a stretch of the text. -/
def AreStretches (separates : Char → Bool) (text : List Char) (pieces : List (List Char)) : Prop :=
  ∀ start piece, (start, piece) ∈ withOffsets 0 pieces →
    IsStretch separates text start (start + piece.length) ∧ OccursAt piece text start

theorem areStretches_nil (separates : Char → Bool) : AreStretches separates [] [[]] := by
  intro start piece member
  obtain ⟨rfl, rfl⟩ : start = 0 ∧ piece = [] := by simpa [withOffsets] using member
  refine ⟨⟨Nat.le_refl _, Nat.le_refl _, fun place _ before => ?_, Or.inl rfl, Or.inl rfl⟩, List.prefix_refl _⟩
  exact absurd before (Nat.not_lt_zero _)

/-- A separator behind the text ends the last piece, and an empty one begins. -/
theorem AreStretches.cut (stretches : AreStretches separates text pieces)
    (whole : pieces.flatten.length + pieces.length = text.length + 1)
    (parts : PartsAt separates (text ++ [c]) text.length) :
    AreStretches separates (text ++ [c]) (pieces ++ [[]]) := by
  intro start piece member
  rw [withOffsets_append, withOffsets_singleton, List.mem_append, List.mem_singleton, Nat.zero_add] at member
  rcases member with old | new
  · obtain ⟨stretch, occurs⟩ := stretches start piece old
    exact ⟨stretch.concat (Or.inr parts), occurs.append_right [c]⟩
  · rw [whole] at new
    obtain ⟨rfl, rfl⟩ := Prod.mk.inj new
    exact ⟨isStretch_behind parts, List.nil_prefix⟩

/-- Any other character behind the text belongs to the last piece. -/
theorem AreStretches.go_on {done : List (List Char)} {last : List Char}
    (stretches : AreStretches separates text (done ++ [last]))
    (whole : done.flatten.length + done.length + last.length = text.length)
    (stays : ¬ PartsAt separates (text ++ [c]) text.length) :
    AreStretches separates (text ++ [c]) (done ++ [last ++ [c]]) := by
  have ordered := pairwise_withOffsets 0 (done ++ [last])
  unfold AreStretches at stretches
  rw [withOffsets_append, withOffsets_singleton, Nat.zero_add] at stretches ordered
  intro start piece member
  rw [withOffsets_append, withOffsets_singleton, List.mem_append, List.mem_singleton, Nat.zero_add] at member
  rcases member with old | new
  · obtain ⟨stretch, occurs⟩ := stretches start piece (List.mem_append_left _ old)
    -- A piece in front of the last one ends before it.
    have inner : start + piece.length < done.flatten.length + done.length :=
      (List.pairwise_append.mp ordered).2.2 _ old _ List.mem_cons_self
    exact ⟨stretch.concat (Or.inl (by omega)), occurs.append_right [c]⟩
  · obtain ⟨rfl, rfl⟩ := Prod.mk.inj new
    obtain ⟨stretch, occurs⟩ := stretches _ last (List.mem_append_right _ List.mem_cons_self)
    rw [whole] at stretch
    rw [List.length_append, List.length_singleton, ← Nat.add_assoc, whole]
    exact ⟨stretch.concat_last stays, occurs.concat whole⟩

/-- **Every piece stands in the text as a stretch.** -/
theorem areStretches_splitUnquotedBy (plain : ∀ c, separates c = true → isQuote c = false) (text : List Char) :
    AreStretches separates text (splitUnquotedBy separates text) := by
  induction text using List.reverseRecOn with
  | nil => exact areStretches_nil separates
  | append_singleton text c ih =>
    obtain ⟨done, last, pieces, next⟩ := exists_splitFrom_concat separates none text c
    rw [← splitUnquotedBy] at pieces next
    rw [next]
    by_cases cuts : cutsHere separates (text.foldl literalAfter none) c = true
    · rw [if_pos cuts, ← pieces]
      exact ih.cut (length_flatten_splitFrom separates none text) ((cutsHere_iff_partsAt plain).mp cuts)
    · rw [if_neg cuts]
      rw [pieces] at ih
      exact ih.go_on (offset_last pieces) fun parts => cuts ((cutsHere_iff_partsAt plain).mpr parts)

/-- **The pieces of a text are its stretches**, each at its offset. -/
theorem mem_withOffsets_iff (plain : ∀ c, separates c = true → isQuote c = false) :
    (start, piece) ∈ withOffsets 0 (splitUnquotedBy separates text) ↔
      IsStretch separates text start (start + piece.length) ∧ OccursAt piece text start := by
  refine ⟨areStretches_splitUnquotedBy plain text start piece, fun ⟨stretch, occurs⟩ => ?_⟩
  -- The piece that covers the start of the stretch touches it.
  have bounds := stretch.within
  have whole := length_flatten_splitFrom separates none text
  obtain ⟨offset, other, member, before, behind⟩ :=
    exists_mem_withOffsets 0 (splitUnquotedBy separates text) (Nat.zero_le start)
      (by rw [splitUnquotedBy]; omega)
  obtain ⟨stretch', occurs'⟩ := areStretches_splitUnquotedBy plain text offset other member
  obtain ⟨rfl, stops⟩ := stretch.unique stretch' behind (by omega)
  have same : other = piece := by
    refine (List.prefix_of_prefix_length_le occurs' occurs ?_).eq_of_length ?_ <;> omega
  exact same ▸ member

/-! ### The text without its separators -/

/-- A text without its separators outside literals. -/
def unparted (separates : Char → Bool) (text : List Char) : List Char :=
  (List.range text.length).filterMap fun place =>
    if PartsAt separates text place then none else text[place]?

theorem unparted_concat (separates : Char → Bool) (text : List Char) (c : Char) :
    unparted separates (text ++ [c]) =
      unparted separates text ++ if PartsAt separates (text ++ [c]) text.length then [] else [c] := by
  have front : (List.range text.length).filterMap (fun place =>
      if PartsAt separates (text ++ [c]) place then none else (text ++ [c])[place]?) =
      unparted separates text := by
    refine List.filterMap_congr fun place member => ?_
    have before := List.mem_range.mp member
    rw [List.getElem?_append_left before]
    exact if_congr (partsAt_concat_of_lt before) rfl rfl
  rw [unparted, List.length_append, List.length_singleton, List.range_succ, List.filterMap_append, front]
  congr 1
  by_cases parts : PartsAt separates (text ++ [c]) text.length
  · simp [parts]
  · simp [parts]

/-- **The pieces, put together, are the text without its separators.** -/
theorem flatten_splitUnquotedBy (plain : ∀ c, separates c = true → isQuote c = false) (text : List Char) :
    (splitUnquotedBy separates text).flatten = unparted separates text := by
  induction text using List.reverseRecOn with
  | nil => rfl
  | append_singleton text c ih =>
    obtain ⟨done, last, pieces, next⟩ := exists_splitFrom_concat separates none text c
    rw [← splitUnquotedBy] at pieces next
    rw [unparted_concat, ← ih, next, pieces]
    by_cases cuts : cutsHere separates (text.foldl literalAfter none) c = true
    · rw [if_pos cuts, if_pos ((cutsHere_iff_partsAt plain).mp cuts)]
      simp
    · rw [if_neg cuts, if_neg fun parts => cuts ((cutsHere_iff_partsAt plain).mpr parts)]
      simp

/-! ### Literals that are not ended -/

/-- **A literal that is not ended belongs to the last piece**, up to the end of the text. -/
theorem splitUnquotedBy_append_open {front inner : List Char} {quote : Char} (outside : EndsOutside front)
    (quotes : isQuote quote = true) (unended : quote ∉ inner) :
    ∃ done last, splitUnquotedBy separates (front ++ quote :: inner) = done ++ [last ++ quote :: inner] := by
  obtain ⟨done, last, pieces, next⟩ := exists_splitFrom_concat separates none front quote
  have opens : cutsHere separates (front.foldl literalAfter none) quote = false := by
    simp [cutsHere, quotes]
  rw [opens, if_neg Bool.false_ne_true] at next
  refine ⟨done, last, ?_⟩
  induction inner using List.reverseRecOn with
  | nil => exact next
  | append_singleton inner c ih =>
    have earlier : quote ∉ inner := fun member => unended (List.mem_append_left _ member)
    obtain ⟨done', last', pieces', next'⟩ := exists_splitFrom_concat separates none (front ++ quote :: inner) c
    obtain ⟨rfl, rfl⟩ := List.append_singleton_inj.mp (pieces'.symm.trans (ih earlier))
    have inside : (front ++ quote :: inner).foldl literalAfter none = some quote := by
      rw [List.foldl_append, endsOutside_iff.mp outside, List.foldl_cons,
        show literalAfter none quote = some quote by simp [literalAfter, quotes]]
      exact (inside_literal separates earlier).2
    have stays : cutsHere separates ((front ++ quote :: inner).foldl literalAfter none) c = false := by
      rw [inside]
      rfl
    rw [stays, if_neg Bool.false_ne_true] at next'
    simpa [splitUnquotedBy] using next'

end LiquidHover.Text
