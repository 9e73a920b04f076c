/-
**Places outside the literals of a text.** A text ends outside its literals when it is put together from
characters that are no quotes and from literals that reach to the next occurrence of their own quote. Cutting at
a separator is the same for a whole text and for what stands behind a cut, because each cut is made outside.

* `EndsOutside`, `endsOutside_iff` — the property, and the same by the literal that is open at the end.
* `PartsAt`, `SeparatesAt` — where a separator of a class, or one separator, stands outside literals.
* `findUnquoted?_eq_some_iff` — the first such place.
* `IsFront` — the part of a text in front of that place.
* `exists_splitFrom_concat` — the pieces of a text with one more character.
* `foldl_literalAfter_last` — a piece that is read on its own ends as the text does.
* `length_splitUnquoted` — there is one piece more than separators.
-/
import LiquidHover.Proofs.Text.Literals
import LiquidHover.Proofs.Text.Pieces

namespace LiquidHover.Text

variable {separates : Char → Bool} {literal : Literal} {text : List Char} {separator c : Char}

/-! ### Texts that end outside their literals -/

/-- A text in which every literal is ended. -/
inductive EndsOutside : List Char → Prop where
  | nil : EndsOutside []
  | plain {front : List Char} {c : Char} (outside : EndsOutside front)
      (unquoted : isQuote c = false) : EndsOutside (front ++ [c])
  | literal {front inner : List Char} {quote : Char} (outside : EndsOutside front)
      (quotes : isQuote quote = true) (whole : quote ∉ inner) :
      EndsOutside (front ++ (quote :: inner ++ [quote]))

theorem foldl_literalAfter_of_endsOutside (outside : EndsOutside text) :
    text.foldl literalAfter none = none := by
  induction outside with
  | nil => rfl
  | plain _ unquoted ih =>
    rw [List.foldl_append, ih]
    simp [literalAfter, unquoted]
  | literal _ quotes whole ih =>
    rw [List.foldl_append, ih]
    exact (closed_quoted (fun _ => false) quotes whole).ended

/-- A text ends outside its literals, or within the literal that its last open quote began. -/
theorem endsOutside_or_within (text : List Char) :
    (EndsOutside text ∧ text.foldl literalAfter none = none) ∨
      ∃ front quote inner, text = front ++ quote :: inner ∧ EndsOutside front ∧
        isQuote quote = true ∧ quote ∉ inner ∧ text.foldl literalAfter none = some quote := by
  induction text using List.reverseRecOn with
  | nil => exact Or.inl ⟨.nil, rfl⟩
  | append_singleton text c ih =>
    rw [List.foldl_concat]
    rcases ih with ⟨outside, state⟩ | ⟨front, quote, inner, rfl, outside, quotes, whole, state⟩
    · rw [state]
      by_cases quotes : isQuote c = true
      · refine Or.inr ⟨text, c, [], rfl, outside, quotes, List.not_mem_nil, ?_⟩
        simp [literalAfter, quotes]
      · have unquoted : isQuote c = false := Bool.eq_false_iff.mpr quotes
        refine Or.inl ⟨outside.plain unquoted, ?_⟩
        simp [literalAfter, unquoted]
    · rw [state]
      by_cases same : c = quote
      · subst same
        refine Or.inl ⟨?_, by simp [literalAfter]⟩
        rw [List.append_assoc]
        exact outside.literal quotes whole
      · refine Or.inr ⟨front, quote, inner ++ [c], by simp, outside, quotes, ?_, ?_⟩
        · simp [whole, Ne.symm same]
        · simp [literalAfter, same]

/-- **A text ends outside its literals when no literal is open behind it.** -/
theorem endsOutside_iff : EndsOutside text ↔ text.foldl literalAfter none = none := by
  refine ⟨foldl_literalAfter_of_endsOutside, fun state => ?_⟩
  rcases endsOutside_or_within text with ⟨outside, -⟩ | ⟨_, _, _, -, -, -, -, opened⟩
  · exact outside
  · rw [state] at opened
    cases opened

instance (text : List Char) : Decidable (EndsOutside text) := decidable_of_iff _ endsOutside_iff.symm

/-! ### Separators outside literals -/

/-- A separator of a class stands at a place outside literals. -/
structure PartsAt (separates : Char → Bool) (text : List Char) (place : Nat) : Prop where
  here : text[place]?.any separates = true
  outside : EndsOutside (text.take place)

instance (separates : Char → Bool) (text : List Char) (place : Nat) :
    Decidable (PartsAt separates text place) :=
  decidable_of_iff (text[place]?.any separates = true ∧ EndsOutside (text.take place))
    ⟨fun ⟨here, outside⟩ => ⟨here, outside⟩, fun ⟨here, outside⟩ => ⟨here, outside⟩⟩

theorem PartsAt.lt_length {place : Nat} (parts : PartsAt separates text place) : place < text.length := by
  obtain ⟨c, found, -⟩ := (Option.any_eq_true _ _).mp parts.here
  exact (List.getElem?_eq_some_iff.mp found).1

theorem partsAt_concat_of_lt {place : Nat} (before : place < text.length) :
    PartsAt separates (text ++ [c]) place ↔ PartsAt separates text place := by
  have same : (text ++ [c])[place]? = text[place]? := List.getElem?_append_left before
  have front : (text ++ [c]).take place = text.take place :=
    List.take_append_of_le_length (Nat.le_of_lt before)
  constructor
  · rintro ⟨here, outside⟩
    exact ⟨same ▸ here, front ▸ outside⟩
  · rintro ⟨here, outside⟩
    exact ⟨same.symm ▸ here, front.symm ▸ outside⟩

/-- The character behind a text is a separator outside literals if no literal is open there. -/
theorem partsAt_length_iff {back : List Char} :
    PartsAt separates (text ++ c :: back) text.length ↔ separates c = true ∧ EndsOutside text := by
  have next : (text ++ c :: back)[text.length]? = some c := by simp
  have front : (text ++ c :: back).take text.length = text := List.take_left
  constructor
  · rintro ⟨here, outside⟩
    rw [next] at here
    rw [front] at outside
    exact ⟨here, outside⟩
  · rintro ⟨here, outside⟩
    exact ⟨next.symm ▸ here, front.symm ▸ outside⟩

/-- A separator stands at a place outside literals. -/
structure SeparatesAt (separator : Char) (text : List Char) (place : Nat) : Prop where
  here : text[place]? = some separator
  outside : EndsOutside (text.take place)

instance (separator : Char) (text : List Char) (place : Nat) :
    Decidable (SeparatesAt separator text place) :=
  decidable_of_iff (text[place]? = some separator ∧ EndsOutside (text.take place))
    ⟨fun ⟨here, outside⟩ => ⟨here, outside⟩, fun ⟨here, outside⟩ => ⟨here, outside⟩⟩

/-- A class of one character. -/
theorem partsAt_beq_iff {place : Nat} :
    PartsAt (· == separator) text place ↔ SeparatesAt separator text place := by
  constructor
  · rintro ⟨here, outside⟩
    obtain ⟨c, found, same⟩ := (Option.any_eq_true _ _).mp here
    rw [beq_iff_eq] at same
    exact ⟨same ▸ found, outside⟩
  · rintro ⟨here, outside⟩
    exact ⟨by simp [here], outside⟩

theorem SeparatesAt.lt_length {place : Nat} (separates : SeparatesAt separator text place) :
    place < text.length :=
  (partsAt_beq_iff.mpr separates).lt_length

/-- A separator that is no quote cuts where it stands outside literals. -/
theorem cutsHere_iff (unquoted : isQuote separator = false) :
    cutsHere (· == separator) literal c = true ↔ c = separator ∧ literal = none := by
  simp only [cutsHere, Bool.and_eq_true, Option.isNone_iff_eq_none, Bool.not_eq_true', beq_iff_eq]
  constructor
  · rintro ⟨⟨outside, -⟩, same⟩
    exact ⟨same, outside⟩
  · rintro ⟨rfl, outside⟩
    exact ⟨⟨outside, unquoted⟩, rfl⟩

theorem separatesAt_concat_of_lt {place : Nat} (before : place < text.length) :
    SeparatesAt separator (text ++ [c]) place ↔ SeparatesAt separator text place := by
  rw [← partsAt_beq_iff, ← partsAt_beq_iff]
  exact partsAt_concat_of_lt before

theorem separatesAt_concat_length :
    SeparatesAt separator (text ++ [c]) text.length ↔ c = separator ∧ EndsOutside text := by
  rw [← partsAt_beq_iff, partsAt_length_iff, beq_iff_eq]

/-- The first separator of a text with one more character. -/
theorem findFrom?_concat (separates : Char → Bool) (literal : Literal) (text : List Char) (c : Char) :
    findFrom? separates literal (text ++ [c]) =
      (findFrom? separates literal text).or
        (if cutsHere separates (text.foldl literalAfter literal) c then some text.length else none) := by
  induction text generalizing literal with
  | nil =>
    show (if cutsHere separates literal c then some 0 else none) = _
    rfl
  | cons d text ih =>
    rw [List.cons_append, findFrom?, findFrom?, List.foldl_cons]
    by_cases cuts : cutsHere separates literal d = true
    · rw [if_pos cuts, if_pos cuts]
      rfl
    · rw [if_neg cuts, if_neg cuts, ih, Option.map_or]
      congr 1
      split <;> rfl

theorem findUnquoted?_concat (unquoted : isQuote separator = false) (text : List Char) (c : Char) :
    findUnquoted? separator (text ++ [c]) =
      (findUnquoted? separator text).or
        (if c = separator ∧ text.foldl literalAfter none = none then some text.length else none) := by
  rw [findUnquoted?, findFrom?_concat]
  simp only [cutsHere_iff unquoted]
  rfl

/-- What is found stays the first separator when text is added behind. -/
theorem findFrom?_append_of_eq_some {place : Nat}
    (found : findFrom? separates literal text = some place) (back : List Char) :
    findFrom? separates literal (text ++ back) = some place := by
  induction back using List.reverseRecOn with
  | nil => rw [List.append_nil, found]
  | append_singleton back c ih => rw [← List.append_assoc, findFrom?_concat, ih, Option.some_or]

/-- Where no separator stands none is found. -/
theorem findFrom?_eq_none_of_forall (plain : ∀ c ∈ text, separates c = false) :
    findFrom? separates literal text = none := by
  induction text generalizing literal with
  | nil => rfl
  | cons c text ih =>
    rw [findFrom?_cons_eq_none]
    refine ⟨?_, ih fun d member => plain d (List.mem_cons_of_mem _ member)⟩
    simp [cutsHere, plain c List.mem_cons_self]

/-- What the search for a separator finds is the first place of the separator outside literals. -/
theorem separatesAt_of_findUnquoted? (unquoted : isQuote separator = false) (text : List Char) :
    (∀ place, findUnquoted? separator text = some place →
        SeparatesAt separator text place ∧ ∀ earlier < place, ¬ SeparatesAt separator text earlier) ∧
      (findUnquoted? separator text = none → ∀ place, ¬ SeparatesAt separator text place) := by
  induction text using List.reverseRecOn with
  | nil =>
    refine ⟨fun _ found => (by cases found), fun _ place separates => ?_⟩
    exact absurd separates.lt_length (Nat.not_lt_zero _)
  | append_singleton text c ih =>
    obtain ⟨found, missed⟩ := ih
    rw [findUnquoted?_concat unquoted]
    cases first : findUnquoted? separator text with
    | some place =>
      obtain ⟨here, before⟩ := found place first
      have inside := here.lt_length
      refine ⟨fun _ same => ?_, fun empty => by cases empty⟩
      cases same
      refine ⟨(separatesAt_concat_of_lt inside).mpr here, fun earlier lt => ?_⟩
      rw [separatesAt_concat_of_lt (lt.trans inside)]
      exact before earlier lt
    | none =>
      have nowhere := missed first
      have before : ∀ earlier < text.length, ¬ SeparatesAt separator (text ++ [c]) earlier := by
        intro earlier lt
        rw [separatesAt_concat_of_lt lt]
        exact nowhere earlier
      rw [Option.none_or]
      by_cases cuts : c = separator ∧ text.foldl literalAfter none = none
      · rw [if_pos cuts]
        refine ⟨fun _ same => ?_, fun empty => by cases empty⟩
        cases same
        exact ⟨separatesAt_concat_length.mpr ⟨cuts.1, endsOutside_iff.mpr cuts.2⟩, before⟩
      · rw [if_neg cuts]
        refine ⟨fun _ found => (by cases found), fun _ place separates => ?_⟩
        rcases Nat.lt_or_ge place text.length with lt | ge
        · exact before place lt separates
        · have within := separates.lt_length
          rw [List.length_append, List.length_singleton] at within
          obtain rfl : place = text.length := by omega
          obtain ⟨same, outside⟩ := separatesAt_concat_length.mp separates
          exact cuts ⟨same, endsOutside_iff.mp outside⟩

/-- **The first separator outside literals is found.** -/
theorem findUnquoted?_eq_some_iff (unquoted : isQuote separator = false) {place : Nat} :
    findUnquoted? separator text = some place ↔
      SeparatesAt separator text place ∧ ∀ earlier < place, ¬ SeparatesAt separator text earlier := by
  obtain ⟨found, missed⟩ := separatesAt_of_findUnquoted? unquoted text
  refine ⟨found place, fun ⟨here, before⟩ => ?_⟩
  cases first : findUnquoted? separator text with
  | none => exact absurd here (missed first place)
  | some other =>
    obtain ⟨also, ahead⟩ := found other first
    rcases Nat.lt_trichotomy other place with lt | rfl | gt
    · exact absurd also (before other lt)
    · rfl
    · exact absurd here (ahead place gt)

/-- Nothing is found only where no separator stands outside literals. -/
theorem findUnquoted?_eq_none_iff (unquoted : isQuote separator = false) :
    findUnquoted? separator text = none ↔ ∀ place, ¬ SeparatesAt separator text place := by
  obtain ⟨found, missed⟩ := separatesAt_of_findUnquoted? unquoted text
  refine ⟨missed, fun nowhere => ?_⟩
  refine Option.eq_none_iff_forall_ne_some.mpr fun place first => ?_
  exact nowhere place (found place first).1

/-- The part of a text in front of its first separator outside literals, the whole text if there is none. -/
structure IsFront (separator : Char) (front text : List Char) : Prop where
  within : front <+: text
  ends : front = text ∨ SeparatesAt separator text front.length
  first : ∀ place < front.length, ¬ SeparatesAt separator text place

/-- A text has one such part. -/
theorem IsFront.unique {front other : List Char} (isFront : IsFront separator front text)
    (also : IsFront separator other text) : other = front := by
  have notLonger : ∀ {left right : List Char}, IsFront separator left text →
      IsFront separator right text → left.length ≤ right.length := by
    intro left right long short
    refine Nat.le_of_not_lt fun shorter => ?_
    rcases short.ends with rfl | separates
    · exact absurd long.within.length_le (Nat.not_le.mpr shorter)
    · exact long.first right.length shorter separates
  have same := Nat.le_antisymm (notLonger also isFront) (notLonger isFront also)
  exact (List.prefix_of_prefix_length_le also.within isFront.within same.le).eq_of_length same

theorem isFront_of_findUnquoted? (unquoted : isQuote separator = false) (text : List Char) :
    IsFront separator (((findUnquoted? separator text).map (text.take ·)).getD text) text := by
  cases found : findUnquoted? separator text with
  | none =>
    have nowhere := (findUnquoted?_eq_none_iff unquoted).mp found
    exact ⟨List.prefix_refl _, Or.inl rfl, fun place _ => nowhere place⟩
  | some place =>
    obtain ⟨here, before⟩ := (findUnquoted?_eq_some_iff unquoted).mp found
    have length : (text.take place).length = place :=
      List.length_take_of_le (Nat.le_of_lt here.lt_length)
    refine ⟨List.take_prefix _ _, Or.inr ?_, ?_⟩
    · show SeparatesAt separator text (text.take place).length
      rw [length]
      exact here
    · show ∀ earlier < (text.take place).length, ¬ SeparatesAt separator text earlier
      rw [length]
      exact before

/-- Behind a separator outside literals a text is read as on its own. -/
theorem SeparatesAt.foldl_drop {place : Nat} (separates : SeparatesAt separator text place)
    (unquoted : isQuote separator = false) :
    (text.drop (place + 1)).foldl literalAfter none = text.foldl literalAfter none := by
  have whole : text = text.take place ++ separator :: text.drop (place + 1) := by
    obtain ⟨within, same⟩ := List.getElem?_eq_some_iff.mp separates.here
    rw [← same, List.getElem_cons_drop, List.take_append_drop]
  have after : literalAfter none separator = none := by simp [literalAfter, unquoted]
  conv_rhs => rw [whole]
  rw [List.foldl_append, endsOutside_iff.mp separates.outside, List.foldl_cons, after]

/-! ### Pieces, one character after the other -/

/-- Behind a separator outside literals no literal is open. -/
theorem literalAfter_of_cutsHere (cuts : cutsHere separates literal c = true) :
    literalAfter literal c = none := by
  simp only [cutsHere, Bool.and_eq_true, Option.isNone_iff_eq_none, Bool.not_eq_true'] at cuts
  obtain ⟨⟨rfl, unquoted⟩, -⟩ := cuts
  simp [literalAfter, unquoted]

/-- **One more character** begins a new piece or belongs to the last one. -/
theorem exists_splitFrom_concat (separates : Char → Bool) (literal : Literal) (text : List Char)
    (c : Char) :
    ∃ done last, splitFrom separates literal text = done ++ [last] ∧
      splitFrom separates literal (text ++ [c]) =
        if cutsHere separates (text.foldl literalAfter literal) c then done ++ [last] ++ [[]]
        else done ++ [last ++ [c]] := by
  induction text generalizing literal with
  | nil => exact ⟨[], [], rfl, rfl⟩
  | cons d text ih =>
    rw [List.cons_append, splitFrom, splitFrom, List.foldl_cons]
    obtain ⟨done, last, pieces, next⟩ := ih (literalAfter literal d)
    by_cases cuts : cutsHere separates literal d = true
    · rw [literalAfter_of_cutsHere cuts] at pieces next ⊢
      refine ⟨[] :: done, last, ?_, ?_⟩
      · rw [if_pos cuts, pieces]
        rfl
      · rw [if_pos cuts, next]
        split <;> rfl
    · rw [if_neg cuts, if_neg cuts, pieces, next]
      cases done with
      | nil => exact ⟨[], d :: last, rfl, by split <;> rfl⟩
      | cons piece done => exact ⟨(d :: piece) :: done, last, rfl, by split <;> rfl⟩

theorem exists_splitUnquoted (separator : Char) (text : List Char) :
    ∃ done last, splitUnquoted separator text = done ++ [last] :=
  (List.eq_nil_or_concat' _).resolve_left (splitFrom_ne_nil _ none text)

variable {done : List (List Char)} {last : List Char}

theorem splitUnquoted_concat_of_cuts (unquoted : isQuote separator = false)
    (outside : text.foldl literalAfter none = none) :
    splitUnquoted separator (text ++ [separator]) = splitUnquoted separator text ++ [[]] := by
  obtain ⟨done, last, pieces, next⟩ := exists_splitFrom_concat (· == separator) none text separator
  rw [if_pos ((cutsHere_iff unquoted).mpr ⟨rfl, outside⟩), ← pieces] at next
  exact next

theorem splitUnquoted_concat_of_stays (unquoted : isQuote separator = false)
    (pieces : splitUnquoted separator text = done ++ [last])
    (stays : ¬ (c = separator ∧ text.foldl literalAfter none = none)) :
    splitUnquoted separator (text ++ [c]) = done ++ [last ++ [c]] := by
  obtain ⟨done', last', pieces', next⟩ := exists_splitFrom_concat (· == separator) none text c
  obtain ⟨rfl, rfl⟩ := List.append_singleton_inj.mp (pieces.symm.trans pieces')
  rw [if_neg fun cuts => stays ((cutsHere_iff unquoted).mp cuts)] at next
  exact next

/-- Text without separators goes on with the last piece. -/
theorem splitUnquoted_append_of_forall (unquoted : isQuote separator = false)
    (pieces : splitUnquoted separator text = done ++ [last]) {back : List Char}
    (plain : ∀ c ∈ back, c ≠ separator) :
    splitUnquoted separator (text ++ back) = done ++ [last ++ back] := by
  induction back using List.reverseRecOn with
  | nil => rw [List.append_nil, List.append_nil, pieces]
  | append_singleton back c ih =>
    have other : c ≠ separator := plain c (by simp)
    rw [← List.append_assoc, ← List.append_assoc]
    refine splitUnquoted_concat_of_stays unquoted (ih fun d member => ?_) fun cuts => other cuts.1
    exact plain d (List.mem_append_left _ member)

/-- **A piece that is read on its own ends as the text does**: at each cut no literal is open. -/
theorem foldl_literalAfter_last (unquoted : isQuote separator = false)
    (pieces : splitUnquoted separator text = done ++ [last]) :
    last.foldl literalAfter none = text.foldl literalAfter none := by
  induction text using List.reverseRecOn generalizing done last with
  | nil =>
    obtain ⟨rfl, rfl⟩ : [] = done ∧ [] = last := List.append_singleton_inj.mp pieces
    rfl
  | append_singleton text c ih =>
    obtain ⟨done', last', pieces'⟩ := exists_splitUnquoted separator text
    rw [List.foldl_concat]
    by_cases cuts : c = separator ∧ text.foldl literalAfter none = none
    · obtain ⟨rfl, outside⟩ := cuts
      rw [splitUnquoted_concat_of_cuts unquoted outside] at pieces
      obtain ⟨-, rfl⟩ := List.append_singleton_inj.mp pieces
      rw [outside]
      simp [literalAfter, unquoted]
    · rw [splitUnquoted_concat_of_stays unquoted pieces' cuts] at pieces
      obtain ⟨-, rfl⟩ := List.append_singleton_inj.mp pieces
      rw [List.foldl_concat, ih pieces']

/-! ### Counting separators -/

/-- The places at which a separator stands outside literals. -/
def separatorPlaces (separator : Char) (text : List Char) : List Nat :=
  (List.range text.length).filter (SeparatesAt separator text ·)

theorem separatorPlaces_concat (separator : Char) (text : List Char) (c : Char) :
    separatorPlaces separator (text ++ [c]) =
      separatorPlaces separator text ++
        if c = separator ∧ EndsOutside text then [text.length] else [] := by
  have front : (List.range text.length).filter (SeparatesAt separator (text ++ [c]) ·) =
      separatorPlaces separator text := by
    refine List.filter_congr fun place member => ?_
    exact decide_eq_decide.mpr (separatesAt_concat_of_lt (List.mem_range.mp member))
  rw [separatorPlaces, List.length_append, List.length_singleton, List.range_succ, List.filter_append,
    front, List.filter_singleton]
  congr 1
  simp [separatesAt_concat_length]

/-- **There is one piece more than separators outside literals.** -/
theorem length_splitUnquoted (unquoted : isQuote separator = false) (text : List Char) :
    (splitUnquoted separator text).length = (separatorPlaces separator text).length + 1 := by
  induction text using List.reverseRecOn with
  | nil => rfl
  | append_singleton text c ih =>
    rw [separatorPlaces_concat, List.length_append]
    obtain ⟨done, last, pieces⟩ := exists_splitUnquoted separator text
    by_cases cuts : c = separator ∧ EndsOutside text
    · obtain ⟨rfl, outside⟩ := cuts
      rw [if_pos ⟨rfl, outside⟩, splitUnquoted_concat_of_cuts unquoted (endsOutside_iff.mp outside),
        List.length_append, ih]
      rfl
    · have stays : ¬ (c = separator ∧ text.foldl literalAfter none = none) :=
        fun ⟨same, state⟩ => cuts ⟨same, endsOutside_iff.mpr state⟩
      rw [if_neg cuts, splitUnquoted_concat_of_stays unquoted pieces stays]
      rw [pieces] at ih
      simpa using ih

end LiquidHover.Text
