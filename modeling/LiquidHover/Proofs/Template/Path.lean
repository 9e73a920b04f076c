/-
**The variable of an expression is the first path of its value**, and the longest one that begins there. A path is a row
of identifiers with points between them. It can begin outside literals, with a letter or an underscore, and not
directly behind a word character.

* `IsPath`, `IsLongestPath` — the grammar of paths, and the longest path with which a text begins.
* `PathBeginsAt`, `IsFirstPlace` — where a path can begin, and the first such place.
* `isLongestPath_takePath` — from such a place the longest path is taken.
* `firstPath?_eq_some_iff` — a text's first path is taken from its first such place.
* `Expression.HasValue` — the text in which the variable is looked for.
* `reference?_leftmost_longest` — all of it together.
-/
import Mathlib.Data.Nat.Find
import LiquidHover.Proofs.Template.Written
import LiquidHover.Proofs.Text.Unquoted

namespace LiquidHover.Template

open Text (EndsOutside IsFront Literal literalAfter isBlank joinWith trim findUnquoted?)

/-! ### Paths -/

/-- A dotted path: identifiers with points between them. -/
def IsPath (text : List Char) : Prop :=
  ∃ (root : Identifier) (properties : List Identifier),
    text = joinWith '.' ((root :: properties).map (·.text))

/-- The longest path with which a text begins. -/
structure IsLongestPath (path text : List Char) : Prop where
  within : path <+: text
  dotted : IsPath path
  longest : ∀ other, other <+: text → IsPath other → other.length ≤ path.length

/-- A text has one longest path. -/
theorem IsLongestPath.unique {path other text : List Char} (longest : IsLongestPath path text)
    (also : IsLongestPath other text) : other = path := by
  have shorter := longest.longest other also.within also.dotted
  have longer := also.longest path longest.within longest.dotted
  have within := List.prefix_of_prefix_length_le also.within longest.within shorter
  exact within.eq_of_length (Nat.le_antisymm shorter longer)

theorem takePath_isPrefix (text : List Char) : takePath text <+: text := by
  induction text with
  | nil => exact List.prefix_refl _
  | cons c rest ih =>
    rw [takePath]
    split
    · exact (List.prefix_cons_inj c).mpr ih
    · exact List.nil_prefix

theorem isWord_of_isIdentifierStart {c : Char} (starts : isIdentifierStart c = true) :
    isWord c = true := by
  rw [isIdentifierStart, Bool.or_eq_true] at starts
  rw [isWord, Char.isAlphanum, Bool.or_eq_true, Bool.or_eq_true]
  exact starts.imp_left Or.inl

/-- A path goes on through word characters. -/
theorem takePath_append {word : List Char} (words : ∀ c ∈ word, isWord c = true)
    (rest : List Char) : takePath (word ++ rest) = word ++ takePath rest := by
  induction word with
  | nil => rfl
  | cons c word ih =>
    have first := words c List.mem_cons_self
    rw [List.cons_append, takePath, if_pos (by simp [first]),
      ih fun d member => words d (List.mem_cons_of_mem _ member)]
    rfl

/-- A path goes on through a point in front of an identifier. -/
theorem takePath_point {c : Char} (starts : isIdentifierStart c = true) (rest : List Char) :
    takePath ('.' :: c :: rest) = '.' :: takePath (c :: rest) := by
  rw [takePath, if_pos (by simp [starts])]

/-- **A path at the start of a text is taken**, and what can follow it. -/
theorem takePath_joinWith_append (identifiers : List Identifier) (rest : List Char) :
    takePath (joinWith '.' (identifiers.map (·.text)) ++ rest) =
      joinWith '.' (identifiers.map (·.text)) ++ takePath rest := by
  induction identifiers with
  | nil => rfl
  | cons identifier identifiers ih =>
    cases identifiers with
    | nil => exact takePath_append identifier.words rest
    | cons next identifiers =>
      obtain ⟨c, first, starts⟩ := next.begins
      obtain ⟨tail, begins⟩ : ∃ tail, joinWith '.' ((next :: identifiers).map (·.text)) = c :: tail :=
        List.head?_eq_some_iff.mp ((Text.head?_joinWith next.text_ne_nil '.' _).trans first)
      rw [List.map_cons, List.map_cons, joinWith, ← List.map_cons, List.append_assoc,
        takePath_append identifier.words, List.cons_append]
      rw [begins] at ih ⊢
      rw [List.cons_append, takePath_point starts, ← List.cons_append, ih, List.append_assoc]
      rfl

/-- Joined pieces that begin with a letter have it in the first of them. -/
theorem head?_of_joinWith {word : List Char} {pieces : List (List Char)} {c : Char}
    (starts : isIdentifierStart c = true)
    (begins : (joinWith '.' (word :: pieces)).head? = some c) : word.head? = some c := by
  have nonempty : word ≠ [] := by
    rintro rfl
    cases pieces with
    | nil => cases begins
    | cons next pieces =>
      cases begins
      cases starts
  rw [← Text.head?_joinWith nonempty '.' pieces, begins]

theorem head?_takePath {c : Char} (starts : isIdentifierStart c = true) (rest : List Char) :
    (takePath (c :: rest)).head? = some c := by
  rw [takePath, if_pos (by simp [isWord_of_isIdentifierStart starts])]
  rfl

/-- What is taken from any text is a path but for its first name, which can be any word. -/
theorem exists_takePath (text : List Char) :
    ∃ (word : List Char) (names : List Identifier), (∀ c ∈ word, isWord c = true) ∧
      takePath text = joinWith '.' (word :: names.map (·.text)) := by
  induction text with
  | nil => exact ⟨[], [], List.forall_mem_nil _, rfl⟩
  | cons c rest ih =>
    obtain ⟨word, names, words, taken⟩ := ih
    rw [takePath]
    by_cases letter : isWord c = true
    · refine ⟨c :: word, names, List.forall_mem_cons.mpr ⟨letter, words⟩, ?_⟩
      rw [if_pos (by simp [letter]), taken, ← Text.joinWith_consHead '.' c (by simp)]
      rfl
    · by_cases point : c = '.' ∧ rest.head?.any isIdentifierStart = true
      · obtain ⟨rfl, follows⟩ := point
        obtain ⟨d, first, starts⟩ := (Option.any_eq_true _ _).mp follows
        obtain ⟨tail, rfl⟩ := List.head?_eq_some_iff.mp first
        have begins := head?_takePath starts tail
        rw [taken] at begins
        have head := head?_of_joinWith starts begins
        refine ⟨[], ⟨word, ⟨d, head, starts⟩, words⟩ :: names, List.forall_mem_nil _, ?_⟩
        rw [if_pos (by simp [starts]), taken]
        rfl
      · refine ⟨[], [], List.forall_mem_nil _, ?_⟩
        rw [if_neg]
        · rfl
        · simpa [letter] using point

/-- **From the start of an identifier the longest path is taken.** -/
theorem isLongestPath_takePath {c : Char} (starts : isIdentifierStart c = true) (rest : List Char) :
    IsLongestPath (takePath (c :: rest)) (c :: rest) where
  within := takePath_isPrefix _
  dotted := by
    obtain ⟨word, names, words, taken⟩ := exists_takePath (c :: rest)
    have begins := head?_takePath starts rest
    rw [taken] at begins
    exact ⟨⟨word, ⟨c, head?_of_joinWith starts begins, starts⟩, words⟩, names, taken⟩
  longest := by
    rintro other ⟨back, whole⟩ ⟨root, properties, rfl⟩
    have taken := takePath_joinWith_append (root :: properties) back
    rw [whole] at taken
    rw [taken, List.length_append]
    exact Nat.le_add_right _ _

theorem IsPath.ne_nil {path : List Char} (dotted : IsPath path) : path ≠ [] := by
  obtain ⟨root, properties, rfl⟩ := dotted
  exact WrittenOutput.path_ne_nil { root, properties, filters := [] }

/-- **The names of a path are cut apart at its points.** -/
theorem splitAt_joinWith_identifiers (root : Identifier) (properties : List Identifier) :
    Text.splitAt '.' (joinWith '.' ((root :: properties).map (·.text))) =
      (root :: properties).map (·.text) := by
  refine Text.splitAt_joinWith (by simp) fun name member => ?_
  obtain ⟨identifier, -, rfl⟩ := List.mem_map.mp member
  exact identifier.not_mem_of_not_isWord rfl

theorem IsPath.names {path : List Char} (dotted : IsPath path) :
    ∀ name ∈ Text.splitAt '.' path, ∃ identifier : Identifier, identifier.text = name := by
  obtain ⟨root, properties, rfl⟩ := dotted
  rw [splitAt_joinWith_identifiers]
  intro name member
  obtain ⟨identifier, -, same⟩ := List.mem_map.mp member
  exact ⟨identifier, same⟩

/-! ### Where a path can begin -/

/-- A path can begin at a place of a text: outside literals, with a letter or an underscore, at the start of the text or
behind a character that is no word character. -/
structure PathBeginsAt (text : List Char) (place : Nat) : Prop where
  outside : EndsOutside (text.take place)
  starts : ∃ c ∈ text[place]?, isIdentifierStart c = true
  bounded : place = 0 ∨ ∃ c ∈ text[place - 1]?, isWord c = false

/-- The first place, from `start` on, at which a path can begin. -/
structure IsFirstFrom (start : Nat) (text : List Char) (place : Nat) : Prop where
  behind : start ≤ place
  begins : PathBeginsAt text place
  first : ∀ earlier, start ≤ earlier → earlier < place → ¬ PathBeginsAt text earlier

/-- The first place of a text at which a path can begin. -/
abbrev IsFirstPlace (text : List Char) (place : Nat) : Prop := IsFirstFrom 0 text place

theorem IsFirstFrom.unique {start place other : Nat} {text : List Char}
    (first : IsFirstFrom start text place) (also : IsFirstFrom start text other) : other = place := by
  rcases Nat.lt_trichotomy other place with lt | same | gt
  · exact absurd also.begins (first.first other also.behind lt)
  · exact same
  · exact absurd first.begins (also.first place first.behind gt)

/-- A place at which no path can begin is passed over. -/
theorem isFirstFrom_succ {start place : Nat} {text : List Char} (missed : ¬ PathBeginsAt text start) :
    IsFirstFrom (start + 1) text place ↔ IsFirstFrom start text place := by
  constructor
  · rintro ⟨behind, begins, first⟩
    refine ⟨Nat.le_of_succ_le behind, begins, fun earlier later before => ?_⟩
    rcases Nat.lt_or_eq_of_le later with behind | rfl
    · exact first earlier behind before
    · exact missed
  · rintro ⟨behind, begins, first⟩
    have other : start ≠ place := by
      rintro rfl
      exact missed begins
    exact ⟨Nat.lt_of_le_of_ne behind other, begins, fun earlier later =>
      first earlier (Nat.le_of_succ_le later)⟩

/-- Where a path can begin behind a text that has been read. -/
theorem pathBeginsAt_length (front : List Char) (c : Char) (rest : List Char) :
    PathBeginsAt (front ++ c :: rest) front.length ↔
      front.foldl literalAfter none = none ∧ front.getLast?.any isWord = false ∧
        isIdentifierStart c = true := by
  have taken : (front ++ c :: rest).take front.length = front := List.take_left
  have here : (front ++ c :: rest)[front.length]? = some c := by simp
  have before : (front.length = 0 ∨ ∃ d ∈ (front ++ c :: rest)[front.length - 1]?, isWord d = false) ↔
      front.getLast?.any isWord = false := by
    rcases List.eq_nil_or_concat' front with rfl | ⟨init, d, rfl⟩
    · simp
    · have last : (init ++ [d] ++ c :: rest)[init.length]? = some d := by simp
      rw [List.getLast?_concat, List.length_append, List.length_singleton, Nat.add_sub_cancel, last]
      simp
  constructor
  · rintro ⟨outside, ⟨d, found, starts⟩, bounded⟩
    rw [taken] at outside
    rw [here] at found
    cases found
    exact ⟨Text.endsOutside_iff.mp outside, before.mp bounded, starts⟩
  · rintro ⟨outside, bounded, starts⟩
    refine ⟨?_, ⟨c, here, starts⟩, before.mpr bounded⟩
    rw [taken]
    exact Text.endsOutside_iff.mpr outside

/-- **The first path behind a text that has been read** is taken from the first place at which one can begin. -/
theorem firstPathFrom?_eq_some_iff {front rest path : List Char} :
    firstPathFrom? (front.foldl literalAfter none) (front.getLast?.any isWord) rest = some path ↔
      ∃ place, IsFirstFrom front.length (front ++ rest) place ∧
        path = takePath ((front ++ rest).drop place) := by
  induction rest generalizing front with
  | nil =>
    refine ⟨fun found => (by cases found), ?_⟩
    rintro ⟨place, ⟨behind, begins, -⟩, -⟩
    obtain ⟨c, found, -⟩ := begins.starts
    rw [List.append_nil, List.getElem?_eq_none behind] at found
    cases found
  | cons c rest ih =>
    have here := pathBeginsAt_length front c rest
    rw [firstPathFrom?]
    by_cases begins : PathBeginsAt (front ++ c :: rest) front.length
    · obtain ⟨outside, bounded, starts⟩ := here.mp begins
      rw [if_pos (by simp [outside, bounded, starts])]
      have only : IsFirstFrom front.length (front ++ c :: rest) front.length :=
        ⟨Nat.le_refl _, begins, fun earlier behind before => absurd before (Nat.not_lt.mpr behind)⟩
      have dropped : (front ++ c :: rest).drop front.length = c :: rest := List.drop_left
      constructor
      · intro found
        cases found
        exact ⟨front.length, only, by rw [dropped]⟩
      · rintro ⟨place, first, rfl⟩
        rw [only.unique first, dropped]
    · have missed : ¬ ((front.foldl literalAfter none).isNone && !(front.getLast?.any isWord) &&
          isIdentifierStart c) = true := by
        intro found
        simp only [Bool.and_eq_true, Option.isNone_iff_eq_none, Bool.not_eq_true'] at found
        exact begins (here.mpr ⟨found.1.1, found.1.2, found.2⟩)
      rw [if_neg missed]
      have next := @ih (front ++ [c])
      rw [List.foldl_concat, List.getLast?_concat, List.append_assoc, List.length_append] at next
      rw [show isWord c = (some c).any isWord from rfl, next]
      exact exists_congr fun place => and_congr_left fun _ => isFirstFrom_succ begins

theorem firstPath?_eq_some_iff {text path : List Char} :
    firstPath? text = some path ↔
      ∃ place, IsFirstPlace text place ∧ path = takePath (text.drop place) :=
  @firstPathFrom?_eq_some_iff [] text path

/-- **The first path of a text** is the longest one that begins at the first place. -/
theorem firstPath?_eq_some_iff_isLongestPath {text path : List Char} :
    firstPath? text = some path ↔
      ∃ place, IsFirstPlace text place ∧ IsLongestPath path (text.drop place) := by
  rw [firstPath?_eq_some_iff]
  refine exists_congr fun place => and_congr_right fun first => ?_
  obtain ⟨c, here, starts⟩ := first.begins.starts
  obtain ⟨within, same⟩ := List.getElem?_eq_some_iff.mp here
  have begins : text.drop place = c :: text.drop (place + 1) := by
    rw [← same, List.getElem_cons_drop]
  have longest := isLongestPath_takePath starts (text.drop (place + 1))
  rw [← begins] at longest
  constructor
  · rintro rfl
    exact longest
  · intro also
    exact longest.unique also

/-- A text has a path if one can begin somewhere in it. -/
theorem isSome_firstPath?_iff {text : List Char} :
    (firstPath? text).isSome = true ↔ ∃ place, PathBeginsAt text place := by
  classical
  rw [Option.isSome_iff_exists]
  constructor
  · rintro ⟨path, found⟩
    obtain ⟨place, first, -⟩ := firstPath?_eq_some_iff.mp found
    exact ⟨place, first.begins⟩
  · intro somewhere
    refine ⟨_, firstPath?_eq_some_iff.mpr ⟨Nat.find somewhere, ⟨Nat.zero_le _, ?_, ?_⟩, rfl⟩⟩
    · exact Nat.find_spec somewhere
    · exact fun earlier _ before => Nat.find_min somewhere before

/-! ### The value of an expression -/

/-- What stands behind the first blank of a text; nothing if there is no blank. -/
def IsBehindBlank (rest text : List Char) : Prop :=
  (∃ word blank, text = word ++ blank :: rest ∧ isBlank blank = true ∧ ∀ c ∈ word, isBlank c = false) ∨
    rest = [] ∧ ∀ c ∈ text, isBlank c = false

theorem cutKeyword_append {word : List Char} {blank : Char} (solid : ∀ c ∈ word, isBlank c = false)
    (breaks : isBlank blank = true) (rest : List Char) :
    cutKeyword (word ++ blank :: rest) = (word, rest) := by
  have whole : ∀ c ∈ word, (!isBlank c) = true := fun c member => by simp [solid c member]
  rw [cutKeyword, List.takeWhile_append_of_pos whole, List.dropWhile_append_of_pos whole,
    List.takeWhile_cons_of_neg (by simp [breaks]), List.dropWhile_cons_of_neg (by simp [breaks]),
    List.append_nil]
  rfl

theorem cutKeyword_of_forall {text : List Char} (solid : ∀ c ∈ text, isBlank c = false) :
    cutKeyword text = (text, []) := by
  have whole : ∀ c ∈ text, (!isBlank c) = true := fun c member => by simp [solid c member]
  rw [cutKeyword, List.takeWhile_eq_self_iff.mpr whole, List.dropWhile_eq_nil_iff.mpr whole]
  rfl

/-- A text has a blank in it, or none. -/
theorem exists_blank_or_forall (text : List Char) :
    (∃ word blank rest, text = word ++ blank :: rest ∧ isBlank blank = true ∧
      ∀ c ∈ word, isBlank c = false) ∨ ∀ c ∈ text, isBlank c = false := by
  cases found : text.find? isBlank with
  | none =>
    have missed := List.find?_eq_none.mp found
    exact Or.inr fun c member => Bool.eq_false_iff.mpr (missed c member)
  | some blank =>
    obtain ⟨breaks, word, rest, whole, solid⟩ := List.find?_eq_some_iff_append.mp found
    exact Or.inl ⟨word, blank, rest, whole, breaks, fun c member => by simpa using solid c member⟩

theorem isBehindBlank_iff {rest text : List Char} : IsBehindBlank rest text ↔ rest = (cutKeyword text).2 := by
  constructor
  · rintro (⟨word, blank, rfl, breaks, solid⟩ | ⟨rfl, solid⟩)
    · rw [cutKeyword_append solid breaks]
    · rw [cutKeyword_of_forall solid]
  · rintro rfl
    rcases exists_blank_or_forall text with ⟨word, blank, rest, rfl, breaks, solid⟩ | solid
    · rw [cutKeyword_append solid breaks]
      exact Or.inl ⟨word, blank, rfl, breaks, solid⟩
    · rw [cutKeyword_of_forall solid]
      exact Or.inr ⟨rfl, solid⟩

namespace Expression

variable {expression : Expression}

/-- The text of an expression in which its variable and filters stand: the content of an output, and what stands behind
the first blank of a tag. -/
def HasMarkup (expression : Expression) (markup : List Char) : Prop :=
  match expression.kind with
  | .output => markup = expression.content
  | .tag => IsBehindBlank markup expression.content

/-- The text in which the variable of an expression is looked for: its markup in front of the first pipe outside
literals, trimmed. -/
def HasValue (expression : Expression) (value : List Char) : Prop :=
  ∃ markup front, expression.HasMarkup markup ∧ IsFront '|' front markup ∧ value = trim front

/-- The value of an expression before it is trimmed. -/
def rawValue (expression : Expression) : List Char :=
  ((findUnquoted? '|' expression.markup).map (expression.markup.take ·)).getD expression.markup

theorem value_eq_trim_rawValue (expression : Expression) : expression.value = trim expression.rawValue := by
  rw [value, rawValue]
  cases findUnquoted? '|' expression.markup <;> rfl

theorem rawValue_eq_headD (expression : Expression) :
    expression.rawValue = (Text.splitUnquoted '|' expression.markup).headD [] :=
  (Text.headD_splitUnquoted '|' expression.markup).symm

theorem hasMarkup_iff {markup : List Char} :
    expression.HasMarkup markup ↔ markup = expression.markup := by
  rw [HasMarkup, Expression.markup]
  cases expression.kind with
  | output => rfl
  | tag => exact isBehindBlank_iff

/-- **The text in which a variable is looked for** is the value of the expression and no other. -/
theorem hasValue_iff {value : List Char} : expression.HasValue value ↔ value = expression.value := by
  have isFront : IsFront '|' expression.rawValue expression.markup :=
    Text.isFront_of_findUnquoted? rfl expression.markup
  rw [value_eq_trim_rawValue]
  constructor
  · rintro ⟨markup, front, has, also, rfl⟩
    rw [hasMarkup_iff] at has
    subst has
    rw [isFront.unique also]
  · rintro rfl
    exact ⟨expression.markup, expression.rawValue, hasMarkup_iff.mpr rfl, isFront, rfl⟩

end Expression

/-! ### The variable of an expression -/

/-- A variable whose path is the longest one at the first place of the value at which one can begin. -/
structure Variable.IsReferenceOf (mention : Variable) (expression : Expression) : Prop where
  found : ∃ place, IsFirstPlace expression.value place ∧
    IsLongestPath mention.path (expression.value.drop place)
  names : Text.splitAt '.' mention.path = mention.root :: mention.properties
  identifiers : ∀ name ∈ mention.root :: mention.properties,
    ∃ identifier : Identifier, identifier.text = name
  range : mention.range = expression.bounds

/-- The names of a variable are the pieces of its path. -/
theorem Variable.splitAt_path (mention : Variable) :
    Text.splitAt '.' mention.path = mention.root :: mention.properties := by
  obtain ⟨root, properties, pieces⟩ := List.exists_cons_of_ne_nil (Text.splitAt_ne_nil '.' mention.path)
  rw [Variable.root, Variable.properties, pieces]
  rfl

/-- **The variable of an expression** is the leftmost and longest path of its value; there is one exactly when a path
can begin somewhere in the value. -/
theorem reference?_leftmost_longest (expression : Expression) :
    (∀ value, expression.HasValue value ↔ value = expression.value) ∧
      (expression.reference?.isSome = true ↔ ∃ place, PathBeginsAt expression.value place) ∧
      ∀ mention, expression.reference? = some mention ↔ mention.IsReferenceOf expression := by
  refine ⟨fun _ => Expression.hasValue_iff, ?_, fun mention => ?_⟩
  · rw [Expression.reference?, Option.isSome_map, isSome_firstPath?_iff]
  · rw [Expression.reference?, Option.map_eq_some_iff]
    constructor
    · rintro ⟨path, found, rfl⟩
      obtain ⟨place, first, longest⟩ := firstPath?_eq_some_iff_isLongestPath.mp found
      have split := Variable.splitAt_path { path, range := expression.bounds }
      refine ⟨⟨place, first, longest⟩, split, ?_, rfl⟩
      rw [← split]
      exact longest.dotted.names
    · rintro ⟨found, -, -, range⟩
      refine ⟨mention.path, firstPath?_eq_some_iff_isLongestPath.mpr found, ?_⟩
      rw [← range]

/-- Behind a digit no path begins, behind a point one does; a point in front of a digit ends it. -/
example : firstPath? "'a' 1b.c_d.e1.2".toList = some "c_d.e1".toList := by
  decide

end LiquidHover.Template
