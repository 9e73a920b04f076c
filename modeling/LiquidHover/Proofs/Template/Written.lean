/-
**Expressions as they are written.** An expression is written with one blank inside each delimiter. An
output is a dotted path and then its filters, each behind a pipe; a tag is a keyword. Filters and tags
have parameters between single quotes, with a comma and a blank between neighbours.

* `Identifier`, `Parameter`, `WrittenFilter`, `WrittenOutput`, `WrittenTag` — what can be written.
* `printParameters`, `WrittenOutput.content`, `WrittenTag.content`, `written` — how it is written.
* `WrittenOutput.stripped_content`, `WrittenTag.stripped_content` — the content has no blanks at its
  ends, so it is what is left of the expression after trimming.
-/
import LiquidHover.Proofs.Text.Literals
import LiquidHover.Proofs.Text.Pieces
import LiquidHover.Proofs.Text.Strip
import LiquidHover.Template.FilterCall
import LiquidHover.Template.TagCall
import LiquidHover.Template.Variable

namespace LiquidHover.Template

open Text (Closed Stripped isBlank isQuote joinWith trim)

/-! ### Blanks and marks -/

theorem isBlank_of_mem_space : ∀ c ∈ [' '], isBlank c = true :=
  List.forall_mem_singleton.mpr (by decide)

/-- A text between two blanks is what trimming leaves. -/
theorem trim_between {text : List Char} (stripped : Stripped isBlank text) :
    trim ([' '] ++ text ++ [' ']) = text :=
  Text.strip_surrounded isBlank_of_mem_space stripped isBlank_of_mem_space

theorem trim_behind {text : List Char} (stripped : Stripped isBlank text) :
    trim ([' '] ++ text) = text := by
  have surrounded : trim ([' '] ++ text ++ []) = text :=
    Text.strip_surrounded isBlank_of_mem_space stripped (List.forall_mem_nil _)
  rw [List.append_nil] at surrounded
  exact surrounded

theorem trim_before {text : List Char} (stripped : Stripped isBlank text) :
    trim (text ++ [' ']) = text := by
  have surrounded : trim ([] ++ text ++ [' ']) = text :=
    Text.strip_surrounded (List.forall_mem_nil _) stripped isBlank_of_mem_space
  rw [List.nil_append] at surrounded
  exact surrounded

theorem closed_space {separates : Char → Bool} (blank : separates ' ' = false) :
    Closed separates [' '] :=
  Text.closed_of_plain (List.forall_mem_singleton.mpr ⟨rfl, blank⟩)

/-- A mark and a blank are closed for every class without them. -/
theorem closed_mark {separates : Char → Bool} {mark : Char} (unquoted : isQuote mark = false)
    (kept : separates mark = false) (blank : separates ' ' = false) :
    Closed separates [mark, ' '] :=
  Text.closed_of_plain (List.forall_mem_cons.mpr
    ⟨⟨unquoted, kept⟩, List.forall_mem_singleton.mpr ⟨rfl, blank⟩⟩)

/-! ### Word characters -/

/-- The code points of word characters. -/
theorem toNat_of_isWord {c : Char} (word : isWord c = true) :
    (48 ≤ c.toNat ∧ c.toNat ≤ 57) ∨ (65 ≤ c.toNat ∧ c.toNat ≤ 90) ∨ c.toNat = 95 ∨
      (97 ≤ c.toNat ∧ c.toNat ≤ 122) := by
  rw [isWord, Bool.or_eq_true, beq_iff_eq] at word
  rcases word with alphanumeric | rfl
  · rcases (Bool.or_eq_true _ _).mp alphanumeric with alpha | digit
    · rcases (Bool.or_eq_true _ _).mp alpha with upper | lower
      · exact Or.inr (Or.inl (of_decide_eq_true upper))
      · obtain ⟨low, high⟩ := (Bool.and_eq_true _ _).mp lower
        exact Or.inr (Or.inr (Or.inr ⟨of_decide_eq_true low, of_decide_eq_true high⟩))
    · obtain ⟨low, high⟩ := (Bool.and_eq_true _ _).mp digit
      exact Or.inl ⟨of_decide_eq_true low, of_decide_eq_true high⟩
  · decide

theorem isBlank_of_isWord {c : Char} (word : isWord c = true) : isBlank c = false := by
  have code := toNat_of_isWord word
  simp only [isBlank, Bool.or_eq_false_iff, Bool.and_eq_false_iff, decide_eq_false_iff_not,
    beq_eq_false_iff_ne]
  omega

theorem isQuote_of_isWord {c : Char} (word : isWord c = true) : isQuote c = false := by
  rw [Bool.eq_false_iff]
  intro quote
  simp only [isQuote, Bool.or_eq_true, beq_iff_eq] at quote
  rcases quote with rfl | rfl <;> exact absurd word (by decide)

/-! ### What can be written -/

/-- An identifier: a letter or underscore, and then word characters. -/
structure Identifier where
  text : List Char
  begins : ∃ c ∈ text.head?, isIdentifierStart c = true
  words : ∀ c ∈ text, isWord c = true

/-- A parameter that can stand between single quotes and is read back as it is. -/
structure Parameter where
  text : List Char
  nonempty : text ≠ []
  unquoted : '\'' ∉ text
  head_ne : text.head? ≠ some '"'
  last_ne : text.getLast? ≠ some '"'

/-- A use of a filter. -/
structure WrittenFilter where
  name : Identifier
  parameters : List Parameter

/-- An output of a property of an object through filters. -/
structure WrittenOutput where
  root : Identifier
  properties : List Identifier
  filters : List WrittenFilter

/-- A use of a tag. -/
structure WrittenTag where
  name : List Char
  named : name ≠ []
  unbroken : ∀ c ∈ name, isBlank c = false
  parameters : List Parameter

/-! ### How it is written -/

/-- A parameter between single quotes. -/
def Parameter.quoted (parameter : Parameter) : List Char := '\'' :: parameter.text ++ ['\'']

/-- Parameters with commas between them. -/
def printParameters : List Parameter → List Char
  | [] => []
  | [last] => last.quoted
  | parameter :: next :: parameters =>
    parameter.quoted ++ [',', ' '] ++ printParameters (next :: parameters)

/-- A filter, with a colon in front of its parameters if there are some. -/
def WrittenFilter.print (filter : WrittenFilter) : List Char :=
  match filter.parameters with
  | [] => filter.name.text
  | first :: rest => filter.name.text ++ [':', ' '] ++ printParameters (first :: rest)

/-- The dotted path of an output. -/
def WrittenOutput.path (output : WrittenOutput) : List Char :=
  joinWith '.' ((output.root :: output.properties).map (·.text))

/-- A text and filters behind it. -/
def printFilters (front : List Char) (filters : List WrittenFilter) : List Char :=
  front ++ filters.flatMap fun filter => [' ', '|', ' '] ++ filter.print

/-- What stands between the delimiters of an output. -/
def WrittenOutput.content (output : WrittenOutput) : List Char :=
  printFilters output.path output.filters

/-- What stands between the delimiters of a tag. -/
def WrittenTag.content (tag : WrittenTag) : List Char :=
  match tag.parameters with
  | [] => tag.name
  | first :: rest => tag.name ++ [' '] ++ printParameters (first :: rest)

/-- An expression with the given content. -/
def written (kind : Kind) (content : List Char) : List Char :=
  kind.opener ++ ([' '] ++ content ++ [' ']) ++ kind.closer

/-! ### Identifiers and paths -/

namespace Identifier

variable (identifier : Identifier)

theorem text_ne_nil : identifier.text ≠ [] := by
  obtain ⟨c, first, _⟩ := identifier.begins
  exact List.ne_nil_of_mem (List.mem_of_mem_head? first)

theorem stripped : Stripped isBlank identifier.text :=
  Text.stripped_of_forall fun c member => isBlank_of_isWord (identifier.words c member)

/-- An identifier is closed for every class without word characters. -/
theorem closed {separates : Char → Bool} (apart : ∀ c, isWord c = true → separates c = false) :
    Closed separates identifier.text :=
  Text.closed_of_plain fun c member =>
    ⟨isQuote_of_isWord (identifier.words c member), apart c (identifier.words c member)⟩

theorem not_mem_of_not_isWord {c : Char} (other : isWord c = false) : c ∉ identifier.text := by
  intro member
  rw [identifier.words c member] at other
  cases other

end Identifier

/-- A separator that is no word character stands in no identifier. -/
theorem beq_eq_false_of_isWord {separator : Char} (other : isWord separator = false) {c : Char}
    (word : isWord c = true) : (c == separator) = false := by
  rw [beq_eq_false_iff_ne]
  rintro rfl
  rw [word] at other
  cases other

namespace WrittenOutput

variable (output : WrittenOutput)

/-- The characters of a path. -/
theorem isWord_or_eq_of_mem_path {c : Char} (member : c ∈ output.path) :
    isWord c = true ∨ c = '.' := by
  rcases Text.mem_joinWith member with point | ⟨text, found, inside⟩
  · exact Or.inr point
  · obtain ⟨identifier, _, rfl⟩ := List.mem_map.mp found
    exact Or.inl (identifier.words c inside)

theorem path_ne_nil : output.path ≠ [] := by
  have root := output.root.text_ne_nil
  rw [path, List.map_cons]
  cases output.properties with
  | nil => exact root
  | cons property properties =>
    intro empty
    exact root (List.append_eq_nil_iff.mp empty).1

theorem stripped_path : Stripped isBlank output.path := by
  refine Text.stripped_of_forall fun c member => ?_
  rcases output.isWord_or_eq_of_mem_path member with word | rfl
  · exact isBlank_of_isWord word
  · decide

theorem closed_path : Closed (· == '|') output.path := by
  refine Text.closed_of_plain fun c member => ?_
  rcases output.isWord_or_eq_of_mem_path member with word | rfl
  · exact ⟨isQuote_of_isWord word, beq_eq_false_of_isWord rfl word⟩
  · decide

end WrittenOutput

/-! ### Parameters -/

namespace Parameter

variable (parameter : Parameter)

theorem stripped_quoted : Stripped isBlank parameter.quoted :=
  ⟨fun c first => by cases first; decide, fun c last => by
    rw [quoted, List.getLast?_append] at last
    cases last
    decide⟩

theorem quoted_ne_nil : parameter.quoted ≠ [] := by simp [quoted]

/-- **A parameter between quotes is closed**, whatever stands in it. -/
theorem closed_quoted (separates : Char → Bool) : Closed separates parameter.quoted :=
  Text.closed_quoted separates rfl parameter.unquoted

/-- The text of a parameter has no quotes at its ends. -/
theorem stripped_text : Stripped isQuote parameter.text where
  head c first := by
    have inside : c ≠ '\'' := fun same => parameter.unquoted (same ▸ List.mem_of_mem_head? first)
    have double : c ≠ '"' := fun same => parameter.head_ne (same ▸ first)
    simp [isQuote, inside, double]
  last c last := by
    have inside : c ≠ '\'' := fun same =>
      parameter.unquoted (same ▸ List.mem_of_mem_getLast? last)
    have double : c ≠ '"' := fun same => parameter.last_ne (same ▸ last)
    simp [isQuote, inside, double]

/-- **Without its quotes a parameter is its text.** -/
theorem stripQuotes_quoted : Text.stripQuotes parameter.quoted = parameter.text := by
  have quote : ∀ c ∈ ['\''], isQuote c = true := List.forall_mem_singleton.mpr rfl
  exact Text.strip_surrounded quote parameter.stripped_text quote

end Parameter

/-- No parameter is left out for being empty. -/
theorem filter_map_text (parameters : List Parameter) :
    (parameters.map (·.text)).filter (!·.isEmpty) = parameters.map (·.text) := by
  refine List.filter_eq_self.mpr fun text member => ?_
  obtain ⟨parameter, _, rfl⟩ := List.mem_map.mp member
  simp [parameter.nonempty]

theorem printParameters_ne_nil (first : Parameter) (rest : List Parameter) :
    printParameters (first :: rest) ≠ [] := by
  cases rest <;> simp [printParameters, Parameter.quoted]

theorem stripped_printParameters (first : Parameter) (rest : List Parameter) :
    Stripped isBlank (printParameters (first :: rest)) := by
  induction rest generalizing first with
  | nil => exact first.stripped_quoted
  | cons next rest ih =>
    exact first.stripped_quoted.enclose first.quoted_ne_nil _ (ih next)
      (printParameters_ne_nil next rest)

/-- Written parameters are closed for every class without the comma and the blank. -/
theorem closed_printParameters {separates : Char → Bool} (comma : separates ',' = false)
    (blank : separates ' ' = false) (parameters : List Parameter) :
    Closed separates (printParameters parameters) := by
  induction parameters with
  | nil => exact ⟨rfl, rfl⟩
  | cons first parameters ih =>
    cases parameters with
    | nil => exact first.closed_quoted separates
    | cons next parameters =>
      exact ((first.closed_quoted separates).append (closed_mark rfl comma blank)).append ih

/-! ### Filters -/

namespace WrittenFilter

variable (filter : WrittenFilter)

theorem print_ne_nil : filter.print ≠ [] := by
  have named := filter.name.text_ne_nil
  unfold print
  split
  · exact named
  · simp

theorem stripped_print : Stripped isBlank filter.print := by
  unfold print
  split
  · exact filter.name.stripped
  · exact filter.name.stripped.enclose filter.name.text_ne_nil _ (stripped_printParameters _ _)
      (printParameters_ne_nil _ _)

/-- **A written filter holds no pipe outside its literals.** -/
theorem closed_print : Closed (· == '|') filter.print := by
  have name : Closed (· == '|') filter.name.text :=
    filter.name.closed fun _ => beq_eq_false_of_isWord rfl
  unfold print
  split
  · exact name
  · exact (name.append (closed_mark rfl rfl rfl)).append (closed_printParameters rfl rfl _)

end WrittenFilter

theorem printFilters_cons (front : List Char) (filter : WrittenFilter)
    (filters : List WrittenFilter) :
    printFilters front (filter :: filters) =
      printFilters (front ++ [' ', '|', ' '] ++ filter.print) filters := by
  simp [printFilters]

theorem stripped_printFilters {front : List Char} (stripped : Stripped isBlank front)
    (nonempty : front ≠ []) (filters : List WrittenFilter) :
    Stripped isBlank (printFilters front filters) ∧ printFilters front filters ≠ [] := by
  induction filters generalizing front with
  | nil =>
    rw [printFilters, List.flatMap_nil, List.append_nil]
    exact ⟨stripped, nonempty⟩
  | cons filter filters ih =>
    rw [printFilters_cons]
    refine ih (stripped.enclose nonempty _ filter.stripped_print filter.print_ne_nil) ?_
    simp

/-! ### Contents -/

theorem WrittenOutput.stripped_content (output : WrittenOutput) :
    Stripped isBlank output.content ∧ output.content ≠ [] :=
  stripped_printFilters output.stripped_path output.path_ne_nil _

theorem WrittenTag.stripped_content (tag : WrittenTag) :
    Stripped isBlank tag.content ∧ tag.content ≠ [] := by
  have name := Text.stripped_of_forall tag.unbroken
  unfold content
  split
  · exact ⟨name, tag.named⟩
  · refine ⟨name.enclose tag.named _ (stripped_printParameters _ _)
      (printParameters_ne_nil _ _), ?_⟩
    simp

end LiquidHover.Template
