/-
**Reading undoes writing.** What was written as an output is read as that output, with its path and all
its filters, and what was written as a tag is read as that tag, wherever in a line it stands first, and
whatever separators stand in its parameters.

* `ClosesOnce` — the closer stands in what is written at its end only.
* `all_written` — the first expression of a line in which an expression was written.
* `reference?_of_content`, `filters_of_content`, `tag?_of_content` — what is read from the content.
* `read_written` — all of it together.
-/
import LiquidHover.Proofs.Template.Path
import LiquidHover.Proofs.Template.Scan

namespace LiquidHover.Template

open Text (Closed OccursAt Stripped isBlank joinWith splitUnquoted trim trimEnd stripQuotes
  withOffsets)

/-! ### The expression in the line -/

/-- The closer stands in a written expression at its end only. -/
def ClosesOnce (kind : Kind) (content : List Char) : Prop :=
  ∀ position < (written kind content).length,
    OccursAt kind.closer (written kind content) position →
      position + 2 = (written kind content).length

instance (kind : Kind) (content : List Char) : Decidable (ClosesOnce kind content) :=
  inferInstanceAs (Decidable (∀ position < _, _ → _))

/-- The text between the delimiters of a written expression ends at the first closer. -/
theorem cutCloser_written {kind : Kind} {content : List Char} (once : ClosesOnce kind content)
    (after : List Char) :
    cutCloser kind ([' '] ++ content ++ [' '] ++ kind.closer ++ after) =
      some ([' '] ++ content ++ [' '], after) := by
  refine cutCloser_eq_some_iff.mpr ⟨rfl, fun position before occurs => ?_⟩
  have inside : OccursAt kind.closer ([' '] ++ content ++ [' '] ++ kind.closer) position :=
    occurs.of_append_right (by rw [List.length_append, length_closer]; omega)
  have shifted : OccursAt kind.closer (written kind content) (kind.opener.length + position) := by
    rw [written, List.append_assoc]
    exact (Text.occursAt_append_left kind.opener).mpr inside
  have size : (written kind content).length = ([' '] ++ content ++ [' ']).length + 4 := by
    rw [written, List.length_append, List.length_append, length_opener, length_closer]
    omega
  rw [length_opener] at shifted
  have ends := once _ (by omega) shifted
  omega

theorem ofDelimited_written {kind : Kind} {content : List Char} (start : Nat)
    (stripped : Stripped isBlank content) (nonempty : content ≠ []) :
    Expression.ofDelimited { kind, start, inner := [' '] ++ content ++ [' '] } =
      { kind, bounds := .ofParts start (written kind content).length, content,
        contentStart := start + 3 } := by
  have leading : dropLeadingDash ([' '] ++ content ++ [' ']) = [' '] ++ content ++ [' '] := rfl
  have trailing : dropTrailingDash ([' '] ++ content ++ [' ']) = [' '] ++ content ++ [' '] := by
    rw [dropTrailingDash, List.getLast?_append]
    rfl
  have trimmed : trim ([' '] ++ content ++ [' ']) = content := trim_between stripped
  have lead : Text.blankPrefixLength ([' '] ++ content ++ [' ']) = 1 := by
    obtain ⟨c, rest, rfl⟩ := List.exists_cons_of_ne_nil nonempty
    have first : isBlank c = false := stripped.head c rfl
    have space : isBlank ' ' = true := by decide
    simp [Text.blankPrefixLength, first, space]
  simp only [Expression.ofDelimited, leading, trailing, trimmed, lead, Nat.sub_self, Nat.zero_add]
  congr 2
  simp [written, Delimited.length]
  omega

/-- **The first expression of a line is the one that was written**, when nothing opens before it. -/
theorem all_written {kind : Kind} {content before : List Char} (plain : '{' ∉ before)
    (once : ClosesOnce kind content) (stripped : Stripped isBlank content ∧ content ≠ [])
    (after : List Char) :
    (Expression.all (before ++ written kind content ++ after)).head? =
      some { kind, bounds := .ofParts before.length (written kind content).length, content,
             contentStart := before.length + 3 } := by
  have line : before ++ written kind content ++ after =
      before ++ (kind.opener ++ ([' '] ++ content ++ [' '] ++ kind.closer ++ after)) := by
    simp [written]
  rw [line, Expression.all, Delimited.scan, Delimited.scanFrom_append_of_not_mem plain,
    Delimited.scanFrom_opener (cutCloser_written once after), List.map_cons, List.head?_cons,
    Nat.zero_add, ofDelimited_written _ stripped.1 stripped.2]

/-! ### The pieces of an output -/

/-- The pieces between the pipes of a text and the filters behind it. -/
def segments (front : List Char) : List WrittenFilter → List (List Char)
  | [] => [front]
  | filter :: filters => (front ++ [' ']) :: segments ([' '] ++ filter.print) filters

/-- **The pipes between filters cut, and no other pipe does.** -/
theorem splitUnquoted_printFilters {front : List Char} (closed : Closed (· == '|') front)
    (filters : List WrittenFilter) :
    splitUnquoted '|' (printFilters front filters) = segments front filters := by
  have blank : Closed (· == '|') [' '] := closed_space rfl
  induction filters generalizing front with
  | nil =>
    rw [printFilters, List.flatMap_nil, List.append_nil]
    exact Text.splitUnquotedBy_closed closed
  | cons filter filters ih =>
    have pipe : printFilters front (filter :: filters) =
        front ++ [' '] ++ '|' :: printFilters ([' '] ++ filter.print) filters := by
      simp [printFilters]
    rw [pipe, splitUnquoted, Text.splitUnquotedBy_closed_append (closed.append blank) rfl rfl]
    exact congrArg _ (ih (blank.append filter.closed_print))

/-! ### The variable of an output -/

namespace WrittenOutput

variable (output : WrittenOutput)

/-- The path of an output is the first path in it. -/
theorem firstPath?_path : firstPath? output.path = some output.path := by
  obtain ⟨c, first, start⟩ := output.root.begins
  obtain ⟨rest, begins⟩ : ∃ rest, output.path = c :: rest :=
    List.head?_eq_some_iff.mp ((Text.head?_joinWith output.root.text_ne_nil '.' _).trans first)
  have whole : takePath output.path = output.path := by
    have taken := takePath_joinWith_append (output.root :: output.properties) []
    rw [List.append_nil] at taken
    exact taken.trans (List.append_nil _)
  rw [begins] at whole ⊢
  rw [firstPath?, firstPathFrom?, if_pos (by simp [start]), whole]

/-- **The names of a path are read back.** -/
theorem splitAt_path :
    Text.splitAt '.' output.path = (output.root :: output.properties).map (·.text) :=
  splitAt_joinWith_identifiers output.root output.properties

/-- What stands in front of the first pipe is the path. -/
theorem value_of_content {expression : Expression} (kind : expression.kind = .output)
    (content : expression.content = output.content) : expression.value = output.path := by
  have pieces := splitUnquoted_printFilters output.closed_path output.filters
  rw [← WrittenOutput.content, ← content] at pieces
  rw [Expression.value_eq_trim_rawValue, Expression.rawValue_eq_headD, Expression.markup, kind]
  show trim ((splitUnquoted '|' expression.content).headD []) = output.path
  rw [pieces]
  cases output.filters with
  | nil => exact Text.strip_of_stripped output.stripped_path
  | cons filter filters => exact trim_before output.stripped_path

theorem reference?_of_content {expression : Expression} (kind : expression.kind = .output)
    (content : expression.content = output.content) :
    expression.reference? = some { path := output.path, range := expression.bounds } := by
  rw [Expression.reference?, output.value_of_content kind content, output.firstPath?_path]
  rfl

end WrittenOutput

/-! ### The filters of an output -/

/-- **The name of a written filter is cut off at its colon.** -/
theorem cutName_print (filter : WrittenFilter) :
    FilterCall.cutName filter.print =
      (filter.name.text, match filter.parameters with
        | [] => []
        | first :: rest => [' '] ++ printParameters (first :: rest)) := by
  have closed : Closed (· == ':') filter.name.text :=
    filter.name.closed fun _ => beq_eq_false_of_isWord rfl
  unfold WrittenFilter.print
  cases filter.parameters with
  | nil =>
    show FilterCall.cutName filter.name.text = _
    rw [FilterCall.cutName, Text.findUnquoted?_closed closed]
  | cons first rest =>
    have colon : filter.name.text ++ [':', ' '] ++ printParameters (first :: rest) =
        filter.name.text ++ ':' :: ([' '] ++ printParameters (first :: rest)) := by
      simp
    have name : trimEnd filter.name.text = filter.name.text := by
      have kept := Text.stripEnd_append_of_last filter.name.stripped.last
        (List.forall_mem_nil (isBlank · = true))
      rw [List.append_nil] at kept
      exact kept
    show FilterCall.cutName (filter.name.text ++ [':', ' '] ++ printParameters (first :: rest)) = _
    rw [colon, FilterCall.cutName, Text.findUnquoted?_closed_append closed rfl]
    simp only [List.take_left, name]
    rw [← List.drop_drop, List.drop_left]
    rfl

/-- Written parameters are cut at the commas between them. -/
theorem splitUnquoted_printParameters (first : Parameter) (rest : List Parameter) :
    splitUnquoted ',' ([' '] ++ printParameters (first :: rest)) =
      (first :: rest).map fun parameter => [' '] ++ parameter.quoted := by
  have closed : ∀ parameter : Parameter, Closed (· == ',') ([' '] ++ parameter.quoted) :=
    fun parameter => (closed_space rfl).append (parameter.closed_quoted _)
  induction rest generalizing first with
  | nil => exact Text.splitUnquotedBy_closed (closed first)
  | cons next rest ih =>
    have comma : [' '] ++ printParameters (first :: next :: rest) =
        [' '] ++ first.quoted ++ ',' :: ([' '] ++ printParameters (next :: rest)) := by
      simp [printParameters]
    rw [comma, splitUnquoted, Text.splitUnquotedBy_closed_append (closed first) rfl rfl]
    exact congrArg _ (ih next)

/-- **Parameters are read back.** -/
theorem parametersOf_printParameters (first : Parameter) (rest : List Parameter) :
    FilterCall.parametersOf ([' '] ++ printParameters (first :: rest)) =
      (first :: rest).map (·.text) := by
  have read : ∀ parameter : Parameter,
      stripQuotes (trim ([' '] ++ parameter.quoted)) = parameter.text := fun parameter => by
    rw [trim_behind parameter.stripped_quoted, parameter.stripQuotes_quoted]
  rw [FilterCall.parametersOf, splitUnquoted_printParameters, List.map_map]
  have texts : (first :: rest).map ((fun argument => stripQuotes (trim argument)) ∘
      fun parameter => [' '] ++ parameter.quoted) = (first :: rest).map (·.text) :=
    List.map_congr_left fun parameter _ => read parameter
  rw [texts]
  exact filter_map_text _

/-- **A written filter is read back** from the piece of text that holds it. -/
theorem ofSegment?_of_trim {filter : WrittenFilter} {segment : List Char}
    (trimmed : trim segment = filter.print) (start : Nat) :
    ∃ range, FilterCall.ofSegment? start segment =
      some { name := filter.name.text, parameters := filter.parameters.map (·.text), range } := by
  have parameters : FilterCall.parametersOf (FilterCall.cutName filter.print).2 =
      filter.parameters.map (·.text) := by
    rw [cutName_print]
    cases filter.parameters with
    | nil => rfl
    | cons first rest => exact parametersOf_printParameters first rest
  have name : (FilterCall.cutName filter.print).1 = filter.name.text := by rw [cutName_print]
  have named : filter.name.text.isEmpty = false := by simp [filter.name.text_ne_nil]
  rw [FilterCall.ofSegment?, trimmed]
  simp only [name, parameters, named]
  exact ⟨_, rfl⟩

/-- The name and the parameters of a filter. -/
def FilterCall.parts (call : FilterCall) : List Char × List (List Char) :=
  (call.name, call.parameters)

/-- The name and the parameters of a written filter. -/
def WrittenFilter.parts (filter : WrittenFilter) : List Char × List (List Char) :=
  (filter.name.text, filter.parameters.map (·.text))

theorem filterMap_segments (filter : WrittenFilter) (filters : List WrittenFilter) (start : Nat) :
    ((withOffsets start (segments ([' '] ++ filter.print) filters)).filterMap
        fun (start, segment) => FilterCall.ofSegment? start segment).map FilterCall.parts =
      (filter :: filters).map WrittenFilter.parts := by
  induction filters generalizing filter start with
  | nil =>
    obtain ⟨range, found⟩ := ofSegment?_of_trim (trim_behind filter.stripped_print) start
    simp only [segments, withOffsets, List.filterMap_cons, found]
    rfl
  | cons next filters ih =>
    obtain ⟨range, found⟩ := ofSegment?_of_trim (trim_between filter.stripped_print) start
    simp only [segments, withOffsets, List.filterMap_cons, found, List.map_cons, ih]
    rfl

/-- **The filters of a written output are read back** in order. -/
theorem filters_of_content {expression : Expression} {output : WrittenOutput}
    (content : expression.content = output.content) :
    expression.filters.map FilterCall.parts = output.filters.map WrittenFilter.parts := by
  rw [Expression.filters, content, WrittenOutput.content,
    splitUnquoted_printFilters output.closed_path]
  cases output.filters with
  | nil => rfl
  | cons filter filters => exact filterMap_segments filter filters _

/-! ### The tag -/

/-- **The keyword of a written tag is cut off at its blank.** -/
theorem cutKeyword_content (tag : WrittenTag) :
    cutKeyword tag.content = (tag.name, printParameters tag.parameters) := by
  have kept : ∀ c ∈ tag.name, (!isBlank c) = true := fun c member => by
    rw [tag.unbroken c member]
    rfl
  unfold WrittenTag.content
  cases tag.parameters with
  | nil =>
    have whole : tag.name.takeWhile (!isBlank ·) = tag.name := List.takeWhile_eq_self_iff.mpr kept
    have none : tag.name.dropWhile (!isBlank ·) = [] := List.dropWhile_eq_nil_iff.mpr kept
    show cutKeyword tag.name = _
    rw [cutKeyword, whole, none]
    rfl
  | cons first rest =>
    have space : isBlank ' ' = true := by decide
    show cutKeyword (tag.name ++ [' '] ++ printParameters (first :: rest)) = _
    rw [cutKeyword, List.append_assoc, List.takeWhile_append_of_pos kept,
      List.dropWhile_append_of_pos kept]
    simp [space]

/-- Written parameters are the arguments between commas and blanks. -/
theorem splitArguments_printParameters (parameters : List Parameter) :
    Text.splitArguments (printParameters parameters) = parameters.map (·.quoted) := by
  have filled : ∀ parameter : Parameter, (!parameter.quoted.isEmpty) = true := fun _ => rfl
  have closed : ∀ parameter : Parameter, Closed Text.isArgumentBreak parameter.quoted :=
    fun parameter => parameter.closed_quoted _
  induction parameters with
  | nil => rfl
  | cons first parameters ih =>
    cases parameters with
    | nil =>
      show (Text.splitUnquotedBy Text.isArgumentBreak first.quoted).filter _ = [first.quoted]
      rw [Text.splitUnquotedBy_closed (closed first), List.filter_cons, if_pos (filled first)]
      rfl
    | cons next parameters =>
      have comma : printParameters (first :: next :: parameters) =
          first.quoted ++ ',' :: ([] ++ ' ' :: printParameters (next :: parameters)) := by
        simp [printParameters]
      rw [Text.splitArguments, comma,
        Text.splitUnquotedBy_closed_append (closed first) (by decide) rfl,
        Text.splitUnquotedBy_closed_append ⟨rfl, rfl⟩ (by decide) rfl,
        List.filter_cons, if_pos (filled first)]
      exact congrArg _ ih

/-- **A written tag is read back.** -/
theorem tag?_of_content {expression : Expression} {tag : WrittenTag}
    (kind : expression.kind = .tag) (content : expression.content = tag.content) :
    expression.tag? = some
      { name := tag.name
        parameters := tag.parameters.map (·.text)
        markup := printParameters tag.parameters
        range := .ofParts expression.contentStart tag.name.length } := by
  have trimmed : trim (printParameters tag.parameters) = printParameters tag.parameters := by
    cases tag.parameters with
    | nil => rfl
    | cons first rest => exact Text.strip_of_stripped (stripped_printParameters first rest)
  have texts : ((tag.parameters.map (·.quoted)).map stripQuotes).filter (!·.isEmpty) =
      tag.parameters.map (·.text) := by
    rw [List.map_map, List.map_congr_left fun parameter _ => parameter.stripQuotes_quoted]
    exact filter_map_text _
  rw [Expression.tag?, content, cutKeyword_content]
  simp only [kind, trimmed, splitArguments_printParameters, texts]
  exact if_pos ⟨trivial, tag.named⟩

/-! ### Reading a line -/

/-- The first expression of a line is the output, written at an offset: its bounds and its content are
those of what was written, its variable has the names of the path, and its filters have the names and
the parameters of the filters, in order. -/
def WrittenOutput.IsReadFrom (output : WrittenOutput) (line : List Char) (start : Nat) : Prop :=
  ∃ expression, (Expression.all line).head? = some expression ∧
    expression = { kind := .output
                   bounds := .ofParts start (written .output output.content).length
                   content := output.content
                   contentStart := start + 3 } ∧
    (∃ reference, expression.reference? = some reference ∧
      reference.root = output.root.text ∧
      reference.properties = output.properties.map (·.text) ∧
      reference.path = joinWith '.' ((output.root :: output.properties).map (·.text))) ∧
    expression.filters.map FilterCall.parts = output.filters.map WrittenFilter.parts

/-- The first expression of a line is the tag, written at an offset: its bounds and its content are
those of what was written, and its tag has the name and the parameters. -/
def WrittenTag.IsReadFrom (tag : WrittenTag) (line : List Char) (start : Nat) : Prop :=
  ∃ expression, (Expression.all line).head? = some expression ∧
    expression = { kind := .tag
                   bounds := .ofParts start (written .tag tag.content).length
                   content := tag.content
                   contentStart := start + 3 } ∧
    ∃ call, expression.tag? = some call ∧ call.name = tag.name ∧
      call.parameters = tag.parameters.map (·.text)

theorem WrittenOutput.isReadFrom (output : WrittenOutput) {before : List Char}
    (plain : '{' ∉ before) (once : ClosesOnce .output output.content) (after : List Char) :
    output.IsReadFrom (before ++ written .output output.content ++ after) before.length := by
  have names := output.splitAt_path
  refine ⟨_, all_written plain once output.stripped_content after, rfl, ?_,
    filters_of_content rfl⟩
  refine ⟨_, output.reference?_of_content rfl rfl, ?_, ?_, rfl⟩
  · rw [Variable.root, names]
    rfl
  · rw [Variable.properties, names]
    rfl

theorem WrittenTag.isReadFrom (tag : WrittenTag) {before : List Char} (plain : '{' ∉ before)
    (once : ClosesOnce .tag tag.content) (after : List Char) :
    tag.IsReadFrom (before ++ written .tag tag.content ++ after) before.length :=
  ⟨_, all_written plain once tag.stripped_content after, rfl, _, tag?_of_content rfl rfl, rfl, rfl⟩

/-- **Reading undoes writing**, for outputs and for tags, behind a text in which nothing opens and in
front of any text, as long as the closer stands in what was written at its end only. -/
theorem read_written :
    (∀ (output : WrittenOutput) (before after : List Char), '{' ∉ before →
      ClosesOnce .output output.content →
        output.IsReadFrom (before ++ written .output output.content ++ after) before.length) ∧
    ∀ (tag : WrittenTag) (before after : List Char), '{' ∉ before →
      ClosesOnce .tag tag.content →
        tag.IsReadFrom (before ++ written .tag tag.content ++ after) before.length :=
  ⟨fun output _ after plain once => output.isReadFrom plain once after,
    fun tag _ after plain once => tag.isReadFrom plain once after⟩

/-- A parameter in which every separator stands. -/
def separators : Parameter where
  text := "a | \"b\", c: %\x7d".toList
  nonempty := by decide
  unquoted := by decide
  head_ne := by decide
  last_ne := by decide

/-- `product.title | replace: '…', '…'`, with separators in its parameters. -/
def separatedOutput : WrittenOutput where
  root := ⟨"product".toList, ⟨'p', rfl, rfl⟩, List.all_eq_true.mp (by decide)⟩
  properties := [⟨"title".toList, ⟨'t', rfl, rfl⟩, List.all_eq_true.mp (by decide)⟩]
  filters :=
    [⟨⟨"replace".toList, ⟨'r', rfl, rfl⟩, List.all_eq_true.mp (by decide)⟩,
      [separators, separators]⟩]

/-- A tag named by quotes and a dash, with a parameter that has a blank at its end. -/
def dashedTag : WrittenTag where
  name := "-'tag\"".toList
  named := by decide
  unbroken := by simp [isBlank]
  parameters := [⟨"x | y, ".toList, by decide, by decide, by decide, by decide⟩]

theorem read_written_separators :
    '{' ∉ "é \x7d\x7d ".toList ∧ ClosesOnce .output separatedOutput.content ∧
      ClosesOnce .tag dashedTag.content ∧
      separatedOutput.IsReadFrom
        ("é \x7d\x7d ".toList ++ written .output separatedOutput.content ++ "\x7d\x7d".toList) 5 ∧
      dashedTag.IsReadFrom ("é \x7d\x7d ".toList ++ written .tag dashedTag.content ++ "%\x7d".toList) 5 :=
  ⟨by decide, by decide, by decide,
    read_written.1 separatedOutput "é \x7d\x7d ".toList "\x7d\x7d".toList (by decide) (by decide),
    read_written.2 dashedTag "é \x7d\x7d ".toList "%\x7d".toList (by decide) (by decide)⟩

end LiquidHover.Template
