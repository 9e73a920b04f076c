/-
**Filters in one pass.** The filters of an expression are found by cutting its content at pipes, each segment at its
first colon and what follows at commas, every time from outside literals. The same filters are found by a reader that
goes through the content once and follows a single literal from its first character to its last.

* `Pass`, `Pass.step`, `Pass.read` — the reader, what one character does, and the segments that it leaves.
* `Segment.filter?`, `onePassFilters` — the filter of a segment, and the filters of a content.
* `piecesOf` — a segment that is cut on its own.
* `Pass.HasRead` — the reader stands where the cuts stand; kept by a pipe and by any other character.
* `filters_eq_onePass` — the filters of every expression.
-/
import LiquidHover.Proofs.Text.Strip
import LiquidHover.Proofs.Text.Unquoted
import LiquidHover.Template.FilterCall

namespace LiquidHover.Template

open Text (Literal literalAfter isBlank isQuote trim trimEnd blankPrefixLength findUnquoted? splitUnquoted
  stripQuotes withOffsets)

/-! ### The reader -/

/-- What stands between two pipes: the text in front of the first colon, and behind it the texts between commas. -/
structure Segment where
  /-- Offset of the first character in the line. -/
  start : Nat
  pieces : List (List Char)

/-- The filter of a segment, named by its first piece. -/
def Segment.filter? (segment : Segment) : Option FilterCall :=
  match segment.pieces with
  | [] => none
  | name :: arguments =>
    if trim name = [] then none
    else some
      { name := trim name
        parameters := (arguments.map fun argument => stripQuotes (trim argument)).filter (!·.isEmpty)
        range := .ofParts (segment.start + blankPrefixLength name) (trim name).length }

/-- A reader on its way through a content. -/
structure Pass where
  /-- The literal that is open. It is followed through the whole content. -/
  literal : Literal
  /-- Offset of the next character in the line. -/
  position : Nat
  /-- The segments that are ended. -/
  ended : List Segment
  /-- Offset of the open segment in the line. -/
  start : Nat
  /-- The pieces of the open segment that are ended. -/
  pieces : List (List Char)
  /-- What has been read of the open piece. -/
  piece : List Char

namespace Pass

/-- A reader in front of a content. -/
def begin (start : Nat) : Pass :=
  { literal := none, position := start, ended := [], start, pieces := [], piece := [] }

/-- What ends the open piece: a colon the first piece of a segment, a comma the others. -/
def mark (pieces : List (List Char)) : Char := if pieces = [] then ':' else ','

/-- The open segment. -/
def segment (pass : Pass) : Segment := ⟨pass.start, pass.pieces ++ [pass.piece]⟩

/-- One character is read. -/
def step (pass : Pass) (c : Char) : Pass :=
  let next := { pass with literal := literalAfter pass.literal c, position := pass.position + 1 }
  if c = '|' ∧ pass.literal = none then
    { next with
      ended := pass.ended ++ [pass.segment], start := pass.position + 1, pieces := [], piece := [] }
  else if c = mark pass.pieces ∧ pass.literal = none then
    { next with pieces := pass.pieces ++ [pass.piece], piece := [] }
  else { next with piece := pass.piece ++ [c] }

/-- The segments of a content that begins at `start`. -/
def read (start : Nat) (content : List Char) : List Segment :=
  let pass := content.foldl step (begin start)
  pass.ended ++ [pass.segment]

end Pass

/-- The filters of a content that begins at `start`, in one pass. What stands before the first pipe is none. -/
def onePassFilters (start : Nat) (content : List Char) : List FilterCall :=
  (Pass.read start content).tail.filterMap Segment.filter?

/-! ### A segment cut on its own -/

/-- The text of a segment in front of its first colon outside literals, and the texts between commas behind it. -/
def piecesOf (segment : List Char) : List (List Char) :=
  match findUnquoted? ':' segment with
  | some colon => segment.take colon :: splitUnquoted ',' (segment.drop (colon + 1))
  | none => [segment]

theorem piecesOf_of_eq_none {segment : List Char} (none : findUnquoted? ':' segment = none) :
    piecesOf segment = [segment] := by
  rw [piecesOf, none]

theorem piecesOf_of_eq_some {segment : List Char} {colon : Nat}
    (first : findUnquoted? ':' segment = some colon) :
    piecesOf segment = segment.take colon :: splitUnquoted ',' (segment.drop (colon + 1)) := by
  rw [piecesOf, first]

variable {segment last : List Char} {done : List (List Char)} {c : Char}

/-- Behind its colon a segment takes one more character among its arguments. -/
theorem piecesOf_concat_of_eq_some {colon : Nat}
    (first : findUnquoted? ':' segment = some colon) (c : Char) :
    piecesOf (segment ++ [c]) =
      segment.take colon :: splitUnquoted ',' (segment.drop (colon + 1) ++ [c]) := by
  have within := ((Text.findUnquoted?_eq_some_iff rfl).mp first).1.lt_length
  have stays : findUnquoted? ':' (segment ++ [c]) = some colon :=
    Text.findFrom?_append_of_eq_some first [c]
  rw [piecesOf_of_eq_some stays, List.take_append_of_le_length (Nat.le_of_lt within),
    List.drop_append_of_le_length within]

/-- A segment with a colon has ended its name, so its last piece is an argument. -/
theorem exists_arguments_of_eq_some {colon : Nat} (first : findUnquoted? ':' segment = some colon)
    (pieces : piecesOf segment = done ++ [last]) :
    ∃ arguments, done = segment.take colon :: arguments ∧
      splitUnquoted ',' (segment.drop (colon + 1)) = arguments ++ [last] := by
  rw [piecesOf_of_eq_some first] at pieces
  obtain ⟨arguments, final, split⟩ := Text.exists_splitUnquoted ',' (segment.drop (colon + 1))
  rw [split, ← List.cons_append] at pieces
  obtain ⟨rfl, rfl⟩ := List.append_singleton_inj.mp pieces
  exact ⟨arguments, rfl, split⟩

/-- **Outside literals its mark ends the last piece of a segment.** -/
theorem piecesOf_concat_mark (pieces : piecesOf segment = done ++ [last])
    (outside : segment.foldl literalAfter none = none) :
    piecesOf (segment ++ [Pass.mark done]) = done ++ [last] ++ [[]] := by
  cases first : findUnquoted? ':' segment with
  | none =>
    rw [piecesOf_of_eq_none first] at pieces
    obtain ⟨rfl, rfl⟩ : [] = done ∧ segment = last := List.append_singleton_inj.mp pieces
    have colon : findUnquoted? ':' (segment ++ [':']) = some segment.length := by
      rw [Text.findUnquoted?_concat rfl, first, if_pos ⟨rfl, outside⟩]
      rfl
    show piecesOf (segment ++ [':']) = [segment, []]
    rw [piecesOf_of_eq_some colon, List.take_left, List.drop_of_length_le (by simp)]
    rfl
  | some colon =>
    obtain ⟨arguments, rfl, split⟩ := exists_arguments_of_eq_some first pieces
    have state := ((Text.findUnquoted?_eq_some_iff rfl).mp first).1.foldl_drop rfl
    rw [piecesOf_concat_of_eq_some first]
    show _ :: splitUnquoted ',' (segment.drop (colon + 1) ++ [',']) = _
    rw [Text.splitUnquoted_concat_of_cuts rfl (state.trans outside), split]
    rfl

/-- **Any other character goes on with the last piece of a segment.** -/
theorem piecesOf_concat_of_stays (pieces : piecesOf segment = done ++ [last])
    (stays : ¬ (c = Pass.mark done ∧ segment.foldl literalAfter none = none)) :
    piecesOf (segment ++ [c]) = done ++ [last ++ [c]] := by
  cases first : findUnquoted? ':' segment with
  | none =>
    rw [piecesOf_of_eq_none first] at pieces
    obtain ⟨rfl, rfl⟩ : [] = done ∧ segment = last := List.append_singleton_inj.mp pieces
    have plain : ¬ (c = ':' ∧ segment.foldl literalAfter none = none) := stays
    have still : findUnquoted? ':' (segment ++ [c]) = none := by
      rw [Text.findUnquoted?_concat rfl, first, if_neg plain]
      rfl
    exact piecesOf_of_eq_none still
  | some colon =>
    obtain ⟨arguments, rfl, split⟩ := exists_arguments_of_eq_some first pieces
    have state := ((Text.findUnquoted?_eq_some_iff rfl).mp first).1.foldl_drop rfl
    rw [← state] at stays
    rw [piecesOf_concat_of_eq_some first, Text.splitUnquoted_concat_of_stays rfl split stays]
    rfl

/-! ### The reader stands where the cuts stand -/

/-- What a reader that began at `start` holds behind the segments `done` and in the segment `last`: their pieces, cut
on their own, and the literal that is open when `last` is read on its own. -/
structure Pass.HasRead (start : Nat) (done : List (List Char)) (last : List Char) (pass : Pass) :
    Prop where
  literal : pass.literal = last.foldl literalAfter none
  starts : pass.start = start + done.flatten.length + done.length
  position : pass.position = pass.start + last.length
  ended : pass.ended = (withOffsets start done).map fun (place, segment) => ⟨place, piecesOf segment⟩
  pieces : piecesOf last = pass.pieces ++ [pass.piece]

namespace Pass

variable {start : Nat} {pass : Pass}

/-- **A pipe outside literals ends the segment.** -/
theorem HasRead.step_pipe (read : pass.HasRead start done last)
    (outside : last.foldl literalAfter none = none) :
    (pass.step '|').HasRead start (done ++ [last]) [] := by
  have state : pass.literal = none := read.literal.trans outside
  rw [step, if_pos ⟨rfl, state⟩]
  refine ⟨?_, ?_, rfl, ?_, rfl⟩
  · show literalAfter pass.literal '|' = none
    rw [state]
    rfl
  · show pass.position + 1 = _
    rw [read.position, read.starts]
    simp
    omega
  · show pass.ended ++ [pass.segment] = _
    rw [Text.withOffsets_append, List.map_append, ← read.ended, ← read.starts, segment, ← read.pieces]
    rfl

/-- **Any other character belongs to the segment**, and ends a piece of it if the segment does so on its own. -/
theorem HasRead.step_of_stays (read : pass.HasRead start done last)
    (stays : ¬ (c = '|' ∧ last.foldl literalAfter none = none)) :
    (pass.step c).HasRead start done (last ++ [c]) := by
  have state : literalAfter pass.literal c = (last ++ [c]).foldl literalAfter none := by
    rw [List.foldl_concat, ← read.literal]
  have place : pass.position + 1 = pass.start + (last ++ [c]).length := by
    rw [read.position, List.length_append, List.length_singleton, Nat.add_assoc]
  rw [← read.literal] at stays
  rw [step, if_neg stays]
  by_cases marks : c = mark pass.pieces ∧ pass.literal = none
  · rw [if_pos marks]
    obtain ⟨rfl, outside⟩ := marks
    refine ⟨state, read.starts, place, read.ended, ?_⟩
    exact piecesOf_concat_mark read.pieces (read.literal.symm.trans outside)
  · rw [if_neg marks]
    refine ⟨state, read.starts, place, read.ended, ?_⟩
    rw [read.literal] at marks
    exact piecesOf_concat_of_stays read.pieces marks

/-- **A whole content.** Behind it the reader stands in the last segment. -/
theorem hasRead_foldl (start : Nat) {content : List Char}
    (segments : splitUnquoted '|' content = done ++ [last]) :
    (content.foldl step (begin start)).HasRead start done last := by
  induction content using List.reverseRecOn generalizing done last with
  | nil =>
    obtain ⟨rfl, rfl⟩ : [] = done ∧ [] = last := List.append_singleton_inj.mp segments
    exact ⟨rfl, rfl, rfl, rfl, rfl⟩
  | append_singleton content c ih =>
    obtain ⟨done', last', segments'⟩ := Text.exists_splitUnquoted '|' content
    have read := ih segments'
    -- The literal that is open in the content is the one that is open in its last segment.
    have state := Text.foldl_literalAfter_last rfl segments'
    rw [List.foldl_concat]
    by_cases cuts : c = '|' ∧ last'.foldl literalAfter none = none
    · obtain ⟨rfl, outside⟩ := cuts
      rw [Text.splitUnquoted_concat_of_cuts rfl (state.symm.trans outside), segments'] at segments
      obtain ⟨rfl, rfl⟩ := List.append_singleton_inj.mp segments
      exact read.step_pipe outside
    · rw [Text.splitUnquoted_concat_of_stays rfl segments' (state ▸ cuts)] at segments
      obtain ⟨rfl, rfl⟩ := List.append_singleton_inj.mp segments
      exact read.step_of_stays cuts

/-- **What the reader leaves** are the segments between the pipes, each cut on its own. -/
theorem read_eq (start : Nat) (content : List Char) :
    read start content =
      (withOffsets start (splitUnquoted '|' content)).map fun (place, segment) =>
        ⟨place, piecesOf segment⟩ := by
  obtain ⟨done, last, segments⟩ := Text.exists_splitUnquoted '|' content
  have behind := hasRead_foldl start segments
  rw [segments, Text.withOffsets_append, List.map_append, ← behind.ended, ← behind.starts, read,
    segment, ← behind.pieces]
  rfl

end Pass

/-! ### Blanks around a segment -/

/-- **Blanks around a text do not hide its first separator.** -/
theorem findUnquoted?_trim {separator : Char} (solid : isBlank separator = false) (text : List Char) :
    findUnquoted? separator text =
      (findUnquoted? separator (trim text)).map (blankPrefixLength text + ·) := by
  obtain ⟨back, whole, blank⟩ := Text.exists_strip isBlank text
  have lead : Text.Closed (· == separator) (text.takeWhile isBlank) := by
    refine Text.closed_of_plain fun c member => ?_
    have blank := List.mem_takeWhile_imp member
    exact ⟨Text.isQuote_of_isBlank blank, beq_eq_false_iff_ne.mpr (Text.ne_of_isBlank solid blank)⟩
  have trail : findUnquoted? separator (trim text ++ back) = findUnquoted? separator (trim text) := by
    cases first : findUnquoted? separator (trim text) with
    | some place => exact Text.findFrom?_append_of_eq_some first back
    | none =>
      rw [findUnquoted?, Text.findFrom?_append first, Text.findFrom?_eq_none_of_forall]
      · rfl
      · exact fun c member => beq_eq_false_iff_ne.mpr (Text.ne_of_isBlank solid (blank c member))
  calc findUnquoted? separator text
      = findUnquoted? separator (text.takeWhile isBlank ++ (trim text ++ back)) := by
        conv_lhs => rw [whole]
        rw [List.append_assoc]
        rfl
    _ = (findUnquoted? separator (trim text ++ back)).map ((text.takeWhile isBlank).length + ·) := by
        rw [findUnquoted?, Text.findFrom?_append lead.uncut, lead.ended]
        rfl
    _ = (findUnquoted? separator (trim text)).map (blankPrefixLength text + ·) := by
        rw [trail]
        rfl

/-- Blanks behind a row of arguments are trimmed from the last one. -/
theorem parametersOf_append_blank {back : List Char} (blank : ∀ c ∈ back, isBlank c = true)
    (arguments : List Char) :
    FilterCall.parametersOf (arguments ++ back) = FilterCall.parametersOf arguments := by
  obtain ⟨done, last, pieces⟩ := Text.exists_splitUnquoted ',' arguments
  have longer : splitUnquoted ',' (arguments ++ back) = done ++ [last ++ back] :=
    Text.splitUnquoted_append_of_forall rfl pieces fun c member =>
      Text.ne_of_isBlank (by decide) (blank c member)
  have trimmed : trim (last ++ back) = trim last := Text.strip_append_of_dropped blank last
  rw [FilterCall.parametersOf, FilterCall.parametersOf, pieces, longer, List.map_append, List.map_append,
    List.map_singleton, List.map_singleton, trimmed]

/-- Where a text is cut, counted from behind its blanks. -/
theorem exists_cut_trim {text : List Char} {place : Nat} (within : place < (trim text).length) :
    ∃ back, (∀ c ∈ back, isBlank c = true) ∧
      text.take (blankPrefixLength text + place) = text.takeWhile isBlank ++ (trim text).take place ∧
      text.drop (blankPrefixLength text + place + 1) = (trim text).drop (place + 1) ++ back := by
  obtain ⟨back, whole, blank⟩ := Text.exists_strip isBlank text
  have parts : text = text.takeWhile isBlank ++ (trim text ++ back) := by
    rw [← List.append_assoc]
    exact whole
  refine ⟨back, blank, ?_, ?_⟩
  · calc text.take (blankPrefixLength text + place)
        = (text.takeWhile isBlank ++ (trim text ++ back)).take
            ((text.takeWhile isBlank).length + place) := by
          rw [← parts]
          rfl
      _ = text.takeWhile isBlank ++ (trim text).take place := by
          rw [List.take_length_add_append, List.take_append_of_le_length (Nat.le_of_lt within)]
  · calc text.drop (blankPrefixLength text + place + 1)
        = (text.takeWhile isBlank ++ (trim text ++ back)).drop
            ((text.takeWhile isBlank).length + (place + 1)) := by
          rw [← parts]
          rfl
      _ = (trim text).drop (place + 1) ++ back := by
          rw [List.drop_length_add_append, List.drop_append_of_le_length within]

/-! ### Filters -/

/-- Blanks in front of a text that begins with none are its blanks. -/
theorem blankPrefixLength_append {front text : List Char} (blank : ∀ c ∈ front, isBlank c = true)
    (nonempty : text ≠ []) (solid : ∀ c ∈ text.head?, isBlank c = false) :
    blankPrefixLength (front ++ text) = front.length := by
  obtain ⟨c, rest, rfl⟩ := List.exists_cons_of_ne_nil nonempty
  rw [blankPrefixLength, List.takeWhile_append_of_pos blank, List.takeWhile_cons_of_neg]
  · simp
  · simp [solid c rfl]

/-- The filter of a name and its arguments, which are written behind blanks. -/
theorem filter?_cons (start : Nat) {lead name : List Char} (blank : ∀ c ∈ lead, isBlank c = true)
    (solid : ∀ c ∈ name.head?, isBlank c = false) (arguments : List (List Char)) :
    (Segment.mk start ((lead ++ name) :: arguments)).filter? =
      if trimEnd name = [] then none
      else some
        { name := trimEnd name
          parameters := (arguments.map fun argument => stripQuotes (trim argument)).filter (!·.isEmpty)
          range := .ofParts (start + lead.length) (trimEnd name).length } := by
  have trimmed : trim (lead ++ name) = trimEnd name := by
    rw [trim, Text.trimStart, Text.stripStart, List.dropWhile_append_of_pos blank]
    exact congrArg trimEnd (Text.stripStart_of_head solid)
  rw [Segment.filter?]
  simp only [trimmed]
  by_cases empty : trimEnd name = []
  · rw [if_pos empty, if_pos empty]
  · have nonempty : name ≠ [] := by
      rintro rfl
      exact empty rfl
    rw [if_neg empty, if_neg empty, blankPrefixLength_append blank nonempty solid]

theorem ofSegment?_of_cutName (start : Nat) {segment name arguments : List Char}
    (cut : FilterCall.cutName (trim segment) = (name, arguments)) :
    FilterCall.ofSegment? start segment =
      if name = [] then none
      else some
        { name
          parameters := FilterCall.parametersOf arguments
          range := .ofParts (start + blankPrefixLength segment) name.length } := by
  rw [FilterCall.ofSegment?, cut]
  simp only [List.isEmpty_iff]

/-- **The filter of a segment** is the same whether the segment is trimmed before it is cut or its pieces are. -/
theorem filter?_piecesOf (start : Nat) (segment : List Char) :
    (Segment.mk start (piecesOf segment)).filter? = FilterCall.ofSegment? start segment := by
  have solid : isBlank ':' = false := by decide
  have search := findUnquoted?_trim solid segment
  cases first : findUnquoted? ':' (trim segment) with
  | none =>
    rw [first] at search
    have name : FilterCall.cutName (trim segment) = (trim segment, []) := by
      rw [FilterCall.cutName, first]
    rw [piecesOf_of_eq_none search, ofSegment?_of_cutName start name]
    rfl
  | some colon =>
    rw [first] at search
    have within := ((Text.findUnquoted?_eq_some_iff rfl).mp first).1.lt_length
    obtain ⟨back, blank, front, behind⟩ := exists_cut_trim within
    have name : FilterCall.cutName (trim segment) =
        (trimEnd ((trim segment).take colon), (trim segment).drop (colon + 1)) := by
      rw [FilterCall.cutName, first]
    have lead : ∀ c ∈ segment.takeWhile isBlank, isBlank c = true := fun c => List.mem_takeWhile_imp
    have begins : ∀ c ∈ ((trim segment).take colon).head?, isBlank c = false := fun c first =>
      (Text.stripped_trim segment).head c (Text.head?_of_isPrefix (List.take_prefix _ _) first)
    rw [piecesOf_of_eq_some search, front, behind, filter?_cons start lead begins,
      ofSegment?_of_cutName start name, ← parametersOf_append_blank blank]
    rfl

/-- **One pass finds the filters of every expression**, whatever literals stand in it and whether they are ended. -/
theorem filters_eq_onePass (expression : Expression) :
    expression.filters = onePassFilters expression.contentStart expression.content := by
  rw [onePassFilters, Expression.filters, Pass.read_eq, ← List.map_tail, List.filterMap_map]
  congr 1
  funext ⟨place, segment⟩
  exact (filter?_piecesOf place segment).symm

/-- A literal that holds the other quote, a pipe, a colon and a comma, and one that is not ended. -/
example :
    (onePassFilters 3 "x | a: \"it's | b: c, d\", e | f : 'g | h".toList).map (·.parameters) =
      [["it's | b: c, d".toList, "e".toList], ["g | h".toList]] := by
  decide +kernel

end LiquidHover.Template
