/-
**The arguments of a text are its runs between separators.** A reader that goes through the text once, and remembers
where the argument began that it stands in and which literal is open, finds the non-empty pieces between blanks and
commas outside literals. These are the longest runs of characters without such a separator.

* `ArgumentReader.HasRead` — what the reader holds behind a part of the text; `HasRead.step` keeps it.
* `argumentPieces?_eq` — one pass over a text finds its arguments.
* `IsRun`, `mem_runBounds_iff` — the runs of a text, and the bounds at which they are found.
* `IsCutIntoRuns` — a text cut into its runs.
* `splitArguments_isCutIntoRuns` — every text is cut so.
-/
import LiquidHover.Proofs.Text.LineIndex
import LiquidHover.Proofs.Text.Stretches
import LiquidHover.Proofs.Text.Strip
import LiquidHover.Text.Places

namespace LiquidHover.Text

open Encoding (utf8)

variable {separates : Char → Bool} {text front before last rest : List Char} {done : List (List Char)} {c : Char}

/-! ### One pass over a text -/

/-- A break is no quote. -/
theorem isQuote_of_isArgumentBreak (c : Char) (breaks : isArgumentBreak c = true) : isQuote c = false := by
  simp only [isArgumentBreak, Bool.or_eq_true, beq_iff_eq] at breaks
  rcases breaks with blank | rfl
  · exact isQuote_of_isBlank blank
  · rfl

/-- **One more character** ends the last piece or belongs to it. -/
theorem splitUnquotedBy_concat (pieces : splitUnquotedBy separates text = done ++ [last]) (c : Char) :
    splitUnquotedBy separates (text ++ [c]) =
      if cutsHere separates (text.foldl literalAfter none) c then done ++ [last] ++ [[]]
      else done ++ [last ++ [c]] := by
  obtain ⟨done', last', pieces', next⟩ := exists_splitFrom_concat separates none text c
  obtain ⟨rfl, rfl⟩ := List.append_singleton_inj.mp (pieces.symm.trans pieces')
  exact next

/-- A literal is opened by a quote. -/
theorem isQuote_of_foldl_literalAfter {quote : Char} (opened : text.foldl literalAfter none = some quote) :
    isQuote quote = true := by
  rcases endsOutside_or_within text with ⟨-, state⟩ | ⟨_, opener, _, -, -, quotes, -, state⟩
  · rw [state] at opened
    cases opened
  · rw [state] at opened
    cases opened
    exact quotes

namespace ArgumentReader

variable {reader : ArgumentReader}

/-- What a reader holds behind the part `front` of a text: the pieces of that part but the last one, without empty
ones, and the byte offset of the last piece unless that is empty. A literal can be open only in a piece. -/
structure HasRead (reader : ArgumentReader) (front before : List Char) (done : List (List Char))
    (last : List Char) : Prop where
  cut : splitUnquotedBy isArgumentBreak front = done ++ [last]
  parts : front = before ++ last
  pieces : reader.pieces = done.filter (!·.isEmpty)
  start : reader.start = if last = [] then none else some (utf8.widthOf before)
  literal : reader.literal = front.foldl literalAfter none
  place : reader.place = utf8.widthOf front
  begun : reader.literal ≠ none → last ≠ []

theorem hasRead_begin : HasRead {} [] [] [] [] :=
  ⟨rfl, rfl, rfl, rfl, rfl, rfl, fun opened => absurd rfl opened⟩

/-- The piece that the next character belongs to begins behind the text `before`. -/
theorem HasRead.getD_start (read : reader.HasRead front before done last) :
    reader.start.getD reader.place = utf8.widthOf before := by
  rw [read.start]
  by_cases empty : last = []
  · rw [if_pos empty, Option.getD_none, read.place, read.parts, empty, List.append_nil]
  · rw [if_neg empty, Option.getD_some]

/-- A character that is no break outside literals goes on with the last piece. -/
theorem HasRead.go_on (read : reader.HasRead front before done last)
    (stays : cutsHere isArgumentBreak reader.literal c = false) :
    HasRead
      { reader with
        start := some (reader.start.getD reader.place)
        literal := literalAfter reader.literal c
        place := reader.place + c.utf8Size }
      (front ++ [c]) before done (last ++ [c]) where
  cut := by rw [splitUnquotedBy_concat read.cut, ← read.literal, stays, if_neg Bool.false_ne_true]
  parts := by rw [read.parts, List.append_assoc]
  pieces := read.pieces
  start := by rw [if_neg (by simp), read.getD_start]
  literal := by rw [List.foldl_concat, read.literal]
  place := by rw [read.place, Encoding.widthOf_append]; rfl
  begun _ := by simp

/-- A break outside literals ends the last piece. -/
theorem HasRead.cut_off (read : reader.HasRead front before done last) (rest : List Char)
    (outside : reader.literal = none) (breaks : isArgumentBreak c = true) :
    ∃ reader', reader.step? (front ++ c :: rest) c = some reader' ∧
      reader'.HasRead (front ++ [c]) (front ++ [c]) (done ++ [last]) [] := by
  have unquoted := isQuote_of_isArgumentBreak c breaks
  have after : literalAfter none c = none := by simp [literalAfter, unquoted]
  have cuts : cutsHere isArgumentBreak (front.foldl literalAfter none) c = true := by
    rw [← read.literal, outside]
    exact cutsHere_of_separates breaks unquoted
  have cut : splitUnquotedBy isArgumentBreak (front ++ [c]) = done ++ [last] ++ [[]] := by
    rw [splitUnquotedBy_concat read.cut, if_pos cuts]
  have place : reader.place + c.utf8Size = utf8.widthOf (front ++ [c]) := by
    rw [read.place, Encoding.widthOf_append]
    rfl
  have literal : reader.literal = (front ++ [c]).foldl literalAfter none := by
    rw [List.foldl_concat, ← read.literal, outside, after]
  have start := read.start
  by_cases empty : last = []
  · rw [if_pos empty] at start
    refine ⟨{ reader with place := reader.place + c.utf8Size }, ?_, cut, by simp, ?_, ?_, literal, place, ?_⟩
    · simp [step?, outside, unquoted, breaks, start]
    · simp [read.pieces, empty]
    · exact start
    · exact fun opened => absurd outside opened
  · rw [if_neg empty] at start
    have slice : slice? (front ++ c :: rest) (utf8.widthOf before) reader.place = some last := by
      rw [read.place, read.parts]
      exact slice?_append before last (c :: rest)
    refine ⟨{ reader with pieces := reader.pieces ++ [last], start := none, place := reader.place + c.utf8Size },
      ?_, cut, by simp, ?_, rfl, literal, place, fun opened => absurd outside opened⟩
    · simp [step?, outside, unquoted, breaks, start, slice]
    · simp [read.pieces, empty]

/-- **One more character** keeps what the reader holds, and no cut fails. -/
theorem HasRead.step (read : reader.HasRead front before done last) (rest : List Char) (c : Char) :
    ∃ reader' before' done' last', reader.step? (front ++ c :: rest) c = some reader' ∧
      reader'.HasRead (front ++ [c]) before' done' last' := by
  by_cases closes : isQuote c = true ∧ reader.literal = some c
  · obtain ⟨quotes, opened⟩ := closes
    -- The literal was opened in the last piece, so its start is known.
    have begun : reader.start = some (reader.start.getD reader.place) := by
      have nonempty : last ≠ [] := read.begun (by simp [opened])
      rw [read.start, if_neg nonempty, Option.getD_some]
    refine ⟨_, before, done, last ++ [c], ?_, read.go_on (by simp [cutsHere, opened])⟩
    rw [step?, if_pos ⟨quotes, opened⟩, ← begun]
    simp [literalAfter, opened]
  · by_cases opens : isQuote c = true ∧ reader.literal = none
    · obtain ⟨quotes, outside⟩ := opens
      refine ⟨_, before, done, last ++ [c], ?_, read.go_on (by simp [cutsHere, quotes])⟩
      rw [step?, if_neg closes, if_pos ⟨quotes, outside⟩]
      simp [literalAfter, quotes, outside]
    · by_cases breaks : reader.literal = none ∧ isArgumentBreak c = true
      · obtain ⟨reader', stepped, read'⟩ := read.cut_off rest breaks.1 breaks.2
        exact ⟨reader', front ++ [c], done ++ [last], [], stepped, read'⟩
      · -- The character is inside a literal of another quote, or it is outside and neither a quote nor a break.
        have stays : cutsHere isArgumentBreak reader.literal c = false := by
          by_cases outside : reader.literal = none
          · have solid : isArgumentBreak c = false := Bool.eq_false_iff.mpr fun breaking => breaks ⟨outside, breaking⟩
            simp [cutsHere, solid]
          · simp [cutsHere, outside]
        have literal : literalAfter reader.literal c = reader.literal := by
          cases opened : reader.literal with
          | none =>
            have unquoted : isQuote c = false := Bool.eq_false_iff.mpr fun quotes => opens ⟨quotes, opened⟩
            simp [literalAfter, unquoted]
          | some quote =>
            have other : c ≠ quote := by
              rintro rfl
              exact closes ⟨isQuote_of_foldl_literalAfter (read.literal ▸ opened), opened⟩
            simp [literalAfter, other]
        refine ⟨_, before, done, last ++ [c], ?_, read.go_on stays⟩
        rw [step?, if_neg closes, if_neg opens, if_neg breaks, literal]

/-- **A whole text.** -/
theorem HasRead.run (read : reader.HasRead front before done last) (rest : List Char) :
    ∃ reader' before' done' last', rest.foldlM (step? (front ++ rest)) reader = some reader' ∧
      reader'.HasRead (front ++ rest) before' done' last' := by
  induction rest generalizing reader front before done last with
  | nil => exact ⟨reader, before, done, last, rfl, by rwa [List.append_nil]⟩
  | cons c rest ih =>
    obtain ⟨reader', before', done', last', stepped, read'⟩ := read.step rest c
    obtain ⟨behind, before'', done'', last'', ran, read''⟩ := ih read'
    have same : front ++ [c] ++ rest = front ++ c :: rest := by simp
    rw [same] at ran read''
    refine ⟨behind, before'', done'', last'', ?_, read''⟩
    rw [List.foldlM_cons, stepped]
    exact ran

/-- At the end of the text the last piece ends. -/
theorem HasRead.finish (read : reader.HasRead text before done last) :
    reader.finish? text = some (splitArguments text) := by
  have start := read.start
  rw [splitArguments, read.cut, List.filter_append, ← read.pieces]
  by_cases empty : last = []
  · rw [if_pos empty] at start
    simp [finish?, start, empty]
  · rw [if_neg empty] at start
    have slice : slice? text (utf8.widthOf before) (utf8.widthOf text) = some last := by
      have slice := slice?_append before last []
      rwa [List.append_nil, ← read.parts] at slice
    simp [finish?, start, slice, empty]

end ArgumentReader

/-- **One pass over a text finds its arguments**, and no cut fails. -/
theorem argumentPieces?_eq (text : List Char) : argumentPieces? text = some (splitArguments text) := by
  obtain ⟨reader, before, done, last, ran, read⟩ := ArgumentReader.hasRead_begin.run text
  rw [List.nil_append] at ran read
  rw [argumentPieces?, ran, Option.bind_some, read.finish]

/-! ### Runs -/

/-- A run of a text: a longest stretch without separators outside literals that is not empty. -/
structure IsRun (separates : Char → Bool) (text : List Char) (start stop : Nat) : Prop
    extends IsStretch separates text start stop where
  nonempty : start < stop

/-- The bounds of the pieces of a text that are not empty. -/
def runBounds (separates : Char → Bool) (text : List Char) : List (Nat × Nat) :=
  ((withOffsets 0 (splitUnquotedBy separates text)).filter fun cell => !cell.2.isEmpty).map fun cell =>
    (cell.1, cell.1 + cell.2.length)

/-- **These are the bounds of the runs.** -/
theorem mem_runBounds_iff (plain : ∀ c, separates c = true → isQuote c = false) {start stop : Nat} :
    (start, stop) ∈ runBounds separates text ↔ IsRun separates text start stop := by
  simp only [runBounds, List.mem_map, List.mem_filter, Bool.not_eq_true', List.isEmpty_eq_false_iff]
  constructor
  · rintro ⟨⟨offset, piece⟩, ⟨member, nonempty⟩, same⟩
    obtain ⟨rfl, rfl⟩ := Prod.mk.inj same
    have positive := List.length_pos_iff.mpr nonempty
    exact ⟨((mem_withOffsets_iff plain).mp member).1, Nat.lt_add_of_pos_right positive⟩
  · rintro ⟨stretch, nonempty⟩
    have within := stretch.within
    have size : (text.extract start stop).length = stop - start := by
      rw [List.extract_eq_take_drop, List.length_take, List.length_drop]
      omega
    have stops : start + (text.extract start stop).length = stop := by omega
    have occurs : OccursAt (text.extract start stop) text start := by
      rw [occursAt_iff_extract, stops]
    refine ⟨(start, text.extract start stop), ⟨(mem_withOffsets_iff plain).mpr ⟨stops.symm ▸ stretch, occurs⟩, ?_⟩, ?_⟩
    · show text.extract start stop ≠ []
      exact List.ne_nil_of_length_pos (by omega)
    · rw [stops]

/-- What stands between these bounds are the pieces that are not empty. -/
theorem map_extract_runBounds (plain : ∀ c, separates c = true → isQuote c = false) (text : List Char) :
    (runBounds separates text).map (fun bounds => text.extract bounds.1 bounds.2) =
      (splitUnquotedBy separates text).filter (!·.isEmpty) := by
  have pieces := map_snd_withOffsets 0 (splitUnquotedBy separates text)
  conv_rhs => rw [← pieces]
  rw [runBounds, List.map_map, List.filter_map]
  refine List.map_congr_left fun cell member => ?_
  have inside := (List.mem_filter.mp member).1
  exact occursAt_iff_extract.mp ((mem_withOffsets_iff plain).mp inside).2

/-- **Between two runs stands a separator.** -/
theorem pairwise_runBounds (plain : ∀ c, separates c = true → isQuote c = false) (text : List Char) :
    (runBounds separates text).Pairwise fun left right =>
      ∃ place, left.2 ≤ place ∧ place < right.1 ∧ PartsAt separates text place := by
  have ordered : (runBounds separates text).Pairwise fun left right => left.2 < right.1 :=
    List.pairwise_map.mpr ((pairwise_withOffsets 0 _).filter _)
  refine ordered.imp_of_mem fun {left right} member later lt => ⟨left.2, Nat.le_refl _, lt, ?_⟩
  -- A run with another one behind it does not end with the text.
  have behind := ((mem_runBounds_iff plain).mp later).within
  have starts := ((mem_runBounds_iff plain).mp later).nonempty
  rcases ((mem_runBounds_iff plain).mp member).ends with last | parts
  · omega
  · exact parts

/-! ### The text cut into its runs -/

/-- A text cut into its runs. The pieces are the runs of the text, in their order and with a separator between
neighbours. None of them is empty, together they are the text without its separators, and a literal that is not ended
is the end of the last one. -/
structure IsCutIntoRuns (separates : Char → Bool) (text : List Char) (pieces : List (List Char)) : Prop where
  runs : ∃ bounds : List (Nat × Nat),
    pieces = bounds.map (fun bound => text.extract bound.1 bound.2) ∧
      (∀ start stop, (start, stop) ∈ bounds ↔ IsRun separates text start stop) ∧
      bounds.Pairwise fun left right => ∃ place, left.2 ≤ place ∧ place < right.1 ∧ PartsAt separates text place
  nonempty : ∀ piece ∈ pieces, piece ≠ []
  whole : pieces.flatten = unparted separates text
  unended : ∀ front quote inner, text = front ++ quote :: inner → EndsOutside front → isQuote quote = true →
    quote ∉ inner → ∃ earlier last, pieces = earlier ++ [last ++ quote :: inner]

/-- **Every text is cut into the runs between its blanks and commas outside literals**, in one pass. -/
theorem splitArguments_isCutIntoRuns (text : List Char) :
    argumentPieces? text = some (splitArguments text) ∧
      IsCutIntoRuns isArgumentBreak text (splitArguments text) := by
  have plain := isQuote_of_isArgumentBreak
  refine ⟨argumentPieces?_eq text, ⟨runBounds isArgumentBreak text, ?_, ?_, ?_⟩, ?_, ?_, ?_⟩
  · exact (map_extract_runBounds plain text).symm
  · exact fun start stop => mem_runBounds_iff plain
  · exact pairwise_runBounds plain text
  · intro piece member
    simpa using (List.mem_filter.mp member).2
  · rw [splitArguments, List.flatten_filter_not_isEmpty]
    exact flatten_splitUnquotedBy plain text
  · rintro front quote inner rfl outside quotes unended
    obtain ⟨earlier, last, cut⟩ := splitUnquotedBy_append_open outside quotes unended
    refine ⟨earlier.filter (!·.isEmpty), last, ?_⟩
    rw [splitArguments, cut, List.filter_append]
    simp

/-- Literals that touch, a quote glued to a word, and a literal that is not ended. -/
example : (argumentPieces? "'a b'\"c,\" x:'1, ,2'\té'\"u v".toList).map (·.map String.ofList) =
    some ["'a b'\"c,\"", "x:'1, ,2'", "é'\"u v"] := by
  decide

end LiquidHover.Text
