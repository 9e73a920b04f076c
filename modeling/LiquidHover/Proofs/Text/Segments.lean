/-
**A text cut at its separators.** The separators of a text that stand outside its literals are found in one pass, and
the text is cut at their byte offsets. Every cut is made at a character boundary, nothing is lost, and each piece is
given with the offset at which it begins.

* `placesFrom_eq_ends` — the separators are found where the pieces end.
* `cutFrom?_ends`, `segments?_eq` — what is cut out there are the pieces, at their offsets.
* `findPlace?_eq` — the first separator, by bytes and by characters.
* `IsCutAt` — a text cut at a separator, said by the literals of the text alone.
* `segments?_isCutAt` — every text is cut so, at each separator that is no quote.
-/
import LiquidHover.Proofs.Text.LineIndex
import LiquidHover.Proofs.Text.Stretches
import LiquidHover.Text.Places

namespace LiquidHover.Text

open Encoding (utf8)

variable {separator : Char} {text front : List Char} {pieces : List (List Char)}

/-! ### Where pieces end -/

/-- The byte offsets of the ends of all pieces but the last, when the first piece begins at `place`. -/
def ends (separator : Char) (place : Nat) : List (List Char) → List Nat
  | [] => []
  | [_] => []
  | piece :: next :: pieces =>
    let stop := place + utf8.widthOf piece
    stop :: ends separator (stop + separator.utf8Size) (next :: pieces)

theorem ends_consHead (nonempty : pieces ≠ []) (place : Nat) (c : Char) :
    ends separator place (consHead c pieces) = ends separator (place + c.utf8Size) pieces := by
  match pieces, nonempty with
  | [_], _ => rfl
  | piece :: next :: pieces, _ =>
    have wider : place + utf8.widthOf (c :: piece) = place + c.utf8Size + utf8.widthOf piece :=
      (Nat.add_assoc _ _ _).symm
    simp only [consHead, ends, wider]

/-- **The separators stand where the pieces end.** -/
theorem placesFrom_eq_ends (separator : Char) (literal : Literal) (place : Nat) (text : List Char) :
    placesFrom separator literal place text =
      ends separator place (splitFrom (· == separator) literal text) := by
  induction text generalizing literal place with
  | nil => rfl
  | cons c text ih =>
    rw [placesFrom, splitFrom, ih]
    by_cases cuts : cutsHere (· == separator) literal c = true
    · obtain ⟨next, later, cut⟩ := List.exists_cons_of_ne_nil (splitFrom_ne_nil (· == separator) none text)
      rw [if_pos cuts, if_pos cuts, literalAfter_of_cutsHere cuts, cut, eq_of_cutsHere cuts]
      rfl
    · rw [if_neg cuts, if_neg cuts, ends_consHead (splitFrom_ne_nil _ _ _)]

/-! ### Cutting where pieces end -/

/-- A piece of a text at its offset, with the offset counted in bytes. -/
def inBytes (text : List Char) (cell : Nat × List Char) : List Char × Nat :=
  (cell.2, utf8.widthOf (text.take cell.1))

/-- **Cutting where the pieces end gives the pieces**, each with the bytes in front of it. -/
theorem cutFrom?_ends (separator : Char) (nonempty : pieces ≠ []) (front : List Char) :
    cutFrom? separator (front ++ joinWith separator pieces) (utf8.widthOf front)
        (ends separator (utf8.widthOf front) pieces) =
      some ((withOffsets front.length pieces).map (inBytes (front ++ joinWith separator pieces))) := by
  induction pieces generalizing front with
  | nil => exact absurd rfl nonempty
  | cons piece pieces ih =>
    cases pieces with
    | nil =>
      have cut := slice?_append front piece []
      rw [List.append_nil] at cut
      simp [ends, cutFrom?, joinWith, withOffsets, inBytes, cut]
    | cons next pieces =>
      have parts : front ++ joinWith separator (piece :: next :: pieces) =
          front ++ piece ++ [separator] ++ joinWith separator (next :: pieces) := by
        simp [joinWith]
      have width : utf8.widthOf (front ++ piece ++ [separator]) =
          utf8.widthOf front + utf8.widthOf piece + separator.utf8Size := by
        rw [Encoding.widthOf_append, Encoding.widthOf_append]
        rfl
      have length : (front ++ piece ++ [separator]).length = front.length + piece.length + 1 := by
        rw [List.length_append, List.length_append, List.length_singleton]
      have cut : slice? (front ++ piece ++ [separator] ++ joinWith separator (next :: pieces))
          (utf8.widthOf front) (utf8.widthOf front + utf8.widthOf piece) = some piece := by
        rw [← Encoding.widthOf_append, List.append_assoc (front ++ piece)]
        exact slice?_append front piece _
      have here : inBytes (front ++ piece ++ [separator] ++ joinWith separator (next :: pieces))
          (front.length, piece) = (piece, utf8.widthOf front) := by
        simp [inBytes]
      have rest := ih (List.cons_ne_nil _ _) (front ++ piece ++ [separator])
      rw [width, length] at rest
      rw [parts, ends, cutFrom?, cut, Option.bind_eq_bind, Option.bind_some, rest]
      show some ((piece, utf8.widthOf front) :: _) = some (inBytes _ (front.length, piece) :: _)
      rw [here]

/-- **What is cut out of a text** at its separators are its pieces, each with the bytes in front of it. -/
theorem segments?_eq (separator : Char) (text : List Char) :
    segments? separator text = some ((withOffsets 0 (splitUnquoted separator text)).map (inBytes text)) := by
  have cut := cutFrom?_ends separator (splitFrom_ne_nil (· == separator) none text) []
  rw [joinWith_splitFrom, List.nil_append] at cut
  rw [segments?, unquotedPlaces, placesFrom_eq_ends]
  exact cut

/-! ### The first separator -/

theorem head?_placesFrom (separator : Char) (literal : Literal) (place : Nat) (text : List Char) :
    (placesFrom separator literal place text).head? =
      (findFrom? (· == separator) literal text).map fun offset => place + utf8.widthOf (text.take offset) := by
  induction text generalizing literal place with
  | nil => rfl
  | cons c text ih =>
    rw [placesFrom, findFrom?]
    by_cases cuts : cutsHere (· == separator) literal c = true
    · rw [if_pos cuts, if_pos cuts]
      rfl
    · rw [if_neg cuts, if_neg cuts, ih, Option.map_map]
      congr 1
      funext offset
      exact Nat.add_assoc _ _ _

/-- **The first separator**, by bytes and by characters. -/
theorem findPlace?_eq (separator : Char) (text : List Char) :
    findPlace? separator text =
      (findUnquoted? separator text).map fun offset => utf8.widthOf (text.take offset) := by
  rw [findPlace?, unquotedPlaces, head?_placesFrom]
  simp only [Nat.zero_add]
  rfl

/-- It stands at the end of the first piece, if there are more. -/
theorem findPlace?_of_splitUnquoted {piece : List Char} (cut : splitUnquoted separator text = piece :: pieces) :
    findPlace? separator text = if pieces = [] then none else some (utf8.widthOf piece) := by
  rw [findPlace?, unquotedPlaces, placesFrom_eq_ends, ← splitUnquotedBy, ← splitUnquoted, cut]
  cases pieces with
  | nil => rfl
  | cons next pieces => simp [ends]

/-! ### Pieces in front of a piece -/

/-- The text in front of a piece: the pieces before it, with a separator behind each of them. -/
theorem joinWith_take_append (separator : Char) {number : Nat} (within : number < pieces.length) :
    ((pieces.take number).map (· ++ [separator])).flatten ++ joinWith separator (pieces.drop number) =
      joinWith separator pieces := by
  induction pieces generalizing number with
  | nil => exact absurd within (Nat.not_lt_zero _)
  | cons piece pieces ih =>
    cases number with
    | zero => rfl
    | succ number =>
      obtain ⟨next, later, rfl⟩ := List.exists_cons_of_ne_nil
        (List.ne_nil_of_length_pos (Nat.zero_lt_of_lt (Nat.lt_of_succ_lt_succ within)))
      have rest := ih (Nat.lt_of_succ_lt_succ within)
      simp only [List.take_succ_cons, List.drop_succ_cons, List.map_cons, List.flatten_cons, List.append_assoc,
        rest]
      rfl

/-- The offset of a piece is the length of the text in front of it. -/
theorem offset_of_getElem?_withOffsets (separator : Char) {start number offset : Nat} {piece : List Char}
    (here : (withOffsets start pieces)[number]? = some (offset, piece)) :
    pieces[number]? = some piece ∧
      offset = start + ((pieces.take number).map (· ++ [separator])).flatten.length := by
  induction pieces generalizing start number with
  | nil => cases here
  | cons first pieces ih =>
    cases number with
    | zero =>
      cases here
      exact ⟨rfl, rfl⟩
    | succ number =>
      obtain ⟨found, rfl⟩ := ih here
      refine ⟨found, ?_⟩
      simp only [List.take_succ_cons, List.map_cons, List.flatten_cons, List.length_append, List.length_singleton]
      omega

/-! ### The text cut at a separator -/

/-- A text cut at a separator outside its literals. Joined with the separator, the segments are the text, and there is
one more of them than separators outside literals. Each segment is given with the number of bytes in front of it;
there no literal is open, and a separator within a segment is within a literal. The first separator stands at the end
of the first segment. -/
structure IsCutAt (separator : Char) (text : List Char) (segments : List (List Char × Nat)) : Prop where
  whole : joinWith separator (segments.map (·.1)) = text
  counted : segments.length = (separatorPlaces separator text).length + 1
  placed : ∀ (number : Nat) (segment : List Char) (place : Nat), segments[number]? = some (segment, place) →
    ∃ front back, text = front ++ segment ++ back ∧
      front = ((segments.take number).map fun earlier => earlier.1 ++ [separator]).flatten ∧
      place = utf8.widthOf front ∧ EndsOutside front ∧
      ∀ inner rest, segment = inner ++ separator :: rest → ¬ EndsOutside (front ++ inner)
  first : ∀ segment place, segments.head? = some (segment, place) →
    findPlace? separator text = if segments.length = 1 then none else some (utf8.widthOf segment)

theorem map_fst_inBytes (text : List Char) (start : Nat) (pieces : List (List Char)) :
    ((withOffsets start pieces).map (inBytes text)).map (·.1) = pieces := by
  rw [List.map_map]
  exact map_snd_withOffsets start pieces

/-- **A piece stands behind the pieces before it**, where no literal is open, and a separator in it is in a literal. -/
theorem exists_front_of_getElem?_withOffsets (unquoted : isQuote separator = false) {number offset : Nat}
    {piece : List Char} (here : (withOffsets 0 (splitUnquoted separator text))[number]? = some (offset, piece)) :
    ∃ front back, text = front ++ piece ++ back ∧ offset = front.length ∧
      front = (((splitUnquoted separator text).take number).map (· ++ [separator])).flatten ∧
      EndsOutside front ∧ ∀ inner rest, piece = inner ++ separator :: rest → ¬ EndsOutside (front ++ inner) := by
  have plain : ∀ c, (c == separator) = true → isQuote c = false := by
    intro c same
    rw [beq_iff_eq] at same
    exact same ▸ unquoted
  obtain ⟨found, before⟩ := offset_of_getElem?_withOffsets separator here
  obtain ⟨stretch, back, occurs⟩ := (mem_withOffsets_iff plain).mp (List.mem_of_getElem? here)
  generalize ahead : (((splitUnquoted separator text).take number).map (· ++ [separator])).flatten = front at before
  rw [Nat.zero_add] at before
  have taken : text.take offset = front := by
    have parts := joinWith_take_append separator (List.getElem?_eq_some_iff.mp found).1
    rw [joinWith_splitUnquoted, ahead] at parts
    rw [before, ← parts]
    exact List.take_left
  have whole : text = front ++ piece ++ back := by
    rw [← taken, List.append_assoc, occurs, List.take_append_drop]
  refine ⟨front, back, whole, before, rfl, taken ▸ stretch.endsOutside_take plain, ?_⟩
  rintro inner rest rfl outside
  have parts : PartsAt (· == separator) text (front ++ inner).length := by
    have behind : text = front ++ inner ++ separator :: (rest ++ back) := by rw [whole]; simp
    rw [behind]
    exact partsAt_length_iff.mpr ⟨beq_self_eq_true separator, outside⟩
  refine stretch.solid (front ++ inner).length ?_ ?_ parts
  · rw [List.length_append, before]
    omega
  · rw [List.length_append, List.length_append, List.length_cons, before]
    omega

/-- **Every text is cut at each separator that is no quote.** No cut fails, and the segments are those from which
filters and their arguments are read. -/
theorem segments?_isCutAt (unquoted : isQuote separator = false) (text : List Char) :
    ∃ segments, segments? separator text = some segments ∧ IsCutAt separator text segments ∧
      segments.map (·.1) = splitUnquoted separator text ∧
      findPlace? separator text =
        (findUnquoted? separator text).map fun offset => utf8.widthOf (text.take offset) := by
  have pieces := map_fst_inBytes text 0 (splitUnquoted separator text)
  have counted := congrArg List.length pieces
  rw [List.length_map] at counted
  refine ⟨_, segments?_eq separator text, ⟨?_, ?_, ?_, ?_⟩, pieces, findPlace?_eq separator text⟩
  · rw [pieces, joinWith_splitUnquoted]
  · rw [counted, length_splitUnquoted unquoted]
  · intro number segment place here
    rw [List.getElem?_map, Option.map_eq_some_iff] at here
    obtain ⟨⟨offset, piece⟩, here, same⟩ := here
    obtain ⟨rfl, rfl⟩ := Prod.mk.inj same
    obtain ⟨front, back, whole, rfl, before, outside, inside⟩ := exists_front_of_getElem?_withOffsets unquoted here
    refine ⟨front, back, whole, ?_, ?_, outside, inside⟩
    · rw [before]
      nth_rewrite 1 [← pieces]
      rw [← List.map_take, List.map_map]
      rfl
    · rw [whole, List.append_assoc, List.take_left]
  · intro segment place here
    obtain ⟨piece, later, cut⟩ := List.exists_cons_of_ne_nil (splitFrom_ne_nil (· == separator) none text)
    have cut : splitUnquoted separator text = piece :: later := cut
    rw [cut] at here counted
    cases here
    rw [findPlace?_of_splitUnquoted cut, cut, counted]
    exact if_congr (by simp) rfl rfl

/-- A text with a character of two bytes, a literal that holds the separator and the other quote, an empty piece, and a
literal that is not ended. -/
def mixedLiterals : List Char := "é|'a|\"b'||\"x|y".toList

/-- Four pieces, of which the third is empty. -/
theorem segments?_isCutAt_mixedLiterals :
    let segments := [("é".toList, 0), ("'a|\"b'".toList, 3), ([], 10), ("\"x|y".toList, 11)]
    isQuote '|' = false ∧ segments? '|' mixedLiterals = some segments ∧
      findPlace? '|' mixedLiterals = some 2 ∧ IsCutAt '|' mixedLiterals segments := by
  intro segments
  have unquoted : isQuote '|' = false := by decide
  have cut : segments? '|' mixedLiterals = some segments := by decide
  obtain ⟨found, same, isCutAt, -⟩ := segments?_isCutAt unquoted mixedLiterals
  obtain rfl := Option.some.inj (cut.symm.trans same)
  exact ⟨unquoted, cut, by decide, isCutAt⟩

end LiquidHover.Text
