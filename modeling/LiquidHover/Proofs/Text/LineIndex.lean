/-
**The lines at their places.** The places that are found in one pass over a text are those of its lines: cut out
of the text at these bytes, they are the pieces between its line feeds.

* `Text.cutAt?_append`, `Text.slice?_append` — what is cut out of a text by bytes.
* `LineIndex.Indexes` — an index of the lines of a text; one more character keeps it (`Indexes.read`).
* `LineIndex.line?_ofText`, `LineIndex.lineAt?_ofText` — the lines that are found by their places are the lines of the
  text. `LineIndex.exists_isLine_of_lineAt?`: whatever the size of the text, they have numbers of such lines.
* `LineIndex.Decomposes`, `LineIndex.decomposes_ofText` — the text cut into lines, and put together again.
-/
import LiquidHover.LineIndex
import LiquidHover.Proofs.Text.Columns
import LiquidHover.Proofs.Text.Lines
import Mathlib.Data.List.Induction

namespace LiquidHover

open Encoding (utf8)
open Lines (Begins IsLine dropReturn dropReturns)

/-! ### Cutting by bytes -/

namespace Text

/-- **A text is cut behind its first part** at the number of bytes of that part. -/
theorem cutAt?_append (front back : List Char) :
    cutAt? (utf8.widthOf front) (front ++ back) = some (front, back) := by
  induction front with
  | nil => exact cutAt?.eq_1 back
  | cons c front ih =>
    have positive := c.utf8Size_pos
    have width : utf8.widthOf (c :: front) = utf8.widthOf front + c.utf8Size - 1 + 1 := by
      show c.utf8Size + utf8.widthOf front = _
      omega
    have behind : utf8.widthOf front + c.utf8Size - 1 + 1 - c.utf8Size = utf8.widthOf front := by omega
    rw [width, List.cons_append, cutAt?, if_pos (by omega), behind, ih]
    rfl

/-- **A part of a text is cut out between its bounds.** -/
theorem slice?_append (front part back : List Char) :
    slice? (front ++ part ++ back) (utf8.widthOf front) (utf8.widthOf (front ++ part)) = some part := by
  have before : cutAt? (utf8.widthOf front) (front ++ part ++ back) = some (front, part ++ back) :=
    List.append_assoc front part back ▸ cutAt?_append front (part ++ back)
  have inside : cutAt? (utf8.widthOf (front ++ part) - utf8.widthOf front) (part ++ back) = some (part, back) := by
    rw [Encoding.widthOf_append, Nat.add_sub_cancel_left]
    exact cutAt?_append part back
  have ordered : utf8.widthOf front ≤ utf8.widthOf (front ++ part) := by
    rw [Encoding.widthOf_append]
    exact Nat.le_add_right _ _
  rw [slice?, if_pos ordered, before]
  show (cutAt? _ (part ++ back)).bind _ = _
  rw [inside]
  rfl

end Text

namespace Lines

/-! ### The lines of a text -/

theorem length_splitAt (text : List Char) : (Text.splitAt '\n' text).length = text.count '\n' + 1 := by
  induction text with
  | nil => rfl
  | cons c rest ih =>
    obtain ⟨piece, pieces, cut⟩ := List.exists_cons_of_ne_nil (Text.splitAt_ne_nil '\n' rest)
    rw [Text.splitAt]
    split
    · rename_i feed
      rw [List.length_cons, ih, feed, List.count_cons_self]
    · rename_i other
      rw [List.count_cons_of_ne other, ← ih, cut]
      rfl

theorem count_eq (text : List Char) : count text = text.count '\n' + 1 := by
  rw [count, ofText, length_dropReturns, length_splitAt]

/-- Every piece but the last ends in front of its terminator. -/
theorem getElem?_dropReturns (pieces : List (List Char)) (number : Nat) :
    (dropReturns pieces)[number]? =
      if number + 1 < pieces.length then pieces[number]?.map dropReturn else pieces[number]? := by
  fun_induction dropReturns pieces generalizing number with
  | case1 => simp
  | case2 last => simp
  | case3 line next lines ih =>
    cases number with
    | zero => simp
    | succ number =>
      rw [List.getElem?_cons_succ, ih, List.getElem?_cons_succ, List.length_cons (a := line)]
      exact if_congr (Nat.succ_lt_succ_iff).symm rfl rfl

/-- A line behind a text with so many line feeds is the first line of what follows. -/
theorem isLine_append {front rest line : List Char} {number : Nat} (begins : Begins front number)
    (first : IsLine rest 0 line) : IsLine (front ++ rest) number line := by
  obtain ⟨empty, back, rfl, start, unbroken, ends⟩ := first
  obtain rfl := start.eq_nil
  exact ⟨front, back, by simp, begins, unbroken, ends⟩

/-- The text that begins the next line. -/
theorem Begins.append_feed {front piece : List Char} {number : Nat} (begins : Begins front number)
    (whole : '\n' ∉ piece) : Begins (front ++ piece ++ ['\n']) (number + 1) where
  counted := by
    rw [List.count_append, List.count_append, begins.counted, List.count_eq_zero.mpr whole]
    rfl
  fed := Or.inr (by simp)

/-- **A line begins behind a text** that ends with a line feed. -/
theorem begins_concat_iff {text : List Char} {c : Char} {number : Nat} :
    Begins (text ++ [c]) number ↔ c = '\n' ∧ number = text.count '\n' + 1 := by
  constructor
  · rintro ⟨counted, fed⟩
    have feed : c = '\n' := by simpa using fed
    rw [feed, List.count_append, List.count_singleton_self] at counted
    exact ⟨feed, counted.symm⟩
  · rintro ⟨rfl, rfl⟩
    exact ⟨by rw [List.count_append, List.count_singleton_self], Or.inr (by simp)⟩

end Lines

namespace LineIndex

/-! ### One character after the other -/

/-- An index of the lines of a text: as many line starts as there are lines, each at the bytes of the text before
its line. Numbers of bytes are counted up to 32 bits. -/
structure Indexes (index : LineIndex) (text : List Char) : Prop where
  size : index.size = .ofNat (utf8.widthOf text)
  count : index.count = text.count '\n' + 1
  starts : ∀ number start, index.starts[number]? = some start ↔
    ∃ front, front <+: text ∧ Begins front number ∧ start = .ofNat (utf8.widthOf front)

theorem indexes_empty : empty.Indexes [] where
  size := rfl
  count := rfl
  starts number start := by
    cases number with
    | zero =>
      constructor
      · intro found
        exact ⟨[], List.prefix_refl _, ⟨rfl, Or.inl rfl⟩, (Option.some.inj found).symm⟩
      · rintro ⟨front, inside, -, rfl⟩
        obtain rfl := List.prefix_nil.mp inside
        rfl
    | succ number =>
      constructor
      · intro found
        cases found
      · rintro ⟨front, inside, begins, -⟩
        obtain rfl := List.prefix_nil.mp inside
        cases begins.counted

theorem widthOf_concat (text : List Char) (c : Char) :
    UInt32.ofNat (utf8.widthOf (text ++ [c])) = .ofNat (utf8.widthOf text) + .ofNat c.utf8Size := by
  rw [Encoding.widthOf_append, UInt32.ofNat_add]
  rfl

/-- **One more character** keeps an index up to date. -/
theorem Indexes.read {index : LineIndex} {text : List Char} (indexes : index.Indexes text) (c : Char) :
    (index.read c).Indexes (text ++ [c]) := by
  have grown : (index.read c).size = .ofNat (utf8.widthOf (text ++ [c])) := by
    rw [widthOf_concat, ← indexes.size]
    rfl
  have before (number : Nat) (start : UInt32) : index.starts[number]? = some start ↔
      ∃ front, front <+: text ∧ Begins front number ∧ start = .ofNat (utf8.widthOf front) :=
    indexes.starts number start
  by_cases feed : c = '\n'
  · have starts : (index.read c).starts = index.starts.push (index.read c).size := if_pos feed
    have full : index.starts.size = text.count '\n' + 1 := indexes.count
    subst feed
    refine ⟨grown, ?_, fun number start => ?_⟩
    · rw [LineIndex.count, starts, Array.size_push, full, List.count_append, List.count_singleton_self]
    · simp only [List.prefix_concat_iff, or_and_right, exists_or, exists_eq_left, Lines.begins_concat_iff,
        true_and]
      rw [starts, Array.getElem?_push, full, grown, ← before]
      split
      · -- This is the line that begins here; before it there were not so many.
        rename_i here
        have absent : index.starts[number]? = none := Array.getElem?_eq_none (by omega)
        rw [absent]
        simp [here, eq_comm]
      · rename_i elsewhere
        simp [elsewhere]
  · have starts : (index.read c).starts = index.starts := if_neg feed
    refine ⟨grown, ?_, fun number start => ?_⟩
    · rw [LineIndex.count, starts, ← LineIndex.count, indexes.count, List.count_append,
        List.count_singleton, beq_false_of_ne feed]
      rfl
    · simp only [List.prefix_concat_iff, or_and_right, exists_or, exists_eq_left, Lines.begins_concat_iff,
        feed, false_and, false_or]
      rw [starts, before]

/-- **The index that is found in one pass.** -/
theorem indexes_ofText (text : List Char) : (ofText text).Indexes text := by
  induction text using List.reverseRecOn with
  | nil => exact indexes_empty
  | append_singleton text c ih =>
    rw [ofText, List.foldl_append]
    exact ih.read c

/-! ### The lines that are found -/

variable {front piece rest text line : List Char} {number : UInt32}

/-- A part of a text of less than 2^32 bytes has as many bytes as are counted. -/
theorem toNat_ofNat_widthOf (short : utf8.widthOf (front ++ rest) < 2 ^ 32) :
    (UInt32.ofNat (utf8.widthOf front)).toNat = utf8.widthOf front := by
  rw [Encoding.widthOf_append] at short
  exact UInt32.toNat_ofNat_of_lt' ((Nat.le_add_right _ _).trans_lt short)

/-- A line is cut out from its start up to the next one, or to the end of the text. -/
theorem raw?_eq_slice? {index : LineIndex} {start stop : UInt32} (starts : index.starts[number.toNat]? = some start)
    (stops : index.starts[number.toNat + 1]?.getD index.size = stop) (text : List Char) :
    index.raw? text number = Text.slice? text start.toNat stop.toNat := by
  rw [raw?, stretch?, starts, stops]
  rfl

theorem getElem?_starts_ofText (begins : Begins front number.toNat) (rest : List Char) :
    (ofText (front ++ rest)).starts[number.toNat]? = some (.ofNat (utf8.widthOf front)) :=
  ((indexes_ofText (front ++ rest)).starts _ _).mpr ⟨front, List.prefix_append _ _, begins, rfl⟩

/-- **A line that is not the last is cut out** up to its line feed. -/
theorem raw?_ofText_of_feed (begins : Begins front number.toNat) (whole : '\n' ∉ piece)
    (short : utf8.widthOf (front ++ (piece ++ '\n' :: rest)) < 2 ^ 32) :
    (ofText (front ++ (piece ++ '\n' :: rest))).raw? (front ++ (piece ++ '\n' :: rest)) number =
      some (piece ++ ['\n']) := by
  have parts : front ++ (piece ++ '\n' :: rest) = front ++ (piece ++ ['\n']) ++ rest := by simp
  have next : (ofText (front ++ (piece ++ '\n' :: rest))).starts[number.toNat + 1]? =
      some (.ofNat (utf8.widthOf (front ++ (piece ++ ['\n'])))) :=
    ((indexes_ofText _).starts _ _).mpr
      ⟨_, parts ▸ List.prefix_append _ rest, List.append_assoc front _ _ ▸ begins.append_feed whole, rfl⟩
  rw [raw?_eq_slice? (getElem?_starts_ofText begins _) (congrArg (Option.getD · _) next),
    toNat_ofNat_widthOf short]
  show Text.slice? _ _ (UInt32.ofNat _).toNat = _
  rw [toNat_ofNat_widthOf (parts ▸ short), parts]
  exact Text.slice?_append front (piece ++ ['\n']) rest

/-- **The last line is cut out** up to the end. -/
theorem raw?_ofText_of_last (begins : Begins front number.toNat) (whole : '\n' ∉ rest)
    (short : utf8.widthOf (front ++ rest) < 2 ^ 32) :
    (ofText (front ++ rest)).raw? (front ++ rest) number = some rest := by
  have indexes := indexes_ofText (front ++ rest)
  have last : (ofText (front ++ rest)).starts[number.toNat + 1]? = none := by
    refine Array.getElem?_eq_none ?_
    rw [← LineIndex.count, indexes.count, List.count_append, begins.counted, List.count_eq_zero.mpr whole]
  have stops : (ofText (front ++ rest)).starts[number.toNat + 1]?.getD (ofText (front ++ rest)).size =
      .ofNat (utf8.widthOf (front ++ rest)) := by
    rw [last, Option.getD_none, indexes.size]
  rw [raw?_eq_slice? (getElem?_starts_ofText begins _) stops, toNat_ofNat_widthOf short,
    UInt32.toNat_ofNat_of_lt' short]
  have cut := Text.slice?_append front rest []
  rwa [List.append_nil] at cut

theorem count_ofText (text : List Char) : (ofText text).count = text.count '\n' + 1 :=
  (indexes_ofText text).count

/-- Past the lines nothing is cut out. -/
theorem raw?_ofText_of_count_le (beyond : (ofText text).count ≤ number.toNat) :
    (ofText text).raw? text number = none := by
  rw [raw?, stretch?, Array.getElem?_eq_none beyond]
  rfl

/-- In front of each line stands a text with so many line feeds. -/
theorem exists_begins (within : number.toNat < (ofText text).count) :
    ∃ front rest, text = front ++ rest ∧ Begins front number.toNat := by
  have found : (ofText text).starts[number.toNat]? = some (ofText text).starts[number.toNat] :=
    Array.getElem?_eq_getElem within
  obtain ⟨front, ⟨rest, whole⟩, begins, -⟩ := ((indexes_ofText text).starts _ _).mp found
  exact ⟨front, rest, whole.symm, begins⟩

/-- **What is cut out is a line with its terminator.** -/
theorem exists_raw?_ofText (short : utf8.widthOf text < 2 ^ 32) (within : number.toNat < (ofText text).count) :
    ∃ raw, (ofText text).raw? text number = some raw ∧ IsLine text number.toNat (dropTerminator raw) := by
  obtain ⟨front, rest, rfl, begins⟩ := exists_begins within
  by_cases feed : '\n' ∈ rest
  · obtain ⟨piece, rest, rfl, whole⟩ := List.eq_append_cons_of_mem feed
    refine ⟨piece ++ ['\n'], raw?_ofText_of_feed begins whole short, Lines.isLine_append begins ?_⟩
    refine (Lines.isLine_zero_append whole rest).mpr ?_
    simp [dropTerminator]
  · refine ⟨rest, raw?_ofText_of_last begins feed short, Lines.isLine_append begins ?_⟩
    refine (Lines.isLine_of_not_mem feed).mpr ⟨rfl, if_neg fun ends => feed (List.mem_of_getLast? ends)⟩

/-- **The lines that are found by their places are the lines of the text.** -/
theorem line?_ofText (short : utf8.widthOf text < 2 ^ 32) (number : UInt32) :
    (ofText text).line? text number = Lines.line? text number.toNat := by
  by_cases within : number.toNat < (ofText text).count
  · obtain ⟨raw, cut, isLine⟩ := exists_raw?_ofText short within
    rw [line?, cut, Lines.line?_eq_some_iff.mpr isLine]
    rfl
  · have beyond := Nat.le_of_not_lt within
    rw [line?, raw?_ofText_of_count_le beyond]
    rw [count_ofText, ← Lines.count_eq, Lines.count] at beyond
    exact (List.getElem?_eq_none beyond).symm

/-- **The same for lines by any number**: a text of so few bytes has no line with a larger number. -/
theorem lineAt?_ofText (short : utf8.widthOf text < 2 ^ 32) (number : Nat) :
    (ofText text).lineAt? text number = Lines.line? text number := by
  unfold lineAt?
  by_cases numbered : number < UInt32.size
  · rw [if_pos numbered, line?_ofText short, UInt32.toNat_ofNat_of_lt' numbered]
  · have feeds : text.count '\n' ≤ utf8.widthOf text := List.count_le_length.trans (utf8.length_le_widthOf text)
    have beyond : (Lines.ofText text).length ≤ number := by
      rw [← Lines.count, Lines.count_eq]
      exact (Nat.succ_le_of_lt (feeds.trans_lt short)).trans (Nat.le_of_not_lt numbered)
    rw [if_neg numbered]
    exact (List.getElem?_eq_none beyond).symm

/-- **A line that is found by its place is a line of the text**, however long the text is. Beyond 2^32 bytes it may be
cut out at a wrong place, but its number is that of a line. -/
theorem exists_isLine_of_lineAt? {number : Nat} (found : (ofText text).lineAt? text number = some line) :
    ∃ line, IsLine text number line := by
  unfold lineAt? at found
  by_cases numbered : number < UInt32.size
  · rw [if_pos numbered] at found
    have within : number < Lines.count text := by
      refine Nat.lt_of_not_le fun beyond => ?_
      rw [Lines.count_eq, ← count_ofText, ← UInt32.toNat_ofNat_of_lt' numbered] at beyond
      rw [line?, raw?_ofText_of_count_le beyond] at found
      cases found
    exact ⟨_, Lines.line?_eq_some_iff.mp (List.getElem?_eq_getElem within)⟩
  · rw [if_neg numbered] at found
    cases found

/-! ### The text cut into lines -/

/-- Lines with a terminator behind each of them but the last. -/
def join (lines terminators : List (List Char)) : List Char :=
  (List.zipWith (· ++ ·) lines (terminators ++ [[]])).flatten

/-- A terminator of a line. -/
def IsTerminator (text : List Char) : Prop := text = ['\n'] ∨ text = ['\r', '\n']

/-- What stands between two line feeds is a line and the start of its terminator. -/
theorem exists_terminator (piece : List Char) :
    ∃ terminator, IsTerminator terminator ∧ piece ++ ['\n'] = dropReturn piece ++ terminator := by
  by_cases returned : piece.getLast? = some '\r'
  · have parts : piece.dropLast ++ ['\r'] = piece := List.dropLast_append_getLast? _ returned
    refine ⟨['\r', '\n'], Or.inr rfl, ?_⟩
    rw [dropReturn, if_pos returned]
    nth_rewrite 1 [← parts]
    rw [List.append_assoc]
    rfl
  · exact ⟨['\n'], Or.inl rfl, by rw [dropReturn, if_neg returned]⟩

/-- Pieces of a text are put together from their lines and terminators. -/
theorem exists_joinWith_eq_join {pieces : List (List Char)} (nonempty : pieces ≠ []) :
    ∃ terminators, terminators.length + 1 = pieces.length ∧
      (∀ terminator ∈ terminators, IsTerminator terminator) ∧
      Text.joinWith '\n' pieces = join (dropReturns pieces) terminators := by
  fun_induction dropReturns pieces with
  | case1 => exact absurd rfl nonempty
  | case2 last => exact ⟨[], rfl, fun _ member => (List.not_mem_nil member).elim, by simp [Text.joinWith, join]⟩
  | case3 line next lines ih =>
    obtain ⟨terminators, size, all, whole⟩ := ih (List.cons_ne_nil _ _)
    obtain ⟨terminator, ends, parts⟩ := exists_terminator line
    refine ⟨terminator :: terminators, congrArg (· + 1) size, List.forall_mem_cons.mpr ⟨ends, all⟩, ?_⟩
    calc Text.joinWith '\n' (line :: next :: lines)
        = (line ++ ['\n']) ++ Text.joinWith '\n' (next :: lines) := by simp [Text.joinWith]
      _ = (dropReturn line ++ terminator) ++ join (dropReturns (next :: lines)) terminators := by rw [parts, whole]
      _ = join (dropReturn line :: dropReturns (next :: lines)) (terminator :: terminators) := by simp [join]

/-- **An index cuts a text into its lines.** There is one more of them than line feeds. Every line but the last is a
piece between line feeds without one carriage return at its end, the last line is the last piece as it is, and there
is nothing behind it. Each of them is cut out at character boundaries, holds no line feed, and is the line that a
document with this text has under the same number. With the terminators put back they are the text. -/
structure Decomposes (index : LineIndex) (text : List Char) : Prop where
  counted : index.count = text.count '\n' + 1
  past : ∀ number, index.line? text number = none ↔ index.count ≤ number.toNat
  inner : ∀ number, number.toNat + 1 < index.count →
    index.line? text number = ((Text.splitAt '\n' text)[number.toNat]?).map dropReturn
  last : ∀ number, number.toNat + 1 = index.count →
    index.line? text number = (Text.splitAt '\n' text).getLast?
  cut : ∀ number, number.toNat < index.count → (index.raw? text number).isSome = true
  unbroken : ∀ number line, index.line? text number = some line → '\n' ∉ line
  same : ∀ number, index.line? text number = Lines.line? text number.toNat
  whole : ∃ lines terminators, lines.length = index.count ∧ terminators.length + 1 = index.count ∧
    (∀ number, index.line? text number = lines[number.toNat]?) ∧
    (∀ terminator ∈ terminators, IsTerminator terminator) ∧ text = join lines terminators

/-- **The index of a text cuts it into its lines**, if the text has less than 2^32 bytes. -/
theorem decomposes_ofText (text : String) (short : text.utf8ByteSize < 2 ^ 32) :
    (ofText text.toList).Decomposes text.toList := by
  have narrow : utf8.widthOf text.toList < 2 ^ 32 := (utf8.widthOf_le_utf8ByteSize text).trans_lt short
  have same := line?_ofText narrow
  have counted := count_ofText text.toList
  have pieces : (Text.splitAt '\n' text.toList).length = (ofText text.toList).count := by
    rw [counted, Lines.length_splitAt]
  have found (number : UInt32) : (ofText text.toList).line? text.toList number =
      if number.toNat + 1 < (ofText text.toList).count
        then ((Text.splitAt '\n' text.toList)[number.toNat]?).map dropReturn
        else (Text.splitAt '\n' text.toList)[number.toNat]? := by
    rw [same, ← pieces]
    exact Lines.getElem?_dropReturns _ _
  refine ⟨counted, fun number => ?_, fun number inner => ?_, fun number last => ?_, fun number within => ?_,
    fun number line written => ?_, same, ?_⟩
  · rw [same, counted, ← Lines.count_eq]
    exact List.getElem?_eq_none_iff
  · rw [found, if_pos inner]
  · rw [found, if_neg (by omega), List.getLast?_eq_getElem?, pieces, ← last, Nat.add_sub_cancel]
  · obtain ⟨raw, cut, -⟩ := exists_raw?_ofText narrow within
    exact Option.isSome_of_mem cut
  · rw [same] at written
    obtain ⟨_, _, _, _, unbroken, _⟩ := Lines.line?_eq_some_iff.mp written
    exact unbroken
  · obtain ⟨terminators, size, all, whole⟩ := exists_joinWith_eq_join (Text.splitAt_ne_nil '\n' text.toList)
    rw [Text.joinWith_splitAt] at whole
    refine ⟨Lines.ofText text.toList, terminators, ?_, size.trans pieces, same, all, whole⟩
    rw [Lines.ofText, Lines.length_dropReturns, pieces]

/-- A text with characters of several bytes, an empty line, carriage returns that stay, and none at its end. -/
theorem decomposes_ofText_carriageReturns :
    let text := "é😀\r\r\n\n\r{{ x }}\r"
    text.utf8ByteSize < 2 ^ 32 ∧ (ofText text.toList).starts = #[0, 9, 10] ∧
      (ofText text.toList).line? text.toList 0 = some "é😀\r".toList ∧
      (ofText text.toList).line? text.toList 1 = some [] ∧
      (ofText text.toList).line? text.toList 2 = some "\r{{ x }}\r".toList ∧
      (ofText text.toList).Decomposes text.toList := by
  intro text
  have short : text.utf8ByteSize < 2 ^ 32 := by decide +kernel
  exact ⟨short, by decide +kernel, by decide +kernel, by decide +kernel, by decide +kernel,
    decomposes_ofText text short⟩

end LineIndex

end LiquidHover
