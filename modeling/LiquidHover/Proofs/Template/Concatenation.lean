/-
**Reading a line part by part.** In a text whose openers all belong to expressions nothing is left open. Whatever
is written behind such a text, its expressions stay what they are, and those of the rest follow as if the
rest stood alone, moved to the right by the length of the text.

* `Delimited.shift`, `Expression.shift` — a piece and an expression moved to the right.
* `Delimited.scanFrom_shift` — a scan that begins further right finds the same pieces further right.
* `Delimited.scanFrom_append` — a scan goes on behind a text in which nothing is left open.
* `LeavesNothingOpen` — such a text, by its openers and its expressions.
* `all_append` — the expressions of two texts in a row.
-/
import LiquidHover.Proofs.Template.Expressions

namespace LiquidHover.Template

open Text (OccursAt)

/-! ### Moving to the right -/

/-- The piece moved right by `distance` characters. -/
def Delimited.shift (piece : Delimited) (distance : Nat) : Delimited :=
  { piece with start := piece.start + distance }

/-- The expression moved right by `distance` characters. -/
def Expression.shift (expression : Expression) (distance : Nat) : Expression :=
  { expression with
    bounds := expression.bounds.shift distance
    contentStart := expression.contentStart + distance }

namespace Delimited

/-- **A scan that begins further right finds the same pieces further right.** -/
theorem scanFrom_shift (start distance : Nat) (text : List Char) :
    scanFrom (start + distance) text = (scanFrom start text).map (·.shift distance) := by
  fun_induction scanFrom start text with
  | case1 => rw [scanFrom, List.map_nil]
  | case2 start c rest plain ih =>
    rw [scanFrom_cons_of_openerAt? plain, ← ih]
    congr 1
    omega
  | case3 start c rest kind body opens uncut ih =>
    rw [openerAt?_eq_some opens, scanFrom_opener_of_uncut uncut, ← ih]
    congr 1
    omega
  | case4 start c rest kind body opens inner after cut ih =>
    rw [openerAt?_eq_some opens, scanFrom_opener cut, List.map_cons, ← ih]
    congr 2
    omega

/-! ### Going on behind a text -/

/-- A piece holds a position, its delimiters included. -/
def Encloses (piece : Delimited) (position : Nat) : Prop :=
  piece.start ≤ position ∧ position < piece.stop

/-- **A scan goes on behind a text in which nothing is left open**: every opener of the text lies in a piece,
and none begins with its last character. -/
theorem scanFrom_append {start : Nat} {front : List Char} (seam : front.getLast? ≠ some '{')
    (enclosed : ∀ (kind : Kind) (position : Nat), OccursAt kind.opener front position →
      ∃ piece ∈ scanFrom start front, piece.Encloses (start + position))
    (back : List Char) :
    scanFrom start (front ++ back) =
      scanFrom start front ++ scanFrom (start + front.length) back := by
  fun_induction scanFrom start front with
  | case1 => rfl
  | case2 start c rest plain ih =>
    have plain' : openerAt? (c :: (rest ++ back)) = none := by
      rw [openerAt?_eq_none_iff] at plain ⊢
      intro kind opens
      cases rest with
      | nil =>
        -- The opener would lie across the seam.
        obtain ⟨body, whole⟩ := opens
        exact seam (congrArg some (List.cons.inj whole).1.symm)
      | cons d rest => exact plain kind (OccursAt.of_append_right opens (by simp))
    have seam' : rest.getLast? ≠ some '{' := by
      intro ends
      rw [List.getLast?_cons, ends] at seam
      exact seam rfl
    rw [List.cons_append, scanFrom_cons_of_openerAt? plain', ih seam' ?_]
    · rw [List.length_cons]
      congr 2
      omega
    · intro kind position opens
      obtain ⟨piece, member, around⟩ := enclosed kind (position + 1) opens
      rw [Nat.add_comm position, ← Nat.add_assoc] at around
      exact ⟨piece, member, around⟩
  | case3 start c rest kind body opens uncut ih =>
    -- The scan skips this opener, so no piece encloses it.
    have here : OccursAt kind.opener (c :: rest) 0 := by
      rw [openerAt?_eq_some opens]
      exact List.prefix_append _ _
    obtain ⟨piece, member, around⟩ := enclosed kind 0 here
    have later := le_start_of_mem_scanFrom member
    have before := around.1
    omega
  | case4 start c rest kind body opens inner after cut ih =>
    have whole : c :: rest = (kind.opener ++ inner ++ kind.closer) ++ after := by
      rw [openerAt?_eq_some opens, cutCloser_eq_some cut]
      simp only [List.append_assoc]
    have width : (kind.opener ++ inner ++ kind.closer).length = inner.length + 4 := by
      simp only [List.length_append, length_opener, length_closer]
      omega
    have size : (c :: rest).length = inner.length + 4 + after.length := by
      rw [whole, List.length_append, width]
    have seam' : after.getLast? ≠ some '{' := by
      intro ends
      rw [whole, List.getLast?_append, ends] at seam
      exact seam rfl
    have enclosed' : ∀ (other : Kind) (position : Nat), OccursAt other.opener after position →
        ∃ piece ∈ scanFrom (start + inner.length + 4) after,
          piece.Encloses (start + inner.length + 4 + position) := by
      intro other position later
      have inText : OccursAt other.opener (c :: rest) (inner.length + 4 + position) := by
        rw [whole, ← width]
        exact (Text.occursAt_append_left _).mpr later
      obtain ⟨piece, member, starts, stops⟩ := enclosed other _ inText
      rcases List.mem_cons.mp member with rfl | found
      · -- The piece that was just taken ends before the opener.
        simp only [stop, length] at stops
        omega
      · refine ⟨piece, found, ?_, ?_⟩ <;> omega
    rw [size, openerAt?_eq_some opens, List.append_assoc, scanFrom_opener (cutCloser_append cut back),
      ih seam' enclosed']
    rw [List.cons_append]
    congr 3
    omega

end Delimited

/-! ### Expressions -/

/-- A span that ends within the limit is moved as a whole. -/
theorem shift_ofParts {start length distance : Nat} (within : start + length ≤ Span.limit) :
    (Span.ofParts start length).shift distance = .ofParts (start + distance) length := by
  have starts : (Span.ofParts start length).start = start := Nat.min_eq_left (by omega)
  have keeps : (Span.ofParts start length).length = length := if_pos (by omega)
  rw [Span.shift, starts, keeps]

namespace Expression

variable {piece : Delimited} {distance : Nat}

/-- Reading a piece and moving it can be exchanged. -/
theorem ofDelimited_shift (within : piece.stop ≤ Span.limit) :
    ofDelimited (piece.shift distance) = (ofDelimited piece).shift distance := by
  have bounds : (ofDelimited piece).bounds.shift distance =
      .ofParts (piece.start + distance) piece.length := shift_ofParts within
  rw [shift, bounds]
  simp only [ofDelimited, Delimited.shift, mk.injEq, true_and]
  exact ⟨rfl, by omega⟩

/-- No bound is clamped when an expression is moved within the limit. -/
theorem bounds_shift (within : piece.stop + distance ≤ Span.limit) :
    ((ofDelimited piece).shift distance).bounds.start =
        (ofDelimited piece).bounds.start + distance ∧
      ((ofDelimited piece).shift distance).bounds.stop =
        (ofDelimited piece).bounds.stop + distance := by
  have placed : piece.start + piece.length + distance ≤ Span.limit := within
  have bounds : (ofDelimited piece).bounds = .ofParts piece.start piece.length := rfl
  have moved : ((ofDelimited piece).shift distance).bounds =
      .ofParts (piece.start + distance) piece.length := shift_ofParts (by omega)
  rw [bounds, moved, Span.ofParts_stop (by omega), Span.ofParts_stop (by omega),
    Span.ofParts_start, Span.ofParts_start]
  omega

end Expression

/-- A text in which nothing is left open: every opener lies in an expression, whose own it may be, and the last
character does not begin one. -/
structure LeavesNothingOpen (text : List Char) : Prop where
  seam : text.getLast? ≠ some '{'
  enclosed : ∀ (kind : Kind) (position : Nat), OccursAt kind.opener text position →
    ∃ expression ∈ Expression.all text,
      expression.bounds.start ≤ position ∧ position < expression.bounds.stop

/-- The same for the pieces of the text. -/
theorem LeavesNothingOpen.exists_piece {text : List Char} (closed : LeavesNothingOpen text)
    (short : text.length ≤ Span.limit) {kind : Kind} {position : Nat}
    (opens : OccursAt kind.opener text position) :
    ∃ piece ∈ Delimited.scan text, piece.Encloses position := by
  obtain ⟨expression, member, starts, stops⟩ := closed.enclosed kind position opens
  obtain ⟨piece, found, rfl⟩ := List.mem_map.mp member
  have stands := (Delimited.standsIn_of_mem_scanFrom rfl found).1
  rw [Delimited.start_ofDelimited stands short] at starts
  rw [Delimited.stop_ofDelimited stands short] at stops
  exact ⟨piece, found, starts, stops⟩

/-- **The expressions of two texts in a row**, the first of which leaves nothing open, are those of the first
and then those of the second, with kind and content as they were and all offsets moved by the length of the
first. -/
theorem all_append {front : List Char} (closed : LeavesNothingOpen front) (back : List Char)
    (short : (front ++ back).length ≤ Span.limit) :
    Expression.all (front ++ back) =
        Expression.all front ++ (Expression.all back).map (·.shift front.length) ∧
      ∀ expression ∈ Expression.all back,
        (expression.shift front.length).bounds.start = expression.bounds.start + front.length ∧
          (expression.shift front.length).bounds.stop = expression.bounds.stop + front.length := by
  rw [List.length_append] at short
  have within : ∀ piece ∈ Delimited.scan back, piece.stop + front.length ≤ Span.limit := by
    intro piece found
    have ends := (Delimited.standsIn_of_mem_scanFrom rfl found).1.stop_le
    omega
  constructor
  · have scanned : Delimited.scan (front ++ back) =
        Delimited.scan front ++ (Delimited.scan back).map (·.shift front.length) := by
      have enclosed (kind : Kind) (position : Nat) (opens : OccursAt kind.opener front position) :
          ∃ piece ∈ Delimited.scanFrom 0 front, piece.Encloses (0 + position) := by
        rw [Nat.zero_add]
        exact closed.exists_piece (by omega) opens
      have goesOn := Delimited.scanFrom_append closed.seam enclosed back
      rw [Delimited.scanFrom_shift] at goesOn
      exact goesOn
    simp only [Expression.all, scanned, List.map_append, List.map_map]
    congr 1
    refine List.map_congr_left fun piece found => ?_
    exact Expression.ofDelimited_shift (by have ends := within piece found; omega)
  · intro expression member
    obtain ⟨piece, found, rfl⟩ := List.mem_map.mp member
    exact Expression.bounds_shift (within piece found)

/-- An output around an opener, a tag, and the first half of a closer. -/
def closedFront : List Char := "é \x7b\x7b '\x7b%' \x7d\x7d\x7b%- if x -%\x7d %".toList

/-- The second half of a closer, an output, and an opener without a closer. -/
def openBack : List Char := "\x7d \x7b\x7b y \x7d\x7d \x7b\x7b".toList

/-- The two halves of a closer close nothing. -/
theorem all_append_seam :
    LeavesNothingOpen closedFront ∧ (closedFront ++ openBack).length ≤ Span.limit ∧
      (Expression.all openBack).map (·.bounds.start) = [2] ∧
      (Expression.all (closedFront ++ openBack)).map (·.bounds.start) = [2, 12, 28] ∧
      Expression.all (closedFront ++ openBack) =
        Expression.all closedFront ++ (Expression.all openBack).map (·.shift closedFront.length) := by
  have closed : LeavesNothingOpen closedFront := by
    refine ⟨by decide +kernel, fun kind position opens => ?_⟩
    have room := opens.add_length_le (by simp [Kind.opener])
    have each : ∀ position < closedFront.length, ∀ kind ∈ [Kind.output, Kind.tag],
        OccursAt kind.opener closedFront position →
          ∃ expression ∈ Expression.all closedFront,
            expression.bounds.start ≤ position ∧ position < expression.bounds.stop := by
      decide +kernel
    rw [length_opener] at room
    exact each position (by omega) kind (by cases kind <;> decide) opens
  have short : (closedFront ++ openBack).length ≤ Span.limit := by decide +kernel
  exact ⟨closed, short, by decide +kernel, by decide +kernel, (all_append closed openBack short).1⟩

end LiquidHover.Template
