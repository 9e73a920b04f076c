/-
**The encoding does not matter.** Two editors that count columns in different code units and point at
the same character receive the same panel about the same characters.

* `PlacedHover.Matches` — two hovers with one panel, whose columns stand for the same offsets.
* `Session.value_hover_columnOf` — what a session without cached hovers answers at a character.
* `hover_encoding_independent` — two sessions that differ in their encodings answer with such hovers, or
  neither gives one.
-/
import LiquidHover.Proofs.Hover.Cover
import LiquidHover.Proofs.Session.Documents

namespace LiquidHover

/-- Two hovers on a line, each in the columns of its encoding, with the same panel about the same
characters. -/
structure PlacedHover.Matches (line : List Char) (encoding other : Encoding)
    (hover copy : PlacedHover) : Prop where
  markdown : hover.markdown = copy.markdown
  startLine : hover.range.start.line = copy.range.start.line
  stopLine : hover.range.stop.line = copy.range.stop.line
  starts : ∃ offset, encoding.offsetOf? line hover.range.start.column = some offset ∧
    other.offsetOf? line copy.range.start.column = some offset
  stops : ∃ offset, encoding.offsetOf? line hover.range.stop.column = some offset ∧
    other.offsetOf? line copy.range.stop.column = some offset

/-- A hover within the line can be placed in any two encodings. -/
theorem Hover.matches_place {hover : Hover} {line : List Char} {encoding other : Encoding}
    (narrow : encoding.widthOf line ≤ Span.limit) (narrow' : other.widthOf line ≤ Span.limit)
    (ordered : hover.range.start ≤ hover.range.stop) (inside : hover.range.stop ≤ line.length)
    (number : Nat) :
    (hover.place line number encoding).Matches line encoding other
      (hover.place line number other) where
  markdown := rfl
  startLine := rfl
  stopLine := rfl
  starts := ⟨hover.range.start, Encoding.offsetOf?_columnOf narrow (ordered.trans inside),
    Encoding.offsetOf?_columnOf narrow' (ordered.trans inside)⟩
  stops := ⟨hover.range.stop, Encoding.offsetOf?_columnOf narrow inside,
    Encoding.offsetOf?_columnOf narrow' inside⟩

/-- A hover on a short line ends within the line. -/
theorem Hover.stop_le_length {catalog : Catalog} {settings : Settings} {line : List Char}
    {offset : Nat} {hover : Hover} (short : line.length ≤ Span.limit)
    (found : Hover.at? catalog settings line offset = some hover) :
    hover.range.stop ≤ line.length := by
  obtain ⟨expression, under, around⟩ := Hover.isAround_of_at? short found
  have member := Template.Expression.mem_all_of_at? under
  exact around.before.trans (Template.Expression.isDelimitedIn_of_mem_all short member).within

/-- A line of a document has no more code units than the document has bytes. -/
theorem Encoding.widthOf_line_le {document : Document} (indexed : document.Indexed)
    (short : document.text.utf8ByteSize < 2 ^ 32) {number : Nat} {line : List Char}
    (written : document.line? number = some line) (encoding : Encoding) :
    encoding.widthOf line ≤ document.text.utf8ByteSize := by
  rw [indexed.line?_eq short] at written
  obtain ⟨front, back, whole⟩ := Lines.exists_append_of_line? written
  calc encoding.widthOf line
      ≤ encoding.widthOf document.text.toList := by
        rw [whole, widthOf_append, widthOf_append]
        omega
    _ ≤ document.text.utf8ByteSize := encoding.widthOf_le_utf8ByteSize document.text

/-- **The answer at a character.** Without cached hovers, a session answers at the column of a character
with the hover of that character. -/
theorem Session.value_hover_columnOf {session : Session} (cold : session.cache.entries = [])
    {uri : String} {document : Document} (opened : session.documents.get? uri = some document)
    {number offset : Nat} {line : List Char} (written : document.line? number = some line)
    (narrow : session.encoding.widthOf line ≤ Span.limit) (inside : offset ≤ line.length) :
    (session.hover uri ⟨number, session.encoding.columnOf line offset⟩).value =
      (Hover.at? Catalog.shopify session.settings line offset).map
        fun hover => hover.place line number session.encoding := by
  rw [value_hover_of_faithful (faithful_of_empty cold)]
  have located := Encoding.offsetOf?_columnOf narrow inside
  simp only [computed?, locate?, opened, written, located, Option.bind_eq_bind, Option.bind_some,
    Option.pure_def]
  exact Option.map_eq_bind.symm

/-- **The encoding does not matter.** Two sessions with the same settings and no cached hovers have opened
the same text of less than 2^32 bytes. At the columns that a character has in their encodings, neither
gives a hover, or both give the same panel about the same characters. -/
theorem hover_encoding_independent (first second : Session)
    (settings : first.settings = second.settings)
    (cold : first.cache.entries = []) (cold' : second.cache.entries = [])
    {uri uri' : String} {edition edition' : Edition}
    (opened : first.documents.get? uri = some (.ofEdition edition))
    (opened' : second.documents.get? uri' = some (.ofEdition edition'))
    (sameText : edition.text = edition'.text) (short : edition.text.utf8ByteSize < 2 ^ 32)
    {number offset : Nat} {line : List Char}
    (written : (Document.ofEdition edition).line? number = some line) (inside : offset ≤ line.length) :
    Option.Rel (PlacedHover.Matches line first.encoding second.encoding)
      (first.hover uri ⟨number, first.encoding.columnOf line offset⟩).value
      (second.hover uri' ⟨number, second.encoding.columnOf line offset⟩).value := by
  have written' : (Document.ofEdition edition').line? number = some line := by
    rw [Document.line?, Document.ofEdition, ← sameText]
    exact written
  have narrow (encoding : Encoding) : encoding.widthOf line ≤ Span.limit :=
    (encoding.widthOf_line_le (Document.indexed_ofEdition edition) short written).trans (Nat.le_of_lt_succ short)
  rw [Session.value_hover_columnOf cold opened written (narrow _) inside,
    Session.value_hover_columnOf cold' opened' written' (narrow _) inside, settings]
  cases found : Hover.at? Catalog.shopify second.settings line offset with
  | none => exact .none
  | some hover =>
    have shortLine : line.length ≤ Span.limit :=
      (Encoding.utf32.length_le_widthOf line).trans (narrow _)
    obtain ⟨starts, stops⟩ := Span.covers_iff.mp (Hover.covers_of_at? found)
    exact .some (Hover.matches_place (narrow _) (narrow _) (starts.trans stops)
      (Hover.stop_le_length shortLine found) number)

/-- A session in which the line with the cart is open. -/
def cartSession (encoding : Encoding) : Session :=
  { documents := Store.insert {} "file:///cart.liquid" (.ofEdition ⟨cartLine, 1⟩), encoding }

/-- Inside the name of the filter, at a column that differs by two between the encodings. -/
theorem hover_encoding_independent_cartLine :
    ((cartSession .utf8).hover "file:///cart.liquid" ⟨0, 25⟩).value.isSome = true ∧
      Option.Rel (PlacedHover.Matches cartLine.toList .utf8 .utf16)
        ((cartSession .utf8).hover "file:///cart.liquid" ⟨0, 25⟩).value
        ((cartSession .utf16).hover "file:///cart.liquid" ⟨0, 23⟩).value := by
  have column : Encoding.utf8.columnOf cartLine.toList 22 = 25 := by decide +kernel
  have column' : Encoding.utf16.columnOf cartLine.toList 22 = 23 := by decide +kernel
  have opened (encoding : Encoding) :
      (cartSession encoding).documents.get? "file:///cart.liquid" = some (.ofEdition ⟨cartLine, 1⟩) := by
    rw [cartSession, Store.get?_insert, if_pos rfl]
  have written : (Document.ofEdition ⟨cartLine, 1⟩).line? 0 = some cartLine.toList := by decide +kernel
  have inside : 22 ≤ cartLine.toList.length := by decide +kernel
  refine ⟨by decide +kernel, ?_⟩
  rw [← column, ← column']
  exact hover_encoding_independent (cartSession .utf8) (cartSession .utf16) rfl rfl rfl (opened _)
    (opened _) rfl (by decide +kernel) written inside

end LiquidHover
