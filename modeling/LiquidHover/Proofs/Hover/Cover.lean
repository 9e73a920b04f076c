/-
**A hover covers the cursor.** The characters that a hover is about stand around the cursor, within the
expression under the cursor; and the columns that an editor receives stand around the column that it
asked about.

* `Hover.Target.IsOf` — the filters, the tag and the variable of an expression.
* `Span.IsAround` — a stretch around an offset, within an expression.
* `Hover.isAround_of_at?` — the range of every hover on a short line is such a stretch.
* `PlacedHover.Covers` — the same for the columns of an encoding, as far as columns can tell.
* `hover_covers_cursor` — both, for every line and for every conversation.
-/
import LiquidHover.Proofs.Session.Transparency
import LiquidHover.Proofs.Template.Cursor
import LiquidHover.Proofs.Template.Names
import LiquidHover.Proofs.Text.Columns

namespace LiquidHover

open Template (Expression FilterCall TagCall Variable)

/-- A stretch that is not empty, that holds the offset or ends there, and that lies within the bounds
of an expression. -/
structure Span.IsAround (range : Span) (offset : Nat) (expression : Expression) : Prop where
  behind : expression.bounds.start ≤ range.start
  starts : range.start ≤ offset
  stops : offset ≤ range.stop
  before : range.stop ≤ expression.bounds.stop
  filled : range.start < range.stop

namespace Hover

/-! ### Targets -/

/-- The characters of a target. -/
def Target.range : Target → Span
  | .filter call => call.range
  | .tag call => call.range
  | .reference mention => mention.range

/-- The targets of an expression: its filters, its tag and its variable. -/
def Target.IsOf (expression : Expression) : Target → Prop
  | .filter call => call ∈ expression.filters
  | .tag call => expression.tag? = some call
  | .reference mention => expression.reference? = some mention

/-- The catalog does not move a target. -/
theorem range_of_documented? {catalog : Catalog} {target : Target} {subject : Subject}
    (known : documented? catalog target = some subject) : subject.range = target.range := by
  cases target with
  | filter call =>
    obtain ⟨entry, -, rfl⟩ := Option.map_eq_some_iff.mp known
    rfl
  | tag call =>
    obtain ⟨entry, -, rfl⟩ := Option.map_eq_some_iff.mp known
    rfl
  | reference mention =>
    obtain ⟨object, -, rfl⟩ := Option.map_eq_some_iff.mp known
    rfl

/-- **A target belongs to the expression under the cursor**, and its characters cover the cursor. -/
theorem exists_expression_of_mem_targets {settings : Settings} {line : List Char} {offset : Nat}
    {target : Target} (member : target ∈ targets settings line offset) :
    ∃ expression, Expression.at? line offset = some expression ∧ target.IsOf expression ∧
      target.range.covers offset = true := by
  unfold targets at member
  split at member
  · simp only [List.mem_append, or_assoc] at member
    rcases member with filter | tag | reference
    · split at filter
      · obtain ⟨call, found, rfl⟩ := List.mem_map.mp filter
        exact FilterCall.at?_eq_some (Option.mem_toList.mp found)
      · cases filter
    · split at tag
      · obtain ⟨call, found, rfl⟩ := List.mem_map.mp tag
        exact TagCall.at?_eq_some (Option.mem_toList.mp found)
      · cases tag
    · obtain ⟨mention, found, rfl⟩ := List.mem_map.mp reference
      exact Variable.at?_eq_some (Option.mem_toList.mp found)
  · cases member

/-- **The targets of an expression lie within its bounds**, and none of them is empty. -/
theorem Target.IsOf.within {line : List Char} (short : line.length ≤ Span.limit)
    {expression : Expression} (member : expression ∈ Expression.all line) {target : Target}
    (belongs : target.IsOf expression) :
    expression.bounds.start ≤ target.range.start ∧ target.range.start < target.range.stop ∧
      target.range.stop ≤ expression.bounds.stop := by
  have content := Expression.hasContentIn_of_mem_all short member
  have contentBehind := content.behind
  have contentBefore := content.before
  cases target with
  | filter call =>
    have stands := FilterCall.standsIn_of_mem content short belongs
    have filled := Text.lt_of_extract_eq stands.written stands.named
    have behind := stands.behind
    have before := stands.before
    show _ ≤ call.range.start ∧ call.range.start < call.range.stop ∧ call.range.stop ≤ _
    omega
  | tag call =>
    have stands := TagCall.standsIn_of_tag? content short belongs
    have filled := Text.lt_of_extract_eq stands.written stands.named
    have starts := stands.starts
    have ends := TagCall.stop_le_of_tag? content short belongs
    show _ ≤ call.range.start ∧ call.range.start < call.range.stop ∧ call.range.stop ≤ _
    omega
  | reference mention =>
    have roomy := (Expression.isDelimitedIn_of_mem_all short member).roomy
    show _ ≤ mention.range.start ∧ mention.range.start < mention.range.stop ∧ mention.range.stop ≤ _
    rw [Expression.range_of_reference? belongs]
    omega

/-! ### Hovers -/

variable {catalog : Catalog} {settings : Settings} {line : List Char} {offset : Nat} {hover : Hover}

/-- A hover has the range of a target under the cursor. -/
theorem exists_target_of_at? (found : Hover.at? catalog settings line offset = some hover) :
    ∃ target ∈ targets settings line offset, hover.range = target.range := by
  obtain ⟨subject, documented, rfl⟩ := Option.map_eq_some_iff.mp found
  obtain ⟨target, member, known⟩ := List.exists_of_findSome?_eq_some documented
  exact ⟨target, member, range_of_documented? known⟩

/-- The range of a hover covers the cursor, on a line of any length. -/
theorem covers_of_at? (found : Hover.at? catalog settings line offset = some hover) :
    hover.range.covers offset = true := by
  obtain ⟨target, member, range⟩ := exists_target_of_at? found
  obtain ⟨_, -, -, covers⟩ := exists_expression_of_mem_targets member
  rw [range]
  exact covers

/-- **The range of a hover stands around the cursor**, within the expression under the cursor. -/
theorem isAround_of_at? (short : line.length ≤ Span.limit)
    (found : Hover.at? catalog settings line offset = some hover) :
    ∃ expression, Expression.at? line offset = some expression ∧
      hover.range.IsAround offset expression := by
  obtain ⟨target, member, range⟩ := exists_target_of_at? found
  obtain ⟨expression, under, belongs, covers⟩ := exists_expression_of_mem_targets member
  obtain ⟨behind, filled, before⟩ := belongs.within short (Expression.mem_all_of_at? under)
  obtain ⟨starts, stops⟩ := Span.covers_iff.mp covers
  refine ⟨expression, under, ?_⟩
  rw [range]
  exact ⟨behind, starts, stops, before, filled⟩

/-- Outside of all expressions there is no hover. -/
theorem at?_eq_none_of_outside
    (outside : ∀ expression ∈ Expression.all line,
      ¬ (expression.bounds.start ≤ offset ∧ offset ≤ expression.bounds.stop)) :
    Hover.at? catalog settings line offset = none := by
  rw [Option.eq_none_iff_forall_ne_some]
  intro hover found
  obtain ⟨target, member, -⟩ := exists_target_of_at? found
  obtain ⟨expression, under, -⟩ := exists_expression_of_mem_targets member
  exact outside expression (Expression.mem_all_of_at? under)
    (Span.covers_iff.mp (Expression.covers_of_at? under))

end Hover

/-! ### Columns -/

/-- A column at which a character of the line starts, or the column behind the last one. -/
def Encoding.IsBoundary (encoding : Encoding) (line : List Char) (column : Nat) : Prop :=
  ∃ offset ≤ line.length, encoding.widthOf (line.take offset) = column

/-- A hover on the line of a position and around its column. A column inside a character may lie behind
the hover, which then ends where that character starts. -/
structure PlacedHover.Covers (hover : PlacedHover) (encoding : Encoding) (line : List Char)
    (position : Position) : Prop where
  startLine : hover.range.start.line = position.line
  stopLine : hover.range.stop.line = position.line
  starts : hover.range.start.column ≤ position.column
  within : hover.range.stop.column ≤ encoding.widthOf line
  -- No position that an editor can send has a column beyond the limit.
  stops : position.column ≤ Span.limit → encoding.IsBoundary line position.column →
    position.column ≤ hover.range.stop.column

/-- **Columns keep a hover around the cursor.** -/
theorem Hover.covers_place {hover : Hover} {encoding : Encoding} {line : List Char} {offset : Nat}
    {position : Position} (covers : hover.range.covers offset = true)
    (located : encoding.offsetOf? line position.column = some offset) :
    (hover.place line position.line encoding).Covers encoding line position := by
  obtain ⟨starts, stops⟩ := Span.covers_iff.mp covers
  refine ⟨rfl, rfl, ?_, encoding.columnOf_le_widthOf line _, ?_⟩
  · calc encoding.columnOf line hover.range.start
        ≤ encoding.columnOf line offset := encoding.columnOf_mono line starts
      _ ≤ encoding.widthOf (line.take offset) := Nat.min_le_left _ _
      _ ≤ position.column := Encoding.widthOf_take_le_of_offsetOf? located
  · rintro limited ⟨boundary, inside, column⟩
    have exact := encoding.offsetOf?_widthOf_take inside
    rw [column, located] at exact
    obtain rfl := Option.some.inj exact
    have wider := encoding.widthOf_take_mono line stops
    rw [column] at wider
    exact Nat.le_min.mpr ⟨wider, limited⟩

namespace Session

/-- A computed hover covers its position in the line of the document. -/
theorem covers_of_computed? {session : Session} {uri : String} {position : Position}
    {hover : PlacedHover} (computed : session.computed? uri position = some hover) :
    ∃ document line, session.documents.get? uri = some document ∧
      document.line? position.line = some line ∧ hover.Covers session.encoding line position := by
  simp only [computed?, locate?, Option.bind_eq_bind, Option.bind_eq_some_iff, Option.pure_def,
    Option.some.injEq] at computed
  obtain ⟨_, ⟨document, opened, line, written, offset, located, rfl⟩, found, shown, rfl⟩ := computed
  exact ⟨document, line, opened, written, Hover.covers_place (Hover.covers_of_at? shown) located⟩

end Session

/-- **A hover covers the cursor.** On a line of at most `Span.limit` characters its range is not empty
and stands around the offset, within the expression under the cursor; outside of all expressions there
is no hover. An editor that did not introduce itself again after a hover receives a range on the line
that it asked about, around the column that it asked about. -/
theorem hover_covers_cursor :
    (∀ (catalog : Catalog) (settings : Settings) (line : List Char), line.length ≤ Span.limit →
      ∀ offset,
        (∀ hover, Hover.at? catalog settings line offset = some hover →
          ∃ expression, Expression.at? line offset = some expression ∧
            hover.range.IsAround offset expression) ∧
        ((∀ expression ∈ Expression.all line,
            ¬ (expression.bounds.start ≤ offset ∧ offset ≤ expression.bounds.stop)) →
          Hover.at? catalog settings line offset = none)) ∧
    ∀ events : List (Disk × Event), IntroducedFirst events →
      ∀ uri position hover, ((Session.run {} events).hover uri position).value = some hover →
        ∃ document line, (Session.run {} events).documents.get? uri = some document ∧
          document.line? position.line = some line ∧
          hover.Covers (Session.run {} events).encoding line position := by
  constructor
  · intro catalog settings line short offset
    exact ⟨fun hover => Hover.isAround_of_at? short, Hover.at?_eq_none_of_outside⟩
  · intro events ordered uri position hover answered
    rw [Session.value_hover_of_faithful (Session.faithful_of_introducedFirst ordered)] at answered
    exact Session.covers_of_computed? answered

/-- A line that begins with a character of two UTF-16 units. -/
def cartLine : String := "🛒 {{ product.title | upcase }}"

/-- A conversation without files about a document of that line. -/
def cartConversation : List (Disk × Event) :=
  [.introduced {}, .ready, .opened "file:///cart.liquid" "liquid" ⟨cartLine, 1⟩].map fun event =>
    (⟨fun _ => .missing, none, .ok "/"⟩, event)

/-- Directly behind the name of the filter there is a hover, and between the cart and the expression
there is none. -/
theorem hover_covers_cursor_cartLine :
    (∃ hover expression, Hover.at? Catalog.shopify {} cartLine.toList 27 = some hover ∧
      Expression.at? cartLine.toList 27 = some expression ∧ hover.range.IsAround 27 expression) ∧
    Hover.at? Catalog.shopify {} cartLine.toList 1 = none ∧
    ∃ hover document line,
      ((Session.run {} cartConversation).hover "file:///cart.liquid" ⟨0, 28⟩).value = some hover ∧
      (Session.run {} cartConversation).documents.get? "file:///cart.liquid" = some document ∧
      document.line? 0 = some line ∧
      hover.Covers (Session.run {} cartConversation).encoding line ⟨0, 28⟩ ∧
      28 ≤ hover.range.stop.column := by
  have onLine := hover_covers_cursor.1 Catalog.shopify {} cartLine.toList (by decide)
  refine ⟨?_, (onLine 1).2 (by decide +kernel), ?_⟩
  · obtain ⟨hover, found⟩ : ∃ hover, Hover.at? Catalog.shopify {} cartLine.toList 27 = some hover :=
      Option.isSome_iff_exists.mp (by decide +kernel)
    obtain ⟨expression, under, around⟩ := (onLine 27).1 hover found
    exact ⟨hover, expression, found, under, around⟩
  · obtain ⟨hover, answered⟩ : ∃ hover,
        ((Session.run {} cartConversation).hover "file:///cart.liquid" ⟨0, 28⟩).value =
          some hover :=
      Option.isSome_iff_exists.mp (by decide +kernel)
    obtain ⟨document, line, opened, written, covers⟩ :=
      hover_covers_cursor.2 cartConversation (by decide) _ _ hover answered
    obtain rfl : document = .ofEdition ⟨cartLine, 1⟩ := Option.some.inj (opened.symm.trans (by decide +kernel))
    obtain rfl : line = cartLine.toList := Option.some.inj (written.symm.trans (by decide +kernel))
    exact ⟨hover, _, _, answered, opened, written, covers,
      covers.stops (by decide) ⟨27, by decide, by decide +kernel⟩⟩

end LiquidHover
