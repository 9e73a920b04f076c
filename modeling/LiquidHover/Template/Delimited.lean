/-
**Delimited pieces of a line.** An expression of a template stands between `{{` and `}}` (an output)
or between `{%` and `%}` (a tag). A line is read from left to right: an opener is matched with the
first closer of its own kind after it, an opener without one is skipped, and a closer without an
opener is plain text.

* `openerAt?` — the opener with which a text begins.
* `cutCloser` — the text before and after the first closer (`cutCloser_eq_some`: nothing is lost).
* `Delimited.scan` — the pieces of a line.
-/

namespace LiquidHover.Template

/-- The two kinds of expressions. -/
inductive Kind where
  /-- An expression whose value is written, between double braces. -/
  | output
  /-- A control keyword with its markup, between braces with a percent sign. -/
  | tag
  deriving DecidableEq, Repr

namespace Kind

/-- The second character of the opener. -/
def openMark : Kind → Char
  | .output => '{'
  | .tag => '%'

/-- The first character of the closer. -/
def closeMark : Kind → Char
  | .output => '}'
  | .tag => '%'

/-- The two characters that open an expression of this kind. -/
def opener (kind : Kind) : List Char := ['{', kind.openMark]

/-- The two characters that close an expression of this kind. -/
def closer (kind : Kind) : List Char := [kind.closeMark, '}']

end Kind

/-- The kind of the opener with which a text begins, and the text after the opener. -/
def openerAt? : List Char → Option (Kind × List Char)
  | '{' :: '{' :: body => some (.output, body)
  | '{' :: '%' :: body => some (.tag, body)
  | _ => none

theorem openerAt?_eq_some {text body : List Char} {kind : Kind}
    (opens : openerAt? text = some (kind, body)) : text = kind.opener ++ body := by
  unfold openerAt? at opens
  split at opens <;> simp_all [Kind.opener, Kind.openMark] <;> (obtain ⟨rfl, rfl⟩ := opens; rfl)

/-- The text before and the text after the first closer of a kind. -/
def cutCloser (kind : Kind) : List Char → Option (List Char × List Char)
  | [] => none
  | c :: rest =>
    if c = kind.closeMark ∧ rest.head? = some '}' then some ([], rest.tail)
    else (cutCloser kind rest).map fun (inner, after) => (c :: inner, after)

/-- **Nothing is lost.** The text is what stands before the closer, the closer, and what follows. -/
theorem cutCloser_eq_some {kind : Kind} {text inner after : List Char}
    (cut : cutCloser kind text = some (inner, after)) : text = inner ++ kind.closer ++ after := by
  induction text generalizing inner with
  | nil => simp [cutCloser] at cut
  | cons c rest ih =>
    simp only [cutCloser] at cut
    split at cut
    · rename_i here
      obtain ⟨mark, brace⟩ := here
      cases rest with
      | nil => simp at brace
      | cons d tail => simp_all [Kind.closer]
    · obtain ⟨⟨inner', after'⟩, found, same⟩ := Option.map_eq_some_iff.mp cut
      simp only [Prod.mk.injEq] at same
      obtain ⟨rfl, rfl⟩ := same
      simp [ih found]

/-- A piece of a line between an opener and a closer of one kind. -/
structure Delimited where
  kind : Kind
  /-- Offset of the opener in the line. -/
  start : Nat
  /-- The text between the opener and the closer. -/
  inner : List Char
  deriving DecidableEq, Repr

namespace Delimited

/-- The number of characters, the two delimiters included. -/
def length (piece : Delimited) : Nat := piece.inner.length + 4

/-- Offset one past the closer. -/
def stop (piece : Delimited) : Nat := piece.start + piece.length

/-- The piece as it is written. -/
def text (piece : Delimited) : List Char :=
  piece.kind.opener ++ piece.inner ++ piece.kind.closer

/-- The pieces of a text whose first character has the offset `start`. -/
def scanFrom (start : Nat) (text : List Char) : List Delimited :=
  match text with
  | [] => []
  | c :: rest =>
    match opens : openerAt? (c :: rest) with
    | none => scanFrom (start + 1) rest
    | some (kind, body) =>
      match cut : cutCloser kind body with
      | none => scanFrom (start + 2) body
      | some (inner, after) =>
        { kind, start, inner } :: scanFrom (start + inner.length + 4) after
termination_by text.length
decreasing_by
  · simp
  · have size := congrArg List.length (openerAt?_eq_some opens)
    simp [Kind.opener] at size
    simp only [List.length_cons]
    omega
  · have size := congrArg List.length (openerAt?_eq_some opens)
    have body_size := congrArg List.length (cutCloser_eq_some cut)
    simp [Kind.opener] at size
    simp [Kind.closer] at body_size
    simp only [List.length_cons]
    omega

/-- The delimited pieces of a line, from left to right. -/
def scan (line : List Char) : List Delimited := scanFrom 0 line

end Delimited

end LiquidHover.Template
