/-
**Stripped texts.** Stripping takes the characters of a class away from both ends of a text, blanks in
trimming and quotes in reading a parameter. What remains stands in the text, its ends are not of the
class, and a text between characters of the class is given back as it is.

* `Stripped` — a text whose two ends are not of a class; `Stripped.enclose` puts such texts together.
* `stripped_strip`, `strip_surrounded` — what stripping gives, and what it gives back.
* `exists_strip`, `strip_append_of_dropped` — what stripping takes away, and that more of it does not matter.
* `occursAt_trim` — where the trimmed text stands in the text.
-/
import Mathlib.Data.List.DropRight
import LiquidHover.Proofs.Text.Occurrence
import LiquidHover.Text.Quoted

namespace LiquidHover.Text

/-- Neither the first nor the last character of a text is of the class. -/
structure Stripped (drop : Char → Bool) (text : List Char) : Prop where
  head : ∀ c ∈ text.head?, drop c = false
  last : ∀ c ∈ text.getLast?, drop c = false

variable {drop : Char → Bool} {front text back : List Char}

/-- A text without characters of the class is stripped. -/
theorem stripped_of_forall (kept : ∀ c ∈ text, drop c = false) : Stripped drop text where
  head c first := kept c (List.mem_of_head? first)
  last c final := kept c (List.mem_of_getLast? final)

/-- **What stands between stripped texts does not matter.** -/
theorem Stripped.enclose (first : Stripped drop front) (nonempty : front ≠ [])
    (middle : List Char) (last : Stripped drop back) (ends : back ≠ []) :
    Stripped drop (front ++ middle ++ back) where
  head c found := by
    rw [List.append_assoc, List.head?_append_of_ne_nil _ nonempty] at found
    exact first.head c found
  last c found := by
    rw [List.getLast?_append_of_ne_nil _ ends] at found
    exact last.last c found

theorem stripEnd_isPrefix (drop : Char → Bool) (text : List Char) : stripEnd drop text <+: text :=
  List.rdropWhile_prefix drop text

/-- A part at the start of a text begins as the text does. -/
theorem head?_of_isPrefix {start : List Char} {c : Char} (within : start <+: text)
    (first : start.head? = some c) : text.head? = some c := by
  obtain ⟨rest, rfl⟩ := within
  rw [List.head?_append, first]
  rfl

/-- **Both ends of a stripped text are outside the class.** -/
theorem stripped_strip (drop : Char → Bool) (text : List Char) :
    Stripped drop (stripEnd drop (stripStart drop text)) where
  head := by
    intro c first
    have kept := List.head?_dropWhile_not drop text
    have dropped : (text.dropWhile drop).head? = some c :=
      head?_of_isPrefix (stripEnd_isPrefix drop _) first
    rw [dropped] at kept
    exact kept
  last := by
    intro c final
    have nonempty : (stripStart drop text).rdropWhile drop ≠ [] := by
      intro empty
      rw [show stripEnd drop (stripStart drop text) = [] from empty] at final
      cases final
    have kept := List.rdropWhile_last_not drop (stripStart drop text) nonempty
    have same : ((stripStart drop text).rdropWhile drop).getLast nonempty = c :=
      List.getLast_of_getLast?_eq_some final
    rw [same] at kept
    exact Bool.eq_false_iff.mpr kept

theorem stripStart_of_head (head : ∀ c ∈ text.head?, drop c = false) :
    stripStart drop text = text := by
  cases text with
  | nil => rfl
  | cons c rest => simp [stripStart, head c rfl]

theorem stripEnd_append_of_last (last : ∀ c ∈ text.getLast?, drop c = false)
    (dropped : ∀ c ∈ back, drop c = true) : stripEnd drop (text ++ back) = text := by
  have reversed : (text ++ back).reverse.dropWhile drop = text.reverse := by
    rw [List.reverse_append, List.dropWhile_append_of_pos fun c member =>
      dropped c (List.mem_reverse.mp member)]
    refine stripStart_of_head fun c first => last c ?_
    rw [← List.head?_reverse]
    exact first
  rw [stripEnd, reversed, List.reverse_reverse]

/-- **A text between characters of the class is given back.** -/
theorem strip_surrounded (before : ∀ c ∈ front, drop c = true) (stripped : Stripped drop text)
    (after : ∀ c ∈ back, drop c = true) :
    stripEnd drop (stripStart drop (front ++ text ++ back)) = text := by
  have cut : stripStart drop (front ++ text ++ back) = stripStart drop (text ++ back) := by
    rw [stripStart, List.append_assoc, List.dropWhile_append_of_pos before]
    rfl
  rw [cut]
  cases text with
  | nil =>
    have none : stripStart drop back = [] := List.dropWhile_eq_nil_iff.mpr after
    rw [List.nil_append, none]
    rfl
  | cons c rest =>
    have start : ∀ d ∈ (c :: rest ++ back).head?, drop d = false := stripped.head
    rw [stripStart_of_head start]
    exact stripEnd_append_of_last stripped.last after

/-- A stripped text stays as it is. -/
theorem strip_of_stripped (stripped : Stripped drop text) :
    stripEnd drop (stripStart drop text) = text := by
  have whole : stripEnd drop (stripStart drop ([] ++ text ++ [])) = text :=
    strip_surrounded (List.forall_mem_nil _) stripped (List.forall_mem_nil _)
  rw [List.nil_append, List.append_nil] at whole
  exact whole

/-- **What stripping takes away** is in front of what it leaves and behind it. -/
theorem exists_strip (drop : Char → Bool) (text : List Char) :
    ∃ back, text = text.takeWhile drop ++ stripEnd drop (stripStart drop text) ++ back ∧
      ∀ c ∈ back, drop c = true := by
  have ends : stripStart drop text =
      stripEnd drop (stripStart drop text) ++ (stripStart drop text).rtakeWhile drop := by
    rw [stripEnd, List.rtakeWhile, ← List.reverse_append, List.takeWhile_append_dropWhile,
      List.reverse_reverse]
  refine ⟨(stripStart drop text).rtakeWhile drop, ?_, fun c => List.mem_rtakeWhile_imp⟩
  rw [List.append_assoc, ← ends]
  exact (List.takeWhile_append_dropWhile).symm

/-- **Characters of the class at an end do not matter.** -/
theorem strip_append_of_dropped (dropped : ∀ c ∈ back, drop c = true) (text : List Char) :
    stripEnd drop (stripStart drop (text ++ back)) = stripEnd drop (stripStart drop text) := by
  obtain ⟨rest, whole, also⟩ := exists_strip drop text
  have longer : text ++ back =
      text.takeWhile drop ++ stripEnd drop (stripStart drop text) ++ (rest ++ back) := by
    rw [← List.append_assoc, ← whole]
  rw [longer]
  refine strip_surrounded (fun c => List.mem_takeWhile_imp) (stripped_strip drop text) ?_
  intro c member
  exact (List.mem_append.mp member).elim (also c) (dropped c)

/-! ### Blanks -/

theorem ne_of_isBlank {c separator : Char} (solid : isBlank separator = false) (blank : isBlank c = true) :
    c ≠ separator := by
  rintro rfl
  rw [blank] at solid
  cases solid

theorem isQuote_of_isBlank {c : Char} (blank : isBlank c = true) : isQuote c = false := by
  rw [Bool.eq_false_iff]
  intro quote
  simp only [isQuote, Bool.or_eq_true, beq_iff_eq] at quote
  rcases quote with rfl | rfl <;> exact absurd blank (by decide)

/-- **Where the trimmed text stands.** -/
theorem occursAt_trim (text : List Char) : OccursAt (trim text) text (blankPrefixLength text) := by
  have start : text.drop (blankPrefixLength text) = trimStart text :=
    calc text.drop (blankPrefixLength text)
        = (text.takeWhile isBlank ++ text.dropWhile isBlank).drop (blankPrefixLength text) := by
          rw [List.takeWhile_append_dropWhile]
      _ = trimStart text := List.drop_left
  rw [OccursAt, start]
  exact stripEnd_isPrefix isBlank _

theorem stripped_trim (text : List Char) : Stripped isBlank (trim text) := stripped_strip isBlank text

end LiquidHover.Text
