/-
**Texts that no separator cuts.** A text is closed for a class of separators when none of them stands in
it outside its literals and each of its literals is ended. What follows a closed text is then read as
if it stood alone, so a row of closed texts between separators is cut into these texts.

* `Closed` — the property, and how it is put together: `Closed.append`, `closed_of_plain`,
  `closed_quoted`.
* `splitUnquotedBy_closed`, `splitUnquotedBy_closed_append` — the pieces of closed texts.
* `findUnquoted?_closed_append` — the first separator behind a closed text.
* `headD_splitUnquoted` — the first piece reaches to the first separator.
-/
import LiquidHover.Text.Quoted
import Mathlib.Data.List.Basic

namespace LiquidHover.Text

variable {separates : Char → Bool} {literal : Literal} {text rest : List Char}

/-! ### Reading on behind a text without separators -/

theorem consHead_eq_modifyHead {c : Char} {pieces : List (List Char)} (nonempty : pieces ≠ []) :
    consHead c pieces = pieces.modifyHead (c :: ·) := by
  cases pieces with
  | nil => exact absurd rfl nonempty
  | cons piece pieces => rfl

theorem findFrom?_cons_eq_none {c : Char} :
    findFrom? separates literal (c :: text) = none ↔
      cutsHere separates literal c = false ∧
        findFrom? separates (literalAfter literal c) text = none := by
  simp only [findFrom?]
  split
  · rename_i cuts
    simp [cuts]
  · rename_i stays
    simp [stays]

/-- **The first separator behind a text without separators.** -/
theorem findFrom?_append (uncut : findFrom? separates literal text = none) (rest : List Char) :
    findFrom? separates literal (text ++ rest) =
      (findFrom? separates (text.foldl literalAfter literal) rest).map (text.length + ·) := by
  induction text generalizing literal with
  | nil => simp
  | cons c text ih =>
    obtain ⟨stays, uncut⟩ := findFrom?_cons_eq_none.mp uncut
    rw [List.cons_append, findFrom?, if_neg (by simp [stays]), ih uncut, Option.map_map]
    congr 1
    funext place
    simp only [Function.comp_apply, List.length_cons]
    omega

/-- **The pieces behind a text without separators.** -/
theorem splitFrom_append (uncut : findFrom? separates literal text = none) (rest : List Char) :
    splitFrom separates literal (text ++ rest) =
      (splitFrom separates (text.foldl literalAfter literal) rest).modifyHead (text ++ ·) := by
  induction text generalizing literal with
  | nil =>
    show splitFrom separates literal rest = (splitFrom separates literal rest).modifyHead id
    rw [List.modifyHead_id]
    rfl
  | cons c text ih =>
    obtain ⟨stays, uncut⟩ := findFrom?_cons_eq_none.mp uncut
    rw [List.cons_append, splitFrom, if_neg (by simp [stays]), ih uncut,
      consHead_eq_modifyHead (by simp [splitFrom_ne_nil]), List.modifyHead_modifyHead]
    rfl

/-- The first piece reaches to the first separator. -/
theorem headD_splitFrom (separates : Char → Bool) (literal : Literal) (text : List Char) :
    (splitFrom separates literal text).headD [] =
      ((findFrom? separates literal text).map (text.take ·)).getD text := by
  induction text generalizing literal with
  | nil => rfl
  | cons c text ih =>
    rw [splitFrom, findFrom?]
    split
    · rfl
    · have first := ih (literalAfter literal c)
      rw [consHead_eq_modifyHead (splitFrom_ne_nil _ _ _)]
      obtain ⟨piece, pieces, cut⟩ := List.exists_cons_of_ne_nil
        (splitFrom_ne_nil separates (literalAfter literal c) text)
      rw [cut] at first ⊢
      show c :: piece = _
      rw [show piece = _ from first]
      cases findFrom? separates (literalAfter literal c) text <;> rfl

theorem headD_splitUnquoted (separator : Char) (text : List Char) :
    (splitUnquoted separator text).headD [] =
      ((findUnquoted? separator text).map (text.take ·)).getD text :=
  headD_splitFrom _ none text

/-! ### Closed texts -/

/-- A text, read from outside literals, without a separator outside its literals, and whose literals
are ended. -/
structure Closed (separates : Char → Bool) (text : List Char) : Prop where
  uncut : findFrom? separates none text = none
  ended : text.foldl literalAfter none = none

theorem Closed.append (first : Closed separates text) (second : Closed separates rest) :
    Closed separates (text ++ rest) where
  uncut := by
    rw [findFrom?_append first.uncut, first.ended, second.uncut]
    rfl
  ended := by
    rw [List.foldl_append, first.ended, second.ended]

/-- A text without quotes and separators is closed. -/
theorem closed_of_plain (plain : ∀ c ∈ text, isQuote c = false ∧ separates c = false) :
    Closed separates text := by
  induction text with
  | nil => exact ⟨rfl, rfl⟩
  | cons c text ih =>
    obtain ⟨unquoted, kept⟩ := plain c List.mem_cons_self
    have rest := ih fun d member => plain d (List.mem_cons_of_mem _ member)
    have outside : literalAfter none c = none := by simp [literalAfter, unquoted]
    constructor
    · rw [findFrom?_cons_eq_none, outside]
      exact ⟨by simp [cutsHere, kept], rest.uncut⟩
    · rw [List.foldl_cons, outside]
      exact rest.ended

/-- Inside a literal nothing separates, and the literal goes on up to its quote character. -/
theorem inside_literal (separates : Char → Bool) {quote : Char} (unquoted : quote ∉ text) :
    findFrom? separates (some quote) text = none ∧
      text.foldl literalAfter (some quote) = some quote := by
  induction text with
  | nil => exact ⟨rfl, rfl⟩
  | cons c text ih =>
    obtain ⟨different, unquoted⟩ := not_or.mp (List.mem_cons.not.mp unquoted)
    have stays : literalAfter (some quote) c = some quote := by
      simp [literalAfter, Ne.symm different]
    rw [findFrom?_cons_eq_none, List.foldl_cons, stays]
    exact ⟨⟨rfl, (ih unquoted).1⟩, (ih unquoted).2⟩

/-- **A literal is closed**, whatever separators stand in it. -/
theorem closed_quoted (separates : Char → Bool) {quote : Char} (quotes : isQuote quote = true)
    (unquoted : quote ∉ text) : Closed separates (quote :: text ++ [quote]) := by
  obtain ⟨uncut, stays⟩ := inside_literal separates unquoted
  have begins : literalAfter none quote = some quote := by simp [literalAfter, quotes]
  have ends : literalAfter (some quote) quote = none := by simp [literalAfter]
  constructor
  · rw [List.cons_append, findFrom?_cons_eq_none, begins, findFrom?_append uncut, stays]
    exact ⟨by simp [cutsHere, quotes], rfl⟩
  · rw [List.cons_append, List.foldl_cons, begins, List.foldl_append, stays]
    exact ends

/-! ### Cutting closed texts -/

/-- Outside literals a separator cuts. -/
theorem cutsHere_of_separates {c : Char} (separator : separates c = true)
    (unquoted : isQuote c = false) : cutsHere separates none c = true := by
  simp [cutsHere, separator, unquoted]

/-- A closed text is one piece. -/
theorem splitUnquotedBy_closed (closed : Closed separates text) :
    splitUnquotedBy separates text = [text] := by
  have pieces := splitFrom_append closed.uncut []
  rw [List.append_nil, closed.ended] at pieces
  rw [splitUnquotedBy, pieces]
  simp [splitFrom]

/-- **A closed text in front of a separator is the first piece.** -/
theorem splitUnquotedBy_closed_append (closed : Closed separates text) {c : Char}
    (separator : separates c = true) (unquoted : isQuote c = false) (rest : List Char) :
    splitUnquotedBy separates (text ++ c :: rest) = text :: splitUnquotedBy separates rest := by
  rw [splitUnquotedBy, splitFrom_append closed.uncut, closed.ended, splitFrom,
    if_pos (cutsHere_of_separates separator unquoted)]
  show (text ++ []) :: splitFrom separates none rest = _
  rw [List.append_nil]
  rfl

theorem findUnquoted?_closed {separator : Char} (closed : Closed (· == separator) text) :
    findUnquoted? separator text = none := closed.uncut

/-- **The separator behind a closed text is the first one.** -/
theorem findUnquoted?_closed_append {separator : Char} (closed : Closed (· == separator) text)
    (unquoted : isQuote separator = false) (rest : List Char) :
    findUnquoted? separator (text ++ separator :: rest) = some text.length := by
  have cuts : cutsHere (fun c => c == separator) none separator = true :=
    cutsHere_of_separates (beq_self_eq_true separator) unquoted
  rw [findUnquoted?, findFrom?_append closed.uncut, closed.ended, findFrom?, if_pos cuts]
  rfl

end LiquidHover.Text
