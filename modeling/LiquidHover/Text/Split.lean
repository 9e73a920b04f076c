/-
**Splitting text at a character.** `splitAt separator text` cuts `text` at every occurrence of the
separator. The pieces hold no separator, there is always at least one of them, and joining them with
the separator gives the text back (`joinWith_splitAt`).
-/

namespace LiquidHover.Text

/-- Puts a character in front of the first piece. -/
def consHead (c : Char) : List (List Char) → List (List Char)
  | [] => [[c]]
  | piece :: pieces => (c :: piece) :: pieces

/-- The pieces of a text between the occurrences of `separator`. -/
def splitAt (separator : Char) : List Char → List (List Char)
  | [] => [[]]
  | c :: rest =>
    if c = separator then [] :: splitAt separator rest
    else consHead c (splitAt separator rest)

/-- Pieces put together again, with `separator` between neighbours. -/
def joinWith (separator : Char) : List (List Char) → List Char
  | [] => []
  | [piece] => piece
  | piece :: next :: pieces => piece ++ separator :: joinWith separator (next :: pieces)

theorem consHead_ne_nil (c : Char) (pieces : List (List Char)) : consHead c pieces ≠ [] := by
  cases pieces <;> simp [consHead]

theorem splitAt_ne_nil (separator : Char) (text : List Char) : splitAt separator text ≠ [] := by
  cases text with
  | nil => simp [splitAt]
  | cons c rest =>
    simp only [splitAt]
    split
    · simp
    · exact consHead_ne_nil _ _

theorem joinWith_consHead (separator c : Char) {pieces : List (List Char)} (nonempty : pieces ≠ []) :
    joinWith separator (consHead c pieces) = c :: joinWith separator pieces := by
  match pieces, nonempty with
  | [piece], _ => rfl
  | piece :: next :: rest, _ => rfl

/-- **Nothing is lost.** Joining the pieces gives the text back. -/
theorem joinWith_splitAt (separator : Char) (text : List Char) :
    joinWith separator (splitAt separator text) = text := by
  induction text with
  | nil => rfl
  | cons c rest ih =>
    simp only [splitAt]
    split
    · rename_i same
      have nonempty := splitAt_ne_nil separator rest
      match pieces : splitAt separator rest with
      | [] => exact absurd pieces nonempty
      | piece :: others =>
        rw [pieces] at ih
        simp [joinWith, same, ih]
    · rw [joinWith_consHead _ _ (splitAt_ne_nil _ _), ih]

end LiquidHover.Text
