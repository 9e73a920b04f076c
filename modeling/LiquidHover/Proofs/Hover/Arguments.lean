/-
**Which arguments of a filter a panel lists.** The arguments of a filter stand between the commas behind its colon. What
is listed are the arguments without blanks and quotes around them, in order, but for those of which nothing is left. An
argument is therefore listed under its own number exactly when none in front of it was an empty literal.

* `separatorPlaces`, `Text.length_splitUnquoted` — how many arguments are written.
* `FilterCall.KeepsArguments` — every argument is listed under its own number.
* `FilterCall.ListsArguments` — under which number an argument is listed.
* `listsArguments_of_colon` — what is listed for every filter that has arguments.
* `emptyLiteral_shifts_arguments` — an argument that is listed under the number of another.
-/
import LiquidHover.Hover.Panel
import LiquidHover.Proofs.Text.Unquoted

namespace LiquidHover.Hover

/-- A line of the list of parameters. -/
def parameterLine (number : Nat) (parameter : List Char) : String :=
  toString number ++ ". " ++ code (String.ofList parameter) ++ "\n"

/-- The lines of the list of parameters. -/
def parameterLines (parameters : List (List Char)) : List String :=
  (parameters.zipIdx 1).map fun (parameter, number) => parameterLine number parameter

/-- The list of a panel is made of these lines. -/
theorem currentParameters_eq (parameters : List (List Char)) :
    currentParameters parameters =
      showIf (!parameters.isEmpty)
        (rule ++ "### Current Parameters\n\n" ++ String.join (parameterLines parameters) ++ "\n") := rfl

theorem getElem?_parameterLines (parameters : List (List Char)) (position : Nat) :
    (parameterLines parameters)[position]? =
      parameters[position]?.map (parameterLine (position + 1)) := by
  rw [parameterLines, List.getElem?_map, List.getElem?_zipIdx, Option.map_map, Nat.add_comm 1 position]
  rfl

end LiquidHover.Hover

namespace LiquidHover.Template

open Hover (parameterLine parameterLines)
open Text (findUnquoted? isBlank separatorPlaces splitUnquoted stripQuotes trim trimEnd)

/-- **Where an item of a row stands among those that are kept.** -/
theorem getElem?_filter_countP {α : Type} {keep : α → Bool} {row : List α} {position : Nat} {item : α}
    (here : row[position]? = some item) (kept : keep item = true) :
    (row.filter keep)[(row.take position).countP keep]? = some item := by
  obtain ⟨within, same⟩ := List.getElem?_eq_some_iff.mp here
  have whole : row = row.take position ++ item :: row.drop (position + 1) := by
    rw [← same, List.getElem_cons_drop, List.take_append_drop]
  have parts : row.filter keep =
      (row.take position).filter keep ++ item :: (row.drop (position + 1)).filter keep := by
    conv_lhs => rw [whole]
    rw [List.filter_append, List.filter_cons_of_pos kept]
  rw [parts, List.countP_eq_length_filter, List.getElem?_append_right (Nat.le_refl _), Nat.sub_self]
  rfl

namespace FilterCall

/-- What is listed of an argument. -/
def bare (argument : List Char) : List Char := stripQuotes (trim argument)

/-- The number of listed arguments in front of a position. -/
def listedBefore (arguments : List (List Char)) (position : Nat) : Nat :=
  (arguments.take position).countP fun argument => !(bare argument).isEmpty

/-- Every argument of a text is a parameter of the filter, at its own position, and listed under its own number. -/
structure KeepsArguments (call : FilterCall) (text : List Char) : Prop where
  count : call.parameters.length = (separatorPlaces ',' text).length + 1
  kept : ∀ (position : Nat) (argument : List Char), (splitUnquoted ',' text)[position]? = some argument →
    call.parameters[position]? = some (bare argument) ∧
      (parameterLines call.parameters)[position]? = some (parameterLine (position + 1) (bare argument))

/-- The parameters of the filter are the arguments of a text of which something is left, and an argument is listed under
the number that it has among these. -/
structure ListsArguments (call : FilterCall) (text : List Char) : Prop where
  written : (splitUnquoted ',' text).length = (separatorPlaces ',' text).length + 1
  count : call.parameters.length = listedBefore (splitUnquoted ',' text) (splitUnquoted ',' text).length
  listed : ∀ (position : Nat) (argument : List Char), (splitUnquoted ',' text)[position]? = some argument →
    bare argument ≠ [] →
      call.parameters[listedBefore (splitUnquoted ',' text) position]? = some (bare argument) ∧
        (parameterLines call.parameters)[listedBefore (splitUnquoted ',' text) position]? =
          some (parameterLine (listedBefore (splitUnquoted ',' text) position + 1) (bare argument))
  panel : Hover.currentParameters call.parameters =
    Hover.showIf (!call.parameters.isEmpty)
      (Hover.rule ++ "### Current Parameters\n\n" ++ String.join (parameterLines call.parameters) ++ "\n")
  keeps : call.KeepsArguments text ↔ ∀ argument ∈ splitUnquoted ',' text, bare argument ≠ []

theorem parametersOf_eq (text : List Char) :
    parametersOf text =
      ((splitUnquoted ',' text).filter fun argument => !(bare argument).isEmpty).map bare := by
  rw [parametersOf, List.filter_map]
  rfl

/-- The arguments of a text that are read as parameters are listed. -/
theorem listsArguments_of_parameters {call : FilterCall} {text : List Char}
    (read : call.parameters = parametersOf text) : call.ListsArguments text := by
  have written : (splitUnquoted ',' text).length = (separatorPlaces ',' text).length + 1 :=
    Text.length_splitUnquoted rfl text
  rw [parametersOf_eq] at read
  refine ⟨written, ?_, fun position argument here solid => ?_, Hover.currentParameters_eq _, ?_, ?_⟩
  · rw [read, List.length_map, listedBefore, List.take_length, List.countP_eq_length_filter]
  · have kept : (!(bare argument).isEmpty) = true := by simp [solid]
    have found : call.parameters[listedBefore (splitUnquoted ',' text) position]? = some (bare argument) := by
      rw [read, List.getElem?_map, listedBefore, getElem?_filter_countP here kept]
      rfl
    refine ⟨found, ?_⟩
    rw [Hover.getElem?_parameterLines, found]
    rfl
  · -- A row that loses no item when it is filtered holds no item that is filtered out.
    intro keeps argument member empty
    have whole : call.parameters.length = (splitUnquoted ',' text).length := keeps.count.trans written.symm
    rw [read, List.length_map, List.length_filter_eq_length_iff] at whole
    have solid := whole argument member
    rw [empty] at solid
    cases solid
  · intro solid
    have all : call.parameters = (splitUnquoted ',' text).map bare := by
      rw [read, List.filter_eq_self.mpr]
      intro argument member
      simp [solid argument member]
    refine ⟨?_, fun position argument here => ?_⟩
    · rw [all, List.length_map, written]
    · have found : call.parameters[position]? = some (bare argument) := by
        rw [all, List.getElem?_map, here]
        rfl
      refine ⟨found, ?_⟩
      rw [Hover.getElem?_parameterLines, found]
      rfl

end FilterCall

/-- **Which arguments of a filter are listed, and under which numbers**, for every segment with a name and a colon. -/
theorem listsArguments_of_colon (start : Nat) {segment : List Char} {colon : Nat}
    (cut : findUnquoted? ':' (trim segment) = some colon)
    (named : trimEnd ((trim segment).take colon) ≠ []) :
    ∃ call, FilterCall.ofSegment? start segment = some call ∧
      call.ListsArguments ((trim segment).drop (colon + 1)) := by
  have name : FilterCall.cutName (trim segment) =
      (trimEnd ((trim segment).take colon), (trim segment).drop (colon + 1)) := by
    rw [FilterCall.cutName, cut]
  rw [FilterCall.ofSegment?, name]
  simp only [List.isEmpty_iff, if_neg named]
  exact ⟨_, rfl, FilterCall.listsArguments_of_parameters rfl⟩

/-- A segment with an empty literal between two arguments. -/
def replacement : List Char := " replace: '-', '', \"a, b\" ".toList

/-- The third argument is the second one that is listed. -/
theorem listsArguments_of_colon_replacement :
    findUnquoted? ':' (trim replacement) = some 7 ∧ trimEnd ((trim replacement).take 7) ≠ [] ∧
      ∃ call, FilterCall.ofSegment? 9 replacement = some call ∧
        call.ListsArguments " '-', '', \"a, b\"".toList ∧
        parameterLines call.parameters = ["1. `-`\n", "2. `a, b`\n"] := by
  have cut : findUnquoted? ':' (trim replacement) = some 7 := by decide
  have named : trimEnd ((trim replacement).take 7) ≠ [] := by decide
  obtain ⟨call, found, lists⟩ := listsArguments_of_colon 9 cut named
  have parameters : (FilterCall.ofSegment? 9 replacement).map (·.parameters) =
      some ["-".toList, "a, b".toList] := by decide
  rw [found] at parameters
  have parameters : call.parameters = ["-".toList, "a, b".toList] := Option.some.inj parameters
  refine ⟨cut, named, call, found, lists, ?_⟩
  rw [parameters]
  decide

/-- A segment with an empty literal in front of an argument. -/
def emptyDefault : List Char := " default: '', allow_false: true".toList

/-- **An argument behind an empty literal is listed under the number of that literal.** -/
theorem emptyLiteral_shifts_arguments :
    (Expression.all "\x7b\x7b x | default: '', allow_false: true \x7d\x7d".toList).map
        (fun expression => (splitUnquoted '|' expression.content).tail) = [[emptyDefault]] ∧
      findUnquoted? ':' (trim emptyDefault) = some 7 ∧ trimEnd ((trim emptyDefault).take 7) ≠ [] ∧
      trim ((trim emptyDefault).drop 8) ≠ [] ∧
      ∃ call, FilterCall.ofSegment? 6 emptyDefault = some call ∧
        ¬ call.KeepsArguments ((trim emptyDefault).drop 8) ∧
        parameterLines call.parameters = ["1. `allow_false: true`\n"] := by
  refine ⟨by decide +kernel, by decide, by decide, by decide, ?_⟩
  refine ⟨{ name := "default".toList, parameters := ["allow_false: true".toList], range := .ofParts 7 7 },
    by decide, fun keeps => ?_, by decide⟩
  exact absurd keeps.count (by decide)

end LiquidHover.Template
