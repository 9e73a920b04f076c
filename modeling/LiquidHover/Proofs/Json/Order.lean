/-
**Objects in order.** The reader puts every field of an object at its place, so the fields that it gives are in the
order of their names and no name occurs twice.

* `Json.InOrder` — an object in order, or a value that is no object.
* `Json.inOrder_of_parse?` — the value of a text is in order.
-/
import LiquidHover.Json.Reader
import LiquidHover.Proofs.Keyed

namespace LiquidHover.Json

/-- The fields of an object are in the order of their names, and no name occurs twice. -/
def InOrder : Json → Prop
  | .object fields => fields.Pairwise (·.1 < ·.1)
  | .null | .bool _ | .int _ | .double _ | .string _ | .array _ => True

variable {text rest : List Char} {value : Json}

/-! ### Values without fields -/

theorem inOrder_scaled? {negative : Bool} {significand : Nat} {exponent : Int}
    (found : scaled? negative significand exponent = some value) : value.InOrder := by
  obtain ⟨number, -, rfl⟩ := Option.map_eq_some_iff.mp found
  trivial

theorem inOrder_readExponent? {negative : Bool} {significand : Nat} {shift : Int}
    (found : readExponent? negative significand shift text = some (value, rest)) : value.InOrder := by
  unfold readExponent? at found
  grind [inOrder_scaled?, InOrder, Option.map_eq_some_iff]

theorem inOrder_readUnsigned? {negative : Bool}
    (found : readUnsigned? negative text = some (value, rest)) : value.InOrder := by
  unfold readUnsigned? at found
  grind [readFraction?, inOrder_readExponent?, whole, InOrder]

theorem inOrder_readNumber? (found : readNumber? text = some (value, rest)) : value.InOrder := by
  unfold readNumber? at found
  split at found <;> exact inOrder_readUnsigned? found

theorem inOrder_readKeyword? (found : readKeyword? text = some (value, rest)) : value.InOrder := by
  unfold readKeyword? at found
  split at found <;> cases found <;> trivial

theorem inOrder_readScalar? (found : readScalar? text = some (value, rest)) : value.InOrder := by
  unfold readScalar? at found
  split at found
  · obtain ⟨string, -, same⟩ := Option.map_eq_some_iff.mp found
    cases same
    trivial
  · split at found
    · exact inOrder_readNumber? found
    · exact inOrder_readKeyword? found
  · cases found

/-! ### Objects -/

/-- **Every field is put at its place.** -/
theorem sorted_readFields? {item? : List Char → Option (Json × List Char)} {read fields : List (String × Json)}
    {fuel : Nat} (sorted : read.Pairwise (·.1 < ·.1))
    (found : readFields? item? read fuel text = some (fields, rest)) : fields.Pairwise (·.1 < ·.1) := by
  induction fuel generalizing read text with
  | zero => cases found
  | succ fuel ih =>
    unfold readFields? at found
    split at found <;> try cases found
    split at found <;> try cases found
    split at found <;> try cases found
    split at found <;> try cases found
    rename_i item _ _
    dsimp only at found
    split at found
    · exact ih (Keyed.sorted_insert sorted) found
    · cases found
      exact Keyed.sorted_insert sorted
    · cases found

theorem inOrder_readValue? {depth : Nat} (found : readValue? depth text = some (value, rest)) : value.InOrder := by
  unfold readValue? at found
  split at found
  · exact inOrder_readScalar? found
  · split at found
    · split at found
      · cases found
        trivial
      · obtain ⟨⟨read, after⟩, -, same⟩ := Option.map_eq_some_iff.mp found
        cases same
        trivial
    · split at found
      · cases found
        exact List.Pairwise.nil
      · obtain ⟨⟨read, after⟩, fields, same⟩ := Option.map_eq_some_iff.mp found
        cases same
        exact sorted_readFields? List.Pairwise.nil fields
    · exact inOrder_readScalar? found

/-- **A text that holds an object holds its fields in order.** -/
theorem inOrder_of_parse? {text : String} (parsed : parse? text = some value) : value.InOrder := by
  unfold parse? parseWithin? at parsed
  split at parsed
  · rename_i whole rest found
    obtain ⟨-, same⟩ := Option.ite_none_right_eq_some.mp parsed
    cases same
    exact inOrder_readValue? found
  · cases parsed

end LiquidHover.Json
