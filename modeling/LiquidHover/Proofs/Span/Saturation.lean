/-
**Span arithmetic saturates.** Whatever numbers a span is made of, it reaches from the one offset to the other as far
as offsets are counted: each end is the exact number or the limit, whichever is smaller. The same spans come out when
they are computed in words of 32 and 64 bits.

* `Span.Reaches` — between which offsets a span lies, with `reaches_ofParts`, `reaches_ofBounds` and `Reaches.shift`.
* `Span.shift_shift` — moving twice is moving once by the sum.
* `Word.toNat_addUpTo`, `Word.toNat_subDownTo`, `Word.toNat_getD_narrow?` — words as numbers.
* `PackedSpan.unpack_ofParts`, `PackedSpan.unpack_shift` and others — the operations on words are those on spans.
* `PackedSpan.saturates` — the arithmetic of spans in words, for all offsets.
-/
import LiquidHover.Span.Words

namespace LiquidHover

/-! ### Between which offsets a span lies -/

namespace Span

attribute [ext] Span

variable {span : Span} {start stop distance : Nat}

/-- A span lies between two offsets, as far as offsets are counted. -/
structure Reaches (span : Span) (start stop : Nat) : Prop where
  start_eq : span.start = min start limit
  stop_eq : span.stop = min stop limit

/-- **A span of some length ends behind it**, or at the limit. -/
theorem reaches_ofParts (start length : Nat) : (ofParts start length).Reaches start (start + length) := by
  constructor
  · rfl
  · simp only [Span.stop, ofParts, clampLength]
    by_cases fits : length ≤ limit
    · rw [if_pos fits]
      omega
    · rw [if_neg fits]
      omega

/-- **A span between bounds ends at the larger one**, or at the limit. -/
theorem reaches_ofBounds (start stop : Nat) : (ofBounds start stop).Reaches start (max start stop) := by
  have reaches := reaches_ofParts start (stop - start)
  have larger : start + (stop - start) = max start stop := by omega
  rw [larger] at reaches
  exact reaches

/-- The cursor test compares with the two ends. -/
theorem Reaches.covers_iff (reaches : span.Reaches start stop) {offset : Nat} :
    span.covers offset = true ↔ min start limit ≤ offset ∧ offset ≤ min stop limit := by
  rw [Span.covers_iff, reaches.start_eq, reaches.stop_eq]

/-- No offset past the limit is on a span. -/
theorem covers_eq_false_of_limit_lt {offset : Nat} (past : limit < offset) : span.covers offset = false := by
  have clamped : span.stop ≤ limit := Nat.min_le_right _ _
  rw [Bool.eq_false_iff, Ne, covers_iff]
  omega

/-- **Moving a span moves both of its ends**, up to the limit. -/
theorem Reaches.shift (reaches : span.Reaches start stop) (distance : Nat) :
    (span.shift distance).Reaches (start + distance) (stop + distance) := by
  have begins := reaches.start_eq
  have ends := reaches.stop_eq
  unfold Span.stop at ends
  constructor
  · show min (span.start + distance) limit = _
    omega
  · show min (min (span.start + distance) limit + (span.shift distance).length) limit = _
    rw [shift_length]
    omega

/-- **Moving twice is moving once** by the sum. -/
theorem shift_shift (span : Span) (first second : Nat) :
    (span.shift first).shift second = span.shift (first + second) := by
  ext
  · show min (min (span.start + first) limit + second) limit = min (span.start + (first + second)) limit
    omega
  · rw [shift_length, shift_length, shift_length]

/-- A distance past the limit may be clamped before a span is moved by it. -/
theorem shift_min {bound : Nat} (large : limit ≤ bound) (span : Span) (distance : Nat) :
    span.shift (min distance bound) = span.shift distance := by
  ext
  · show min (span.start + min distance bound) limit = min (span.start + distance) limit
    omega
  · rw [shift_length, shift_length]

end Span

/-! ### Words as numbers -/

namespace Word

variable {width : Nat}

/-- **A sum of words is the sum of their numbers**, or the largest word. -/
theorem toNat_addUpTo (first second : BitVec width) :
    (addUpTo first second).toNat = min (first.toNat + second.toNat) (BitVec.allOnes width).toNat := by
  have firstLt := first.isLt
  have secondLt := second.isLt
  have largest : (BitVec.allOnes width).toNat = 2 ^ width - 1 := BitVec.toNat_allOnes
  simp only [addUpTo, BitVec.lt_def, BitVec.toNat_add]
  by_cases wraps : 2 ^ width ≤ first.toNat + second.toNat
  · have rest : (first.toNat + second.toNat) % 2 ^ width = first.toNat + second.toNat - 2 ^ width := by
      rw [Nat.mod_eq_sub_mod wraps, Nat.mod_eq_of_lt (by omega)]
    rw [rest, if_pos (by omega)]
    omega
  · have unwrapped : (first.toNat + second.toNat) % 2 ^ width = first.toNat + second.toNat :=
      Nat.mod_eq_of_lt (by omega)
    rw [unwrapped, if_neg (by omega), BitVec.toNat_add, unwrapped]
    omega

/-- **A difference of words is the difference of their numbers**, or zero. -/
theorem toNat_subDownTo (first second : BitVec width) :
    (subDownTo first second).toNat = first.toNat - second.toNat := by
  simp only [subDownTo, BitVec.le_def]
  by_cases ordered : second.toNat ≤ first.toNat
  · rw [if_pos ordered, BitVec.toNat_sub_of_le ordered]
  · rw [if_neg ordered]
    show 0 = _
    omega

theorem toNat_widen (word : BitVec 32) : (word.setWidth 64).toNat = word.toNat := by
  rw [BitVec.toNat_setWidth, Nat.mod_eq_of_lt]
  have := word.isLt
  omega

/-- **An offset keeps its number in 32 bits** up to the limit. -/
theorem toNat_getD_narrow? (offset : BitVec 64) (instead : BitVec 32) :
    ((narrow? offset).getD instead).toNat =
      if offset.toNat ≤ Span.limit then offset.toNat else instead.toNat := by
  have largest : ((BitVec.allOnes 32).setWidth 64).toNat = Span.limit := rfl
  simp only [narrow?, BitVec.le_def, largest]
  by_cases fits : offset.toNat ≤ Span.limit
  · rw [if_pos fits, if_pos fits, Option.getD_some, BitVec.toNat_setWidth]
    exact Nat.mod_eq_of_lt (Nat.lt_succ_of_le fits)
  · rw [if_neg fits, if_neg fits, Option.getD_none]

end Word

/-! ### Spans in words -/

namespace PackedSpan

open Word

theorem unpack_injective {span other : PackedSpan} (same : span.unpack = other.unpack) : span = other := by
  obtain ⟨start, length⟩ := span
  obtain ⟨start', length'⟩ := other
  simp only [unpack, Span.mk.injEq] at same
  rw [BitVec.eq_of_toNat_eq same.1, BitVec.eq_of_toNat_eq same.2]

theorem unpack_ofParts (start length : BitVec 64) :
    (ofParts start length).unpack = Span.ofParts start.toNat length.toNat := by
  have first : ((narrow? start).getD (.allOnes 32)).toNat = min start.toNat Span.limit := by
    rw [toNat_getD_narrow?]
    show (if start.toNat ≤ Span.limit then start.toNat else Span.limit) = _
    rw [Nat.min_def]
  ext
  · exact first
  · show ((narrow? length).getD (subDownTo (.allOnes 32) _)).toNat = _
    rw [toNat_getD_narrow?, toNat_subDownTo, first]
    rfl

theorem unpack_ofBounds (start stop : BitVec 64) :
    (ofBounds start stop).unpack = Span.ofBounds start.toNat stop.toNat := by
  unfold ofBounds Span.ofBounds
  rw [unpack_ofParts, toNat_subDownTo]

theorem toNat_stop (span : PackedSpan) : span.stop.toNat = span.unpack.stop :=
  toNat_addUpTo span.start span.length

theorem unpack_shift (span : PackedSpan) (distance : BitVec 64) :
    (span.shift distance).unpack = span.unpack.shift distance.toNat := by
  unfold shift
  rw [unpack_ofParts, toNat_addUpTo, toNat_widen, toNat_widen]
  -- The sum is clamped to 64 bits first and to 32 bits then.
  ext
  · show min (min (span.start.toNat + distance.toNat) 18446744073709551615) Span.limit =
      min (span.start.toNat + distance.toNat) Span.limit
    unfold Span.limit
    omega
  · rw [Span.shift_length]
    exact if_pos span.unpack.length_le

theorem covers_eq (span : PackedSpan) (offset : BitVec 64) :
    span.covers offset = span.unpack.covers offset.toNat := by
  simp only [covers, Span.covers, BitVec.le_def, toNat_widen, toNat_stop]
  rfl

/-! ### Saturation -/

/-- The arithmetic of spans in words. Each end of a span is the exact number or the limit, whichever is smaller, an
offset past the limit is on no span, moving twice is moving once by the sum, and a span that is moved keeps its length
and moves with both ends. The same spans come out without words. -/
structure Saturates (first second offset distance further : BitVec 64) (span : PackedSpan) : Prop where
  parts_start : (ofParts first second).start.toNat = min first.toNat Span.limit
  parts_stop : (ofParts first second).stop.toNat = min (first.toNat + second.toNat) Span.limit
  bounds_start : (ofBounds first second).start.toNat = min first.toNat Span.limit
  bounds_stop : (ofBounds first second).stop.toNat = min (max first.toNat second.toNat) Span.limit
  covers_iff : (ofBounds first second).covers offset = true ↔
    min first.toNat Span.limit ≤ offset.toNat ∧ offset.toNat ≤ min (max first.toNat second.toNat) Span.limit
  covers_past : Span.limit < offset.toNat → span.covers offset = false
  shift_shift : (span.shift distance).shift further = span.shift (addUpTo distance further)
  shift_length : (span.shift distance).length = span.length
  shift_bounds : ((ofBounds first second).shift distance).unpack.Reaches
    (first.toNat + distance.toNat) (max first.toNat second.toNat + distance.toNat)
  unpacked : (ofParts first second).unpack = .ofParts first.toNat second.toNat ∧
    (ofBounds first second).unpack = .ofBounds first.toNat second.toNat ∧
    span.stop.toNat = span.unpack.stop ∧
    (span.shift distance).unpack = span.unpack.shift distance.toNat ∧
    span.covers offset = span.unpack.covers offset.toNat

/-- **Span arithmetic saturates and never wraps**, for all offsets of 64 bits and all spans. -/
theorem saturates (first second offset distance further : BitVec 64) (span : PackedSpan) :
    Saturates first second offset distance further span := by
  have parts : (ofParts first second).unpack.Reaches first.toNat (first.toNat + second.toNat) := by
    rw [unpack_ofParts]
    exact Span.reaches_ofParts _ _
  have bounds : (ofBounds first second).unpack.Reaches first.toNat (max first.toNat second.toNat) := by
    rw [unpack_ofBounds]
    exact Span.reaches_ofBounds _ _
  refine ⟨parts.start_eq, ?_, bounds.start_eq, ?_, ?_, fun past => ?_, ?_, ?_, ?_, ?_⟩
  · rw [toNat_stop, parts.stop_eq]
  · rw [toNat_stop, bounds.stop_eq]
  · rw [covers_eq, bounds.covers_iff]
  · rw [covers_eq]
    exact Span.covers_eq_false_of_limit_lt past
  · -- The sum of the distances is clamped to 64 bits, which is more than any span reaches.
    apply unpack_injective
    rw [unpack_shift, unpack_shift, unpack_shift, Span.shift_shift, toNat_addUpTo, Span.shift_min]
    decide
  · apply BitVec.eq_of_toNat_eq
    show (span.shift distance).unpack.length = span.unpack.length
    rw [unpack_shift, Span.shift_length]
  · rw [unpack_shift]
    exact bounds.shift distance.toNat
  · exact ⟨unpack_ofParts _ _, unpack_ofBounds _ _, toNat_stop _, unpack_shift _ _, covers_eq _ _⟩

/-- A span that is moved beyond 64 bits stands at the limit and keeps its length. -/
example :
    let moved := (ofBounds 4294967290 18446744073709551615).shift 18446744073709551615
    moved.start = 4294967295 ∧ moved.length = 5 ∧ moved.stop = 4294967295 := by
  decide

end PackedSpan

end LiquidHover
