/-
**What a scan finds.** The delimited pieces of a line are exactly its expressions: each of them is
written in the line where it is said to be and ends at the first closer of its kind, and no opener that
has a closer is passed over, unless it lies in a piece or overlaps an opener in front of it.

* `cutCloser_eq_some_iff`, `cutCloser_eq_none_iff` — the cut at the first closer.
* `Delimited.StandsIn` — a piece that is written in a line and ends at the first closer of its kind.
* `Delimited.standsIn_of_mem_scanFrom`, `Delimited.pairwise_scanFrom` — what the scan gives stands in
  the line, in order and without overlaps.
* `Delimited.found_of_occursAt` — no opener with a closer is passed over.
-/
import LiquidHover.Proofs.Text.Occurrence
import LiquidHover.Template.Delimited

namespace LiquidHover.Template

open Text (OccursAt occursAt_drop)

/-! ### Openers and closers -/

@[simp] theorem length_opener (kind : Kind) : kind.opener.length = 2 := rfl

@[simp] theorem length_closer (kind : Kind) : kind.closer.length = 2 := rfl

/-- **A text begins with an opener exactly when one is read.** -/
theorem openerAt?_eq_some_iff {text body : List Char} {kind : Kind} :
    openerAt? text = some (kind, body) ↔ text = kind.opener ++ body := by
  refine ⟨openerAt?_eq_some, ?_⟩
  rintro rfl
  cases kind <;> rfl

theorem openerAt?_eq_none_iff {text : List Char} :
    openerAt? text = none ↔ ∀ kind : Kind, ¬ OccursAt kind.opener text 0 := by
  constructor
  · rintro nothing kind ⟨body, opens⟩
    have found := openerAt?_eq_some_iff.mpr opens.symm
    rw [List.drop_zero, nothing] at found
    cases found
  · intro nothing
    rw [Option.eq_none_iff_forall_ne_some]
    rintro ⟨kind, body⟩ opens
    exact nothing kind ⟨body, (openerAt?_eq_some opens).symm⟩

/-- Openers of different kinds do not stand at the same place. -/
theorem kind_eq_of_occursAt {kind other : Kind} {text : List Char} {position : Nat}
    (first : OccursAt kind.opener text position) (second : OccursAt other.opener text position) :
    kind = other := by
  have same : kind.opener = other.opener :=
    List.IsPrefix.eq_of_length (List.prefix_of_prefix_length_le first second (Nat.le_refl 2)) rfl
  cases kind <;> cases other <;> simp_all [Kind.opener, Kind.openMark]

theorem closer_prefix_cons {kind : Kind} {c : Char} {rest : List Char} :
    kind.closer <+: c :: rest ↔ c = kind.closeMark ∧ rest.head? = some '}' := by
  cases rest with
  | nil => simp [Kind.closer]
  | cons d rest => simp [Kind.closer, List.cons_prefix_cons, eq_comm]

/-- A text without a closer is not cut. -/
theorem cutCloser_eq_none_iff {kind : Kind} {text : List Char} :
    cutCloser kind text = none ↔ ∀ position, ¬ OccursAt kind.closer text position := by
  induction text with
  | nil => simp [cutCloser, OccursAt, Kind.closer]
  | cons c rest ih =>
    simp only [cutCloser]
    split
    · rename_i here
      simp only [reduceCtorEq, false_iff, not_forall, not_not]
      exact ⟨0, closer_prefix_cons.mpr here⟩
    · rename_i elsewhere
      rw [Option.map_eq_none_iff, ih]
      constructor
      · intro nothing position
        cases position with
        | zero => exact fun occurs => elsewhere (closer_prefix_cons.mp occurs)
        | succ position => exact nothing position
      · exact fun nothing position => nothing (position + 1)

/-- The cut is at the first closer. -/
theorem not_occursAt_of_cutCloser {kind : Kind} {text inner after : List Char}
    (cut : cutCloser kind text = some (inner, after)) {position : Nat}
    (before : position < inner.length) : ¬ OccursAt kind.closer text position := by
  induction text generalizing inner position with
  | nil => simp [cutCloser] at cut
  | cons c rest ih =>
    simp only [cutCloser] at cut
    split at cut
    · cases cut
      cases before
    · rename_i elsewhere
      obtain ⟨⟨inner', after'⟩, found, same⟩ := Option.map_eq_some_iff.mp cut
      cases same
      cases position with
      | zero => exact fun occurs => elsewhere (closer_prefix_cons.mp occurs)
      | succ position => exact ih found (Nat.lt_of_succ_lt_succ before)

/-- **The cut at the first closer.** -/
theorem cutCloser_eq_some_iff {kind : Kind} {text inner after : List Char} :
    cutCloser kind text = some (inner, after) ↔
      text = inner ++ kind.closer ++ after ∧
        ∀ position < inner.length, ¬ OccursAt kind.closer text position := by
  refine ⟨fun cut => ⟨cutCloser_eq_some cut, fun _ => not_occursAt_of_cutCloser cut⟩, ?_⟩
  rintro ⟨rfl, first⟩
  induction inner with
  | nil => simp [cutCloser, Kind.closer]
  | cons c inner ih =>
    have elsewhere : ¬ (c = kind.closeMark ∧
        (inner ++ kind.closer ++ after).head? = some '}') := fun here =>
      first 0 (Nat.succ_pos _) (closer_prefix_cons.mpr here)
    have later := ih fun position before => first (position + 1) (Nat.succ_lt_succ before)
    show cutCloser kind (c :: (inner ++ kind.closer ++ after)) = _
    rw [cutCloser, if_neg elsewhere, later]
    rfl

/-- A closer is found before anything that is added behind. -/
theorem cutCloser_append {kind : Kind} {text inner after : List Char}
    (cut : cutCloser kind text = some (inner, after)) (back : List Char) :
    cutCloser kind (text ++ back) = some (inner, after ++ back) := by
  obtain ⟨whole, first⟩ := cutCloser_eq_some_iff.mp cut
  refine cutCloser_eq_some_iff.mpr ⟨by rw [whole, List.append_assoc], ?_⟩
  intro position before occurs
  refine first position before (occurs.of_append_right ?_)
  rw [whole, List.length_append, List.length_append, length_closer]
  omega

namespace Delimited

/-! ### The steps of a scan -/

theorem scanFrom_cons_of_openerAt? {start : Nat} {c : Char} {rest : List Char}
    (plain : openerAt? (c :: rest) = none) :
    scanFrom start (c :: rest) = scanFrom (start + 1) rest := by
  rw [scanFrom]
  split
  · rfl
  · rename_i opens
    rw [plain] at opens
    cases opens

/-- **What a scan does at an opener.** It takes the piece up to the first closer, or it skips the opener. -/
theorem scanFrom_opener_append (start : Nat) (kind : Kind) (body : List Char) :
    scanFrom start (kind.opener ++ body) =
      match cutCloser kind body with
      | none => scanFrom (start + 2) body
      | some (inner, after) =>
        { kind, start, inner } :: scanFrom (start + inner.length + 4) after := by
  have opens : openerAt? ('{' :: kind.openMark :: body) = some (kind, body) :=
    openerAt?_eq_some_iff.mpr rfl
  show scanFrom start ('{' :: kind.openMark :: body) = _
  rw [scanFrom]
  split
  · rename_i plain
    rw [opens] at plain
    cases plain
  · rename_i found
    rw [opens] at found
    cases found
    split <;> rename_i cut <;> rw [cut]

theorem scanFrom_opener {start : Nat} {kind : Kind} {body inner after : List Char}
    (cut : cutCloser kind body = some (inner, after)) :
    scanFrom start (kind.opener ++ body) =
      { kind, start, inner } :: scanFrom (start + inner.length + 4) after := by
  rw [scanFrom_opener_append, cut]

theorem scanFrom_opener_of_uncut {start : Nat} {kind : Kind} {body : List Char}
    (uncut : cutCloser kind body = none) :
    scanFrom start (kind.opener ++ body) = scanFrom (start + 2) body := by
  rw [scanFrom_opener_append, uncut]

/-- Text without an opening brace is passed over. -/
theorem scanFrom_append_of_not_mem {start : Nat} {front rest : List Char} (plain : '{' ∉ front) :
    scanFrom start (front ++ rest) = scanFrom (start + front.length) rest := by
  induction front generalizing start with
  | nil => rfl
  | cons c front ih =>
    obtain ⟨noBrace, plain⟩ := not_or.mp (List.mem_cons.not.mp plain)
    have closed : openerAt? (c :: (front ++ rest)) = none := by
      rw [openerAt?_eq_none_iff]
      rintro kind ⟨body, opens⟩
      exact noBrace (List.cons.inj opens).1
    rw [List.cons_append, scanFrom_cons_of_openerAt? closed, ih plain, List.length_cons]
    congr 1
    omega

/-! ### What is found stands in the line -/

/-- A piece that is written in a line and that ends at the first closer of its kind. -/
structure StandsIn (piece : Delimited) (line : List Char) : Prop where
  written : OccursAt piece.text line piece.start
  first : ∀ position, piece.start + 2 ≤ position → position + 2 < piece.stop →
    ¬ OccursAt piece.kind.closer line position

@[simp] theorem length_text (piece : Delimited) : piece.text.length = piece.length := by
  simp only [text, length, List.length_append, length_opener, length_closer]
  omega

namespace StandsIn

variable {piece : Delimited} {line : List Char}

theorem opens (stands : piece.StandsIn line) : OccursAt piece.kind.opener line piece.start := by
  have front : OccursAt piece.kind.opener piece.text 0 := by
    rw [text, List.append_assoc]
    exact List.prefix_append _ _
  exact front.trans stands.written

/-- The text between the delimiters stands behind the opener. -/
theorem inner (stands : piece.StandsIn line) : OccursAt piece.inner line (piece.start + 2) := by
  have middle : OccursAt piece.inner piece.text 2 := Text.occursAt_middle piece.kind.opener _
  exact middle.trans stands.written

theorem closes (stands : piece.StandsIn line) :
    OccursAt piece.kind.closer line (piece.stop - 2) := by
  have back : OccursAt piece.kind.closer piece.text (piece.inner.length + 2) := by
    have middle : OccursAt piece.kind.closer
        (piece.kind.opener ++ piece.inner ++ piece.kind.closer ++ [])
        (piece.kind.opener ++ piece.inner).length := Text.occursAt_middle _ []
    rw [List.append_nil, List.length_append, length_opener, Nat.add_comm] at middle
    exact middle
  have place : piece.stop - 2 = piece.start + (piece.inner.length + 2) := by
    simp only [stop, length]
    omega
  rw [place]
  exact back.trans stands.written

theorem stop_le (stands : piece.StandsIn line) : piece.stop ≤ line.length := by
  have room := stands.written.add_length_le (by simp [text, Kind.opener])
  rw [length_text] at room
  exact room

end StandsIn

/-- The piece that begins with the opener of a kind stands in the line. -/
theorem standsIn_of_cutCloser {line : List Char} {kind : Kind} {start : Nat}
    {body inner after : List Char} (rest : line.drop start = kind.opener ++ body)
    (cut : cutCloser kind body = some (inner, after)) :
    StandsIn { kind, start, inner } line := by
  obtain ⟨whole, first⟩ := cutCloser_eq_some_iff.mp cut
  have bodyAt : line.drop (start + 2) = body := by
    rw [← List.drop_drop, rest]
    rfl
  refine ⟨⟨after, ?_⟩, ?_⟩
  · rw [rest, whole]
    simp [text]
  · intro position behind before
    obtain ⟨index, rfl⟩ := Nat.exists_eq_add_of_le behind
    rw [← occursAt_drop, bodyAt]
    refine first index ?_
    simp only [stop, length] at before
    omega

/-- What remains of a line behind a piece. -/
theorem drop_of_cutCloser {line : List Char} {kind : Kind} {start : Nat}
    {body inner after : List Char} (rest : line.drop start = kind.opener ++ body)
    (cut : cutCloser kind body = some (inner, after)) :
    line.drop (start + inner.length + 4) = after := by
  have place : start + inner.length + 4 = start + (kind.opener ++ inner ++ kind.closer).length := by
    simp only [List.length_append, length_opener, length_closer]
    omega
  have whole : kind.opener ++ body = (kind.opener ++ inner ++ kind.closer) ++ after := by
    rw [cutCloser_eq_some cut]
    simp
  rw [place, ← List.drop_drop, rest, whole, List.drop_left]

/-- What remains of a line behind an opener that is skipped. -/
theorem drop_of_opener {line : List Char} {kind : Kind} {start : Nat} {body : List Char}
    (rest : line.drop start = kind.opener ++ body) : line.drop (start + 2) = body := by
  rw [← List.drop_drop, rest]
  rfl

theorem drop_of_cons {line : List Char} {start : Nat} {c : Char} {text : List Char}
    (rest : line.drop start = c :: text) : line.drop (start + 1) = text := by
  rw [← List.drop_drop, rest]
  rfl

/-- **Every piece that is found stands in the line**, and behind the place where the scan began. -/
theorem standsIn_of_mem_scanFrom {line text : List Char} {start : Nat} {piece : Delimited}
    (rest : line.drop start = text) (member : piece ∈ scanFrom start text) :
    piece.StandsIn line ∧ start ≤ piece.start := by
  fun_induction scanFrom start text with
  | case1 => cases member
  | case2 start c text plain ih =>
    obtain ⟨stands, behind⟩ := ih (drop_of_cons rest) member
    exact ⟨stands, by omega⟩
  | case3 start c text kind body opens uncut ih =>
    rw [openerAt?_eq_some opens] at rest
    obtain ⟨stands, behind⟩ := ih (drop_of_opener rest) member
    exact ⟨stands, by omega⟩
  | case4 start c text kind body opens inner after cut ih =>
    rw [openerAt?_eq_some opens] at rest
    rcases List.mem_cons.mp member with rfl | later
    · exact ⟨standsIn_of_cutCloser rest cut, Nat.le_refl _⟩
    · obtain ⟨stands, behind⟩ := ih (drop_of_cutCloser rest cut) later
      exact ⟨stands, by omega⟩

/-- No piece begins before its scan. -/
theorem le_start_of_mem_scanFrom {text : List Char} {start : Nat} {piece : Delimited}
    (member : piece ∈ scanFrom start text) : start ≤ piece.start := by
  have rest : (List.replicate start ' ' ++ text).drop start = text :=
    List.drop_left' List.length_replicate
  exact (standsIn_of_mem_scanFrom rest member).2

/-- **The pieces that are found do not overlap**, and they come from left to right. -/
theorem pairwise_scanFrom {line text : List Char} {start : Nat} (rest : line.drop start = text) :
    (scanFrom start text).Pairwise fun left right => left.stop ≤ right.start := by
  fun_induction scanFrom start text with
  | case1 => exact List.Pairwise.nil
  | case2 start c text plain ih => exact ih (drop_of_cons rest)
  | case3 start c text kind body opens uncut ih =>
    rw [openerAt?_eq_some opens] at rest
    exact ih (drop_of_opener rest)
  | case4 start c text kind body opens inner after cut ih =>
    rw [openerAt?_eq_some opens] at rest
    have behind := drop_of_cutCloser rest cut
    refine List.Pairwise.cons (fun right member => ?_) (ih behind)
    exact (standsIn_of_mem_scanFrom behind member).2

/-! ### What stands in the line is found -/

/-- **No opener with a closer is passed over.** From the place where the scan begins on, an opener
behind which a closer of its kind stands begins a piece or lies inside one, unless another opener
stands one character before it. -/
theorem found_of_occursAt {line text : List Char} {start position closing : Nat} {kind : Kind}
    (rest : line.drop start = text) (behind : start ≤ position)
    (opens : OccursAt kind.opener line position) (apart : position + 2 ≤ closing)
    (closes : OccursAt kind.closer line closing)
    (alone : ∀ other : Kind, ∀ previous, previous + 1 = position →
      start ≤ previous → ¬ OccursAt other.opener line previous) :
    ∃ piece ∈ scanFrom start text,
      piece.kind = kind ∧ piece.start = position ∨
        piece.start < position ∧ position < piece.stop := by
  fun_induction scanFrom start text with
  | case1 start =>
    have room := opens.add_length_le (by simp [Kind.opener])
    have none := congrArg List.length rest
    simp only [List.length_drop, length_opener, List.length_nil] at room none
    omega
  | case2 start c text plain ih =>
    rcases Nat.eq_or_lt_of_le behind with rfl | later
    · -- The scan reads an opener at `position`.
      rw [← Nat.add_zero start, ← occursAt_drop, rest] at opens
      exact absurd opens (openerAt?_eq_none_iff.mp plain kind)
    · exact ih (drop_of_cons rest) later fun other previous next notBefore =>
        alone other previous next (by omega)
  | case3 start c text other body found uncut ih =>
    rw [openerAt?_eq_some found] at rest
    have openerHere : OccursAt other.opener line start := ⟨body, rest.symm⟩
    have skipped : ∀ place, ¬ OccursAt other.closer line (start + 2 + place) := fun place => by
      rw [← occursAt_drop, drop_of_opener rest]
      exact cutCloser_eq_none_iff.mp uncut place
    rcases Nat.eq_or_lt_of_le behind with rfl | later
    · -- The opener at `position` is skipped for want of a closer.
      obtain ⟨place, rfl⟩ := Nat.exists_eq_add_of_le apart
      obtain rfl := kind_eq_of_occursAt opens openerHere
      exact absurd closes (skipped place)
    · rcases Nat.eq_or_lt_of_le later with rfl | later
      · -- The opener that is skipped reaches over `position`.
        exact absurd openerHere (alone other start rfl (Nat.le_refl _))
      · exact ih (drop_of_opener rest) later fun other previous next notBefore =>
          alone other previous next (by omega)
  | case4 start c text other body found inner after cut ih =>
    rw [openerAt?_eq_some found] at rest
    have openerHere : OccursAt other.opener line start := ⟨body, rest.symm⟩
    rcases Nat.eq_or_lt_of_le behind with rfl | later
    · refine ⟨_, List.mem_cons_self, Or.inl ⟨?_, rfl⟩⟩
      exact kind_eq_of_occursAt openerHere opens
    · by_cases inside : position < start + inner.length + 4
      · refine ⟨_, List.mem_cons_self, Or.inr ⟨later, ?_⟩⟩
        simp only [stop, length]
        omega
      · obtain ⟨piece, member, placed⟩ := ih (drop_of_cutCloser rest cut) (by omega)
          fun other previous next notBefore => alone other previous next (by omega)
        exact ⟨piece, List.mem_cons_of_mem _ member, placed⟩

end Delimited

end LiquidHover.Template
