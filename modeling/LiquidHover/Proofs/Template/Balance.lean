/-
**Two ways to see an open expression.** Whether a text ends inside an expression is decided by counting: openers and
closers of each kind are counted on their own, wherever they stand. A scan instead reads the text from left to right,
matches each opener with a closer behind it, and passes over what stands in an expression. The two agree up to the
closers that close nothing and the openers that the scan does not meet.

* `openers` — the openers that a scan meets; `map_opening_scan`: its pieces are those with a closer behind them.
* `countPairs_cons_bounds`, `countPairs_le_append` — what a character in front does to a count.
* `countP_openers_le`, `countP_scan_le` — what a scan meets is counted.
* `strayClosers`, `hiddenOpeners`, `unclosedOpeners` — where the two ways part.
* `endsOpen_iff_strayClosers_lt` — the count compared with the scan.
* `endsOpen_parts_from_scan` — two texts on which they do not agree.
-/
import LiquidHover.Proofs.Template.Scan
import LiquidHover.Template.Cursor

namespace LiquidHover.Template

open Text (OccursAt occursAt_drop)

/-! ### The openers that a scan meets -/

/-- An opener in a text. -/
structure Opener where
  kind : Kind
  /-- Its offset in the text. -/
  start : Nat
  deriving DecidableEq, Repr

namespace Opener

/-- An opener with no closer of its kind behind it. -/
def Unclosed (opener : Opener) (text : List Char) : Prop :=
  ∀ position, opener.start + 2 ≤ position → ¬ OccursAt opener.kind.closer text position

variable {opener : Opener} {text : List Char}

theorem unclosed_iff_cutCloser :
    opener.Unclosed text ↔ cutCloser opener.kind (text.drop (opener.start + 2)) = none := by
  rw [cutCloser_eq_none_iff]
  constructor
  · intro unclosed position
    rw [occursAt_drop]
    exact unclosed _ (Nat.le_add_right _ _)
  · intro nothing position behind
    obtain ⟨index, rfl⟩ := Nat.exists_eq_add_of_le behind
    rw [← occursAt_drop]
    exact nothing index

instance : Decidable (opener.Unclosed text) := decidable_of_iff' _ unclosed_iff_cutCloser

end Opener

theorem length_lt_of_openerAt? {text body : List Char} {kind : Kind} (opens : openerAt? text = some (kind, body)) :
    body.length < text.length := by
  rw [openerAt?_eq_some opens, List.length_append, length_opener]
  omega

theorem length_lt_of_cutCloser {text inner after : List Char} {kind : Kind}
    (cut : cutCloser kind text = some (inner, after)) : after.length < text.length := by
  rw [cutCloser_eq_some cut, List.length_append, List.length_append, length_closer]
  omega

/-- The openers that a scan meets in a text whose first character has the offset `start`: behind a piece, or behind
an opener that is skipped, it goes on. -/
def openersFrom (start : Nat) (text : List Char) : List Opener :=
  match text with
  | [] => []
  | c :: rest =>
    match opens : openerAt? (c :: rest) with
    | none => openersFrom (start + 1) rest
    | some (kind, body) =>
      match cut : cutCloser kind body with
      | none => { kind, start } :: openersFrom (start + 2) body
      | some (inner, after) => { kind, start } :: openersFrom (start + inner.length + 4) after
termination_by text.length
decreasing_by
  · exact Nat.lt_succ_self _
  · exact length_lt_of_openerAt? opens
  · exact (length_lt_of_cutCloser cut).trans (length_lt_of_openerAt? opens)

/-- The openers that a scan of a text meets. -/
def openers (text : List Char) : List Opener := openersFrom 0 text

/-- The opener of a piece. -/
def Delimited.opening (piece : Delimited) : Opener := ⟨piece.kind, piece.start⟩

theorem unclosed_of_drop_eq {line body : List Char} {kind : Kind} {start : Nat}
    (rest : line.drop start = kind.opener ++ body) :
    Opener.Unclosed ⟨kind, start⟩ line ↔ cutCloser kind body = none := by
  rw [Opener.unclosed_iff_cutCloser, Delimited.drop_of_opener rest]

/-- **The pieces of a scan are the openers with a closer behind them.** -/
theorem map_opening_scanFrom {line text : List Char} {start : Nat} (rest : line.drop start = text) :
    (Delimited.scanFrom start text).map Delimited.opening =
      (openersFrom start text).filter fun opener => ¬ opener.Unclosed line := by
  fun_induction openersFrom start text with
  | case1 => rw [Delimited.scanFrom, List.map_nil, List.filter_nil]
  | case2 start c text plain ih =>
    rw [Delimited.scanFrom_cons_of_openerAt? plain]
    exact ih (Delimited.drop_of_cons rest)
  | case3 start c text kind body opens uncut ih =>
    rw [openerAt?_eq_some opens] at rest ⊢
    have unclosed := (unclosed_of_drop_eq rest).mpr uncut
    rw [Delimited.scanFrom_opener_of_uncut uncut, ih (Delimited.drop_of_opener rest),
      List.filter_cons_of_neg (by simpa using unclosed)]
  | case4 start c text kind body opens inner after cut ih =>
    rw [openerAt?_eq_some opens] at rest ⊢
    have closed : ¬ Opener.Unclosed ⟨kind, start⟩ line := by
      rw [unclosed_of_drop_eq rest, cut]
      exact Option.some_ne_none _
    rw [Delimited.scanFrom_opener cut, List.map_cons, ih (Delimited.drop_of_cutCloser rest cut),
      List.filter_cons_of_pos (by simpa using closed)]
    rfl

theorem map_opening_scan (text : List Char) :
    (Delimited.scan text).map Delimited.opening = (openers text).filter fun opener => ¬ opener.Unclosed text :=
  map_opening_scanFrom rfl

/-! ### What is counted -/

/-- **A character in front adds at most one pair to a count, and takes none away.** -/
theorem countPairs_cons_bounds (first second : Char) (text : List Char) (c : Char) :
    countPairs first second text ≤ countPairs first second (c :: text) ∧
      countPairs first second (c :: text) ≤ countPairs first second text + 1 := by
  induction text generalizing c with
  | nil => exact ⟨Nat.zero_le _, Nat.zero_le _⟩
  | cons d rest ih =>
    obtain ⟨low, high⟩ := ih d
    rw [countPairs]
    split
    · -- The pair in front hides one that begins with its second character.
      exact ⟨high, Nat.succ_le_succ low⟩
    · exact ⟨Nat.le_refl _, Nat.le_succ _⟩

theorem countPairs_le_append (first second : Char) (front back : List Char) :
    countPairs first second back ≤ countPairs first second (front ++ back) := by
  induction front with
  | nil => exact Nat.le_refl _
  | cons c front ih => exact ih.trans (countPairs_cons_bounds first second (front ++ back) c).1

/-- A pair in front counts, and a pair of another kind takes none away. -/
theorem countPairs_opener_append (kind other : Kind) (text : List Char) :
    countPairs '{' kind.openMark text + (if other = kind then 1 else 0) ≤
      countPairs '{' kind.openMark (other.opener ++ text) := by
  split
  · rename_i same
    simp [same, Kind.opener, countPairs]
  · exact countPairs_le_append _ _ other.opener text

theorem countPairs_closer_append (kind other : Kind) (text : List Char) :
    countPairs kind.closeMark '}' text + (if other = kind then 1 else 0) ≤
      countPairs kind.closeMark '}' (other.closer ++ text) := by
  split
  · rename_i same
    simp [same, Kind.closer, countPairs]
  · exact countPairs_le_append _ _ other.closer text

/-- **Every opener that a scan meets is counted.** -/
theorem countP_openersFrom_le (kind : Kind) (start : Nat) (text : List Char) :
    (openersFrom start text).countP (·.kind = kind) ≤ countPairs '{' kind.openMark text := by
  fun_induction openersFrom start text with
  | case1 => exact Nat.zero_le _
  | case2 start c text plain ih => exact ih.trans (countPairs_le_append _ _ [c] text)
  | case3 start c text other body opens uncut ih =>
    rw [openerAt?_eq_some opens, List.countP_cons]
    have counted := countPairs_opener_append kind other body
    simp only [decide_eq_true_eq]
    omega
  | case4 start c text other body opens inner after cut ih =>
    rw [openerAt?_eq_some opens, List.countP_cons]
    have counted := countPairs_opener_append kind other body
    have behind := countPairs_le_append '{' kind.openMark (inner ++ other.closer) after
    rw [← cutCloser_eq_some cut] at behind
    simp only [decide_eq_true_eq]
    omega

/-- **Every closer at the end of a piece is counted.** -/
theorem countP_scanFrom_le (kind : Kind) (start : Nat) (text : List Char) :
    (Delimited.scanFrom start text).countP (·.kind = kind) ≤ countPairs kind.closeMark '}' text := by
  fun_induction Delimited.scanFrom start text with
  | case1 => exact Nat.zero_le _
  | case2 start c text plain ih => exact ih.trans (countPairs_le_append _ _ [c] text)
  | case3 start c text other body opens uncut ih =>
    rw [openerAt?_eq_some opens]
    exact ih.trans (countPairs_le_append _ _ other.opener body)
  | case4 start c text other body opens inner after cut ih =>
    rw [openerAt?_eq_some opens, List.countP_cons, cutCloser_eq_some cut]
    have counted := countPairs_closer_append kind other after
    have behind := countPairs_le_append kind.closeMark '}' (other.opener ++ inner) (other.closer ++ after)
    simp only [List.append_assoc, decide_eq_true_eq] at behind ⊢
    omega

/-! ### Where the two ways part -/

/-- The number of openers of a kind that a scan meets and that have no closer of their kind behind them. -/
def unclosedOpeners (kind : Kind) (text : List Char) : Nat :=
  ((openers text).filter (·.Unclosed text)).countP (·.kind = kind)

/-- The number of openers of a kind that are counted and not met: they stand in a piece, or share a character with an
opener in front of them. -/
def hiddenOpeners (kind : Kind) (text : List Char) : Nat :=
  countPairs '{' kind.openMark text - (openers text).countP (·.kind = kind)

/-- The number of closers of a kind that are counted and that end no piece. -/
def strayClosers (kind : Kind) (text : List Char) : Nat :=
  countPairs kind.closeMark '}' text - (Delimited.scan text).countP (·.kind = kind)

/-- Openers that a scan meets begin a piece or are unclosed. -/
theorem countP_openers (kind : Kind) (text : List Char) :
    (openers text).countP (·.kind = kind) =
      (Delimited.scan text).countP (·.kind = kind) + unclosedOpeners kind text := by
  have closed : (Delimited.scan text).countP (·.kind = kind) =
      ((openers text).filter fun opener => ¬ opener.Unclosed text).countP (·.kind = kind) := by
    rw [← map_opening_scan, List.countP_map]
    rfl
  rw [closed, unclosedOpeners, Nat.add_comm, List.countP_eq_countP_filter_add _ _ (·.Unclosed text)]
  simp

/-- The comparison for one kind. -/
theorem hasUnclosed_iff (kind : Kind) (text : List Char) :
    hasUnclosed kind text = true ↔
      strayClosers kind text < unclosedOpeners kind text + hiddenOpeners kind text := by
  have met := countP_openersFrom_le kind 0 text
  have ended := countP_scanFrom_le kind 0 text
  have parts := countP_openers kind text
  rw [hasUnclosed, decide_eq_true_iff, strayClosers, hiddenOpeners]
  unfold openers at parts ⊢
  unfold Delimited.scan at parts ⊢
  omega

theorem endsOpen_iff_exists_hasUnclosed {text : List Char} :
    endsOpen text = true ↔ ∃ kind, hasUnclosed kind text = true := by
  rw [endsOpen, Bool.or_eq_true]
  constructor
  · rintro (output | tag)
    · exact ⟨.output, output⟩
    · exact ⟨.tag, tag⟩
  · rintro ⟨kind, unclosed⟩
    cases kind with
    | output => exact Or.inl unclosed
    | tag => exact Or.inr unclosed

theorem unclosedOpeners_pos_iff {kind : Kind} {text : List Char} :
    0 < unclosedOpeners kind text ↔ ∃ opener ∈ openers text, opener.kind = kind ∧ opener.Unclosed text := by
  simp only [unclosedOpeners, List.countP_pos_iff, List.mem_filter, decide_eq_true_eq]
  constructor
  · rintro ⟨opener, ⟨met, unclosed⟩, same⟩
    exact ⟨opener, met, same, unclosed⟩
  · rintro ⟨opener, met, same, unclosed⟩
    exact ⟨opener, ⟨met, unclosed⟩, same⟩

/-- **The count compared with the scan.** The pieces of a scan are the openers that it meets and that have a closer
behind them. A text is taken to end inside an expression exactly if, for some kind, its other openers are more than
the closers that end no piece: those without a closer behind them, and those that the scan does not meet. So an
opener without a closer is noticed if no closer of its kind is stray; and if no opener is hidden, there is such an
opener whenever one is reported. -/
theorem endsOpen_iff_strayClosers_lt (text : List Char) :
    (Delimited.scan text).map Delimited.opening =
        (openers text).filter (fun opener => ¬ opener.Unclosed text) ∧
      (endsOpen text = true ↔
        ∃ kind, strayClosers kind text < unclosedOpeners kind text + hiddenOpeners kind text) ∧
      (∀ opener ∈ openers text,
        opener.Unclosed text → strayClosers opener.kind text = 0 → endsOpen text = true) ∧
      ((∀ kind, hiddenOpeners kind text = 0) → endsOpen text = true →
        ∃ opener ∈ openers text, opener.Unclosed text) := by
  have compared : endsOpen text = true ↔
      ∃ kind, strayClosers kind text < unclosedOpeners kind text + hiddenOpeners kind text :=
    endsOpen_iff_exists_hasUnclosed.trans (exists_congr fun kind => hasUnclosed_iff kind text)
  refine ⟨map_opening_scan text, compared, ?_, ?_⟩
  · intro opener met unclosed stray
    have present := unclosedOpeners_pos_iff.mpr ⟨opener, met, rfl, unclosed⟩
    exact compared.mpr ⟨opener.kind, by omega⟩
  · intro hidden reported
    obtain ⟨kind, fewer⟩ := compared.mp reported
    rw [hidden kind, Nat.add_zero] at fewer
    obtain ⟨opener, met, -, unclosed⟩ := unclosedOpeners_pos_iff.mp (Nat.zero_lt_of_lt fewer)
    exact ⟨opener, met, unclosed⟩

/-- An expression with a brace of its own, and one that is not closed. -/
def closedAndOpen : List Char := "\x7b\x7b a \x7b \x7d\x7d \x7b\x7b b".toList

/-- No closer is stray and no opener hidden. -/
theorem endsOpen_iff_strayClosers_lt_closedAndOpen :
    (∀ kind, strayClosers kind closedAndOpen = 0 ∧ hiddenOpeners kind closedAndOpen = 0) ∧
      openers closedAndOpen = [⟨.output, 0⟩, ⟨.output, 10⟩] ∧ Opener.Unclosed ⟨.output, 10⟩ closedAndOpen ∧
      endsOpen closedAndOpen = true ∧ ∃ opener ∈ openers closedAndOpen, opener.Unclosed closedAndOpen := by
  have tidy : ∀ kind, strayClosers kind closedAndOpen = 0 ∧ hiddenOpeners kind closedAndOpen = 0 := by
    intro kind
    cases kind <;> decide +kernel
  have met : openers closedAndOpen = [⟨.output, 0⟩, ⟨.output, 10⟩] := by decide +kernel
  have unclosed : Opener.Unclosed ⟨.output, 10⟩ closedAndOpen := by decide +kernel
  obtain ⟨-, -, noticed, reported⟩ := endsOpen_iff_strayClosers_lt closedAndOpen
  have opened := noticed ⟨.output, 10⟩ (by simp [met]) unclosed (tidy .output).1
  exact ⟨tidy, met, unclosed, opened, reported (fun kind => (tidy kind).2) opened⟩

/-- A closer in front of an opener. -/
def closerInFront : List Char := "\x7d\x7d \x7b\x7b x".toList

/-- An opener within an expression. -/
def openerWithin : List Char := "\x7b\x7b \x7b\x7b \x7d\x7d".toList

/-- **Two texts on which they do not agree.** A stray closer in front outweighs an opener without a closer, so an open
expression is not noticed; and an opener within an expression is counted, so one is reported where there is none. -/
theorem endsOpen_parts_from_scan :
    (endsOpen closerInFront = false ∧ ∃ opener ∈ openers closerInFront, opener.Unclosed closerInFront) ∧
      endsOpen openerWithin = true ∧ ¬ ∃ opener ∈ openers openerWithin, opener.Unclosed openerWithin := by
  decide +kernel

end LiquidHover.Template
