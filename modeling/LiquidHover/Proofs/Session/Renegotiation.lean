/-
**A change of the encoding.** Cached hovers carry columns, and the encoding is not part of the key under
which they are kept. A new encoding therefore holds at once for every question, except for those that
were answered under another encoding before and whose answers are still in the cache: these are answered
with the old columns.

* `Action`, `Session.act`, `Session.perform` — all that can be done to a session: messages, and parts of
  its state replaced from outside.
* `Session.indexed_perform` — whatever is done to it, a session finds the lines of its documents.
* `Action.encoding?` — the encoding that an action puts in force.
* `Action.drops` — the actions after which no hover of a document is left in the cache.
* `Session.Recalls` — where an entry of the cache comes from: an earlier question, and the encoding of that
  moment. `recalls_of_mem_entries` traces every entry back.
* `hover_after_encoding_change` — what is answered after a change of the encoding.
* `hover_keeps_old_columns` — a question that is answered with columns of the encoding before.
-/
import LiquidHover.Proofs.Session.Documents
import Mathlib.Data.List.Induction

namespace LiquidHover

/-! ### What can be done to a session -/

/-- Something that is done to a session: it receives a message, or a part of its state is replaced. -/
inductive Action where
  | message (disk : Disk) (event : Event)
  | setRoot (root : Option String)
  | setOverrides (overrides : Option Json)
  | setEncoding (encoding : Encoding)
  | setCapabilities (capabilities : Capabilities)
  | reload (disk : Disk)
  | forget (uri : String)

/-- The encoding that an action puts in force: by name, or as the outcome of an introduction. -/
def Action.encoding? : Action → Option Encoding
  | .setEncoding encoding => some encoding
  | .message _ (.introduced introduction) => some (Encoding.negotiate introduction.encodings)
  | _ => none

/-- Whether no hover of a document is left in the cache after an action. -/
def Action.drops (uri : String) : Action → Bool
  | .reload _ | .message _ .ready | .message _ (.configured _) => true
  | .forget other | .message _ (.opened other _ _) | .message _ (.changed other _ _)
  | .message _ (.closed other) => other == uri
  | .message _ (.introduced _) | .message _ (.hovered _ _) | .message _ .stopped | .setRoot _
  | .setOverrides _ | .setEncoding _ | .setCapabilities _ => false

namespace Session

/-- The session after an action. -/
def act (session : Session) : Action → Session
  | .message disk event => (session.step disk event).session
  | .setRoot root => session.setRoot root
  | .setOverrides overrides => session.setOverrides overrides
  | .setEncoding encoding => session.setEncoding encoding
  | .setCapabilities capabilities => session.setCapabilities capabilities
  | .reload disk => (session.reload disk).session
  | .forget uri => session.forget uri

/-- The session after a row of actions. -/
def perform (session : Session) (actions : List Action) : Session := actions.foldl act session

theorem perform_append (session : Session) (actions others : List Action) :
    session.perform (actions ++ others) = (session.perform actions).perform others :=
  List.foldl_append

theorem perform_append_singleton (session : Session) (actions : List Action) (last : Action) :
    session.perform (actions ++ [last]) = (session.perform actions).act last :=
  perform_append session actions [last]

/-! ### The places of lines -/

theorem Indexed.act {session : Session} (indexed : session.Indexed) (action : Action) :
    (session.act action).Indexed := by
  cases action with
  | message disk event => exact indexed.step disk event
  | setRoot | setOverrides | setEncoding | setCapabilities | reload | forget => exact indexed

/-- All documents of a session are indexed, whatever was done to it. -/
theorem indexed_perform (actions : List Action) : (perform {} actions).Indexed := by
  induction actions using List.reverseRecOn with
  | nil => exact indexed_empty
  | append_singleton actions last ih => exact perform_append_singleton {} actions last ▸ ih.act last

/-! ### The encoding in force -/

theorem encoding_act (session : Session) (action : Action) :
    (session.act action).encoding = action.encoding?.getD session.encoding := by
  cases action with
  | message disk event =>
    cases event with
    | hovered uri position => exact (hover_frame session uri position).2.2
    | introduced | ready | opened | changed | closed | configured | stopped => rfl
  | setRoot | setOverrides | setEncoding | setCapabilities | reload | forget => rfl

/-- An encoding stays in force until an action puts another one in its place. -/
theorem encoding_perform {session : Session} {actions : List Action}
    (settled : ∀ action ∈ actions, action.encoding? = none) :
    (session.perform actions).encoding = session.encoding := by
  induction actions generalizing session with
  | nil => rfl
  | cons action actions ih =>
    obtain ⟨first, others⟩ := List.forall_mem_cons.mp settled
    show ((session.act action).perform actions).encoding = _
    rw [ih others, encoding_act, first]
    rfl

theorem encoding_perform_change (session : Session) (actions : List Action) {change : Action}
    {encoding : Encoding} (changed : change.encoding? = some encoding) {later : List Action}
    (settled : ∀ action ∈ later, action.encoding? = none) :
    (session.perform (actions ++ change :: later)).encoding = encoding := by
  rw [perform_append]
  show (((session.perform actions).act change).perform later).encoding = encoding
  rw [encoding_perform settled, encoding_act, changed]
  rfl

/-! ### Where the entries of the cache come from -/

/-- **What one action can do to the cache.** An entry that is there afterwards is carried over from
before, or it is the answer to the message, computed just then. -/
theorem carried_or_asked {session : Session} {action : Action} {entry : CacheKey × PlacedHover}
    (member : entry ∈ (session.act action).cache.entries) :
    Carried session (session.act action) entry ∨ session.Accurate entry ∧
      ∃ disk, action = .message disk (.hovered entry.1.uri entry.1.position) := by
  cases action with
  | message disk event =>
    rcases carried_or_accurate member with carried | ⟨accurate, asked⟩
    · exact Or.inl carried
    · exact Or.inr ⟨accurate, disk, by rw [asked]⟩
  | setRoot | setOverrides | setEncoding | setCapabilities => exact Or.inl ⟨member, rfl, rfl⟩
  | reload disk => exact absurd member (by simp [act, entries_reload])
  | forget uri => exact Or.inl ⟨(Cache.mem_of_mem_forget member).1, rfl, rfl⟩

/-- After an action that drops the hovers of a document, entries are about other documents. -/
theorem uri_ne_of_mem_act {session : Session} {action : Action} {uri : String}
    (dropped : action.drops uri = true) {entry : CacheKey × PlacedHover}
    (member : entry ∈ (session.act action).cache.entries) : entry.1.uri ≠ uri := by
  have emptied (reloaded : Session) (disk : Disk) :
      entry ∉ (reloaded.reload disk).session.cache.entries := by simp [entries_reload]
  cases action with
  | message disk event =>
    cases event with
    | ready => exact absurd member (emptied session disk)
    | configured settings => exact absurd member (emptied (session.setOverrides _) disk)
    | opened other | changed other | closed other =>
      obtain rfl : other = uri := beq_iff_eq.mp dropped
      exact (Cache.mem_of_mem_forget member).2
    | introduced | hovered | stopped => cases dropped
  | reload disk => exact absurd member (emptied session disk)
  | forget other =>
    obtain rfl : other = uri := beq_iff_eq.mp dropped
    exact (Cache.mem_of_mem_forget member).2
  | setRoot | setOverrides | setEncoding | setCapabilities => cases dropped

/-- An entry that goes back to a question in a row of actions: the question came after `before`, nothing
has dropped its answer since, and with the encoding of that moment the entry says what would be computed
now. -/
structure Recalls (actions before : List Action) (entry : CacheKey × PlacedHover) : Prop where
  asked : ∃ disk since,
    actions = before ++ .message disk (.hovered entry.1.uri entry.1.position) :: since ∧
      ∀ action ∈ since, action.drops entry.1.uri = false
  accurate : ((perform {} actions).setEncoding (perform {} before).encoding).Accurate entry

/-- One more action keeps an entry that it carries over traceable. -/
theorem Recalls.carry {actions before : List Action} {entry : CacheKey × PlacedHover}
    (recalls : Recalls actions before entry) {last : Action}
    (member : entry ∈ (perform {} (actions ++ [last])).cache.entries)
    (carried : Carried (perform {} actions) (perform {} (actions ++ [last])) entry) :
    Recalls (actions ++ [last]) before entry := by
  obtain ⟨disk, since, whole, kept⟩ := recalls.asked
  constructor
  · refine ⟨disk, since ++ [last], by rw [whole, List.append_assoc]; rfl, ?_⟩
    intro action among
    rcases List.mem_append.mp among with earlier | latest
    · exact kept action earlier
    · obtain rfl := List.mem_singleton.mp latest
      rw [perform_append_singleton] at member
      exact Bool.eq_false_iff.mpr fun dropped => uri_ne_of_mem_act dropped member rfl
  · exact recalls.accurate.congr carried.document carried.settings rfl

/-- **Every entry of the cache goes back to a question.** -/
theorem recalls_of_mem_entries {actions : List Action} {entry : CacheKey × PlacedHover}
    (member : entry ∈ (perform {} actions).cache.entries) :
    ∃ before, Recalls actions before entry := by
  induction actions using List.reverseRecOn with
  | nil => cases member
  | append_singleton actions last ih =>
    have acted := perform_append_singleton {} actions last
    rcases carried_or_asked (acted ▸ member) with carried | ⟨accurate, disk, rfl⟩
    · obtain ⟨before, recalls⟩ := ih carried.member
      exact ⟨before, recalls.carry member (acted ▸ carried)⟩
    · -- The entry was computed by the last action, which leaves documents and settings as they are.
      obtain ⟨documents, settings, _⟩ :=
        hover_frame (perform {} actions) entry.1.uri entry.1.position
      refine ⟨actions, ⟨disk, [], rfl, by simp⟩, ?_⟩
      rw [acted]
      exact accurate.congr (congrArg (Store.get? · entry.1.uri) documents) settings rfl

end Session

/-! ### Answers after a change -/

/-- Of two different actions in one row, one comes before the other. -/
theorem cuts_of_append_eq {actions later before since : List Action} {change asked : Action}
    (different : change ≠ asked) (whole : actions ++ change :: later = before ++ asked :: since) :
    (∃ between, before = actions ++ change :: between ∧ later = between ++ asked :: since) ∨
      ∃ between, actions = before ++ asked :: between ∧ since = between ++ change :: later := by
  rcases List.append_eq_append_iff.mp whole with ⟨between, split, rest⟩ | ⟨between, split, rest⟩
  · cases between with
    | nil => exact absurd (List.cons.inj rest).1 different
    | cons first between =>
      obtain ⟨rfl, behind⟩ := List.cons.inj rest
      exact Or.inl ⟨between, split, behind⟩
  · cases between with
    | nil => exact absurd (List.cons.inj rest).1.symm different
    | cons first between =>
      obtain ⟨rfl, behind⟩ := List.cons.inj rest
      exact Or.inr ⟨between, split, behind⟩

/-- **What is answered after a change of the encoding.** Once an encoding is put in force, by name or by an
introduction, every question is answered with what documents, settings and that encoding give, unless the
same question was asked before the change under another encoding and its answer was not dropped since. In
that case the answer may be the one that the other encoding would give. -/
theorem hover_after_encoding_change (actions later : List Action) {change : Action}
    {encoding : Encoding} (changed : change.encoding? = some encoding)
    (settled : ∀ action ∈ later, action.encoding? = none) (uri : String) (position : Position) :
    let session := Session.perform {} (actions ++ change :: later)
    session.encoding = encoding ∧
      ((session.hover uri position).value = session.computed? uri position ∨
        ∃ before disk since, actions = before ++ .message disk (.hovered uri position) :: since ∧
          (∀ action ∈ since ++ later, action.drops uri = false) ∧
          (Session.perform {} before).encoding ≠ encoding ∧
          (session.hover uri position).value =
            (session.setEncoding (Session.perform {} before).encoding).computed? uri position) := by
  intro session
  have current : session.encoding = encoding :=
    Session.encoding_perform_change {} actions changed settled
  refine ⟨current, ?_⟩
  rcases session.value_hover uri position with ⟨entry, member, rfl, rfl, kept⟩ | computed
  swap
  · exact Or.inl computed
  obtain ⟨before, ⟨disk, since, whole, undropped⟩, accurate⟩ := Session.recalls_of_mem_entries member
  have answer := kept.trans accurate.computed.symm
  by_cases same : (Session.perform {} before).encoding = encoding
  · -- The question was asked under the encoding that is in force now.
    refine Or.inl (answer.trans ?_)
    rw [same, ← current]
    rfl
  -- Otherwise it was asked before the change, for after it this encoding has been in force.
  have different : change ≠ .message disk (.hovered entry.1.uri entry.1.position) := by
    rintro rfl
    cases changed
  rcases cuts_of_append_eq different whole with ⟨between, rfl, rfl⟩ | ⟨between, rfl, rfl⟩
  · refine absurd (Session.encoding_perform_change {} actions changed ?_) same
    exact fun action among => settled action (List.mem_append_left _ among)
  · refine Or.inr ⟨before, disk, between, rfl, fun action among => undropped action ?_, same, answer⟩
    rcases List.mem_append.mp among with earlier | afterwards
    · exact List.mem_append_left _ earlier
    · exact List.mem_append_right _ (List.mem_cons_of_mem _ afterwards)

/-- A disk without files. -/
def bareDisk : Disk := ⟨fun _ => .missing, none, .ok "/"⟩

/-- A question about a line that begins with a character of two code units. -/
def askedInUtf16 : List Action :=
  [ .message bareDisk (.opened "file:///card.liquid" "liquid" ⟨"😀 {{ product }}", 1⟩),
    .message bareDisk (.hovered "file:///card.liquid" ⟨0, 8⟩) ]

/-- The same question after another encoding was set and the settings were read again: the old answer is
gone. -/
theorem hover_after_encoding_change_reloaded :
    (Action.setEncoding .utf32).encoding? = some .utf32 ∧
      (Action.reload bareDisk).encoding? = none ∧
      let session := Session.perform {} (askedInUtf16 ++ .setEncoding .utf32 :: [.reload bareDisk])
      session.encoding = .utf32 ∧
        (session.hover "file:///card.liquid" ⟨0, 8⟩).value =
          session.computed? "file:///card.liquid" ⟨0, 8⟩ := by
  have changed : (Action.setEncoding .utf32).encoding? = some .utf32 := rfl
  have settled : ∀ action ∈ [Action.reload bareDisk], action.encoding? = none := by
    intro action among
    rw [List.mem_singleton.mp among]
    rfl
  obtain ⟨current, answer⟩ := hover_after_encoding_change askedInUtf16 [.reload bareDisk] changed
    settled "file:///card.liquid" ⟨0, 8⟩
  refine ⟨changed, rfl, current, answer.resolve_right ?_⟩
  rintro ⟨before, disk, since, -, undropped, -⟩
  have kept := undropped (.reload bareDisk) (List.mem_append_right _ List.mem_cons_self)
  cases kept

/-- The same question again, after a change: the encoding in force, the column at which the answer starts and
the one at which the expression starts. -/
def columnsAfter (change : Action) : Encoding × Option Nat × Option Nat :=
  let session := Session.perform {} (askedInUtf16 ++ [change])
  let startOf (answer : Option PlacedHover) := answer.map (·.range.start.column)
  (session.encoding, startOf (session.hover "file:///card.liquid" ⟨0, 8⟩).value,
    startOf (session.computed? "file:///card.liquid" ⟨0, 8⟩))

/-- **A question that is answered with old columns.** The expression starts at column 3 in UTF-16 and at
column 2 in UTF-32. After the encoding was set to UTF-32, and also after an introduction that agrees on
it, the question that was asked before is still answered with column 3. -/
theorem hover_keeps_old_columns :
    columnsAfter (.setEncoding .utf32) = (.utf32, some 3, some 2) ∧
      columnsAfter (.message bareDisk (.introduced { encodings := ["utf-32"] })) =
        (.utf32, some 3, some 2) := by
  decide +kernel

end LiquidHover
