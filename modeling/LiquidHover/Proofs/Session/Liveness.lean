/-
**Only live hovers are kept.** Whatever an editor tells and asks, and in whichever order, a hover in the
cache belongs to a document that is open, at its current version, and to a line that its text has.

* `Session.Live` — such a key. It depends on the document at its address only (`Live.congr`).
* `Session.live_step` — one message keeps all keys of the cache live: what it carries over is about a
  document that it leaves alone, and what it adds was just computed.
* `Session.hover_keeps_or_inserts` — what a hover can do to a session.
* `Session.exists_operations_step` — a message acts on the cache by operations of the cache, which keep it
  within its bounds.
* `cache_holds_live_hovers` — all of this after all messages.
-/
import LiquidHover.Proofs.Session.Documents
import LiquidHover.Proofs.Session.Retention

namespace LiquidHover

namespace Session

/-! ### Live keys -/

/-- A key of an open document at its current version, on a line that the document has. -/
def Live (session : Session) (key : CacheKey) : Prop :=
  ∃ document, session.documents.get? key.uri = some document ∧ document.version = key.version ∧
    ∃ line, Lines.IsLine document.text.toList key.position.line line

theorem Live.congr {before after : Session} {key : CacheKey} (live : before.Live key)
    (document : after.documents.get? key.uri = before.documents.get? key.uri) : after.Live key := by
  obtain ⟨held, opened, current, written⟩ := live
  exact ⟨held, document.trans opened, current, written⟩

/-- The key of an entry that says what would be computed now is live. -/
theorem Accurate.live {session : Session} (indexed : session.Indexed) {entry : CacheKey × PlacedHover}
    (accurate : session.Accurate entry) : session.Live entry.1 := by
  obtain ⟨document, opened, same⟩ := Option.map_eq_some_iff.mp accurate.current
  refine ⟨document, opened, congrArg CacheKey.version same, ?_⟩
  -- A hover is computed from a line of the document.
  obtain ⟨_, located, -⟩ := Option.bind_eq_some_iff.mp accurate.computed
  obtain ⟨held, opened', located⟩ := Option.bind_eq_some_iff.mp located
  obtain rfl : document = held := Option.some.inj (opened.symm.trans opened')
  obtain ⟨line, written, -⟩ := Option.bind_eq_some_iff.mp located
  exact (indexed entry.1.uri document opened).exists_isLine written

/-- **One message keeps all keys of the cache live.** -/
theorem live_step {session : Session} (indexed : session.Indexed)
    (live : ∀ entry ∈ session.cache.entries, session.Live entry.1) (disk : Disk) (event : Event) :
    ∀ entry ∈ (session.step disk event).session.cache.entries,
      (session.step disk event).session.Live entry.1 := by
  intro entry member
  rcases carried_or_accurate member with carried | ⟨accurate, rfl⟩
  · exact (live entry carried.member).congr carried.document
  · have documents := (hover_frame session entry.1.uri entry.1.position).1
    exact (accurate.live indexed).congr (congrArg (Store.get? · entry.1.uri) documents)

theorem live_run {session : Session} (indexed : session.Indexed)
    (live : ∀ entry ∈ session.cache.entries, session.Live entry.1) (events : List (Disk × Event)) :
    ∀ entry ∈ (session.run events).cache.entries, (session.run events).Live entry.1 := by
  induction events generalizing session with
  | nil => exact live
  | cons first events ih =>
    exact ih (indexed.step first.1 first.2) (live_step indexed live first.1 first.2)

/-! ### What a session does to its cache -/

/-- **What a hover can do to a session.** It leaves the session as it is, or it gives an answer and puts it
into the cache. -/
theorem hover_keeps_or_inserts (session : Session) (uri : String) (position : Position) :
    (session.hover uri position).session = session ∨
      ∃ key found, (session.hover uri position).value = some found ∧
        (session.hover uri position).session =
          { session with cache := session.cache.insert key found } := by
  unfold hover
  split
  · exact Or.inl rfl
  · rename_i key _
    split
    · exact Or.inl rfl
    · dsimp only
      split
      · rename_i found _
        exact Or.inr ⟨key, found, rfl, rfl⟩
      · exact Or.inl rfl

/-- **A message acts on the cache by operations of the cache.** -/
theorem exists_operations_step (session : Session) (disk : Disk) (event : Event) :
    ∃ operations, (session.step disk event).session.cache = session.cache.perform operations := by
  cases event with
  | introduced | stopped => exact ⟨[], rfl⟩
  | ready | configured => exact ⟨[.clear], rfl⟩
  | opened uri | changed uri | closed uri => exact ⟨[.forget uri], rfl⟩
  | hovered uri position =>
    rcases session.hover_keeps_or_inserts uri position with same | ⟨key, found, -, inserted⟩
    · exact ⟨[], congrArg cache same⟩
    · exact ⟨[.insert key found], congrArg cache inserted⟩

theorem exists_operations_run (session : Session) (events : List (Disk × Event)) :
    ∃ operations, (session.run events).cache = session.cache.perform operations := by
  induction events generalizing session with
  | nil => exact ⟨[], rfl⟩
  | cons first events ih =>
    obtain ⟨operations, step⟩ := session.exists_operations_step first.1 first.2
    obtain ⟨others, rest⟩ := ih (session.step first.1 first.2).session
    refine ⟨operations ++ others, rest.trans ?_⟩
    rw [Cache.perform_append, step]

/-! ### Hovers that change nothing -/

/-- A hover that finds nothing leaves the session as it is. -/
theorem session_hover_of_value_eq_none {session : Session} {uri : String} {position : Position}
    (missing : (session.hover uri position).value = none) :
    (session.hover uri position).session = session := by
  rcases session.hover_keeps_or_inserts uri position with same | ⟨_, _, found, -⟩
  · exact same
  · cases missing.symm.trans found

/-- A hover that is in the cache is the answer, and leaves the session as it is. -/
theorem hover_of_get? {session : Session} {uri : String} {position : Position} {key : CacheKey}
    {kept : PlacedHover} (current : session.cacheKey? uri position = some key)
    (hit : session.cache.get? key = some kept) :
    session.hover uri position = ⟨some kept, [], session⟩ := by
  simp only [hover, current, hit]

end Session

/-- **Only live hovers are kept.** After all messages, in any order: every hover in the cache is kept for a
document that is open, at its current version, and for a line of its text, and there are at most 100 of
them. A hover that finds nothing, or that is found in the cache, leaves the whole session as it is, and
every other one changes nothing but the cache. -/
theorem cache_holds_live_hovers (events : List (Disk × Event)) :
    let session := Session.run {} events
    (∀ entry ∈ session.cache.entries, session.Live entry.1) ∧ session.cache.size ≤ 100 ∧
      ∀ uri position,
        let answered := session.hover uri position
        (answered.value = none → answered.session = session) ∧
        (∀ key kept, session.cacheKey? uri position = some key →
          session.cache.get? key = some kept →
            answered.value = some kept ∧ answered.session = session) ∧
        answered.session = { session with cache := answered.session.cache } := by
  intro session
  have empty : ∀ entry ∈ (Session.cache {}).entries, Session.Live {} entry.1 :=
    fun _ member => by cases member
  obtain ⟨operations, performed⟩ := Session.exists_operations_run {} events
  have tidy : session.cache.Tidy := performed ▸ (Cache.tidy_empty hoverCapacity).perform operations
  have capacity : session.cache.capacity = 100 := performed ▸ Cache.capacity_perform _ operations
  refine ⟨Session.live_run Session.indexed_empty empty events, capacity ▸ tidy.bounded, fun uri position => ?_⟩
  refine ⟨Session.session_hover_of_value_eq_none, ?_, session.session_hover uri position⟩
  intro key kept current hit
  have answer := Session.hover_of_get? current hit
  exact ⟨congrArg Outcome.value answer, congrArg Outcome.session answer⟩

/-- A conversation without files about a template that is opened twice and gets a report without changes,
with messages about a document that is not open and an introduction between two questions. -/
def restlessConversation : List (Disk × Event) :=
  [ .introduced {}, .ready,
    .opened "file:///card.liquid" "liquid" ⟨"{{ cart }}", 1⟩,
    .hovered "file:///card.liquid" ⟨0, 4⟩,
    .opened "file:///card.liquid" "liquid" ⟨"{{ page }}\n{{ cart }}", 3⟩,
    .changed "file:///card.liquid" 4 [],
    .hovered "file:///card.liquid" ⟨1, 4⟩,
    .changed "file:///page.liquid" 9 [⟨none, "{{ page }}"⟩],
    .closed "file:///page.liquid",
    .introduced { encodings := ["utf-8"] },
    .hovered "file:///card.liquid" ⟨0, 4⟩ ].map fun event => (⟨fun _ => .missing, none, .ok "/"⟩, event)

/-- Two hovers are kept, both for the second text; one of them is asked for again, and a question on a line
that the text does not have is in vain. -/
theorem cache_holds_live_hovers_restlessConversation :
    let session := Session.run {} restlessConversation
    session.cache.size = 2 ∧ session.Live ⟨"file:///card.liquid", 3, ⟨1, 4⟩⟩ ∧
      (session.hover "file:///card.liquid" ⟨1, 4⟩).session = session ∧
      (session.hover "file:///card.liquid" ⟨2, 0⟩).session = session := by
  intro session
  obtain ⟨live, -, hovers⟩ := cache_holds_live_hovers restlessConversation
  have current : session.cacheKey? "file:///card.liquid" ⟨1, 4⟩ =
      some ⟨"file:///card.liquid", 3, ⟨1, 4⟩⟩ := by decide +kernel
  have cached : (session.cache.get? ⟨"file:///card.liquid", 3, ⟨1, 4⟩⟩).isSome = true := by
    decide +kernel
  have missing : (session.hover "file:///card.liquid" ⟨2, 0⟩).value = none := by decide +kernel
  obtain ⟨kept, hit⟩ := Option.isSome_iff_exists.mp cached
  refine ⟨by decide +kernel, live _ (Keyed.mem_of_lookup hit), ?_, ?_⟩
  · exact ((hovers _ _).2.1 _ kept current hit).2
  · exact (hovers _ _).1 missing

end LiquidHover
