/-
**The cache cannot be seen.** A hover that comes from the cache is the hover that would be computed
at that moment, from the documents, the settings and the encoding as they are.

* `Session.Accurate` — an entry of the cache that says what would be computed now.
* `Session.Carried` — what one message leaves of an entry: the entry, and all that it was computed
  from.
* `Session.Faithful` — the invariant: every entry of the cache is accurate.
* `IntroducedFirst` — the editor does not introduce itself again once it has asked for hovers. The
  encoding is not part of a cache key, so this is what the invariant rests on.

The step lemma is `Session.carried_or_accurate`: an entry that a message leaves in the cache was
either there before and is carried over, or was just computed. `Session.faithful_step` and
`Session.faithful_run` follow from it.
-/
import LiquidHover.Session.Event

namespace LiquidHover

/-! ### The order of messages -/

/-- Whether a message asks for a hover. -/
def Event.asksHover : Event → Bool
  | .hovered _ _ => true
  | _ => false

/-- Whether a message is an introduction. -/
def Event.introduces : Event → Bool
  | .introduced _ => true
  | _ => false

/-- No introduction comes after a question for a hover. -/
def IntroducedFirst (events : List (Disk × Event)) : Prop :=
  events.Pairwise fun earlier later =>
    earlier.2.asksHover = true → later.2.introduces = false

instance (events : List (Disk × Event)) : Decidable (IntroducedFirst events) :=
  inferInstanceAs (Decidable (List.Pairwise _ _))

/-! ### Entries and documents -/

/-- An insertion adds one entry and no other. -/
theorem Cache.mem_of_mem_insert {cache : Cache} {key : CacheKey} {hover : PlacedHover}
    {entry : CacheKey × PlacedHover} (member : entry ∈ (cache.insert key hover).entries) :
    entry = (key, hover) ∨ entry ∈ cache.entries := by
  have kept := List.mem_of_mem_take member
  rcases List.mem_cons.mp kept with new | old
  · exact Or.inl new
  · exact Or.inr ((List.mem_filter.mp old).1)

theorem Cache.mem_of_mem_forget {cache : Cache} {uri : String} {entry : CacheKey × PlacedHover}
    (member : entry ∈ (cache.forget uri).entries) : entry ∈ cache.entries ∧ entry.1.uri ≠ uri := by
  have both := List.mem_filter.mp member
  exact ⟨both.1, of_decide_eq_true both.2⟩

/-- Opening a document leaves all others as they are. -/
theorem Store.get?_opened (store : Store) {uri other : String} (language : String) (edition : Edition)
    (different : other ≠ uri) :
    (store.opened uri language edition).1.get? other = store.get? other := by
  unfold opened
  split
  · rw [get?_insert, if_neg different]
  · rfl

/-- Changing a document leaves all others as they are. -/
theorem Store.get?_changed (store : Store) {uri other : String} (version : Int) (changes : List Change)
    (different : other ≠ uri) :
    (store.changed uri version changes).1.get? other = store.get? other := by
  unfold changed
  split
  · rw [get?_insert, if_neg different]
  · rfl
  · rfl

/-- Closing a document leaves all others as they are. -/
theorem Store.get?_closed (store : Store) {uri other : String} (different : other ≠ uri) :
    (store.closed uri).get? other = store.get? other := by
  rw [closed, get?_erase, if_neg different]

namespace Session

/-! ### Hovers that are computed -/

/-- **A computed hover depends on one document, the settings and the encoding.** -/
theorem computed?_congr {first second : Session} {uri : String}
    (document : first.documents.get? uri = second.documents.get? uri)
    (settings : first.settings = second.settings)
    (encoding : first.encoding = second.encoding) (position : Position) :
    first.computed? uri position = second.computed? uri position := by
  simp only [computed?, locate?, document, settings, encoding]

theorem cacheKey?_congr {first second : Session} {uri : String}
    (document : first.documents.get? uri = second.documents.get? uri) (position : Position) :
    first.cacheKey? uri position = second.cacheKey? uri position := by
  simp only [cacheKey?, document]

/-- Without a document there is nothing to compute a hover from. -/
theorem computed?_eq_none_of_cacheKey? {session : Session} {uri : String} {position : Position}
    (untracked : session.cacheKey? uri position = none) :
    session.computed? uri position = none := by
  have missing : session.documents.get? uri = none := Option.map_eq_none_iff.mp untracked
  simp [computed?, locate?, missing]

/-- A key is made from the address and the position of the question. -/
theorem cacheKey?_eq_some {session : Session} {uri : String} {position : Position}
    {key : CacheKey} (found : session.cacheKey? uri position = some key) :
    key.uri = uri ∧ key.position = position := by
  obtain ⟨document, _, rfl⟩ := Option.map_eq_some_iff.mp found
  exact ⟨rfl, rfl⟩

/-! ### Accurate entries -/

/-- An entry of the cache that belongs to an open document at its current version, and that says what
would be computed now. -/
structure Accurate (session : Session) (entry : CacheKey × PlacedHover) : Prop where
  current : session.cacheKey? entry.1.uri entry.1.position = some entry.1
  computed : session.computed? entry.1.uri entry.1.position = some entry.2

/-- An entry that was in the cache before, and nothing that it was computed from has changed since,
the encoding apart. -/
structure Carried (before after : Session) (entry : CacheKey × PlacedHover) : Prop where
  member : entry ∈ before.cache.entries
  document : after.documents.get? entry.1.uri = before.documents.get? entry.1.uri
  settings : after.settings = before.settings

theorem Accurate.congr {before after : Session} {entry : CacheKey × PlacedHover}
    (accurate : before.Accurate entry)
    (document : after.documents.get? entry.1.uri = before.documents.get? entry.1.uri)
    (settings : after.settings = before.settings)
    (encoding : after.encoding = before.encoding) : after.Accurate entry where
  current := (cacheKey?_congr document _).trans accurate.current
  computed := (computed?_congr document settings encoding _).trans accurate.computed

/-- **An accurate entry that is carried over under the same encoding stays accurate.** -/
theorem Accurate.carry {before after : Session} {entry : CacheKey × PlacedHover}
    (accurate : before.Accurate entry) (carried : Carried before after entry)
    (encoding : after.encoding = before.encoding) : after.Accurate entry :=
  accurate.congr carried.document carried.settings encoding

/-- A message about one document forgets its entries and carries all others over. -/
theorem carried_forget {session : Session} {uri : String} {documents : Store}
    (others : ∀ other, other ≠ uri → documents.get? other = session.documents.get? other)
    {entry : CacheKey × PlacedHover}
    (member : entry ∈ ({ session.forget uri with documents } : Session).cache.entries) :
    Carried session { session.forget uri with documents } entry := by
  obtain ⟨kept, different⟩ := Cache.mem_of_mem_forget member
  exact ⟨kept, others _ different, rfl⟩

/-- Reading the settings again leaves no entry. -/
theorem entries_reload (session : Session) (disk : Disk) :
    (session.reload disk).session.cache.entries = [] := rfl

/-! ### Hovers -/

/-- **A hover changes nothing but the cache.** -/
theorem session_hover (session : Session) (uri : String) (position : Position) :
    (session.hover uri position).session =
      { session with cache := (session.hover uri position).session.cache } := by
  unfold hover
  split
  · rfl
  · split
    · rfl
    · dsimp only
      split <;> rfl

theorem hover_frame (session : Session) (uri : String) (position : Position) :
    (session.hover uri position).session.documents = session.documents ∧
      (session.hover uri position).session.settings = session.settings ∧
      (session.hover uri position).session.encoding = session.encoding := by
  rw [session_hover]
  exact ⟨rfl, rfl, rfl⟩

/-- An entry in the cache after a hover was there before, or was just computed as its answer. -/
theorem mem_entries_hover {session : Session} {uri : String} {position : Position}
    {entry : CacheKey × PlacedHover}
    (member : entry ∈ (session.hover uri position).session.cache.entries) :
    entry ∈ session.cache.entries ∨
      session.Accurate entry ∧ uri = entry.1.uri ∧ position = entry.1.position := by
  unfold hover at member
  split at member
  · exact Or.inl member
  · rename_i key current
    split at member
    · exact Or.inl member
    · dsimp only at member
      split at member
      · rename_i found computed
        rcases Cache.mem_of_mem_insert member with new | old
        · obtain ⟨sameUri, samePosition⟩ := cacheKey?_eq_some current
          subst new sameUri samePosition
          exact Or.inr ⟨⟨current, computed⟩, rfl, rfl⟩
        · exact Or.inl old
      · exact Or.inl member

/-! ### One message -/

/-- **What one message can do to the cache.** An entry that is there afterwards is carried over from
before, or the message asked for it, and it was accurate then. -/
theorem carried_or_accurate {session : Session} {disk : Disk} {event : Event}
    {entry : CacheKey × PlacedHover}
    (member : entry ∈ (session.step disk event).session.cache.entries) :
    Carried session (session.step disk event).session entry ∨
      session.Accurate entry ∧ event = .hovered entry.1.uri entry.1.position := by
  cases event with
  | introduced introduction => exact Or.inl ⟨member, rfl, rfl⟩
  | ready => exact absurd member (by simp [step, entries_reload])
  | opened uri language edition =>
    exact Or.inl (carried_forget (fun _ => Store.get?_opened _ language edition) member)
  | changed uri version changes =>
    exact Or.inl (carried_forget (fun _ => Store.get?_changed _ version changes) member)
  | closed uri => exact Or.inl (carried_forget (fun _ => Store.get?_closed _) member)
  | configured settings => exact absurd member (by simp [step, entries_reload])
  | hovered uri position =>
    obtain ⟨documents, settings, _⟩ := hover_frame session uri position
    rcases mem_entries_hover member with old | ⟨new, sameUri, samePosition⟩
    · exact Or.inl ⟨old, congrArg (Store.get? · _) documents, settings⟩
    · exact Or.inr ⟨new, by rw [sameUri, samePosition]⟩
  | stopped => exact Or.inl ⟨member, rfl, rfl⟩

/-- Only an introduction sets the encoding. -/
theorem encoding_step (session : Session) (disk : Disk) {event : Event}
    (settled : event.introduces = false) :
    (session.step disk event).session.encoding = session.encoding := by
  cases event with
  | introduced introduction => simp [Event.introduces] at settled
  | hovered uri position => exact (hover_frame session uri position).2.2
  | ready | opened | changed | closed | configured | stopped => rfl

/-- Only a hover puts something into an empty cache. -/
theorem entries_step_eq_nil {session : Session} (disk : Disk) {event : Event}
    (empty : session.cache.entries = []) (silent : event.asksHover = false) :
    (session.step disk event).session.cache.entries = [] := by
  rw [List.eq_nil_iff_forall_not_mem]
  intro entry member
  rcases carried_or_accurate member with carried | ⟨_, asked⟩
  · exact absurd carried.member (by simp [empty])
  · subst asked
    cases silent

/-! ### Every entry is accurate -/

/-- **The invariant.** Every entry of the cache says what would be computed now. -/
def Faithful (session : Session) : Prop :=
  ∀ entry ∈ session.cache.entries, session.Accurate entry

/-- **One message keeps the cache faithful**, unless it is an introduction to a session that has
answered hovers. -/
theorem faithful_step {session : Session} (disk : Disk) {event : Event}
    (faithful : session.Faithful)
    (settled : event.introduces = false ∨ session.cache.entries = []) :
    (session.step disk event).session.Faithful := by
  intro entry member
  rcases carried_or_accurate member with carried | ⟨accurate, asked⟩
  · have encoding : (session.step disk event).session.encoding = session.encoding := by
      rcases settled with settled | empty
      · exact encoding_step session disk settled
      · exact absurd carried.member (by simp [empty])
    exact (faithful entry carried.member).carry carried encoding
  · -- Only a hover computes an entry, and it touches nothing that the entry was computed from.
    subst asked
    obtain ⟨documents, settings, encoding⟩ := hover_frame session entry.1.uri entry.1.position
    exact accurate.congr (congrArg (Store.get? · entry.1.uri) documents) settings encoding

/-- **A run keeps the cache faithful** when no introduction comes after a hover, those before the run
included. -/
theorem faithful_run {session : Session} {events : List (Disk × Event)}
    (faithful : session.Faithful) (ordered : IntroducedFirst events)
    (settled : session.cache.entries = [] ∨ ∀ event ∈ events, event.2.introduces = false) :
    (session.run events).Faithful := by
  induction events generalizing session with
  | nil => exact faithful
  | cons first events ih =>
    obtain ⟨disk, event⟩ := first
    obtain ⟨quietAfter, ordered⟩ := List.pairwise_cons.mp ordered
    refine ih (faithful_step disk faithful ?_) ordered ?_
    · exact settled.symm.imp_left fun all => all _ List.mem_cons_self
    · -- Once a hover was asked no introduction follows; until then the cache stays empty.
      by_cases asked : event.asksHover = true
      · exact Or.inr fun later member => quietAfter later member asked
      · exact settled.imp (entries_step_eq_nil disk · (Bool.eq_false_iff.mpr asked))
          fun all later member => all later (List.mem_cons_of_mem _ member)

/-- An empty cache says nothing wrong. -/
theorem faithful_of_empty {session : Session} (empty : session.cache.entries = []) :
    session.Faithful := by
  intro entry member
  rw [empty] at member
  cases member

/-- A conversation in which no introduction follows a hover has a faithful cache. -/
theorem faithful_of_introducedFirst {events : List (Disk × Event)}
    (ordered : IntroducedFirst events) : (run {} events).Faithful :=
  faithful_run (faithful_of_empty rfl) ordered (Or.inl rfl)

/-- The answer to a question is the entry of the cache for it, or else what is computed. -/
theorem value_hover (session : Session) (uri : String) (position : Position) :
    (∃ entry ∈ session.cache.entries, entry.1.uri = uri ∧ entry.1.position = position ∧
      (session.hover uri position).value = some entry.2) ∨
    (session.hover uri position).value = session.computed? uri position := by
  unfold hover
  split
  · rename_i untracked
    exact Or.inr (computed?_eq_none_of_cacheKey? untracked).symm
  · rename_i key current
    split
    · rename_i kept hit
      obtain ⟨sameUri, samePosition⟩ := cacheKey?_eq_some current
      exact Or.inl ⟨(key, kept), Keyed.mem_of_lookup hit, sameUri, samePosition, rfl⟩
    · dsimp only
      split
      · rename_i computed
        exact Or.inr computed.symm
      · rename_i computed
        exact Or.inr computed.symm

/-- **A faithful cache cannot be seen.** -/
theorem value_hover_of_faithful {session : Session} (faithful : session.Faithful) (uri : String)
    (position : Position) :
    (session.hover uri position).value = session.computed? uri position := by
  rcases value_hover session uri position with ⟨entry, member, sameUri, samePosition, kept⟩ | computed
  · have accurate := faithful entry member
    rw [kept, ← sameUri, ← samePosition]
    exact accurate.computed.symm
  · exact computed

end Session

/-- **The cache cannot be seen.** After any messages in which no introduction follows a hover, a
hover is answered with what the open document, its line, the offset of the column, the settings and
the catalog give at that moment, and with nothing as soon as one of them gives nothing. -/
theorem hover_answer_eq_computed (events : List (Disk × Event)) (ordered : IntroducedFirst events)
    (disk : Disk) (uri : String) (position : Position) :
    let session := Session.run {} events
    (session.step disk (.hovered uri position)).value = .hover (do
      let document ← session.documents.get? uri
      let line ← document.line? position.line
      let offset ← session.encoding.offsetOf? line position.column
      let hover ← Hover.at? Catalog.shopify session.settings line offset
      return hover.place line position.line session.encoding) := by
  intro session
  have start : Session.Faithful {} := fun _ member => by cases member
  have faithful : session.Faithful := Session.faithful_run start ordered (Or.inl rfl)
  have answer := Session.value_hover_of_faithful faithful uri position
  show Answer.hover (session.hover uri position).value = _
  rw [answer]
  simp [Session.computed?, Session.locate?, Option.bind_assoc]

/-- A conversation without files in which a document is asked about, gets another text under the same
version, and is asked about again. -/
def reusedVersion : List (Disk × Event) :=
  [ .introduced {}, .ready,
    .opened "file:///card.liquid" "liquid" ⟨"{{ product.title | upcase }}", 1⟩,
    .hovered "file:///card.liquid" ⟨0, 5⟩,
    .changed "file:///card.liquid" 1 [⟨none, "{{ cart }}"⟩],
    .hovered "file:///card.liquid" ⟨0, 5⟩ ].map fun event => (⟨fun _ => .missing, none, .ok "/"⟩, event)

/-- The cache holds a hover under the version that both texts had, and the answer is the one for the
second text. -/
theorem hover_answer_eq_computed_reusedVersion :
    IntroducedFirst reusedVersion ∧
      (Session.run {} reusedVersion).cache.size = 1 ∧
      let session := Session.run {} reusedVersion
      (session.step ⟨fun _ => .missing, none, .ok "/"⟩
          (.hovered "file:///card.liquid" ⟨0, 5⟩)).value = .hover (do
        let document ← session.documents.get? "file:///card.liquid"
        let line ← document.line? 0
        let offset ← session.encoding.offsetOf? line 5
        let hover ← Hover.at? Catalog.shopify session.settings line offset
        return hover.place line 0 session.encoding) :=
  ⟨by decide, by decide +kernel,
    hover_answer_eq_computed reusedVersion (by decide) ⟨fun _ => .missing, none, .ok "/"⟩
      "file:///card.liquid" ⟨0, 5⟩⟩

end LiquidHover
