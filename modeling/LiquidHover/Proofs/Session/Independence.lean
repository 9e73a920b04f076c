/-
**Documents do not interfere.** What an editor is told about one document does not depend on what it
does with others: leaving out all messages about other documents changes no answer that remains, although
all documents share one bounded cache.

* `Session.transcript` — a row of messages with the answers to them.
* `Session.AlikeAt` — two sessions that differ in their caches and in other documents at most. It is kept
  by a message to both (`AlikeAt.step`) and by a message about another document to one of them
  (`alikeAt_step_of_not_concerns`).
* `transcript_filter_concerns` — leaving messages out and answering them can be exchanged.
-/
import LiquidHover.Proofs.Session.Documents
import Mathlib.Data.List.Induction

namespace LiquidHover

namespace Session

/-- A row of messages, each with the answer to it. -/
def transcript (session : Session) : List (Disk × Event) → List ((Disk × Event) × Answer)
  | [] => []
  | (disk, event) :: events =>
    ((disk, event), (session.step disk event).value) ::
      (session.step disk event).session.transcript events

theorem transcript_append_singleton (session : Session) (events : List (Disk × Event))
    (last : Disk × Event) :
    session.transcript (events ++ [last]) =
      session.transcript events ++ [(last, ((session.run events).step last.1 last.2).value)] := by
  induction events generalizing session with
  | nil => rfl
  | cons first events ih =>
    rw [List.cons_append, transcript, transcript, ih]
    rfl

/-! ### Sessions that are alike at an address -/

/-- Two sessions with the same document at an address, the same settings and the same agreements with
the editor. Their caches and their other documents may differ. -/
structure AlikeAt (uri : String) (first second : Session) : Prop where
  document : first.documents.get? uri = second.documents.get? uri
  settings : first.settings = second.settings
  root : first.root = second.root
  overrides : first.overrides = second.overrides
  encoding : first.encoding = second.encoding

namespace AlikeAt

variable {uri : String} {first second third : Session}

theorem refl (uri : String) (session : Session) : AlikeAt uri session session :=
  ⟨rfl, rfl, rfl, rfl, rfl⟩

theorem symm (alike : AlikeAt uri first second) : AlikeAt uri second first :=
  ⟨alike.document.symm, alike.settings.symm, alike.root.symm, alike.overrides.symm,
    alike.encoding.symm⟩

theorem trans (left : AlikeAt uri first second) (right : AlikeAt uri second third) :
    AlikeAt uri first third where
  document := left.document.trans right.document
  settings := left.settings.trans right.settings
  root := left.root.trans right.root
  overrides := left.overrides.trans right.overrides
  encoding := left.encoding.trans right.encoding

theorem currentSettings (alike : AlikeAt uri first second) (disk : Disk) :
    first.currentSettings disk = second.currentSettings disk := by
  unfold Session.currentSettings
  rw [alike.root, alike.overrides]

/-- Sessions that are alike read the same settings from the same files. -/
theorem reload (alike : AlikeAt uri first second) (disk : Disk) :
    AlikeAt uri (first.reload disk).session (second.reload disk).session where
  document := alike.document
  settings := by
    unfold Session.reload
    rw [alike.currentSettings disk]
  root := alike.root
  overrides := alike.overrides
  encoding := alike.encoding

end AlikeAt

theorem alikeAt_hover (uri other : String) (session : Session) (position : Position) :
    AlikeAt uri (session.hover other position).session session := by
  rw [session_hover]
  exact ⟨rfl, rfl, rfl, rfl, rfl⟩

/-! ### One message -/

/-- **A message to both keeps sessions alike**, whatever it is about. -/
theorem AlikeAt.step {uri : String} {first second : Session} (alike : AlikeAt uri first second)
    (disk : Disk) (event : Event) :
    AlikeAt uri (first.step disk event).session (second.step disk event).session := by
  have document : (first.step disk event).session.documents.get? uri =
      (second.step disk event).session.documents.get? uri := by
    rw [get?_documents_step, get?_documents_step, alike.document]
  cases event with
  | introduced introduction => exact ⟨document, alike.settings, rfl, rfl, rfl⟩
  | ready => exact alike.reload disk
  | configured settings =>
    have told : AlikeAt uri (first.setOverrides (sectionOf? settings))
        (second.setOverrides (sectionOf? settings)) :=
      ⟨alike.document, alike.settings, alike.root, rfl, alike.encoding⟩
    exact told.reload disk
  | hovered other position =>
    exact (alikeAt_hover uri other first position).trans
      (alike.trans (alikeAt_hover uri other second position).symm)
  | opened | changed | closed | stopped =>
    exact ⟨document, alike.settings, alike.root, alike.overrides, alike.encoding⟩

/-- **A message about another document leaves a session alike.** -/
theorem alikeAt_step_of_not_concerns {uri : String} {event : Event}
    (elsewhere : event.concerns uri = false) (session : Session) (disk : Disk) :
    AlikeAt uri (session.step disk event).session session := by
  have document : (session.step disk event).session.documents.get? uri =
      session.documents.get? uri := by
    rw [get?_documents_step, Event.keptAt_of_not_concerns elsewhere]
  cases event with
  | opened | changed | closed => exact ⟨document, rfl, rfl, rfl, rfl⟩
  | hovered other position => exact alikeAt_hover uri other session position
  | introduced | ready | configured | stopped => cases elsewhere

/-- **Sessions that are alike give the same answers** about the address, if their caches are
faithful. -/
theorem AlikeAt.value_step {uri : String} {first second : Session} (alike : AlikeAt uri first second)
    (faithful : first.Faithful) (faithful' : second.Faithful) (disk : Disk) {event : Event}
    (concerned : event.concerns uri = true) :
    (first.step disk event).value = (second.step disk event).value := by
  cases event with
  | hovered other position =>
    obtain rfl : other = uri := beq_iff_eq.mp concerned
    show Answer.hover (first.hover other position).value =
      Answer.hover (second.hover other position).value
    rw [value_hover_of_faithful faithful, value_hover_of_faithful faithful',
      computed?_congr alike.document alike.settings alike.encoding]
  | ready =>
    show Answer.notice (rootNotice (first.reload disk).session.root) =
      Answer.notice (rootNotice (second.reload disk).session.root)
    rw [(alike.reload disk).root]
  | introduced | opened | changed | closed | configured | stopped => rfl

/-! ### All messages -/

/-- Leaving out the messages about other documents leaves sessions alike. -/
theorem AlikeAt.run_filter {uri : String} {first second : Session}
    (alike : AlikeAt uri first second) (events : List (Disk × Event)) :
    AlikeAt uri (first.run events) (second.run (events.filter (·.2.concerns uri))) := by
  induction events generalizing first second with
  | nil => exact alike
  | cons head events ih =>
    obtain ⟨disk, event⟩ := head
    by_cases concerned : event.concerns uri = true
    · rw [List.filter_cons, if_pos concerned]
      exact ih (alike.step disk event)
    · rw [List.filter_cons, if_neg concerned]
      have elsewhere := Bool.eq_false_iff.mpr concerned
      exact ih ((alikeAt_step_of_not_concerns elsewhere first disk).trans alike)

end Session

/-- **Documents do not interfere.** In a conversation in which no introduction follows a hover, all
messages about other documents than one can be left out: the messages that remain are answered as they
were in the whole conversation, with the same files at the same messages. -/
theorem transcript_filter_concerns (events : List (Disk × Event)) (ordered : IntroducedFirst events)
    (uri : String) :
    Session.transcript {} (events.filter (·.2.concerns uri)) =
      (Session.transcript {} events).filter (·.1.2.concerns uri) := by
  -- From the last message on: all before it have left two sessions that are alike.
  induction events using List.reverseRecOn with
  | nil => rfl
  | append_singleton events last ih =>
    have ordered' : IntroducedFirst events := (List.pairwise_append.mp ordered).1
    have fewer : IntroducedFirst (events.filter (·.2.concerns uri)) := ordered'.filter _
    have alike := (Session.AlikeAt.refl uri {}).run_filter events
    rw [Session.transcript_append_singleton, List.filter_append, List.filter_append, ← ih ordered']
    by_cases concerned : last.2.concerns uri = true
    · have answer := alike.value_step (Session.faithful_of_introducedFirst ordered')
        (Session.faithful_of_introducedFirst fewer) last.1 concerned
      rw [List.filter_cons, List.filter_cons, if_pos concerned, if_pos concerned, List.filter_nil,
        List.filter_nil, Session.transcript_append_singleton, answer]
    · rw [List.filter_cons, List.filter_cons, if_neg concerned, if_neg concerned, List.filter_nil,
        List.filter_nil, List.append_nil, List.append_nil]

/-- A conversation without files in which two templates take turns. -/
def twoTemplates : List (Disk × Event) :=
  [ .introduced {}, .ready,
    .opened "file:///card.liquid" "liquid" ⟨"{{ product.title | upcase }}", 1⟩,
    .opened "file:///page.liquid" "liquid" ⟨"{% if cart %}", 1⟩,
    .hovered "file:///card.liquid" ⟨0, 20⟩,
    .hovered "file:///page.liquid" ⟨0, 4⟩,
    .changed "file:///page.liquid" 2 [⟨none, "{{ page }}"⟩],
    .hovered "file:///page.liquid" ⟨0, 4⟩,
    .hovered "file:///card.liquid" ⟨0, 20⟩ ].map fun event => (⟨fun _ => .missing, none, .ok "/"⟩, event)

/-- The second template fills the cache, and the messages about the first are answered as without
it. -/
theorem transcript_filter_concerns_twoTemplates :
    IntroducedFirst twoTemplates ∧
      (Session.run {} twoTemplates).cache.size = 2 ∧
      (Session.run {} (twoTemplates.filter (·.2.concerns "file:///card.liquid"))).cache.size = 1 ∧
      Session.transcript {} (twoTemplates.filter (·.2.concerns "file:///card.liquid")) =
        (Session.transcript {} twoTemplates).filter (·.1.2.concerns "file:///card.liquid") :=
  ⟨by decide, by decide +kernel, by decide +kernel,
    transcript_filter_concerns twoTemplates (by decide) "file:///card.liquid"⟩

end LiquidHover
