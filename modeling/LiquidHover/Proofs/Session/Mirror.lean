/-
**The store mirrors the editor.** As long as an editor keeps to the protocol, the store holds the
templates that are open in the editor and nothing else, each with the text and the version of the
latest report about it and with the places of the lines of that text.

* `Editor` — the documents that an editor holds open, and how its own reports change them.
* `Editor.admits`, `Editor.conforms` — the reports that the protocol allows, one by one and in a row.
* `Editor.Short` — the texts of an editor have less than 2^32 bytes. The reports that it may send keep them so.
* `Editor.MirroredBy` — the relation between editor and store that every message keeps.
* `Document.IsCopyOf` — text, version and lines are those of what is open in the editor.
* `store_mirrors_editor` — after every message of every such row the store is a mirror.
-/
import LiquidHover.Proofs.Session.Documents
import Mathlib.Logic.Function.Basic

namespace LiquidHover

/-! ### The editor's side -/

/-- A document that an editor holds open: the language that it was opened with, and the text and the
version of the latest report about it. -/
structure Buffer extends Edition where
  language : String

/-- The buffer after a report of changes that each carry the whole text: the last one counts. -/
def Buffer.edited (buffer : Buffer) (version : Int) (changes : List Change) : Buffer :=
  { buffer with text := (changes.map Change.text).getLastD buffer.text, version }

/-- The documents that an editor holds open, by their addresses. -/
structure Editor where
  buffers : String → Option Buffer := fun _ => none

namespace Editor

/-- The editor with another buffer at an address, or with none there. -/
def set (editor : Editor) (uri : String) (buffer : Option Buffer) : Editor :=
  ⟨Function.update editor.buffers uri buffer⟩

/-- Whether the protocol allows a message: a document is opened when it is not open, it is changed and
closed when it is, changes carry the whole text, and texts have less than 2^32 bytes. -/
def admits (editor : Editor) : Event → Bool
  | .opened uri _ edition => (editor.buffers uri).isNone && edition.text.utf8ByteSize < 2 ^ 32
  | .changed uri _ changes =>
    (editor.buffers uri).isSome && !changes.isEmpty &&
      changes.all fun change => change.range.isNone && change.text.utf8ByteSize < 2 ^ 32
  | .closed uri => (editor.buffers uri).isSome
  | .introduced _ | .ready | .configured _ | .hovered _ _ | .stopped => true

/-- The editor after a message of its own. -/
def after (editor : Editor) : Event → Editor
  | .opened uri language edition => editor.set uri (some { edition with language })
  | .changed uri version changes =>
    editor.set uri ((editor.buffers uri).map fun buffer => buffer.edited version changes)
  | .closed uri => editor.set uri none
  | .introduced _ | .ready | .configured _ | .hovered _ _ | .stopped => editor

/-- The editor after a row of messages. -/
def run (editor : Editor) (events : List (Disk × Event)) : Editor :=
  events.foldl (fun editor (_, event) => editor.after event) editor

/-- Whether the protocol allows a row of messages. -/
def conforms (editor : Editor) : List (Disk × Event) → Bool
  | [] => true
  | (_, event) :: events => editor.admits event && (editor.after event).conforms events

theorem conforms_append (editor : Editor) (events others : List (Disk × Event)) :
    editor.conforms (events ++ others) =
      (editor.conforms events && (editor.run events).conforms others) := by
  induction events generalizing editor with
  | nil => rfl
  | cons first events ih =>
    obtain ⟨disk, event⟩ := first
    rw [List.cons_append, conforms, conforms, ih, Bool.and_assoc]
    rfl

end Editor

/-! ### One message -/

/-- The document that a store keeps of a buffer. Only templates are kept. -/
def Buffer.kept? (uri : String) (buffer : Buffer) : Option Document :=
  if Store.isTemplate uri buffer.language = true then some (.ofEdition buffer.toEdition) else none

/-- A store that holds the templates of an editor and nothing else. -/
def Editor.MirroredBy (editor : Editor) (store : Store) : Prop :=
  ∀ uri, store.get? uri = (editor.buffers uri).bind (Buffer.kept? uri)

/-- All texts of an editor have less than 2^32 bytes. -/
def Editor.Short (editor : Editor) : Prop :=
  ∀ uri, ∀ buffer ∈ editor.buffers uri, buffer.text.utf8ByteSize < 2 ^ 32

/-- A report of whole texts revises what is kept of a buffer as it edits the buffer. -/
theorem Buffer.kept?_edited (uri : String) (buffer : Buffer) (version : Int) {changes : List Change}
    (reported : changes ≠ []) (whole : ∀ change ∈ changes, change.range = none) :
    (buffer.edited version changes).kept? uri =
      (buffer.kept? uri).map fun document => document.revised version changes := by
  have last := List.getLast?_eq_some_getLast reported
  have unranged := whole _ (List.getLast_mem reported)
  generalize changes.getLast reported = change at last unranged
  obtain ⟨range, text⟩ := change
  obtain rfl : range = none := unranged
  have lastText : (changes.map Change.text).getLastD buffer.text = text := by
    rw [List.getLastD_eq_getLast?, List.getLast?_map, last]
    rfl
  unfold kept? edited
  split
  · rw [Option.map_some, Document.revised, last, lastText]
    rfl
  · rfl

namespace Editor

/-- A message about another document leaves a buffer as it is. -/
theorem buffers_after_of_not_concerns {uri : String} {event : Event}
    (elsewhere : event.concerns uri = false) (editor : Editor) :
    (editor.after event).buffers uri = editor.buffers uri := by
  cases event with
  | opened other | changed other | closed other =>
    have different : other ≠ uri := beq_eq_false_iff_ne.mp elsewhere
    exact Function.update_of_ne different.symm _ _
  | introduced | ready | configured | hovered | stopped => rfl

/-- **One message keeps the texts short.** -/
theorem Short.after {editor : Editor} {event : Event} (short : editor.Short)
    (allowed : editor.admits event = true) : (editor.after event).Short := by
  intro uri buffer isOpen
  by_cases concerned : event.concerns uri = true
  · cases event with
    | opened other language edition =>
      obtain rfl : other = uri := beq_iff_eq.mp concerned
      simp only [admits, Bool.and_eq_true, decide_eq_true_eq] at allowed
      obtain rfl : { edition with language } = buffer := by simpa [Editor.after, set] using isOpen
      exact allowed.2
    | changed other version changes =>
      obtain rfl : other = uri := beq_iff_eq.mp concerned
      simp only [admits, Bool.and_eq_true, List.all_eq_true, decide_eq_true_eq] at allowed
      obtain ⟨before, held, rfl⟩ : ∃ before, editor.buffers other = some before ∧
          before.edited version changes = buffer := by simpa [Editor.after, set] using isOpen
      -- The text is that of a change, or the one before if there are no changes.
      rw [Buffer.edited, List.getLastD_eq_getLast?, List.getLast?_map]
      cases last : changes.getLast? with
      | none => exact short other before held
      | some change => exact (allowed.2 change (List.mem_of_getLast? last)).2
    | closed other =>
      obtain rfl : other = uri := beq_iff_eq.mp concerned
      simp [Editor.after, set] at isOpen
    | introduced | ready | configured | hovered | stopped => exact short uri buffer isOpen
  · rw [buffers_after_of_not_concerns (Bool.eq_false_iff.mpr concerned)] at isOpen
    exact short uri buffer isOpen

/-- **A row of messages keeps the texts short.** -/
theorem Short.run {editor : Editor} {events : List (Disk × Event)} (short : editor.Short)
    (conforming : editor.conforms events = true) : (editor.run events).Short := by
  induction events generalizing editor with
  | nil => exact short
  | cons first events ih =>
    obtain ⟨disk, event⟩ := first
    obtain ⟨allowed, conforming⟩ := Bool.and_eq_true_iff.mp conforming
    exact ih (short.after allowed) conforming

/-- **One message keeps the mirror.** -/
theorem MirroredBy.step {editor : Editor} {session : Session} {event : Event}
    (mirrored : editor.MirroredBy session.documents) (allowed : editor.admits event = true)
    (disk : Disk) : (editor.after event).MirroredBy (session.step disk event).session.documents := by
  intro uri
  rw [Session.get?_documents_step, mirrored uri]
  by_cases concerned : event.concerns uri = true
  · cases event with
    | opened other language edition =>
      obtain rfl : other = uri := beq_iff_eq.mp concerned
      -- Were a template open here, opening something else would leave it in the store.
      have closed : editor.buffers other = none :=
        Option.isNone_iff_eq_none.mp (Bool.and_eq_true_iff.mp allowed).1
      simp [Event.keptAt, after, set, closed, Buffer.kept?]
    | changed other version changes =>
      obtain rfl : other = uri := beq_iff_eq.mp concerned
      simp only [admits, Bool.and_eq_true, List.all_eq_true, Option.isNone_iff_eq_none] at allowed
      obtain ⟨⟨isOpen, reported⟩, whole⟩ := allowed
      obtain ⟨buffer, held⟩ := Option.isSome_iff_exists.mp isOpen
      have edited := buffer.kept?_edited other version (by simpa using reported) fun change member =>
        (whole change member).1
      simp [Event.keptAt, after, set, held, edited]
    | closed other =>
      obtain rfl : other = uri := beq_iff_eq.mp concerned
      simp [Event.keptAt, after, set]
    | introduced | ready | configured | hovered | stopped => rfl
  · have elsewhere := Bool.eq_false_iff.mpr concerned
    rw [Event.keptAt_of_not_concerns elsewhere, buffers_after_of_not_concerns elsewhere]

/-- **A row of messages keeps the mirror.** -/
theorem MirroredBy.run {editor : Editor} {session : Session} {events : List (Disk × Event)}
    (mirrored : editor.MirroredBy session.documents) (conforming : editor.conforms events = true) :
    (editor.run events).MirroredBy (session.run events).documents := by
  induction events generalizing editor session with
  | nil => exact mirrored
  | cons first events ih =>
    obtain ⟨disk, event⟩ := first
    obtain ⟨allowed, conforming⟩ := Bool.and_eq_true_iff.mp conforming
    exact ih (mirrored.step allowed disk) conforming

end Editor

/-! ### All messages -/

/-- A document with the text and the version of a buffer, the places of the lines of that text, and those
lines. -/
structure Document.IsCopyOf (document : Document) (buffer : Buffer) : Prop where
  text : document.text = buffer.text
  version : document.version = buffer.version
  index : document.index = .ofText buffer.text.toList
  lines : ∀ number line, document.line? number = some line ↔
    Lines.IsLine buffer.text.toList number line

/-- What is kept of a short buffer is a copy of it. -/
theorem Buffer.isCopyOf_of_kept? {uri : String} {buffer : Buffer} (short : buffer.text.utf8ByteSize < 2 ^ 32)
    {document : Document} (kept : buffer.kept? uri = some document) : document.IsCopyOf buffer := by
  unfold kept? at kept
  split at kept
  · cases kept
    have indexed := Document.indexed_ofEdition buffer.toEdition
    refine ⟨rfl, rfl, indexed, fun number line => ?_⟩
    rw [indexed.line?_eq short]
    exact Lines.line?_eq_some_iff
  · cases kept

/-- What is kept of a buffer is decided by its language and its address. -/
theorem Buffer.isSome_kept? (uri : String) (buffer : Buffer) :
    (buffer.kept? uri).isSome = true ↔
      buffer.language = "liquid" ∨ Uri.namesLiquidFile uri = true := by
  have template : Store.isTemplate uri buffer.language = true ↔
      buffer.language = "liquid" ∨ Uri.namesLiquidFile uri = true := by simp [Store.isTemplate]
  rw [← template, kept?, Option.isSome_ite]

/-- **The store mirrors the editor.** After every message of a row that keeps to the protocol, the store
holds a document at an address exactly if the editor has one open there that is a template by its
language or by its address; and it is a copy of what the editor has open. -/
theorem store_mirrors_editor (events : List (Disk × Event))
    (conforming : Editor.conforms {} events = true) (before : List (Disk × Event))
    (start : before <+: events) (uri : String) :
    let store := (Session.run {} before).documents
    let editor := Editor.run {} before
    ((store.get? uri).isSome = true ↔ ∃ buffer, editor.buffers uri = some buffer ∧
      (buffer.language = "liquid" ∨ Uri.namesLiquidFile uri = true)) ∧
    ∀ document, store.get? uri = some document →
      ∃ buffer, editor.buffers uri = some buffer ∧ document.IsCopyOf buffer := by
  intro store editor
  obtain ⟨later, rfl⟩ := start
  rw [Editor.conforms_append] at conforming
  have conforming := (Bool.and_eq_true_iff.mp conforming).1
  have empty : Editor.MirroredBy {} (Session.documents {}) := fun _ => rfl
  have mirrored : editor.MirroredBy store := empty.run conforming
  have silent : Editor.Short {} := fun _ _ absent => nomatch absent
  have short : editor.Short := silent.run conforming
  rw [mirrored uri]
  constructor
  · simp only [Option.isSome_bind, Option.any_eq_true, Buffer.isSome_kept?]
  · intro document held
    obtain ⟨buffer, isOpen, kept⟩ := Option.bind_eq_some_iff.mp held
    exact ⟨buffer, isOpen, Buffer.isCopyOf_of_kept? (short uri buffer isOpen) kept⟩

/-- A conversation without files about a template, which gets two texts in one report under an older
version, and about a script, which is changed and closed on the way. -/
def mixedConversation : List (Disk × Event) :=
  [ .introduced {}, .ready,
    .opened "file:///card.liquid" "html" ⟨"{{ cart }}", 7⟩,
    .opened "file:///card.js" "javascript" ⟨"let x", 1⟩,
    .hovered "file:///card.liquid" ⟨0, 4⟩,
    .changed "file:///card.js" 2 [⟨none, "let y"⟩],
    .changed "file:///card.liquid" 3 [⟨none, "a"⟩, ⟨none, "b\r\n{{ product }}"⟩],
    .closed "file:///card.js" ].map fun event => (⟨fun _ => .missing, none, .ok "/"⟩, event)

/-- Before the script is closed, only the template is kept, with the last text and the version of the
report. -/
theorem store_mirrors_editor_mixedConversation :
    Editor.conforms {} mixedConversation = true ∧
      (let before := mixedConversation.take 7
      ((Editor.run {} before).buffers "file:///card.js").isSome = true ∧
        (Session.run {} before).documents.size = 1 ∧
        (Session.run {} before).documents.get? "file:///card.liquid" =
          some (.ofEdition ⟨"b\r\n{{ product }}", 3⟩) ∧
        ∃ buffer, (Editor.run {} before).buffers "file:///card.liquid" = some buffer ∧
          (Document.ofEdition ⟨"b\r\n{{ product }}", 3⟩).IsCopyOf buffer) := by
  have conforming : Editor.conforms {} mixedConversation = true := by decide +kernel
  have held : (Session.run {} (mixedConversation.take 7)).documents.get? "file:///card.liquid" =
      some (.ofEdition ⟨"b\r\n{{ product }}", 3⟩) := by decide +kernel
  refine ⟨conforming, by decide +kernel, by decide +kernel, held, ?_⟩
  exact (store_mirrors_editor mixedConversation conforming _ (List.take_prefix 7 _) _).2 _ held

end LiquidHover
