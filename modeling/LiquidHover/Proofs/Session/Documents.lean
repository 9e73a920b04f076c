/-
**What a message does to one document.** A message about one address leaves the documents at all other
addresses as they are, and what it leaves at its own depends on nothing but what was there.

* `Event.concerns` — the messages about one address, and those about no document at all.
* `Document.revised` — a document after a report of changes.
* `Document.Indexed` — a document whose index is that of its text. `Session.Indexed.step`: every message keeps
  the open documents so.
* `Event.keptAt` — the document at an address after a message, from the one before.
* `Session.get?_documents_step` — a step of a session does just that, at every address.
-/
import LiquidHover.Proofs.Session.Transparency
import LiquidHover.Proofs.Text.LineIndex

namespace LiquidHover

/-- A document after a report of changes: the last of them counts, if it carries the whole text. -/
def Document.revised (document : Document) (version : Int) (changes : List Change) : Document :=
  match changes.getLast? with
  | some ⟨none, text⟩ => document.replace text version
  | _ => document

/-- The document that is kept at an address after a message, when `held` was kept there before. -/
def Event.keptAt (uri : String) (held : Option Document) : Event → Option Document
  | .opened other language edition =>
    if other = uri ∧ Store.isTemplate uri language = true then some (.ofEdition edition) else held
  | .changed other version changes =>
    if other = uri then held.map fun document => document.revised version changes else held
  | .closed other => if other = uri then none else held
  | .introduced _ | .ready | .configured _ | .hovered _ _ | .stopped => held

/-- Whether a message is about a document at an address or about no document at all. -/
def Event.concerns (uri : String) : Event → Bool
  | .opened other _ _ | .changed other _ _ | .closed other | .hovered other _ => other == uri
  | .introduced _ | .ready | .configured _ | .stopped => true

/-- A message about another document leaves a document as it is. -/
theorem Event.keptAt_of_not_concerns {uri : String} {event : Event}
    (elsewhere : event.concerns uri = false) (held : Option Document) :
    event.keptAt uri held = held := by
  cases event with
  | opened other | changed other | closed other =>
    have different : other ≠ uri := beq_eq_false_iff_ne.mp elsewhere
    simp [keptAt, different]
  | introduced | ready | configured | hovered | stopped => rfl

namespace Store

theorem get?_opened_self (store : Store) (uri language : String) (edition : Edition) :
    (store.opened uri language edition).1.get? uri =
      if isTemplate uri language = true then some (.ofEdition edition) else store.get? uri := by
  unfold opened
  split
  · rw [get?_insert, if_pos rfl]
  · rfl

theorem get?_changed_self (store : Store) (uri : String) (version : Int) (changes : List Change) :
    (store.changed uri version changes).1.get? uri =
      (store.get? uri).map fun document => document.revised version changes := by
  unfold changed
  split
  · rename_i held whole
    rw [get?_insert, if_pos rfl, held, Option.map_some, Document.revised, whole]
  · rename_i held ranged
    show store.get? uri = _
    rw [held, Option.map_some, Document.revised, ranged]
  · rename_i neither ranged
    show store.get? uri = _
    cases held : store.get? uri with
    | none => rfl
    | some document =>
      cases last : changes.getLast? with
      | none => rw [Option.map_some, Document.revised, last]
      | some change =>
        obtain ⟨range, text⟩ := change
        cases range with
        | none => exact absurd last (neither document text held)
        | some range => exact absurd last (ranged document range text held)

theorem get?_closed_self (store : Store) (uri : String) : (store.closed uri).get? uri = none := by
  rw [closed, get?_erase, if_pos rfl]

end Store

/-- **What one message does to the document at one address.** -/
theorem Session.get?_documents_step (session : Session) (disk : Disk) (event : Event)
    (uri : String) :
    (session.step disk event).session.documents.get? uri =
      event.keptAt uri (session.documents.get? uri) := by
  cases event with
  | opened other language edition =>
    show (session.documents.opened other language edition).1.get? uri = _
    by_cases same : other = uri
    · subst same
      rw [Store.get?_opened_self]
      simp [Event.keptAt]
    · rw [Store.get?_opened _ language edition (Ne.symm same)]
      simp [Event.keptAt, same]
  | changed other version changes =>
    show (session.documents.changed other version changes).1.get? uri = _
    by_cases same : other = uri
    · subst same
      rw [Store.get?_changed_self]
      simp [Event.keptAt]
    · rw [Store.get?_changed _ version changes (Ne.symm same)]
      simp [Event.keptAt, same]
  | closed other =>
    show (session.documents.closed other).get? uri = _
    by_cases same : other = uri
    · subst same
      rw [Store.get?_closed_self]
      simp [Event.keptAt]
    · rw [Store.get?_closed _ (Ne.symm same)]
      simp [Event.keptAt, same]
  | hovered other position =>
    exact congrArg (Store.get? · uri) (hover_frame session other position).1
  | introduced | ready | configured | stopped => rfl

/-! ### The places of lines -/

namespace Document

variable {document : Document}

/-- The index of a document is that of its text. -/
def Indexed (document : Document) : Prop := document.index = .ofText document.text.toList

theorem indexed_ofEdition (edition : Edition) : (ofEdition edition).Indexed := rfl

theorem indexed_replace (document : Document) (text : String) (version : Int) :
    (document.replace text version).Indexed := rfl

/-- A report of changes brings an index with the text, or it leaves both. -/
theorem Indexed.revised (indexed : document.Indexed) (version : Int) (changes : List Change) :
    (document.revised version changes).Indexed := by
  unfold Document.revised
  split
  · exact indexed_replace document _ version
  · exact indexed

/-- **The lines of a document are those of its text**, if this has less than 2^32 bytes. -/
theorem Indexed.line?_eq (indexed : document.Indexed) (short : document.text.utf8ByteSize < 2 ^ 32) (number : Nat) :
    document.line? number = Lines.line? document.text.toList number := by
  have narrow := (Encoding.utf8.widthOf_le_utf8ByteSize document.text).trans_lt short
  rw [line?, indexed, LineIndex.lineAt?_ofText narrow]

/-- A line that a document gives has the number of a line of its text. -/
theorem Indexed.exists_isLine (indexed : document.Indexed) {number : Nat} {line : List Char}
    (written : document.line? number = some line) : ∃ line, Lines.IsLine document.text.toList number line := by
  rw [line?, indexed] at written
  exact LineIndex.exists_isLine_of_lineAt? written

end Document

/-- What is kept of an indexed document is indexed, whatever the message. -/
theorem Event.indexed_keptAt {uri : String} {held : Option Document} (indexed : ∀ document ∈ held, document.Indexed)
    (event : Event) : ∀ document ∈ event.keptAt uri held, document.Indexed := by
  intro document kept
  cases event with
  | opened other language edition =>
    simp only [keptAt] at kept
    split at kept
    · cases kept
      exact Document.indexed_ofEdition edition
    · exact indexed document kept
  | changed other version changes =>
    simp only [keptAt] at kept
    split at kept
    · obtain ⟨before, held, rfl⟩ := Option.map_eq_some_iff.mp kept
      exact (indexed before held).revised version changes
    · exact indexed document kept
  | closed other =>
    simp only [keptAt] at kept
    split at kept
    · cases kept
    · exact indexed document kept
  | introduced | ready | configured | hovered | stopped => exact indexed document kept

namespace Session

variable {session : Session}

/-- Every open document is indexed. -/
def Indexed (session : Session) : Prop := ∀ uri, ∀ document ∈ session.documents.get? uri, document.Indexed

/-- Before anything is opened. -/
theorem indexed_empty : Indexed {} := by
  rintro uri document ⟨⟩

/-- **One message keeps all documents indexed.** -/
theorem Indexed.step (indexed : session.Indexed) (disk : Disk) (event : Event) :
    (session.step disk event).session.Indexed := by
  intro uri
  rw [get?_documents_step]
  exact event.indexed_keptAt (indexed uri)

end Session

end LiquidHover
