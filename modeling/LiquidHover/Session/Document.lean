/-
**Open documents.** A document is a text, the version that the editor gave it, and the places of the
lines of the text, which are found when the text arrives. The store holds the open templates by their
addresses; other documents are not kept.

* `Document.ofEdition`, `Document.replace` — a document with a text that arrives.
* `Document.line?` — a line of a document, found by its place.
* `Store.get?`, `Store.insert`, `Store.erase` — the documents by address.
* `Store.opened`, `Store.changed`, `Store.closed` — what the store does when the editor reports that a
  document was opened, changed or closed, and what it says about that.
-/
import LiquidHover.Keyed
import LiquidHover.LineIndex
import LiquidHover.Log
import LiquidHover.Position
import LiquidHover.Session.Uri

namespace LiquidHover

/-- A text and the version that the editor gave it. -/
structure Edition where
  text : String
  version : Int
  deriving DecidableEq, Repr

/-- An open document. -/
structure Document extends Edition where
  /-- The places of the lines. -/
  index : LineIndex
  deriving DecidableEq, Repr

namespace Document

/-- A document that is opened. -/
def ofEdition (edition : Edition) : Document :=
  { edition with index := .ofText edition.text.toList }

/-- A document whose text is replaced. -/
def replace (document : Document) (text : String) (version : Int) : Document :=
  { document with index := .ofText text.toList, text, version }

/-- A line of a document, counted from zero. -/
def line? (document : Document) (number : Nat) : Option (List Char) :=
  document.index.lineAt? document.text.toList number

end Document

/-- A change of a document. -/
structure Change where
  /-- The part that the text replaces; without one the text is the whole document. -/
  range : Option Range
  text : String
  deriving DecidableEq, Repr

/-- The open documents by their addresses. -/
structure Store where
  documents : List (String × Document) := []
  deriving DecidableEq, Repr

namespace Store

/-- The document at an address. -/
def get? (store : Store) (uri : String) : Option Document := store.documents.lookup uri

/-- The store without the document at an address. -/
def erase (store : Store) (uri : String) : Store := ⟨Keyed.erase uri store.documents⟩

/-- The store with a document at an address. -/
def insert (store : Store) (uri : String) (document : Document) : Store :=
  ⟨(uri, document) :: (store.erase uri).documents⟩

theorem get?_erase (store : Store) (uri other : String) :
    (store.erase uri).get? other = if other = uri then none else store.get? other :=
  Keyed.lookup_erase uri other store.documents

theorem get?_insert (store : Store) (uri other : String) (document : Document) :
    (store.insert uri document).get? other =
      if other = uri then some document else store.get? other := by
  simp only [insert, get?, erase, Keyed.lookup_cons, Keyed.lookup_erase]
  split <;> simp_all

/-- The number of documents. -/
def size (store : Store) : Nat := store.documents.length

/-- Whether a document is a template, by its language or by its address. -/
def isTemplate (uri language : String) : Bool := language == "liquid" || Uri.namesLiquidFile uri

/-- The store after a document was opened. -/
def opened (store : Store) (uri language : String) (edition : Edition) :
    Store × List LogEntry :=
  if isTemplate uri language then
    (store.insert uri (.ofEdition edition), [.debug ("Opening document: " ++ uri)])
  else (store, [.debug ("Ignoring " ++ language ++ " document: " ++ uri)])

/-- The store after a document was changed. The last change counts, and only if it carries the whole
document. -/
def changed (store : Store) (uri : String) (version : Int) (changes : List Change) :
    Store × List LogEntry :=
  match store.get? uri, changes.getLast? with
  | some document, some ⟨none, text⟩ => (store.insert uri (document.replace text version), [])
  | some _, some ⟨some _, _⟩ =>
    (store,
      [.warning ("Ignoring ranged change for " ++ uri ++ "; the server expects full sync")])
  | _, _ => (store, [])

/-- The store after a document was closed. -/
def closed (store : Store) (uri : String) : Store := store.erase uri

end Store

end LiquidHover
