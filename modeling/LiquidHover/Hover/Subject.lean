/-
**What a hover is about.** Under a cursor there may be the name of a filter, the name of a tag and the
variable of an expression. They are tried in this order, and the first one that the catalog documents
is the subject of the hover.

* `targets` — what stands under the cursor, as far as the settings ask for it.
* `documented?` — the entry of the catalog for a target.
* `subject?` — the first documented target.
* `tried` — the targets that were looked up on the way.
-/
import LiquidHover.Catalog.Lookup
import LiquidHover.Settings.Basic
import LiquidHover.Template.FilterCall
import LiquidHover.Template.TagCall
import LiquidHover.Template.Variable

namespace LiquidHover.Hover

open Template (FilterCall TagCall Variable)

/-- Something under the cursor. -/
inductive Target where
  | filter (call : FilterCall)
  | tag (call : TagCall)
  | reference (mention : Variable)
  deriving DecidableEq, Repr

/-- A target with its entry in the catalog. -/
inductive Subject where
  | filter (call : FilterCall) (entry : Catalog.Filter)
  /-- The entry is the tag of that name, or else the tag that it closes. -/
  | tag (call : TagCall) (entry : Catalog.Tag)
  /-- The property is the end of the path, when the path leads to one. -/
  | reference (mention : Variable) (object : Catalog.Object) (property : Option Catalog.Property)

/-- The characters that a subject is about. -/
def Subject.range : Subject → Span
  | .filter call _ => call.range
  | .tag call _ => call.range
  | .reference mention _ _ => mention.range

/-- The targets under a cursor, in the order in which they are tried. -/
def targets (settings : Settings) (line : List Char) (offset : Nat) : List Target :=
  if settings.enabled then
    (if settings.enableFilterHover then (FilterCall.at? line offset).toList.map .filter else [])
      ++ (if settings.enableTagHover then (TagCall.at? line offset).toList.map .tag else [])
      ++ (Variable.at? line offset).toList.map .reference
  else []

/-- The entry of the catalog for a target. -/
def documented? (catalog : Catalog) : Target → Option Subject
  | .filter call => (catalog.filter? (String.ofList call.name)).map (.filter call)
  | .tag call =>
    let name := String.ofList call.name
    ((catalog.tag? name).or (catalog.opener? name)).map (.tag call)
  | .reference mention =>
    (catalog.object? (String.ofList mention.root)).map fun object =>
      .reference mention object
        (catalog.resolve? object (mention.properties.map String.ofList))

/-- The first target under a cursor that the catalog documents. -/
def subject? (catalog : Catalog) (settings : Settings) (line : List Char) (offset : Nat) :
    Option Subject :=
  (targets settings line offset).findSome? (documented? catalog)

/-- The targets up to the first one that the catalog documents. -/
def tried (catalog : Catalog) : List Target → List Target
  | [] => []
  | target :: rest =>
    target :: if (documented? catalog target).isSome then [] else tried catalog rest

/-- How the log describes that a target at an offset is looked up. -/
def Target.message (target : Target) (offset : Nat) : String :=
  let (kind, name) := match target with
    | .filter call => ("filter", call.name)
    | .tag call => ("tag", call.name)
    | .reference mention => ("variable", mention.path)
  "Hover on " ++ kind ++ " `" ++ String.ofList name ++ "` at " ++ toString offset

end LiquidHover.Hover
