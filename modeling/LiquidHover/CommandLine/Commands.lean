/-
**Commands.** What the commands print. A command succeeds with a text for the standard output or fails
with one for the error output; a quiet run prints neither.

* `hoverCommand` — the hover for a place in a file.
* `listCommand` — the names in a table, by category.
* `run?` — a command, with the exit code of the program.
-/
import LiquidHover.Catalog.Shopify
import LiquidHover.CommandLine.Arguments
import LiquidHover.Hover.Answer
import LiquidHover.LineIndex
import LiquidHover.Settings.Load
import LiquidHover.Text.Blank

namespace LiquidHover.CommandLine

/-- What a run of the program leaves behind. -/
structure Report where
  code : Nat
  stdout : String := ""
  stderr : String := ""
  deriving DecidableEq, Repr

/-- Why a command fails. -/
inductive Failure where
  | noWorkingDirectory (cause : String)
  | unreadableSettings (error : Settings.Error)
  | unloadableSettings (error : Settings.Error)
  | unreadableFile (path cause : String)
  | lineTooLarge (location : String) (count : Nat)
  | columnTooLarge (location : String) (count : Nat)
  | noHover (location : String)
  | noCategories
  | unknownCategory (name : String) (titles : List String)
  deriving DecidableEq, Repr

/-- The text of a failure. -/
def Failure.message : Failure → String
  | .noWorkingDirectory cause => "error: " ++ cause
  | .unreadableSettings error => "error: Invalid --settings: " ++ error.message
  | .unloadableSettings error => "error: Failed to load settings: " ++ error.message
  | .unreadableFile path cause => "error: Failed to read " ++ path ++ ": " ++ cause
  | .lineTooLarge location count =>
    location ++ ": line is past the end of the file (" ++ toString count ++ " lines)"
  | .columnTooLarge location count =>
    location ++ ": column is past the end of the line (" ++ toString count ++ " characters)"
  | .noHover location => "No hover information at " ++ location
  | .noCategories => "Objects have no categories"
  | .unknownCategory name titles =>
    "Unknown category `" ++ name ++ "`; expected one of: " ++ ", ".intercalate titles

/-! ### Hovers -/

/-- The text of a file. -/
def readText (disk : Disk) (path : String) : Except Failure (List Char) :=
  match disk.read path with
  | .content bytes =>
    match Text.decode? bytes with
    | some text => .ok text
    | none => .error (.unreadableFile path "stream did not contain valid UTF-8")
  | .missing => .error (.unreadableFile path "No such file or directory (os error 2)")
  | .notDirectory => .error (.unreadableFile path "Not a directory (os error 20)")
  | .directory => .error (.unreadableFile path "Is a directory (os error 21)")

/-- The hover for a place in a text. The line is counted from one, the column in characters from
zero. -/
def hoverIn (settings : Settings) (text : List Char) (location : String) (line column : Nat) :
    Except Failure Hover :=
  let index := LineIndex.ofText text
  match index.lineAt? text (line - 1) with
  | none => .error (.lineTooLarge location index.count)
  | some content =>
    match Encoding.utf32.offsetOf? content column with
    | none => .error (.columnTooLarge location content.length)
    | some offset =>
      match Hover.at? Catalog.shopify settings content offset with
      | none => .error (.noHover location)
      | some hover => .ok hover

/-- The hover for a place in a file of the project in the working directory. -/
def hoverCommand (disk : Disk) (file : String) (line column : Nat) (overrides : Option String) :
    Except Failure Hover := do
  let directory ← disk.workingDirectory.mapError .noWorkingDirectory
  let overrides ← match overrides with
    | none => .ok none
    | some text => ((Settings.parseOverrides text).map some).mapError .unreadableSettings
  let settings ← (Settings.load disk directory overrides).mapError .unloadableSettings
  let text ← readText disk (Files.joinPath directory file)
  hoverIn settings text (file ++ ":" ++ toString line ++ ":" ++ toString column) line column

/-! ### Listings -/

/-- Whether two texts are equal up to capital and small letters. -/
def sameLetters (a b : String) : Bool :=
  a.toList.map Char.toLower == b.toList.map Char.toLower

/-- All categories, or the one with a title. -/
def selectCategories {α : Type} (all : List α) (title : α → String) :
    Option String → Except Failure (List α)
  | none => .ok all
  | some name =>
    match all.find? fun category => sameLetters (title category) name with
    | some category => .ok [category]
    | none => .error (.unknownCategory name (all.map title))

/-- A line of a listing. -/
def listLine (name note : String) : String := name ++ "\t" ++ note ++ "\n"

/-- The lines of a table, by category. -/
def listLines (catalog : Catalog) (table : Table) (category : Option String) :
    Except Failure (List String) :=
  match table with
  | .objects =>
    match category with
    | some _ => .error .noCategories
    | none => .ok (catalog.objects.map fun object => listLine object.name object.typeName)
  | .filters => do
    let categories ← selectCategories Catalog.FilterCategory.all (·.title) category
    return categories.flatMap fun category =>
      (catalog.filtersIn category).map fun filter => listLine filter.name category.title
  | .tags => do
    let categories ← selectCategories Catalog.TagCategory.all (·.title) category
    return categories.flatMap fun category =>
      (catalog.tagsIn category).map fun tag => listLine tag.name category.title

/-- The names in a table, one on a line. -/
def listCommand (table : Table) (category : Option String) : Except Failure String := do
  let lines ← listLines Catalog.shopify table category
  return String.ofList (Text.trimEnd (String.join lines).toList)

/-! ### Runs -/

/-- What the program leaves behind after a command. -/
def report (flags : Flags) (notes : String) : Except Failure String → Report
  | .ok text =>
    { code := 0
      stdout := if flags.quiet then "" else text ++ "\n"
      stderr := if flags.quiet then "" else notes }
  | .error failure =>
    { code := 1, stderr := if flags.quiet then "" else failure.message ++ "\n" }

/-- What a verbose run tells about a hover: its line and its characters. -/
def hoverNotes (flags : Flags) (line : Nat) (hover : Hover) : String :=
  if flags.verbose = 0 then ""
  else
    toString line ++ ":" ++ toString hover.range.start ++ "-" ++ toString hover.range.stop ++ "\n"

/-- The run of a command; none for the command that serves an editor. -/
def run? (disk : Disk) (invocation : Invocation) : Option Report :=
  match invocation.command with
  | .serve => none
  | .hover file line column overrides =>
    let outcome := hoverCommand disk file line column overrides
    let notes := match outcome with
      | .ok hover => hoverNotes invocation.flags line hover
      | .error _ => ""
    some (report invocation.flags notes (outcome.map (·.markdown)))
  | .list table category => some (report invocation.flags "" (listCommand table category))

/-- The name and version of the program. -/
def versionLine : String := "lqls 0.1.0\n"

/-- How the program is called. -/
def usageText : String :=
  "Usage: lqls [-q | -v...] <COMMAND>\n\nCommands:\n  serve\n" ++
    "  hover FILE LINE COLUMN [--settings JSON]\n" ++
    "  list objects|filters|tags [--category NAME]\n"

/-- What the program leaves behind when no command is run. -/
def stopReport : Stop → Report
  | .usage => { code := 2, stderr := usageText }
  | .version => { code := 0, stdout := versionLine }
  | .help => { code := 0, stdout := usageText }

end LiquidHover.CommandLine
