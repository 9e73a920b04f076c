/-
**Arguments of the command line.** The options `-q` and `-v` may stand before and after the name of a
command, each with rules of its own for repetition; the other options belong to one command.

* `Invocation` — what the arguments ask for.
* `Arguments.parse` — the arguments read, or why they are not understood.
-/
import LiquidHover.Number.Decimal

namespace LiquidHover.CommandLine

/-- The tables that can be listed. -/
inductive Table where
  | objects
  | filters
  | tags
  deriving DecidableEq, Repr

/-- A command with its arguments. -/
inductive Command where
  | serve
  | hover (file : String) (line column : Nat) (settings : Option String)
  | list (table : Table) (category : Option String)
  deriving DecidableEq, Repr

/-- How much is printed. -/
structure Flags where
  quiet : Bool := false
  verbose : Nat := 0
  deriving DecidableEq, Repr

/-- A command, and how much is printed. -/
structure Invocation where
  command : Command
  flags : Flags
  deriving DecidableEq, Repr

/-- Why no command is run. -/
inductive Stop where
  /-- The arguments are not understood. -/
  | usage
  /-- The arguments ask for the version. -/
  | version
  /-- The arguments ask for help. -/
  | help
  deriving DecidableEq, Repr

namespace Arguments

/-- The flags with `-q` set, which may be given once. -/
def beQuiet (flags : Flags) : Except Stop Flags :=
  if flags.quiet then .error .usage else .ok { flags with quiet := true }

/-- The flags after a row of short options. Only in front of a command there is an option for the
version. -/
def readShort (outer : Bool) (flags : Flags) : List Char → Except Stop Flags
  | [] => .ok flags
  | 'q' :: rest => do readShort outer (← beQuiet flags) rest
  | 'v' :: rest => readShort outer { flags with verbose := flags.verbose + 1 } rest
  | 'V' :: _ => .error (if outer then .version else .usage)
  | 'h' :: _ => .error .help
  | _ => .error .usage

/-- The flags after a long option without a value. -/
def readLong (outer : Bool) (flags : Flags) (name : String) : Except Stop Flags :=
  match name with
  | "quiet" => beQuiet flags
  | "verbose" => .ok { flags with verbose := flags.verbose + 1 }
  | "version" => .error (if outer then .version else .usage)
  | "help" => .error .help
  | _ => .error .usage

/-- An argument by its form. -/
inductive Form where
  /-- Two dashes alone, after which there are no options. -/
  | divider
  | long (name : String) (value : Option String)
  | short (letters : List Char)
  | plain
  deriving DecidableEq, Repr

/-- The form of an argument. -/
def formOf (argument : String) : Form :=
  match argument.toList with
  | ['-', '-'] => .divider
  | '-' :: '-' :: body =>
    let name := String.ofList (body.takeWhile (· != '='))
    match body.dropWhile (· != '=') with
    | _ :: value => .long name (some (String.ofList value))
    | [] => .long name none
  | '-' :: letter :: letters => .short (letter :: letters)
  | _ => .plain

/-- What has been read of the arguments of a command. -/
structure Progress where
  flags : Flags := {}
  /-- The value of the command's own option. -/
  option : Option String := none
  plain : List String := []

/-- The progress with the value of the command's own option, which may be given once. -/
def Progress.setOption (progress : Progress) (value : String) : Except Stop Progress :=
  match progress.option with
  | some _ => .error .usage
  | none => .ok { progress with option := some value }

/-- The progress after the arguments of a command whose own option, if it has one, is `own`. -/
def readInner (own : Option String) (progress : Progress) : List String → Except Stop Progress
  | [] => .ok progress
  | argument :: rest =>
    match formOf argument with
    | .divider => .ok { progress with plain := progress.plain ++ rest }
    | .plain => readInner own { progress with plain := progress.plain ++ [argument] } rest
    | .short letters => do
      let flags ← readShort false progress.flags letters
      readInner own { progress with flags } rest
    | .long name value =>
      if own = some name then
        match value, rest with
        | some value, rest => do readInner own (← progress.setOption value) rest
        | none, next :: rest =>
          if formOf next = .plain then do readInner own (← progress.setOption next) rest
          else .error .usage
        | none, [] => .error .usage
      else
        match value with
        | some _ => .error .usage
        | none => do
          let flags ← readLong false progress.flags name
          readInner own { progress with flags } rest

/-- The flags in front of a command, its name, and the arguments after it. -/
def readOuter (flags : Flags) : List String → Except Stop (Flags × String × List String)
  | [] => .error .usage
  | argument :: rest =>
    match formOf argument with
    | .plain => .ok (flags, argument, rest)
    | .short letters => do readOuter (← readShort true flags letters) rest
    | .long name none => do readOuter (← readLong true flags name) rest
    | .long _ (some _) | .divider => .error .usage

/-- A whole number of decimal digits, perhaps with a sign, between two bounds. -/
def numberIn (low high : Nat) (text : String) : Except Stop Nat :=
  let negative := text.toList.head? == some '-'
  let signed := negative || text.toList.head? == some '+'
  let digits := if signed then text.toList.tail else text.toList
  let value := Number.decimalValue digits
  if !Number.isDecimal digits || (negative && value != 0) then .error .usage
  else if low ≤ value ∧ value ≤ high then .ok value
  else .error .usage

/-- The table with a name. -/
def tableOf (name : String) : Except Stop Table :=
  match name with
  | "objects" => .ok .objects
  | "filters" => .ok .filters
  | "tags" => .ok .tags
  | _ => .error .usage

/-- The own option of the command with a name. -/
def ownOption? : String → Option String
  | "hover" => some "settings"
  | "list" => some "category"
  | _ => none

/-- The command with a name and arguments. -/
def commandOf (name : String) (progress : Progress) : Except Stop Command :=
  match name, progress.plain with
  | "serve", [] => .ok .serve
  | "hover", [file, line, column] => do
    let line ← numberIn 1 Number.maxWord32 line
    let column ← numberIn 0 Number.maxWord32 column
    return .hover file line column progress.option
  | "list", [table] => do
    let table ← tableOf table
    return .list table progress.option
  | _, _ => .error .usage

/-- Whether flags contradict each other. -/
def contradict (flags : Flags) : Bool := flags.quiet && flags.verbose != 0

/-- What the arguments ask for. -/
def parse (arguments : List String) : Except Stop Invocation := do
  let (outer, name, rest) ← readOuter {} arguments
  if name = "help" then throw .help
  if name ∉ ["serve", "hover", "list"] then throw .usage
  let progress ← readInner (ownOption? name) {} rest
  if contradict outer || contradict progress.flags then throw .usage
  let command ← commandOf name progress
  let flags : Flags :=
    { quiet := outer.quiet || progress.flags.quiet
      verbose := outer.verbose + progress.flags.verbose }
  return { command, flags }

end Arguments

end LiquidHover.CommandLine
