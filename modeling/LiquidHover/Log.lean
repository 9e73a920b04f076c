/-
**Log entries.** What happens is reported in records with fields, at one of five levels. A record is
passed on if it has a message, which makes it an entry of the log; an editor receives the entries of four
of the levels, each under a number.

* `LogRecord.message?`, `LogRecord.entry?` — the message of a record, and the entry that it makes.
* `LogEntry.sent?` — an entry as an editor receives it.
-/
import LiquidHover.Text.Display

namespace LiquidHover

/-- How much an entry matters. -/
inductive Level where
  | error
  | warning
  | info
  | debug
  | trace
  deriving DecidableEq, Repr

/-- The number under which an editor receives entries of a level; traces are not sent. -/
def Level.code? : Level → Option Nat
  | .error => some 1
  | .warning => some 2
  | .info => some 3
  | .debug => some 4
  | .trace => none

/-- One entry of the log. -/
structure LogEntry where
  level : Level
  message : String
  deriving DecidableEq, Repr

namespace LogEntry

/-- The entry as an editor receives it. -/
def sent? (entry : LogEntry) : Option (Nat × String) := entry.level.code?.map (·, entry.message)

def warning (message : String) : LogEntry := ⟨.warning, message⟩

def info (message : String) : LogEntry := ⟨.info, message⟩

def debug (message : String) : LogEntry := ⟨.debug, message⟩

end LogEntry

/-- The value of a field of a record. -/
inductive FieldValue where
  /-- A text, written as it is. -/
  | text (value : String)
  /-- A text in its form for debugging, which is a literal. -/
  | literal (value : String)
  deriving DecidableEq, Repr

/-- A value as it is written. -/
def FieldValue.written : FieldValue → String
  | .text value => value
  | .literal value => Text.display value

/-- What is reported: values under names. -/
structure LogRecord where
  level : Level
  fields : List (String × FieldValue)
  deriving DecidableEq, Repr

namespace LogRecord

/-- The message of a record: the last field of that name, if there is one. -/
def message? (record : LogRecord) : Option String :=
  record.fields.foldl
    (fun message (name, value) => if name = "message" then some value.written else message) none

/-- The entry that a record makes. -/
def entry? (record : LogRecord) : Option LogEntry :=
  record.message?.map fun message => ⟨record.level, message⟩

end LogRecord

end LiquidHover
