/-
**The program.** The command line around the library: it reads arguments, files and messages, lets the
library answer, and writes what the library says.
-/
import LiquidHover.CommandLine.Commands
import LiquidHover.Server.Exchange

namespace LiquidHover.Program

/-- What reading a path gives. -/
def readPath (path : String) : IO Reading := do
  try
    return .content (← IO.FS.readBinFile path).toList
  catch
    | .inappropriateType _ 21 _ => return .directory
    | .inappropriateType .. => return .notDirectory
    | _ => return .missing

/-- The path of the user's own configuration. -/
def userConfig : IO (Option String) := do
  let home := (← IO.getEnv "HOME").map (· ++ "/.config")
  let base := ((← IO.getEnv "XDG_CONFIG_HOME").filter Files.isAbsolute).or home
  return base.map (· ++ "/lqls/lqls.toml")

/-- The working directory, or why there is none. -/
def workingDirectory : IO (Except String String) := do
  try
    return .ok (toString (← IO.currentDir))
  catch
    | .noFileOrDirectory .. => return .error "No such file or directory (os error 2)"
    | error => return .error (toString error)

/-- The files that matter for a project, and further ones, as they are now. -/
def readDisk (root : Option String) (further : List String) : IO Disk := do
  let workingDirectory ← workingDirectory
  let userConfig ← userConfig
  let project := (root.or workingDirectory.toOption).toList
  let config := userConfig.toList ++ project.flatMap Settings.projectPaths
  let paths := config ++ config.map Settings.secondPath ++ further
  let readings ← paths.mapM fun path => return (path, ← readPath path)
  return { read := fun path => (readings.lookup path).getD .missing, userConfig, workingDirectory }

/-- The length that a header line announces. -/
def lengthOf? (line : String) : Option Nat :=
  match line.splitOn ":" with
  | [name, value] =>
    if name.toLower = "content-length" then value.trimAscii.toString.toNat? else none
  | _ => none

/-- The length of the next message; none at the end of the input. -/
partial def readLength (input : IO.FS.Stream) (length : Nat) : IO (Option Nat) := do
  let line ← input.getLine
  if line.isEmpty then return none
  else if line.trimAscii.isEmpty then return some length
  else readLength input ((lengthOf? line).getD length)

/-- The given number of bytes after those already read, or fewer at the end of the input. -/
partial def readBytes (input : IO.FS.Stream) (count : Nat) (read : ByteArray) : IO ByteArray := do
  if count ≤ read.size then return read
  let more ← input.read (count - read.size).toUSize
  if more.isEmpty then return read
  readBytes input count (read ++ more)

/-- Writes a message. -/
def writeMessage (output : IO.FS.Stream) (json : Json) : IO Unit := do
  let text := json.compact
  output.putStr ("Content-Length: " ++ toString text.utf8ByteSize ++ "\r\n\r\n" ++ text)
  output.flush

/-- An entry of the log as a message; debug entries are not sent. -/
def logMessage? (entry : LogEntry) : Option Json :=
  match entry.sent? with
  | some (code, text) =>
    if code ≤ 3 then
      some <| Json.ofFields
        [ ("jsonrpc", .string "2.0"), ("method", .string "window/logMessage"),
          ("params", Json.ofFields [("type", .int code), ("message", .string text)]) ]
    else none
  | none => none

/-- Serves an editor until the conversation or the input ends. -/
partial def serve (input output : IO.FS.Stream) (exchange : Exchange) : IO Unit := do
  if exchange.stage = .ended then return ()
  match ← readLength input 0 with
  | none => return ()
  | some length =>
    let bytes ← readBytes input length ByteArray.empty
    let disk ← readDisk exchange.session.root []
    let json := ((Text.decode? bytes.toList).bind (Json.parseWithin? Json.depthLimit)).getD .null
    let reception := exchange.receiveJson disk json
    for response in reception.response do
      writeMessage output response
    for message in (reception.log ++ reception.shown).filterMap logMessage? do
      writeMessage output message
    serve input output reception.exchange

/-- Writes a report and gives its exit code. -/
def finish (report : CommandLine.Report) : IO UInt32 := do
  (← IO.getStdout).putStr report.stdout
  (← IO.getStderr).putStr report.stderr
  return report.code.toUInt32

/-- The files that a command reads besides the configuration. -/
def filesOf (workingDirectory : Except String String) : CommandLine.Command → List String
  | .hover file _ _ _ => workingDirectory.toOption.toList.map fun directory => Files.joinPath directory file
  | .serve | .list _ _ => []

end LiquidHover.Program

open LiquidHover in
def main (arguments : List String) : IO UInt32 := do
  match CommandLine.Arguments.parse arguments with
  | .error stop => Program.finish (CommandLine.stopReport stop)
  | .ok invocation =>
    let files := Program.filesOf (← Program.workingDirectory) invocation.command
    match CommandLine.run? (← Program.readDisk none files) invocation with
    | some report => Program.finish report
    | none =>
      Program.serve (← IO.getStdin) (← IO.getStdout) {}
      return 0
