/-
**The exchange with an editor.** A conversation begins with an introduction and ends with a farewell.
What comes too early or too late is refused, and so is what the server does not know.

* `Message` — a request, which has an identifier and wants a response, or a notification.
* `Exchange` — how far a conversation has come, with its session.
* `Exchange.receive` — the response to a message, if there is one, and the conversation afterwards.
-/
import LiquidHover.Server.Shape.Envelope
import LiquidHover.Server.Wire

namespace LiquidHover

/-- One message of an editor. -/
structure Message where
  /-- The identifier of a request; a notification has none. -/
  id : Option Json
  method : String
  params : Option Json

/-- Why a request is refused. -/
inductive Refusal where
  /-- The editor has not introduced itself. -/
  | tooEarly
  /-- The request has no place here. -/
  | misplaced
  | unknownMethod
  | badParams
  deriving DecidableEq, Repr

/-- The number of a refusal. -/
def Refusal.code : Refusal → Int
  | .tooEarly => -32002
  | .misplaced => -32600
  | .unknownMethod => -32601
  | .badParams => -32602

/-- How far a conversation has come. -/
inductive Stage where
  | fresh
  | running
  /-- The editor has asked the server to stop. -/
  | stopping
  | ended
  deriving DecidableEq, Repr

/-- A conversation with an editor. -/
structure Exchange where
  stage : Stage := .fresh
  session : Session := {}

/-- What the server does with a method. -/
inductive Method where
  | introduction
  | farewell
  | exit
  /-- A question, with how its parameters are read. -/
  | question (read? : Json → Option Event)
  /-- A report that wants no response. -/
  | report (read? : Json → Option Event)
  /-- A question of the protocol that this server does not answer, with its parameters. -/
  | unanswered (params : Shape)
  /-- A report of the protocol that this server does not heed. -/
  | unheeded
  /-- The editor takes a request back. Requests are answered one by one, so there is none left. -/
  | cancellation
  | unknown

namespace Method

/-- The reports of the protocol that the server does not heed. -/
def unheededNames : List String :=
  [ "textDocument/willSave", "textDocument/didSave", "notebookDocument/didOpen",
    "notebookDocument/didChange", "notebookDocument/didSave", "notebookDocument/didClose",
    "workspace/didChangeWorkspaceFolders", "workspace/didChangeWatchedFiles",
    "workspace/didCreateFiles", "workspace/didRenameFiles", "workspace/didDeleteFiles" ]

/-- The method with a name. -/
def ofName (name : String) : Method :=
  match name with
  | "initialize" => .introduction
  | "shutdown" => .farewell
  | "exit" => .exit
  | "textDocument/hover" => .question Wire.hovered?
  | "initialized" => .report Wire.ready?
  | "textDocument/didOpen" => .report Wire.opened?
  | "textDocument/didChange" => .report Wire.changed?
  | "textDocument/didClose" => .report Wire.closed?
  | "workspace/didChangeConfiguration" => .report Wire.configured?
  | "$/cancelRequest" => .cancellation
  | _ =>
    match Shape.questions.lookup name with
    | some params => .unanswered params
    | none => if unheededNames.contains name then .unheeded else .unknown

end Method

/-- A response, the entries of the log, what the editor is shown besides, and the conversation
afterwards. -/
structure Reception where
  response : Option Json
  log : List LogEntry := []
  shown : List LogEntry := []
  exchange : Exchange

namespace Exchange

/-- The response to a request that succeeded. -/
def accept (id : Option Json) (result : Json) : Option Json :=
  id.map fun id => Json.ofFields [("jsonrpc", .string "2.0"), ("id", id), ("result", result)]

/-- The response to a request that is refused. -/
def refuse (id : Option Json) (refusal : Refusal) : Option Json :=
  id.map fun id =>
    Json.ofFields
      [ ("jsonrpc", .string "2.0"), ("id", id),
        ("error", Json.ofFields [("code", .int refusal.code)]) ]

/-- The refusal that a stage asks for, when no work is done in it. -/
def refusalIn? : Stage → Option Refusal
  | .fresh => some .tooEarly
  | .running => none
  | .stopping | .ended => some .misplaced

/-- The conversation after the first introduction. It has begun when the introduction was a
request. -/
def introduce (exchange : Exchange) (disk : Disk) (message : Message) : Reception :=
  if exchange.stage = .fresh then
    match message.params.bind Wire.introduction? with
    | none => { response := refuse message.id .badParams, exchange }
    | some introduction =>
      let outcome := exchange.session.step disk (.introduced introduction)
      { response := accept message.id (Wire.encodeAnswer outcome.value)
        log := outcome.log
        exchange :=
          { stage := if message.id.isSome then .running else .fresh
            session := outcome.session } }
  else { response := refuse message.id .misplaced, exchange }

/-- The conversation after a farewell, which has no parameters. -/
def leave (exchange : Exchange) (disk : Disk) (message : Message) : Reception :=
  match refusalIn? exchange.stage with
  | some refusal => { response := refuse message.id refusal, exchange }
  | none =>
    match message.params with
    | some _ =>
      { response := refuse message.id .badParams, exchange := { exchange with stage := .stopping } }
    | none =>
      let outcome := exchange.session.step disk .stopped
      { response := accept message.id (Wire.encodeAnswer outcome.value)
        log := outcome.log
        exchange := { stage := .stopping, session := outcome.session } }

/-- The conversation after a question that is answered. -/
def answer (exchange : Exchange) (disk : Disk) (message : Message)
    (read? : Json → Option Event) : Reception :=
  match message.params.bind read? with
  | none => { response := refuse message.id .badParams, exchange }
  | some event =>
    let outcome := exchange.session.step disk event
    { response := accept message.id (Wire.encodeAnswer outcome.value)
      log := outcome.log
      exchange := { exchange with session := outcome.session } }

/-- The conversation after a question that is not answered, which still looks at the parameters. -/
def decline (exchange : Exchange) (message : Message) (params : Shape) : Reception :=
  let refusal := if message.params.any params.admits then .unknownMethod else .badParams
  { response := refuse message.id refusal, exchange }

/-- The conversation after a report. One that is sent as a request is refused unread, and one that
cannot be read is passed over. -/
def heed (exchange : Exchange) (disk : Disk) (message : Message)
    (read? : Json → Option Event) : Reception :=
  match message.id, message.params.bind read? with
  | none, some event =>
    let outcome := exchange.session.step disk event
    { response := none
      log := outcome.log
      shown := outcome.value.shown
      exchange := { exchange with session := outcome.session } }
  | id, _ => { response := refuse id .misplaced, exchange }

/-- The response to a message and the conversation afterwards. -/
def receive (exchange : Exchange) (disk : Disk) (message : Message) : Reception :=
  let inTime (reception : Reception) : Reception :=
    match refusalIn? exchange.stage with
    | some refusal => { response := refuse message.id refusal, exchange }
    | none => reception
  match Method.ofName message.method with
  | .introduction => exchange.introduce disk message
  | .farewell => exchange.leave disk message
  | .exit => { response := none, exchange := { exchange with stage := .ended } }
  | .question read? => inTime (exchange.answer disk message read?)
  | .report read? => inTime (exchange.heed disk message read?)
  | .unanswered params => inTime (exchange.decline message params)
  | .unheeded => inTime { response := refuse message.id .misplaced, exchange }
  | .cancellation => { response := refuse message.id .misplaced, exchange }
  | .unknown => { response := refuse message.id .unknownMethod, exchange }

/-- The message that a JSON value stands for. One without a method has an empty one. -/
def message? (json : Json) : Option Message :=
  (Shape.envelope.named? json).map fun json =>
    { id := json.field? "id"
      method := (Wire.required? Wire.string? "method" json).getD ""
      params := json.field? "params" }

/-- The response to a JSON value. The reply to a request of the server is passed over: the server makes
none. What is no message is refused without an identifier. -/
def receiveJson (exchange : Exchange) (disk : Disk) (json : Json) : Reception :=
  if Shape.reply.admits json then { response := none, exchange }
  else
    match message? json with
    | some message => exchange.receive disk message
    | none => { response := refuse (some .null) .misplaced, exchange }

/-- The responses to a row of JSON values, up to the end of the conversation. -/
def converse (disk : Disk) : Exchange → List Json → List Json
  | _, [] => []
  | exchange, json :: rest =>
    if exchange.stage = .ended then []
    else
      let reception := exchange.receiveJson disk json
      reception.response.toList ++ converse disk reception.exchange rest

end Exchange

end LiquidHover
