/-
**Shapes of messages.** What a message has to look like, whatever its method and its parameters are.

* `Shape.identifier` — what identifies a request.
* `Shape.envelope` — a request or a notification.
* `Shape.reply` — the reply to a request of the server.
-/
import LiquidHover.Server.Shape

namespace LiquidHover.Shape

/-- What identifies a request. -/
def identifier : Shape := .either .long (.either .text .nothing)

/-- The version of the protocol. -/
def version : String × Presence × Shape := field "jsonrpc" (.literal "2.0")

/-- A request, which has an identifier, or a notification. -/
def envelope : Shape :=
  .record
    [ version, ("method", .defaulted, .text), ("params", .defaulted, .anything),
      ("id", .defaulted, identifier) ]

/-- Why a request failed. -/
def failure : Shape :=
  .record [field "code" .long, field "message" .text, maybe "data" .anything]

/-- The reply to a request: a result or a failure. -/
def reply : Shape :=
  .either
    (.message [version, field "id" identifier, field "result" .anything])
    (.message [version, field "id" identifier, field "error" failure])

end LiquidHover.Shape
