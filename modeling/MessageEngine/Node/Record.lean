import MessageEngine.Node.Endpoint

/-!
# The log of a node

Every message that is dispatched leaves a record, handlers and hooks leave
remarks, and what went wrong is traced.
-/

namespace MessageEngine

inductive Severity
  | warning
  | error
  deriving DecidableEq, Repr

def Severity.name : Severity → String
  | warning => "WARN"
  | error => "ERROR"

/-- What went wrong while a node ran. -/
inductive Trace
  | invalidData (cause : ProtocolError)
  | rateExceeded (ceiling : UInt32)
  /-- A handler failed; of its error only the outermost text is kept. -/
  | handlerFailed (id : UInt16) (text : String)
  | handlerPanicked (id : UInt16) (text : String)
  | streamWriteFailed (text : String)
  | socketWriteFailed (text : String)
  | actionPanicked
  deriving DecidableEq, Repr

namespace Trace

def severity : Trace → Severity
  | handlerPanicked _ _ | actionPanicked => .error
  | _ => .warning

def message : Trace → String
  | invalidData _ => "Invalid data received"
  | rateExceeded _ => "Message rate exceeded"
  | handlerFailed _ _ => "Handler failed"
  | handlerPanicked _ _ => "Handler panicked"
  | streamWriteFailed _ => "Write failed"
  | socketWriteFailed _ => "WebSocket write failed"
  | actionPanicked => "Queued action panicked"

/-- The particulars, by name. -/
def details : Trace → List (String × String)
  | invalidData cause => [("error", cause.message)]
  | rateExceeded ceiling => [("max_per_second", toString ceiling)]
  | handlerFailed id text => [("message_id", toString id), ("error", text)]
  | handlerPanicked id text => [("message_id", toString id), ("panic", text)]
  | streamWriteFailed text => [("error", text)]
  | socketWriteFailed text => [("error", "IO error: " ++ text)]
  | actionPanicked => []

/-- All that a trace says, by name. -/
def fields (t : Trace) : List (String × String) :=
  ("level", t.severity.name) :: ("message", t.message) :: t.details

/-- What is traced of a message that could not be handled. -/
def ofFailure (id : UInt16) : HandlerFailure → Trace
  | .failed chain => handlerFailed id (chain.headD "")
  | .panicked text => handlerPanicked id text

end Trace

/-- A line of the log. -/
inductive Record
  /-- A message was dispatched; `handled` tells whether there was a handler to run. -/
  | dispatched (e : EndpointRef) (m : Message) (handled : Bool)
  | note (note : Note)
  | hook (label : String) (reason : DisconnectReason)
  /-- A labelled action of a queue was executed. -/
  | mark (label : String)
  | trace (trace : Trace)
  deriving DecidableEq

end MessageEngine
