import MessageEngine.Reaction
import MessageEngine.Text

/-!
# The registry of message types and handlers

A number belongs to the message type that was registered under it first.  A
handler is kept per message type and kind of receiver; a later one takes the
place of an earlier one.  A handler is made for one type of endpoint: it
refuses receivers of another type, even if they are of the same kind.
-/

namespace MessageEngine

/-- A type of endpoint.  Several types may be of one kind. -/
structure EndpointType where
  kind : EndpointKind
  name : String := ""
  deriving DecidableEq, Repr

structure Handler where
  label : String
  receiver : EndpointType
  react : Message → Reaction

/-- What handlers are looked up by. -/
abbrev HandlerKey := MessageType × EndpointKind

structure Registry where
  types : List MessageType := []
  handlers : List (HandlerKey × Handler) := []

namespace Registry

def empty : Registry := {}

/-- The message type that a number belongs to. -/
def typeOf? (r : Registry) (id : UInt16) : Option MessageType := r.types.find? (·.id == id)

def isRegistered (r : Registry) (id : UInt16) : Bool := (r.typeOf? id).isSome

/-- The version that the type behind a number was registered with. -/
def expectedVersion? (r : Registry) (id : UInt16) : Option UInt8 :=
  (r.typeOf? id).map (·.registered)

def typeName? (r : Registry) (id : UInt16) : Option String := (r.typeOf? id).map (·.name)

/-- A fresh message of the type behind a number. -/
def create? (r : Registry) (id : UInt16) : Option Message := (r.typeOf? id).map Message.initial

def messageCount (r : Registry) : Nat := r.types.length

def registerMessage (r : Registry) (t : MessageType) : Except ProtocolError Registry :=
  if r.isRegistered t.id then .error (.duplicateMessageId t.id)
  else .ok { r with types := r.types ++ [t] }

def handler? (r : Registry) (key : HandlerKey) : Option Handler := r.handlers.lookup key

def hasHandler (r : Registry) (t : MessageType) (kind : EndpointKind) : Bool :=
  (r.handler? (t, kind)).isSome

/-- Keep a handler for a registered type and the kind of its receiver, in place of any
that was kept for them before. -/
def registerHandler (r : Registry) (t : MessageType) (h : Handler) :
    Except ProtocolError Registry :=
  if t ∈ r.types then
    let key := (t, h.receiver.kind)
    .ok { r with handlers := (key, h) :: r.handlers.filter (·.1 ≠ key) }
  else .error .unregisteredMessageType

/-- Which handler is to see a message that a receiver got. -/
inductive Selection
  | unhandled
  | wrongReceiver
  | handler (h : Handler)

def select (r : Registry) (m : Message) (receiver : EndpointType) : Selection :=
  match r.handler? (m.type, receiver.kind) with
  | none => .unhandled
  | some h => if h.receiver = receiver then .handler h else .wrongReceiver

/-- Have a message handled.  `perform` runs the chosen handler over a state; the answer is
false when there was none to run. -/
def dispatch {σ : Type} (r : Registry) (perform : Handler → σ → σ × Outcome) (m : Message)
    (receiver : EndpointType) (s : σ) : σ × Except HandlerFailure Bool :=
  match r.select m receiver with
  | .unhandled => (s, .ok false)
  | .wrongReceiver => (s, .error .receiverMismatch)
  | .handler h =>
    let (s, outcome) := perform h s
    (s, outcome.report)

def describe (r : Registry) : String :=
  Text.record "Registry"
    [("messages", toString r.messageCount), ("handlers", toString r.handlers.length)]

end Registry

end MessageEngine
