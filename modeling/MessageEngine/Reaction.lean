import MessageEngine.Lifecycle
import MessageEngine.Message

/-!
# What handlers and hooks do

A handler answers a message with a `Reaction`: a program that may send to its
receiver, disconnect it, address a group or leave a note, and that ends with
an outcome.  What comes next may depend on how each step went, so a reaction
is a tree, and everything a handler can do to the engine is visible in it.

A `Hook` waits for a disconnect.  It may try to disconnect again and may
register further hooks.
-/

namespace MessageEngine

/-- What is to be done when an endpoint has been disconnected. -/
inductive Hook
  | done
  /-- Leave a label in the log. -/
  | note (label : String) (next : Hook)
  /-- Strike the connection with this number off the server's book. -/
  | untrack (connection : UInt64) (next : Hook)
  /-- Disconnect the same endpoint again. -/
  | disconnect (reason : DisconnectReason) (next : Hook)
  /-- Register another hook on the same endpoint. -/
  | register (hook next : Hook)
  deriving DecidableEq, Repr

/-- A remark that a handler leaves in the log. -/
inductive Note
  | flag (label : String) (value : Bool)
  | count (label : String) (value : Nat)
  deriving DecidableEq, Repr

/-- How a handler ended. -/
inductive Outcome
  | ok
  /-- An error with its causes, outermost first. -/
  | failed (chain : List String)
  /-- A panic, with its text if it carried one. -/
  | panicked (payload : Option String)
  deriving DecidableEq, Repr

/-- Why a message could not be handled. -/
inductive HandlerFailure
  | failed (chain : List String)
  | panicked (text : String)
  deriving DecidableEq, Repr

namespace HandlerFailure

/-- The error and all its causes. -/
def message : HandlerFailure → String
  | failed chain => "handler returned an error: " ++ ": ".intercalate chain
  | panicked text => "handler panicked: " ++ text

/-- The receiver is of another type than the handler was made for. -/
def receiverMismatch : HandlerFailure := failed ["receiver type mismatch"]

end HandlerFailure

/-- The outcome as it is reported: handled, or the failure. -/
def Outcome.report : Outcome → Except HandlerFailure Bool
  | ok => .ok true
  | failed chain => .error (.failed chain)
  | panicked payload => .error (.panicked (payload.getD "non-string panic payload"))

/-- A failure of the engine that a handler passes on. -/
def Outcome.ofError (e : EngineError) : Outcome := failed e.chain

/-- What a handler does with its receiver and the engine. -/
inductive Reaction
  | done (outcome : Outcome)
  | note (note : Note) (next : Reaction)
  /-- Send a message to the receiver. -/
  | send (message : Message) (next : Except EngineError Unit → Reaction)
  /-- Disconnect the receiver; the answer says whether this was the first disconnect. -/
  | disconnect (reason : DisconnectReason) (next : Bool → Reaction)
  /-- Register a hook on the receiver. -/
  | onDisconnect (hook : Hook) (next : Reaction)
  /-- Send a message to every member of a group; no answer if there is no such group. -/
  | broadcast (group : String) (message : Message)
      (next : Option (Except EngineError Nat) → Reaction)

end MessageEngine
