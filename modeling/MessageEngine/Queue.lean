import MessageEngine.Bytes
import MessageEngine.Text

/-!
# Processing queues

A queue takes actions until it is disposed and has one worker that executes
them in the order they were accepted.  The worker is started with the first
action.  Disposing the queue leaves what was accepted to be executed.

The counts are natural numbers in place of words of 64 bits.  A step executes
at most one action, and the load stays within the ceiling of the pool, so no
word overflows in a run of fewer than 2 ^ 64 steps under a ceiling below
2 ^ 64.

The head of `backlog` is the action that the worker is at; `advance` says
that it has been executed.
-/

namespace MessageEngine

structure Queue (α : Type) where
  name : String
  backlog : List α := []
  /-- A worker was started and may still be given actions. -/
  started : Bool := false
  disposed : Bool := false
  /-- How many actions have been executed. -/
  processed : Nat := 0
  /-- How many endpoints are assigned to the queue. -/
  load : Nat := 0
  deriving DecidableEq, Repr

namespace Queue

variable {α : Type}

/-- A worker is named like its queue.  Who starts one under a name that holds a NUL panics with
this text. -/
def nameRefusal? (name : String) : Option String :=
  let octets := utf8 name
  if octets.contains 0 then
    some ("thread name may not contain interior null bytes: NulError(" ++
      toString (octets.idxOf 0) ++ ", " ++ Text.list (octets.map toString) ++ ")")
  else none

/-- The text of the panic, if handing in an action comes to one. -/
def panic? (q : Queue α) : Option String :=
  if q.disposed || q.started then none else nameRefusal? q.name

/-- Hand in an action; false if the queue has been disposed. -/
def enqueue (q : Queue α) (a : α) : Queue α × Bool :=
  if q.disposed then (q, false)
  else ({ q with backlog := q.backlog ++ [a], started := true }, true)

def dispose (q : Queue α) : Queue α := { q with disposed := true, started := false }

def assign (q : Queue α) : Queue α := { q with load := q.load + 1 }

/-- The load never falls below nothing. -/
def unassign (q : Queue α) : Queue α := { q with load := q.load - 1 }

/-- The action at the head has been executed. -/
def advance (q : Queue α) : Queue α :=
  { q with backlog := q.backlog.tail, processed := q.processed + 1 }

/-- What is left to do of the action at the head. -/
def resume (q : Queue α) (rest : α) : Queue α := { q with backlog := rest :: q.backlog.tail }

def describe (q : Queue α) : String :=
  Text.record "ProcessingQueue"
    [("name", Text.quoted q.name), ("load", toString q.load),
      ("processed", toString q.processed), ("disposed", toString q.disposed)]

end Queue

end MessageEngine
