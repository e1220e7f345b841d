import MessageEngine.Queue

/-!
# Queue pools

A pool shares queues between endpoints.  A newcomer gets a slot on the
earliest queue of least load, if that is below the ceiling; otherwise the
pool grows by a queue.  A slot is given back once, by a release or when it
is dropped, and keeps its queue until then.
-/

namespace MessageEngine

structure Pool (α : Type) where
  name : String
  ceiling : Nat
  queues : List (Queue α) := []
  deriving DecidableEq, Repr

/-- The ceiling of a pool unless one is set. -/
def Pool.defaultCeiling : Nat := 64

/-- A place on a queue of a pool. -/
structure Slot where
  queue : Nat
  released : Bool := false
  deriving DecidableEq, Repr

namespace Pool

variable {α : Type}

/-- A pool without queues; a ceiling of 0 counts as 1. -/
def new (name : String) (ceiling : Nat) : Pool α := ⟨name, max ceiling 1, []⟩

/-- The better of two candidates: the lesser load, and of equal ones the first. -/
def lesser (x : Nat × Nat) : Option (Nat × Nat) → Option (Nat × Nat)
  | none => some x
  | some y => if y.2 < x.2 then some y else some x

/-- The earliest queue of least load, with its load; `i` is the place of the first. -/
def leastLoaded : (i : Nat) → List (Queue α) → Option (Nat × Nat)
  | _, [] => none
  | i, q :: rest => lesser (i, q.load) (leastLoaded (i + 1) rest)

/-- The queue that the next newcomer shares, if any is below the ceiling. -/
def candidate? (p : Pool α) : Option Nat :=
  match leastLoaded 0 p.queues with
  | some (i, load) => if load < p.ceiling then some i else none
  | none => none

def modifyQueue (p : Pool α) (i : Nat) (f : Queue α → Queue α) : Pool α :=
  { p with queues := p.queues.modify i f }

/-- The name of the queue that the pool makes next. -/
def nextName (p : Pool α) : String := s!"{p.name}-{p.queues.length}"

def acquire (p : Pool α) : Pool α × Slot :=
  match p.candidate? with
  | some i => (p.modifyQueue i Queue.assign, ⟨i, false⟩)
  | none =>
    ({ p with queues := p.queues ++ [Queue.assign { name := p.nextName }] },
      ⟨p.queues.length, false⟩)

/-- Give a slot back; the second time nothing happens. -/
def release (p : Pool α) (slot : Slot) : Pool α × Slot :=
  if slot.released then (p, slot)
  else (p.modifyQueue slot.queue Queue.unassign, { slot with released := true })

/-- A slot goes out of use. -/
def drop (p : Pool α) (slot : Slot) : Pool α := (p.release slot).1

def loads (p : Pool α) : List Nat := p.queues.map (·.load)

/-- Dispose the queues that there are. -/
def dispose (p : Pool α) : Pool α := { p with queues := p.queues.map Queue.dispose }

/-- Hand in an action through a slot. -/
def enqueue (p : Pool α) (slot : Slot) (a : α) : Pool α × Bool :=
  match p.queues[slot.queue]? with
  | none => (p, false)
  | some q => (p.modifyQueue slot.queue fun _ ↦ (q.enqueue a).1, (q.enqueue a).2)

def describe (p : Pool α) : String :=
  Text.record "QueuePool"
    [("name", Text.quoted p.name), ("connections_per_queue", toString p.ceiling),
      ("loads", Text.list (p.loads.map toString))]

end Pool

/-- How an endpoint or an application holds a queue. -/
inductive Handle
  /-- The queue of one endpoint alone, by its number. -/
  | dedicated (queue : Nat)
  /-- A slot of a pool, by the pool's number. -/
  | pooled (pool : Nat) (slot : Slot)
  deriving DecidableEq, Repr

/-- Where a queue is to be found. -/
inductive QueueRef
  | dedicated (queue : Nat)
  | pooled (pool queue : Nat)
  deriving DecidableEq, Repr

def Handle.queue : Handle → QueueRef
  | dedicated queue => .dedicated queue
  | pooled pool slot => .pooled pool slot.queue

/-- A slot of which the queue is shown. -/
def Slot.describe {α : Type} (slot : Slot) (q : Queue α) : String :=
  Text.record "QueueSlot" [("queue", q.describe), ("released", toString slot.released)]

/-- A handle of which the queue is shown. -/
def Handle.describe {α : Type} (h : Handle) (q : Queue α) : String :=
  match h with
  | dedicated _ => "Dedicated(" ++ q.describe ++ ")"
  | pooled _ slot => "Pooled(" ++ slot.describe q ++ ")"

end MessageEngine
