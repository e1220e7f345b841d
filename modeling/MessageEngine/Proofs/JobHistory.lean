import Mathlib
import MessageEngine.Proofs.Parting

/-!
# The jobs that a queue accepts

Jobs are handed in by callers from outside, by what endpoints receive and by
how they end.  Whatever happens to a node, only these jobs come to the end of
a queue, and only its worker takes jobs from its head.
-/

namespace MessageEngine

/-- What can happen to a node and its queues. -/
inductive Turn
  | act (a : Act)
  | sendBytes (e : EndpointRef) (data : Bytes)
  /-- A job is handed in from outside. -/
  | enqueue (r : QueueRef) (j : Job)
  | dispose (r : QueueRef)
  /-- The way is clear for the first job that is held at a queue. -/
  | clear (r : QueueRef)
  deriving DecidableEq

/-- A job as it was when it was handed in. -/
def Job.origin : Job → Job
  | .handle e _ => .parse e
  | .hold _ => .hold true
  | j => j

namespace Node

def turn? (s : Node) : Turn → Option Node
  | .act a => s.act? a
  | .sendBytes e data => some (s.sendBytes e data).1
  | .enqueue r j => some { (s.enqueue r j).1 with panic := none }
  | .dispose r => some (s.modifyQueue r Queue.dispose)
  | .clear r => some (s.clearHolds r clearFirst)

/-- The job that the worker of a queue is at. -/
def next? (s : Node) (r : QueueRef) : Option Job := (s.queue? r).bind (·.backlog.head?)

/-- The queue that an endpoint has. -/
def queueOf? (s : Node) (e : EndpointRef) : Option QueueRef :=
  (s.endpoint? e).bind fun x ↦ x.handle.map Handle.queue

/-- The reset of an endpoint with the queue, if it was disconnected meanwhile. -/
def resets (r : QueueRef) (s s' : Node) (e : EndpointRef) : List Job :=
  if s.queueOf? e = some r ∧ s.reason? e = none ∧ s'.reason? e ≠ none then [.reset e] else []

/-- The jobs that are handed in to a queue by what happens between two nodes. -/
def handedIn (r : QueueRef) (s s' : Node) : Turn → List Job
  | .enqueue t j => if t = r then [j] else []
  | .act (.receive e _) =>
    if s.isConnected e = true ∧ s.queueOf? e = some r then [.parse e] else []
  | .act (.disconnect e _) => resets r s s' e
  | .act (.work t) =>
    match s.next? t with
    | some j => resets r s s' j.subject
    | none => []
  | _ => []

/-- The jobs that a queue accepts: all that are handed in unless it has been disposed. -/
def accepts (r : QueueRef) (s s' : Node) (turn : Turn) : List Job :=
  match s.queue? r with
  | some q => if q.disposed then [] else handedIn r s s' turn
  | none => []

/-- The job that a worker is done with, and the queue where it stood. -/
def finished (s : Node) : Turn → List (QueueRef × Job)
  | .act (.work t) =>
    match s.next? t with
    | some j => if s.remaining j = [] then [(t, j.origin)] else []
    | none => []
  | _ => []

/-- The jobs that the workers get done in a run, in order, and the queues where they stood. -/
def finishedIn (s : Node) : List Turn → List (QueueRef × Job)
  | [] => []
  | turn :: turns =>
    s.finished turn ++
      match s.turn? turn with
      | none => []
      | some s' => s'.finishedIn turns

/-- Those of some jobs that stood at a queue. -/
def standing (r : QueueRef) (jobs : List (QueueRef × Job)) : List Job :=
  jobs.filterMap fun job ↦ if job.1 = r then some job.2 else none

/-- The job that the worker of a queue is done with. -/
def finishes (r : QueueRef) (s : Node) (turn : Turn) : List Job := standing r (s.finished turn)

/-- A queue without a worker starts one for the first job that it accepts. -/
def starts (r : QueueRef) (s s' : Node) (turn : Turn) : Nat :=
  match s.queue? r with
  | some q => if q.started = false ∧ accepts r s s' turn ≠ [] then 1 else 0
  | none => 0

end Node

/-! ## How a queue changes -/

namespace Queue

/-- Jobs were accepted, and the queue may have been disposed then. -/
structure Grows (jobs : List Job) (q q' : Queue Job) : Prop where
  backlog : q'.backlog = q.backlog ++ jobs
  name : q'.name = q.name
  processed : q'.processed = q.processed
  closed : q.disposed = true → jobs = [] ∧ q'.disposed = true
  started : q'.started = ((q.started || !jobs.isEmpty) && !q'.disposed)

/-- A queue that was disposed has no worker any more that it could give actions. -/
def Sound (q : Queue Job) : Prop := q.disposed = true → q.started = false

namespace Grows

variable {jobs : List Job} {q q' : Queue Job}

theorem refl (hq : q.Sound) : q.Grows [] q := by
  refine ⟨(List.append_nil _).symm, rfl, rfl, fun h ↦ ⟨rfl, h⟩, ?_⟩
  cases hdisposed : q.disposed with
  | false => simp
  | true => simp [hq hdisposed]

theorem sound (h : q.Grows jobs q') : q'.Sound := by
  intro hdisposed
  simp [h.started, hdisposed]

theorem enqueue (hq : q.Sound) (j : Job) :
    q.Grows (if q.disposed then [] else [j]) (q.enqueue j).1 := by
  rw [Queue.enqueue]
  split
  · exact refl hq
  · next hopen => exact ⟨rfl, rfl, rfl, fun h ↦ absurd h hopen, by simp [hopen]⟩

theorem dispose (h : q.Grows jobs q') : q.Grows jobs q'.dispose :=
  ⟨h.backlog, h.name, h.processed, fun hclosed ↦ ⟨(h.closed hclosed).1, rfl⟩,
    by simp [Queue.dispose]⟩

theorem free (h : q.Grows jobs q') (handle : Handle) : q.Grows jobs (handle.free q') := by
  cases handle with
  | dedicated i => exact h.dispose
  | pooled p slot =>
      rw [Handle.free]
      split
      · exact h
      · exact ⟨h.backlog, h.name, h.processed, h.closed, h.started⟩

theorem forget (h : q.Grows jobs q') (handle : Handle) : q.Grows jobs (handle.forget q') := by
  cases handle with
  | dedicated i => exact h
  | pooled p slot => exact h.free (.pooled p slot)

end Grows

theorem panic?_eq_none {q : Queue Job} (hname : nameRefusal? q.name = none) : q.panic? = none := by
  rw [panic?, hname]
  split <;> rfl

end Queue

/-! ## How the queue of a node changes -/

namespace Node

variable {r : QueueRef} {s s' : Node} {q : Queue Job}

theorem grows_of_passes {e : EndpointRef} (h : Passes e s s') (hq : s.queue? r = some q)
    (hsound : q.Sound) (hname : Queue.nameRefusal? q.name = none) :
    ∃ q', s'.queue? r = some q' ∧ q.Grows (if q.disposed then [] else resets r s s' e) q' := by
  rcases h with hleaves | ⟨handle, hparts⟩
  · refine ⟨q, (hleaves.queues r).trans hq, ?_⟩
    have hnone : resets r s s' e = [] := by
      rw [resets, hleaves.reason?, if_neg]
      rintro ⟨-, hreason, hreason'⟩
      exact hreason' hreason
    rw [hnone, ite_self]
    exact .refl hsound
  · obtain ⟨x, hx, hreason, rfl⟩ := hparts.before
    obtain ⟨reason, hafter⟩ := hparts.after
    obtain ⟨x', hx', hstance⟩ := Option.map_eq_some_iff.1 hafter
    have hresets : resets r s s' e =
        if x.handle.map Handle.queue = some r then [.reset e] else [] := by
      have hreason' : s'.reason? e = some reason := by
        rw [reason?, hx']
        exact congrArg Stance.reason hstance
      rw [resets, queueOf?, hx, hreason', Option.bind_some, reason?, hx, Option.bind_some, hreason]
      simp
    refine ⟨partFrom x.handle e r q, by rw [hparts.queues, hq]; rfl, ?_⟩
    rw [hresets]
    cases x.handle with
    | none =>
        simp only [partFrom, Option.map_none, reduceCtorEq, if_false, ite_self]
        exact .refl hsound
    | some h =>
        by_cases hr : h.queue = r
        · simp only [partFrom, hr, Option.map_some, if_true, Handle.part,
            Queue.panic?_eq_none hname, Option.isSome_none, Bool.false_eq_true, if_false]
          exact (Queue.Grows.enqueue hsound (.reset e)).free h
        · simp only [partFrom, hr, Option.map_some, Option.some.injEq, if_false, ite_self]
          exact .refl hsound

theorem next?_eq_some {j : Job} :
    s.next? r = some j ↔ ∃ q rest, s.queue? r = some q ∧ q.backlog = j :: rest := by
  simp only [next?, Option.bind_eq_some_iff, List.head?_eq_some_iff, exists_and_left]

theorem next?_of_queue? {j : Job} {rest : List Job} (hq : s.queue? r = some q)
    (hhead : q.backlog = j :: rest) : s.next? r = some j :=
  next?_eq_some.2 ⟨q, rest, hq, hhead⟩

theorem work?_of_next? {j : Job} (h : s.next? r = some j) (hfree : j ≠ .hold false) :
    s.work? r = some (s.execute r j) := by
  obtain ⟨q, rest, hq, hhead⟩ := next?_eq_some.1 h
  rw [work?, hq]
  dsimp only
  rw [hhead]
  split
  · next heq => cases heq
  · next heq =>
    cases heq
    exact absurd rfl hfree
  · next heq =>
    cases heq
    rfl

theorem queue?_proceed_of_ne {t : QueueRef} (ht : t ≠ r) (s : Node) (e : EndpointRef)
    (messages : List Message) : (s.proceed t e messages).queue? r = s.queue? r := by
  rw [Node.proceed.eq_def]
  split <;> rw [queue?_modifyQueue, if_neg ht]

theorem grows_of_work? {t : QueueRef} (ht : t ≠ r) (hpanic : s.panic = none)
    (hwork : s.work? t = some s') (hq : s.queue? r = some q) (hsound : q.Sound)
    (hname : Queue.nameRefusal? q.name = none) :
    ∃ q', s'.queue? r = some q' ∧ q.Grows (accepts r s s' (.act (.work t))) q' := by
  obtain ⟨q₀, j, rest, hq₀, hhead, rfl⟩ := work?_eq_some hwork
  obtain ⟨q', hq', hgrows⟩ := grows_of_passes (.effect hpanic j) hq hsound hname
  have hsame : resets r s (s.execute t j) j.subject = resets r s (s.effect j) j.subject := by
    rw [resets, resets, execute_eq, reason?_proceed]
  rw [accepts, hq, handedIn, next?_of_queue? hq₀ hhead]
  refine ⟨q', ?_, ?_⟩
  · rw [execute_eq, queue?_proceed_of_ne ht]
    exact hq'
  · dsimp only
    rw [hsame]
    exact hgrows

theorem grows_of_enqueue {t : QueueRef} (j : Job) (hq : s.queue? r = some q) (hsound : q.Sound)
    (hname : Queue.nameRefusal? q.name = none) :
    ∃ q', (s.enqueue t j).1.queue? r = some q' ∧
      q.Grows (if q.disposed then [] else if t = r then [j] else []) q' := by
  by_cases ht : t = r
  · subst ht
    refine ⟨(q.enqueue j).1, ?_, ?_⟩
    · rw [enqueue_of_queue? hq (Queue.panic?_eq_none hname), queue?_modifyQueue_self, hq]
      rfl
    · rw [if_pos rfl]
      exact .enqueue hsound j
  · refine ⟨q, ?_, ?_⟩
    · rcases s.enqueue_cases t j with h | ⟨text, h⟩ | ⟨q₀, -, -, h⟩
      · rw [h, hq]
      · rw [h, (Leaves.panic s (some text)).queues, hq]
      · rw [h, queue?_modifyQueue, if_neg ht, hq]
    · rw [if_neg ht, ite_self]
      exact .refl hsound

theorem grows_of_receive (e : EndpointRef) (data : Bytes) (hq : s.queue? r = some q)
    (hsound : q.Sound) (hname : Queue.nameRefusal? q.name = none) :
    ∃ q', (s.receive e data).queue? r = some q' ∧
      q.Grows (accepts r s (s.receive e data) (.act (.receive e data))) q' := by
  rw [accepts, hq, handedIn]
  dsimp only
  cases hconnected : s.isConnected e with
  | false =>
      rw [receive_of_not_isConnected hconnected]
      refine ⟨q, hq, ?_⟩
      simp only [Bool.false_eq_true, false_and, if_false, ite_self]
      exact .refl hsound
  | true =>
      rw [isConnected] at hconnected
      rw [receive, queueOf?]
      cases hx : s.endpoint? e with
      | none => simp [hx] at hconnected
      | some x =>
          rw [hx] at hconnected
          simp only [hconnected, if_true, true_and, Option.bind_some]
          have hq₁ := (s.queue?_setEndpoint e r { x with buffer := x.buffer ++ data }).trans hq
          cases hhandle : x.handle with
          | none =>
              refine ⟨q, hq₁, ?_⟩
              simp only [Option.map_none, reduceCtorEq, if_false, ite_self]
              exact .refl hsound
          | some h =>
              simp only [Option.map_some, Option.some.injEq]
              exact grows_of_enqueue (.parse e) hq₁ hsound hname

theorem grows_of_attach (e : EndpointRef) (h : Handle) (hq : s.queue? r = some q)
    (hsound : q.Sound) : ∃ q', (s.attach e h).queue? r = some q' ∧ q.Grows [] q' := by
  rw [attach]
  split
  · exact ⟨q, hq, .refl hsound⟩
  · next x hx =>
    have hq₁ :=
      (s.queue?_setEndpoint e r { x with handle := some h, outbox := .fresh }).trans hq
    dsimp only
    split
    · next old _ =>
      rw [queue?_drop, hq₁]
      split
      · exact ⟨old.forget q, rfl, (Queue.Grows.refl hsound).forget old⟩
      · exact ⟨q, rfl, .refl hsound⟩
    · exact ⟨q, hq₁, .refl hsound⟩

theorem panic_turn? {turn : Turn} (hpanic : s.panic = none) (h : s.turn? turn = some s') :
    s'.panic = none := by
  cases turn with
  | act a => exact panic_act? hpanic h
  | sendBytes e data =>
      cases h
      exact (Sends.sendBytes s e data).panic.trans hpanic
  | enqueue t j =>
      cases h
      rfl
  | dispose t | clear t =>
      cases h
      exact (s.panic_modifyQueue t _).trans hpanic

/-- It is the queue itself that is at work, disposed or cleared. -/
def Turn.Within (r : QueueRef) (turn : Turn) : Prop :=
  turn = .act (.work r) ∨ turn = .dispose r ∨ turn = .clear r

/-- What does not happen to the queue itself only hands in jobs. -/
theorem grows_of_turn? {turn : Turn} (hpanic : s.panic = none) (h : s.turn? turn = some s')
    (hother : ¬ Turn.Within r turn) (hq : s.queue? r = some q) (hsound : q.Sound)
    (hname : Queue.nameRefusal? q.name = none) :
    finishes r s turn = [] ∧
      ∃ q', s'.queue? r = some q' ∧ q.Grows (accepts r s s' turn) q' := by
  -- Most turns hand nothing in and leave the queue as it is.
  have hsame : ∀ {turn' : Turn}, handedIn r s s' turn' = [] → s'.queue? r = some q →
      ∃ q', s'.queue? r = some q' ∧ q.Grows (accepts r s s' turn') q' := by
    intro turn' hnone hq'
    refine ⟨q, hq', ?_⟩
    rw [accepts, hq]
    dsimp only
    rw [hnone, ite_self]
    exact .refl hsound
  cases turn with
  | act a =>
      cases a with
      | work t =>
          have ht : t ≠ r := fun ht ↦ hother (.inl (congrArg (Turn.act <| Act.work ·) ht))
          refine ⟨?_, grows_of_work? ht hpanic h hq hsound hname⟩
          rw [finishes, finished]
          split
          · split
            · simp [standing, ht]
            · rfl
          · rfl
      | receive e data =>
          cases h
          obtain ⟨q', hq', hgrows⟩ := grows_of_receive e data hq hsound hname
          exact ⟨rfl, q', ((Leaves.panic _ none).queues r).trans hq', hgrows⟩
      | disconnect e reason =>
          cases h
          obtain ⟨q', hq', hgrows⟩ :=
            grows_of_passes (.disconnect hpanic e reason) hq hsound hname
          refine ⟨rfl, q', ((Leaves.panic _ none).queues r).trans hq', ?_⟩
          rw [accepts, hq]
          exact hgrows
      | attach e handle =>
          cases h
          obtain ⟨q', hq', hgrows⟩ := grows_of_attach e handle hq hsound
          refine ⟨rfl, q', hq', ?_⟩
          rw [accepts, hq]
          dsimp only [handedIn]
          rw [ite_self]
          exact hgrows
      | beginConnect e =>
          cases h
          refine ⟨rfl, hsame rfl ?_⟩
          rw [beginConnect]
          split
          · exact hq
          · split
            · exact (s.queue?_setEndpoint e r _).trans hq
            · exact hq
      | markConnected e =>
          cases h
          refine ⟨rfl, hsame rfl ?_⟩
          rw [markConnected]
          split
          · exact hq
          · exact (s.queue?_setEndpoint e r _).trans hq
      | abortConnect e | renew e =>
          cases h
          exact ⟨rfl, hsame rfl ((s.queue?_modifyEndpoint e r _).trans hq)⟩
      | send e m =>
          cases h
          exact ⟨rfl, hsame rfl (((Sends.send s e m).queues r).trans hq)⟩
      | onDisconnect e hook =>
          cases h
          exact ⟨rfl, hsame rfl (((Leaves.onDisconnect s e hook).queues r).trans hq)⟩
  | sendBytes e data =>
      cases h
      exact ⟨rfl, hsame rfl (((Sends.sendBytes s e data).queues r).trans hq)⟩
  | enqueue t j =>
      cases h
      obtain ⟨q', hq', hgrows⟩ := grows_of_enqueue j hq hsound hname
      refine ⟨rfl, q', ((Leaves.panic _ none).queues r).trans hq', ?_⟩
      rw [accepts, hq]
      exact hgrows
  | dispose t =>
      cases h
      have ht : t ≠ r := fun ht ↦ hother (.inr (.inl (congrArg Turn.dispose ht)))
      exact ⟨rfl, hsame rfl (by rw [queue?_modifyQueue, if_neg ht, hq])⟩
  | clear t =>
      cases h
      have ht : t ≠ r := fun ht ↦ hother (.inr (.inr (congrArg Turn.clear ht)))
      exact ⟨rfl, hsame rfl (by rw [clearHolds, queue?_modifyQueue, if_neg ht, hq])⟩

/-- The worker of a queue takes a step of the job at the head.  If messages are left they stand
there for the job, and else it is done with. -/
theorem work?_eq {j : Job} {rest : List Job} (hpanic : s.panic = none)
    (hq : s.queue? r = some q) (hsound : q.Sound) (hname : Queue.nameRefusal? q.name = none)
    (hhead : q.backlog = j :: rest) (hfree : j ≠ .hold false) :
    ∃ s' q₁, s.work? r = some s' ∧ q.Grows (accepts r s s' (.act (.work r))) q₁ ∧
      s'.queue? r = some (if s.remaining j = [] then q₁.advance
        else q₁.resume (.handle j.subject (s.remaining j))) := by
  obtain ⟨q₁, hq₁, hgrows⟩ := grows_of_passes (.effect hpanic j) hq hsound hname
  have hnext := next?_of_queue? hq hhead
  have hsame : resets r s (s.execute r j) j.subject = resets r s (s.effect j) j.subject := by
    rw [resets, resets, execute_eq, reason?_proceed]
  refine ⟨s.execute r j, q₁, work?_of_next? hnext hfree, ?_, ?_⟩
  · rw [accepts, hq, handedIn, hnext]
    dsimp only
    rw [hsame]
    exact hgrows
  · rw [execute_eq, Node.proceed.eq_def]
    split
    · next hnone => rw [queue?_modifyQueue_self, hq₁, hnone, if_pos rfl, Option.map_some]
    · next hsome => rw [queue?_modifyQueue_self, hq₁, if_neg hsome, Option.map_some]

theorem finishes_work {j : Job} {rest : List Job} (hq : s.queue? r = some q)
    (hhead : q.backlog = j :: rest) :
    finishes r s (.act (.work r)) = if s.remaining j = [] then [j.origin] else [] := by
  rw [finishes, finished, next?_of_queue? hq hhead]
  dsimp only
  split
  · simp [standing]
  · rfl

/-- Only a job that parses or handles leaves messages. -/
theorem origin_of_remaining {j : Job} (h : s.remaining j ≠ []) (messages : List Message) :
    (Job.handle j.subject messages).origin = j.origin := by
  cases j with
  | parse e | handle e ms => rfl
  | reset e | hold clear | mark label panics => exact absurd rfl h

end Node

/-! ## The marks in the log -/

/-- The label of a mark. -/
def Record.mark? : Record → Option String
  | .mark label => some label
  | _ => none

/-- The label of the mark that a job leaves, if it leaves one. -/
def Job.mark? : Job → Option String
  | .mark label _ => some label
  | _ => none

theorem Job.mark?_origin (j : Job) : j.origin.mark? = j.mark? := by
  cases j <;> rfl

namespace Node

/-- The labels of the marks in the log, in order. -/
def marks (s : Node) : List String := s.log.filterMap Record.mark?

variable (s : Node) (e : EndpointRef)

theorem marks_record (x : Record) : (s.record x).marks = s.marks ++ x.mark?.toList := by
  rw [marks, record, List.filterMap_append, List.filterMap_cons, List.filterMap_nil]
  cases x.mark? <;> rfl

theorem marks_record_of_none {x : Record} (hx : x.mark? = none) :
    (s.record x).marks = s.marks := by
  rw [marks_record, hx]
  exact List.append_nil _

@[simp] theorem marks_trace (t : Trace) : (s.trace t).marks = s.marks :=
  s.marks_record_of_none rfl

@[simp] theorem marks_modifyQueue (r : QueueRef) (f : Queue Job → Queue Job) :
    (s.modifyQueue r f).marks = s.marks := by
  rw [marks, log_modifyQueue]
  rfl

theorem Sends.marks {s s' : Node} (h : Sends s s') : s'.marks = s.marks :=
  congrArg (List.filterMap Record.mark?) h.log

theorem marks_runHook (reason : DisconnectReason) (hook : Hook) :
    (runHook reason hook s).marks = s.marks :=
  s.runHook_keeps (fun s _ _ ↦ s.marks_record_of_none rfl) (fun _ _ ↦ rfl) reason hook

@[simp] theorem marks_onDisconnect (hook : Hook) : (s.onDisconnect e hook).marks = s.marks := by
  rw [onDisconnect_eq]
  split
  · rfl
  · split
    · exact s.marks_runHook _ hook
    · rfl

@[simp] theorem marks_disconnect (reason : DisconnectReason) :
    (s.disconnect e reason).1.marks = s.marks :=
  s.disconnect_keeps e marks_modifyQueue (fun _ _ ↦ rfl) (fun _ _ _ ↦ rfl)
    (fun s _ _ ↦ s.marks_record_of_none rfl) (fun _ _ ↦ rfl) reason

@[simp] theorem marks_contain : s.contain.marks = s.marks := by
  rw [contain]
  split
  · exact marks_trace _ .actionPanicked
  · rfl

theorem marks_proceed (r : QueueRef) (messages : List Message) :
    (s.proceed r e messages).marks = s.marks := by
  rw [proceed.eq_def]
  split
  · exact s.marks_modifyQueue r _
  · exact s.marks_modifyQueue r _

/-- A handler leaves remarks, but no marks. -/
theorem marks_perform (react : Reaction) : (perform e react s).1.marks = s.marks := by
  induction react generalizing s with
  | done outcome => rfl
  | note note next ih => exact (ih _).trans (s.marks_record_of_none rfl)
  | send m next ih => exact (ih _ _).trans (Sends.send s e m).marks
  | disconnect reason next ih =>
      have hend := s.marks_disconnect e reason
      rw [perform]
      dsimp only
      split
      · exact hend
      · exact (ih _ _).trans hend
  | onDisconnect hook next ih => exact (ih _).trans (s.marks_onDisconnect e hook)
  | broadcast key m next ih =>
      rw [perform]
      split
      · exact ih _ s
      · next g _ => exact (ih _ _).trans (Sends.broadcastMessage s key g m).marks

theorem marks_dispatch (type : EndpointType) (m : Message) :
    (s.dispatch e type m).marks = s.marks := by
  apply dispatch_keeps (P := fun s' ↦ s'.marks = s.marks) s e type m (s.marks_record_of_none rfl)
  · exact fun h _ ↦ (marks_perform _ e (h.react m)).trans (s.marks_record_of_none rfl)
  · exact fun s₁ t hhandler ↦ (s₁.marks_trace t).trans hhandler

theorem marks_parseReceived : (s.parseReceived e).1.marks = s.marks := by
  apply parseReceived_keeps (P := fun s' ↦ s'.marks = s.marks) s e rfl s.marks_trace
  · intro cause
    rw [marks_contain, marks_disconnect, marks_trace]
  · exact fun _ _ _ ↦ rfl

theorem marks_handleMessage (m : Message) : (s.handleMessage e m).1.marks = s.marks := by
  apply handleMessage_keeps (P := fun s' ↦ s'.marks = s.marks) s e m rfl (fun _ _ _ ↦ rfl)
  · intro x rate ceiling _
    rw [marks_contain, marks_disconnect, marks_trace]
    rfl
  · exact fun x rate _ ↦ marks_dispatch _ e x.type m

/-- A job leaves its mark, whether it panics or not, and nothing else that is done does. -/
theorem marks_effect (j : Job) : (s.effect j).marks = s.marks ++ j.mark?.toList := by
  cases j with
  | hold clear => exact (List.append_nil _).symm
  | mark label panics =>
      have hmark := s.marks_record (.mark label)
      cases panics with
      | false => exact hmark
      | true => exact (marks_trace _ _).trans hmark
  | reset e => exact (List.append_nil _).symm
  | parse e => exact (s.marks_parseReceived e).trans (List.append_nil _).symm
  | handle e messages =>
      cases messages with
      | nil => exact (List.append_nil _).symm
      | cons m rest => exact (s.marks_handleMessage e m).trans (List.append_nil _).symm

theorem marks_execute (r : QueueRef) (j : Job) :
    (s.execute r j).marks = s.marks ++ j.mark?.toList := by
  rw [execute_eq, marks_proceed, marks_effect]

theorem marks_enqueue (r : QueueRef) (j : Job) : (s.enqueue r j).1.marks = s.marks :=
  s.enqueue_keeps r marks_modifyQueue (fun _ _ ↦ rfl) j

theorem marks_receive (data : Bytes) : (s.receive e data).marks = s.marks := by
  rw [receive]
  split
  · rfl
  · split
    · dsimp only
      split
      · exact marks_enqueue _ _ _
      · rfl
    · rfl

theorem marks_attach (h : Handle) : (s.attach e h).marks = s.marks := by
  rw [attach]
  split
  · rfl
  · dsimp only
    split
    · exact drop_keeps _ marks_modifyQueue _
    · rfl

variable {s} {s' : Node}

/-- A turn finishes at most one job. -/
theorem length_finished (s : Node) (turn : Turn) : (s.finished turn).length ≤ 1 := by
  rw [finished.eq_def]
  split
  · split
    · split
      · exact Nat.le_refl 1
      · exact Nat.zero_le 1
    · exact Nat.zero_le 1
  · exact Nat.zero_le 1

theorem length_finishedIn (s : Node) (turns : List Turn) :
    (s.finishedIn turns).length ≤ turns.length := by
  induction turns generalizing s with
  | nil => exact Nat.le_refl 0
  | cons turn turns ih =>
      have hone := s.length_finished turn
      rw [finishedIn, List.length_append, List.length_cons]
      split
      · rw [List.length_nil]
        omega
      · next s' _ =>
        have hrest := ih s'
        omega

/-- A job that leaves a mark is done with it. -/
theorem remaining_of_mark? {j : Job} {label : String} (h : j.mark? = some label) :
    s.remaining j = [] := by
  cases j with
  | mark label panics => rfl
  | parse e | handle e ms | reset e | hold clear => cases h

/-- The marks that a turn leaves are those of the job that it finishes. -/
theorem marks_turn? {turn : Turn} (h : s.turn? turn = some s') :
    s'.marks = s.marks ++ (s.finished turn).filterMap (·.2.mark?) := by
  have hsame : ∀ {t : Node}, t.marks = s.marks → t.marks = s.marks ++ [] := fun ht ↦
    ht.trans (List.append_nil _).symm
  cases turn with
  | act a =>
      cases a with
      | work t =>
          obtain ⟨q, j, rest, hq, hhead, rfl⟩ := work?_eq_some h
          rw [marks_execute, finished, next?_of_queue? hq hhead]
          dsimp only
          cases hmark : j.mark? with
          | none =>
              split
              · rw [List.filterMap_cons, Job.mark?_origin, hmark]
                rfl
              · rfl
          | some label =>
              rw [if_pos (remaining_of_mark? hmark), List.filterMap_cons, Job.mark?_origin, hmark]
              rfl
      | receive e data =>
          cases h
          exact hsame (s.marks_receive e data)
      | disconnect e reason =>
          cases h
          exact hsame (s.marks_disconnect e reason)
      | attach e handle =>
          cases h
          exact hsame (s.marks_attach e handle)
      | onDisconnect e hook =>
          cases h
          exact hsame (s.marks_onDisconnect e hook)
      | send e m =>
          cases h
          exact hsame (Sends.send s e m).marks
      | beginConnect e =>
          cases h
          refine hsame ?_
          rw [beginConnect]
          split
          · rfl
          · split <;> rfl
      | markConnected e =>
          cases h
          refine hsame ?_
          rw [markConnected]
          split <;> rfl
      | abortConnect e | renew e =>
          cases h
          exact hsame rfl
  | sendBytes e data =>
      cases h
      exact hsame (Sends.sendBytes s e data).marks
  | enqueue t j =>
      cases h
      exact hsame (s.marks_enqueue t j)
  | dispose t | clear t =>
      cases h
      exact hsame (s.marks_modifyQueue t _)

end Node

end MessageEngine
