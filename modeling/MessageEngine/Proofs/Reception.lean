import MessageEngine.Proofs.Disconnect
import MessageEngine.Proofs.FrameParsing

/-!
# What becomes of the octets that an endpoint receives

What an endpoint has received is at any time what was dispatched to it, the
messages that wait at the head of its queue, and its buffer, in this order.
A parse that is still to come will see the buffer, so a buffer that holds a
whole frame is never forgotten.  When the endpoint is disconnected for a
reason that drops nothing, the buffer is reset behind all that.
-/

namespace MessageEngine

/-- How far an endpoint has come with what it received. -/
structure Progress where
  received : Bytes := []
  /-- The messages that were dispatched. -/
  done : List Message := []
  /-- The messages that were parsed and wait at the head of the queue. -/
  waiting : List Message := []
  /-- What is left behind the messages. -/
  rest : Bytes := []
  /-- How many parses are still to come. -/
  parses : Nat := 0
  /-- Where the endpoint stands until it is lost. -/
  state : Lifecycle := .connected
  /-- The endpoint was disconnected. -/
  lost : Bool := false
  /-- The buffer is still to be reset. -/
  resetting : Bool := false
  /-- Jobs of others may hold the queue up. -/
  held : Bool := false

/-- What is left of a job when some messages are still to be handled. -/
def Job.pending (b : EndpointRef) : List Message → List Job
  | [] => []
  | messages => [.handle b messages]

namespace Job

theorem isFor_parse (b : EndpointRef) : (parse b).isFor b = true := beq_self_eq_true b

theorem isFor_reset (b : EndpointRef) : (reset b).isFor b = true := beq_self_eq_true b

theorem isFor_of_mem_pending {b : EndpointRef} {messages : List Message} {j : Job}
    (hj : j ∈ pending b messages) : j.isFor b = true := by
  cases messages with
  | nil => cases hj
  | cons m rest =>
      rw [List.mem_singleton.1 hj]
      exact beq_self_eq_true b

end Job

namespace Progress

/-- The jobs that are to be done behind the messages that wait. -/
def later (p : Progress) (b : EndpointRef) : List Job :=
  List.replicate p.parses (.parse b) ++ if p.resetting then [.reset b] else []

/-- All that a queue is to do for an endpoint. -/
def jobs (p : Progress) (b : EndpointRef) : List Job := Job.pending b p.waiting ++ p.later b

/-- What stands at the head of the jobs: the messages that wait, else a parse, else the reset. -/
theorem jobs_eq_cons {p : Progress} {b : EndpointRef} {j : Job} {js : List Job}
    (h : p.jobs b = j :: js) :
    (∃ m ms, p.waiting = m :: ms ∧ j = .handle b (m :: ms) ∧ js = p.later b) ∨
      (p.waiting = [] ∧ ∃ n, p.parses = n + 1 ∧ j = .parse b ∧
        js = { p with parses := n }.later b) ∨
      (p.waiting = [] ∧ p.parses = 0 ∧ p.resetting = true ∧ j = .reset b ∧ js = []) := by
  obtain ⟨received, done, waiting, left, parses, state, lost, resetting, held⟩ := p
  cases waiting with
  | cons m ms =>
      obtain ⟨rfl, rfl⟩ := List.cons.inj h
      exact .inl ⟨m, ms, rfl, rfl, rfl⟩
  | nil =>
      cases parses with
      | succ n =>
          obtain ⟨rfl, rfl⟩ := List.cons.inj h
          exact .inr (.inl ⟨rfl, n, rfl, rfl, rfl⟩)
      | zero =>
          cases resetting with
          | false => cases h
          | true =>
              obtain ⟨rfl, rfl⟩ := List.cons.inj h
              exact .inr (.inr ⟨rfl, rfl, rfl, rfl, rfl⟩)

theorem of_jobs_eq_nil {p : Progress} {b : EndpointRef} (h : p.jobs b = []) :
    p.waiting = [] ∧ p.parses = 0 := by
  obtain ⟨received, done, waiting, left, parses, state, lost, resetting, held⟩ := p
  cases waiting with
  | cons m ms => cases h
  | nil =>
      cases parses with
      | succ n => cases h
      | zero => exact ⟨rfl, rfl⟩

def hear (p : Progress) (data : Bytes) : Progress :=
  { p with received := p.received ++ data, rest := p.rest ++ data, parses := p.parses + 1 }

def lose (p : Progress) : Progress := { p with lost := true, resetting := true }

/-- The message in front has been dispatched. -/
def dispatch (p : Progress) (m : Message) (ms : List Message) : Progress :=
  { p with done := p.done ++ [m], waiting := ms }

theorem jobs_hear {p : Progress} (hresetting : p.resetting = false) (b : EndpointRef)
    (data : Bytes) : (p.hear data).jobs b = p.jobs b ++ [.parse b] := by
  simp only [jobs, later, hear, hresetting, Bool.false_eq_true, if_false, List.append_nil,
    List.append_assoc, List.replicate_succ']

theorem later_lose {p : Progress} (hresetting : p.resetting = false) (b : EndpointRef) :
    p.lose.later b = p.later b ++ [.reset b] := by
  simp only [later, lose, hresetting, Bool.false_eq_true, if_false, if_true, List.append_nil]

theorem jobs_lose {p : Progress} (hresetting : p.resetting = false) (b : EndpointRef) :
    p.lose.jobs b = p.jobs b ++ [.reset b] := by
  rw [jobs, later_lose hresetting, ← List.append_assoc]
  rfl

end Progress

/-- The endpoint has parsed as much of what it received as is said. -/
structure Endpoint.Agrees (x : Endpoint) (r : QueueRef) (g : Engine) (type : EndpointType)
    (p : Progress) : Prop where
  typed : x.type = type
  taken : g.protocol.Takes g.registry p.received (p.done ++ p.waiting) p.rest
  idle : p.parses = 0 → g.protocol.front g.registry p.rest = .incomplete
  buffer : x.buffer = if p.lost && !p.resetting then [] else p.rest
  cleared : p.lost = true → p.resetting = false → p.parses = 0
  connected : p.lost = false → x.state = p.state ∧ x.reason = none ∧
    ∃ h, x.handle = some h ∧ h.queue = r
  ended : p.lost = true → x.state = .disconnected ∧
    ∃ reason, x.reason = some reason ∧ reason.discardsPending = false

/-- The queue goes on to the end of what it is to do for the endpoint. -/
structure Queue.Serves (q : Queue Job) (p : Progress) : Prop where
  free : p.held = false → Job.hold false ∉ q.backlog
  name : Queue.nameRefusal? q.name = none
  opened : p.lost = false → q.disposed = false ∧ p.resetting = false

/-- The queue will do for the endpoint what is said. -/
structure Queue.Agrees (q : Queue Job) (b : EndpointRef) (p : Progress) : Prop
    extends q.Serves p where
  jobs : q.backlog.filter (Job.isFor b) = p.jobs b

/-- The worker of the queue is at a job, and these of the endpoint stand behind it. -/
structure Queue.Busy (q : Queue Job) (b : EndpointRef) (p : Progress) (js : List Job) : Prop
    extends q.Serves p where
  backlog : ∃ j rest, q.backlog = j :: rest ∧ rest.filter (Job.isFor b) = js

namespace Node

/-- A node in which an endpoint has come so far, its queue apart. -/
structure HasReceived (b : EndpointRef) (r : QueueRef) (g : Engine) (type : EndpointType)
    (p : Progress) (s : Node) : Prop where
  engine : s.engine b = g
  panic : s.panic = none
  alone : s.Alone b r
  endpoint : ∃ x, s.endpoint? b = some x ∧ x.Agrees r g type p
  dispatched : s.dispatched b = p.done.map fun m ↦ (m, g.registry.handles m type)

/-- A node in which an endpoint has come so far. -/
structure Reception (b : EndpointRef) (r : QueueRef) (g : Engine) (type : EndpointType)
    (p : Progress) (s : Node) : Prop extends HasReceived b r g type p s where
  queue : ∃ q, s.queue? r = some q ∧ q.Agrees b p

/-- A node in which an endpoint has come so far while the worker of its queue is at a job. -/
structure Midway (b : EndpointRef) (r : QueueRef) (g : Engine) (type : EndpointType)
    (p : Progress) (js : List Job) (s : Node) : Prop extends HasReceived b r g type p s where
  queue : ∃ q, s.queue? r = some q ∧ q.Busy b p js

end Node

/-! ## What leaves the progress as it is -/

section Agrees

variable {b : EndpointRef} {r : QueueRef} {g : Engine} {type : EndpointType} {p p' : Progress}

theorem Endpoint.Agrees.of_core {x x' : Endpoint} (h : x.Agrees r g type p)
    (hcore : x'.core = x.core) : x'.Agrees r g type p where
  typed := (congrArg Endpoint.type hcore :).trans h.typed
  taken := h.taken
  idle := h.idle
  buffer := (congrArg Endpoint.buffer hcore :).trans h.buffer
  cleared := h.cleared
  connected hlost := by
    obtain ⟨hstate, hreason, handle, hhandle, hqueue⟩ := h.connected hlost
    refine ⟨(congrArg Endpoint.state hcore :).trans hstate,
      (congrArg Endpoint.reason hcore :).trans hreason, handle,
      (congrArg Endpoint.handle hcore :).trans hhandle, hqueue⟩
  ended hlost := by
    obtain ⟨hstate, reason, hreason, hkeeps⟩ := h.ended hlost
    exact ⟨(congrArg Endpoint.state hcore :).trans hstate, reason,
      (congrArg Endpoint.reason hcore :).trans hreason, hkeeps⟩

/-- Only the endpoint's rate changes. -/
theorem Endpoint.Agrees.rate {x : Endpoint} (h : x.Agrees r g type p) (rate : Rate) :
    ({ x with rate := rate } : Endpoint).Agrees r g type p :=
  ⟨h.typed, h.taken, h.idle, h.buffer, h.cleared, h.connected, h.ended⟩

theorem Endpoint.Agrees.discarding {x : Endpoint} (h : x.Agrees r g type p) :
    x.discarding = false := by
  rw [Endpoint.discarding]
  cases hlost : p.lost with
  | false => rw [(h.connected hlost).2.1]
  | true =>
      obtain ⟨-, reason, hreason, hkeeps⟩ := h.ended hlost
      rw [hreason]
      exact hkeeps

theorem Endpoint.Agrees.hear {x : Endpoint} (h : x.Agrees r g type p) (hlost : p.lost = false)
    (data : Bytes) :
    ({ x with buffer := x.buffer ++ data } : Endpoint).Agrees r g type (p.hear data) where
  typed := h.typed
  taken := h.taken.append data
  idle hnone := absurd hnone (Nat.succ_ne_zero _)
  buffer := by
    simp only [Progress.hear, h.buffer, hlost, Bool.false_and, Bool.false_eq_true, if_false]
  cleared hgone := absurd hgone (ne_true_of_eq_false hlost)
  connected := h.connected
  ended := h.ended

/-- A disconnect leaves what was received to the jobs that are still to be done. -/
theorem Endpoint.Agrees.terminated {x : Endpoint} (h : x.Agrees r g type p)
    (hlost : p.lost = false) {reason : DisconnectReason}
    (hkeeps : reason.discardsPending = false) :
    (x.terminated reason).Agrees r g type p.lose where
  typed := h.typed
  taken := h.taken
  idle := h.idle
  buffer := by
    refine h.buffer.trans ?_
    rw [hlost]
    rfl
  cleared _ hnot := absurd hnot Bool.noConfusion
  connected hnot := absurd hnot Bool.noConfusion
  ended _ := ⟨rfl, reason, rfl, hkeeps⟩

/-- A buffer that is still to be parsed has not been reset. -/
theorem Endpoint.Agrees.kept {x : Endpoint} (h : x.Agrees r g type p) {n : Nat}
    (hparses : p.parses = n + 1) : (p.lost && !p.resetting) = false := by
  cases hlost : p.lost with
  | false => rfl
  | true =>
      cases hresetting : p.resetting with
      | true => rfl
      | false =>
          have hnone := h.cleared hlost hresetting
          rw [hparses] at hnone
          cases hnone

theorem Queue.Serves.gains {q q' : Queue Job} (h : q.Serves p) (hq : q.Gains b q') :
    q'.Serves p := by
  obtain ⟨others, hbacklog, hothers⟩ := hq.backlog
  refine ⟨fun hheld hmem ↦ ?_, hq.name ▸ h.name, fun hlost ↦ ?_⟩
  · rw [hbacklog, List.mem_append] at hmem
    rcases hmem with hmem | hmem
    · exact h.free hheld hmem
    · exact (hothers _ hmem).2 rfl
  · exact ⟨hq.disposed.trans (h.opened hlost).1, (h.opened hlost).2⟩

theorem Queue.Agrees.gains {q q' : Queue Job} (h : q.Agrees b p) (hq : q.Gains b q') :
    q'.Agrees b p := by
  obtain ⟨others, hbacklog, hothers⟩ := hq.backlog
  refine ⟨h.toServes.gains hq, ?_⟩
  rw [hbacklog, List.filter_append, Job.filter_of_foreign hothers, List.append_nil, h.jobs]

theorem Queue.Busy.gains {q q' : Queue Job} {js : List Job} (h : q.Busy b p js)
    (hq : q.Gains b q') : q'.Busy b p js := by
  obtain ⟨others, hbacklog, hothers⟩ := hq.backlog
  obtain ⟨j, rest, hhead, hrest⟩ := h.backlog
  refine ⟨h.toServes.gains hq, j, rest ++ others, ?_, ?_⟩
  · rw [hbacklog, hhead, List.cons_append]
  · rw [List.filter_append, Job.filter_of_foreign hothers, List.append_nil, hrest]

/-- The reset is handed in. -/
theorem Queue.Serves.lose {q q' : Queue Job} (h : q.Serves p)
    (hbacklog : q'.backlog = q.backlog ++ [.reset b]) (hname : q'.name = q.name) :
    q'.Serves p.lose := by
  refine ⟨fun hheld hmem ↦ ?_, hname ▸ h.name, fun hnot ↦ absurd hnot Bool.noConfusion⟩
  rw [hbacklog, List.mem_append, List.mem_singleton] at hmem
  rcases hmem with hmem | hmem
  · exact h.free hheld hmem
  · cases hmem

end Agrees

namespace Node

variable {b : EndpointRef} {r : QueueRef} {g : Engine} {type : EndpointType} {p p' : Progress}
  {js : List Job} {s s' : Node}

namespace HasReceived

theorem spares (h : s.HasReceived b r g type p) (hs : Spares b r s s')
    (hpanic : s'.panic = none) : s'.HasReceived b r g type p where
  engine := (congrFun hs.engine b).trans h.engine
  panic := hpanic
  alone := hs.alone h.alone
  endpoint := by
    obtain ⟨x, hx, hagrees⟩ := h.endpoint
    obtain ⟨x', hx', hcore⟩ := hs.endpoint hx
    exact ⟨x', hx', hagrees.of_core hcore⟩
  dispatched := hs.dispatched.trans h.dispatched

theorem modifyQueue (h : s.HasReceived b r g type p) (t : QueueRef)
    (f : Queue Job → Queue Job) : (s.modifyQueue t f).HasReceived b r g type p where
  engine := (congrFun (s.engine_modifyQueue t f) b).trans h.engine
  panic := (s.panic_modifyQueue t f).trans h.panic
  alone := h.alone.of_endpoint? fun e _ ↦ s.endpoint?_modifyQueue e t f
  endpoint := by
    rw [endpoint?_modifyQueue]
    exact h.endpoint
  dispatched := by
    rw [Node.dispatched, log_modifyQueue]
    exact h.dispatched

/-- The endpoint itself takes a step, with nothing dispatched. -/
theorem modifyEndpoint (h : s.HasReceived b r g type p) {f : Endpoint → Endpoint}
    (hf : ∀ x, s.endpoint? b = some x → x.Agrees r g type p → (f x).Agrees r g type p')
    (hdone : p'.done = p.done) : (s.modifyEndpoint b f).HasReceived b r g type p' where
  engine := h.engine
  panic := h.panic
  alone := h.alone.of_endpoint? fun _ he ↦ s.endpoint?_modifyEndpoint_of_ne he.symm f
  endpoint := by
    obtain ⟨x, hx, hagrees⟩ := h.endpoint
    exact ⟨f x, by rw [endpoint?_modifyEndpoint_self, hx]; rfl, hf x hx hagrees⟩
  dispatched := hdone ▸ h.dispatched

/-- An endpoint has a reason when it is lost, and no other. -/
theorem lost_eq (h : s.HasReceived b r g type p) : p.lost = (s.reason? b).isSome := by
  obtain ⟨x, hx, hagrees⟩ := h.endpoint
  rw [reason?, hx, Option.bind_some]
  cases hlost : p.lost with
  | false => rw [(hagrees.connected hlost).2.1, Option.isSome_none]
  | true =>
      obtain ⟨-, reason, hreason, -⟩ := hagrees.ended hlost
      rw [hreason, Option.isSome_some]

/-- A reason that it has drops nothing. -/
theorem keeps (h : s.HasReceived b r g type p) {reason : DisconnectReason}
    (hreason : s.reason? b = some reason) : reason.discardsPending = false := by
  obtain ⟨x, hx, hagrees⟩ := h.endpoint
  rw [reason?, hx, Option.bind_some] at hreason
  have hdiscarding := hagrees.discarding
  rw [Endpoint.discarding, hreason] at hdiscarding
  exact hdiscarding

/-- Only an endpoint that has connected and is not lost is connected. -/
theorem isConnected_eq (h : s.HasReceived b r g type p) :
    s.isConnected b = (!p.lost && p.state.isConnected) := by
  obtain ⟨x, hx, hagrees⟩ := h.endpoint
  have hstate : s.isConnected b = x.state.isConnected := by
    rw [isConnected, hx]
  rw [hstate]
  cases hlost : p.lost with
  | false =>
      rw [(hagrees.connected hlost).1]
      rfl
  | true =>
      rw [(hagrees.ended hlost).1]
      rfl

end HasReceived

theorem Reception.spares (h : s.Reception b r g type p) (hs : Spares b r s s')
    (hpanic : s'.panic = none) : s'.Reception b r g type p := by
  obtain ⟨q, hq, hagrees⟩ := h.queue
  obtain ⟨q', hq', hgains⟩ := hs.queue q hq
  exact ⟨h.toHasReceived.spares hs hpanic, q', hq', hagrees.gains hgains⟩

theorem Midway.spares (h : s.Midway b r g type p js) (hs : Spares b r s s')
    (hpanic : s'.panic = none) : s'.Midway b r g type p js := by
  obtain ⟨q, hq, hbusy⟩ := h.queue
  obtain ⟨q', hq', hgains⟩ := hs.queue q hq
  exact ⟨h.toHasReceived.spares hs hpanic, q', hq', hbusy.gains hgains⟩

/-- The endpoint changes in what has nothing to do with its progress. -/
theorem Reception.modifyEndpoint (h : s.Reception b r g type p) {f : Endpoint → Endpoint}
    (hf : ∀ x : Endpoint, x.Agrees r g type p → (f x).Agrees r g type p) :
    (s.modifyEndpoint b f).Reception b r g type p := by
  obtain ⟨q, hq, hqueue⟩ := h.queue
  exact ⟨h.toHasReceived.modifyEndpoint (fun x _ ↦ hf x) rfl, q,
    (s.queue?_modifyEndpoint b r f).trans hq, hqueue⟩

/-! ## Octets arrive, or no more will -/

/-- What arrives goes behind the buffer, and a parse behind the jobs. -/
theorem Reception.receive (h : s.Reception b r g type p) (hlost : p.lost = false)
    (hconnected : p.state = .connected) (data : Bytes) :
    (s.receive b data).Reception b r g type (p.hear data) := by
  obtain ⟨x, hx, hagrees⟩ := h.endpoint
  obtain ⟨q, hq, hqueue⟩ := h.queue
  obtain ⟨hstate, -, handle, hhandle, hr⟩ := hagrees.connected hlost
  obtain ⟨hopen, hresetting⟩ := hqueue.opened hlost
  have hbegun : (s.setEndpoint b { x with buffer := x.buffer ++ data }).HasReceived b r g type
      (p.hear data) :=
    h.toHasReceived.modifyEndpoint (fun _ _ _ ↦ hagrees.hear hlost data) rfl
  have hqueue? := (s.queue?_setEndpoint b r { x with buffer := x.buffer ++ data }).trans hq
  have htaken := enqueue_of_open _ r hqueue? hopen hqueue.name (.parse b)
  have hisConnected : x.state.isConnected = true := by
    rw [hstate, hconnected]
    rfl
  rw [Node.receive, hx]
  simp only [hisConnected, if_true]
  generalize s.setEndpoint b { x with buffer := x.buffer ++ data } = s₁ at hbegun hqueue? htaken ⊢
  simp only [hhandle, hr, htaken]
  refine ⟨hbegun.modifyQueue r _, { q with backlog := q.backlog ++ [.parse b], started := true },
    ?_, ⟨fun hheld hmem ↦ ?_, hqueue.name, fun _ ↦ ⟨hopen, hresetting⟩⟩, ?_⟩
  · rw [queue?_modifyQueue_self, hqueue?]
    rfl
  · rw [List.mem_append, List.mem_singleton] at hmem
    rcases hmem with hmem | hmem
    · exact hqueue.free hheld hmem
    · cases hmem
  · rw [List.filter_append, hqueue.jobs, List.filter_cons_of_pos (Job.isFor_parse b),
      List.filter_nil, Progress.jobs_hear hresetting]

/-- An endpoint that is not connected is deaf. -/
theorem receive_of_not_isConnected (h : s.isConnected b = false) (data : Bytes) :
    s.receive b data = s := by
  rw [isConnected] at h
  rw [Node.receive]
  split
  · rfl
  · next x hx =>
    rw [hx] at h
    rw [if_neg (ne_true_of_eq_false h)]

theorem HasReceived.ends (h : s.HasReceived b r g type p) (hlost : p.lost = false)
    {reason : DisconnectReason} (hkeeps : reason.discardsPending = false)
    (hends : Ends b r reason s s') : s'.HasReceived b r g type p.lose where
  engine := (congrFun hends.engine b).trans h.engine
  panic := hends.panic
  alone := h.alone.of_endpoint? hends.others
  endpoint := by
    obtain ⟨x, hx, hagrees⟩ := h.endpoint
    refine ⟨x.terminated reason, ?_, hagrees.terminated hlost hkeeps⟩
    rw [hends.endpoint, hx]
    rfl
  dispatched := hends.dispatched.trans h.dispatched

theorem HasReceived.attached (h : s.HasReceived b r g type p) (hlost : p.lost = false)
    {q : Queue Job} (hq : s.queue? r = some q) (hserves : q.Serves p) : s.Attached b r := by
  obtain ⟨x, hx, hagrees⟩ := h.endpoint
  obtain ⟨-, hreason, hhandle⟩ := hagrees.connected hlost
  exact ⟨⟨x, hx, hreason, hhandle⟩, q, hq, (hserves.opened hlost).1, hserves.name⟩

/-- Whoever disconnects the endpoint, what was received is still parsed, and reset only behind
that, if the reason lets it. -/
theorem Reception.lose (h : s.Reception b r g type p) (hlost : p.lost = false)
    {reason : DisconnectReason} (hkeeps : reason.discardsPending = false) :
    (s.disconnect b reason).1.Reception b r g type p.lose := by
  obtain ⟨q, hq, hqueue⟩ := h.queue
  obtain ⟨-, hends⟩ := (h.attached hlost hq hqueue.toServes).disconnect h.panic reason
  obtain ⟨q', hq', hbacklog, hname⟩ := hends.queue q hq
  refine ⟨h.toHasReceived.ends hlost hkeeps hends, q', hq', hqueue.toServes.lose hbacklog hname, ?_⟩
  rw [hbacklog, List.filter_append, hqueue.jobs, List.filter_cons_of_pos (Job.isFor_reset b),
    List.filter_nil, Progress.jobs_lose (hqueue.opened hlost).2]

theorem Midway.lose (h : s.Midway b r g type p js) (hlost : p.lost = false)
    {reason : DisconnectReason} (hkeeps : reason.discardsPending = false) :
    (s.disconnect b reason).1.Midway b r g type p.lose (js ++ [.reset b]) := by
  obtain ⟨q, hq, hbusy⟩ := h.queue
  obtain ⟨-, hends⟩ := (h.attached hlost hq hbusy.toServes).disconnect h.panic reason
  obtain ⟨q', hq', hbacklog, hname⟩ := hends.queue q hq
  obtain ⟨j, rest, hhead, hrest⟩ := hbusy.backlog
  refine ⟨h.toHasReceived.ends hlost hkeeps hends, q', hq', hbusy.toServes.lose hbacklog hname,
    j, rest ++ [.reset b], ?_, ?_⟩
  · rw [hbacklog, hhead, List.cons_append]
  · rw [List.filter_append, hrest, List.filter_cons_of_pos (Job.isFor_reset b), List.filter_nil]

/-- What a handler of the endpoint leaves: it may have disconnected it, for a reason that drops
nothing. -/
theorem Midway.sparesOrEnds (h : s.Midway b r g type p js) (hs : SparesOrEnds b r s s')
    (hpanic : s'.panic = none)
    (hkeeps : ∀ reason, s'.reason? b = some reason → reason.discardsPending = false) :
    s'.Midway b r g type p js ∨
      (p.lost = false ∧ s'.Midway b r g type p.lose (js ++ [.reset b])) := by
  rcases hs with hs | ⟨s₁, reason, hfirst, hsame, hrest⟩
  · exact .inl (h.spares hs hpanic)
  · have hmidway := h.spares hfirst (hsame.trans h.panic)
    obtain ⟨x, hx, hagrees⟩ := hmidway.endpoint
    cases hlost : p.lost with
    | true =>
        obtain ⟨-, first, hreason, -⟩ := hagrees.ended hlost
        rw [s₁.disconnect_of_reason b hx (congrArg Option.isSome hreason)] at hrest
        exact .inl (hmidway.spares hrest hpanic)
    | false =>
        obtain ⟨x', hx', hreason, -⟩ :=
          s₁.endpoint?_disconnect b hx (hagrees.connected hlost).2.1 reason
        have hgiven : s'.reason? b = some reason := by
          rw [hrest.reason?, reason?, hx', Option.bind_some, hreason]
        exact .inr ⟨rfl, (hmidway.lose hlost (hkeeps reason hgiven)).spares hrest hpanic⟩

/-! ## Worker steps -/

/-- The job at the head makes way for what is left of it. -/
theorem queue?_proceed {q : Queue Job} (hq : s.queue? r = some q) (e : EndpointRef)
    (messages : List Message) :
    ∃ q', (s.proceed r e messages).queue? r = some q' ∧
      q'.backlog = Job.pending e messages ++ q.backlog.tail ∧ q'.name = q.name ∧
      q'.disposed = q.disposed := by
  cases messages with
  | nil =>
      refine ⟨q.advance, ?_, rfl, rfl, rfl⟩
      rw [proceed, queue?_modifyQueue_self, hq]
      rfl
  | cons m rest =>
      refine ⟨q.resume (.handle e (m :: rest)), ?_, rfl, rfl, rfl⟩
      rw [proceed, queue?_modifyQueue_self, hq]
      · rfl
      · exact List.cons_ne_nil m rest

theorem HasReceived.proceed (h : s.HasReceived b r g type p) (e : EndpointRef)
    (messages : List Message) : (s.proceed r e messages).HasReceived b r g type p := by
  rw [Node.proceed.eq_def]
  split <;> exact h.modifyQueue r _

/-- A job at the head of the queue has been done in part or in whole. -/
theorem Midway.proceed (h : s.Midway b r g type p js) (e : EndpointRef) (messages : List Message)
    (hjobs : p.jobs b = (Job.pending e messages).filter (Job.isFor b) ++ js) :
    (s.proceed r e messages).Reception b r g type p := by
  obtain ⟨q, hq, hbusy⟩ := h.queue
  obtain ⟨j, rest, hhead, hrest⟩ := hbusy.backlog
  obtain ⟨q', hq', hbacklog', hname', hdisposed'⟩ := queue?_proceed hq e messages
  rw [hhead, List.tail_cons] at hbacklog'
  refine ⟨h.toHasReceived.proceed e messages, q', hq', ⟨fun hheld hmem ↦ ?_, hname' ▸ hbusy.name,
    hdisposed' ▸ hbusy.opened⟩, ?_⟩
  · rw [hbacklog', List.mem_append] at hmem
    rcases hmem with hmem | hmem
    · cases messages with
      | nil => cases hmem
      | cons m ms => cases List.mem_singleton.1 hmem
    · refine hbusy.free hheld ?_
      rw [hhead]
      exact List.mem_cons_of_mem j hmem
  · rw [hbacklog', List.filter_append, hrest, hjobs]

/-- A parse takes off the buffer what frames there are, unless what was received is refused. -/
theorem HasReceived.parseReceived (h : s.HasReceived b r g type p) (hwaiting : p.waiting = [])
    {n : Nat} (hparses : p.parses = n + 1)
    (hgood : ∀ failure, g.protocol.parse g.registry p.received ≠ .error failure) :
    ∃ x ms rest, s.parseReceived b = (s.setEndpoint b x, ms) ∧
      (s.setEndpoint b x).HasReceived b r g type
        { p with waiting := ms, rest := rest, parses := n } := by
  obtain ⟨x, hx, hagrees⟩ := h.endpoint
  have hkept := hagrees.kept hparses
  have hbuffer : x.buffer = p.rest := by
    rw [hagrees.buffer, hkept]
    rfl
  have htaken : g.protocol.Takes g.registry p.received p.done p.rest := by
    have := hagrees.taken
    rwa [hwaiting, List.append_nil] at this
  cases hparse : g.protocol.parse g.registry p.rest with
  | error failure => exact absurd (htaken.parse_error hparse) (hgood failure)
  | ok found =>
      obtain ⟨ms, rest⟩ := found
      obtain ⟨hfound, hend⟩ := Protocol.parse_eq_ok_iff.1 hparse
      refine ⟨{ x with buffer := rest }, ms, rest, ?_, h.modifyEndpoint (fun _ _ _ ↦ ?_) rfl⟩
      · rw [Node.parseReceived, hx]
        simp only [hagrees.discarding, Bool.false_eq_true, if_false, Engine.parse, h.engine,
          hbuffer, hparse]
      · refine ⟨hagrees.typed, htaken.trans hfound, fun _ ↦ hend, ?_, fun hgone hreset ↦ ?_,
          hagrees.connected, hagrees.ended⟩
        · dsimp only
          rw [hkept]
          rfl
        · have hnone := hagrees.cleared hgone hreset
          rw [hparses] at hnone
          cases hnone

/-- The message in front is on record as dispatched. -/
theorem HasReceived.record {m : Message} {ms : List Message} {x : Endpoint}
    (h : s.HasReceived b r g type p) (hwaiting : p.waiting = m :: ms)
    (hx : x.Agrees r g type p) :
    HasReceived b r g type (p.dispatch m ms)
      ((s.setEndpoint b x).record
        (.dispatched b m (((s.setEndpoint b x).engine b).registry.handles m x.type))) where
  engine := h.engine
  panic := h.panic
  alone := h.alone.of_endpoint? fun e he ↦ s.endpoint?_setEndpoint_of_ne he.symm x
  endpoint := by
    obtain ⟨y, hy, -⟩ := h.endpoint
    refine ⟨x, s.endpoint?_setEndpoint_self b hy x, hx.typed, ?_, hx.idle, hx.buffer, hx.cleared,
      hx.connected, hx.ended⟩
    have htaken := hx.taken
    rwa [hwaiting, List.append_cons] at htaken
  dispatched := by
    have hengine : (s.setEndpoint b x).engine b = g := h.engine
    have hmessage : (Record.dispatched b m (g.registry.handles m x.type)).dispatch? b =
        some (m, g.registry.handles m x.type) := if_pos rfl
    rw [hengine, dispatched_record, hmessage, hx.typed, Progress.dispatch, List.map_append]
    exact congrArg (· ++ _) h.dispatched

/-- The count of a message stays with the endpoint through the disconnect that it leads to. -/
theorem rate_handleMessage {x : Endpoint} (hx : s.endpoint? b = some x) (m : Message)
    (hexceeded : x.rate.record.above (s.engine b).protocol.maxRate = true) :
    ∃ y, (s.handleMessage b m).1.endpoint? b = some y ∧ y.rate = x.rate.record := by
  have hcounted := s.endpoint?_setEndpoint_self b hx { x with rate := x.rate.record }
  obtain ⟨x₁, hx₁, hrate₁⟩ := ((s.setEndpoint b { x with rate := x.rate.record }).trace
    (.rateExceeded (s.engine b).protocol.maxRate)).rate_disconnect b hcounted .spam
  refine ⟨x₁, ?_, hrate₁⟩
  rw [Node.handleMessage, hx]
  simp only [Rate.exceeds, hexceeded, if_true]
  rw [endpoint?, endpoints_contain]
  exact hx₁

/-- A message that waits is dispatched, if the rate allows it. -/
theorem HasReceived.handleMessage {m : Message} {ms : List Message}
    (h : s.HasReceived b r g type p) (hwaiting : p.waiting = m :: ms)
    (hrate : ∀ x, (s.handleMessage b m).1.endpoint? b = some x →
      x.rate.above g.protocol.maxRate = false) :
    (s.handleMessage b m).2 = true ∧
      ∃ s₀, s₀.HasReceived b r g type (p.dispatch m ms) ∧ s₀.queue? r = s.queue? r ∧
        SparesOrEnds b r s₀ (s.handleMessage b m).1 := by
  obtain ⟨x, hx, hagrees⟩ := h.endpoint
  have hcounted : (s.setEndpoint b { x with rate := x.rate.record }).endpoint? b =
      some { x with rate := x.rate.record } := s.endpoint?_setEndpoint_self b hx _
  have hbelow : ¬ x.rate.record.above g.protocol.maxRate = true := by
    intro hexceeded
    obtain ⟨y, hy, hsame⟩ := rate_handleMessage hx m (h.engine ▸ hexceeded)
    have hend := hrate y hy
    rw [hsame, hexceeded] at hend
    cases hend
  have hhandled : s.handleMessage b m =
      ((s.setEndpoint b { x with rate := x.rate.record }).dispatch b x.type m, true) := by
    rw [Node.handleMessage, hx]
    simp only [Rate.exceeds, h.engine, hbelow, hagrees.discarding, Bool.false_eq_true, if_false]
  have halone : (s.setEndpoint b { x with rate := x.rate.record }).Alone b r :=
    h.alone.of_endpoint? fun e he ↦ s.endpoint?_setEndpoint_of_ne he.symm _
  rw [hhandled]
  refine ⟨rfl, _, h.record hwaiting (hagrees.rate x.rate.record), ?_,
    Spares.dispatch_self halone (congrArg Option.isSome hcounted) x.type m⟩
  cases r <;> rfl

theorem work?_eq_some (h : s.work? r = some s') :
    ∃ q j rest, s.queue? r = some q ∧ q.backlog = j :: rest ∧ s' = s.execute r j := by
  rw [Node.work?] at h
  split at h
  · cases h
  · next q hq =>
    split at h
    · cases h
    · cases h
    · next j rest _ hbacklog => exact ⟨q, j, rest, hq, hbacklog, (Option.some.inj h).symm⟩

theorem endpoint?_proceed (s : Node) (r : QueueRef) (e : EndpointRef) (messages : List Message)
    (d : EndpointRef) : (s.proceed r e messages).endpoint? d = s.endpoint? d := by
  rw [Node.proceed.eq_def]
  split <;> exact s.endpoint?_modifyQueue d r _

theorem panic_proceed (s : Node) (r : QueueRef) (e : EndpointRef) (messages : List Message) :
    (s.proceed r e messages).panic = s.panic := by
  rw [Node.proceed.eq_def]
  split <;> exact s.panic_modifyQueue r _

theorem reason?_proceed (s : Node) (r : QueueRef) (e : EndpointRef) (messages : List Message)
    (d : EndpointRef) : (s.proceed r e messages).reason? d = s.reason? d :=
  congrArg (Option.bind · Endpoint.reason) (s.endpoint?_proceed r e messages d)

/-- The messages behind one that was handled stay at the head, unless they are to be dropped. -/
theorem execute_handle (s : Node) (r : QueueRef) (e : EndpointRef) (m : Message)
    (ms : List Message) :
    ∃ left, s.execute r (.handle e (m :: ms)) = (s.handleMessage e m).1.proceed r e left ∧
      ((s.handleMessage e m).2 = true → left = ms) := by
  rw [execute]
  split
  · next s₁ heq =>
    rw [heq]
    exact ⟨ms, rfl, fun _ ↦ rfl⟩
  · next s₁ heq =>
    rw [heq]
    exact ⟨[], rfl, fun hnot ↦ absurd hnot Bool.noConfusion⟩

/-- The next that the worker of a queue does is to have a message handled for an endpoint. -/
def handlesNext (b : EndpointRef) (r : QueueRef) (s : Node) : Bool :=
  match s.queue? r with
  | some q =>
    match q.backlog with
    | .handle e _ :: _ => e == b
    | _ => false
  | none => false

/-- The next that the worker of a queue does is to parse what an endpoint has received. -/
def parsesNext (b : EndpointRef) (r : QueueRef) (s : Node) : Bool :=
  match s.queue? r with
  | some q =>
    match q.backlog with
    | .parse e :: _ => e == b
    | _ => false
  | none => false

theorem handlesNext_of_head {q : Queue Job} {messages : List Message} {rest : List Job}
    (hq : s.queue? r = some q) (hhead : q.backlog = .handle b messages :: rest) :
    s.handlesNext b r = true := by
  rw [handlesNext, hq]
  dsimp only
  rw [hhead]
  exact beq_self_eq_true b

theorem parsesNext_of_head {q : Queue Job} {rest : List Job} (hq : s.queue? r = some q)
    (hhead : q.backlog = .parse b :: rest) : s.parsesNext b r = true := by
  rw [parsesNext, hq]
  dsimp only
  rw [hhead]
  exact beq_self_eq_true b

theorem head_of_parsesNext (h : s.parsesNext b r = true) :
    ∃ q rest, s.queue? r = some q ∧ q.backlog = .parse b :: rest := by
  rw [parsesNext] at h
  split at h
  · next q hq =>
    split at h
    · next e rest hhead =>
      rw [beq_iff_eq] at h
      exact ⟨q, rest, hq, h ▸ hhead⟩
    · cases h
  · cases h

/-- While the worker is at its first job, those of the endpoint stand behind that. -/
theorem Reception.midway (h : s.Reception b r g type p) (hs : s'.HasReceived b r g type p')
    (hqueue : s'.queue? r = s.queue? r) (hlost : p'.lost = p.lost) (hheld : p'.held = p.held)
    (hresetting : p'.lost = false → p'.resetting = p.resetting) {q : Queue Job} {j : Job}
    {rest : List Job} (hq : s.queue? r = some q) (hhead : q.backlog = j :: rest)
    (hrest : rest.filter (Job.isFor b) = js) : s'.Midway b r g type p' js := by
  obtain ⟨q', hq', hagrees⟩ := h.queue
  rw [hq, Option.some.injEq] at hq'
  subst hq'
  refine ⟨hs, q, hqueue.trans hq, ⟨fun hfree ↦ hagrees.free (hheld ▸ hfree), hagrees.name,
    fun hopen ↦ ?_⟩, j, rest, hhead, hrest⟩
  rw [hresetting hopen]
  exact hagrees.opened (hlost ▸ hopen)

/-- A job that is not the endpoint's leaves it where it is. -/
theorem Reception.foreign (h : s.Reception b r g type p) {q : Queue Job} {j : Job}
    {rest : List Job} (hq : s.queue? r = some q) (hhead : q.backlog = j :: rest)
    (hj : j.isFor b = false) (hrest : rest.filter (Job.isFor b) = p.jobs b) :
    (s.execute r j).Reception b r g type p := by
  obtain ⟨s₁, e, messages, hexecute, hothers, hspares, hpanic⟩ :=
    execute_of_foreign (r := r) hj h.alone h.panic
  have hnone : (Job.pending e messages).filter (Job.isFor b) = [] := by
    rcases hothers with rfl | he
    · rfl
    · cases messages with
      | nil => rfl
      | cons m ms => exact List.filter_cons_of_neg (ne_true_of_eq_false (beq_false_of_ne he))
  have hmidway := h.midway h.toHasReceived rfl rfl rfl (fun _ ↦ rfl) hq hhead hrest
  rw [hexecute]
  refine (hmidway.spares hspares hpanic).proceed e messages ?_
  rw [hnone, List.nil_append]

/-- A message that waits is handled, and its handler may disconnect the endpoint. -/
theorem Reception.handle (h : s.Reception b r g type p) {q : Queue Job} {m : Message}
    {ms : List Message} {rest : List Job} (hq : s.queue? r = some q)
    (hhead : q.backlog = .handle b (m :: ms) :: rest) (hwaiting : p.waiting = m :: ms)
    (hrest : rest.filter (Job.isFor b) = p.later b)
    (hkeeps : ∀ reason, (s.execute r (.handle b (m :: ms))).reason? b = some reason →
      reason.discardsPending = false)
    (hrate : ∀ x, (s.execute r (.handle b (m :: ms))).endpoint? b = some x →
      x.rate.above g.protocol.maxRate = false) :
    (s.execute r (.handle b (m :: ms))).Reception b r g type (p.dispatch m ms) ∨
      (s.execute r (.handle b (m :: ms))).Reception b r g type (p.dispatch m ms).lose := by
  obtain ⟨left, hexecute, hleft⟩ := s.execute_handle r b m ms
  rw [hexecute] at hrate hkeeps ⊢
  simp only [endpoint?_proceed, reason?_proceed] at hrate hkeeps
  obtain ⟨hgoes, s₀, hreceived, hsame, hdispatched⟩ :=
    h.toHasReceived.handleMessage hwaiting hrate
  rw [hleft hgoes]
  have hpending : (Job.pending b ms).filter (Job.isFor b) = Job.pending b ms :=
    List.filter_eq_self.2 fun _ ↦ Job.isFor_of_mem_pending
  have hmidway := h.midway hreceived hsame rfl rfl (fun _ ↦ rfl) hq hhead hrest
  rcases hmidway.sparesOrEnds hdispatched (s.panic_handleMessage b m h.panic) hkeeps with
    hmidway | ⟨hlost, hmidway⟩
  · refine .inl (hmidway.proceed b ms ?_)
    rw [hpending]
    rfl
  · obtain ⟨q', hq', hqueue⟩ := h.queue
    refine .inr (hmidway.proceed b ms ?_)
    have hopen : (p.dispatch m ms).resetting = false := (hqueue.opened hlost).2
    rw [hpending, Progress.jobs_lose hopen, Progress.jobs, List.append_assoc]
    rfl

/-- What is parsed waits to be handled. -/
theorem Reception.parse (h : s.Reception b r g type p) {q : Queue Job} {rest : List Job} {n : Nat}
    (hq : s.queue? r = some q) (hhead : q.backlog = .parse b :: rest) (hwaiting : p.waiting = [])
    (hparses : p.parses = n + 1)
    (hrest : rest.filter (Job.isFor b) = { p with parses := n }.later b)
    (hgood : ∀ failure, g.protocol.parse g.registry p.received ≠ .error failure) :
    ∃ ms left, (s.execute r (.parse b)).Reception b r g type
      { p with waiting := ms, rest := left, parses := n } := by
  obtain ⟨x, ms, left, hparse, hreceived⟩ :=
    h.toHasReceived.parseReceived hwaiting hparses hgood
  have hmidway := h.midway hreceived (s.queue?_setEndpoint b r x) rfl rfl (fun _ ↦ rfl) hq hhead
    hrest
  refine ⟨ms, left, ?_⟩
  rw [execute, hparse]
  refine hmidway.proceed b ms ?_
  rw [List.filter_eq_self.2 fun _ ↦ Job.isFor_of_mem_pending]
  rfl

/-- The reset is done behind all parses. -/
theorem Reception.reset (h : s.Reception b r g type p) {q : Queue Job} {rest : List Job}
    (hq : s.queue? r = some q) (hhead : q.backlog = .reset b :: rest) (hwaiting : p.waiting = [])
    (hparses : p.parses = 0) (hresetting : p.resetting = true)
    (hrest : rest.filter (Job.isFor b) = []) :
    (s.execute r (.reset b)).Reception b r g type { p with resetting := false } := by
  have hlost : p.lost = true := by
    obtain ⟨q', hq', hqueue⟩ := h.queue
    cases hlost : p.lost with
    | true => rfl
    | false =>
        rw [(hqueue.opened hlost).2] at hresetting
        cases hresetting
  have hcleared : (s.clearBuffer b).HasReceived b r g type { p with resetting := false } := by
    refine h.toHasReceived.modifyEndpoint (fun x _ hx ↦ ?_) rfl
    refine ⟨hx.typed, hx.taken, hx.idle, ?_, fun _ _ ↦ hparses, hx.connected, hx.ended⟩
    rw [hlost]
    rfl
  have hmidway := h.midway hcleared (s.queue?_modifyEndpoint b r _) rfl rfl
    (fun hnot ↦ absurd hlost (ne_true_of_eq_false hnot)) hq hhead hrest
  refine hmidway.proceed b [] ?_
  simp only [Progress.jobs, Progress.later, hwaiting, hparses]
  rfl

/-- A step of the worker brings the endpoint further in what it received, and neither loses nor
repeats any of it.  What was received has to be well-formed where it is parsed, the rate has to
stay below its ceiling, and a handler may disconnect the endpoint only for a reason that drops
nothing. -/
theorem Reception.work? (h : s.Reception b r g type p) (hwork : s.work? r = some s')
    (hgood : s.parsesNext b r = true →
      ∀ failure, g.protocol.parse g.registry p.received ≠ .error failure)
    (hkeeps : s.handlesNext b r = true →
      ∀ reason, s'.reason? b = some reason → reason.discardsPending = false)
    (hrate : ∀ x, s'.endpoint? b = some x → x.rate.above g.protocol.maxRate = false) :
    ∃ p', s'.Reception b r g type p' ∧ p'.received = p.received ∧ p'.state = p.state ∧
      p'.held = p.held ∧ (p'.lost = p.lost ∨ s.handlesNext b r = true) := by
  obtain ⟨q, j, rest, hq, hhead, rfl⟩ := work?_eq_some hwork
  obtain ⟨q', hq', hqueue⟩ := h.queue
  rw [hq, Option.some.injEq] at hq'
  subst hq'
  have hjobs := hqueue.jobs
  rw [hhead] at hjobs
  cases hj : j.isFor b with
  | false =>
      rw [List.filter_cons_of_neg (ne_true_of_eq_false hj)] at hjobs
      exact ⟨p, h.foreign hq hhead hj hjobs, rfl, rfl, rfl, .inl rfl⟩
  | true =>
      rw [List.filter_cons_of_pos hj] at hjobs
      rcases Progress.jobs_eq_cons hjobs.symm with ⟨m, ms, hwaiting, rfl, hlater⟩ |
        ⟨hwaiting, n, hparses, rfl, hlater⟩ | ⟨hwaiting, hparses, hresetting, rfl, hlater⟩
      · have hnext := handlesNext_of_head hq hhead
        rcases h.handle hq hhead hwaiting hlater (hkeeps hnext) hrate with hdone | hdone
        · exact ⟨_, hdone, rfl, rfl, rfl, .inr hnext⟩
        · exact ⟨_, hdone, rfl, rfl, rfl, .inr hnext⟩
      · obtain ⟨ms, left, hdone⟩ := h.parse hq hhead hwaiting hparses hlater
          (hgood (parsesNext_of_head hq hhead))
        exact ⟨_, hdone, rfl, rfl, rfl, .inl rfl⟩
      · have hdone := h.reset hq hhead hwaiting hparses hresetting hlater
        exact ⟨_, hdone, rfl, rfl, rfl, .inl rfl⟩

end Node

end MessageEngine
