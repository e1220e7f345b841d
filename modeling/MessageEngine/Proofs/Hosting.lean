import Mathlib
import MessageEngine.Proofs.AfterDisconnect
import MessageEngine.Proofs.JobHistory

/-!
# Endpoints and the queues that host them

If the handlers of all engines deal with their receivers alone, what becomes of
an endpoint is a matter of what it is, of the jobs that wait for it and of
what is asked of it.  Every queue that hosts it brings it to the same, be the
queue its own or shared with others; and what is done for the others leaves
it as it was.
-/

namespace MessageEngine

/-- Remarks apart, a handler deals with its receiver alone. -/
def Reaction.Local : Reaction → Prop
  | .done _ => True
  | .note _ next => next.Local
  | .send _ next => ∀ answer, (next answer).Local
  | .disconnect _ next => ∀ answer, (next answer).Local
  | .onDisconnect _ next => next.Local
  | .broadcast _ _ _ => False

def Registry.Local (registry : Registry) : Prop :=
  ∀ entry ∈ registry.handlers, ∀ m, (entry.2.react m).Local

theorem Registry.Local.react {registry : Registry} (h : registry.Local) {m : Message}
    {type : EndpointType} {handler : Handler}
    (hselect : registry.select m type = .handler handler) : (handler.react m).Local := by
  rw [select] at hselect
  split at hselect
  · cases hselect
  · next found hfound =>
    split at hselect
    · cases hselect
      obtain ⟨before, behind, heq, -⟩ := List.lookup_eq_some_iff.1 hfound
      have hmem : ((m.type, type.kind), handler) ∈ registry.handlers := by simp [heq]
      exact h _ hmem m
    · cases hselect

namespace Engine

/-- Two engines are the same to endpoints of a type. -/
structure Alike (type : EndpointType) (g g' : Engine) : Prop where
  protocol : g'.protocol = g.protocol
  types : g'.registry.types = g.registry.types
  select : ∀ m, g'.registry.select m type = g.registry.select m type

/-- What of an engine there is to one kind of endpoint: of the handlers only its own. -/
def only (g : Engine) (kind : EndpointKind) : Engine where
  registry := { g.registry with
    handlers := g.registry.handlers.filter fun entry ↦ entry.1.2 = kind }
  protocol := g.protocol

end Engine

theorem Registry.lookup_filter (handlers : List (HandlerKey × Handler)) (type : MessageType)
    (kind : EndpointKind) :
    (handlers.filter fun entry ↦ entry.1.2 = kind).lookup (type, kind) =
      handlers.lookup (type, kind) := by
  induction handlers with
  | nil => rfl
  | cons entry rest ih =>
      obtain ⟨⟨type', kind'⟩, handler⟩ := entry
      by_cases hkind : kind' = kind
      · subst hkind
        simp [List.lookup_cons, ih]
      · have hkey : ((type, kind) == (type', kind')) = false := by
          simp [Ne.symm hkind]
        rw [List.filter_cons_of_neg (by simpa using hkind), ih, List.lookup_cons, hkey]

theorem Protocol.parse_congr {registry registry' : Registry} (h : registry'.types = registry.types)
    (p : Protocol) (buffer : Bytes) : p.parse registry' buffer = p.parse registry buffer := by
  have hfront : ∀ octets, p.front registry' octets = p.front registry octets := by
    intro octets
    have hannounced : p.announced registry' = p.announced registry := by
      funext header
      simp only [announced, Registry.typeOf?, h]
    simp only [front, hannounced]
  exact parse_of_front_eq hfront buffer

namespace Engine

theorem alike_only (g : Engine) (type : EndpointType) : (g.only type.kind).Alike type g where
  protocol := rfl
  types := rfl
  select m := by
    have hlookup := Registry.lookup_filter g.registry.handlers m.type type.kind
    simp only [Registry.select, Registry.handler?, only, hlookup]

theorem local_only {g : Engine} (h : g.registry.Local) (kind : EndpointKind) :
    (g.only kind).registry.Local :=
  fun entry hentry ↦ h entry (List.mem_of_mem_filter hentry)

namespace Alike

variable {type : EndpointType} {g g' : Engine}

theorem parse (h : g.Alike type g') (buffer : Bytes) : g'.parse buffer = g.parse buffer := by
  rw [Engine.parse, Engine.parse, h.protocol]
  exact g.protocol.parse_congr h.types buffer

theorem serialize (h : g.Alike type g') (sender frame : UInt64) (m : Message) :
    g'.serialize sender frame m = g.serialize sender frame m := by
  rw [Engine.serialize, Engine.serialize, h.protocol]

end Alike

end Engine

def Endpoint.holding (x : Endpoint) (handle : Option Handle) : Endpoint :=
  { x with handle := handle }

theorem Endpoint.put_holding (x : Endpoint) (handle : Option Handle) (frame : Bytes) :
    (x.holding handle).put frame = (x.put frame).map (·.holding handle) := by
  cases hstate : x.state.isConnected with
  | false => simp [put, holding, hstate, Except.map]
  | true => cases houtbox : x.outbox.put frame <;> simp [put, holding, hstate, houtbox, Except.map]

theorem Endpoint.beginConnect_holding (x : Endpoint) (handle : Option Handle) :
    (x.holding handle).beginConnect = x.beginConnect.map (·.holding handle) := by
  cases hstate : x.state <;> simp [beginConnect, holding, hstate, Except.map]

theorem Endpoint.abortConnect_holding (x : Endpoint) (handle : Option Handle) :
    (x.holding handle).abortConnect = x.abortConnect.holding handle := by
  by_cases hstate : x.state = .connecting <;> simp [abortConnect, holding, hstate]

theorem Endpoint.markConnected_holding (x : Endpoint) (handle : Option Handle) :
    (x.holding handle).markConnected =
      (x.markConnected.1.holding handle, x.markConnected.2) := by
  cases hactive : x.state.isActive <;> simp [markConnected, holding, hactive]

theorem Endpoint.eq_of_put {x y : Endpoint} {frame : Bytes} (h : x.put frame = .ok y) :
    y = { x with outbox := y.outbox } := by
  rw [put] at h
  split at h
  · split at h
    · cases h
      rfl
    · cases h
  · cases h

/-- What an endpoint has to do with: the handlers for it, itself but for its handle, the jobs that
wait for it and the messages that were dispatched to it. -/
structure View where
  engine : Engine
  endpoint : Endpoint
  jobs : List Job
  dispatched : List (Message × Bool)
  handlers : engine.registry.Local

def View.counted (v : View) : View :=
  { v with endpoint := { v.endpoint with rate := v.endpoint.rate.record } }

namespace Node

variable {b e : EndpointRef} {r : QueueRef} {v : View} {s s' : Node}

/-- A queue hosts an endpoint, which has it until it is disconnected.  Jobs for the endpoint wait
nowhere else, and nobody else has a queue of its own. -/
structure Hosts (b : EndpointRef) (r : QueueRef) (v : View) (s : Node) : Prop where
  panic : s.panic = none
  engine : v.engine.Alike v.endpoint.type (s.engine b)
  handlers : ∀ e, (s.engine e).registry.Local
  alone : ∀ t, s.Alone b t
  endpoint : ∃ handle, s.endpoint? b = some (v.endpoint.holding handle) ∧
    (v.endpoint.reason = none → ∃ h, handle = some h ∧ h.queue = r) ∧
    (v.endpoint.reason ≠ none → handle = none)
  queue : ∃ q, s.queue? r = some q ∧ q.backlog.filter (Job.isFor b) = v.jobs ∧
    Queue.nameRefusal? q.name = none ∧ (v.endpoint.reason = none → q.disposed = false)
  elsewhere : ∀ t, t ≠ r → ∀ q ∈ s.queue? t, ∀ j ∈ q.backlog, j.isFor b = false
  dispatched : s.dispatched b = v.dispatched

/-- What came about is nothing to an endpoint. -/
structure Overlooks (b : EndpointRef) (s s' : Node) : Prop where
  spares : ∀ r, Spares b r s s'
  endpoint : s'.endpoint? b = s.endpoint? b
  /-- No queue was made meanwhile. -/
  queues : ∀ r, s.queue? r = none → s'.queue? r = none

namespace Overlooks

theorem trans {s'' : Node} (h : Overlooks b s s') (h' : Overlooks b s' s'') : Overlooks b s s'' :=
  ⟨fun r ↦ (h.spares r).trans (h'.spares r), h'.endpoint.trans h.endpoint,
    fun r hr ↦ h'.queues r (h.queues r hr)⟩

theorem of_leaves (h : Leaves s s') (hspares : ∀ r, Spares b r s s')
    (hendpoint : s'.endpoint? b = s.endpoint? b) : Overlooks b s s' :=
  ⟨hspares, hendpoint, fun r hr ↦ (h.queues r).trans hr⟩

theorem of_passes (h : Passes e s s') (hspares : ∀ r, Spares b r s s')
    (hendpoint : s'.endpoint? b = s.endpoint? b) : Overlooks b s s' := by
  rcases h with hleaves | ⟨handle, hparts⟩
  · exact of_leaves hleaves hspares hendpoint
  · refine ⟨hspares, hendpoint, fun r hr ↦ ?_⟩
    rw [hparts.queues, hr, Option.map_none]

theorem panic (s : Node) (text : Option String) : Overlooks b s { s with panic := text } :=
  of_leaves (.panic s text) (fun _ ↦ .panic s text) rfl

theorem record {x : Record} (hx : x.dispatch? b = none) : Overlooks b s (s.record x) :=
  of_leaves (.record s x) (fun _ ↦ .record hx) rfl

theorem trace (s : Node) (t : Trace) : Overlooks b s (s.trace t) := record rfl

theorem runHook (reason : DisconnectReason) (hook : Hook) (s : Node) :
    Overlooks b s (Node.runHook reason hook s) where
  spares _ := .runHook reason hook s
  endpoint := congrArg (·[b]?) (s.endpoints_runHook reason hook)
  queues r hr := (s.queue?_runHook r reason hook).trans hr

end Overlooks

namespace Hosts

/-! ## Single steps -/

theorem holding (h : s.Hosts b r v) :
    ∃ handle, s.endpoint? b = some (v.endpoint.holding handle) := by
  obtain ⟨handle, hx, -⟩ := h.endpoint
  exact ⟨handle, hx⟩

theorem of_queue? (h : s.Hosts b r v) {q : Queue Job} (hq : s.queue? r = some q) :
    q.backlog.filter (Job.isFor b) = v.jobs ∧ Queue.nameRefusal? q.name = none ∧
      (v.endpoint.reason = none → q.disposed = false) := by
  obtain ⟨q₀, hq₀, hrest⟩ := h.queue
  cases hq.symm.trans hq₀
  exact hrest

theorem isConnected (h : s.Hosts b r v) : s.isConnected b = v.endpoint.state.isConnected := by
  obtain ⟨handle, hx⟩ := h.holding
  rw [Node.isConnected, hx]
  rfl

theorem overlooks (h : s.Hosts b r v) (hs : Overlooks b s s') (hpanic : s'.panic = none) :
    s'.Hosts b r v where
  panic := hpanic
  engine := (hs.spares r).engine ▸ h.engine
  handlers := (hs.spares r).engine ▸ h.handlers
  alone t := (hs.spares t).alone (h.alone t)
  endpoint := hs.endpoint ▸ h.endpoint
  queue := by
    obtain ⟨q, hq, hjobs, hname, hopen⟩ := h.queue
    obtain ⟨q', hq', ⟨jobs, hbacklog, hforeign⟩, hname', hdisposed'⟩ := (hs.spares r).queue q hq
    refine ⟨q', hq', ?_, hname' ▸ hname, hdisposed' ▸ hopen⟩
    rw [hbacklog, List.filter_append, Job.filter_of_foreign hforeign, List.append_nil, hjobs]
  elsewhere t ht q' hq' j hj := by
    cases hq : s.queue? t with
    | none =>
        rw [hs.queues t hq] at hq'
        cases hq'
    | some q =>
        obtain ⟨q'', hq'', ⟨jobs, hbacklog, hforeign⟩, -, -⟩ := (hs.spares t).queue q hq
        rw [hq'', Option.mem_some_iff] at hq'
        subst hq'
        rw [hbacklog, List.mem_append] at hj
        rcases hj with hj | hj
        · exact h.elsewhere t ht q hq j hj
        · exact (hforeign j hj).1
  dispatched := (hs.spares r).dispatched.trans h.dispatched

theorem setEndpoint (h : s.Hosts b r v) {handle : Option Handle}
    (hx : s.endpoint? b = some (v.endpoint.holding handle)) {y : Endpoint}
    (htype : y.type = v.endpoint.type) (hreason : y.reason = v.endpoint.reason) :
    (s.setEndpoint b (y.holding handle)).Hosts b r { v with endpoint := y } where
  panic := h.panic
  engine := by
    dsimp only
    rw [htype]
    exact h.engine
  handlers := h.handlers
  alone t := (h.alone t).of_endpoint? fun e he ↦ s.endpoint?_setEndpoint_of_ne he.symm _
  endpoint := by
    obtain ⟨handle', hx', hheld⟩ := h.endpoint
    rw [hx, Option.some.injEq] at hx'
    obtain rfl : handle = handle' := congrArg Endpoint.handle hx'
    refine ⟨handle, s.endpoint?_setEndpoint_self b hx _, ?_⟩
    dsimp only
    rw [hreason]
    exact hheld
  queue := by
    dsimp only
    rw [s.queue?_setEndpoint, hreason]
    exact h.queue
  elsewhere t := by
    rw [s.queue?_setEndpoint]
    exact h.elsewhere t
  dispatched := h.dispatched

theorem record (h : s.Hosts b r v) (x : Record) :
    (s.record x).Hosts b r { v with dispatched := v.dispatched ++ (x.dispatch? b).toList } where
  panic := h.panic
  engine := h.engine
  handlers := h.handlers
  alone := h.alone
  endpoint := h.endpoint
  queue := by
    rw [queue?_record]
    exact h.queue
  elsewhere t := by
    rw [queue?_record]
    exact h.elsewhere t
  dispatched := by rw [dispatched_record, h.dispatched]

/-- A job for the endpoint is taken by the queue that it has. -/
theorem enqueue (h : s.Hosts b r v) (hreason : v.endpoint.reason = none) {j : Job}
    (hj : j.isFor b = true) :
    (s.enqueue r j).1.Hosts b r { v with jobs := v.jobs ++ [j] } := by
  obtain ⟨q, hq, hjobs, hname, hopen⟩ := h.queue
  rw [s.enqueue_of_open r hq (hopen hreason) hname]
  refine {
    panic := (s.panic_modifyQueue r _).trans h.panic
    engine := (s.engine_modifyQueue r _).symm ▸ h.engine
    handlers := (s.engine_modifyQueue r _).symm ▸ h.handlers
    alone := fun t ↦ (h.alone t).of_endpoint? fun e _ ↦ s.endpoint?_modifyQueue e r _
    endpoint := ?_
    queue := ⟨{ q with backlog := q.backlog ++ [j], started := true }, ?_, ?_, hname, hopen⟩
    elsewhere := fun t ht ↦ ?_
    dispatched := ?_ }
  · rw [endpoint?_modifyQueue]
    exact h.endpoint
  · rw [queue?_modifyQueue_self, hq, Option.map_some]
  · dsimp only
    rw [List.filter_append, hjobs, List.filter_cons_of_pos hj, List.filter_nil]
  · rw [queue?_modifyQueue, if_neg ht.symm]
    exact h.elsewhere t ht
  · rw [Node.dispatched, log_modifyQueue]
    exact h.dispatched

theorem attached (h : s.Hosts b r v) (hreason : v.endpoint.reason = none) : s.Attached b r := by
  obtain ⟨handle, hx, hheld, -⟩ := h.endpoint
  obtain ⟨q, hq, -, hname, hopen⟩ := h.queue
  exact ⟨⟨_, hx, hreason, hheld hreason⟩, q, hq, hopen hreason, hname⟩

theorem disconnect (h : s.Hosts b r v) (hreason : v.endpoint.reason = none)
    (reason : DisconnectReason) :
    (s.disconnect b reason).1.Hosts b r { v with
        endpoint := v.endpoint.terminated reason, jobs := v.jobs ++ [.reset b] } ∧
      (s.disconnect b reason).2 = true := by
  obtain ⟨handle, hx, hheld, -⟩ := h.endpoint
  obtain ⟨own, rfl, hown⟩ := hheld hreason
  obtain ⟨htrue, hends⟩ := (h.attached hreason).disconnect h.panic reason
  have hparts := Parts.disconnect h.panic hx hreason reason
  refine ⟨?_, htrue⟩
  generalize (s.disconnect b reason).1 = s' at hends hparts
  refine {
    panic := hends.panic
    engine := hends.engine ▸ h.engine
    handlers := hends.engine ▸ h.handlers
    alone := fun t ↦ (h.alone t).of_endpoint? hends.others
    endpoint := ⟨none, ?_, fun hnone ↦ ?_, fun _ ↦ rfl⟩
    queue := ?_
    elsewhere := fun t ht ↦ ?_
    dispatched := hends.dispatched.trans h.dispatched }
  · rw [hends.endpoint, hx]
    rfl
  · cases hnone
  · obtain ⟨q, hq, hjobs, hname, -⟩ := h.queue
    obtain ⟨q', hq', hbacklog, hname'⟩ := hends.queue q hq
    refine ⟨q', hq', ?_, hname' ▸ hname, fun hnone ↦ ?_⟩
    · rw [hbacklog, List.filter_append, hjobs, List.filter_cons_of_pos (Job.isFor_reset b),
        List.filter_nil]
    · cases hnone
  · have hsame : s'.queue? t = s.queue? t := by
      have hne : own.queue ≠ t := fun heq ↦ ht (heq.symm.trans hown)
      rw [hparts.queues]
      cases s.queue? t <;> simp [partFrom, Endpoint.holding, hne]
    rw [hsame]
    exact h.elsewhere t ht

end Hosts

/-- What a step comes to is the same wherever the endpoint is hosted. -/
def Determines {α : Type} (b : EndpointRef) (v : View) (step : Node → Node × α) : Prop :=
  ∃ v' answer, ∀ r s, s.Hosts b r v → (step s).1.Hosts b r v' ∧ (step s).2 = answer

namespace Determines

variable {α β : Type}

theorem pure (a : α) : Determines b v fun s ↦ (s, a) := ⟨v, a, fun _ _ h ↦ ⟨h, rfl⟩⟩

/-- A step that is followed by one that its answer leads to. -/
theorem bind {first : Node → Node × α} (hfirst : Determines b v first)
    (second : α → Node → Node × β) (hsecond : ∀ v' answer, Determines b v' (second answer)) :
    Determines b v fun s ↦ second (first s).2 (first s).1 := by
  obtain ⟨v₁, answer, hfirst⟩ := hfirst
  obtain ⟨v₂, answer', hsecond⟩ := hsecond v₁ answer
  refine ⟨v₂, answer', fun r s h ↦ ?_⟩
  obtain ⟨h₁, rfl⟩ := hfirst r s h
  exact hsecond r _ h₁

theorem congr {step step' : Node → Node × α} (h : Determines b v step)
    (hsame : ∀ r s, s.Hosts b r v → step' s = step s) : Determines b v step' := by
  obtain ⟨v', answer, h⟩ := h
  refine ⟨v', answer, fun r s hs ↦ ?_⟩
  rw [hsame r s hs]
  exact h r s hs

/-- A step that leaves all as it is. -/
theorem rest {step : Node → Node × α} (answer : α)
    (h : ∀ s handle, s.endpoint? b = some (v.endpoint.holding handle) → step s = (s, answer)) :
    Determines b v step := by
  refine (pure answer).congr fun r s hs ↦ ?_
  obtain ⟨handle, hx⟩ := hs.holding
  exact h s handle hx

/-- A step that makes something else of the endpoint alone. -/
theorem update {step : Node → Node × α} (y : Endpoint) (answer : α)
    (htype : y.type = v.endpoint.type) (hreason : y.reason = v.endpoint.reason)
    (h : ∀ s handle, s.endpoint? b = some (v.endpoint.holding handle) →
      step s = (s.setEndpoint b (y.holding handle), answer)) : Determines b v step := by
  refine ⟨{ v with endpoint := y }, answer, fun r s hs ↦ ?_⟩
  obtain ⟨handle, hx⟩ := hs.holding
  rw [h s handle hx]
  exact ⟨hs.setEndpoint hx htype hreason, rfl⟩

theorem modifyEndpoint (v : View) {f : Endpoint → Endpoint}
    (hf : ∀ x handle, f (x.holding handle) = (f x).holding handle)
    (htype : ∀ x, (f x).type = x.type) (hreason : ∀ x, (f x).reason = x.reason) :
    Determines b v fun s ↦ (s.modifyEndpoint b f, ()) := by
  refine update (f v.endpoint) () (htype v.endpoint) (hreason v.endpoint) fun s handle hx ↦ ?_
  rw [s.modifyEndpoint_of_endpoint? b hx f, hf]

theorem disconnect (v : View) (reason : DisconnectReason) :
    Determines b v (Node.disconnect · b reason) := by
  cases hreason : v.endpoint.reason with
  | none => exact ⟨_, true, fun r s h ↦ h.disconnect hreason reason⟩
  | some first =>
      refine rest false fun s handle hx ↦ ?_
      exact s.disconnect_of_reason b hx (congrArg Option.isSome hreason) reason

theorem beginConnect (v : View) : Determines b v (Node.beginConnect · b) := by
  have hbegin := v.endpoint.beginConnect_holding
  cases h : v.endpoint.beginConnect with
  | error cause =>
      refine rest (.error cause) fun s handle hx ↦ ?_
      simp only [Node.beginConnect, hx, hbegin, h, Except.map]
  | ok y =>
      have hy : y = { v.endpoint with state := .connecting } := by
        rw [Endpoint.beginConnect] at h
        split at h <;> cases h
        rfl
      refine update y (.ok ()) (by rw [hy]) (by rw [hy]) fun s handle hx ↦ ?_
      simp only [Node.beginConnect, hx, hbegin, h, Except.map]

theorem markConnected (v : View) : Determines b v (Node.markConnected · b) := by
  refine update v.endpoint.markConnected.1 v.endpoint.markConnected.2 ?_ ?_ fun s handle hx ↦ ?_
  · rw [Endpoint.markConnected]
    split <;> rfl
  · rw [Endpoint.markConnected]
    split <;> rfl
  · rw [Node.markConnected, hx]
    dsimp only
    rw [v.endpoint.markConnected_holding]

theorem receive (v : View) (data : Bytes) :
    Determines b v fun s ↦ (s.receive b data, ()) := by
  cases hconnected : v.endpoint.state.isConnected with
  | false =>
      refine (pure ()).congr fun r s h ↦ ?_
      rw [receive_of_not_isConnected (h.isConnected.trans hconnected)]
  | true =>
      have hheard : ∀ {r s}, Node.Hosts b r v s → ∀ {handle},
          s.endpoint? b = some (v.endpoint.holding handle) →
          (s.setEndpoint b ({ v.endpoint with
            buffer := v.endpoint.buffer ++ data }.holding handle)).Hosts b r { v with
              endpoint := { v.endpoint with buffer := v.endpoint.buffer ++ data } } :=
        fun h _ hx ↦ h.setEndpoint hx rfl rfl
      cases hreason : v.endpoint.reason with
      | none =>
          refine ⟨{ v with
            endpoint := { v.endpoint with buffer := v.endpoint.buffer ++ data }
            jobs := v.jobs ++ [.parse b] }, (), fun r s h ↦ ⟨?_, rfl⟩⟩
          obtain ⟨handle, hx, hheld, -⟩ := h.endpoint
          obtain ⟨own, rfl, rfl⟩ := hheld hreason
          have htaken := (hheard h hx).enqueue hreason (Job.isFor_parse b)
          simp only [Node.receive, hx, Endpoint.holding, hconnected, if_true]
          exact htaken
      | some reason =>
          -- Without a handle there is no queue to parse on, so the octets are only kept.
          refine ⟨{ v with endpoint := { v.endpoint with buffer := v.endpoint.buffer ++ data } },
            (), fun r s h ↦ ⟨?_, rfl⟩⟩
          obtain ⟨handle, hx, -, hfree⟩ := h.endpoint
          obtain rfl := hfree (by rw [hreason]; exact Option.some_ne_none reason)
          simp only [Node.receive, hx, Endpoint.holding, hconnected, if_true]
          exact hheard h hx

theorem sendBytes (v : View) (data : Bytes) : Determines b v (Node.sendBytes · b data) := by
  cases hput : v.endpoint.put data with
  | error cause =>
      refine rest (.error (.network cause)) fun s handle hx ↦ ?_
      simp only [Node.sendBytes, hx, Endpoint.put_holding, hput, Except.map]
  | ok y =>
      have hy := Endpoint.eq_of_put hput
      refine update y (.ok ()) (by rw [hy]) (by rw [hy]) fun s handle hx ↦ ?_
      simp only [Node.sendBytes, hx, Endpoint.put_holding, hput, Except.map]

theorem serializeFor (v : View) (m : Message) : Determines b v (Node.serializeFor · b m) := by
  refine ⟨{ v with endpoint := { v.endpoint with frames := v.endpoint.frames + 1 } },
    v.engine.serialize (.ofNat b) v.endpoint.frames m, fun r s h ↦ ?_⟩
  obtain ⟨handle, hx⟩ := h.holding
  have hcounted := h.setEndpoint hx (y := { v.endpoint with frames := v.endpoint.frames + 1 })
    rfl rfl
  simp only [Node.serializeFor, hx]
  exact ⟨hcounted, h.engine.serialize _ _ m⟩

theorem send (v : View) (m : Message) : Determines b v (Node.send · b m) := by
  cases hconnected : v.endpoint.state.isConnected with
  | false =>
      refine (pure (.error (.network .notConnected))).congr fun r s h ↦ ?_
      rw [Node.send, h.isConnected, hconnected, if_neg Bool.false_ne_true]
  | true =>
      obtain ⟨v₁, frame, hframe⟩ := serializeFor (b := b) v m
      have hsend : ∀ {r s}, Node.Hosts b r v s → s.serializeFor b m =
          ((s.serializeFor b m).1, frame) := fun h ↦ Prod.ext rfl (hframe _ _ h).2
      cases frame with
      | error cause =>
          refine ⟨v₁, .error cause, fun r s h ↦ ?_⟩
          obtain ⟨h₁, -⟩ := hframe r s h
          simp only [Node.send, h.isConnected, hconnected, if_true]
          rw [hsend h]
          exact ⟨h₁, rfl⟩
      | ok data =>
          obtain ⟨v₂, answer, hput⟩ := sendBytes (b := b) v₁ data
          refine ⟨v₂, answer, fun r s h ↦ ?_⟩
          obtain ⟨h₁, -⟩ := hframe r s h
          simp only [Node.send, h.isConnected, hconnected, if_true]
          rw [hsend h]
          exact hput r _ h₁

theorem onDisconnect (v : View) (hook : Hook) :
    Determines b v fun s ↦ (s.onDisconnect b hook, ()) := by
  by_cases hended : v.endpoint.ended = true ∧ v.endpoint.reason.isSome = true
  · obtain ⟨hended, hreason⟩ := hended
    obtain ⟨reason, hreason⟩ := Option.isSome_iff_exists.1 hreason
    refine ⟨v, (), fun r s h ↦ ⟨?_, rfl⟩⟩
    obtain ⟨handle, hx⟩ := h.holding
    have hrun := h.overlooks (.runHook reason hook s) ((s.panic_runHook reason hook).trans h.panic)
    simp only [Node.onDisconnect_eq, hx, Endpoint.holding, hended, hreason]
    exact hrun
  · refine ⟨{ v with endpoint := { v.endpoint with hooks := v.endpoint.hooks ++ [hook] } }, (),
      fun r s h ↦ ⟨?_, rfl⟩⟩
    obtain ⟨handle, hx⟩ := h.holding
    simp only [Node.onDisconnect_eq, hx]
    split
    · next hboth hreason =>
      exact absurd ⟨hboth, congrArg Option.isSome hreason⟩ hended
    · exact h.setEndpoint hx
        (y := { v.endpoint with hooks := v.endpoint.hooks ++ [hook] }) rfl rfl

theorem perform (react : Reaction) (hlocal : react.Local) (v : View) :
    Determines b v (Node.perform b react) := by
  induction react generalizing v with
  | done outcome => exact pure outcome
  | note note next ih =>
      obtain ⟨v', outcome, hnext⟩ := ih hlocal v
      refine ⟨v', outcome, fun r s h ↦ hnext r _ ?_⟩
      exact h.overlooks (.record rfl) h.panic
  | send m next ih => exact (send v m).bind _ fun v' answer ↦ ih answer (hlocal answer) v'
  | disconnect reason next ih =>
      have hrest := (disconnect (b := b) v reason).bind _
        fun v' answer ↦ ih answer (hlocal answer) v'
      obtain ⟨v', first, hend⟩ := disconnect (b := b) v reason
      -- A handler goes on behind a disconnect only if that did not panic, and where the endpoint is
      -- hosted it does not.
      refine hrest.congr fun r s h ↦ ?_
      have hnone := (hend r s h).1.panic
      rw [Node.perform]
      dsimp only at hnone ⊢
      rw [hnone]
  | onDisconnect hook next ih =>
      exact (onDisconnect v hook).bind _ fun v' _ ↦ ih hlocal v'
  | broadcast key m next ih => exact absurd hlocal id

theorem dispatch (v : View) (m : Message) :
    Determines b v fun s ↦ (s.dispatch b v.endpoint.type m, ()) := by
  have hrecord : ∀ {r s}, Node.Hosts b r v s → ∀ handled,
      (s.record (.dispatched b m handled)).Hosts b r
        { v with dispatched := v.dispatched ++ [(m, handled)] } := by
    intro r s h handled
    have hrecorded := h.record (.dispatched b m handled)
    rwa [Record.dispatch?, if_pos rfl, Option.toList_some] at hrecorded
  cases hselect : v.engine.registry.select m v.endpoint.type with
  | unhandled =>
      refine ⟨{ v with dispatched := v.dispatched ++ [(m, false)] }, (), fun r s h ↦ ⟨?_, rfl⟩⟩
      dsimp only
      rw [dispatch_of_unhandled ((h.engine.select m).trans hselect)]
      exact hrecord h false
  | wrongReceiver =>
      refine ⟨{ v with dispatched := v.dispatched ++ [(m, false)] }, (), fun r s h ↦ ⟨?_, rfl⟩⟩
      dsimp only
      rw [dispatch_of_wrongReceiver ((h.engine.select m).trans hselect)]
      exact (hrecord h false).overlooks (.trace _ _) h.panic
  | handler handler =>
      obtain ⟨v', outcome, hperform⟩ := perform (b := b) (handler.react m)
        (v.handlers.react hselect) { v with dispatched := v.dispatched ++ [(m, true)] }
      refine ⟨v', (), fun r s h ↦ ⟨?_, rfl⟩⟩
      obtain ⟨hhosts, -⟩ := hperform r _ (hrecord h true)
      dsimp only
      rw [dispatch_of_handler ((h.engine.select m).trans hselect)]
      exact traceFailure_keeps (P := (Node.Hosts b r v' ·)) hhosts
        (fun t ↦ hhosts.overlooks (.trace _ t) hhosts.panic) m _

/-- A disconnect for something that is traced. -/
theorem expel (v : View) (t : Trace) (reason : DisconnectReason) :
    Determines b v fun s ↦ (((s.trace t).disconnect b reason).1.contain, ()) := by
  obtain ⟨v', first, hend⟩ := disconnect (b := b) v reason
  refine ⟨v', (), fun r s h ↦ ⟨?_, rfl⟩⟩
  obtain ⟨hhosts, -⟩ := hend r _ (h.overlooks (.trace s t) h.panic)
  have hnone := hhosts.panic
  dsimp only at hnone hhosts ⊢
  rw [contain, hnone]
  exact hhosts

theorem parseReceived (v : View) : Determines b v (Node.parseReceived · b) := by
  cases hdiscarding : v.endpoint.discarding with
  | true =>
      refine rest [] fun s handle hx ↦ ?_
      have hsame : (v.endpoint.holding handle).discarding = true := hdiscarding
      simp only [Node.parseReceived, hx, hsame, if_true]
  | false =>
      have hsame : ∀ handle, (v.endpoint.holding handle).discarding = false := fun _ ↦ hdiscarding
      have hbuffer : ∀ handle, (v.endpoint.holding handle).buffer = v.endpoint.buffer :=
        fun _ ↦ rfl
      cases hparse : v.engine.parse v.endpoint.buffer with
      | error failure =>
          cases failure with
          | refused cause =>
              obtain ⟨v', answer, hend⟩ :=
                expel (b := b) v (.invalidData cause) .invalidDataReceived
              refine ⟨v', [], fun r s h ↦ ?_⟩
              obtain ⟨handle, hx⟩ := h.holding
              simp only [Node.parseReceived, hx, hsame, Bool.false_eq_true, if_false, hbuffer,
                h.engine.parse, hparse, and_true]
              exact (hend r s h).1
          | panicked =>
              refine ⟨v, [], fun r s h ↦ ?_⟩
              obtain ⟨handle, hx⟩ := h.holding
              simp only [Node.parseReceived, hx, hsame, Bool.false_eq_true, if_false, hbuffer,
                h.engine.parse, hparse, and_true]
              exact h.overlooks (.trace _ _) h.panic
      | ok parsed =>
          refine ⟨{ v with endpoint := { v.endpoint with buffer := parsed.2 } }, parsed.1,
            fun r s h ↦ ?_⟩
          obtain ⟨handle, hx⟩ := h.holding
          simp only [Node.parseReceived, hx, hsame, Bool.false_eq_true, if_false, hbuffer,
            h.engine.parse, hparse, and_true]
          exact h.setEndpoint hx (y := { v.endpoint with buffer := parsed.2 }) rfl rfl

theorem handleMessage (v : View) (m : Message) : Determines b v (Node.handleMessage · b m) := by
  have hcount : ∀ {r s}, Node.Hosts b r v s → ∃ s₁, s₁.Hosts b r v.counted ∧
      s.handleMessage b m =
        if v.counted.endpoint.rate.above v.engine.protocol.maxRate then
          (((s₁.trace (.rateExceeded v.engine.protocol.maxRate)).disconnect b .spam).1.contain,
            false)
        else if v.endpoint.discarding then (s₁, false)
        else (s₁.dispatch b v.endpoint.type m, true) := by
    intro r s h
    obtain ⟨handle, hx⟩ := h.holding
    refine ⟨_, h.setEndpoint hx (y := v.counted.endpoint) rfl rfl, ?_⟩
    rw [Node.handleMessage, hx]
    simp only [h.engine.protocol]
    rfl
  cases hexceeded : v.counted.endpoint.rate.above v.engine.protocol.maxRate with
  | true =>
      obtain ⟨v', answer, hend⟩ := expel (b := b) v.counted
        (.rateExceeded v.engine.protocol.maxRate) .spam
      refine ⟨v', false, fun r s h ↦ ?_⟩
      obtain ⟨s₁, h₁, heq⟩ := hcount h
      simp only [heq, hexceeded, if_true, and_true]
      exact (hend r s₁ h₁).1
  | false =>
      cases hdiscarding : v.endpoint.discarding with
      | true =>
          refine ⟨v.counted, false, fun r s h ↦ ?_⟩
          obtain ⟨s₁, h₁, heq⟩ := hcount h
          simp only [heq, hexceeded, hdiscarding, Bool.false_eq_true, if_false, if_true, and_true]
          exact h₁
      | false =>
          obtain ⟨v', answer, hdispatch⟩ := dispatch (b := b) v.counted m
          refine ⟨v', true, fun r s h ↦ ?_⟩
          obtain ⟨s₁, h₁, heq⟩ := hcount h
          simp only [heq, hexceeded, hdiscarding, Bool.false_eq_true, if_false, and_true]
          exact (hdispatch r s₁ h₁).1

/-- A step of a job that is done for the endpoint. -/
theorem effect (v : View) {j : Job} (hj : j.isFor b = true) :
    Determines b v fun s ↦ (s.effect j, s.remaining j) := by
  cases j with
  | hold clear | mark label panics => cases hj
  | parse e =>
      obtain rfl : e = b := beq_iff_eq.1 hj
      exact parseReceived v
  | reset e =>
      obtain rfl : e = b := beq_iff_eq.1 hj
      have hclear := modifyEndpoint (b := e) v (f := fun x ↦ { x with buffer := [] })
        (fun _ _ ↦ rfl) (fun _ ↦ rfl) fun _ ↦ rfl
      exact hclear.bind _ fun v' _ ↦ pure []
  | handle e messages =>
      obtain rfl : e = b := beq_iff_eq.1 hj
      cases messages with
      | nil => exact pure []
      | cons m rest =>
          exact (handleMessage v m).bind _ fun v' more ↦ pure (if more then rest else [])

end Determines

/-! ## Turns of the endpoint -/

/-- An endpoint that parts with a queue leaves its reset there at most. -/
theorem backlog_partFrom (handle : Option Handle) (e : EndpointRef) (r : QueueRef) (q : Queue Job) :
    (partFrom handle e r q).backlog = q.backlog ∨
      (partFrom handle e r q).backlog = q.backlog ++ [.reset e] := by
  have hfree : ∀ (h : Handle) (q : Queue Job), (h.free q).backlog = q.backlog := by
    intro h q
    cases h with
    | dedicated i => rfl
    | pooled p slot =>
        rw [Handle.free]
        split <;> rfl
  cases handle with
  | none => exact .inl rfl
  | some h =>
      rw [partFrom]
      split
      · rw [Handle.part]
        split
        · cases h with
          | dedicated i => exact .inl rfl
          | pooled p slot => exact .inl (hfree _ q)
        · rw [hfree, Queue.enqueue]
          split
          · exact .inl rfl
          · exact .inr rfl
      · exact .inl rfl

theorem next?_effect {j : Job} (hpanic : s.panic = none) (h : s.next? r = some j) (i : Job) :
    (s.effect i).next? r = some j := by
  obtain ⟨q, rest, hq, hhead⟩ := next?_eq_some.1 h
  rw [next?_eq_some]
  rcases Passes.effect hpanic i with hleaves | ⟨handle, hparts⟩
  · exact ⟨q, rest, (hleaves.queues r).trans hq, hhead⟩
  · rcases backlog_partFrom handle i.subject r q with hsame | hreset
    · refine ⟨_, rest, ?_, hsame.trans hhead⟩
      rw [hparts.queues, hq, Option.map_some]
    · refine ⟨_, rest ++ [.reset i.subject], ?_, hreset.trans ?_⟩
      · rw [hparts.queues, hq, Option.map_some]
      · rw [hhead, List.cons_append]

theorem engine_proceed (s : Node) (r : QueueRef) (e : EndpointRef) (messages : List Message) :
    (s.proceed r e messages).engine = s.engine := by
  rw [Node.proceed.eq_def]
  split <;> exact s.engine_modifyQueue r _

/-- A job that is done with, or has messages left, changes nothing but its queue. -/
theorem Hosts.of_proceed {t : QueueRef} {messages : List Message} {jobs : List Job}
    (h : s.Hosts b r v)
    (hqueue : ∃ q, (s.proceed t e messages).queue? r = some q ∧
      q.backlog.filter (Job.isFor b) = jobs ∧ Queue.nameRefusal? q.name = none ∧
      (v.endpoint.reason = none → q.disposed = false))
    (helsewhere : ∀ t', t' ≠ r → ∀ q ∈ (s.proceed t e messages).queue? t',
      ∀ j ∈ q.backlog, j.isFor b = false) :
    (s.proceed t e messages).Hosts b r { v with jobs := jobs } where
  panic := (s.panic_proceed t e messages).trans h.panic
  engine := (s.engine_proceed t e messages).symm ▸ h.engine
  handlers := (s.engine_proceed t e messages).symm ▸ h.handlers
  alone t' := (h.alone t').of_endpoint? fun d _ ↦ s.endpoint?_proceed t e messages d
  endpoint := (s.endpoint?_proceed t e messages b).symm ▸ h.endpoint
  queue := hqueue
  elsewhere := helsewhere
  dispatched := (dispatched_proceed s t e messages b).trans h.dispatched

theorem Hosts.proceed (h : s.Hosts b r v) {j : Job} (hnext : s.next? r = some j)
    (hj : j.isFor b = true) (messages : List Message) :
    (s.proceed r b messages).Hosts b r
      { v with jobs := Job.pending b messages ++ v.jobs.tail } := by
  obtain ⟨q, rest, hq, hhead⟩ := next?_eq_some.1 hnext
  obtain ⟨hjobs, hname, hopen⟩ := h.of_queue? hq
  obtain ⟨q', hq', hbacklog', hname', hdisposed'⟩ := queue?_proceed hq b messages
  have hpending : (Job.pending b messages).filter (Job.isFor b) = Job.pending b messages :=
    List.filter_eq_self.2 fun _ ↦ Job.isFor_of_mem_pending
  refine h.of_proceed ⟨q', hq', ?_, hname' ▸ hname, hdisposed' ▸ hopen⟩ fun t ht ↦ ?_
  · rw [hbacklog', List.filter_append, hpending, ← hjobs, hhead, List.filter_cons_of_pos hj,
      List.tail_cons, List.tail_cons]
  · rw [queue?_proceed_of_ne ht.symm]
    exact h.elsewhere t ht

theorem subject_of_isFor {j : Job} (hj : j.isFor b = true) : j.subject = b := by
  cases j with
  | hold clear | mark label panics => cases hj
  | parse e | reset e | handle e messages => exact beq_iff_eq.1 hj

/-- The worker takes a step of a job that is done for the endpoint. -/
theorem Hosts.work (v : View) {j : Job} (hj : j.isFor b = true) :
    ∃ v', ∀ r s, Node.Hosts b r v s → s.next? r = some j →
      ∃ s', s.work? r = some s' ∧ s'.Hosts b r v' := by
  obtain ⟨v₁, left, heffect⟩ := Determines.effect v hj
  have hfree : j ≠ .hold false := by
    rintro rfl
    cases hj
  refine ⟨{ v₁ with jobs := Job.pending b left ++ v₁.jobs.tail }, fun r s h hnext ↦
    ⟨_, work?_of_next? hnext hfree, ?_⟩⟩
  obtain ⟨h₁, rfl⟩ := heffect r s h
  rw [execute_eq, subject_of_isFor hj]
  exact h₁.proceed (next?_effect h.panic hnext j) hj _

end Node

end MessageEngine
