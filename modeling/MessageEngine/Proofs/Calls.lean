import MessageEngine.Proofs.EndingMachine
import MessageEngine.Proofs.Runs

/-!
# Calls that concern the end of endpoints

Endpoints are disconnected from outside, by parses, for their rate, by
handlers and by hooks.  Every act of a node makes some calls on endpoints,
and what it does to the end of each endpoint is what the machine of endings
does for these calls.  Every note of a hook in the log falls to one of them.
-/

namespace MessageEngine

/-- What a hook left in the log. -/
def Record.hook? : Record → Option (String × DisconnectReason)
  | .hook label reason => some (label, reason)
  | _ => none

namespace Node

/-- What matters for the end of an endpoint. -/
def ending? (s : Node) (e : EndpointRef) : Option Ending := (s.endpoint? e).map Endpoint.ending

/-- What hooks left in the log, in order. -/
def hookNotes (s : Node) : List (String × DisconnectReason) := s.log.filterMap Record.hook?

/-- What hooks left in the log between two nodes of a run. -/
def gained (s s' : Node) : List (String × DisconnectReason) :=
  (s'.log.drop s.log.length).filterMap Record.hook?

theorem gained_eq {s s' : Node} {lines : List Record} (h : s'.log = s.log ++ lines) :
    gained s s' = lines.filterMap Record.hook? := by
  rw [gained, h, List.drop_left]

/-- The name of a queue. -/
def queueName? (s : Node) (r : QueueRef) : Option String := (s.queue? r).map Queue.name

theorem queueName?_congr {s s' : Node} {r : QueueRef} (h : s'.queue? r = s.queue? r) :
    s'.queueName? r = s.queueName? r := congrArg (Option.map Queue.name) h

/-- Who starts the worker of some queue panics with a text. -/
def Refuses (s : Node) (text : String) : Prop :=
  ∃ r name, s.queueName? r = some name ∧ Queue.nameRefusal? name = some text

/-- Nothing came about that matters for the end of an endpoint, and no hook was run. -/
structure Quiet (s s' : Node) : Prop where
  endings : ∀ e, s'.ending? e = s.ending? e
  names : ∀ r, s'.queueName? r = s.queueName? r
  log : ∃ lines, s'.log = s.log ++ lines ∧ lines.filterMap Record.hook? = []

namespace Quiet

variable {s s' s'' : Node} {e : EndpointRef}

theorem refl (s : Node) : Quiet s s where
  endings _ := rfl
  names _ := rfl
  log := ⟨[], (List.append_nil _).symm, rfl⟩

theorem trans (h : Quiet s s') (h' : Quiet s' s'') : Quiet s s'' where
  endings e := (h'.endings e).trans (h.endings e)
  names r := (h'.names r).trans (h.names r)
  log := by
    obtain ⟨lines, hlog, hnone⟩ := h.log
    obtain ⟨lines', hlog', hnone'⟩ := h'.log
    refine ⟨lines ++ lines', ?_, ?_⟩
    · rw [hlog', hlog, List.append_assoc]
    · rw [List.filterMap_append, hnone, hnone']
      rfl

theorem panic (s : Node) (panic : Option String) : Quiet s { s with panic := panic } where
  endings _ := rfl
  names r := by cases r <;> rfl
  log := ⟨[], (List.append_nil _).symm, rfl⟩

theorem record {x : Record} (hx : x.hook? = none) : Quiet s (s.record x) where
  endings _ := rfl
  names r := queueName?_congr (s.queue?_record r x)
  log := ⟨[x], rfl, by rw [List.filterMap_cons, hx, List.filterMap_nil]⟩

theorem trace (s : Node) (t : Trace) : Quiet s (s.trace t) := record rfl

theorem modifyEndpoint {f : Endpoint → Endpoint}
    (hf : ∀ x, s.endpoint? e = some x → (f x).ending = x.ending) :
    Quiet s (s.modifyEndpoint e f) where
  endings d := by
    rw [ending?, ending?, endpoint?_modifyEndpoint]
    split
    · next he =>
      subst he
      cases hx : s.endpoint? e with
      | none => rfl
      | some x => exact congrArg some (hf x hx)
    · rfl
  names r := queueName?_congr (s.queue?_modifyEndpoint e r f)
  log := ⟨[], (List.append_nil _).symm, rfl⟩

theorem setEndpoint {x y : Endpoint} (hx : s.endpoint? e = some x) (hy : y.ending = x.ending) :
    Quiet s (s.setEndpoint e y) := by
  refine modifyEndpoint fun x' hx' ↦ ?_
  rw [hx, Option.some.injEq] at hx'
  exact hx' ▸ hy

theorem modifyQueue {r : QueueRef} {f : Queue Job → Queue Job}
    (hf : ∀ q, s.queue? r = some q → (f q).name = q.name) : Quiet s (s.modifyQueue r f) where
  endings e := congrArg (Option.map Endpoint.ending) (s.endpoint?_modifyQueue e r f)
  names t := by
    rw [queueName?, queueName?, queue?_modifyQueue]
    split
    · next ht =>
      subst ht
      cases hq : s.queue? r with
      | none => rfl
      | some q => exact congrArg some (hf q hq)
    · rfl
  log := ⟨[], by rw [log_modifyQueue, List.append_nil], rfl⟩

theorem advance (s : Node) (r : QueueRef) : Quiet s (s.modifyQueue r Queue.advance) :=
  modifyQueue fun _ _ ↦ rfl

theorem enqueue (s : Node) (r : QueueRef) (j : Job) : Quiet s (s.enqueue r j).1 := by
  rcases s.enqueue_cases r j with h | ⟨text, h⟩ | ⟨q, hq, -, h⟩
  · rw [h]
    exact refl s
  · rw [h]
    exact panic s (some text)
  · rw [h]
    refine modifyQueue fun q' hq' ↦ ?_
    rw [hq, Option.some.injEq] at hq'
    subst hq'
    rw [Queue.enqueue]
    split <;> rfl

theorem release (s : Node) (h : Handle) : Quiet s (s.release h).1 := by
  rcases s.release_cases h with hsame | ⟨f, hf, hkept⟩
  · rw [hsame]
    exact refl s
  · rw [hf]
    exact modifyQueue fun q _ ↦ (hkept q).2.1

theorem drop (s : Node) (h : Handle) : Quiet s (s.drop h) := by
  rcases s.drop_cases h with hsame | ⟨hrelease, -⟩
  · rw [hsame]
    exact refl s
  · rw [hrelease]
    exact release s h

theorem clearBuffer (s : Node) (e : EndpointRef) : Quiet s (s.clearBuffer e) :=
  modifyEndpoint fun _ _ ↦ rfl

theorem detach (s : Node) (e : EndpointRef) (h : Option Handle) : Quiet s (s.detach e h) := by
  cases h with
  | none => exact clearBuffer s e
  | some h =>
      have htaken := enqueue s h.queue (.reset e)
      rw [Node.detach]
      split
      · next s₁ heq =>
        rw [heq] at htaken
        exact htaken.trans (release s₁ h)
      · next s₁ heq =>
        rw [heq] at htaken
        split
        · exact htaken.trans (drop s₁ h)
        · exact (htaken.trans (clearBuffer s₁ e)).trans (release _ h)

theorem attach (s : Node) (e : EndpointRef) (h : Handle) : Quiet s (s.attach e h) := by
  rw [Node.attach]
  split
  · exact refl s
  · next x hx =>
    have hset : Quiet s (s.setEndpoint e { x with handle := some h, outbox := .fresh }) :=
      setEndpoint hx rfl
    dsimp only
    split
    · exact hset.trans (drop _ _)
    · exact hset

theorem receive (s : Node) (e : EndpointRef) (data : Bytes) : Quiet s (s.receive e data) := by
  rw [Node.receive]
  split
  · exact refl s
  · next x hx =>
    split
    · have hset : Quiet s (s.setEndpoint e { x with buffer := x.buffer ++ data }) :=
        setEndpoint hx rfl
      dsimp only
      split
      · exact hset.trans (enqueue _ _ _)
      · exact hset
    · exact refl s

theorem sends (h : Sends s s') : Quiet s s' where
  endings e := by
    have hsame := congrArg (Option.map Endpoint.ending) (h.endpoints e)
    rw [Option.map_map, Option.map_map] at hsame
    exact hsame
  names r := queueName?_congr (h.queues r)
  log := ⟨[], by rw [h.log, List.append_nil], rfl⟩

theorem contain (s : Node) : Quiet s s.contain := by
  rw [Node.contain]
  split
  · exact (panic s none).trans (trace _ _)
  · exact refl s

theorem proceed (s : Node) (r : QueueRef) (e : EndpointRef) (messages : List Message) :
    Quiet s (s.proceed r e messages) := by
  rw [Node.proceed.eq_def]
  split
  · exact advance s r
  · exact modifyQueue fun _ _ ↦ rfl

end Quiet

/-! ## The calls that are made -/

/-- A call of `onDisconnect`. -/
def hookCall (s : Node) (e : EndpointRef) (hook : Hook) : Call :=
  ⟨e, .onDisconnect hook, gained s (s.onDisconnect e hook)⟩

/-- A call of `disconnect`. -/
def disconnectCall (s : Node) (e : EndpointRef) (reason : DisconnectReason) : Call :=
  let (s', first) := s.disconnect e reason
  let answer := match s'.panic with
    | some text => .error text
    | none => .ok first
  ⟨e, .disconnect reason answer, gained s s'⟩

/-- The calls of a handler on its receiver. -/
def performCalls (e : EndpointRef) : Reaction → Node → List Call
  | .done _, _ => []
  | .note note next, s => performCalls e next (s.record (.note note))
  | .send m next, s => performCalls e (next (s.send e m).2) (s.send e m).1
  | .disconnect reason next, s =>
    s.disconnectCall e reason ::
      match (s.disconnect e reason).1.panic with
      | some _ => []
      | none => performCalls e (next (s.disconnect e reason).2) (s.disconnect e reason).1
  | .onDisconnect hook next, s =>
    s.hookCall e hook :: performCalls e next (s.onDisconnect e hook)
  | .broadcast key m next, s =>
    match s.group? key with
    | none => performCalls e (next none) s
    | some g =>
      performCalls e (next (some (s.broadcastMessage key g m).2)) (s.broadcastMessage key g m).1

/-- The calls of a parse: what is refused ends the endpoint. -/
def parseCalls (s : Node) (e : EndpointRef) : List Call :=
  match s.endpoint? e with
  | none => []
  | some x =>
    if x.discarding then []
    else
      match (s.engine e).parse x.buffer with
      | .error (.refused cause) =>
        [(s.trace (.invalidData cause)).disconnectCall e .invalidDataReceived]
      | _ => []

/-- The calls of the handler that a message is dispatched to. -/
def dispatchCalls (s : Node) (e : EndpointRef) (type : EndpointType) (m : Message) : List Call :=
  match (s.engine e).registry.select m type with
  | .handler h => performCalls e (h.react m) (s.record (.dispatched e m true))
  | _ => []

/-- The calls while a message is handled: those of its handler, or the end for its rate. -/
def handleCalls (s : Node) (e : EndpointRef) (m : Message) : List Call :=
  match s.endpoint? e with
  | none => []
  | some x =>
    let ceiling := (s.engine e).protocol.maxRate
    let (rate, exceeded) := x.rate.exceeds ceiling
    let s := s.setEndpoint e { x with rate := rate }
    if exceeded then [(s.trace (.rateExceeded ceiling)).disconnectCall e .spam]
    else if x.discarding then []
    else s.dispatchCalls e x.type m

/-- The calls in a step of a job. -/
def jobCalls (s : Node) : Job → List Call
  | .parse e => s.parseCalls e
  | .handle e (m :: _) => s.handleCalls e m
  | _ => []

/-- The calls of an act that concern the end of an endpoint. -/
def actCalls (s : Node) : Act → List Call
  | .beginConnect e =>
    [⟨e, .beginConnect (s.beginConnect e).2.isOk, gained s (s.beginConnect e).1⟩]
  | .abortConnect e => [⟨e, .abortConnect, gained s (s.abortConnect e)⟩]
  | .markConnected e =>
    [⟨e, .markConnected (s.markConnected e).2, gained s (s.markConnected e).1⟩]
  | .onDisconnect e hook => [s.hookCall e hook]
  | .disconnect e reason => [s.disconnectCall e reason]
  | .work r =>
    match s.queue? r with
    | none => []
    | some q =>
      match q.backlog with
      | [] => []
      | j :: _ => s.jobCalls j
  | .attach _ _ | .send _ _ | .receive _ _ | .renew _ => []

/-- The calls of a run. -/
def calls (s : Node) : List Act → List Call
  | [] => []
  | act :: acts =>
    s.actCalls act ++
      match s.act? act with
      | none => []
      | some s' => s'.calls acts

/-! ## The machine does what the node does -/

/-- What came about is what the machine of endings does for these calls, for each endpoint, and what
hooks left in the log they left there during these calls.  A call panics only if a queue has a name
under which no worker can be started. -/
structure Follows (s : Node) (calls : List Call) (s' : Node) : Prop where
  endings : ∀ e x, s.ending? e = some x → ∃ x', s'.ending? e = some x' ∧
    Ending.Steps e x (Call.on e calls) x'
  names : ∀ r, s'.queueName? r = s.queueName? r
  panics : ∀ c ∈ calls, ∀ text, c.ask.panic? = some text → s.Refuses text
  log : ∃ lines, s'.log = s.log ++ lines ∧ lines.filterMap Record.hook? = Call.notes calls

section Follows

variable {s s' s'' : Node} {e : EndpointRef} {calls others : List Call}

theorem Refuses.of_names {text : String} (hnames : ∀ r, s'.queueName? r = s.queueName? r)
    (h : s'.Refuses text) : s.Refuses text := by
  obtain ⟨r, name, hname, hrefusal⟩ := h
  exact ⟨r, name, (hnames r).symm.trans hname, hrefusal⟩

theorem Quiet.follows (h : Quiet s s') : Follows s [] s' where
  endings e x hx := ⟨x, (h.endings e).trans hx, .nil x⟩
  names := h.names
  panics _ hc := absurd hc List.not_mem_nil
  log := h.log

theorem Follows.trans (h : Follows s calls s') (h' : Follows s' others s'') :
    Follows s (calls ++ others) s'' where
  endings e x hx := by
    obtain ⟨x', hx', hsteps⟩ := h.endings e x hx
    obtain ⟨x'', hx'', hsteps'⟩ := h'.endings e x' hx'
    refine ⟨x'', hx'', ?_⟩
    rw [Call.on_append]
    exact hsteps.trans hsteps'
  names r := (h'.names r).trans (h.names r)
  panics c hc text htext := by
    rcases List.mem_append.1 hc with hc | hc
    · exact h.panics c hc text htext
    · exact (h'.panics c hc text htext).of_names h.names
  log := by
    obtain ⟨lines, hlog, hnotes⟩ := h.log
    obtain ⟨lines', hlog', hnotes'⟩ := h'.log
    refine ⟨lines ++ lines', ?_, ?_⟩
    · rw [hlog', hlog, List.append_assoc]
    · rw [List.filterMap_append, hnotes, hnotes', Call.notes, Call.notes, Call.notes,
        List.flatMap_append]

theorem Follows.quiet_left (h : Follows s' calls s'') (hquiet : Quiet s s') :
    Follows s calls s'' := hquiet.follows.trans h

theorem Follows.quiet_right (h : Follows s calls s') (hquiet : Quiet s' s'') :
    Follows s calls s'' := by
  have hall := h.trans hquiet.follows
  rwa [List.append_nil] at hall

theorem refuses_of_panic? {ask : Ask} (hask : ask.panic? = none) (text : String)
    (htext : ask.panic? = some text) : s.Refuses text := by
  rw [hask] at htext
  cases htext

/-- One call on an endpoint. -/
theorem Follows.call {ask : Ask} (hothers : ∀ d, d ≠ e → s'.ending? d = s.ending? d)
    (hnames : ∀ r, s'.queueName? r = s.queueName? r)
    (hpanics : ∀ text, ask.panic? = some text → s.Refuses text)
    (hlog : ∃ lines, s'.log = s.log ++ lines)
    (hstep : ∀ x, s.ending? e = some x →
      ∃ x', s'.ending? e = some x' ∧ x.Step e ⟨e, ask, gained s s'⟩ x') :
    Follows s [⟨e, ask, gained s s'⟩] s' where
  endings d x hx := by
    by_cases hd : e = d
    · subst hd
      obtain ⟨x', hx', hstep⟩ := hstep x hx
      refine ⟨x', hx', ?_⟩
      rw [Call.on_singleton_self ⟨e, ask, gained s s'⟩]
      exact .cons hstep (.nil x')
    · refine ⟨x, (hothers d (Ne.symm hd)).trans hx, ?_⟩
      rw [Call.on_singleton_of_ne hd]
      exact .nil x
  names := hnames
  panics c hc text htext := by
    rw [List.mem_singleton] at hc
    subst hc
    exact hpanics text htext
  log := by
    obtain ⟨lines, hlines⟩ := hlog
    refine ⟨lines, hlines, ?_⟩
    rw [gained_eq hlines, Call.notes, List.flatMap_cons, List.flatMap_nil, List.append_nil]

theorem Follows.same {ask : Ask} (hask : ask.panic? = none)
    (hstep : ∀ x, s.endpoint? e = some x → x.ending.Step e ⟨e, ask, []⟩ x.ending) :
    Follows s [⟨e, ask, gained s s⟩] s := by
  refine .call (fun _ _ ↦ rfl) (fun _ ↦ rfl) (refuses_of_panic? hask)
    ⟨[], (List.append_nil _).symm⟩ ?_
  intro x hx
  obtain ⟨y, hy, rfl⟩ := Option.map_eq_some_iff.1 hx
  refine ⟨y.ending, hx, ?_⟩
  rw [gained_eq (List.append_nil _).symm]
  exact hstep y hy

theorem Follows.missing {ask : Ask} (hx : s.endpoint? e = none)
    (hask : ask.panic? = none) :
    Follows s [⟨e, ask, gained s s⟩] s := by
  refine .same hask fun x hx' ↦ ?_
  rw [hx] at hx'
  cases hx'

/-- A call that leaves the endpoint as it was. -/
theorem Follows.stays {ask : Ask} {x : Endpoint} (hx : s.endpoint? e = some x)
    (hask : ask.panic? = none)
    (hstep : x.ending.Step e ⟨e, ask, []⟩ x.ending) : Follows s [⟨e, ask, gained s s⟩] s := by
  refine .same hask fun y hy ↦ ?_
  rw [hx, Option.some.injEq] at hy
  exact hy ▸ hstep

/-- A call that changes the endpoint alone. -/
theorem Follows.set {ask : Ask} {x y : Endpoint} (hx : s.endpoint? e = some x)
    (hask : ask.panic? = none)
    (hstep : x.ending.Step e ⟨e, ask, []⟩ y.ending) :
    Follows s [⟨e, ask, gained s (s.setEndpoint e y)⟩] (s.setEndpoint e y) := by
  refine .call (fun d hd ↦ ?_) (fun r ↦ queueName?_congr (s.queue?_setEndpoint e r y))
    (refuses_of_panic? hask) ⟨[], (List.append_nil _).symm⟩ ?_
  · rw [ending?, ending?, s.endpoint?_setEndpoint_of_ne hd.symm]
  · intro z hz
    rw [ending?, hx, Option.map_some, Option.some.injEq] at hz
    subst hz
    refine ⟨y.ending, ?_, ?_⟩
    · rw [ending?, s.endpoint?_setEndpoint_self e hx]
      rfl
    · have hlog : (s.setEndpoint e y).log = s.log ++ [] := (List.append_nil _).symm
      rw [gained_eq hlog]
      exact hstep

theorem Follows.beginConnect (s : Node) (e : EndpointRef) :
    Follows s (s.actCalls (.beginConnect e)) (s.beginConnect e).1 := by
  cases hx : s.endpoint? e with
  | none =>
      have hcall : s.beginConnect e = (s, .error .notConnected) := by
        rw [Node.beginConnect, hx]
      rw [actCalls, hcall]
      exact .missing hx rfl
  | some x =>
      by_cases hstate : x.state = .uninitialized
      · have hcall : s.beginConnect e =
            (s.setEndpoint e { x with state := .connecting }, .ok ()) := by
          rw [Node.beginConnect, hx]
          simp only [Endpoint.beginConnect, hstate]
        rw [actCalls, hcall]
        exact .set hx rfl (.begins hstate)
      · have hcall : ∃ cause, s.beginConnect e = (s, .error cause) := by
          rw [Node.beginConnect, hx]
          cases hother : x.state with
          | uninitialized => exact absurd hother hstate
          | _ => exact ⟨_, by simp only [Endpoint.beginConnect, hother]; rfl⟩
        obtain ⟨cause, hcall⟩ := hcall
        rw [actCalls, hcall]
        exact .stays hx rfl (.refused hstate)

theorem Follows.abortConnect (s : Node) (e : EndpointRef) :
    Follows s (s.actCalls (.abortConnect e)) (s.abortConnect e) := by
  rw [actCalls]
  cases hx : s.endpoint? e with
  | none =>
      have hcall : s.abortConnect e = s := s.modifyEndpoint_of_none e hx _
      rw [hcall]
      exact .missing hx rfl
  | some x =>
      have hcall : s.abortConnect e = s.setEndpoint e x.abortConnect :=
        s.modifyEndpoint_of_endpoint? e hx _
      rw [hcall]
      refine .set hx rfl ?_
      by_cases hstate : x.state = .connecting
      · rw [Endpoint.abortConnect, if_pos hstate]
        exact .aborted hstate
      · rw [Endpoint.abortConnect, if_neg hstate]
        exact .unaborted hstate

theorem Follows.markConnected (s : Node) (e : EndpointRef) :
    Follows s (s.actCalls (.markConnected e)) (s.markConnected e).1 := by
  cases hx : s.endpoint? e with
  | none =>
      have hcall : s.markConnected e = (s, false) := by
        rw [Node.markConnected, hx]
      rw [actCalls, hcall]
      exact .missing hx rfl
  | some x =>
      have hcall : s.markConnected e = (s.setEndpoint e x.markConnected.1, x.markConnected.2) := by
        rw [Node.markConnected, hx]
      rw [actCalls, hcall]
      refine .set hx rfl ?_
      cases hactive : x.state.isActive with
      | true =>
          rw [Endpoint.markConnected, if_pos hactive]
          exact .marked hactive
      | false =>
          rw [Endpoint.markConnected, if_neg (ne_true_of_eq_false hactive)]
          exact .unmarked hactive

/-- A hook leaves its notes, those of the hooks that it registers among them. -/
theorem log_runHook (reason : DisconnectReason) (hook : Hook) (s : Node) :
    ∃ lines, (runHook reason hook s).log = s.log ++ lines ∧
      lines.filterMap Record.hook? = hook.notes.map (·, reason) := by
  induction hook generalizing s with
  | done => exact ⟨[], (List.append_nil _).symm, rfl⟩
  | note label next ih =>
      obtain ⟨lines, hlog, hnotes⟩ := ih (s.record (.hook label reason))
      refine ⟨.hook label reason :: lines, ?_, ?_⟩
      · rw [runHook, hlog, Node.record, List.append_assoc, List.singleton_append]
      · rw [List.filterMap_cons, hnotes]
        rfl
  | untrack id next ih => exact ih _
  | disconnect other next ih => exact ih s
  | register hook next ihhook ihnext =>
      obtain ⟨lines, hlog, hnotes⟩ := ihhook s
      obtain ⟨lines', hlog', hnotes'⟩ := ihnext (runHook reason hook s)
      refine ⟨lines ++ lines', ?_, ?_⟩
      · rw [runHook, hlog', hlog, List.append_assoc]
      · rw [List.filterMap_append, hnotes, hnotes', Hook.notes, List.map_append]

theorem log_runHooks (reason : DisconnectReason) (hooks : List Hook) (s : Node) :
    ∃ lines, (runHooks reason hooks s).log = s.log ++ lines ∧
      lines.filterMap Record.hook? = (hooks.flatMap Hook.notes).map (·, reason) := by
  induction hooks generalizing s with
  | nil => exact ⟨[], (List.append_nil _).symm, rfl⟩
  | cons hook hooks ih =>
      obtain ⟨lines, hlog, hnotes⟩ := log_runHook reason hook s
      obtain ⟨lines', hlog', hnotes'⟩ := ih (runHook reason hook s)
      refine ⟨lines ++ lines', ?_, ?_⟩
      · rw [← List.append_assoc, ← hlog]
        exact hlog'
      · rw [List.filterMap_append, hnotes, hnotes', List.flatMap_cons, List.map_append]

theorem Follows.onDisconnect (s : Node) (e : EndpointRef) (hook : Hook) :
    Follows s [s.hookCall e hook] (s.onDisconnect e hook) := by
  rw [hookCall]
  cases hx : s.endpoint? e with
  | none =>
      have hcall : s.onDisconnect e hook = s := by
        rw [Node.onDisconnect_eq, hx]
      rw [hcall]
      exact .missing hx rfl
  | some x =>
      by_cases hruns : x.ended = true ∧ x.reason.isSome = true
      · obtain ⟨hended, hsome⟩ := hruns
        obtain ⟨reason, hreason⟩ := Option.isSome_iff_exists.1 hsome
        have hcall : s.onDisconnect e hook = runHook reason hook s := by
          rw [Node.onDisconnect_eq, hx]
          simp only [hended, hreason]
        obtain ⟨lines, hlog, hnotes⟩ := log_runHook reason hook s
        rw [hcall]
        have hsame : ∀ d, (runHook reason hook s).ending? d = s.ending? d := by
          intro d
          rw [ending?, ending?, endpoint?, endpoints_runHook]
          rfl
        refine .call (fun d _ ↦ hsame d) (fun r ↦ queueName?_congr (s.queue?_runHook r reason hook))
          (refuses_of_panic? rfl) ⟨lines, hlog⟩ fun y hy ↦ ⟨y, (hsame e).trans hy, ?_⟩
        rw [ending?, hx, Option.map_some, Option.some.injEq] at hy
        subst hy
        rw [gained_eq hlog, hnotes]
        exact .runs hended hreason hook
      · have hwaits : x.ended = false ∨ x.reason = none := by
          cases hended : x.ended with
          | false => exact .inl rfl
          | true => exact .inr (Option.not_isSome_iff_eq_none.1 fun hsome ↦ hruns ⟨hended, hsome⟩)
        have hcall : s.onDisconnect e hook =
            s.setEndpoint e { x with hooks := x.hooks ++ [hook] } := by
          rw [Node.onDisconnect_eq, hx]
          dsimp only
          split
          · next reason hended hreason =>
            exact absurd ⟨hended, congrArg Option.isSome hreason⟩ hruns
          · rfl
        rw [hcall]
        exact .set hx rfl (.waits hwaits hook)

/-- Handing in a job panics only if no worker can be started under the name of the queue. -/
theorem panic_enqueue {r : QueueRef} {j : Job} {text : String}
    (h : (s.enqueue r j).1.panic = some text) : s.panic = some text ∨ s.Refuses text := by
  rw [enqueue] at h
  split at h
  · exact .inl h
  · next q hq =>
    split at h
    · next refusal hrefusal =>
      cases h
      rw [Queue.panic?] at hrefusal
      split at hrefusal
      · cases hrefusal
      · exact .inr ⟨r, q.name, congrArg (Option.map Queue.name) hq, hrefusal⟩
    · rw [panic_modifyQueue] at h
      exact .inl h

theorem panic_detach {h : Option Handle} {text : String} (hpanic : s.panic = none)
    (htext : (s.detach e h).panic = some text) : s.Refuses text := by
  have hnone : ∀ t : Node, t.panic = none → t.panic ≠ some text := by
    intro t ht htext
    rw [ht] at htext
    cases htext
  cases h with
  | none => exact absurd htext (hnone _ hpanic)
  | some h =>
      have hrefused : (s.enqueue h.queue (.reset e)).1.panic = some text := by
        rw [detach] at htext
        split at htext
        · next s₁ heq =>
          rw [heq, ← s₁.panic_release h]
          exact htext
        · next s₁ heq =>
          rw [heq]
          split at htext
          · rcases s₁.drop_cases h with hsame | ⟨hrelease, -⟩
            · rwa [hsame] at htext
            · rwa [hrelease, panic_release] at htext
          · rwa [panic_release] at htext
      rcases panic_enqueue hrefused with hbefore | hname
      · exact absurd hbefore (hnone s hpanic)
      · exact hname

/-- What is left of the first disconnect when the queue has been let go of: the hooks that wait are
run. -/
theorem Follows.finish {s₁ : Node} {x : Endpoint} (hx : s.endpoint? e = some x)
    (hnone : x.reason = none) (reason : DisconnectReason)
    (hquiet : Quiet (s.setEndpoint e (x.beginEnd reason)) s₁) :
    let s' := (runHooks reason x.hooks (s₁.modifyEndpoint e Endpoint.finish)).modifyEndpoint e
      fun x ↦ { x with events := x.events ++ [.disconnected reason] }
    Follows s [⟨e, .disconnect reason (.ok true), gained s s'⟩] s' := by
  intro s'
  obtain ⟨lines, hlog, hnotes⟩ := hquiet.log
  obtain ⟨lines', hlog', hnotes'⟩ :=
    log_runHooks reason x.hooks (s₁.modifyEndpoint e Endpoint.finish)
  have hall : s'.log = s.log ++ (lines ++ lines') := by
    rw [← List.append_assoc]
    exact hlog'.trans (congrArg (· ++ lines') hlog)
  have hhooks : ∀ d, (runHooks reason x.hooks (s₁.modifyEndpoint e Endpoint.finish)).endpoint? d =
      (s₁.modifyEndpoint e Endpoint.finish).endpoint? d := by
    intro d
    rw [endpoint?, endpoints_runHooks]
    rfl
  have hnames : ∀ r, s'.queueName? r = s.queueName? r := by
    intro r
    refine Eq.trans ?_ (hquiet.names r)
    rw [queueName?, queue?_modifyEndpoint, queue?_runHooks, queue?_modifyEndpoint]
    rfl
  refine .call (fun d hd ↦ ?_) hnames (refuses_of_panic? rfl) ⟨_, hall⟩ fun z hz ↦ ?_
  · rw [ending?, endpoint?_modifyEndpoint_of_ne _ hd.symm, hhooks,
      endpoint?_modifyEndpoint_of_ne _ hd.symm]
    refine (hquiet.endings d).trans ?_
    rw [ending?, ending?, s.endpoint?_setEndpoint_of_ne hd.symm]
  · rw [ending?, hx, Option.map_some, Option.some.injEq] at hz
    subst hz
    have hbegun := hquiet.endings e
    rw [ending?, ending?, s.endpoint?_setEndpoint_self e hx, Option.map_some,
      Option.map_eq_some_iff] at hbegun
    obtain ⟨y, hy, hending⟩ := hbegun
    refine ⟨⟨.disconnected, some reason, true, [], x.events ++ [.disconnected reason]⟩, ?_, ?_⟩
    · rw [ending?, endpoint?_modifyEndpoint_self, hhooks, endpoint?_modifyEndpoint_self, hy,
        Option.map_some, Option.map_some, Option.map_some, Option.some.injEq]
      have hreason : y.reason = some reason := (congrArg Ending.reason hending :)
      have hevents : y.events = x.events := (congrArg Ending.events hending :)
      simp only [Endpoint.ending, Endpoint.finish, hreason, hevents]
    · rw [gained_eq hall, List.filterMap_append, hnotes, hnotes']
      exact .ends hnone reason

/-- The first disconnect panicked while it let go of the queue. -/
theorem Follows.stick {s₁ : Node} {x : Endpoint} (hx : s.endpoint? e = some x)
    (hnone : x.reason = none) (reason : DisconnectReason)
    (hquiet : Quiet (s.setEndpoint e (x.beginEnd reason)) s₁) {text : String}
    (hrefuses : s.Refuses text) :
    Follows s [⟨e, .disconnect reason (.error text), gained s s₁⟩] s₁ := by
  obtain ⟨lines, hlog, hnotes⟩ := hquiet.log
  have hlog' : s₁.log = s.log ++ lines := hlog
  have hnames : ∀ r, s₁.queueName? r = s.queueName? r := fun r ↦
    (hquiet.names r).trans (queueName?_congr (s.queue?_setEndpoint e r _))
  have hpanics : ∀ text', (Ask.disconnect reason (.error text)).panic? = some text' →
      s.Refuses text' := by
    intro text' hsame
    cases hsame
    exact hrefuses
  refine .call (fun d hd ↦ ?_) hnames hpanics ⟨lines, hlog⟩ fun z hz ↦ ?_
  · refine (hquiet.endings d).trans ?_
    rw [ending?, ending?, s.endpoint?_setEndpoint_of_ne hd.symm]
  · rw [ending?, hx, Option.map_some, Option.some.injEq] at hz
    subst hz
    refine ⟨(x.beginEnd reason).ending, ?_, ?_⟩
    · rw [hquiet.endings e, ending?, s.endpoint?_setEndpoint_self e hx]
      rfl
    · rw [gained_eq hlog', hnotes]
      exact .sticks hnone reason text

/-- The first disconnect runs the hooks that wait, unless it panics; another one does nothing. -/
theorem Follows.disconnect (hpanic : s.panic = none) (e : EndpointRef)
    (reason : DisconnectReason) :
    Follows s [s.disconnectCall e reason] (s.disconnect e reason).1 := by
  cases hx : s.endpoint? e with
  | none =>
      have hcall : s.disconnect e reason = (s, false) := by
        rw [Node.disconnect_eq, hx]
      rw [disconnectCall, hcall]
      simp only [hpanic]
      exact .missing hx rfl
  | some x =>
      by_cases hsome : x.reason.isSome = true
      · rw [disconnectCall, s.disconnect_of_reason e hx hsome reason]
        simp only [hpanic]
        exact .stays hx rfl (.again hsome reason)
      · have hnone : x.reason = none := Option.not_isSome_iff_eq_none.1 hsome
        have hdetached := Quiet.detach (s.setEndpoint e (x.beginEnd reason)) e x.handle
        have hrefusal : ∀ text,
            ((s.setEndpoint e (x.beginEnd reason)).detach e x.handle).panic = some text →
              s.Refuses text := by
          intro text htext
          have hrefuses : (s.setEndpoint e (x.beginEnd reason)).Refuses text :=
            panic_detach hpanic htext
          exact hrefuses.of_names fun r ↦ queueName?_congr (s.queue?_setEndpoint e r _)
        rw [disconnectCall, Node.disconnect_eq, hx]
        simp only [hnone, Option.isSome_none, Bool.false_eq_true, if_false]
        generalize (s.setEndpoint e (x.beginEnd reason)).detach e x.handle = s₁
          at hdetached hrefusal ⊢
        cases hpanic₁ : s₁.panic with
        | some text =>
            simp only [Option.isSome_some, if_true, hpanic₁]
            exact .stick hx hnone reason hdetached (hrefusal text hpanic₁)
        | none =>
            have hpanic' : (runHooks reason x.hooks
                (s₁.modifyEndpoint e Endpoint.finish)).panic = none :=
              (panic_runHooks _ reason x.hooks).trans hpanic₁
            have hpanic'' : ((runHooks reason x.hooks
                (s₁.modifyEndpoint e Endpoint.finish)).modifyEndpoint e
                  fun x ↦ { x with events := x.events ++ [.disconnected reason] }).panic = none :=
              hpanic'
            simp only [Option.isSome_none, Bool.false_eq_true, if_false, hpanic'']
            exact .finish hx hnone reason hdetached

/-! ## Handlers and workers -/

theorem Follows.perform (e : EndpointRef) (react : Reaction) (hpanic : s.panic = none) :
    Follows s (performCalls e react s) (Node.perform e react s).1 := by
  induction react generalizing s with
  | done outcome => exact (Quiet.refl s).follows
  | note note next ih =>
      have hnote : Quiet s (s.record (.note note)) := .record rfl
      have hrest := ih (s := s.record (.note note)) hpanic
      exact hrest.quiet_left hnote
  | send m next ih =>
      have hsend := Sends.send s e m
      exact (ih _ (hsend.panic.trans hpanic)).quiet_left (.sends hsend)
  | disconnect reason next ih =>
      have hfirst := Follows.disconnect hpanic e reason
      rw [performCalls, Node.perform]
      cases hend : (s.disconnect e reason).1.panic with
      | some text =>
          simp only [hend]
          exact hfirst.quiet_right (.panic _ none)
      | none =>
          simp only [hend]
          exact hfirst.trans (ih _ hend)
  | onDisconnect hook next ih =>
      exact (Follows.onDisconnect s e hook).trans (ih ((s.panic_onDisconnect e hook).trans hpanic))
  | broadcast key m next ih =>
      rw [performCalls, Node.perform]
      cases hgroup : s.group? key with
      | none => exact ih none hpanic
      | some g =>
          have hsend := Sends.broadcastMessage s key g m
          exact (ih _ (hsend.panic.trans hpanic)).quiet_left (.sends hsend)

theorem Follows.dispatch (hpanic : s.panic = none) (e : EndpointRef) (type : EndpointType)
    (m : Message) :
    Follows s (s.dispatchCalls e type m) (s.dispatch e type m) := by
  have hrecord : ∀ handled, Quiet s (s.record (.dispatched e m handled)) := fun _ ↦ .record rfl
  rw [dispatchCalls]
  cases hselect : (s.engine e).registry.select m type with
  | unhandled =>
      rw [dispatch_of_unhandled hselect]
      exact (hrecord false).follows
  | wrongReceiver =>
      rw [dispatch_of_wrongReceiver hselect]
      exact ((hrecord false).trans (.trace _ _)).follows
  | handler h =>
      have hhandled := (Follows.perform e (h.react m) (s := s.record (.dispatched e m true))
        hpanic).quiet_left (hrecord true)
      rw [dispatch_of_handler hselect]
      exact traceFailure_keeps (P := Follows s _) hhandled
        (fun t ↦ hhandled.quiet_right (.trace _ t)) m _

theorem Follows.parseReceived (hpanic : s.panic = none) (e : EndpointRef) :
    Follows s (s.parseCalls e) (s.parseReceived e).1 := by
  rw [parseCalls, Node.parseReceived]
  cases hx : s.endpoint? e with
  | none => exact (Quiet.refl s).follows
  | some x =>
      dsimp only
      by_cases hdiscarding : x.discarding = true
      · rw [if_pos hdiscarding, if_pos hdiscarding]
        exact (Quiet.refl s).follows
      · rw [if_neg hdiscarding, if_neg hdiscarding]
        rcases hparse : (s.engine e).parse x.buffer with (cause | _) | ⟨messages, rest⟩
        · have hended := Follows.disconnect (s := s.trace (.invalidData cause)) hpanic e
            .invalidDataReceived
          exact (hended.quiet_left (.trace s _)).quiet_right (.contain _)
        · exact (Quiet.trace s _).follows
        · have hset : Quiet s (s.setEndpoint e { x with buffer := rest }) := .setEndpoint hx rfl
          exact hset.follows

theorem Follows.handleMessage (hpanic : s.panic = none) (e : EndpointRef) (m : Message) :
    Follows s (s.handleCalls e m) (s.handleMessage e m).1 := by
  rw [handleCalls, Node.handleMessage]
  cases hx : s.endpoint? e with
  | none => exact (Quiet.refl s).follows
  | some x =>
      have hrate : Quiet s (s.setEndpoint e { x with rate := x.rate.record }) :=
        .setEndpoint hx rfl
      dsimp only [Rate.exceeds]
      by_cases hexceeded : x.rate.record.above (s.engine e).protocol.maxRate = true
      · rw [if_pos hexceeded, if_pos hexceeded]
        have hended := Follows.disconnect
          (s := (s.setEndpoint e { x with rate := x.rate.record }).trace
            (.rateExceeded (s.engine e).protocol.maxRate)) hpanic e .spam
        exact (hended.quiet_left (hrate.trans (.trace _ _))).quiet_right (.contain _)
      · rw [if_neg hexceeded, if_neg hexceeded]
        by_cases hdiscarding : x.discarding = true
        · rw [if_pos hdiscarding, if_pos hdiscarding]
          exact hrate.follows
        · rw [if_neg hdiscarding, if_neg hdiscarding]
          have hdispatched := Follows.dispatch
            (s := s.setEndpoint e { x with rate := x.rate.record }) hpanic e x.type m
          exact hdispatched.quiet_left hrate

/-- What a step of a job does to the ends of endpoints, it does by the calls that it makes. -/
theorem Follows.execute (hpanic : s.panic = none) (r : QueueRef) (j : Job) :
    Follows s (s.jobCalls j) (s.execute r j) := by
  cases j with
  | hold clear => exact (Quiet.advance s r).follows
  | mark label panics =>
      have hmark : Quiet s (s.record (.mark label)) := .record rfl
      cases panics with
      | false => exact (hmark.trans (.advance _ r)).follows
      | true => exact ((hmark.trans (.trace _ _)).trans (.advance _ r)).follows
  | reset e => exact ((Quiet.clearBuffer s e).trans (.advance _ r)).follows
  | parse e => exact (Follows.parseReceived hpanic e).quiet_right (.proceed _ r e _)
  | handle e messages =>
      cases messages with
      | nil => exact (Quiet.proceed s r e []).follows
      | cons m ms =>
          obtain ⟨left, hexecute, -⟩ := s.execute_handle r e m ms
          rw [hexecute]
          exact (Follows.handleMessage hpanic e m).quiet_right (.proceed _ r e left)

theorem Follows.act? {act : Act} (hpanic : s.panic = none) (hact : s.act? act = some s') :
    Follows s (s.actCalls act) s' := by
  cases act with
  | beginConnect e =>
      cases hact
      exact .beginConnect s e
  | abortConnect e =>
      cases hact
      exact .abortConnect s e
  | attach e h =>
      cases hact
      exact (Quiet.attach s e h).follows
  | markConnected e =>
      cases hact
      exact .markConnected s e
  | send e m =>
      cases hact
      exact (Quiet.sends (.send s e m)).follows
  | receive e data =>
      cases hact
      exact ((Quiet.receive s e data).trans (.panic _ none)).follows
  | onDisconnect e hook =>
      cases hact
      exact .onDisconnect s e hook
  | disconnect e reason =>
      cases hact
      exact (Follows.disconnect hpanic e reason).quiet_right (.panic _ none)
  | renew e =>
      cases hact
      have hrenewed : Quiet s (s.modifyEndpoint e fun x ↦ { x with rate := x.rate.renew }) :=
        .modifyEndpoint fun _ _ ↦ rfl
      exact hrenewed.follows
  | work r =>
      obtain ⟨q, j, rest, hq, hhead, rfl⟩ := work?_eq_some hact
      simp only [actCalls, hq, hhead]
      exact .execute hpanic r j

/-- What a run does to the ends of endpoints, it does by the calls that are made on the way. -/
theorem Follows.run? {acts : List Act} (hpanic : s.panic = none) (hrun : s.run? acts = some s') :
    Follows s (s.calls acts) s' := by
  induction acts generalizing s with
  | nil =>
      cases hrun
      exact (Quiet.refl s').follows
  | cons act acts ih =>
      obtain ⟨s₁, hact, hrest⟩ := run?_cons.1 hrun
      rw [Node.calls, hact]
      exact (Follows.act? hpanic hact).trans (ih (panic_act? hpanic hact) hrest)

end Follows

end Node

end MessageEngine
