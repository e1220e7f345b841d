import MessageEngine.Proofs.NodeAccess

/-!
# What leaves a connection alone

A node runs many endpoints, and some of them share a queue.  Whatever is done
for another endpoint leaves an endpoint as it was, but for the frames that it
is to send, and puts behind the jobs of its queue only jobs of others.  The
same holds of a handler of its own that does not disconnect it.
-/

namespace MessageEngine

/-- What an endpoint is apart from what it sends and what waits for its end. -/
def Endpoint.core (x : Endpoint) : Endpoint := { x with outbox := {}, hooks := [], frames := 0 }

/-- The job is done for the endpoint. -/
def Job.isFor (b : EndpointRef) : Job → Bool
  | .parse e | .handle e _ | .reset e => e == b
  | .hold _ | .mark _ _ => false

/-- The job is not done for the endpoint and holds nothing up. -/
def Job.Foreign (b : EndpointRef) (j : Job) : Prop := j.isFor b = false ∧ j ≠ .hold false

theorem Job.filter_of_foreign {b : EndpointRef} {jobs : List Job} (h : ∀ j ∈ jobs, j.Foreign b) :
    jobs.filter (Job.isFor b) = [] := by
  refine List.filter_eq_nil_iff.2 fun j hj ↦ ?_
  rw [(h j hj).1]
  exact Bool.false_ne_true

/-- A queue got jobs of others behind those that it had. -/
structure Queue.Gains (b : EndpointRef) (q q' : Queue Job) : Prop where
  backlog : ∃ jobs, q'.backlog = q.backlog ++ jobs ∧ ∀ j ∈ jobs, j.Foreign b
  name : q'.name = q.name
  disposed : q'.disposed = q.disposed

namespace Queue.Gains

variable {b : EndpointRef} {q q' q'' : Queue Job}

theorem refl (b : EndpointRef) (q : Queue Job) : q.Gains b q :=
  ⟨⟨[], (List.append_nil _).symm, fun _ h ↦ absurd h List.not_mem_nil⟩, rfl, rfl⟩

theorem trans (h : q.Gains b q') (h' : q'.Gains b q'') : q.Gains b q'' := by
  obtain ⟨jobs, hbacklog, hjobs⟩ := h.backlog
  obtain ⟨jobs', hbacklog', hjobs'⟩ := h'.backlog
  refine ⟨⟨jobs ++ jobs', ?_, ?_⟩, h'.name.trans h.name, h'.disposed.trans h.disposed⟩
  · rw [hbacklog', hbacklog, List.append_assoc]
  · intro j hj
    rcases List.mem_append.1 hj with hj | hj
    · exact hjobs j hj
    · exact hjobs' j hj

theorem enqueue {j : Job} (hj : j.Foreign b) (q : Queue Job) : q.Gains b (q.enqueue j).1 := by
  rw [Queue.enqueue]
  split
  · exact refl b q
  · refine ⟨⟨[j], rfl, fun i hi ↦ ?_⟩, rfl, rfl⟩
    rw [List.mem_singleton.1 hi]
    exact hj

end Queue.Gains

/-- The message that was dispatched to an endpoint, with the answer to whether there was a
handler to run. -/
def Record.dispatch? (b : EndpointRef) : Record → Option (Message × Bool)
  | .dispatched e m handled => if e = b then some (m, handled) else none
  | _ => none

namespace Node

/-- The messages that were dispatched to an endpoint, in order. -/
def dispatched (s : Node) (b : EndpointRef) : List (Message × Bool) :=
  s.log.filterMap (Record.dispatch? b)

theorem dispatched_record (s : Node) (b : EndpointRef) (x : Record) :
    (s.record x).dispatched b = s.dispatched b ++ (x.dispatch? b).toList := by
  rw [dispatched, dispatched, record, List.filterMap_append]
  cases hx : x.dispatch? b with
  | none => simp [hx]
  | some m => simp [hx]

/-- What came about leaves an endpoint and its queue alone. -/
structure Spares (b : EndpointRef) (r : QueueRef) (s s' : Node) : Prop where
  engine : s'.engine = s.engine
  core : (s'.endpoint? b).map Endpoint.core = (s.endpoint? b).map Endpoint.core
  /-- The other endpoints come to no queues that they did not have. -/
  handles : ∀ e x', e ≠ b → s'.endpoint? e = some x' →
    x'.handle = none ∨ ∃ x, s.endpoint? e = some x ∧ x'.handle = x.handle
  queue : ∀ q, s.queue? r = some q → ∃ q', s'.queue? r = some q' ∧ q.Gains b q'
  dispatched : s'.dispatched b = s.dispatched b

/-- No other endpoint has the queue for its own. -/
def Alone (b : EndpointRef) (r : QueueRef) (s : Node) : Prop :=
  ∀ e x i, e ≠ b → s.endpoint? e = some x → x.handle = some (.dedicated i) → r ≠ .dedicated i

theorem Alone.of_endpoint? {b : EndpointRef} {r : QueueRef} {s s' : Node} (halone : s.Alone b r)
    (hsame : ∀ e, e ≠ b → s'.endpoint? e = s.endpoint? e) : s'.Alone b r :=
  fun e x i he hx ↦ halone e x i he ((hsame e he).symm.trans hx)

/-- Why an endpoint is disconnected, if it is. -/
def reason? (s : Node) (b : EndpointRef) : Option DisconnectReason :=
  (s.endpoint? b).bind (·.reason)

namespace Spares

variable {b : EndpointRef} {r : QueueRef} {s s' s'' : Node}

/-- It is enough to see the same engine, endpoints, queues and log. -/
theorem of_eq (hengine : s'.engine = s.engine) (hendpoints : s'.endpoints = s.endpoints)
    (hqueue : s'.queue? r = s.queue? r) (hlog : s'.log = s.log) : Spares b r s s' where
  engine := hengine
  core := by rw [endpoint?, endpoint?, hendpoints]
  handles e x' _ hx' := by
    rw [endpoint?, hendpoints] at hx'
    exact .inr ⟨x', hx', rfl⟩
  queue q hq := ⟨q, hqueue.trans hq, .refl b q⟩
  dispatched := by rw [Node.dispatched, Node.dispatched, hlog]

theorem refl (b : EndpointRef) (r : QueueRef) (s : Node) : Spares b r s s := .of_eq rfl rfl rfl rfl

theorem trans (h : Spares b r s s') (h' : Spares b r s' s'') : Spares b r s s'' where
  engine := h'.engine.trans h.engine
  core := h'.core.trans h.core
  handles e x'' he hx'' := by
    rcases h'.handles e x'' he hx'' with hnone | ⟨x', hx', hsame'⟩
    · exact .inl hnone
    · rcases h.handles e x' he hx' with hnone | ⟨x, hx, hsame⟩
      · exact .inl (hsame'.trans hnone)
      · exact .inr ⟨x, hx, hsame'.trans hsame⟩
  queue q hq := by
    obtain ⟨q', hq', hgains⟩ := h.queue q hq
    obtain ⟨q'', hq'', hgains'⟩ := h'.queue q' hq'
    exact ⟨q'', hq'', hgains.trans hgains'⟩
  dispatched := h'.dispatched.trans h.dispatched

theorem alone (h : Spares b r s s') (halone : s.Alone b r) : s'.Alone b r := by
  intro e x' i he hx' hhandle
  rcases h.handles e x' he hx' with hnone | ⟨x, hx, hsame⟩
  · rw [hhandle] at hnone
    cases hnone
  · exact halone e x i he hx (hsame.symm.trans hhandle)

/-- The endpoint is still there, with the same core. -/
theorem endpoint (h : Spares b r s s') {x : Endpoint} (hx : s.endpoint? b = some x) :
    ∃ x', s'.endpoint? b = some x' ∧ x'.core = x.core := by
  have hcore := h.core
  rw [hx, Option.map_some] at hcore
  exact Option.map_eq_some_iff.1 hcore

theorem isSome_endpoint? (h : Spares b r s s') :
    (s'.endpoint? b).isSome = (s.endpoint? b).isSome := by
  have hcore := congrArg Option.isSome h.core
  rwa [Option.isSome_map, Option.isSome_map] at hcore

theorem reason? (h : Spares b r s s') : s'.reason? b = s.reason? b := by
  have hcore := congrArg (Option.bind · Endpoint.reason) h.core
  simp only [Option.bind_map] at hcore
  exact hcore

theorem panic (s : Node) (text : Option String) : Spares b r s { s with panic := text } :=
  .of_eq rfl rfl (by cases r <;> rfl) rfl

theorem server (s : Node) (v : Server) : Spares b r s { s with server := v } :=
  .of_eq rfl rfl (by cases r <;> rfl) rfl

/-- A change of another endpoint, or of what may change of this one. -/
theorem modifyEndpoint {e : EndpointRef} {f : Endpoint → Endpoint}
    (hf : ∀ x, s.endpoint? e = some x →
      ((f x).handle = none ∨ (f x).handle = x.handle) ∧ (e = b → (f x).core = x.core)) :
    Spares b r s (s.modifyEndpoint e f) where
  engine := rfl
  core := by
    rw [endpoint?_modifyEndpoint]
    split
    · next he =>
      subst he
      cases hx : s.endpoint? e with
      | none => rfl
      | some x => exact congrArg some ((hf x hx).2 rfl)
    · rfl
  handles d x' hd hx' := by
    rw [endpoint?_modifyEndpoint] at hx'
    split at hx'
    · next he =>
      subst he
      obtain ⟨x, hx, rfl⟩ := Option.map_eq_some_iff.1 hx'
      rcases (hf x hx).1 with hnone | hsame
      · exact .inl hnone
      · exact .inr ⟨x, hx, hsame⟩
    · exact .inr ⟨x', hx', rfl⟩
  queue q hq := ⟨q, by rw [queue?_modifyEndpoint, hq], .refl b q⟩
  dispatched := rfl

theorem setEndpoint {e : EndpointRef} {x y : Endpoint} (hx : s.endpoint? e = some x)
    (hhandle : y.handle = none ∨ y.handle = x.handle) (hcore : e = b → y.core = x.core) :
    Spares b r s (s.setEndpoint e y) := by
  refine modifyEndpoint fun x' hx' ↦ ?_
  rw [hx, Option.some.injEq] at hx'
  subst hx'
  exact ⟨hhandle, hcore⟩

theorem modifyQueue {t : QueueRef} {f : Queue Job → Queue Job}
    (hf : t = r → ∀ q, s.queue? r = some q → q.Gains b (f q)) :
    Spares b r s (s.modifyQueue t f) where
  engine := s.engine_modifyQueue t f
  core := by rw [endpoint?_modifyQueue]
  handles e x' _ hx' := by
    rw [endpoint?_modifyQueue] at hx'
    exact .inr ⟨x', hx', rfl⟩
  queue q hq := by
    rw [queue?_modifyQueue, hq]
    split
    · next ht => exact ⟨f q, rfl, hf ht q hq⟩
    · exact ⟨q, rfl, .refl b q⟩
  dispatched := by rw [Node.dispatched, Node.dispatched, log_modifyQueue]

theorem record {x : Record} (hx : x.dispatch? b = none) : Spares b r s (s.record x) where
  engine := rfl
  core := rfl
  handles _ x' _ hx' := .inr ⟨x', hx', rfl⟩
  queue q hq := ⟨q, (s.queue?_record r x).trans hq, .refl b q⟩
  dispatched := by rw [dispatched_record, hx, Option.toList_none, List.append_nil]

theorem trace (s : Node) (t : Trace) : Spares b r s (s.trace t) := record rfl

/-! ## What a node does for its endpoints -/

theorem enqueue {j : Job} (hj : j.Foreign b) (s : Node) (t : QueueRef) :
    Spares b r s (s.enqueue t j).1 := by
  rcases s.enqueue_cases t j with h | ⟨text, h⟩ | ⟨q, hq, -, h⟩
  · rw [h]
    exact refl b r s
  · rw [h]
    exact panic s _
  · rw [h]
    refine modifyQueue fun ht q' hq' ↦ ?_
    subst ht
    rw [hq, Option.some.injEq] at hq'
    subst hq'
    exact .enqueue hj q

theorem release {h : Handle} (hown : ∀ i, h = .dedicated i → r ≠ .dedicated i) :
    Spares b r s (s.release h).1 := by
  rcases s.release_cases h with hsame | ⟨f, hf, hq⟩
  · rw [hsame]
    exact refl b r s
  · rw [hf]
    refine modifyQueue fun ht q _ ↦ ?_
    obtain ⟨hbacklog, hname, hdisposed | ⟨i, rfl⟩⟩ := hq q
    · exact ⟨⟨[], by rw [hbacklog, List.append_nil], fun _ h ↦ absurd h List.not_mem_nil⟩,
        hname, hdisposed⟩
    · exact absurd ht.symm (hown i rfl)

theorem drop (s : Node) (h : Handle) : Spares b r s (s.drop h) := by
  rcases s.drop_cases h with hsame | ⟨hrelease, hpooled⟩
  · rw [hsame]
    exact refl b r s
  · rw [hrelease]
    exact release fun i hi ↦ absurd hi (hpooled i)

theorem clearBuffer {e : EndpointRef} (he : e ≠ b) (s : Node) : Spares b r s (s.clearBuffer e) :=
  modifyEndpoint fun _ _ ↦ ⟨.inr rfl, fun h ↦ absurd h he⟩

theorem detach {e : EndpointRef} (he : e ≠ b) {h : Option Handle}
    (hown : ∀ i, h = some (.dedicated i) → r ≠ .dedicated i) : Spares b r s (s.detach e h) := by
  cases h with
  | none => exact clearBuffer he s
  | some h =>
      have hgive : ∀ i, h = .dedicated i → r ≠ .dedicated i := fun i hi ↦ hown i (hi ▸ rfl)
      have hreset : (Job.reset e).Foreign b := ⟨beq_false_of_ne he, Job.noConfusion⟩
      have htaken : Spares b r s (s.enqueue h.queue (.reset e)).1 := enqueue hreset s h.queue
      rw [Node.detach]
      split
      · next s₁ heq =>
        rw [heq] at htaken
        exact htaken.trans (release hgive)
      · next s₁ heq =>
        rw [heq] at htaken
        split
        · exact htaken.trans (drop s₁ h)
        · exact (htaken.trans (clearBuffer he s₁)).trans (release hgive)

/-- A hook may leave remarks and strike connections off the book, but touches no endpoint. -/
theorem runHook (reason : DisconnectReason) (hook : Hook) (s : Node) :
    Spares b r s (Node.runHook reason hook s) := by
  induction hook generalizing s with
  | done => exact refl b r s
  | note label next ih => exact (record rfl).trans (ih _)
  | untrack id next ih => exact (server s (s.server.strike id reason)).trans (ih _)
  | disconnect _ next ih => exact ih s
  | register hook next ihhook ihnext => exact (ihhook s).trans (ihnext _)

theorem runHooks (reason : DisconnectReason) (hooks : List Hook) (s : Node) :
    Spares b r s (Node.runHooks reason hooks s) := by
  induction hooks generalizing s with
  | nil => exact refl b r s
  | cons hook rest ih => exact (runHook reason hook s).trans (ih _)

theorem onDisconnect (s : Node) (e : EndpointRef) (hook : Hook) :
    Spares b r s (s.onDisconnect e hook) := by
  rw [Node.onDisconnect_eq]
  split
  · exact refl b r s
  · next x hx =>
    split
    · exact runHook _ hook s
    · exact setEndpoint hx (.inr rfl) fun _ ↦ rfl

/-- Another endpoint is disconnected, or this one was before. -/
theorem disconnect {e : EndpointRef} (halone : s.Alone b r)
    (he : e = b → (s.reason? b).isSome = true) (reason : DisconnectReason) :
    Spares b r s (s.disconnect e reason).1 := by
  rw [Node.disconnect_eq]
  split
  · exact refl b r s
  · next x hx =>
    split
    · exact refl b r s
    · next hreason =>
      have hne : e ≠ b := by
        intro h
        subst h
        have hsome := he rfl
        rw [Node.reason?, hx] at hsome
        exact hreason hsome
      have hbegin : Spares b r s (s.setEndpoint e (x.beginEnd reason)) :=
        setEndpoint hx (.inl rfl) fun h ↦ absurd h hne
      have hdetach : Spares b r s ((s.setEndpoint e (x.beginEnd reason)).detach e x.handle) :=
        hbegin.trans (detach hne fun i hi ↦ halone e x i hne hx hi)
      generalize (s.setEndpoint e (x.beginEnd reason)).detach e x.handle = s₁ at hdetach ⊢
      dsimp only
      split
      · exact hdetach
      · have hfinish : Spares b r s₁ (s₁.modifyEndpoint e Endpoint.finish) :=
          modifyEndpoint fun _ _ ↦ ⟨.inr rfl, fun h ↦ absurd h hne⟩
        refine ((hdetach.trans hfinish).trans (runHooks reason x.hooks _)).trans ?_
        exact modifyEndpoint fun _ _ ↦ ⟨.inr rfl, fun h ↦ absurd h hne⟩

/-- What is sent leaves an endpoint as it was but for what it sends. -/
theorem sends (h : Sends s s') : Spares b r s s' where
  engine := h.engine
  core := by
    have hsame := congrArg (Option.map Endpoint.core) (h.endpoints b)
    rw [Option.map_map, Option.map_map] at hsame
    exact hsame
  handles e x' _ hx' := by
    have hsame := h.endpoints e
    rw [hx', Option.map_some] at hsame
    obtain ⟨x, hx, hunsent⟩ := Option.map_eq_some_iff.1 hsame.symm
    exact .inr ⟨x, hx, (congrArg Endpoint.handle hunsent :).symm⟩
  queue q hq := ⟨q, (h.queues r).trans hq, .refl b q⟩
  dispatched := by rw [Node.dispatched, Node.dispatched, h.log]

theorem contain (s : Node) : Spares b r s s.contain := by
  rw [Node.contain]
  split
  · exact (panic s none).trans (trace _ _)
  · exact refl b r s

theorem receive {e : EndpointRef} (he : e ≠ b) (s : Node) (data : Bytes) :
    Spares b r s (s.receive e data) := by
  rw [Node.receive]
  split
  · exact refl b r s
  · next x hx =>
    split
    · have hbuffer : Spares b r s (s.setEndpoint e { x with buffer := x.buffer ++ data }) :=
        setEndpoint hx (.inr rfl) fun h ↦ absurd h he
      dsimp only
      split
      · have hparse : (Job.parse e).Foreign b := ⟨beq_false_of_ne he, Job.noConfusion⟩
        exact hbuffer.trans (enqueue hparse _ _)
      · exact hbuffer
    · exact refl b r s

/-! ## Handlers -/

/-- A handler of another endpoint, or of this one once it has been disconnected. -/
theorem perform {e : EndpointRef} (react : Reaction) (halone : s.Alone b r)
    (he : e = b → (s.reason? b).isSome = true) : Spares b r s (Node.perform e react s).1 := by
  induction react generalizing s with
  | done outcome => exact refl b r s
  | note note next ih =>
      have hnote : Spares b r s (s.record (.note note)) := record rfl
      exact hnote.trans (ih (hnote.alone halone) he)
  | send m next ih =>
      have hsend : Spares b r s (s.send e m).1 := sends (.send s e m)
      exact hsend.trans (ih _ (hsend.alone halone) fun h ↦ hsend.reason? ▸ he h)
  | disconnect reason next ih =>
      have hend : Spares b r s (s.disconnect e reason).1 := disconnect halone he reason
      rw [Node.perform]
      dsimp only
      split
      · exact hend.trans (panic _ none)
      · exact hend.trans (ih _ (hend.alone halone) fun h ↦ hend.reason? ▸ he h)
  | onDisconnect hook next ih =>
      have hhook : Spares b r s (s.onDisconnect e hook) := onDisconnect s e hook
      exact hhook.trans (ih (hhook.alone halone) fun h ↦ hhook.reason? ▸ he h)
  | broadcast key m next ih =>
      rw [Node.perform]
      split
      · exact ih none halone he
      · next g _ =>
        have hsent : Spares b r s (s.broadcastMessage key g m).1 :=
          sends (.broadcastMessage s key g m)
        exact hsent.trans (ih _ (hsent.alone halone) fun h ↦ hsent.reason? ▸ he h)

end Spares

/-- What came about leaves an endpoint and its queue alone, but for a disconnect on the way. -/
def SparesOrEnds (b : EndpointRef) (r : QueueRef) (s s' : Node) : Prop :=
  Spares b r s s' ∨ ∃ s₁ reason, Spares b r s s₁ ∧ s₁.panic = s.panic ∧
    Spares b r (s₁.disconnect b reason).1 s'

namespace SparesOrEnds

variable {b : EndpointRef} {r : QueueRef} {s s₀ s' : Node}

theorem after (h : SparesOrEnds b r s₀ s') (hs : Spares b r s s₀) (hpanic : s₀.panic = s.panic) :
    SparesOrEnds b r s s' := by
  rcases h with h | ⟨s₁, reason, hfirst, hsame, hrest⟩
  · exact .inl (hs.trans h)
  · exact .inr ⟨s₁, reason, hs.trans hfirst, hsame.trans hpanic, hrest⟩

theorem trans_spares (h : SparesOrEnds b r s s₀) (hs : Spares b r s₀ s') :
    SparesOrEnds b r s s' := by
  rcases h with h | ⟨s₁, reason, hfirst, hsame, hrest⟩
  · exact .inl (h.trans hs)
  · exact .inr ⟨s₁, reason, hfirst, hsame, hrest.trans hs⟩

/-- A handler of this endpoint that was not disconnected before. -/
theorem perform (react : Reaction) (halone : s.Alone b r)
    (hthere : (s.endpoint? b).isSome = true) (hbefore : s.reason? b = none) :
    SparesOrEnds b r s (Node.perform b react s).1 := by
  induction react generalizing s with
  | done outcome => exact .inl (.refl b r s)
  | note note next ih =>
      have hnote : Spares b r s (s.record (.note note)) := .record rfl
      exact (ih (hnote.alone halone) hthere hbefore).after hnote rfl
  | send m next ih =>
      have hsend : Spares b r s (s.send b m).1 := .sends (.send s b m)
      exact (ih _ (hsend.alone halone) (hsend.isSome_endpoint? ▸ hthere)
        (hsend.reason?.trans hbefore)).after hsend (Sends.send s b m).panic
  | disconnect reason next ih =>
      refine .inr ⟨s, reason, .refl b r s, rfl, ?_⟩
      obtain ⟨x, hx⟩ := Option.isSome_iff_exists.1 hthere
      have hreason : x.reason = none := by
        rw [Node.reason?, hx] at hbefore
        exact hbefore
      obtain ⟨x', hx', hreason', -, -⟩ := s.endpoint?_disconnect b hx hreason reason
      have hended : ((s.disconnect b reason).1.reason? b).isSome = true := by
        rw [Node.reason?, hx', Option.bind_some, hreason']
        rfl
      have halone' : (s.disconnect b reason).1.Alone b r :=
        halone.of_endpoint? fun e he ↦ s.endpoint?_disconnect_of_ne he.symm reason
      rw [Node.perform]
      dsimp only
      split
      · exact .panic _ none
      · exact .perform (e := b) (next (s.disconnect b reason).2) halone' fun _ ↦ hended
  | onDisconnect hook next ih =>
      have hhook : Spares b r s (s.onDisconnect b hook) := .onDisconnect s b hook
      exact (ih (hhook.alone halone) (hhook.isSome_endpoint? ▸ hthere)
        (hhook.reason?.trans hbefore)).after hhook (s.panic_onDisconnect b hook)
  | broadcast key m next ih =>
      rw [Node.perform]
      split
      · exact ih none halone hthere hbefore
      · next g _ =>
        have hsent : Spares b r s (s.broadcastMessage key g m).1 :=
          .sends (.broadcastMessage s key g m)
        exact (ih _ (hsent.alone halone) (hsent.isSome_endpoint? ▸ hthere)
          (hsent.reason?.trans hbefore)).after hsent (Sends.broadcastMessage s key g m).panic

end SparesOrEnds

end Node

/-- There is a handler to run for the message. -/
def Registry.handles (registry : Registry) (m : Message) (receiver : EndpointType) : Bool :=
  match registry.select m receiver with
  | .handler _ => true
  | _ => false

namespace Node

/-- A dispatch leaves its record, runs the handler if there is one, and may trace its failure. -/
theorem dispatch_keeps {P : Node → Prop} (s : Node) (e : EndpointRef) (type : EndpointType)
    (m : Message)
    (hrecord : P (s.record (.dispatched e m ((s.engine e).registry.handles m type))))
    (hperform : ∀ h, (s.engine e).registry.select m type = .handler h → P (perform e (h.react m)
      (s.record (.dispatched e m ((s.engine e).registry.handles m type)))).1)
    (htrace : ∀ s₁ t, P s₁ → P (s₁.trace t)) : P (s.dispatch e type m) := by
  rw [Registry.handles] at hrecord hperform
  cases hselect : (s.engine e).registry.select m type with
  | unhandled =>
      rw [hselect] at hrecord
      rw [dispatch_of_unhandled hselect]
      exact hrecord
  | wrongReceiver =>
      rw [hselect] at hrecord
      rw [dispatch_of_wrongReceiver hselect]
      exact htrace _ _ hrecord
  | handler h =>
      have hhandled := hperform h hselect
      rw [hselect] at hhandled
      rw [dispatch_of_handler hselect]
      exact traceFailure_keeps hhandled (fun t ↦ htrace _ t hhandled) m _

/-- A parse takes messages out of the buffer, or ends the endpoint, or leaves a trace alone. -/
theorem parseReceived_keeps {P : Node → Prop} (s : Node) (e : EndpointRef) (h : P s)
    (htrace : ∀ t, P (s.trace t))
    (hend : ∀ cause,
      P ((s.trace (.invalidData cause)).disconnect e .invalidDataReceived).1.contain)
    (hset : ∀ x buffer, s.endpoint? e = some x → P (s.setEndpoint e { x with buffer := buffer })) :
    P (s.parseReceived e).1 := by
  rw [parseReceived]
  split
  · exact h
  · next x hx =>
    split
    · exact h
    · split
      · exact hend _
      · exact htrace _
      · exact hset x _ hx

/-- A message is counted, and then it ends the endpoint, or is dropped, or dispatched. -/
theorem handleMessage_keeps {P : Node → Prop} (s : Node) (e : EndpointRef) (m : Message) (h : P s)
    (hset : ∀ x rate, s.endpoint? e = some x → P (s.setEndpoint e { x with rate := rate }))
    (hend : ∀ x rate ceiling, s.endpoint? e = some x →
      P (((s.setEndpoint e { x with rate := rate }).trace (.rateExceeded ceiling)).disconnect e
        .spam).1.contain)
    (hdispatch : ∀ x rate, s.endpoint? e = some x →
      P ((s.setEndpoint e { x with rate := rate }).dispatch e x.type m)) :
    P (s.handleMessage e m).1 := by
  rw [handleMessage]
  split
  · exact h
  · next x hx =>
    dsimp only
    split
    · exact hend x _ _ hx
    · split
      · exact hset x _ hx
      · exact hdispatch x _ hx

theorem panic_dispatch (s : Node) (e : EndpointRef) (type : EndpointType) (m : Message)
    (h : s.panic = none) : (s.dispatch e type m).panic = none := by
  apply dispatch_keeps (P := fun s' ↦ s'.panic = none) s e type m h
  · exact fun handler _ ↦ panic_perform _ e (handler.react m) h
  · exact fun _ _ hnone ↦ hnone

namespace Spares

variable {b e : EndpointRef} {r : QueueRef} {s : Node}

/-! ## Jobs of others -/

/-- What follows the record of a dispatch to another endpoint, or to this one once it has been
disconnected. -/
theorem dispatch_record (halone : s.Alone b r) (he : e = b → (s.reason? b).isSome = true)
    (type : EndpointType) (m : Message) :
    Spares b r (s.record (.dispatched e m ((s.engine e).registry.handles m type)))
      (s.dispatch e type m) := by
  apply dispatch_keeps s e type m (refl b r _)
  · exact fun h _ ↦ perform (h.react m) halone he
  · exact fun s₁ t hspares ↦ hspares.trans (trace s₁ t)

theorem dispatch (he : e ≠ b) (halone : s.Alone b r) (type : EndpointType) (m : Message) :
    Spares b r s (s.dispatch e type m) := by
  have hrecord : Spares b r s (s.record (.dispatched e m ((s.engine e).registry.handles m type))) :=
    record (if_neg he)
  exact hrecord.trans (dispatch_record halone (fun h ↦ absurd h he) type m)

/-- What follows the record of a dispatch to this endpoint. -/
theorem dispatch_self (halone : s.Alone b r) (hthere : (s.endpoint? b).isSome = true)
    (type : EndpointType) (m : Message) :
    SparesOrEnds b r (s.record (.dispatched b m ((s.engine b).registry.handles m type)))
      (s.dispatch b type m) := by
  cases hreason : s.reason? b with
  | some reason =>
      exact .inl (dispatch_record halone (fun _ ↦ congrArg Option.isSome hreason) type m)
  | none =>
      apply dispatch_keeps s b type m (.inl (refl b r _))
      · exact fun h _ ↦ .perform (h.react m) halone hthere hreason
      · exact fun s₁ t hhandler ↦ hhandler.trans_spares (trace s₁ t)

theorem parseReceived (he : e ≠ b) (halone : s.Alone b r) :
    Spares b r s (s.parseReceived e).1 := by
  apply parseReceived_keeps s e (refl b r s) (trace s)
  · intro cause
    have htrace : Spares b r s (s.trace (.invalidData cause)) := trace s _
    exact (htrace.trans (disconnect (htrace.alone halone) (fun h ↦ absurd h he) _)).trans
      (contain _)
  · exact fun x buffer hx ↦ setEndpoint hx (.inr rfl) fun h ↦ absurd h he

theorem handleMessage (he : e ≠ b) (halone : s.Alone b r) (m : Message) :
    Spares b r s (s.handleMessage e m).1 := by
  have hrate : ∀ x rate, s.endpoint? e = some x →
      Spares b r s (s.setEndpoint e { x with rate := rate }) :=
    fun x rate hx ↦ setEndpoint hx (.inr rfl) fun h ↦ absurd h he
  apply handleMessage_keeps s e m (refl b r s) hrate
  · intro x rate ceiling hx
    have htrace := (hrate x rate hx).trans (trace _ (.rateExceeded ceiling))
    exact (htrace.trans (disconnect (htrace.alone halone) (fun h ↦ absurd h he) _)).trans
      (contain _)
  · exact fun x rate hx ↦
      (hrate x rate hx).trans (dispatch he ((hrate x rate hx).alone halone) _ m)

end Spares

theorem panic_parseReceived (s : Node) (e : EndpointRef) (h : s.panic = none) :
    (s.parseReceived e).1.panic = none := by
  apply parseReceived_keeps (P := fun s' ↦ s'.panic = none) s e h (fun _ ↦ h)
  · exact fun _ ↦ panic_contain _
  · exact fun _ _ _ ↦ h

theorem panic_handleMessage (s : Node) (e : EndpointRef) (m : Message) (h : s.panic = none) :
    (s.handleMessage e m).1.panic = none := by
  apply handleMessage_keeps (P := fun s' ↦ s'.panic = none) s e m h (fun _ _ _ ↦ h)
  · exact fun _ _ _ _ ↦ panic_contain _
  · exact fun _ _ _ ↦ panic_dispatch _ e _ m h

/-- A step of a job that is not done for an endpoint spares it, and leaves only jobs of others. -/
theorem execute_of_foreign {b : EndpointRef} {r : QueueRef} {s : Node} {j : Job}
    (hj : j.isFor b = false) (halone : s.Alone b r) (hpanic : s.panic = none) :
    ∃ s₁ e ms, s.execute r j = s₁.proceed r e ms ∧ (ms = [] ∨ e ≠ b) ∧ Spares b r s s₁ ∧
      s₁.panic = none := by
  cases j with
  | hold clear => exact ⟨s, b, [], rfl, .inl rfl, .refl b r s, hpanic⟩
  | mark label panics =>
      have hmark : Spares b r s (s.record (.mark label)) := .record rfl
      cases panics with
      | false => exact ⟨s.record (.mark label), b, [], rfl, .inl rfl, hmark, hpanic⟩
      | true =>
          exact ⟨(s.record (.mark label)).trace .actionPanicked, b, [], rfl, .inl rfl,
            hmark.trans (.trace _ _), hpanic⟩
  | reset e =>
      have he : e ≠ b := ne_of_beq_false hj
      exact ⟨s.clearBuffer e, e, [], rfl, .inl rfl, .clearBuffer he s, hpanic⟩
  | parse e =>
      have he : e ≠ b := ne_of_beq_false hj
      exact ⟨(s.parseReceived e).1, e, (s.parseReceived e).2, rfl, .inr he,
        .parseReceived he halone, s.panic_parseReceived e hpanic⟩
  | handle e messages =>
      have he : e ≠ b := ne_of_beq_false hj
      cases messages with
      | nil => exact ⟨s, e, [], rfl, .inl rfl, .refl b r s, hpanic⟩
      | cons m rest =>
          have hspares : Spares b r s (s.handleMessage e m).1 := .handleMessage he halone m
          have hnone := s.panic_handleMessage e m hpanic
          rw [execute]
          split
          · next s₁ heq =>
            rw [heq] at hspares hnone
            exact ⟨s₁, e, rest, rfl, .inr he, hspares, hnone⟩
          · next s₁ heq =>
            rw [heq] at hspares hnone
            exact ⟨s₁, e, [], rfl, .inl rfl, hspares, hnone⟩

end Node

end MessageEngine
