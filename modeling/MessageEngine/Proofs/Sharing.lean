import Mathlib
import MessageEngine.Proofs.Handling
import MessageEngine.Proofs.Hosting

/-!
# Queues that are shared

An endpoint cannot tell whether it shares its queue.  What others do, be it
that their handlers panic or that they are disconnected, is nothing to it, so
the steps that are its own are a run of it alone, on a queue of its own.
-/

namespace MessageEngine

namespace Node

variable {b e : EndpointRef} {r t : QueueRef} {v : View} {s s' : Node}

/-! ## What is done for others -/

theorem endpoint?_sendBytes_of_ne (he : e ≠ b) (s : Node) (data : Bytes) :
    (s.sendBytes e data).1.endpoint? b = s.endpoint? b := by
  rw [sendBytes]
  split
  · rfl
  · split
    · exact s.endpoint?_setEndpoint_of_ne he _
    · rfl

theorem endpoint?_serializeFor_of_ne (he : e ≠ b) (s : Node) (m : Message) :
    (s.serializeFor e m).1.endpoint? b = s.endpoint? b := by
  rw [serializeFor]
  split
  · rfl
  · exact s.endpoint?_setEndpoint_of_ne he _

theorem endpoint?_send_of_ne (he : e ≠ b) (s : Node) (m : Message) :
    (s.send e m).1.endpoint? b = s.endpoint? b := by
  have hframe := endpoint?_serializeFor_of_ne he s m
  rw [send]
  split
  · split
    · next s₁ data heq =>
      rw [heq] at hframe
      exact (endpoint?_sendBytes_of_ne he s₁ data).trans hframe
    · next s₁ cause heq =>
      rw [heq] at hframe
      exact hframe
  · rfl

theorem endpoint?_onDisconnect_of_ne (he : e ≠ b) (s : Node) (hook : Hook) :
    (s.onDisconnect e hook).endpoint? b = s.endpoint? b := by
  rw [onDisconnect_eq]
  split
  · rfl
  · split
    · exact congrArg (·[b]?) (s.endpoints_runHook _ hook)
    · exact s.endpoint?_setEndpoint_of_ne he _

theorem endpoint?_perform_of_ne (he : e ≠ b) {react : Reaction} (hlocal : react.Local)
    (s : Node) : (perform e react s).1.endpoint? b = s.endpoint? b := by
  induction react generalizing s with
  | done outcome => rfl
  | note note next ih => exact ih hlocal _
  | send m next ih => exact (ih _ (hlocal _) _).trans (endpoint?_send_of_ne he s m)
  | disconnect reason next ih =>
      have hend := s.endpoint?_disconnect_of_ne he reason
      rw [perform]
      dsimp only
      split
      · exact hend
      · exact (ih _ (hlocal _) _).trans hend
  | onDisconnect hook next ih =>
      exact (ih hlocal _).trans (endpoint?_onDisconnect_of_ne he s hook)
  | broadcast key m next ih => exact absurd hlocal id

theorem endpoint?_dispatch_of_ne (he : e ≠ b) (hlocal : (s.engine e).registry.Local)
    (type : EndpointType) (m : Message) :
    (s.dispatch e type m).endpoint? b = s.endpoint? b := by
  apply dispatch_keeps (P := (endpoint? · b = s.endpoint? b)) s e type m rfl
  · exact fun handler hselect ↦ endpoint?_perform_of_ne he (hlocal.react hselect) _
  · exact fun _ _ hperform ↦ hperform

theorem endpoint?_contain (s : Node) (b : EndpointRef) :
    s.contain.endpoint? b = s.endpoint? b :=
  congrArg (·[b]?) s.endpoints_contain

theorem endpoint?_parseReceived_of_ne (he : e ≠ b) (s : Node) :
    (s.parseReceived e).1.endpoint? b = s.endpoint? b := by
  apply parseReceived_keeps (P := (endpoint? · b = s.endpoint? b)) s e rfl (fun _ ↦ rfl)
  · intro cause
    rw [endpoint?_contain, endpoint?_disconnect_of_ne _ he]
    rfl
  · exact fun x buffer _ ↦ s.endpoint?_setEndpoint_of_ne he _

theorem endpoint?_handleMessage_of_ne (he : e ≠ b) (hlocal : (s.engine e).registry.Local)
    (m : Message) : (s.handleMessage e m).1.endpoint? b = s.endpoint? b := by
  have hcounted := fun x : Endpoint ↦ fun rate ↦
    s.endpoint?_setEndpoint_of_ne he { x with rate := rate }
  apply handleMessage_keeps (P := (endpoint? · b = s.endpoint? b)) s e m rfl
  · exact fun x rate _ ↦ hcounted x rate
  · intro x rate ceiling _
    rw [endpoint?_contain, endpoint?_disconnect_of_ne _ he]
    exact hcounted x rate
  · exact fun x rate _ ↦
      (endpoint?_dispatch_of_ne he (by exact hlocal) _ m).trans (hcounted x rate)

/-- A step of a job for others is nothing to an endpoint. -/
theorem Overlooks.effect {j : Job} (hj : j.isFor b = false) (hpanic : s.panic = none)
    (halone : ∀ t, s.Alone b t) (hlocal : ∀ e, (s.engine e).registry.Local) :
    Overlooks b s (s.effect j) := by
  cases j with
  | hold clear => exact of_leaves (.refl s) (fun _ ↦ .refl b _ s) rfl
  | mark label panics =>
      have hmark : Overlooks b s (s.record (.mark label)) := record rfl
      cases panics with
      | false => exact hmark
      | true => exact hmark.trans (trace _ _)
  | parse e =>
      have he : e ≠ b := ne_of_beq_false hj
      exact of_passes (.parseReceived hpanic e) (fun t ↦ .parseReceived he (halone t))
        (endpoint?_parseReceived_of_ne he s)
  | reset e =>
      have he : e ≠ b := ne_of_beq_false hj
      exact of_leaves (.modifyEndpoint fun _ ↦ rfl) (fun _ ↦ .clearBuffer he s)
        (s.endpoint?_modifyEndpoint_of_ne he _)
  | handle e messages =>
      have he : e ≠ b := ne_of_beq_false hj
      cases messages with
      | nil => exact of_leaves (.refl s) (fun _ ↦ .refl b _ s) rfl
      | cons m rest =>
          exact of_passes (.handleMessage hpanic e m) (fun t ↦ .handleMessage he (halone t) m)
            (endpoint?_handleMessage_of_ne he (hlocal e) m)

/-- What is left of a job for others takes its place. -/
theorem Hosts.proceed_others {j : Job} {messages : List Message} (h : s.Hosts b r v)
    (hnext : s.next? t = some j) (hj : j.isFor b = false) (hothers : messages = [] ∨ e ≠ b) :
    (s.proceed t e messages).Hosts b r v := by
  have hpending : ∀ i ∈ Job.pending e messages, i.isFor b = false := by
    intro i hi
    rcases hothers with rfl | he
    · cases hi
    · cases messages with
      | nil => cases hi
      | cons m ms =>
          rw [List.mem_singleton.1 hi]
          exact beq_false_of_ne he
  obtain ⟨q, rest, hq, hhead⟩ := next?_eq_some.1 hnext
  obtain ⟨q', hq', hbacklog', hname', hdisposed'⟩ := queue?_proceed hq e messages
  have hjobs : q'.backlog.filter (Job.isFor b) = q.backlog.filter (Job.isFor b) := by
    have hnone : (Job.pending e messages).filter (Job.isFor b) = [] :=
      List.filter_eq_nil_iff.2 fun i hi ↦ by simp [hpending i hi]
    rw [hbacklog', hhead, List.filter_append, hnone, List.nil_append, List.tail_cons,
      List.filter_cons_of_neg (by simp [hj])]
  refine h.of_proceed ?_ fun t' ht' ↦ ?_
  · by_cases ht : t = r
    · subst ht
      obtain ⟨hfilter, hname, hopen⟩ := h.of_queue? hq
      exact ⟨q', hq', hjobs.trans hfilter, hname' ▸ hname, hdisposed' ▸ hopen⟩
    · rw [queue?_proceed_of_ne ht]
      exact h.queue
  · by_cases ht : t = t'
    · subst ht
      intro q₁ hq₁ i hi
      rw [hq', Option.mem_some_iff] at hq₁
      subst hq₁
      rw [hbacklog', List.mem_append] at hi
      rcases hi with hi | hi
      · exact hpending i hi
      · exact h.elsewhere t ht' q hq i (List.mem_of_mem_tail hi)
    · rw [queue?_proceed_of_ne ht]
      exact h.elsewhere t' ht'

end Node

/-! ## Turns -/

namespace Turn

/-- Endpoints that have their queues are used, the workers run, and the application has actions of
its own that may panic. -/
def isUsual : Turn → Bool
  | .act (.attach _ _) => false
  | .act _ | .sendBytes _ _ | .enqueue _ (.mark _ _) => true
  | .enqueue _ _ | .dispose _ | .clear _ => false

/-- The endpoint that is called. -/
def receiver? : Turn → Option EndpointRef
  | .act (.beginConnect e) | .act (.abortConnect e) | .act (.attach e _)
  | .act (.markConnected e) | .act (.send e _) | .act (.receive e _) | .act (.onDisconnect e _)
  | .act (.disconnect e _) | .act (.renew e) | .sendBytes e _ => some e
  | .act (.work _) | .enqueue _ _ | .dispose _ | .clear _ => none

end Turn

/-- What a call answers. -/
inductive Answer
  | begun (result : Except NetworkError Unit)
  | sent (result : Except EngineError Unit)
  | first (answer : Bool)

namespace Node

variable {b e : EndpointRef} {r t : QueueRef} {v : View} {s s' : Node} {turn : Turn}

def answer? (s : Node) : Turn → Option Answer
  | .act (.beginConnect e) => some (.begun (s.beginConnect e).2)
  | .act (.markConnected e) => some (.first (s.markConnected e).2)
  | .act (.send e m) => some (.sent (s.send e m).2)
  | .sendBytes e data => some (.sent (s.sendBytes e data).2)
  | .act (.disconnect e reason) => some (.first (s.disconnect e reason).2)
  | _ => none

/-- What a call comes to and what it answers are the same wherever the endpoint is hosted. -/
def Settled (b : EndpointRef) (v : View) (turn : Turn) : Prop :=
  ∃ v' answer, ∀ r s, Hosts b r v s →
    ∃ s', s.turn? turn = some s' ∧ s'.Hosts b r v' ∧ s.answer? turn = answer

/-- A call is a step with an answer; if it comes to a panic, that ends with it. -/
theorem Determines.settled {α : Type} {step : Node → Node × α} (h : Determines b v step)
    (answer : α → Option Answer) (hanswer : ∀ s, s.answer? turn = answer (step s).2)
    (hturn : ∀ s, s.turn? turn = some (step s).1 ∨
      s.turn? turn = some { (step s).1 with panic := none }) : Settled b v turn := by
  obtain ⟨v', a, hstep⟩ := h
  refine ⟨v', answer a, fun r s hs ↦ ?_⟩
  obtain ⟨hhosts, rfl⟩ := hstep r s hs
  rcases hturn s with hturn | hturn
  · exact ⟨_, hturn, hhosts, hanswer s⟩
  · exact ⟨_, hturn, hhosts.overlooks (.panic _ none) rfl, hanswer s⟩

theorem settled_call (v : View) (husual : turn.isUsual = true) (hb : turn.receiver? = some b) :
    Settled b v turn := by
  have hchange : ∀ {f : Endpoint → Endpoint},
      (∀ x handle, f (x.holding handle) = (f x).holding handle) →
      (∀ x, (f x).type = x.type) → (∀ x, (f x).reason = x.reason) →
      (∀ s : Node, s.answer? turn = none) →
      (∀ s : Node, s.turn? turn = some (s.modifyEndpoint b f)) →
      Settled b v turn := fun hf htype hreason hanswer hturn ↦
    (Determines.modifyEndpoint v hf htype hreason).settled (fun _ ↦ none) hanswer
      fun s ↦ .inl (hturn s)
  cases turn with
  | enqueue t j | dispose t | clear t => cases hb
  | sendBytes e data =>
      cases hb
      exact (Determines.sendBytes v data).settled (some <| .sent ·) (fun _ ↦ rfl) fun _ ↦ .inl rfl
  | act a =>
      cases a with
      | work t => cases hb
      | attach e h => cases husual
      | beginConnect e =>
          cases hb
          exact (Determines.beginConnect v).settled (some <| .begun ·) (fun _ ↦ rfl)
            fun _ ↦ .inl rfl
      | abortConnect e =>
          cases hb
          refine hchange Endpoint.abortConnect_holding (fun x ↦ ?_) (fun x ↦ ?_) (fun _ ↦ rfl)
            fun _ ↦ rfl
          · rw [Endpoint.abortConnect]
            split <;> rfl
          · rw [Endpoint.abortConnect]
            split <;> rfl
      | markConnected e =>
          cases hb
          exact (Determines.markConnected v).settled (some <| .first ·) (fun _ ↦ rfl)
            fun _ ↦ .inl rfl
      | send e m =>
          cases hb
          exact (Determines.send v m).settled (some <| .sent ·) (fun _ ↦ rfl) fun _ ↦ .inl rfl
      | receive e data =>
          cases hb
          exact (Determines.receive v data).settled (fun _ ↦ none) (fun _ ↦ rfl) fun _ ↦ .inr rfl
      | onDisconnect e hook =>
          cases hb
          exact (Determines.onDisconnect v hook).settled (fun _ ↦ none) (fun _ ↦ rfl)
            fun _ ↦ .inl rfl
      | disconnect e reason =>
          cases hb
          exact (Determines.disconnect v reason).settled (some <| .first ·) (fun _ ↦ rfl)
            fun _ ↦ .inr rfl
      | renew e =>
          cases hb
          exact hchange (f := fun x ↦ { x with rate := x.rate.renew }) (fun _ _ ↦ rfl)
            (fun _ ↦ rfl) (fun _ ↦ rfl) (fun _ ↦ rfl) fun _ ↦ rfl

namespace Overlooks

theorem refl (b : EndpointRef) (s : Node) : Overlooks b s s :=
  of_leaves (.refl s) (fun t ↦ .refl b t s) rfl

theorem modifyEndpoint (he : e ≠ b) {f : Endpoint → Endpoint}
    (hf : ∀ x, (f x).handle = x.handle) (s : Node) : Overlooks b s (s.modifyEndpoint e f) where
  spares _ := .modifyEndpoint fun x _ ↦ ⟨.inr (hf x), fun h ↦ absurd h he⟩
  endpoint := s.endpoint?_modifyEndpoint_of_ne he f
  queues t ht := (s.queue?_modifyEndpoint e t f).trans ht

theorem setEndpoint (he : e ≠ b) {x y : Endpoint} (hx : s.endpoint? e = some x)
    (hy : y.handle = x.handle) : Overlooks b s (s.setEndpoint e y) where
  spares _ := .setEndpoint hx (.inr hy) fun h ↦ absurd h he
  endpoint := s.endpoint?_setEndpoint_of_ne he y
  queues t ht := (s.queue?_setEndpoint e t y).trans ht

theorem enqueue {j : Job} (hj : j.Foreign b) (s : Node) (t : QueueRef) :
    Overlooks b s (s.enqueue t j).1 where
  spares _ := .enqueue hj s t
  endpoint := congrArg (·[b]?) (s.endpoints_enqueue t j)
  queues t' ht' := by
    rcases s.enqueue_cases t j with h | ⟨text, h⟩ | ⟨q, -, -, h⟩
    · rw [h, ht']
    · rw [h, (Leaves.panic s (some text)).queues, ht']
    · rw [h, queue?_modifyQueue, ht', Option.map_none, ite_self]

theorem receive (he : e ≠ b) (s : Node) (data : Bytes) : Overlooks b s (s.receive e data) := by
  rw [Node.receive]
  split
  · exact refl b s
  · next x hx =>
    split
    · have hheard : Overlooks b s (s.setEndpoint e { x with buffer := x.buffer ++ data }) :=
        setEndpoint he hx rfl
      dsimp only
      split
      · have hparse : (Job.parse e).Foreign b := ⟨beq_false_of_ne he, Job.noConfusion⟩
        exact hheard.trans (enqueue hparse _ _)
      · exact hheard
    · exact refl b s

/-- A call of another endpoint, or an action of the application. -/
theorem call (husual : turn.isUsual = true) (hb : turn.receiver? ≠ some b)
    (hwork : ∀ t, turn ≠ .act (.work t)) (hpanic : s.panic = none) (halone : ∀ t, s.Alone b t)
    (h : s.turn? turn = some s') : Overlooks b s s' := by
  cases turn with
  | dispose t | clear t => cases husual
  | enqueue t j =>
      cases h
      cases j with
      | parse e | handle e messages | reset e | hold clear => cases husual
      | mark label panics => exact (enqueue ⟨rfl, Job.noConfusion⟩ s t).trans (panic _ none)
  | sendBytes e data =>
      have he : e ≠ b := fun heq ↦ hb (congrArg some heq)
      cases h
      exact of_leaves (.sendBytes s e data) (fun t ↦ .sends (.sendBytes s e data))
        (endpoint?_sendBytes_of_ne he s data)
  | act a =>
      cases a with
      | work t => exact absurd rfl (hwork t)
      | attach e handle => cases husual
      | beginConnect e =>
          have he : e ≠ b := fun heq ↦ hb (congrArg some heq)
          cases h
          rw [Node.beginConnect]
          split
          · exact refl b s
          · next x hx =>
            split
            · next y hy =>
              refine setEndpoint he hx ?_
              rw [Endpoint.beginConnect] at hy
              split at hy <;> cases hy
              rfl
            · exact refl b s
      | abortConnect e =>
          have he : e ≠ b := fun heq ↦ hb (congrArg some heq)
          cases h
          refine modifyEndpoint he (fun x ↦ ?_) s
          rw [Endpoint.abortConnect]
          split <;> rfl
      | markConnected e =>
          have he : e ≠ b := fun heq ↦ hb (congrArg some heq)
          cases h
          rw [Node.markConnected]
          split
          · exact refl b s
          · next x hx =>
            refine setEndpoint he hx ?_
            rw [Endpoint.markConnected]
            split <;> rfl
      | send e m =>
          have he : e ≠ b := fun heq ↦ hb (congrArg some heq)
          cases h
          exact of_leaves (.send s e m) (fun t ↦ .sends (.send s e m))
            (endpoint?_send_of_ne he s m)
      | receive e data =>
          have he : e ≠ b := fun heq ↦ hb (congrArg some heq)
          cases h
          exact (receive he s data).trans (panic _ none)
      | onDisconnect e hook =>
          have he : e ≠ b := fun heq ↦ hb (congrArg some heq)
          cases h
          exact of_leaves (.onDisconnect s e hook) (fun t ↦ .onDisconnect s e hook)
            (endpoint?_onDisconnect_of_ne he s hook)
      | disconnect e reason =>
          have he : e ≠ b := fun heq ↦ hb (congrArg some heq)
          cases h
          have hend : Overlooks b s (s.disconnect e reason).1 :=
            of_passes (.disconnect hpanic e reason)
              (fun t ↦ .disconnect (halone t) (fun heq ↦ absurd heq he) reason)
              (s.endpoint?_disconnect_of_ne he reason)
          exact hend.trans (panic _ none)
      | renew e =>
          have he : e ≠ b := fun heq ↦ hb (congrArg some heq)
          cases h
          exact modifyEndpoint he (f := fun x ↦ { x with rate := x.rate.renew }) (fun _ ↦ rfl) s

end Overlooks

/-! ## One endpoint among others -/

/-- The worker of the queue is at a job for the endpoint. -/
def worksFor (b : EndpointRef) (r : QueueRef) (s : Node) : Bool := (s.next? r).any (Job.isFor b)

/-- What a turn is to an endpoint that has a queue of its own: its calls and the steps of its jobs
are left. -/
def ownPart (b : EndpointRef) (s : Node) : Turn → List Turn
  | .act (.work r) => if s.worksFor b r then [.act (.work (.dedicated 0))] else []
  | turn => if turn.receiver? = some b then [turn] else []

/-- What some turns are to an endpoint. -/
def projection (b : EndpointRef) : Node → List Turn → List Turn
  | _, [] => []
  | s, turn :: turns =>
    match s.turn? turn with
    | none => []
    | some s' => s.ownPart b turn ++ projection b s' turns

/-- What some turns lead to, one after the other. -/
def turns? (s : Node) (turns : List Turn) : Option Node := turns.foldlM turn? s

/-- What the calls of an endpoint are answered on the way. -/
def answers (b : EndpointRef) : Node → List Turn → List Answer
  | _, [] => []
  | s, turn :: turns =>
    match s.turn? turn with
    | none => []
    | some s' =>
      (if turn.receiver? = some b then (s.answer? turn).toList else []) ++ answers b s' turns

theorem ownPart_cases (b : EndpointRef) (s : Node) (turn : Turn) :
    (∃ t j, turn = .act (.work t) ∧ s.next? t = some j ∧ j.isFor b = true ∧
      s.ownPart b turn = [.act (.work (.dedicated 0))]) ∨
    (turn.receiver? = some b ∧ s.ownPart b turn = [turn]) ∨
    (turn.receiver? ≠ some b ∧ s.ownPart b turn = [] ∧
      ∀ t j, turn = .act (.work t) → s.next? t = some j → j.isFor b = false) := by
  by_cases hwork : ∃ t, turn = .act (.work t)
  · obtain ⟨t, rfl⟩ := hwork
    have hreceiver : (Turn.act (.work t)).receiver? ≠ some b := fun h ↦ by cases h
    have hpart : s.ownPart b (.act (.work t)) =
        if s.worksFor b t then [.act (.work (.dedicated 0))] else [] := rfl
    cases hnext : s.next? t with
    | none =>
        refine .inr (.inr ⟨hreceiver, by rw [hpart, worksFor, hnext]; rfl, ?_⟩)
        intro t' j heq hnext'
        cases heq
        cases hnext.symm.trans hnext'
    | some j =>
        rw [worksFor, hnext, Option.any_some] at hpart
        cases hj : j.isFor b with
        | true => exact .inl ⟨t, j, rfl, hnext, hj, by rw [hpart, hj, if_pos rfl]⟩
        | false =>
            refine .inr (.inr ⟨hreceiver, by rw [hpart, hj, if_neg Bool.false_ne_true], ?_⟩)
            intro t' i heq hnext'
            cases heq
            cases hnext.symm.trans hnext'
            exact hj
  · have hpart : s.ownPart b turn = if turn.receiver? = some b then [turn] else [] := by
      rw [ownPart]
      exact fun t ht ↦ hwork ⟨t, ht⟩
    by_cases hb : turn.receiver? = some b
    · exact .inr (.inl ⟨hb, by rw [hpart, if_pos hb]⟩)
    · exact .inr (.inr ⟨hb, by rw [hpart, if_neg hb], fun t j heq ↦ absurd ⟨t, heq⟩ hwork⟩)

/-- A turn of others leaves what an endpoint has to do with. -/
theorem Hosts.turn_others (h : s.Hosts b r v) (husual : turn.isUsual = true)
    (hb : turn.receiver? ≠ some b)
    (hjobs : ∀ t j, turn = .act (.work t) → s.next? t = some j → j.isFor b = false)
    (hturn : s.turn? turn = some s') : s'.Hosts b r v := by
  by_cases hwork : ∃ t, turn = .act (.work t)
  · obtain ⟨t, rfl⟩ := hwork
    obtain ⟨q, j, rest, hq, hhead, rfl⟩ := work?_eq_some hturn
    have hnext := next?_of_queue? hq hhead
    have hj := hjobs t j rfl hnext
    have heffect := Overlooks.effect hj h.panic h.alone h.handlers
    rw [execute_eq]
    refine (h.overlooks heffect (panic_effect h.panic j)).proceed_others
      (next?_effect h.panic hnext j) hj ?_
    cases j with
    | hold clear | mark label panics | reset e => exact .inl rfl
    | parse e | handle e messages => exact .inr (ne_of_beq_false hj)
  · have hcall := Overlooks.call husual hb (fun t ht ↦ hwork ⟨t, ht⟩) h.panic h.alone hturn
    exact h.overlooks hcall (panic_turn? h.panic hturn)

/-! ## One endpoint alone -/

/-- The queue has jobs for the endpoint alone. -/
def Lone (b : EndpointRef) (r : QueueRef) (s : Node) : Prop :=
  ∃ q, s.queue? r = some q ∧ q.Sound ∧ ∀ j ∈ q.backlog, j.isFor b = true

theorem isFor_of_mem_resets {j : Job} (hj : j ∈ resets r s s' b) : j.isFor b = true := by
  rw [resets] at hj
  split at hj
  · rw [List.mem_singleton.1 hj]
    exact Job.isFor_reset b
  · cases hj

theorem isFor_of_mem_accepts {j : Job} (hb : turn.receiver? = some b)
    (hj : j ∈ accepts r s s' turn) : j.isFor b = true := by
  rw [accepts] at hj
  split at hj
  · split at hj
    · cases hj
    · cases turn with
      | enqueue t j | dispose t | clear t => cases hb
      | sendBytes e data => cases hj
      | act a =>
          cases a with
          | work t => cases hb
          | receive e data =>
              cases hb
              rw [handedIn] at hj
              split at hj
              · rw [List.mem_singleton.1 hj]
                exact Job.isFor_parse _
              · cases hj
          | disconnect e reason =>
              cases hb
              exact isFor_of_mem_resets hj
          | _ => cases hj
  · cases hj

theorem Lone.call (h : s.Lone b r) (hs : s.Hosts b r v) (hb : turn.receiver? = some b)
    (hturn : s.turn? turn = some s') : s'.Lone b r := by
  obtain ⟨q, hq, hsound, hown⟩ := h
  obtain ⟨-, hname, -⟩ := hs.of_queue? hq
  have hother : ¬ Turn.Within r turn := by
    rintro (rfl | rfl | rfl) <;> cases hb
  obtain ⟨-, q', hq', hgrows⟩ := grows_of_turn? hs.panic hturn hother hq hsound hname
  refine ⟨q', hq', hgrows.sound, fun j hj ↦ ?_⟩
  rw [hgrows.backlog, List.mem_append] at hj
  rcases hj with hj | hj
  · exact hown j hj
  · exact isFor_of_mem_accepts hb hj

theorem Lone.work (h : s.Lone b r) (hs : s.Hosts b r v) {j : Job} (hnext : s.next? r = some j)
    (hwork : s.work? r = some s') : s'.Lone b r := by
  obtain ⟨q, rest, hq, hhead⟩ := next?_eq_some.1 hnext
  obtain ⟨-, hname, -⟩ := hs.of_queue? hq
  obtain ⟨q₀, hq₀, hsound, hown⟩ := h
  cases hq.symm.trans hq₀
  have hj : j.isFor b = true := hown j (hhead ▸ List.mem_cons_self)
  have hfree : j ≠ .hold false := by
    rintro rfl
    cases hj
  obtain ⟨s₁, q₁, hs₁, hgrows, hq'⟩ := work?_eq hs.panic hq hsound hname hhead hfree
  rw [hwork, Option.some.injEq] at hs₁
  subst hs₁
  have hq₁ : ∀ i ∈ q₁.backlog, i.isFor b = true := by
    intro i hi
    rw [hgrows.backlog, List.mem_append] at hi
    rcases hi with hi | hi
    · exact hown i hi
    · rw [accepts, hq, handedIn, hnext] at hi
      dsimp only at hi
      rw [subject_of_isFor hj] at hi
      split at hi
      · cases hi
      · exact isFor_of_mem_resets hi
  refine ⟨_, hq', ?_, fun i hi ↦ ?_⟩
  · split <;> exact hgrows.sound
  · split at hi
    · exact hq₁ i (List.mem_of_mem_tail hi)
    · rcases List.mem_cons.1 hi with rfl | hi
      · rw [subject_of_isFor hj]
        exact beq_self_eq_true b
      · exact hq₁ i (List.mem_of_mem_tail hi)

theorem Hosts.head_jobs (h : s.Hosts b r v) {j : Job} (hnext : s.next? r = some j)
    (hj : j.isFor b = true) : v.jobs.head? = some j := by
  obtain ⟨q, rest, hq, hhead⟩ := next?_eq_some.1 hnext
  obtain ⟨hjobs, -⟩ := h.of_queue? hq
  rw [← hjobs, hhead, List.filter_cons_of_pos hj, List.head?_cons]

/-- All that its queue has to do is for the endpoint, so its next job is the next one. -/
theorem Lone.next? (h : s.Lone b r) (hs : s.Hosts b r v) : s.next? r = v.jobs.head? := by
  obtain ⟨q, hq, -, hown⟩ := h
  obtain ⟨hjobs, -⟩ := hs.of_queue? hq
  rw [Node.next?, hq, Option.bind_some, ← hjobs, List.filter_eq_self.2 hown]

theorem Hosts.queue_eq (h : s.Hosts b r v) {j : Job} (hnext : s.next? t = some j)
    (hj : j.isFor b = true) : t = r := by
  by_contra ht
  obtain ⟨q, rest, hq, hhead⟩ := next?_eq_some.1 hnext
  have hforeign := h.elsewhere t ht q hq j (hhead ▸ List.mem_cons_self)
  rw [hj] at hforeign
  cases hforeign

theorem turns?_cons {turns : List Turn} :
    s.turns? (turn :: turns) = (s.turn? turn).bind (·.turns? turns) := rfl

theorem turns?_append {turns others : List Turn} :
    s.turns? (turns ++ others) = (s.turns? turns).bind (·.turns? others) := by
  rw [turns?, List.foldlM_append]
  rfl

/-- Whatever happens where the queue is shared, its own part happens where it is not, and comes to
the same. -/
theorem Hosts.simulated (h : s.Hosts b r v) {u : Node} (hu : u.Hosts b (.dedicated 0) v)
    (hlone : u.Lone b (.dedicated 0)) (husual : turn.isUsual = true)
    (hturn : s.turn? turn = some s') :
    ∃ v' u', s'.Hosts b r v' ∧ u'.Hosts b (.dedicated 0) v' ∧ u'.Lone b (.dedicated 0) ∧
      u.turns? (s.ownPart b turn) = some u' ∧
      ∀ rest, u.answers b (s.ownPart b turn ++ rest) =
        (if turn.receiver? = some b then (s.answer? turn).toList else []) ++ u'.answers b rest := by
  rcases s.ownPart_cases b turn with ⟨t, j, rfl, hnext, hj, hpart⟩ | ⟨hb, hpart⟩ |
    ⟨hb, hpart, hjobs⟩
  · -- A job for the endpoint is the next one for it at either queue.
    obtain rfl := h.queue_eq hnext hj
    obtain ⟨v', hwork⟩ := Hosts.work v hj
    have hnext' : u.next? (.dedicated 0) = some j :=
      (hlone.next? hu).trans (h.head_jobs hnext hj)
    obtain ⟨s₁, hs₁, hhosts⟩ := hwork t s h hnext
    obtain ⟨u', hu', hhosts'⟩ := hwork _ u hu hnext'
    cases hturn.symm.trans hs₁
    have hturn' : u.turn? (.act (.work (.dedicated 0))) = some u' := hu'
    refine ⟨v', u', hhosts, hhosts', hlone.work hu hnext' hu', ?_, fun rest ↦ ?_⟩
    · rw [hpart, turns?_cons, hturn']
      rfl
    · rw [hpart, List.singleton_append, answers, hturn']
      rfl
  · -- Its own calls are made at both.
    obtain ⟨v', answer, hcall⟩ := settled_call v husual hb
    obtain ⟨s₁, hs₁, hhosts, hanswer⟩ := hcall r s h
    obtain ⟨u', hu', hhosts', hanswer'⟩ := hcall _ u hu
    cases hturn.symm.trans hs₁
    refine ⟨v', u', hhosts, hhosts', hlone.call hu hb hu', ?_, fun rest ↦ ?_⟩
    · rw [hpart, turns?_cons, hu']
      rfl
    · rw [hpart, List.singleton_append, answers, hu', hanswer, hanswer', if_pos hb]
  · -- All else happens at the shared queue alone.
    refine ⟨v, u, h.turn_others husual hb hjobs hturn, hu, hlone, ?_, fun rest ↦ ?_⟩
    · rw [hpart]
      rfl
    · rw [hpart, if_neg hb]
      rfl

theorem Hosts.simulated_run {turns : List Turn} (h : s.Hosts b r v) {u : Node}
    (hu : u.Hosts b (.dedicated 0) v) (hlone : u.Lone b (.dedicated 0))
    (husual : ∀ turn ∈ turns, turn.isUsual = true) (hrun : s.turns? turns = some s') :
    ∃ v' u', s'.Hosts b r v' ∧ u'.Hosts b (.dedicated 0) v' ∧
      u.turns? (projection b s turns) = some u' ∧
      answers b u (projection b s turns) = answers b s turns := by
  induction turns generalizing s u v with
  | nil =>
      cases hrun
      exact ⟨v, u, h, hu, rfl, rfl⟩
  | cons turn turns ih =>
      rw [turns?_cons, Option.bind_eq_some_iff] at hrun
      obtain ⟨s₁, hturn, hrest⟩ := hrun
      obtain ⟨v₁, u₁, h₁, hu₁, hlone₁, hpart, hanswers⟩ :=
        h.simulated hu hlone (husual turn List.mem_cons_self) hturn
      obtain ⟨v', u', hhosts, hhosts', hrun', hanswers'⟩ := ih h₁ hu₁ hlone₁
        (fun other hother ↦ husual other (List.mem_cons_of_mem turn hother)) hrest
      have hprojection :
          projection b s (turn :: turns) = s.ownPart b turn ++ projection b s₁ turns := by
        rw [projection, hturn]
      refine ⟨v', u', hhosts, hhosts', ?_, ?_⟩
      · rw [hprojection, turns?_append, hpart]
        exact hrun'
      · rw [hprojection, hanswers, hanswers', answers, hturn]

/-! ## What can be told of the others -/

end Node

/-- What can be seen of an endpoint: itself but for its handle, the jobs that wait for it in a queue
and the messages that were dispatched to it. -/
structure Face where
  endpoint : Option Endpoint
  waiting : List Job
  dispatched : List (Message × Bool)
  deriving DecidableEq

namespace Node

variable {b : EndpointRef} {r : QueueRef} {v : View} {s s' : Node}

def waiting (b : EndpointRef) (r : QueueRef) (s : Node) : List Job :=
  match s.queue? r with
  | some q => q.backlog.filter (Job.isFor b)
  | none => []

def face (b : EndpointRef) (r : QueueRef) (s : Node) : Face where
  endpoint := (s.endpoint? b).map (·.holding none)
  waiting := s.waiting b r
  dispatched := s.dispatched b

/-- A node for one endpoint alone, on a queue of its own.  It has its place, which goes into its
frames, behind endpoints that are not used. -/
def solitary (b : EndpointRef) (g : Engine) (x : Endpoint) (jobs : List Job)
    (log : List Record) : Node where
  engine _ := g
  endpoints := List.replicate b { type := x.type } ++ [x.holding (some (.dedicated 0))]
  queues := [{ name := "own", backlog := jobs, started := !jobs.isEmpty }]
  log := log

/-- What is left if there is nothing but an endpoint and the handlers for its kind. -/
def solo (b : EndpointRef) (r : QueueRef) (s : Node) : Node :=
  match s.endpoint? b with
  | none => {}
  | some x => solitary b ((s.engine b).only x.type.kind) x (s.waiting b r)
      (s.log.filter fun record ↦ (record.dispatch? b).isSome)

/-- An endpoint has a slot of a pool, and the others have slots as well, of this pool or another. -/
structure Shares (b : EndpointRef) (p : Nat) (slot : Slot) (s : Node) : Prop where
  panic : s.panic = none
  handlers : ∀ e, (s.engine e).registry.Local
  endpoint : ∃ x, s.endpoint? b = some x ∧ x.reason = none ∧ x.handle = some (.pooled p slot)
  others : ∀ e x i, s.endpoint? e = some x → x.handle ≠ some (.dedicated i)
  queue : ∃ q, s.queue? (.pooled p slot.queue) = some q ∧ q.disposed = false ∧
    Queue.nameRefusal? q.name = none
  elsewhere : ∀ t, t ≠ .pooled p slot.queue →
    ∀ q ∈ s.queue? t, ∀ j ∈ q.backlog, j.isFor b = false

theorem Hosts.face_eq (h : s.Hosts b r v) :
    s.face b r = ⟨some (v.endpoint.holding none), v.jobs, v.dispatched⟩ := by
  obtain ⟨handle, hx⟩ := h.holding
  obtain ⟨q, hq, hjobs, -⟩ := h.queue
  rw [face, hx, waiting, hq, h.dispatched, ← hjobs]
  rfl

theorem dispatched_filter (s : Node) (b : EndpointRef) :
    (s.log.filter fun record ↦ (record.dispatch? b).isSome).filterMap (Record.dispatch? b) =
      s.dispatched b := by
  rw [dispatched, List.filterMap_filter]
  congr 1
  funext record
  cases record.dispatch? b <;> rfl

theorem hosts_solitary (hreason : v.endpoint.reason = none) (hjobs : ∀ j ∈ v.jobs, j.isFor b = true)
    {log : List Record} (hlog : log.filterMap (Record.dispatch? b) = v.dispatched) :
    (solitary b v.engine v.endpoint v.jobs log).Hosts b (.dedicated 0) v where
  panic := rfl
  engine := ⟨rfl, rfl, fun _ ↦ rfl⟩
  handlers _ := v.handlers
  alone t e y i he hy hown := by
    rw [endpoint?, solitary, List.getElem?_append] at hy
    split at hy
    · rw [List.getElem?_replicate] at hy
      split at hy
      · cases hy
        cases hown
      · cases hy
    · next hlong =>
      rw [List.length_replicate] at hlong hy
      have hlater : b < e := lt_of_le_of_ne (Nat.le_of_not_lt hlong) he.symm
      obtain ⟨k, hk⟩ := Nat.exists_eq_succ_of_ne_zero (Nat.sub_ne_zero_of_lt hlater)
      rw [hk, List.getElem?_cons_succ, List.getElem?_nil] at hy
      cases hy
  endpoint := by
    refine ⟨some (.dedicated 0), ?_, fun _ ↦ ⟨_, rfl, rfl⟩, fun hne ↦ absurd hreason hne⟩
    rw [endpoint?, solitary, List.getElem?_append_right (List.length_replicate.le),
      List.length_replicate, Nat.sub_self, List.getElem?_cons_zero]
  queue := by
    have hname : Queue.nameRefusal? "own" = none := by decide +kernel
    exact ⟨_, rfl, List.filter_eq_self.2 hjobs, hname, fun _ ↦ rfl⟩
  elsewhere t ht q hq := by
    cases t with
    | pooled p i => cases hq
    | dedicated i =>
        cases i with
        | zero => exact absurd rfl ht
        | succ i => cases hq
  dispatched := hlog

/-- What the endpoint has to do with is the same where it is alone. -/
theorem Shares.hosts {p : Nat} {slot : Slot} (h : s.Shares b p slot) :
    ∃ v, s.Hosts b (.pooled p slot.queue) v ∧
      (s.solo b (.pooled p slot.queue)).Hosts b (.dedicated 0) v ∧
      (s.solo b (.pooled p slot.queue)).Lone b (.dedicated 0) := by
  obtain ⟨x, hx, hreason, hhandle⟩ := h.endpoint
  obtain ⟨q, hq, hopen, hname⟩ := h.queue
  have hwaiting : s.waiting b (.pooled p slot.queue) = q.backlog.filter (Job.isFor b) := by
    rw [waiting, hq]
  have hjobs : ∀ j ∈ s.waiting b (.pooled p slot.queue), j.isFor b = true := by
    intro j hj
    rw [hwaiting] at hj
    exact (List.mem_filter.1 hj).2
  rw [solo, hx]
  let v : View := ⟨(s.engine b).only x.type.kind, x, s.waiting b (.pooled p slot.queue),
    s.dispatched b, Engine.local_only (h.handlers b) x.type.kind⟩
  refine ⟨v, ?_, hosts_solitary (v := v) hreason hjobs (dispatched_filter s b), _, rfl, ?_, hjobs⟩
  · exact {
      panic := h.panic
      engine := (s.engine b).alike_only x.type
      handlers := h.handlers
      alone := fun t e y i _ hy hown ↦ absurd hown (h.others e y i hy)
      endpoint := ⟨x.handle, hx, fun _ ↦ ⟨_, hhandle, rfl⟩, fun hne ↦ absurd hreason hne⟩
      queue := ⟨q, hq, hwaiting.symm, hname, fun _ ↦ hopen⟩
      elsewhere := h.elsewhere
      dispatched := rfl }
  · intro hdisposed
    cases hdisposed

/-- An endpoint cannot tell that it shares its queue.  Of what happens to endpoints that share
queues, in whatever order and whatever becomes of the others, what is its own is a run of it alone
that brings it to the same.  So what it comes to is the same in all company. -/
theorem shared_as_alone {p : Nat} {slot : Slot} {turns : List Turn} (h : s.Shares b p slot)
    (husual : ∀ turn ∈ turns, turn.isUsual = true) (hrun : s.turns? turns = some s') :
    (∃ u, (s.solo b (.pooled p slot.queue)).turns? (projection b s turns) = some u ∧
        s'.face b (.pooled p slot.queue) = u.face b (.dedicated 0) ∧
        answers b s turns =
          answers b (s.solo b (.pooled p slot.queue)) (projection b s turns)) ∧
      ∀ (t t' : Node) (p' : Nat) (slot' : Slot) (others : List Turn), t.Shares b p' slot' →
        (∀ turn ∈ others, turn.isUsual = true) → t.turns? others = some t' →
        t.solo b (.pooled p' slot'.queue) = s.solo b (.pooled p slot.queue) →
        projection b t others = projection b s turns →
        t'.face b (.pooled p' slot'.queue) = s'.face b (.pooled p slot.queue) ∧
          answers b t others = answers b s turns := by
  have halone : ∀ {p slot} {s s' : Node} {turns}, s.Shares b p slot →
      (∀ turn ∈ turns, turn.isUsual = true) → s.turns? turns = some s' →
      ∃ u, (s.solo b (.pooled p slot.queue)).turns? (projection b s turns) = some u ∧
        s'.face b (.pooled p slot.queue) = u.face b (.dedicated 0) ∧
        answers b s turns =
          answers b (s.solo b (.pooled p slot.queue)) (projection b s turns) := by
    intro p slot s s' turns h husual hrun
    obtain ⟨v, hhosts, hsolo, hlone⟩ := h.hosts
    obtain ⟨v', u, hhosts', hu, hrun', hanswers⟩ :=
      hhosts.simulated_run hsolo hlone husual hrun
    exact ⟨u, hrun', hhosts'.face_eq.trans hu.face_eq.symm, hanswers.symm⟩
  obtain ⟨u, hu, hface, hanswers⟩ := halone h husual hrun
  refine ⟨⟨u, hu, hface, hanswers⟩, ?_⟩
  intro t t' p' slot' others ht hothers hrun' hsolo hprojection
  obtain ⟨u', hu', hface', hanswers'⟩ := halone ht hothers hrun'
  rw [hsolo, hprojection] at hu' hanswers'
  cases hu.symm.trans hu'
  exact ⟨hface'.trans hface.symm, hanswers'.trans hanswers.symm⟩

end Node

namespace Specimen

/-- A handler that sends the message back. -/
def echoing : Handler := ⟨"echoing", ⟨.tcpConnection, ""⟩, fun m ↦ .send m fun _ ↦ .done .ok⟩

def panicking : Handler :=
  ⟨"panicking", ⟨.udpConnection, ""⟩, fun _ ↦ .done (.panicked (some "full"))⟩

/-- Two connections of different kinds that share a queue. -/
def company : Node where
  engine _ := {
    registry := {
      types := [reading]
      handlers := [((reading, .tcpConnection), echoing), ((reading, .udpConnection), panicking)] }
    protocol := masked }
  endpoints := [{ sharing 0 with outbox := .fresh },
    { sharing 1 with type := ⟨.udpConnection, ""⟩ }]
  pools := [{ name := "shared", ceiling := 2, queues := [{ name := "shared-0", load := 2 }] }]

def firstFrame : Bytes :=
  [7, 0, 17, 0, 0, 0, 3, 1, 0, 192, 127, 2, 0, 0, 0, 1, 1, 0, 0, 0, 97, 0, 95]

def step : Turn := .act (.work (.pooled 0 0))

/-- The handler for the other connection panics, and then it is disconnected for what it sends. -/
def noisy : List Turn :=
  [.act (.receive 1 firstFrame), .act (.receive 0 (firstFrame.take 10)), step, step,
    .act (.receive 0 (firstFrame.drop 10)), .act (.receive 1 [9, 0, 0, 0, 0, 0]), step, step, step,
    step, step, .act (.disconnect 0 .requested), .sendBytes 0 [1], step]

/-- Nothing comes from the other connection. -/
def quiet : List Turn :=
  [.act (.receive 0 (firstFrame.take 10)), .act (.receive 0 (firstFrame.drop 10)), step, step, step,
    .act (.disconnect 0 .requested), .sendBytes 0 [1], step]

theorem company_shares : company.Shares 0 0 ⟨0, false⟩ where
  panic := rfl
  handlers := by
    intro e entry hentry m
    rcases List.mem_cons.1 hentry with rfl | hentry
    · exact fun _ ↦ trivial
    · rw [List.mem_singleton.1 hentry]
      trivial
  endpoint := ⟨_, rfl, rfl, rfl⟩
  others e x i hx := by
    match e, hx with
    | 0, hx | 1, hx =>
      cases hx
      exact fun h ↦ by cases h
  queue := ⟨_, rfl, rfl, by decide +kernel⟩
  elsewhere t ht q hq := by
    match t, hq with
    | .pooled 0 0, _ => exact absurd rfl ht

end Specimen

/-- The first message is dispatched as if nobody else were there. -/
theorem Node.shared_as_alone_company :
    Specimen.company.Shares 0 0 ⟨0, false⟩ ∧
      ∃ s t u, Specimen.company.turns? Specimen.noisy = some s ∧
        Specimen.company.turns? Specimen.quiet = some t ∧
        (Specimen.company.solo 0 (.pooled 0 0)).turns?
          (projection 0 Specimen.company Specimen.noisy) = some u ∧
        s.face 0 (.pooled 0 0) = u.face 0 (.dedicated 0) ∧
        t.face 0 (.pooled 0 0) = s.face 0 (.pooled 0 0) ∧
        s.dispatched 0 = [(Specimen.first, true)] ∧ s.dispatched 1 = [(Specimen.first, true)] ∧
        s.reason? 1 = some .invalidDataReceived ∧ t.reason? 1 = none := by
  have hnoisy : (Specimen.company.turns? Specimen.noisy).isSome = true := by decide +kernel
  have hquiet : (Specimen.company.turns? Specimen.quiet).isSome = true := by decide +kernel
  obtain ⟨s, hs⟩ := Option.isSome_iff_exists.1 hnoisy
  obtain ⟨t, ht⟩ := Option.isSome_iff_exists.1 hquiet
  have hlast : ∀ s ∈ Specimen.company.turns? Specimen.noisy,
      s.dispatched 0 = [(Specimen.first, true)] ∧ s.dispatched 1 = [(Specimen.first, true)] ∧
        s.reason? 1 = some .invalidDataReceived := by
    decide +kernel
  have hsilent : ∀ t ∈ Specimen.company.turns? Specimen.quiet, t.reason? 1 = none := by
    decide +kernel
  have hshares := Specimen.company_shares
  obtain ⟨⟨u, hu, hface, -⟩, hothers⟩ :=
    shared_as_alone hshares (by decide) hs
  have hsame := hothers _ t 0 ⟨0, false⟩ Specimen.quiet hshares (by decide) ht rfl
    (by decide +kernel)
  obtain ⟨hfirst, hsecond, hreason⟩ := hlast s hs
  exact ⟨hshares, s, t, u, hs, ht, hu, hface, hsame.1, hfirst, hsecond, hreason, hsilent t ht⟩

end MessageEngine
