import MessageEngine.Proofs.Runs

/-!
# After a disconnect

An endpoint is open until the first disconnect and ended from then on,
whether the disconnect comes from outside, from a handler, from a parse or
from the count of its messages.  Once it has ended it takes no octets, and
its buffer is empty as soon as the reset that the disconnect handed in has
been done.
-/

namespace MessageEngine.Node

/-- The endpoint has not been disconnected, and the next disconnect can hand in its reset. -/
structure Open (b : EndpointRef) (r : QueueRef) (s : Node) : Prop extends Attached b r s where
  panic : s.panic = none
  alone : s.Alone b r

/-- The endpoint was disconnected for the given reason, and its buffer is empty or will be reset by
the queue, whose first jobs do not count. -/
structure Ended (b : EndpointRef) (r : QueueRef) (reason : DisconnectReason) (first : Nat)
    (s : Node) : Prop where
  panic : s.panic = none
  alone : s.Alone b r
  endpoint : ∃ x q, s.endpoint? b = some x ∧ s.queue? r = some q ∧ x.reason = some reason ∧
    x.state = .disconnected ∧ (x.buffer = [] ∨ .reset b ∈ q.backlog.drop first)

variable {b : EndpointRef} {r : QueueRef} {reason : DisconnectReason} {n : Nat} {s s' : Node}

theorem Listens.open (h : s.Listens b r) : s.Open b r := by
  obtain ⟨x, hx, hreason, -, hhandle⟩ := h.endpoint
  obtain ⟨q, hq, hopen, hname, -⟩ := h.queue
  exact ⟨⟨⟨x, hx, hreason, hhandle⟩, q, hq, hopen, hname⟩, h.panic, h.alone⟩

theorem Open.reason? (h : s.Open b r) : s.reason? b = none := by
  obtain ⟨x, hx, hreason, -⟩ := h.endpoint
  rw [Node.reason?, hx]
  exact hreason

theorem Ended.reason? (h : s.Ended b r reason n) : s.reason? b = some reason := by
  obtain ⟨x, -, hx, -, hreason, -⟩ := h.endpoint
  rw [Node.reason?, hx]
  exact hreason

theorem Ended.isConnected (h : s.Ended b r reason n) : s.isConnected b = false := by
  obtain ⟨x, -, hx, -, -, hstate, -⟩ := h.endpoint
  have hsame : s.isConnected b = x.state.isConnected := by
    rw [Node.isConnected, hx]
  rw [hsame, hstate]
  rfl

/-- Octets that come now change nothing. -/
theorem Ended.receive (h : s.Ended b r reason n) (data : Bytes) : s.receive b data = s :=
  receive_of_not_isConnected h.isConnected data

/-! ## What others do -/

theorem Open.spares (h : s.Open b r) (hs : Spares b r s s') (hpanic : s'.panic = none) :
    s'.Open b r := by
  obtain ⟨x, hx, hreason, handle, hhandle, hr⟩ := h.endpoint
  obtain ⟨q, hq, hopen, hname⟩ := h.queue
  obtain ⟨x', hx', hcore⟩ := hs.endpoint hx
  obtain ⟨q', hq', hgains⟩ := hs.queue q hq
  have hendpoint : x'.reason = none ∧ ∃ h, x'.handle = some h ∧ h.queue = r :=
    ⟨(congrArg Endpoint.reason hcore :).trans hreason, handle,
      (congrArg Endpoint.handle hcore :).trans hhandle, hr⟩
  exact ⟨⟨⟨x', hx', hendpoint⟩, q', hq', hgains.disposed.trans hopen, hgains.name ▸ hname⟩, hpanic,
    hs.alone h.alone⟩

theorem Ended.spares (h : s.Ended b r reason n) (hs : Spares b r s s') (hpanic : s'.panic = none) :
    s'.Ended b r reason n := by
  obtain ⟨x, q, hx, hq, hreason, hstate, hbuffer⟩ := h.endpoint
  obtain ⟨x', hx', hcore⟩ := hs.endpoint hx
  obtain ⟨q', hq', hgains⟩ := hs.queue q hq
  obtain ⟨others, hbacklog, -⟩ := hgains.backlog
  refine ⟨hpanic, hs.alone h.alone, x', q', hx', hq',
    (congrArg Endpoint.reason hcore :).trans hreason,
    (congrArg Endpoint.state hcore :).trans hstate,
    hbuffer.imp (congrArg Endpoint.buffer hcore :).trans fun hreset ↦ ?_⟩
  rw [hbacklog, List.drop_append]
  exact List.mem_append_left _ hreset

/-! ## The disconnect -/

/-- A disconnect of an open endpoint ends it, with the reset behind all jobs that there are. -/
theorem Open.disconnect (h : s.Open b r) (reason : DisconnectReason)
    (hn : ∀ q ∈ s.queue? r, n ≤ q.backlog.length) :
    (s.disconnect b reason).1.Ended b r reason n := by
  obtain ⟨x, hx, -⟩ := h.endpoint
  obtain ⟨q, hq, -⟩ := h.queue
  obtain ⟨-, hends⟩ := h.toAttached.disconnect h.panic reason
  obtain ⟨q', hq', hbacklog, -⟩ := hends.queue q hq
  refine ⟨hends.panic, h.alone.of_endpoint? hends.others, x.terminated reason, q', ?_, hq', rfl,
    rfl, .inr ?_⟩
  · rw [hends.endpoint, hx]
    rfl
  · rw [hbacklog, List.drop_append_of_le_length (hn q hq)]
    exact List.mem_append_right _ (List.mem_singleton_self _)

/-- Once the endpoint has its reason, nobody ends it any more. -/
theorem SparesOrEnds.spares (h : SparesOrEnds b r s s') (hended : s.reason? b = some reason) :
    Spares b r s s' := by
  rcases h with h | ⟨s₁, other, hfirst, -, hrest⟩
  · exact h
  · have hsame : s₁.reason? b = some reason := hfirst.reason?.trans hended
    rw [Node.reason?, Option.bind_eq_some_iff] at hsame
    obtain ⟨x, hx, hreason⟩ := hsame
    rw [s₁.disconnect_of_reason b hx (congrArg Option.isSome hreason)] at hrest
    exact hfirst.trans hrest

theorem Open.sparesOrEnds (h : s.Open b r) (hs : SparesOrEnds b r s s') (hpanic : s'.panic = none)
    (hn : ∀ q ∈ s.queue? r, n ≤ q.backlog.length) :
    s'.Open b r ∨ ∃ reason, s'.Ended b r reason n := by
  rcases hs with hs | ⟨s₁, reason, hfirst, hsame, hrest⟩
  · exact .inl (h.spares hs hpanic)
  · have hopen := h.spares hfirst (hsame.trans h.panic)
    obtain ⟨q, hq, -⟩ := h.queue
    obtain ⟨q₁, hq₁, hgains⟩ := hfirst.queue q hq
    obtain ⟨others, hbacklog, -⟩ := hgains.backlog
    have hn₁ : ∀ q ∈ s₁.queue? r, n ≤ q.backlog.length := by
      intro q' hq'
      rw [hq₁, Option.mem_some_iff] at hq'
      subst hq'
      rw [hbacklog, List.length_append]
      exact Nat.le_add_right_of_le (hn q hq)
    exact .inr ⟨reason, (hopen.disconnect reason hn₁).spares hrest hpanic⟩

/-! ## Worker steps -/

/-- What a parse may do to the endpoint: take octets off its buffer, or disconnect it. -/
theorem parseReceived_cases {x : Endpoint} (hx : s.endpoint? b = some x) :
    ∃ buffer, (x.buffer = [] → buffer = []) ∧
      SparesOrEnds b r (s.setEndpoint b { x with buffer := buffer }) (s.parseReceived b).1 := by
  have hsame : s.setEndpoint b { x with buffer := x.buffer } = s := s.setEndpoint_self _ hx
  rw [parseReceived, hx]
  dsimp only
  split
  · refine ⟨x.buffer, id, .inl ?_⟩
    rw [hsame]
    exact .refl b r s
  · split
    · next cause _ =>
      refine ⟨x.buffer, id, .inr ⟨s.trace (.invalidData cause), .invalidDataReceived, ?_, ?_, ?_⟩⟩
      · rw [hsame]
        exact .trace s _
      · rw [hsame]
        rfl
      · exact .contain _
    · refine ⟨x.buffer, id, .inl ?_⟩
      rw [hsame]
      exact .trace s _
    · next messages rest hparse =>
      refine ⟨rest, fun hempty ↦ ?_, .inl (.refl b r _)⟩
      rw [hempty, Engine.parse] at hparse
      have hnothing : (s.engine b).protocol.parse (s.engine b).registry [] = .ok ([], []) :=
        Protocol.parse_eq_ok_iff.2 ⟨.nil [], Protocol.front_nil⟩
      rw [hparse, Except.ok.injEq, Prod.mk.injEq] at hnothing
      exact hnothing.2

/-- What the handling of a message may do to the endpoint: count it, put it on record as dispatched
unless the messages that wait are dropped, and disconnect it. -/
theorem handleMessage_cases {x : Endpoint} (hx : s.endpoint? b = some x) (halone : s.Alone b r)
    (m : Message) :
    ∃ rate s₀, (s₀ = s.setEndpoint b { x with rate := rate } ∨
        x.discarding = false ∧ ∃ handled,
          s₀ = (s.setEndpoint b { x with rate := rate }).record (.dispatched b m handled)) ∧
      SparesOrEnds b r s₀ (s.handleMessage b m).1 := by
  have hcounted := s.endpoint?_setEndpoint_self b hx { x with rate := x.rate.record }
  have halone' : (s.setEndpoint b { x with rate := x.rate.record }).Alone b r :=
    halone.of_endpoint? fun e he ↦ s.endpoint?_setEndpoint_of_ne he.symm _
  refine ⟨x.rate.record, ?_⟩
  rw [handleMessage, hx]
  dsimp only [Rate.exceeds]
  split
  · exact ⟨_, .inl rfl, .inr ⟨_, .spam, .trace _ _, rfl, .contain _⟩⟩
  · split
    · exact ⟨_, .inl rfl, .inl (.refl b r _)⟩
    · next hdiscarding =>
      exact ⟨_, .inr ⟨eq_false_of_ne_true hdiscarding, _, rfl⟩,
        Spares.dispatch_self halone' (congrArg Option.isSome hcounted) x.type m⟩

/-- A step of a job of the endpoint: its buffer and its count may change, a message may be put on
record as dispatched unless those that wait are dropped, and it may be disconnected. -/
theorem execute_own {j : Job} {x : Endpoint} (hj : j.isFor b = true) (hx : s.endpoint? b = some x)
    (halone : s.Alone b r) (hpanic : s.panic = none) :
    ∃ buffer rate s₀ s₁ ms, s.execute r j = s₁.proceed r b ms ∧ s₁.panic = none ∧
      (x.buffer = [] ∨ j = .reset b → buffer = []) ∧
      (s₀ = s.setEndpoint b { x with buffer := buffer, rate := rate } ∨ x.discarding = false ∧
        ∃ m handled, s₀ = (s.setEndpoint b { x with buffer := buffer, rate := rate }).record
          (.dispatched b m handled)) ∧
      SparesOrEnds b r s₀ s₁ := by
  cases j with
  | hold clear => cases hj
  | mark label panics => cases hj
  | reset e =>
      rw [Job.isFor, beq_iff_eq] at hj
      subst hj
      have hcleared : s.clearBuffer e = s.setEndpoint e { x with buffer := [], rate := x.rate } :=
        s.modifyEndpoint_of_endpoint? _ hx _
      refine ⟨[], x.rate, _, s.clearBuffer e, [], rfl, hpanic, fun _ ↦ rfl, .inl rfl, .inl ?_⟩
      rw [hcleared]
      exact .refl e r _
  | parse e =>
      rw [Job.isFor, beq_iff_eq] at hj
      subst hj
      obtain ⟨buffer, hempty, hparsed⟩ := parseReceived_cases (r := r) hx
      refine ⟨buffer, x.rate, _, (s.parseReceived e).1, _, rfl, s.panic_parseReceived e hpanic,
        fun hnone ↦ ?_, .inl rfl, hparsed⟩
      rcases hnone with hnone | hnone
      · exact hempty hnone
      · cases hnone
  | handle e messages =>
      rw [Job.isFor, beq_iff_eq] at hj
      subst hj
      cases messages with
      | nil =>
          have hsame : s.setEndpoint e { x with buffer := x.buffer, rate := x.rate } = s :=
            s.setEndpoint_self _ hx
          exact ⟨x.buffer, x.rate, s, s, [], rfl, hpanic,
            fun hnone ↦ hnone.resolve_right Job.noConfusion, .inl hsame.symm, .inl (.refl e r s)⟩
      | cons m ms =>
          obtain ⟨left, hexecute, -⟩ := s.execute_handle r e m ms
          obtain ⟨rate, s₀, hs₀, hhandled⟩ := handleMessage_cases hx halone m
          refine ⟨x.buffer, rate, s₀, _, left, hexecute, s.panic_handleMessage e m hpanic,
            fun hnone ↦ hnone.resolve_right Job.noConfusion, ?_, hhandled⟩
          rcases hs₀ with hs₀ | ⟨hdiscarding, handled, hs₀⟩
          · exact .inl hs₀
          · exact .inr ⟨hdiscarding, m, handled, hs₀⟩

theorem Open.setEndpoint (h : s.Open b r) {x : Endpoint} (hx : s.endpoint? b = some x)
    (buffer : Bytes) (rate : Rate) :
    (s.setEndpoint b { x with buffer := buffer, rate := rate }).Open b r := by
  obtain ⟨y, hy, hreason, hhandle⟩ := h.endpoint
  rw [hx, Option.some.injEq] at hy
  subst hy
  refine ⟨⟨⟨_, s.endpoint?_setEndpoint_self b hx _, hreason, hhandle⟩, ?_⟩, h.panic,
    h.alone.of_endpoint? fun e he ↦ s.endpoint?_setEndpoint_of_ne he.symm _⟩
  rw [queue?_setEndpoint]
  exact h.queue

theorem Ended.setEndpoint (h : s.Ended b r reason n) {x : Endpoint} (hx : s.endpoint? b = some x)
    {buffer : Bytes} (hempty : x.buffer = [] → buffer = []) (rate : Rate) :
    (s.setEndpoint b { x with buffer := buffer, rate := rate }).Ended b r reason n := by
  obtain ⟨y, q, hy, hq, hreason, hstate, hbuffer⟩ := h.endpoint
  rw [hx, Option.some.injEq] at hy
  subst hy
  exact ⟨h.panic, h.alone.of_endpoint? fun e he ↦ s.endpoint?_setEndpoint_of_ne he.symm _,
    _, q, s.endpoint?_setEndpoint_self b hx _, (s.queue?_setEndpoint b r _).trans hq, hreason,
    hstate, hbuffer.imp hempty id⟩

theorem Open.record (h : s.Open b r) (x : Record) : (s.record x).Open b r := by
  refine ⟨⟨h.endpoint, ?_⟩, h.panic, h.alone⟩
  rw [queue?_record]
  exact h.queue

theorem Ended.record (h : s.Ended b r reason n) (x : Record) :
    (s.record x).Ended b r reason n := by
  obtain ⟨y, q, hy, hq, hended⟩ := h.endpoint
  exact ⟨h.panic, h.alone, y, q, hy, (s.queue?_record r x).trans hq, hended⟩

/-- An open endpoint stays open when octets come, whether it takes them or not. -/
theorem Open.receive (h : s.Open b r) (data : Bytes) : (s.receive b data).Open b r := by
  obtain ⟨x, hx, -, handle, hhandle, hr⟩ := h.endpoint
  obtain ⟨q, hq, hopen, hname⟩ := h.queue
  cases hconnected : s.isConnected b with
  | false =>
      rw [receive_of_not_isConnected hconnected]
      exact h
  | true =>
      rw [Node.isConnected, hx] at hconnected
      have hset := h.setEndpoint hx (x.buffer ++ data) x.rate
      have hq₁ := (s.queue?_setEndpoint b r { x with buffer := x.buffer ++ data }).trans hq
      have htaken := enqueue_of_open _ r hq₁ hopen hname (.parse b)
      rw [Node.receive, hx]
      simp only [hconnected, if_true]
      generalize s.setEndpoint b { x with buffer := x.buffer ++ data } = s₁ at hset hq₁ htaken ⊢
      simp only [hhandle, hr, htaken]
      refine ⟨⟨?_, { q with backlog := q.backlog ++ [.parse b], started := true }, ?_, hopen,
        hname⟩, (s₁.panic_modifyQueue r _).trans hset.panic,
        hset.alone.of_endpoint? fun e _ ↦ s₁.endpoint?_modifyQueue e r _⟩
      · rw [endpoint?_modifyQueue]
        exact hset.endpoint
      · rw [queue?_modifyQueue_self, hq₁]
        rfl

theorem Open.proceed (h : s.Open b r) (e : EndpointRef) (messages : List Message) :
    (s.proceed r e messages).Open b r := by
  obtain ⟨q, hq, hopen, hname⟩ := h.queue
  obtain ⟨q', hq', -, hname', hdisposed'⟩ := queue?_proceed hq e messages
  refine ⟨⟨?_, q', hq', hdisposed'.trans hopen, hname' ▸ hname⟩,
    (s.panic_proceed r e messages).trans h.panic,
    h.alone.of_endpoint? fun d _ ↦ s.endpoint?_proceed r e messages d⟩
  rw [endpoint?_proceed]
  exact h.endpoint

/-- The job at the head has been done, and the reset stands behind it. -/
theorem Ended.proceed (h : s.Ended b r reason 1) (e : EndpointRef) (messages : List Message) :
    (s.proceed r e messages).Ended b r reason 0 := by
  obtain ⟨x, q, hx, hq, hreason, hstate, hbuffer⟩ := h.endpoint
  obtain ⟨q', hq', hbacklog', -⟩ := queue?_proceed hq e messages
  refine ⟨(s.panic_proceed r e messages).trans h.panic,
    h.alone.of_endpoint? fun d _ ↦ s.endpoint?_proceed r e messages d, x, q',
    (s.endpoint?_proceed r e messages b).trans hx, hq', hreason, hstate,
    hbuffer.imp id fun hreset ↦ ?_⟩
  rw [List.drop_zero, hbacklog', ← List.drop_one]
  exact List.mem_append_right _ hreset

/-- The reset stands behind the job at the head, unless it is that job. -/
theorem Ended.behind {q : Queue Job} {j : Job} {rest : List Job} (h : s.Ended b r reason 0)
    (hq : s.queue? r = some q) (hhead : q.backlog = j :: rest) (hj : j ≠ .reset b) :
    s.Ended b r reason 1 := by
  obtain ⟨x, q', hx, hq', hreason, hstate, hbuffer⟩ := h.endpoint
  rw [hq, Option.some.injEq] at hq'
  subst hq'
  refine ⟨h.panic, h.alone, x, q, hx, hq, hreason, hstate, hbuffer.imp id fun hreset ↦ ?_⟩
  rw [List.drop_zero, hhead, List.mem_cons] at hreset
  rw [hhead, List.drop_one, List.tail_cons]
  exact hreset.resolve_left hj.symm

theorem dispatched_proceed (s : Node) (r : QueueRef) (e : EndpointRef) (messages : List Message)
    (b : EndpointRef) : (s.proceed r e messages).dispatched b = s.dispatched b := by
  rw [Node.proceed.eq_def]
  split <;> exact congrArg (List.filterMap _) (s.log_modifyQueue r _)

/-- A worker step of an open endpoint may end it, and then the reset is handed in. -/
theorem Open.work? (h : s.Open b r) (hwork : s.work? r = some s') :
    s'.Open b r ∨ ∃ reason, s'.Ended b r reason 0 := by
  obtain ⟨q, j, rest, hq, hhead, rfl⟩ := work?_eq_some hwork
  cases hj : j.isFor b with
  | false =>
      obtain ⟨s₁, e, messages, hexecute, -, hspares, hpanic⟩ :=
        execute_of_foreign (r := r) hj h.alone h.panic
      rw [hexecute]
      exact .inl ((h.spares hspares hpanic).proceed e messages)
  | true =>
      obtain ⟨x, hx, -⟩ := h.endpoint
      obtain ⟨buffer, rate, s₀, s₁, ms, hexecute, hpanic, -, hs₀, hends⟩ :=
        execute_own hj hx h.alone h.panic
      have hopen : s₀.Open b r ∧ s₀.queue? r = some q := by
        have hset := h.setEndpoint hx buffer rate
        have hq₁ := (s.queue?_setEndpoint b r { x with buffer := buffer, rate := rate }).trans hq
        rcases hs₀ with rfl | ⟨-, m, handled, rfl⟩
        · exact ⟨hset, hq₁⟩
        · exact ⟨hset.record _, (queue?_record _ r _).trans hq₁⟩
      have hlong : ∀ q ∈ s₀.queue? r, 1 ≤ q.backlog.length := by
        intro q' hq'
        rw [hopen.2, Option.mem_some_iff] at hq'
        subst hq'
        rw [hhead]
        exact Nat.le_add_left 1 _
      rw [hexecute]
      rcases hopen.1.sparesOrEnds hends hpanic hlong with hopen' | ⟨reason, hended⟩
      · exact .inl (hopen'.proceed b ms)
      · exact .inr ⟨reason, hended.proceed b ms⟩

/-- A worker step of an ended endpoint: nothing of it is dispatched if its reason drops the messages
that wait. -/
theorem Ended.work? (h : s.Ended b r reason 0) (hwork : s.work? r = some s') :
    s'.Ended b r reason 0 ∧
      (reason.discardsPending = true → s'.dispatched b = s.dispatched b) := by
  obtain ⟨q, j, rest, hq, hhead, rfl⟩ := work?_eq_some hwork
  obtain ⟨x, -, hx, -, hreason, hstate, -⟩ := h.endpoint
  cases hj : j.isFor b with
  | false =>
      obtain ⟨s₁, e, messages, hexecute, -, hspares, hpanic⟩ :=
        execute_of_foreign (r := r) hj h.alone h.panic
      have hbehind := h.behind hq hhead (by rintro rfl; cases (Job.isFor_reset b).symm.trans hj)
      rw [hexecute, dispatched_proceed]
      exact ⟨(hbehind.spares hspares hpanic).proceed e messages, fun _ ↦ hspares.dispatched⟩
  | true =>
      obtain ⟨buffer, rate, s₀, s₁, ms, hexecute, hpanic, hempty, hs₀, hends⟩ :=
        execute_own hj hx h.alone h.panic
      have hbehind :
          (s.setEndpoint b { x with buffer := buffer, rate := rate }).Ended b r reason 1 := by
        by_cases hreset : j = .reset b
        · obtain rfl := hempty (.inr hreset)
          exact ⟨h.panic, h.alone.of_endpoint? fun e he ↦ s.endpoint?_setEndpoint_of_ne he.symm _,
            _, q, s.endpoint?_setEndpoint_self b hx _, (s.queue?_setEndpoint b r _).trans hq,
            hreason, hstate, .inl rfl⟩
        · exact (h.behind hq hhead hreset).setEndpoint hx (fun hnone ↦ hempty (.inl hnone)) rate
      rw [hexecute, dispatched_proceed]
      rcases hs₀ with rfl | ⟨hdiscarding, m, handled, rfl⟩
      · have hspares := hends.spares hbehind.reason?
        exact ⟨(hbehind.spares hspares hpanic).proceed b ms, fun _ ↦ hspares.dispatched⟩
      · have hrecorded := hbehind.record (.dispatched b m handled)
        have hspares := hends.spares hrecorded.reason?
        refine ⟨(hrecorded.spares hspares hpanic).proceed b ms, fun hdiscards ↦ ?_⟩
        rw [Endpoint.discarding, hreason] at hdiscarding
        exact absurd hdiscards (ne_true_of_eq_false hdiscarding)

/-! ## When the reset has been done -/

/-- Once nothing is left to be done for it, the buffer of an ended endpoint is empty. -/
theorem Ended.buffer (h : s.Ended b r reason 0) (hidle : s.Idle b r) :
    ∃ x, s.endpoint? b = some x ∧ x.state = .disconnected ∧ x.reason = some reason ∧
      x.buffer = [] := by
  obtain ⟨x, q, hx, hq, hreason, hstate, hbuffer⟩ := h.endpoint
  refine ⟨x, hx, hstate, hreason, hbuffer.resolve_right fun hreset ↦ ?_⟩
  rw [List.drop_zero] at hreset
  have hown := hidle q hq _ hreset
  rw [Job.isFor_reset] at hown
  cases hown

theorem Idle.spares {q : Queue Job} (h : s.Idle b r) (hq : s.queue? r = some q)
    (hs : Spares b r s s') : s'.Idle b r := by
  intro q' hq' j hj
  obtain ⟨q'', hq'', hgains⟩ := hs.queue q hq
  rw [hq'', Option.mem_some_iff] at hq'
  subst hq'
  obtain ⟨others, hbacklog, hothers⟩ := hgains.backlog
  rw [hbacklog, List.mem_append] at hj
  rcases hj with hj | hj
  · exact h q hq j hj
  · exact (hothers j hj).1

/-- What is left of the job at the head is not for the endpoint either. -/
theorem Idle.proceed {q : Queue Job} {e : EndpointRef} {messages : List Message}
    (h : s.Idle b r) (hq : s.queue? r = some q) (hothers : messages = [] ∨ e ≠ b) :
    (s.proceed r e messages).Idle b r := by
  obtain ⟨q₁, hq₁, hbacklog, -⟩ := queue?_proceed hq e messages
  intro q' hq' j hj
  rw [hq₁, Option.mem_some_iff] at hq'
  subst hq'
  rw [hbacklog, List.mem_append] at hj
  rcases hj with hj | hj
  · rcases hothers with rfl | he
    · cases hj
    · cases messages with
      | nil => cases hj
      | cons m ms =>
          rw [List.mem_singleton.1 hj]
          exact beq_false_of_ne he
  · exact h q hq j (List.mem_of_mem_tail hj)

/-- After the end nothing more is handed in for the endpoint. -/
theorem Ended.idle {act : Act} (h : s.Ended b r reason 0) (hidle : s.Idle b r)
    (husual : act.Usual r) (hact : s.act? act = some s') : s'.Idle b r := by
  obtain ⟨x, q, hx, hq, hreason, -⟩ := h.endpoint
  rcases Spares.act? h.alone husual hact with ⟨hspares, -⟩ | ⟨data, rfl⟩ | ⟨other, rfl⟩ | rfl | rfl
  · exact hidle.spares hq hspares
  · cases hact
    rw [h.receive data]
    exact hidle.spares hq (.panic s none)
  · cases hact
    rw [s.disconnect_of_reason b hx (congrArg Option.isSome hreason)]
    exact hidle.spares hq (.panic s none)
  · cases hact
    intro q' hq'
    rw [queue?_modifyEndpoint] at hq'
    exact hidle q' hq'
  · obtain ⟨q', j, rest, hq', hhead, rfl⟩ := work?_eq_some hact
    rw [hq, Option.some.injEq] at hq'
    subst hq'
    have hj : j.isFor b = false := hidle q hq j (by rw [hhead]; exact List.mem_cons_self)
    obtain ⟨s₁, e, messages, hexecute, hothers, hspares, -⟩ :=
      execute_of_foreign (r := r) hj h.alone h.panic
    obtain ⟨q₁, hq₁, -⟩ := hspares.queue q hq
    rw [hexecute]
    exact (hidle.spares hq hspares).proceed hq₁ hothers

/-! ## Runs -/

theorem Open.act? {act : Act} (h : s.Open b r) (husual : act.Usual r)
    (hact : s.act? act = some s') : s'.Open b r ∨ ∃ reason, s'.Ended b r reason 0 := by
  have hpanic := panic_act? h.panic hact
  rcases Spares.act? h.alone husual hact with ⟨hspares, -⟩ | ⟨data, rfl⟩ | ⟨reason, rfl⟩ | rfl | rfl
  · exact .inl (h.spares hspares hpanic)
  · cases hact
    exact .inl ((h.receive data).spares (.panic _ none) rfl)
  · cases hact
    have hended := h.disconnect reason fun q _ ↦ Nat.zero_le _
    exact .inr ⟨reason, hended.spares (.panic _ none) rfl⟩
  · cases hact
    obtain ⟨x, hx, -⟩ := h.endpoint
    rw [s.modifyEndpoint_of_endpoint? _ hx]
    exact .inl (h.setEndpoint hx x.buffer x.rate.renew)
  · exact h.work? hact

theorem Ended.act? {act : Act} (h : s.Ended b r reason 0) (husual : act.Usual r)
    (hact : s.act? act = some s') :
    s'.Ended b r reason 0 ∧
      (reason.discardsPending = true → s'.dispatched b = s.dispatched b) := by
  have hpanic := panic_act? h.panic hact
  rcases Spares.act? h.alone husual hact with ⟨hspares, -⟩ | ⟨data, rfl⟩ | ⟨other, rfl⟩ | rfl | rfl
  · exact ⟨h.spares hspares hpanic, fun _ ↦ hspares.dispatched⟩
  · cases hact
    rw [h.receive data]
    exact ⟨h.spares (.panic s none) rfl, fun _ ↦ rfl⟩
  · obtain ⟨x, -, hx, -, hreason, -⟩ := h.endpoint
    cases hact
    rw [s.disconnect_of_reason b hx (congrArg Option.isSome hreason)]
    exact ⟨h.spares (.panic s none) rfl, fun _ ↦ rfl⟩
  · cases hact
    obtain ⟨x, -, hx, -⟩ := h.endpoint
    rw [s.modifyEndpoint_of_endpoint? _ hx]
    exact ⟨h.setEndpoint hx id x.rate.renew, fun _ ↦ rfl⟩
  · exact h.work? hact

theorem Open.run? {acts : List Act} (h : s.Open b r) (husual : ∀ act ∈ acts, act.Usual r)
    (hrun : s.run? acts = some s') : s'.Open b r ∨ ∃ reason, s'.Ended b r reason 0 := by
  have hstep : ∀ act ∈ acts, ∀ s₁ s₂ : Node, (s₁.Open b r ∨ ∃ reason, s₁.Ended b r reason 0) →
      s₁.act? act = some s₂ → s₂.Open b r ∨ ∃ reason, s₂.Ended b r reason 0 := by
    rintro act hmem s₁ s₂ (hopen | ⟨reason, hended⟩) hact
    · exact hopen.act? (husual act hmem) hact
    · exact .inr ⟨reason, (hended.act? (husual act hmem) hact).1⟩
  exact run?_induction (.inl h) hrun hstep

theorem Ended.run? {acts : List Act} (h : s.Ended b r reason 0)
    (husual : ∀ act ∈ acts, act.Usual r) (hrun : s.run? acts = some s') :
    s'.Ended b r reason 0 ∧
      (reason.discardsPending = true → s'.dispatched b = s.dispatched b) := by
  have hstep : ∀ act ∈ acts, ∀ s₁ s₂ : Node, (s₁.Ended b r reason 0 ∧
      (reason.discardsPending = true → s₁.dispatched b = s.dispatched b)) → s₁.act? act = some s₂ →
      s₂.Ended b r reason 0 ∧
        (reason.discardsPending = true → s₂.dispatched b = s.dispatched b) := by
    rintro act hmem s₁ s₂ ⟨hended, hsame⟩ hact
    obtain ⟨hended', hsame'⟩ := hended.act? (husual act hmem) hact
    exact ⟨hended', fun hdiscards ↦ (hsame' hdiscards).trans (hsame hdiscards)⟩
  exact run?_induction ⟨h, fun _ ↦ rfl⟩ hrun hstep

theorem Ended.idle_run? {acts : List Act} (h : s.Ended b r reason 0) (hidle : s.Idle b r)
    (husual : ∀ act ∈ acts, act.Usual r) (hrun : s.run? acts = some s') : s'.Idle b r := by
  have hstep : ∀ act ∈ acts, ∀ s₁ s₂ : Node, s₁.Ended b r reason 0 ∧ s₁.Idle b r →
      s₁.act? act = some s₂ → s₂.Ended b r reason 0 ∧ s₂.Idle b r := by
    rintro act hmem s₁ s₂ ⟨hended, hidle⟩ hact
    exact ⟨(hended.act? (husual act hmem) hact).1, hended.idle hidle (husual act hmem) hact⟩
  exact (run?_induction ⟨h, hidle⟩ hrun hstep).2

end MessageEngine.Node
