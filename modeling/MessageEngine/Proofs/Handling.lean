import MessageEngine.Proofs.AfterDisconnect
import MessageEngine.Proofs.StreamRoundTrip

/-!
# What is handled of the data that an endpoint receives

Octets come in pieces, and the worker of the queue takes its steps whenever
it likes.  Still the messages in these octets are dispatched in order and
each once, up to the first frame that is refused.  A disconnect either lets
all that came before it be handled, or stops the handling at once.
-/

namespace MessageEngine

namespace Node

variable {b : EndpointRef} {r : QueueRef} {g : Engine} {type : EndpointType} {p : Progress}
  {s s' : Node}

/-- An act that may end an endpoint otherwise than by a parse. -/
def MayEnd (b : EndpointRef) (s : Node) : Act → Prop
  | .disconnect e _ => e = b
  | .work r => s.handlesNext b r = true
  | _ => False

/-- If the worker takes a step, the rate of the endpoint does not come above the ceiling. -/
def Slow (b : EndpointRef) (r : QueueRef) (s : Node) (act : Act) (s' : Node) : Prop :=
  act = .work r → ∀ x ∈ s'.endpoint? b, x.rate.above (s.engine b).protocol.maxRate = false

/-- If the worker takes a step, neither does the rate come above the ceiling nor does a handler
disconnect the endpoint. -/
def Calm (b : EndpointRef) (r : QueueRef) (s : Node) (act : Act) (s' : Node) : Prop :=
  Slow b r s act s' ∧
    (act = .work r → s.handlesNext b r = true → s'.reason? b = s.reason? b)

instance (act : Act) : Decidable (Slow b r s act s') := inferInstanceAs (Decidable (_ → _))

instance (act : Act) : Decidable (Calm b r s act s') :=
  inferInstanceAs (Decidable (_ ∧ (_ → _ → _)))

theorem Listens.reception (h : s.Listens b r) {x : Endpoint} (hx : s.endpoint? b = some x) :
    s.Reception b r (s.engine b) x.type { state := x.state, held := true } := by
  obtain ⟨y, hy, hreason, hbuffer, hhandle⟩ := h.endpoint
  rw [hx, Option.some.injEq] at hy
  subst hy
  obtain ⟨q, hq, hopen, hname, hforeign⟩ := h.queue
  have hagrees : x.Agrees r (s.engine b) x.type { state := x.state, held := true } := by
    refine ⟨rfl, .nil [], fun _ ↦ Protocol.front_nil, hbuffer, ?_, fun _ ↦ ⟨rfl, hreason, hhandle⟩,
      ?_⟩
    · intro hlost
      cases hlost
    · intro hlost
      cases hlost
  refine ⟨⟨rfl, h.panic, h.alone, ⟨x, hx, hagrees⟩, h.dispatched⟩, q, hq, ⟨fun hheld ↦ ?_, hname,
    fun _ ↦ ⟨hopen, rfl⟩⟩, ?_⟩
  · cases hheld
  · refine List.filter_eq_nil_iff.2 fun j hj ↦ ?_
    rw [hforeign j hj]
    exact Bool.false_ne_true

theorem Reception.open (h : s.Reception b r g type p) (hlost : p.lost = false) : s.Open b r := by
  obtain ⟨q, hq, hqueue⟩ := h.queue
  exact ⟨h.attached hlost hq hqueue.toServes, h.panic, h.alone⟩

/-- The reset is among the jobs until it has been done. -/
theorem Reception.open_or_ended (h : s.Reception b r g type p) :
    s.Open b r ∨ ∃ reason, s.Ended b r reason 0 := by
  cases hlost : p.lost with
  | false => exact .inl (h.open hlost)
  | true =>
      obtain ⟨x, hx, hagrees⟩ := h.endpoint
      obtain ⟨q, hq, hqueue⟩ := h.queue
      obtain ⟨hstate, reason, hreason, -⟩ := hagrees.ended hlost
      refine .inr ⟨reason, h.panic, h.alone, x, q, hx, hq, hreason, hstate, ?_⟩
      cases hresetting : p.resetting with
      | false =>
          refine .inl ?_
          rw [hagrees.buffer, hlost, hresetting]
          rfl
      | true =>
          have hmem : Job.reset b ∈ p.jobs b := by
            rw [Progress.jobs, Progress.later, hresetting]
            exact List.mem_append_right _ (List.mem_append_right _ (List.mem_singleton_self _))
          rw [← hqueue.jobs] at hmem
          exact .inr (List.mem_of_mem_filter hmem)

/-! ## One act -/

/-- The endpoint takes what it is offered if it is connected. -/
theorem Reception.offered (h : s.Reception b r g type p) (data : Bytes) :
    ∃ p', (s.receive b data).Reception b r g type p' ∧
      p'.received = p.received ++ hears b s (.receive b data) ∧ p'.state = p.state ∧
      p'.lost = p.lost := by
  cases hconnected : s.isConnected b with
  | false =>
      refine ⟨p, ?_, ?_, rfl, rfl⟩
      · rw [receive_of_not_isConnected hconnected]
        exact h
      · rw [hears, hconnected, if_neg Bool.false_ne_true, List.append_nil]
  | true =>
      have hboth := h.isConnected_eq.symm.trans hconnected
      rw [Bool.and_eq_true, Bool.not_eq_true', Lifecycle.isConnected, beq_iff_eq] at hboth
      have hoffer : offer b (.receive b data) = data := if_pos rfl
      refine ⟨p.hear data, h.receive hboth.1 hboth.2 data, ?_, rfl, rfl⟩
      rw [hears, hconnected, if_pos rfl, hoffer]
      rfl

/-- The first disconnect keeps what waits, if its reason drops nothing; another one changes
nothing. -/
theorem Reception.disconnect (h : s.Reception b r g type p) (reason : DisconnectReason)
    (hkeeps : ∀ last, (s.disconnect b reason).1.reason? b = some last →
      last.discardsPending = false) :
    (s.disconnect b reason).1.Reception b r g type p ∨
      (s.disconnect b reason).1.Reception b r g type p.lose := by
  cases hlost : p.lost with
  | false =>
      have hended := (h.open hlost).disconnect reason fun q _ ↦ Nat.zero_le _
      exact .inr (h.lose hlost (hkeeps reason hended.reason?))
  | true =>
      obtain ⟨x, hx, hagrees⟩ := h.endpoint
      obtain ⟨-, first, hfirst, -⟩ := hagrees.ended hlost
      rw [s.disconnect_of_reason b hx (congrArg Option.isSome hfirst)]
      exact .inl h

/-- An act of any kind brings the endpoint further in what it received. -/
theorem Reception.act? {act : Act} (h : s.Reception b r g type p) (husual : act.Usual r)
    (hact : s.act? act = some s')
    (hgood : act = .work r → s.parsesNext b r = true →
      ∀ failure, g.protocol.parse g.registry p.received ≠ .error failure)
    (hkeeps : MayEnd b s act →
      ∀ reason, s'.reason? b = some reason → reason.discardsPending = false)
    (hslow : Slow b r s act s') :
    ∃ p', s'.Reception b r g type p' ∧ p'.received = p.received ++ hears b s act ∧
      p'.state = p.state ∧ (p'.lost = p.lost ∨ MayEnd b s act) := by
  have hpanic := panic_act? h.panic hact
  have hsilent : ∀ a, offer b a = [] → p.received = p.received ++ hears b s a := by
    intro a ha
    rw [hears, ha, ite_self, List.append_nil]
  rcases Spares.act? h.alone husual hact with ⟨hspares, hnothing⟩ | ⟨data, rfl⟩ | ⟨reason, rfl⟩ |
    rfl | rfl
  · exact ⟨p, h.spares hspares hpanic, hsilent _ hnothing, rfl, .inl rfl⟩
  · cases hact
    obtain ⟨p', htaken, hreceived, hstate, hlost⟩ := h.offered data
    exact ⟨p', htaken.spares (.panic _ none) rfl, hreceived, hstate, .inl hlost⟩
  · cases hact
    rcases h.disconnect reason (hkeeps rfl) with hsame | hlost
    · exact ⟨p, hsame.spares (.panic _ none) rfl, hsilent _ rfl, rfl, .inl rfl⟩
    · exact ⟨p.lose, hlost.spares (.panic _ none) rfl, hsilent _ rfl, rfl, .inr rfl⟩
  · cases hact
    exact ⟨p, h.modifyEndpoint fun x hx ↦ hx.rate _, hsilent _ rfl, rfl, .inl rfl⟩
  · obtain ⟨q, hq, -⟩ := h.queue
    have hbelow : ∀ x, s'.endpoint? b = some x → x.rate.above g.protocol.maxRate = false := by
      intro x hx
      rw [← h.engine]
      exact hslow rfl x hx
    obtain ⟨p', hreception, hreceived, hstate, -, hlost⟩ :=
      h.work? hact (hgood rfl) hkeeps hbelow
    exact ⟨p', hreception, hreceived.trans (hsilent _ rfl), hstate, hlost⟩

/-- A parse that is refused ends the endpoint, and dispatches nothing. -/
theorem Open.refuse (h : s.Open b r) {q : Queue Job} {rest : List Job} {cause : ProtocolError}
    (hq : s.queue? r = some q) (hhead : q.backlog = .parse b :: rest)
    (hparsed : s.parseReceived b =
      (((s.trace (.invalidData cause)).disconnect b .invalidDataReceived).1.contain, [])) :
    (s.execute r (.parse b)).Ended b r .invalidDataReceived 0 ∧
      (s.execute r (.parse b)).dispatched b = s.dispatched b := by
  have htraced := h.record (.trace (.invalidData cause))
  have hone : ∀ q ∈ (s.trace (.invalidData cause)).queue? r, 1 ≤ q.backlog.length := by
    intro q' hq'
    rw [trace, queue?_record, hq, Option.mem_some_iff] at hq'
    subst hq'
    rw [hhead]
    exact Nat.le_add_left 1 _
  have hended := htraced.disconnect .invalidDataReceived hone
  obtain ⟨-, hends⟩ := htraced.toAttached.disconnect htraced.panic .invalidDataReceived
  have hcontained := hended.spares (.contain _) (panic_contain _)
  have htrace : (s.trace (.invalidData cause)).dispatched b = s.dispatched b :=
    (Spares.trace (r := r) s _).dispatched
  rw [execute, hparsed]
  refine ⟨hcontained.proceed b [], ?_⟩
  rw [dispatched_proceed, (Spares.contain (r := r) _).dispatched]
  exact hends.dispatched.trans htrace

/-- What was dispatched before a parse is refused stands in front of the frame that is refused. -/
theorem Reception.refuse (h : s.Reception b r g type p) (hlost : p.lost = false)
    (hwork : s.work? r = some s') (hnext : s.parsesNext b r = true) {cause : ProtocolError}
    (hparse : g.protocol.parse g.registry p.received = .error (.refused cause)) :
    s'.Ended b r .invalidDataReceived 0 ∧
      s'.dispatched b = p.done.map (fun m ↦ (m, g.registry.handles m type)) ∧
      ∃ ms rest, g.protocol.Takes g.registry p.received (p.done ++ ms) rest ∧
        g.protocol.front g.registry rest = .failed (.refused cause) := by
  obtain ⟨q, rest, hq, hhead⟩ := head_of_parsesNext hnext
  obtain ⟨q', j, rest', hq', hhead', rfl⟩ := work?_eq_some hwork
  rw [hq, Option.some.injEq] at hq'
  subst hq'
  rw [hhead, List.cons.injEq] at hhead'
  obtain ⟨rfl, rfl⟩ := hhead'
  obtain ⟨q', hq', hqueue⟩ := h.queue
  rw [hq, Option.some.injEq] at hq'
  subst hq'
  have hjobs := hqueue.jobs
  rw [hhead, List.filter_cons_of_pos (Job.isFor_parse b)] at hjobs
  rcases Progress.jobs_eq_cons hjobs.symm with ⟨m, ms, -, hj, -⟩ |
    ⟨hwaiting, n, hparses, -, -⟩ | ⟨-, -, -, hj, -⟩
  · cases hj
  · obtain ⟨x, hx, hagrees⟩ := h.endpoint
    have hbuffer : x.buffer = p.rest := by
      rw [hagrees.buffer, hagrees.kept hparses]
      rfl
    have htaken := hagrees.taken
    rw [hwaiting, List.append_nil] at htaken
    have hrefused := htaken.parse_rest_error hparse
    have hparsed : s.parseReceived b =
        (((s.trace (.invalidData cause)).disconnect b .invalidDataReceived).1.contain, []) := by
      rw [parseReceived, hx]
      simp only [hagrees.discarding, Bool.false_eq_true, if_false, Engine.parse, h.engine, hbuffer,
        hrefused]
    obtain ⟨hended, hsame⟩ := (h.open hlost).refuse hq hhead hparsed
    obtain ⟨ms, left, hms, hfaulty⟩ := Protocol.parse_eq_error_iff.1 hrefused
    exact ⟨hended, hsame.trans h.dispatched, ms, left, htaken.trans hms, hfaulty⟩
  · cases hj

/-! ## In order and each once -/

/-- What has come of the octets that were offered to an endpoint: they are being dispatched, or
were refused behind some of their messages. -/
inductive Heard (b : EndpointRef) (r : QueueRef) (g : Engine) (type : EndpointType)
    (data : Bytes) (s : Node) : Prop
  | well {p : Progress} (reception : s.Reception b r g type p) (received : p.received = data)
      (state : p.state = .connected) (lost : p.lost = false)
  | refused {done ms : List Message} {rest : Bytes} {cause : ProtocolError}
      (ended : s.Ended b r .invalidDataReceived 0)
      (dispatched : s.dispatched b = done.map fun m ↦ (m, g.registry.handles m type))
      (taken : g.protocol.Takes g.registry data (done ++ ms) rest)
      (faulty : g.protocol.front g.registry rest = .failed (.refused cause))

theorem Heard.act? {act : Act} {data : Bytes} (h : s.Heard b r g type data)
    (husual : act.Usual r) (houtside : ∀ reason, act ≠ .disconnect b reason)
    (hact : s.act? act = some s') (hcalm : Calm b r s act s')
    (hsound : g.protocol.parse g.registry (data ++ offer b act) ≠ .error .panicked) :
    s'.Heard b r g type (data ++ offer b act) := by
  cases h with
  | refused ended dispatched taken faulty =>
      obtain ⟨hended, hsame⟩ := ended.act? husual hact
      exact .refused hended ((hsame rfl).trans dispatched) (taken.append _)
        (Protocol.front_failed_append faulty _)
  | @well p reception received state lost =>
      subst received
      have hnone : s.reason? b = none := (reception.open lost).reason?
      have hkept : MayEnd b s act → s'.reason? b = none := by
        intro hmay
        cases act with
        | disconnect e reason =>
            exact absurd (congrArg (Act.disconnect · reason) hmay) (houtside reason)
        | work t =>
            cases husual
            exact (hcalm.2 rfl hmay).trans hnone
        | _ => cases hmay
      by_cases hbad : act = .work r ∧ s.parsesNext b r = true ∧
          ∃ cause, g.protocol.parse g.registry p.received = .error (.refused cause)
      · obtain ⟨rfl, hnext, cause, hparse⟩ := hbad
        obtain ⟨hended, hdispatched, ms, rest, htaken, hfaulty⟩ :=
          reception.refuse lost hact hnext hparse
        rw [show offer b (.work r) = [] from rfl, List.append_nil]
        exact .refused hended hdispatched htaken hfaulty
      · have hgood : act = .work r → s.parsesNext b r = true →
            ∀ failure, g.protocol.parse g.registry p.received ≠ .error failure := by
          rintro hwork hnext (cause | _) hparse
          · exact hbad ⟨hwork, hnext, cause, hparse⟩
          · exact hsound (Protocol.parse_error_append hparse _)
        have hkeeps : MayEnd b s act →
            ∀ reason, s'.reason? b = some reason → reason.discardsPending = false := by
          intro hmay reason hreason
          rw [hkept hmay] at hreason
          cases hreason
        obtain ⟨p', hreception, hreceived, hstate, hlost⟩ :=
          reception.act? husual hact hgood hkeeps hcalm.1
        have hconnected : s.isConnected b = true := by
          rw [reception.isConnected_eq, lost, state]
          rfl
        rw [hears, hconnected, if_pos rfl] at hreceived
        refine .well hreception hreceived (hstate.trans state) ?_
        rcases hlost with hlost | hmay
        · exact hlost.trans lost
        · rw [hreception.lost_eq, hkept hmay]
          rfl

theorem Heard.run? {acts : List Act} {data : Bytes} (h : s.Heard b r g type data)
    (husual : ∀ act ∈ acts, act.Usual r) (houtside : ∀ reason, .disconnect b reason ∉ acts)
    (hrun : s.run? acts = some s') (hcalm : Along (Calm b r) s acts)
    (hsound : g.protocol.parse g.registry (data ++ offered b acts) ≠ .error .panicked) :
    s'.Heard b r g type (data ++ offered b acts) := by
  -- a frame whose parse panics would do so whatever comes behind it
  induction acts generalizing s data with
  | nil =>
      cases hrun
      rw [offered, List.flatMap_nil, List.append_nil]
      exact h
  | cons act acts ih =>
      obtain ⟨s₁, hact, hrest⟩ := run?_cons.1 hrun
      obtain ⟨hfirst, hothers⟩ := hcalm s₁ hact
      rw [offered, List.flatMap_cons, ← List.append_assoc] at hsound ⊢
      have hheard := h.act? (husual act List.mem_cons_self)
        (fun reason heq ↦ houtside reason (heq ▸ List.mem_cons_self)) hact hfirst
        fun hpanicked ↦ hsound (Protocol.parse_error_append hpanicked _)
      exact ih hheard (fun a ha ↦ husual a (List.mem_cons_of_mem act ha))
        (fun reason hmem ↦ houtside reason (List.mem_cons_of_mem act hmem)) hrest hothers hsound

/-- What was dispatched, when what was received is the beginning of well-formed frames. -/
theorem Reception.prefix_of_parse_ok {later rest : Bytes} {ms : List Message}
    (h : s.Reception b r g type p)
    (hparse : g.protocol.parse g.registry (p.received ++ later) = .ok (ms, rest)) :
    s.dispatched b <+: ms.map fun m ↦ (m, g.registry.handles m type) := by
  obtain ⟨x, -, hagrees⟩ := h.endpoint
  obtain ⟨found, rfl, -⟩ := (hagrees.taken.append later).parse_rest_ok hparse
  rw [h.dispatched, List.append_assoc]
  exact (List.prefix_append _ _).map _

/-- What was dispatched, when all that was offered is the beginning of well-formed frames. -/
theorem Heard.prefix_of_parse_ok {data later rest : Bytes} {ms : List Message}
    (h : s.Heard b r g type data)
    (hparse : g.protocol.parse g.registry (data ++ later) = .ok (ms, rest)) :
    s.dispatched b <+: ms.map fun m ↦ (m, g.registry.handles m type) := by
  cases h with
  | refused ended dispatched taken faulty =>
      have hfailed := Protocol.parse_eq_error_iff.2
        ⟨_, _, taken.append later, Protocol.front_failed_append faulty later⟩
      rw [hfailed] at hparse
      cases hparse
  | @well p reception received state lost =>
      subst received
      exact reception.prefix_of_parse_ok hparse

/-- What was dispatched, when all that was offered has a frame that is refused. -/
theorem Heard.prefix_of_parse_error {data later : Bytes} {failure : DecodeFailure}
    (h : s.Heard b r g type data)
    (hparse : g.protocol.parse g.registry (data ++ later) = .error failure) :
    ∃ ms rest, g.protocol.Takes g.registry (data ++ later) ms rest ∧
      g.protocol.front g.registry rest = .failed failure ∧
      s.dispatched b <+: ms.map fun m ↦ (m, g.registry.handles m type) := by
  cases h with
  | @refused done ms rest cause ended dispatched taken faulty =>
      have hfaulty := Protocol.front_failed_append faulty later
      have hfailed := Protocol.parse_eq_error_iff.2 ⟨_, _, taken.append later, hfaulty⟩
      rw [hfailed, Except.error.injEq] at hparse
      subst hparse
      refine ⟨done ++ ms, rest ++ later, taken.append later, hfaulty, ?_⟩
      rw [dispatched]
      exact (List.prefix_append done ms).map _
  | @well p reception received state lost =>
      subst received
      obtain ⟨x, -, hagrees⟩ := reception.endpoint
      have htaken := hagrees.taken.append later
      obtain ⟨ns, rest, hns, hfaulty⟩ :=
        Protocol.parse_eq_error_iff.1 (htaken.parse_rest_error hparse)
      refine ⟨_, rest, htaken.trans hns, hfaulty, ?_⟩
      rw [reception.dispatched, List.append_assoc]
      exact (List.prefix_append _ _).map _

/-- When nothing is left to be done for the endpoint, all messages that are there were dispatched,
and nothing but the rest is in its buffer. -/
theorem Reception.drained (h : s.Reception b r g type p) (hidle : s.Idle b r) :
    g.protocol.parse g.registry p.received = .ok (p.done, p.rest) ∧
      p.resetting = false := by
  obtain ⟨x, -, hagrees⟩ := h.endpoint
  obtain ⟨q, hq, hqueue⟩ := h.queue
  have hnone : p.jobs b = [] := by
    rw [← hqueue.jobs]
    refine List.filter_eq_nil_iff.2 fun j hj ↦ ?_
    rw [hidle q hq j hj]
    exact Bool.false_ne_true
  obtain ⟨hwaiting, hparses⟩ := Progress.of_jobs_eq_nil hnone
  have htaken := hagrees.taken
  rw [hwaiting, List.append_nil] at htaken
  refine ⟨Protocol.parse_eq_ok_iff.2 ⟨htaken, hagrees.idle hparses⟩, ?_⟩
  rw [Progress.jobs, Progress.later, hwaiting, hparses] at hnone
  cases hresetting : p.resetting with
  | false => rfl
  | true =>
      rw [hresetting] at hnone
      cases hnone

/-- When nothing is left to be done and all that was offered is well-formed. -/
theorem Heard.drained_of_parse_ok {data rest : Bytes} {ms : List Message}
    (h : s.Heard b r g type data) (hidle : s.Idle b r)
    (hparse : g.protocol.parse g.registry data = .ok (ms, rest)) :
    s.dispatched b = ms.map (fun m ↦ (m, g.registry.handles m type)) ∧
      ∃ x, s.endpoint? b = some x ∧ x.state = .connected ∧ x.buffer = rest := by
  cases h with
  | refused ended dispatched taken faulty =>
      rw [Protocol.parse_eq_error_iff.2 ⟨_, _, taken, faulty⟩] at hparse
      cases hparse
  | @well p reception received state lost =>
      subst received
      rw [(reception.drained hidle).1, Except.ok.injEq, Prod.mk.injEq] at hparse
      obtain ⟨x, hx, hagrees⟩ := reception.endpoint
      refine ⟨hparse.1 ▸ reception.dispatched, x, hx, ?_, ?_⟩
      · exact (hagrees.connected lost).1.trans state
      · rw [hagrees.buffer, lost, ← hparse.2]
        rfl

/-- When nothing is left to be done and a frame was refused. -/
theorem Heard.drained_of_parse_error {data : Bytes} {failure : DecodeFailure}
    (h : s.Heard b r g type data) (hidle : s.Idle b r)
    (hparse : g.protocol.parse g.registry data = .error failure) :
    ∃ x, s.endpoint? b = some x ∧ x.state = .disconnected ∧
      x.reason = some .invalidDataReceived ∧ x.buffer = [] := by
  cases h with
  | refused ended dispatched taken faulty => exact ended.buffer hidle
  | @well p reception received state lost =>
      subst received
      rw [(reception.drained hidle).1] at hparse
      cases hparse

/-- Whatever an endpoint is offered and however the worker's steps fall in between, the messages
of it are dispatched in order and each once, whether their handlers succeed, fail or panic.  If all
of it is well-formed, they are all of them as soon as nothing is left to be done, and the buffer
holds the rest; if a frame is refused, they stand in front of it, and the endpoint is disconnected
for it. -/
theorem dispatched_in_order {x : Endpoint} {acts : List Act} (h : s.Listens b r)
    (hx : s.endpoint? b = some x) (hconnected : x.state = .connected)
    (husual : ∀ act ∈ acts, act.Usual r) (houtside : ∀ reason, .disconnect b reason ∉ acts)
    (hrun : s.run? acts = some s') (hcalm : Along (Calm b r) s acts) :
    (∀ later ms rest, (s.engine b).parse (offered b acts ++ later) = .ok (ms, rest) →
        s'.dispatched b <+: ms.map fun m ↦ (m, (s.engine b).registry.handles m x.type)) ∧
      (∀ ms rest, (s.engine b).parse (offered b acts) = .ok (ms, rest) → s'.Idle b r →
        s'.dispatched b = ms.map (fun m ↦ (m, (s.engine b).registry.handles m x.type)) ∧
          ∃ y, s'.endpoint? b = some y ∧ y.state = .connected ∧ y.buffer = rest) ∧
      (∀ later cause, (s.engine b).parse (offered b acts ++ later) = .error (.refused cause) →
        ∃ ms rest,
          (s.engine b).protocol.Takes (s.engine b).registry (offered b acts ++ later) ms rest ∧
          (s.engine b).protocol.front (s.engine b).registry rest = .failed (.refused cause) ∧
          s'.dispatched b <+: ms.map fun m ↦ (m, (s.engine b).registry.handles m x.type)) ∧
      (∀ cause, (s.engine b).parse (offered b acts) = .error (.refused cause) → s'.Idle b r →
        ∃ y, s'.endpoint? b = some y ∧ y.state = .disconnected ∧
          y.reason = some .invalidDataReceived ∧ y.buffer = []) := by
  have hheard : ∀ later, (s.engine b).parse (offered b acts ++ later) ≠ .error .panicked →
      s'.Heard b r (s.engine b) x.type (offered b acts) := by
    intro later hlater
    have hbegin : s.Heard b r (s.engine b) x.type [] := .well (h.reception hx) rfl hconnected rfl
    have hsound : (s.engine b).parse ([] ++ offered b acts) ≠ .error .panicked :=
      fun hpanicked ↦ hlater (Protocol.parse_error_append hpanicked later)
    exact hbegin.run? husual houtside hrun hcalm hsound
  refine ⟨?_, ?_, ?_, ?_⟩
  · intro later ms rest hparse
    have hend := hheard later (by rw [hparse]; simp)
    exact hend.prefix_of_parse_ok hparse
  · intro ms rest hparse hidle
    have hend := hheard [] (by rw [List.append_nil, hparse]; simp)
    exact hend.drained_of_parse_ok hidle hparse
  · intro later cause hparse
    have hend := hheard later (by rw [hparse]; simp)
    exact hend.prefix_of_parse_error hparse
  · intro cause hparse hidle
    have hend := hheard [] (by rw [List.append_nil, hparse]; simp)
    exact hend.drained_of_parse_error hidle hparse

end Node

namespace Specimen

/-- A handler that fails. -/
def failing : Handler := ⟨"failing", ⟨.tcpConnection, ""⟩, fun _ ↦ .done (.failed ["full"])⟩

def sharing : EndpointRef → Endpoint := fun e ↦
  { type := ⟨.tcpConnection, ""⟩, id := .ofNat (e + 1), state := .connected,
    handle := some (.pooled 0 ⟨0, false⟩) }

/-- Two connections that share a queue, which has something else to do first. -/
def crowded : Node where
  engine _ := {
    registry := { types := [reading], handlers := [((reading, .tcpConnection), failing)] }
    protocol := masked }
  endpoints := [sharing 0, sharing 1]
  pools := [{
    name := "shared", ceiling := 2
    queues := [{ name := "shared-0", backlog := [.mark "before" false], load := 2 }] }]

/-- Two frames, cut, while the worker is at something else; and the beginning of a third. -/
def cut : List Act :=
  [.receive 0 [7, 0, 17, 0, 0, 0, 3, 1, 0, 192], .work (.pooled 0 0), .receive 1 [7],
    .receive 0 [127, 2, 0, 0, 0, 1, 1, 0, 0, 0, 97, 0, 95, 7, 0, 10, 0, 0, 0, 3, 0, 0, 0, 0, 0, 0],
    .work (.pooled 0 0), .receive 0 [0, 0, 95, 9, 0, 17], .work (.pooled 0 0), .work (.pooled 0 0),
    .work (.pooled 0 0), .work (.pooled 0 0), .work (.pooled 0 0)]

/-- The third turns out to be of no known type. -/
def spoilt : List Act := cut ++ [.receive 0 [0, 0, 0], .work (.pooled 0 0), .work (.pooled 0 0)]

theorem crowded_listens : crowded.Listens 0 (.pooled 0 0) where
  panic := rfl
  endpoint := ⟨_, rfl, rfl, rfl, _, rfl, rfl⟩
  alone e x i he hx hhandle := by
    intro hqueue
    cases hqueue
  queue := ⟨_, rfl, rfl, by decide +kernel, by decide⟩
  dispatched := rfl

end Specimen

/-- Two messages are dispatched though their handlers fail, and the frame behind them is refused. -/
theorem Node.dispatched_in_order_crowded :
    (∃ s', Specimen.crowded.run? Specimen.cut = some s' ∧ s'.Idle 0 (.pooled 0 0) ∧
        s'.dispatched 0 = [(Specimen.first, true), (Specimen.second, true)] ∧
        ∃ x, s'.endpoint? 0 = some x ∧ x.state = .connected ∧ x.buffer = [9, 0, 17]) ∧
      ∃ s', Specimen.crowded.run? Specimen.spoilt = some s' ∧ s'.Idle 0 (.pooled 0 0) ∧
        ∃ x, s'.endpoint? 0 = some x ∧ x.state = .disconnected ∧
          x.reason = some .invalidDataReceived ∧ x.buffer = [] := by
  constructor
  · have hsome : (Specimen.crowded.run? Specimen.cut).isSome = true := by decide +kernel
    obtain ⟨s', hs'⟩ := Option.isSome_iff_exists.1 hsome
    have hidle : ∀ s ∈ Specimen.crowded.run? Specimen.cut, s.Idle 0 (.pooled 0 0) := by
      decide +kernel
    have hparse : (Specimen.crowded.engine 0).protocol.parse (Specimen.crowded.engine 0).registry
        (offered 0 Specimen.cut) = .ok ([Specimen.first, Specimen.second], [9, 0, 17]) := by
      decide +kernel
    have hdispatched := (dispatched_in_order Specimen.crowded_listens rfl rfl (by decide)
      (by simp [Specimen.cut]) hs' (by decide +kernel)).2.1 _ _ hparse (hidle s' hs')
    exact ⟨s', hs', hidle s' hs', hdispatched⟩
  · have hsome : (Specimen.crowded.run? Specimen.spoilt).isSome = true := by decide +kernel
    obtain ⟨s', hs'⟩ := Option.isSome_iff_exists.1 hsome
    have hidle : ∀ s ∈ Specimen.crowded.run? Specimen.spoilt, s.Idle 0 (.pooled 0 0) := by
      decide +kernel
    have hparse : (Specimen.crowded.engine 0).protocol.parse (Specimen.crowded.engine 0).registry
        (offered 0 Specimen.spoilt) = .error (.refused (.unknownMessageId 9)) := by
      decide +kernel
    have hended := (dispatched_in_order Specimen.crowded_listens rfl rfl (by decide)
      (by simp [Specimen.spoilt, Specimen.cut]) hs' (by decide +kernel)).2.2.2 _ hparse
      (hidle s' hs')
    exact ⟨s', hs', hidle s' hs', hended⟩

end MessageEngine
