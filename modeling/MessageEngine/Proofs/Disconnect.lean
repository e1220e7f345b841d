import MessageEngine.Proofs.Bystander

/-!
# What a disconnect does

An endpoint that is disconnected while its queue is open has its reason at
once, and the reset of its buffer stands behind all that the queue was given
before.  The other endpoints are not touched, whether the queue was its own
or is shared.
-/

namespace MessageEngine

/-- What a disconnect makes of an endpoint, its buffer apart. -/
def Endpoint.terminated (x : Endpoint) (reason : DisconnectReason) : Endpoint :=
  { (x.beginEnd reason).finish with events := x.events ++ [.disconnected reason] }

namespace Node

variable (s : Node) (r : QueueRef)

theorem queue?_server (v : Server) : { s with server := v }.queue? r = s.queue? r := by
  cases r <;> rfl

@[simp] theorem queue?_runHook (reason : DisconnectReason) (hook : Hook) :
    (runHook reason hook s).queue? r = s.queue? r :=
  @runHook_keeps s _ (queue? · r) (fun s _ _ ↦ s.queue?_record r _) (queue?_server · r) reason hook

@[simp] theorem queue?_runHooks (reason : DisconnectReason) (hooks : List Hook) :
    (runHooks reason hooks s).queue? r = s.queue? r :=
  @runHooks_keeps s _ (queue? · r) (fun s _ _ ↦ s.queue?_record r _) (queue?_server · r) reason
    hooks

@[simp] theorem panic_release (h : Handle) : (s.release h).1.panic = s.panic :=
  s.release_keeps panic_modifyQueue h

@[simp] theorem engine_release (h : Handle) : (s.release h).1.engine = s.engine :=
  s.release_keeps engine_modifyQueue h

@[simp] theorem log_release (h : Handle) : (s.release h).1.log = s.log :=
  s.release_keeps log_modifyQueue h

/-- What was handed in stays in the queue of a handle that is given up. -/
theorem queue?_release {q : Queue Job} {h : Handle} (hr : h.queue = r)
    (hq : s.queue? r = some q) :
    ∃ q', (s.release h).1.queue? r = some q' ∧ q'.backlog = q.backlog ∧ q'.name = q.name := by
  rcases s.release_cases h with hsame | ⟨f, hf, hkept⟩
  · rw [hsame]
    exact ⟨q, hq, rfl, rfl⟩
  · refine ⟨f q, ?_, (hkept q).1, (hkept q).2.1⟩
    rw [hf, hr, queue?_modifyQueue_self, hq]
    rfl

/-- An open queue takes the reset behind all that it was given before. -/
theorem detach_of_open {q : Queue Job} {h : Handle} (hr : h.queue = r)
    (hq : s.queue? r = some q) (hopen : q.disposed = false)
    (hname : Queue.nameRefusal? q.name = none) (e : EndpointRef) :
    ∃ s', s.detach e (some h) = s' ∧ s'.endpoints = s.endpoints ∧ s'.engine = s.engine ∧
      s'.log = s.log ∧ s'.panic = s.panic ∧
      ∃ q', s'.queue? r = some q' ∧ q'.backlog = q.backlog ++ [.reset e] ∧ q'.name = q.name := by
  have htaken := s.enqueue_of_open r hq hopen hname (.reset e)
  have hthere : (s.modifyQueue r fun _ ↦
      { q with backlog := q.backlog ++ [.reset e], started := true }).queue? r =
        some { q with backlog := q.backlog ++ [.reset e], started := true } := by
    rw [queue?_modifyQueue_self, hq]
    rfl
  refine ⟨_, rfl, ?_, ?_, ?_, ?_, ?_⟩ <;> rw [detach, hr, htaken]
  · simp
  · simp
  · simp
  · simp
  · exact queue?_release _ r hr hthere

variable {s r}

/-- A disconnect for the given reason, with the reset handed in. -/
structure Ends (b : EndpointRef) (r : QueueRef) (reason : DisconnectReason) (s s' : Node) :
    Prop where
  engine : s'.engine = s.engine
  panic : s'.panic = none
  endpoint : s'.endpoint? b = (s.endpoint? b).map (·.terminated reason)
  others : ∀ e, e ≠ b → s'.endpoint? e = s.endpoint? e
  queue : ∀ q, s.queue? r = some q →
    ∃ q', s'.queue? r = some q' ∧ q'.backlog = q.backlog ++ [.reset b] ∧ q'.name = q.name
  dispatched : s'.dispatched b = s.dispatched b

/-- The endpoint has the queue, which is open and whose worker can be started. -/
structure Attached (b : EndpointRef) (r : QueueRef) (s : Node) : Prop where
  endpoint : ∃ x, s.endpoint? b = some x ∧ x.reason = none ∧ ∃ h, x.handle = some h ∧ h.queue = r
  queue : ∃ q, s.queue? r = some q ∧ q.disposed = false ∧ Queue.nameRefusal? q.name = none

theorem Attached.disconnect {b : EndpointRef} (h : s.Attached b r) (hpanic : s.panic = none)
    (reason : DisconnectReason) :
    (s.disconnect b reason).2 = true ∧ Ends b r reason s (s.disconnect b reason).1 := by
  obtain ⟨x, hx, hreason, handle, hhandle, hr⟩ := h.endpoint
  obtain ⟨q, hq, hopen, hname⟩ := h.queue
  have hqueue : (s.setEndpoint b (x.beginEnd reason)).queue? r = some q :=
    (s.queue?_setEndpoint b r _).trans hq
  obtain ⟨s₁, hdetach, hendpoints, hengine, hlog, hpanic₁, q₁, hq₁, hbacklog, hname₁⟩ :=
    detach_of_open _ r hr hqueue hopen hname b
  have hnone : s₁.panic = none := hpanic₁.trans hpanic
  have hsome : s₁.endpoint? b = some (x.beginEnd reason) := by
    rw [endpoint?, hendpoints]
    exact s.endpoint?_setEndpoint_self b hx _
  have hothers : ∀ e, e ≠ b → s₁.endpoint? e = s.endpoint? e := by
    intro e he
    rw [endpoint?, hendpoints]
    exact s.endpoint?_setEndpoint_of_ne he.symm _
  rw [Node.disconnect_eq, hx]
  simp only [hreason, Option.isSome_none, Bool.false_eq_true, if_false, hhandle, hdetach, hnone,
    true_and]
  generalize hs₂ : s₁.modifyEndpoint b Endpoint.finish = s₂
  have hhooks := Spares.runHooks (b := b) (r := r) reason x.hooks s₂
  have hfinished : ∀ e, (runHooks reason x.hooks s₂).endpoint? e = s₂.endpoint? e := by
    intro e
    rw [endpoint?, endpoints_runHooks]
    rfl
  refine ⟨hhooks.engine.trans ?_, (panic_runHooks s₂ _ _).trans ?_, ?_, ?_, ?_, ?_⟩
  · rw [← hs₂]
    exact hengine
  · rw [← hs₂]
    exact hnone
  · rw [endpoint?_modifyEndpoint_self, hfinished, ← hs₂, endpoint?_modifyEndpoint_self, hsome, hx]
    rfl
  · intro e he
    rw [endpoint?_modifyEndpoint_of_ne _ he.symm, hfinished, ← hs₂,
      endpoint?_modifyEndpoint_of_ne _ he.symm, hothers e he]
  · intro q' hq'
    rw [hq, Option.some.injEq] at hq'
    subst hq'
    refine ⟨q₁, ?_, hbacklog, hname₁⟩
    rw [queue?_modifyEndpoint, queue?_runHooks, ← hs₂, queue?_modifyEndpoint, hq₁]
  · refine hhooks.dispatched.trans ?_
    rw [← hs₂]
    exact congrArg (List.filterMap (Record.dispatch? b)) hlog

end Node

end MessageEngine
