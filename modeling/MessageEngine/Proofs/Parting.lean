import Mathlib
import MessageEngine.Proofs.PoolQueues
import MessageEngine.Proofs.Runs

/-!
# Where endpoints stand, what they hold, and their queues

Whatever a job or a call does for an endpoint, it leaves all queues, all
handles and the stance of every endpoint as they were, unless it disconnects
the endpoint.  Then the endpoint parts with its queue: the reset is handed
in, a queue of its own is disposed and a slot given back.  This comes once,
so any row of such steps comes to one parting at most.
-/

namespace MessageEngine

/-- Where an endpoint stands and what it holds. -/
structure Stance where
  state : Lifecycle
  reason : Option DisconnectReason
  handle : Option Handle
  filling : Bool
  deriving DecidableEq

def Endpoint.stance (x : Endpoint) : Stance := ⟨x.state, x.reason, x.handle, x.outbox.filling⟩

namespace Handle

/-- What a queue becomes when a handle on it is released. -/
def free {α : Type} (h : Handle) (q : Queue α) : Queue α :=
  match h with
  | dedicated _ => q.dispose
  | pooled _ slot => if slot.released then q else q.unassign

/-- What a queue becomes when a handle on it goes out of use. -/
def forget {α : Type} (h : Handle) (q : Queue α) : Queue α :=
  match h with
  | dedicated _ => q
  | pooled _ _ => h.free q

/-- What a queue becomes when an endpoint that is disconnected parts with it. -/
def part (h : Handle) (e : EndpointRef) (q : Queue Job) : Queue Job :=
  if q.panic?.isSome then h.forget q else h.free (q.enqueue (.reset e)).1

end Handle

/-- What any queue becomes when an endpoint with the handle is disconnected. -/
def partFrom (h : Option Handle) (e : EndpointRef) (r : QueueRef) (q : Queue Job) : Queue Job :=
  match h with
  | none => q
  | some h => if h.queue = r then h.part e q else q

namespace Node

variable {s s' s'' : Node} {e : EndpointRef}

/-! ## What leaves stances and queues as they are -/

structure Leaves (s s' : Node) : Prop where
  stances : ∀ d, (s'.endpoint? d).map Endpoint.stance = (s.endpoint? d).map Endpoint.stance
  queues : ∀ r, s'.queue? r = s.queue? r

namespace Leaves

theorem refl (s : Node) : Leaves s s := ⟨fun _ ↦ rfl, fun _ ↦ rfl⟩

theorem trans (h : Leaves s s') (h' : Leaves s' s'') : Leaves s s'' :=
  ⟨fun d ↦ (h'.stances d).trans (h.stances d), fun r ↦ (h'.queues r).trans (h.queues r)⟩

theorem panic (s : Node) (text : Option String) : Leaves s { s with panic := text } :=
  ⟨fun _ ↦ rfl, fun r ↦ by cases r <;> rfl⟩

theorem record (s : Node) (x : Record) : Leaves s (s.record x) :=
  ⟨fun _ ↦ rfl, fun r ↦ s.queue?_record r x⟩

theorem trace (s : Node) (t : Trace) : Leaves s (s.trace t) := record s _

theorem modifyEndpoint {f : Endpoint → Endpoint} (hf : ∀ x, (f x).stance = x.stance) :
    Leaves s (s.modifyEndpoint e f) := by
  refine ⟨fun d ↦ ?_, fun r ↦ s.queue?_modifyEndpoint e r f⟩
  rw [endpoint?_modifyEndpoint]
  split
  · cases s.endpoint? d <;> simp [hf]
  · rfl

theorem setEndpoint {x y : Endpoint} (hx : s.endpoint? e = some x) (hy : y.stance = x.stance) :
    Leaves s (s.setEndpoint e y) := by
  refine ⟨fun d ↦ ?_, fun r ↦ s.queue?_setEndpoint e r y⟩
  by_cases hd : e = d
  · subst hd
    simp [s.endpoint?_setEndpoint_self e hx, hx, hy]
  · rw [s.endpoint?_setEndpoint_of_ne hd]

theorem contain (s : Node) : Leaves s s.contain := by
  rw [Node.contain]
  split
  · exact (panic s none).trans (trace _ _)
  · exact refl s

theorem runHooks (reason : DisconnectReason) (hooks : List Hook) (s : Node) :
    Leaves s (Node.runHooks reason hooks s) := by
  refine ⟨fun d ↦ ?_, fun r ↦ s.queue?_runHooks r reason hooks⟩
  rw [endpoint?, endpoints_runHooks]
  rfl

theorem onDisconnect (s : Node) (e : EndpointRef) (hook : Hook) :
    Leaves s (s.onDisconnect e hook) := by
  rw [Node.onDisconnect_eq]
  split
  · exact refl s
  · next x hx =>
    split
    · exact runHooks _ [hook] s
    · exact setEndpoint hx rfl

end Leaves

end Node

theorem Endpoint.stance_of_put {x y : Endpoint} {frame : Bytes} (h : x.put frame = .ok y) :
    y.stance = x.stance := by
  rw [put] at h
  split at h
  · split at h
    · next o ho =>
      cases h
      rw [Outbox.put] at ho
      split at ho
      · cases ho
      · split at ho
        · cases ho
        · cases ho
          rfl
    · cases h
  · cases h

namespace Node

variable {s s' s'' : Node} {e : EndpointRef}

namespace Leaves

theorem sendBytes (s : Node) (e : EndpointRef) (data : Bytes) :
    Leaves s (s.sendBytes e data).1 := by
  rw [Node.sendBytes]
  split
  · exact refl s
  · next x hx =>
    split
    · next y hy => exact setEndpoint hx (Endpoint.stance_of_put hy)
    · exact refl s

theorem serializeFor (s : Node) (e : EndpointRef) (m : Message) :
    Leaves s (s.serializeFor e m).1 := by
  rw [Node.serializeFor]
  split
  · exact refl s
  · next x hx => exact setEndpoint hx rfl

theorem send (s : Node) (e : EndpointRef) (m : Message) : Leaves s (s.send e m).1 := by
  have hframe := serializeFor s e m
  rw [Node.send]
  split
  · split
    · next s₁ data heq =>
      rw [heq] at hframe
      exact hframe.trans (sendBytes s₁ e data)
    · next s₁ cause heq =>
      rw [heq] at hframe
      exact hframe
  · exact refl s

theorem setGroup (s : Node) (key : String) (g : Group) : Leaves s (s.setGroup key g) :=
  ⟨fun _ ↦ rfl, fun r ↦ by cases r <;> rfl⟩

theorem sendToAll (s : Node) (data : Bytes) (es : List EndpointRef) :
    Leaves s (s.sendToAll data es).1 := by
  induction es generalizing s with
  | nil => exact refl s
  | cons e rest ih => exact (sendBytes s e data).trans (ih _)

theorem broadcastMessage (s : Node) (key : String) (g : Group) (m : Message) :
    Leaves s (s.broadcastMessage key g m).1 := by
  rw [Node.broadcastMessage]
  split
  · exact refl s
  · next first _ _ =>
    have hframe := serializeFor s first m
    split
    · next s₁ cause heq =>
      rw [heq] at hframe
      exact hframe
    · next s₁ data heq =>
      rw [heq] at hframe
      exact (hframe.trans (setGroup s₁ key _)).trans (sendToAll _ data _)

end Leaves

/-! ## What a disconnect does to the queues -/

/-- The panic that parting with a queue comes to. -/
def hindrance? (s : Node) (h : Option Handle) : Option String :=
  h.bind fun h ↦ (s.queue? h.queue).bind Queue.panic?

theorem hindrance?_congr (h : ∀ r, s'.queue? r = s.queue? r) (handle : Option Handle) :
    s'.hindrance? handle = s.hindrance? handle := by
  cases handle with
  | none => rfl
  | some handle => exact congrArg (·.bind Queue.panic?) (h handle.queue)

theorem queue?_release_eq (s : Node) (h : Handle) (r : QueueRef) :
    (s.release h).1.queue? r =
      if h.queue = r then (s.queue? r).map h.free else s.queue? r := by
  cases h with
  | dedicated i => exact s.queue?_modifyQueue (.dedicated i) r Queue.dispose
  | pooled p slot =>
      have hid : ∀ f : Queue Job → Queue Job, (∀ q, f q = q) →
          (if Handle.queue (.pooled p slot) = r then (s.queue? r).map f else s.queue? r) =
            s.queue? r := by
        intro f hf
        have hf : f = id := funext hf
        simp [hf]
      rw [release]
      split
      · next hpool =>
        split
        · next hr =>
          subst hr
          simp [Handle.queue, queue?, hpool]
        · rfl
      · next pool hpool =>
        dsimp only
        rw [Pool.release_eq]
        cases hreleased : slot.released with
        | true =>
            rw [if_pos rfl, s.modifyPool_const hpool fun pool ↦ pool, modifyPool_id]
            exact (hid _ fun q ↦ by simp [Handle.free, hreleased]).symm
        | false =>
            rw [if_neg Bool.false_ne_true,
              s.modifyPool_const hpool (·.modifyQueue slot.queue Queue.unassign)]
            have hfree : (Handle.pooled p slot).free = (Queue.unassign : Queue Job → _) := by
              funext q
              simp [Handle.free, hreleased]
            rw [hfree]
            exact s.queue?_modifyQueue (.pooled p slot.queue) r Queue.unassign

theorem queue?_drop (s : Node) (h : Handle) (r : QueueRef) :
    (s.drop h).queue? r = if h.queue = r then (s.queue? r).map h.forget else s.queue? r := by
  cases h with
  | dedicated i =>
      have hforget : (Handle.dedicated i).forget = (id : Queue Job → _) := rfl
      simp [drop, hforget]
  | pooled p slot => exact s.queue?_release_eq (.pooled p slot) r

@[simp] theorem panic_drop (s : Node) (h : Handle) : (s.drop h).panic = s.panic := by
  rcases s.drop_cases h with hsame | ⟨hrelease, -⟩
  · rw [hsame]
  · rw [hrelease, panic_release]

theorem enqueue_of_panic? {r : QueueRef} {q : Queue Job} {text : String}
    (hq : s.queue? r = some q) (htext : q.panic? = some text) (j : Job) :
    s.enqueue r j = ({ s with panic := some text }, false) := by
  rw [enqueue, hq]
  simp only [htext]

theorem enqueue_of_queue? {r : QueueRef} {q : Queue Job} (hq : s.queue? r = some q)
    (hnone : q.panic? = none) (j : Job) :
    s.enqueue r j = (s.modifyQueue r fun _ ↦ (q.enqueue j).1, (q.enqueue j).2) := by
  rw [enqueue, hq]
  simp only [hnone]

theorem modifyQueue_of_queue? {r : QueueRef} {q : Queue Job} (hq : s.queue? r = some q)
    {f : Queue Job → Queue Job} (hf : f q = q) : s.modifyQueue r f = s := by
  cases r with
  | dedicated i =>
      have hqueues : s.queues.modify i f = s.queues := by
        refine modify_of_getElem? fun q' hq' ↦ ?_
        cases hq.symm.trans hq'
        exact hf
      rw [modifyQueue, hqueues]
  | pooled p i =>
      rw [queue?] at hq
      have hpools : s.pools.modify p (·.modifyQueue i f) = s.pools := by
        refine modify_of_getElem? fun pool hpool ↦ ?_
        rw [hpool] at hq
        have hqueues : pool.queues.modify i f = pool.queues := by
          refine modify_of_getElem? fun q' hq' ↦ ?_
          cases hq.symm.trans hq'
          exact hf
        rw [Pool.modifyQueue, hqueues]
      rw [modifyQueue, modifyPool, hpools]

/-- What is made of the queue of a handle alone is told from what it makes of that queue. -/
theorem map_partFrom {h : Handle} {f : Queue Job → Queue Job}
    (hf : ∀ q, s.queue? h.queue = some q → f q = h.part e q) (r : QueueRef) :
    (if h.queue = r then (s.queue? r).map f else s.queue? r) =
      (s.queue? r).map (partFrom (some h) e r) := by
  by_cases hr : h.queue = r
  · subst hr
    cases hq : s.queue? h.queue <;> simp [partFrom, hf, hq]
  · cases s.queue? r <;> simp [partFrom, hr]

/-- An endpoint parts with its queue, and that may come to a panic. -/
theorem detach_eq (hpanic : s.panic = none) (e : EndpointRef) (h : Option Handle) :
    (∀ r, (s.detach e h).queue? r = (s.queue? r).map (partFrom h e r)) ∧
      (s.detach e h).panic = s.hindrance? h := by
  cases h with
  | none =>
      have hid : ∀ r, partFrom none e r = id := fun _ ↦ rfl
      exact ⟨fun r ↦ by simp [detach, clearBuffer, hid], hpanic⟩
  | some h =>
      -- The reset is refused where the queue is not there, panics at a name that no thread can
      -- have, and else is taken unless the queue was disposed.
      cases hq : s.queue? h.queue with
      | none =>
          have hdetach : s.detach e (some h) = ((s.clearBuffer e).release h).1 := by
            simp only [detach, enqueue, hq, hpanic, Option.isSome_none, Bool.false_eq_true,
              if_false]
          rw [hdetach, panic_release, hindrance?, Option.bind_some, hq]
          refine ⟨fun r ↦ ?_, hpanic⟩
          rw [queue?_release_eq, clearBuffer, queue?_modifyEndpoint]
          exact map_partFrom (fun q hq' ↦ by simp [hq] at hq') r
      | some q =>
          rw [hindrance?, Option.bind_some, hq, Option.bind_some]
          cases htext : q.panic? with
          | some text =>
              have hdetach : s.detach e (some h) =
                  ({ s with panic := some text } : Node).drop h := by
                simp only [detach, enqueue_of_panic? hq htext, Option.isSome_some, if_true]
              rw [hdetach, panic_drop]
              refine ⟨fun r ↦ ?_, rfl⟩
              rw [queue?_drop, (Leaves.panic s (some text)).queues]
              refine map_partFrom (fun q' hq' ↦ ?_) r
              cases hq.symm.trans hq'
              rw [Handle.part, htext]
              rfl
          | none =>
              have hpart : ∀ q', s.queue? h.queue = some q' →
                  h.free (q'.enqueue (.reset e)).1 = h.part e q' := by
                intro q' hq'
                cases hq.symm.trans hq'
                rw [Handle.part, htext]
                rfl
              have htaken := enqueue_of_queue? hq htext (.reset e)
              generalize hs₁ : (s.modifyQueue h.queue fun _ ↦ (q.enqueue (.reset e)).1) = s₁
                at htaken
              have hnone : s₁.panic = none := by
                rw [← hs₁, panic_modifyQueue]
                exact hpanic
              have hqueues : ∀ r, (if h.queue = r then (s₁.queue? r).map h.free else s₁.queue? r) =
                  (s.queue? r).map (partFrom (some h) e r) := by
                intro r
                rw [← map_partFrom hpart r, ← hs₁, queue?_modifyQueue]
                split
                · next hr =>
                  subst hr
                  rw [hq]
                  rfl
                · rfl
              cases htook : (q.enqueue (.reset e)).2 with
              | true =>
                  have hdetach : s.detach e (some h) = (s₁.release h).1 := by
                    simp only [detach, htaken, htook]
                  rw [hdetach, panic_release]
                  exact ⟨fun r ↦ (s₁.queue?_release_eq h r).trans (hqueues r), hnone⟩
              | false =>
                  have hdetach : s.detach e (some h) = ((s₁.clearBuffer e).release h).1 := by
                    simp only [detach, htaken, htook, hnone, Option.isSome_none,
                      Bool.false_eq_true, if_false]
                  rw [hdetach, panic_release]
                  refine ⟨fun r ↦ ?_, hnone⟩
                  rw [queue?_release_eq, clearBuffer, queue?_modifyEndpoint]
                  exact hqueues r

/-! ## Partings -/

/-- An endpoint is disconnected and parts with what it held. -/
structure Parts (e : EndpointRef) (h : Option Handle) (s s' : Node) : Prop where
  before : ∃ x, s.endpoint? e = some x ∧ x.reason = none ∧ x.handle = h
  after : ∃ reason, (s'.endpoint? e).map Endpoint.stance = some
    ⟨if (s.hindrance? h).isSome then .disconnecting else .disconnected, some reason, none, false⟩
  others : ∀ d, d ≠ e → (s'.endpoint? d).map Endpoint.stance = (s.endpoint? d).map Endpoint.stance
  queues : ∀ r, s'.queue? r = (s.queue? r).map (partFrom h e r)

/-- An endpoint is disconnected, or all is left as it was. -/
def Passes (e : EndpointRef) (s s' : Node) : Prop := Leaves s s' ∨ ∃ h, Parts e h s s'

theorem endpoint?_of_stance {d : EndpointRef} {x : Endpoint} {t : Stance}
    (h : (s'.endpoint? d).map Endpoint.stance = some t) (hx : x.stance = t) :
    ∃ x', s'.endpoint? d = some x' ∧ x'.state = x.state ∧ x'.reason = x.reason ∧
      x'.handle = x.handle ∧ x'.outbox.filling = x.outbox.filling := by
  obtain ⟨x', hx', hstance⟩ := Option.map_eq_some_iff.1 h
  rw [← hx, Endpoint.stance, Endpoint.stance, Stance.mk.injEq] at hstance
  exact ⟨x', hx', hstance⟩

theorem Leaves.endpoint (h : Leaves s s') {d : EndpointRef} {x : Endpoint}
    (hx : s.endpoint? d = some x) :
    ∃ x', s'.endpoint? d = some x' ∧ x'.state = x.state ∧ x'.reason = x.reason ∧
      x'.handle = x.handle ∧ x'.outbox.filling = x.outbox.filling :=
  endpoint?_of_stance ((h.stances d).trans (congrArg (Option.map Endpoint.stance) hx)) rfl

theorem Leaves.symm (h : Leaves s s') : Leaves s' s :=
  ⟨fun d ↦ (h.stances d).symm, fun r ↦ (h.queues r).symm⟩

theorem Leaves.reason? (h : Leaves s s') (d : EndpointRef) : s'.reason? d = s.reason? d := by
  have hsame := congrArg (Option.bind · Stance.reason) (h.stances d)
  simp only [Option.bind_map] at hsame
  exact hsame

namespace Parts

variable {h : Option Handle}

theorem after_leaves (hparts : Parts e h s' s'') (hleaves : Leaves s s') : Parts e h s s'' where
  before := by
    obtain ⟨x', hx', hreason, hhandle⟩ := hparts.before
    obtain ⟨x, hx, -, hreason', hhandle', -⟩ := hleaves.symm.endpoint hx'
    exact ⟨x, hx, hreason'.trans hreason, hhandle'.trans hhandle⟩
  after := hindrance?_congr hleaves.queues h ▸ hparts.after
  others d hd := (hparts.others d hd).trans (hleaves.stances d)
  queues r := (hparts.queues r).trans (congrArg (Option.map _) (hleaves.queues r))

theorem leaves (hparts : Parts e h s s') (hleaves : Leaves s' s'') : Parts e h s s'' where
  before := hparts.before
  after := by
    obtain ⟨reason, hafter⟩ := hparts.after
    exact ⟨reason, (hleaves.stances e).trans hafter⟩
  others d hd := (hleaves.stances d).trans (hparts.others d hd)
  queues r := (hleaves.queues r).trans (hparts.queues r)

theorem once {h' : Option Handle} (hparts : Parts e h s s') : ¬ Parts e h' s' s'' := by
  rintro hagain
  obtain ⟨x', hx', hreason, -⟩ := hagain.before
  obtain ⟨reason, hafter⟩ := hparts.after
  rw [hx', Option.map_some, Option.some.injEq] at hafter
  cases hreason.symm.trans (congrArg Stance.reason hafter)

theorem disconnect (hpanic : s.panic = none) {x : Endpoint} (hx : s.endpoint? e = some x)
    (hreason : x.reason = none) (reason : DisconnectReason) :
    Parts e x.handle s (s.disconnect e reason).1 := by
  have hbegin := s.endpoint?_setEndpoint_self e hx (x.beginEnd reason)
  have hqueue : ∀ r, (s.setEndpoint e (x.beginEnd reason)).queue? r = s.queue? r := fun r ↦
    s.queue?_setEndpoint e r _
  have hhindrance := hindrance?_congr hqueue x.handle
  obtain ⟨hqueues, htext⟩ :=
    detach_eq (s := s.setEndpoint e (x.beginEnd reason)) hpanic e x.handle
  have hstance : (((s.setEndpoint e (x.beginEnd reason)).detach e x.handle).endpoint? e).map
      Endpoint.stance = some (x.beginEnd reason).stance := by
    rcases (s.setEndpoint e (x.beginEnd reason)).endpoints_detach e x.handle with h | h
    · rw [endpoint?, h]
      exact congrArg (Option.map Endpoint.stance) hbegin
    · rw [endpoint?, h]
      show (((s.setEndpoint e (x.beginEnd reason)).clearBuffer e).endpoint? e).map _ = _
      rw [clearBuffer, endpoint?_modifyEndpoint_self, hbegin]
      rfl
  refine ⟨⟨x, hx, hreason, rfl⟩, ⟨reason, ?_⟩, fun d hd ↦ ?_, fun r ↦ ?_⟩
  · rw [Node.disconnect_eq, hx]
    simp only [hreason, Option.isSome_none, Bool.false_eq_true, if_false]
    rw [hhindrance] at htext
    rw [← htext]
    generalize (s.setEndpoint e (x.beginEnd reason)).detach e x.handle = s₁ at hstance
    split
    · exact hstance
    · rw [endpoint?_modifyEndpoint_self, endpoint?, endpoints_runHooks]
      show (((s₁.modifyEndpoint e Endpoint.finish).endpoint? e).map _).map _ = _
      rw [endpoint?_modifyEndpoint_self]
      obtain ⟨x₁, hx₁, hsame⟩ := Option.map_eq_some_iff.1 hstance
      rw [hx₁]
      have hrest := hsame
      simp only [Endpoint.stance, Stance.mk.injEq, Endpoint.beginEnd, Outbox.finish] at hrest
      simp [Endpoint.stance, Endpoint.finish, hrest]
  · rw [s.endpoint?_disconnect_of_ne hd.symm]
  · rw [Node.disconnect_eq, hx]
    simp only [hreason, Option.isSome_none, Bool.false_eq_true, if_false]
    rw [← hqueue r, ← hqueues r]
    split
    · rfl
    · rw [queue?_modifyEndpoint, queue?_runHooks, queue?_modifyEndpoint]

end Parts

/-- Whether a disconnect comes to its end is a matter of parting with the queue. -/
theorem disconnect_answer (hpanic : s.panic = none) {x : Endpoint} (hx : s.endpoint? e = some x)
    (hreason : x.reason = none) (reason : DisconnectReason) :
    (s.disconnect e reason).2 = (s.hindrance? x.handle).isNone ∧
      (s.disconnect e reason).1.panic = s.hindrance? x.handle := by
  have hhindrance :=
    hindrance?_congr (fun r ↦ s.queue?_setEndpoint e r (x.beginEnd reason)) x.handle
  obtain ⟨-, htext⟩ :=
    detach_eq (s := s.setEndpoint e (x.beginEnd reason)) hpanic e x.handle
  rw [hhindrance] at htext
  rw [Node.disconnect_eq, hx]
  simp only [hreason, Option.isSome_none, Bool.false_eq_true, if_false]
  generalize (s.setEndpoint e (x.beginEnd reason)).detach e x.handle = s₁ at htext
  rw [← htext]
  split
  · next hsome =>
    obtain ⟨text, hsome⟩ := Option.isSome_iff_exists.1 hsome
    exact ⟨by rw [hsome]; rfl, rfl⟩
  · next hnone =>
    rw [Option.not_isSome_iff_eq_none] at hnone
    refine ⟨by rw [hnone]; rfl, ?_⟩
    exact (panic_runHooks (s₁.modifyEndpoint e Endpoint.finish) reason x.hooks)

namespace Passes

theorem refl (e : EndpointRef) (s : Node) : Passes e s s := .inl (.refl s)

theorem trans (h : Passes e s s') (h' : Passes e s' s'') : Passes e s s'' := by
  rcases h with hleaves | ⟨handle, hparts⟩
  · rcases h' with hleaves' | ⟨handle', hparts'⟩
    · exact .inl (hleaves.trans hleaves')
    · exact .inr ⟨handle', hparts'.after_leaves hleaves⟩
  · rcases h' with hleaves' | ⟨handle', hparts'⟩
    · exact .inr ⟨handle, hparts.leaves hleaves'⟩
    · exact absurd hparts' hparts.once

theorem disconnect (hpanic : s.panic = none) (e : EndpointRef) (reason : DisconnectReason) :
    Passes e s (s.disconnect e reason).1 := by
  cases hx : s.endpoint? e with
  | none =>
      rw [Node.disconnect_eq, hx]
      exact refl e s
  | some x =>
      cases hreason : x.reason with
      | none => exact .inr ⟨_, .disconnect hpanic hx hreason reason⟩
      | some first =>
          rw [s.disconnect_of_reason e hx (congrArg Option.isSome hreason)]
          exact refl e s

theorem perform (react : Reaction) (hpanic : s.panic = none) :
    Passes e s (Node.perform e react s).1 := by
  induction react generalizing s with
  | done outcome => exact refl e s
  | note note next ih => exact trans (.inl (.record s _)) (ih hpanic)
  | send m next ih =>
      exact trans (.inl (.send s e m)) (ih _ ((Sends.send s e m).panic.trans hpanic))
  | disconnect reason next ih =>
      have hend := disconnect hpanic e reason
      rw [Node.perform]
      dsimp only
      split
      · exact hend.trans (.inl (.panic _ none))
      · next hnone => exact hend.trans (ih _ hnone)
  | onDisconnect hook next ih =>
      exact trans (.inl (.onDisconnect s e hook)) (ih ((s.panic_onDisconnect e hook).trans hpanic))
  | broadcast key m next ih =>
      rw [Node.perform]
      split
      · exact ih _ hpanic
      · next g _ =>
        exact trans (.inl (.broadcastMessage s key g m))
          (ih _ ((Sends.broadcastMessage s key g m).panic.trans hpanic))

theorem dispatch (hpanic : s.panic = none) (e : EndpointRef) (type : EndpointType) (m : Message) :
    Passes e s (s.dispatch e type m) := by
  have hrecord : Passes e s (s.record (.dispatched e m ((s.engine e).registry.handles m type))) :=
    .inl (.record s _)
  apply dispatch_keeps s e type m hrecord
  · exact fun h _ ↦ hrecord.trans (perform (h.react m) hpanic)
  · exact fun s₁ t hhandler ↦ hhandler.trans (.inl (.trace s₁ t))

theorem parseReceived (hpanic : s.panic = none) (e : EndpointRef) :
    Passes e s (s.parseReceived e).1 := by
  apply parseReceived_keeps s e (refl e s) (fun t ↦ .inl (.trace s t))
  · intro cause
    have htrace : Passes e s (s.trace (.invalidData cause)) := .inl (.trace s _)
    refine (htrace.trans (disconnect ?_ e _)).trans (.inl (.contain _))
    exact hpanic
  · exact fun x buffer hx ↦ .inl (.setEndpoint hx rfl)

theorem handleMessage (hpanic : s.panic = none) (e : EndpointRef) (m : Message) :
    Passes e s (s.handleMessage e m).1 := by
  have hcounted : ∀ x rate, s.endpoint? e = some x →
      Passes e s (s.setEndpoint e { x with rate := rate }) :=
    fun x rate hx ↦ .inl (.setEndpoint hx rfl)
  apply handleMessage_keeps s e m (refl e s) hcounted
  · intro x rate ceiling hx
    have htrace : Passes e s
        ((s.setEndpoint e { x with rate := rate }).trace (.rateExceeded ceiling)) :=
      (hcounted x rate hx).trans (.inl (.trace _ _))
    refine (htrace.trans (disconnect ?_ e _)).trans (.inl (.contain _))
    exact hpanic
  · intro x rate hx
    apply (hcounted x rate hx).trans (dispatch _ e _ m)
    exact hpanic

end Passes

end Node

/-! ## What a step of a job does -/

/-- The endpoint that a job is done for, if it is done for one. -/
def Job.subject : Job → EndpointRef
  | .parse e | .handle e _ | .reset e => e
  | .hold _ | .mark _ _ => 0

namespace Node

variable {s s' s'' : Node} {e : EndpointRef}

/-- What a step of a job does, the queue that it stands in apart. -/
def effect (s : Node) : Job → Node
  | .hold _ | .handle _ [] => s
  | .mark label panics =>
    let s := s.record (.mark label)
    if panics then s.trace .actionPanicked else s
  | .reset e => s.clearBuffer e
  | .parse e => (s.parseReceived e).1
  | .handle e (m :: _) => (s.handleMessage e m).1

/-- The messages that a step of a job leaves to be handled. -/
def remaining (s : Node) : Job → List Message
  | .parse e => (s.parseReceived e).2
  | .handle e (m :: rest) => if (s.handleMessage e m).2 then rest else []
  | .hold _ | .handle _ [] | .mark _ _ | .reset _ => []

theorem execute_eq (s : Node) (r : QueueRef) (j : Job) :
    s.execute r j = (s.effect j).proceed r j.subject (s.remaining j) := by
  cases j with
  | hold clear => rfl
  | mark label panics => rfl
  | reset e => rfl
  | parse e => rfl
  | handle e messages =>
      cases messages with
      | nil => rfl
      | cons m rest =>
          rw [execute, effect, remaining, Job.subject]
          split
          · next s₁ heq => rw [heq, if_pos rfl]
          · next s₁ heq => rw [heq, if_neg Bool.false_ne_true]

theorem panic_effect (hpanic : s.panic = none) (j : Job) : (s.effect j).panic = none := by
  cases j with
  | hold clear => exact hpanic
  | mark label panics => cases panics <;> exact hpanic
  | reset e => exact hpanic
  | parse e => exact s.panic_parseReceived e hpanic
  | handle e messages =>
      cases messages with
      | nil => exact hpanic
      | cons m rest => exact s.panic_handleMessage e m hpanic

theorem Passes.effect (hpanic : s.panic = none) (j : Job) :
    Passes j.subject s (s.effect j) := by
  cases j with
  | hold clear => exact refl 0 s
  | mark label panics =>
      cases panics with
      | false => exact .inl (.record s _)
      | true => exact .inl ((Leaves.record s _).trans (.trace _ _))
  | reset e => exact .inl (.modifyEndpoint fun _ ↦ rfl)
  | parse e => exact parseReceived hpanic e
  | handle e messages =>
      cases messages with
      | nil => exact refl e s
      | cons m rest => exact handleMessage hpanic e m

end Node

end MessageEngine
