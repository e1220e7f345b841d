import MessageEngine.Node.Worker

/-!
# What is found in a node after a change

An endpoint is found as it was unless it is the one that was changed, and so
is a queue, whether it belongs to an endpoint or to a pool.
-/

namespace MessageEngine

namespace Node

variable (s : Node) (e d : EndpointRef) (r t : QueueRef)

/-! ## Endpoints -/

theorem endpoint?_modifyEndpoint (f : Endpoint → Endpoint) :
    (s.modifyEndpoint e f).endpoint? d =
      if e = d then (s.endpoint? d).map f else s.endpoint? d := by
  rw [endpoint?, endpoint?, modifyEndpoint, List.getElem?_modify]
  by_cases h : e = d
  · simp only [if_pos h]
    rfl
  · simp only [if_neg h, id_map']

theorem endpoint?_modifyEndpoint_self (f : Endpoint → Endpoint) :
    (s.modifyEndpoint e f).endpoint? e = (s.endpoint? e).map f := by
  rw [endpoint?_modifyEndpoint, if_pos rfl]

theorem endpoint?_modifyEndpoint_of_ne {e d : EndpointRef} (h : e ≠ d) (f : Endpoint → Endpoint) :
    (s.modifyEndpoint e f).endpoint? d = s.endpoint? d := by
  rw [endpoint?_modifyEndpoint, if_neg h]

@[simp] theorem queue?_modifyEndpoint (f : Endpoint → Endpoint) :
    (s.modifyEndpoint e f).queue? r = s.queue? r := by
  cases r <;> rfl

@[simp] theorem queue?_setEndpoint (x : Endpoint) : (s.setEndpoint e x).queue? r = s.queue? r :=
  s.queue?_modifyEndpoint e r _

/-- The endpoint that is put back is found again. -/
theorem endpoint?_setEndpoint_self {x : Endpoint} (hx : s.endpoint? e = some x) (y : Endpoint) :
    (s.setEndpoint e y).endpoint? e = some y := by
  rw [setEndpoint, endpoint?_modifyEndpoint_self, hx]
  rfl

theorem endpoint?_setEndpoint_of_ne {e d : EndpointRef} (h : e ≠ d) (y : Endpoint) :
    (s.setEndpoint e y).endpoint? d = s.endpoint? d :=
  s.endpoint?_modifyEndpoint_of_ne h _

/-- An endpoint that is there may be changed by what is known of it. -/
theorem modifyEndpoint_of_endpoint? {x : Endpoint} (hx : s.endpoint? e = some x)
    (f : Endpoint → Endpoint) : s.modifyEndpoint e f = s.setEndpoint e (f x) := by
  have hsame : s.endpoints.modify e f = s.endpoints.modify e fun _ ↦ f x := by
    refine List.ext_getElem? fun i ↦ ?_
    rw [List.getElem?_modify, List.getElem?_modify]
    by_cases hi : e = i
    · subst hi
      rw [endpoint?] at hx
      simp [hx]
    · simp [hi]
  rw [setEndpoint, modifyEndpoint, modifyEndpoint, hsame]

theorem modifyEndpoint_of_none (hx : s.endpoint? e = none) (f : Endpoint → Endpoint) :
    s.modifyEndpoint e f = s := by
  have hsame : s.endpoints.modify e f = s.endpoints := by
    refine List.ext_getElem? fun i ↦ ?_
    rw [List.getElem?_modify]
    by_cases hi : e = i
    · subst hi
      rw [endpoint?] at hx
      simp [hx]
    · simp [hi]
  rw [modifyEndpoint, hsame]

theorem setEndpoint_self {x : Endpoint} (hx : s.endpoint? e = some x) :
    s.setEndpoint e x = s := by
  have hsame : s.endpoints.modify e id = s.endpoints := List.modify_id e s.endpoints
  have hmodify : s.modifyEndpoint e id = s.setEndpoint e x := s.modifyEndpoint_of_endpoint? e hx id
  rw [← hmodify, modifyEndpoint, hsame]

/-! ## Queues -/

@[simp] theorem queue?_record (x : Record) : (s.record x).queue? r = s.queue? r := by
  cases r <;> rfl

theorem queue?_modifyQueue (f : Queue Job → Queue Job) :
    (s.modifyQueue r f).queue? t = if r = t then (s.queue? t).map f else s.queue? t := by
  cases r with
  | dedicated i =>
      cases t with
      | dedicated j =>
          simp only [queue?, modifyQueue, List.getElem?_modify, QueueRef.dedicated.injEq]
          cases s.queues[j]? with
          | none => simp
          | some q =>
              split
              · rfl
              · rfl
      | pooled p j => rfl
  | pooled p i =>
      cases t with
      | dedicated j => rfl
      | pooled p' j =>
          simp only [queue?, modifyQueue, modifyPool, List.getElem?_modify,
            QueueRef.pooled.injEq]
          cases s.pools[p']? with
          | none => simp
          | some pool =>
              by_cases hp : p = p'
              · simp only [hp, if_true, Option.map_eq_map, Option.map_some, true_and,
                  Pool.modifyQueue, List.getElem?_modify]
                cases pool.queues[j]? with
                | none => simp
                | some q =>
                    split
                    · rfl
                    · rfl
              · simp [hp]

theorem queue?_modifyQueue_self (f : Queue Job → Queue Job) :
    (s.modifyQueue r f).queue? r = (s.queue? r).map f := by
  rw [queue?_modifyQueue, if_pos rfl]

@[simp] theorem endpoints_modifyQueue (f : Queue Job → Queue Job) :
    (s.modifyQueue r f).endpoints = s.endpoints := by
  cases r <;> rfl

@[simp] theorem engine_modifyQueue (f : Queue Job → Queue Job) :
    (s.modifyQueue r f).engine = s.engine := by
  cases r <;> rfl

@[simp] theorem log_modifyQueue (f : Queue Job → Queue Job) :
    (s.modifyQueue r f).log = s.log := by
  cases r <;> rfl

@[simp] theorem panic_modifyQueue (f : Queue Job → Queue Job) :
    (s.modifyQueue r f).panic = s.panic := by
  cases r <;> rfl

@[simp] theorem endpoint?_modifyQueue (f : Queue Job → Queue Job) :
    (s.modifyQueue r f).endpoint? d = s.endpoint? d := by
  rw [endpoint?, endpoints_modifyQueue]
  rfl

/-! ## Handing in jobs and giving up handles -/

/-- Handing in a job changes the queue that takes it, or comes to a panic, or nothing. -/
theorem enqueue_cases (j : Job) :
    (s.enqueue r j).1 = s ∨ (∃ text, (s.enqueue r j).1 = { s with panic := some text }) ∨
      ∃ q, s.queue? r = some q ∧ q.panic? = none ∧
        (s.enqueue r j).1 = s.modifyQueue r fun _ ↦ (q.enqueue j).1 := by
  rw [enqueue]
  split
  · exact .inl rfl
  · next q hq =>
    split
    · next text _ => exact .inr (.inl ⟨text, rfl⟩)
    · next hpanic => exact .inr (.inr ⟨q, hq, hpanic, rfl⟩)

/-- A queue that is open and whose worker can be started takes the job. -/
theorem enqueue_of_open {q : Queue Job} (hq : s.queue? r = some q) (hopen : q.disposed = false)
    (hname : Queue.nameRefusal? q.name = none) (j : Job) :
    s.enqueue r j =
      (s.modifyQueue r fun _ ↦ { q with backlog := q.backlog ++ [j], started := true }, true) := by
  have hpanic : q.panic? = none := by
    rw [Queue.panic?, hname]
    split <;> rfl
  rw [enqueue, hq]
  simp only [hpanic, Queue.enqueue, hopen, Bool.false_eq_true, if_false]

/-- A pool that is there may be changed by what is known of it. -/
theorem modifyPool_const {p : Nat} {pool : Pool Job} (hpool : s.pools[p]? = some pool)
    (f : Pool Job → Pool Job) : s.modifyPool p (fun _ ↦ f pool) = s.modifyPool p f := by
  have hsame : s.pools.modify p (fun _ ↦ f pool) = s.pools.modify p f := by
    refine List.ext_getElem? fun i ↦ ?_
    rw [List.getElem?_modify, List.getElem?_modify]
    by_cases hi : p = i
    · subst hi
      simp [hpool]
    · simp [hi]
  rw [modifyPool, modifyPool, hsame]

@[simp] theorem modifyPool_id (p : Nat) : s.modifyPool p (fun pool ↦ pool) = s := by
  have hsame : s.pools.modify p (fun pool ↦ pool) = s.pools := List.modify_id p s.pools
  rw [modifyPool, hsame]

/-- Giving up a handle touches its queue alone, and leaves there what was handed in.  Only a
queue of one's own is disposed. -/
theorem release_cases (h : Handle) :
    (s.release h).1 = s ∨ ∃ f : Queue Job → Queue Job,
      (s.release h).1 = s.modifyQueue h.queue f ∧
        ∀ q, (f q).backlog = q.backlog ∧ (f q).name = q.name ∧
          ((f q).disposed = q.disposed ∨ ∃ i, h = .dedicated i) := by
  cases h with
  | dedicated i => exact .inr ⟨Queue.dispose, rfl, fun q ↦ ⟨rfl, rfl, .inr ⟨i, rfl⟩⟩⟩
  | pooled p slot =>
      cases hpool : s.pools[p]? with
      | none => exact .inl (by simp only [release, hpool])
      | some pool =>
          have hrelease : (s.release (.pooled p slot)).1 =
              s.modifyPool p fun _ ↦ (pool.release slot).1 := by
            simp only [release, hpool]
          by_cases hslot : slot.released = true
          · refine .inl ?_
            rw [hrelease, Pool.release, if_pos hslot, s.modifyPool_const hpool fun pool ↦ pool,
              modifyPool_id]
          · refine .inr ⟨Queue.unassign, ?_, fun q ↦ ⟨rfl, rfl, .inl rfl⟩⟩
            rw [hrelease, Pool.release, if_neg hslot]
            exact s.modifyPool_const hpool (·.modifyQueue slot.queue Queue.unassign)

/-- Only a slot is given up by going out of use. -/
theorem drop_cases (h : Handle) :
    s.drop h = s ∨ s.drop h = (s.release h).1 ∧ ∀ i, h ≠ .dedicated i := by
  cases h with
  | dedicated i => exact .inl rfl
  | pooled p slot => exact .inr ⟨rfl, fun i h ↦ by cases h⟩

/-! ## What hooks come to -/

/-- What a hook comes to that is run for a reason, after the end of its endpoint: disconnecting
again is nothing then, and a hook that is registered is run at once. -/
def runHook (reason : DisconnectReason) : Hook → Node → Node
  | .done, s => s
  | .note label next, s => runHook reason next (s.record (.hook label reason))
  | .untrack id next, s => runHook reason next { s with server := s.server.strike id reason }
  | .disconnect _ next, s => runHook reason next s
  | .register hook next, s => runHook reason next (runHook reason hook s)

def runHooks (reason : DisconnectReason) (hooks : List Hook) (s : Node) : Node :=
  hooks.foldl (fun s hook ↦ runHook reason hook s) s

section Keeps

variable {α : Type} {part : Node → α}

/-- What no queue and no panic is part of is kept when a job is handed in. -/
theorem enqueue_keeps (hqueue : ∀ s r f, part (modifyQueue s r f) = part s)
    (hpanic : ∀ (s : Node) text, part { s with panic := text } = part s) (j : Job) :
    part (s.enqueue r j).1 = part s := by
  rcases s.enqueue_cases r j with h | ⟨text, h⟩ | ⟨q, -, -, h⟩
  · rw [h]
  · rw [h, hpanic]
  · rw [h, hqueue]

theorem release_keeps (hqueue : ∀ s r f, part (modifyQueue s r f) = part s) (h : Handle) :
    part (s.release h).1 = part s := by
  rcases s.release_cases h with hsame | ⟨f, hf, -⟩
  · rw [hsame]
  · rw [hf, hqueue]

theorem drop_keeps (hqueue : ∀ s r f, part (modifyQueue s r f) = part s) (h : Handle) :
    part (s.drop h) = part s := by
  rcases s.drop_cases h with hsame | ⟨hrelease, -⟩
  · rw [hsame]
  · rw [hrelease, release_keeps s hqueue]

/-- What no endpoint is part of either is kept when one lets go of its queue. -/
theorem detach_keeps (hqueue : ∀ s r f, part (modifyQueue s r f) = part s)
    (hpanic : ∀ (s : Node) text, part { s with panic := text } = part s)
    (hendpoint : ∀ s e f, part (modifyEndpoint s e f) = part s) (h : Option Handle) :
    part (s.detach e h) = part s := by
  cases h with
  | none => exact hendpoint s e _
  | some h =>
      have htaken := s.enqueue_keeps h.queue hqueue hpanic (.reset e)
      rw [detach]
      split
      · next s₁ heq =>
        rw [heq] at htaken
        exact (s₁.release_keeps hqueue h).trans htaken
      · next s₁ heq =>
        rw [heq] at htaken
        split
        · exact (s₁.drop_keeps hqueue h).trans htaken
        · exact (release_keeps _ hqueue h).trans ((hendpoint s₁ e _).trans htaken)

/-- A hook only leaves notes, and strikes connections off the server's book. -/
theorem runHook_keeps
    (hnote : ∀ (s : Node) label reason, part (s.record (.hook label reason)) = part s)
    (hserver : ∀ (s : Node) v, part { s with server := v } = part s) (reason : DisconnectReason)
    (hook : Hook) : part (runHook reason hook s) = part s := by
  induction hook generalizing s with
  | done => rfl
  | note label next ih => exact (ih _).trans (hnote s label reason)
  | untrack id next ih => exact (ih _).trans (hserver s _)
  | disconnect _ next ih => exact ih s
  | register hook next ihhook ihnext => exact (ihnext _).trans (ihhook s)

theorem runHooks_keeps
    (hnote : ∀ (s : Node) label reason, part (s.record (.hook label reason)) = part s)
    (hserver : ∀ (s : Node) v, part { s with server := v } = part s) (reason : DisconnectReason)
    (hooks : List Hook) : part (runHooks reason hooks s) = part s := by
  induction hooks generalizing s with
  | nil => rfl
  | cons hook rest ih => exact (ih _).trans (s.runHook_keeps hnote hserver reason hook)

end Keeps

@[simp] theorem endpoints_enqueue (j : Job) : (s.enqueue r j).1.endpoints = s.endpoints :=
  s.enqueue_keeps r endpoints_modifyQueue (fun _ _ ↦ rfl) j

@[simp] theorem endpoints_release (h : Handle) : (s.release h).1.endpoints = s.endpoints :=
  s.release_keeps endpoints_modifyQueue h

@[simp] theorem endpoints_drop (h : Handle) : (s.drop h).endpoints = s.endpoints :=
  s.drop_keeps endpoints_modifyQueue h

/-- An endpoint that lets go of its queue may lose what it received, and nothing else. -/
theorem endpoints_detach (h : Option Handle) :
    (s.detach e h).endpoints = s.endpoints ∨
      (s.detach e h).endpoints = (s.clearBuffer e).endpoints := by
  cases h with
  | none => exact .inr rfl
  | some h =>
      have htaken := s.endpoints_enqueue h.queue (.reset e)
      rw [detach]
      split
      · next s₁ heq =>
        rw [heq] at htaken
        exact .inl ((s₁.endpoints_release h).trans htaken)
      · next s₁ heq =>
        rw [heq] at htaken
        split
        · exact .inl ((s₁.endpoints_drop h).trans htaken)
        · refine .inr ?_
          rw [endpoints_release]
          exact congrArg (List.modify · e _) htaken

@[simp] theorem endpoints_runHook (reason : DisconnectReason) (hook : Hook) :
    (runHook reason hook s).endpoints = s.endpoints :=
  s.runHook_keeps (fun _ _ _ ↦ rfl) (fun _ _ ↦ rfl) reason hook

@[simp] theorem endpoints_runHooks (reason : DisconnectReason) (hooks : List Hook) :
    (runHooks reason hooks s).endpoints = s.endpoints :=
  s.runHooks_keeps (fun _ _ _ ↦ rfl) (fun _ _ ↦ rfl) reason hooks

section Ended

variable {s e} {x : Endpoint} {reason : DisconnectReason} (hreason : x.reason = some reason)
include hreason

/-- Nobody disconnects twice, whatever hooks would be run. -/
theorem disconnectBy_of_reason (hx : s.endpoint? e = some x)
    (run : DisconnectReason → Hook → Node → Node) (again : DisconnectReason) :
    s.disconnectBy run e again = (s, false) := by
  rw [disconnectBy, hx]
  simp only [hreason, Option.isSome_some, if_true]

/-- A hook that comes after the end is run at once. -/
theorem onDisconnectBy_of_ended (hx : s.endpoint? e = some x) (hended : x.ended = true)
    (run : DisconnectReason → Node → Node) (hook : Hook) :
    s.onDisconnectBy run e hook = run reason s := by
  rw [onDisconnectBy, hx]
  simp only [hended, hreason]

/-- A hook that disconnects makes the call that everybody makes. -/
theorem callHook_disconnect (hx : s.endpoint? e = some x) (again : DisconnectReason) (next : Hook) :
    callHook e reason (.disconnect again next) s =
      callHook e reason next (s.disconnect e again).1 := by
  rw [callHook, disconnect, disconnectBy_of_reason hreason hx, disconnectBy_of_reason hreason hx]

/-- When a hook is run the endpoint has ended, so a disconnect in it does nothing and a hook that it
registers is run at once. -/
theorem callHook_eq_runHook (hx : s.endpoint? e = some x) (hended : x.ended = true) (hook : Hook) :
    callHook e reason hook s = runHook reason hook s := by
  induction hook generalizing s with
  | done => rfl
  | note label next ih => exact ih hx
  | untrack id next ih => exact ih hx
  | disconnect again next ih =>
      rw [callHook, disconnectBy_of_reason hreason hx, runHook]
      exact ih hx
  | register hook next ihhook ihnext =>
      have hsame : (runHook reason hook s).endpoint? e = some x := by
        rw [endpoint?, endpoints_runHook]
        exact hx
      rw [callHook, onDisconnectBy_of_ended hreason hx hended, ihhook hx, runHook]
      exact ihnext hsame

theorem callHooks_eq_runHooks (hx : s.endpoint? e = some x) (hended : x.ended = true)
    (hooks : List Hook) :
    hooks.foldl (fun s hook ↦ callHook e reason hook s) s = runHooks reason hooks s := by
  induction hooks generalizing s with
  | nil => rfl
  | cons hook rest ih =>
      have hsame : (runHook reason hook s).endpoint? e = some x := by
        rw [endpoint?, endpoints_runHook]
        exact hx
      rw [List.foldl_cons, callHook_eq_runHook hreason hx hended, ih hsame]
      rfl

end Ended

/-- The endpoint that lets go of its queue at its end has its reason, no frame is put in its outbox
any more, and those that wait are kept. -/
theorem endpoint?_detach_beginEnd {x : Endpoint} (hx : s.endpoint? e = some x)
    (reason : DisconnectReason) (h : Option Handle) :
    ∃ x', ((s.setEndpoint e (x.beginEnd reason)).detach e h).endpoint? e = some x' ∧
      x'.reason = some reason ∧ x'.outbox = x.outbox.finish ∧ x'.rate = x.rate := by
  have hbegin := s.endpoint?_setEndpoint_self e hx (x.beginEnd reason)
  rcases (s.setEndpoint e (x.beginEnd reason)).endpoints_detach e h with h | h
  · refine ⟨x.beginEnd reason, ?_, rfl, rfl, rfl⟩
    rw [endpoint?, h]
    exact hbegin
  · refine ⟨{ x.beginEnd reason with buffer := [] }, ?_, rfl, rfl, rfl⟩
    rw [endpoint?, h]
    show ((s.setEndpoint e (x.beginEnd reason)).clearBuffer e).endpoint? e = _
    rw [clearBuffer, endpoint?_modifyEndpoint_self, hbegin]
    rfl

theorem onDisconnect_eq (hook : Hook) : s.onDisconnect e hook =
    match s.endpoint? e with
    | none => s
    | some x =>
      match x.ended, x.reason with
      | true, some reason => runHook reason hook s
      | _, _ => s.setEndpoint e { x with hooks := x.hooks ++ [hook] } := by
  rw [onDisconnect, onDisconnectBy]
  cases hx : s.endpoint? e with
  | none => rfl
  | some x =>
      cases hended : x.ended with
      | false => simp only [hended]
      | true =>
          cases hreason : x.reason with
          | none => simp only [hended, hreason]
          | some reason =>
              simp only [hended, hreason]
              exact callHook_eq_runHook hreason hx hended hook

theorem disconnect_eq (reason : DisconnectReason) : s.disconnect e reason =
    match s.endpoint? e with
    | none => (s, false)
    | some x =>
      if x.reason.isSome then (s, false)
      else
        let s := (s.setEndpoint e (x.beginEnd reason)).detach e x.handle
        if s.panic.isSome then (s, false)
        else
          let s := runHooks reason x.hooks (s.modifyEndpoint e Endpoint.finish)
          (s.modifyEndpoint e fun x ↦ { x with events := x.events ++ [.disconnected reason] },
            true) := by
  rw [disconnect, disconnectBy]
  cases hx : s.endpoint? e with
  | none => rfl
  | some x =>
      obtain ⟨x₁, hx₁, hreason, -⟩ := s.endpoint?_detach_beginEnd e hx reason x.handle
      have hfinish : (((s.setEndpoint e (x.beginEnd reason)).detach e x.handle).modifyEndpoint e
          Endpoint.finish).endpoint? e = some x₁.finish := by
        rw [endpoint?_modifyEndpoint_self, hx₁]
        rfl
      dsimp only
      rw [callHooks_eq_runHooks (x := x₁.finish) hreason hfinish rfl]

section Keeps

variable {α : Type} {part : Node → α}

/-- What is kept through all parts of a disconnect is kept. -/
theorem disconnect_keeps (hqueue : ∀ s r f, part (modifyQueue s r f) = part s)
    (hpanic : ∀ (s : Node) text, part { s with panic := text } = part s)
    (hendpoint : ∀ s e f, part (modifyEndpoint s e f) = part s)
    (hnote : ∀ (s : Node) label reason, part (s.record (.hook label reason)) = part s)
    (hserver : ∀ (s : Node) v, part { s with server := v } = part s) (reason : DisconnectReason) :
    part (s.disconnect e reason).1 = part s := by
  rw [disconnect_eq]
  split
  · rfl
  · next x _ =>
    split
    · rfl
    · have hdetach := (s.setEndpoint e (x.beginEnd reason)).detach_keeps e hqueue hpanic hendpoint
        x.handle
      generalize (s.setEndpoint e (x.beginEnd reason)).detach e x.handle = s₁ at hdetach ⊢
      dsimp only
      split
      · exact hdetach.trans (hendpoint s e _)
      · refine (hendpoint _ e _).trans ((runHooks_keeps _ hnote hserver reason x.hooks).trans ?_)
        exact (hendpoint s₁ e _).trans (hdetach.trans (hendpoint s e _))

end Keeps

/-- What a disconnect leaves of the endpoint: it has its reason, no frame is put in its outbox any
more, and those that wait are kept. -/
theorem endpoint?_disconnect {x : Endpoint} (hx : s.endpoint? e = some x)
    (hreason : x.reason = none) (reason : DisconnectReason) :
    ∃ x', (s.disconnect e reason).1.endpoint? e = some x' ∧ x'.reason = some reason ∧
      x'.outbox = x.outbox.finish ∧ x'.rate = x.rate := by
  obtain ⟨x₁, hx₁, hsame₁⟩ := s.endpoint?_detach_beginEnd e hx reason x.handle
  rw [disconnect_eq, hx]
  simp only [hreason, Option.isSome_none, Bool.false_eq_true, if_false]
  generalize (s.setEndpoint e (x.beginEnd reason)).detach e x.handle = s₁ at hx₁ ⊢
  split
  · exact ⟨x₁, hx₁, hsame₁⟩
  · refine ⟨{ x₁.finish with events := x₁.finish.events ++ [.disconnected reason] }, ?_, hsame₁⟩
    rw [endpoint?_modifyEndpoint_self, endpoint?, endpoints_runHooks]
    show Option.map _ ((s₁.modifyEndpoint e Endpoint.finish).endpoint? e) = _
    rw [endpoint?_modifyEndpoint_self, hx₁]
    rfl

theorem endpoint?_detach_of_ne {e d : EndpointRef} (he : e ≠ d) (h : Option Handle) :
    (s.detach e h).endpoint? d = s.endpoint? d := by
  rcases s.endpoints_detach e h with hsame | hsame
  · rw [endpoint?, hsame]
    rfl
  · rw [endpoint?, hsame]
    exact s.endpoint?_modifyEndpoint_of_ne he _

theorem endpoint?_disconnect_of_ne {e d : EndpointRef} (he : e ≠ d) (reason : DisconnectReason) :
    (s.disconnect e reason).1.endpoint? d = s.endpoint? d := by
  rw [disconnect_eq]
  split
  · rfl
  · next x _ =>
    split
    · rfl
    · have hdetach : ((s.setEndpoint e (x.beginEnd reason)).detach e x.handle).endpoint? d =
          s.endpoint? d := by
        rw [endpoint?_detach_of_ne _ he, endpoint?_setEndpoint_of_ne s he]
      generalize (s.setEndpoint e (x.beginEnd reason)).detach e x.handle = s₁ at hdetach ⊢
      dsimp only
      split
      · exact hdetach
      · rw [endpoint?_modifyEndpoint_of_ne _ he, endpoint?, endpoints_runHooks]
        show (s₁.modifyEndpoint e Endpoint.finish).endpoint? d = _
        rw [endpoint?_modifyEndpoint_of_ne _ he, hdetach]

/-- A disconnect comes once. -/
theorem disconnect_of_reason {x : Endpoint} (hx : s.endpoint? e = some x)
    (hreason : x.reason.isSome = true) (reason : DisconnectReason) :
    s.disconnect e reason = (s, false) := by
  obtain ⟨first, hfirst⟩ := Option.isSome_iff_exists.1 hreason
  exact disconnectBy_of_reason hfirst hx _ reason

theorem rate_disconnect {x : Endpoint} (hx : s.endpoint? e = some x) (reason : DisconnectReason) :
    ∃ x', (s.disconnect e reason).1.endpoint? e = some x' ∧ x'.rate = x.rate := by
  cases hreason : x.reason with
  | none =>
      obtain ⟨x', hx', -, -, hrate⟩ := s.endpoint?_disconnect e hx hreason reason
      exact ⟨x', hx', hrate⟩
  | some first =>
      rw [s.disconnect_of_reason e hx (congrArg Option.isSome hreason)]
      exact ⟨x, hx, rfl⟩

/-! ## Sending -/

end Node

/-- What an endpoint is apart from what it sends. -/
def Endpoint.unsent (x : Endpoint) : Endpoint := { x with outbox := {}, frames := 0 }

namespace Node

/-- Nothing has changed but what endpoints send, and who belongs to the groups. -/
structure Sends (s s' : Node) : Prop where
  engine : s'.engine = s.engine
  server : s'.server = s.server
  pools : s'.pools = s.pools
  endpoints : ∀ d, (s'.endpoint? d).map Endpoint.unsent = (s.endpoint? d).map Endpoint.unsent
  queues : ∀ r, s'.queue? r = s.queue? r
  log : s'.log = s.log
  panic : s'.panic = s.panic

namespace Sends

variable {s s' s'' : Node}

theorem refl (s : Node) : Sends s s := ⟨rfl, rfl, rfl, fun _ ↦ rfl, fun _ ↦ rfl, rfl, rfl⟩

theorem trans (h : Sends s s') (h' : Sends s' s'') : Sends s s'' where
  engine := h'.engine.trans h.engine
  server := h'.server.trans h.server
  pools := h'.pools.trans h.pools
  endpoints d := (h'.endpoints d).trans (h.endpoints d)
  queues r := (h'.queues r).trans (h.queues r)
  log := h'.log.trans h.log
  panic := h'.panic.trans h.panic

theorem setEndpoint {e : EndpointRef} {x y : Endpoint} (hx : s.endpoint? e = some x)
    (hy : y.unsent = x.unsent) : Sends s (s.setEndpoint e y) where
  engine := rfl
  server := rfl
  pools := rfl
  endpoints d := by
    by_cases hd : e = d
    · subst hd
      rw [s.endpoint?_setEndpoint_self e hx, hx, Option.map_some, Option.map_some, hy]
    · rw [s.endpoint?_setEndpoint_of_ne hd]
  queues r := s.queue?_setEndpoint e r y
  log := rfl
  panic := rfl

theorem setGroup (s : Node) (key : String) (g : Group) : Sends s (s.setGroup key g) :=
  ⟨rfl, rfl, rfl, fun _ ↦ rfl, fun r ↦ by cases r <;> rfl, rfl, rfl⟩

theorem sendBytes (s : Node) (e : EndpointRef) (data : Bytes) : Sends s (s.sendBytes e data).1 := by
  rw [Node.sendBytes]
  split
  · exact refl s
  · next x hx =>
    split
    · next y hy =>
      rw [Endpoint.put] at hy
      split at hy
      · split at hy
        · cases hy
          exact setEndpoint hx rfl
        · cases hy
      · cases hy
    · exact refl s

theorem serializeFor (s : Node) (e : EndpointRef) (m : Message) :
    Sends s (s.serializeFor e m).1 := by
  rw [Node.serializeFor]
  split
  · exact refl s
  · next x hx => exact setEndpoint hx rfl

theorem send (s : Node) (e : EndpointRef) (m : Message) : Sends s (s.send e m).1 := by
  have hframe := serializeFor s e m
  rw [Node.send]
  split
  · split
    · next s₁ data heq =>
      rw [heq] at hframe
      exact hframe.trans (sendBytes s₁ e data)
    · next s₁ cause heq =>
      rw [heq] at hframe
      exact hframe
  · exact refl s

theorem sendToAll (s : Node) (data : Bytes) (es : List EndpointRef) :
    Sends s (s.sendToAll data es).1 := by
  induction es generalizing s with
  | nil => exact refl s
  | cons e rest ih => exact (sendBytes s e data).trans (ih _)

theorem broadcastMessage (s : Node) (key : String) (g : Group) (m : Message) :
    Sends s (s.broadcastMessage key g m).1 := by
  rw [Node.broadcastMessage]
  split
  · exact refl s
  · next first _ _ =>
    have hframe := serializeFor s first m
    split
    · next s₁ cause heq =>
      rw [heq] at hframe
      exact hframe
    · next s₁ data heq =>
      rw [heq] at hframe
      exact (hframe.trans (setGroup s₁ key _)).trans (sendToAll _ data _)

end Sends

/-! ## Panics -/

variable (s : Node) (e : EndpointRef)

@[simp] theorem panic_runHook (reason : DisconnectReason) (hook : Hook) :
    (runHook reason hook s).panic = s.panic :=
  s.runHook_keeps (fun _ _ _ ↦ rfl) (fun _ _ ↦ rfl) reason hook

@[simp] theorem panic_runHooks (reason : DisconnectReason) (hooks : List Hook) :
    (runHooks reason hooks s).panic = s.panic :=
  s.runHooks_keeps (fun _ _ _ ↦ rfl) (fun _ _ ↦ rfl) reason hooks

@[simp] theorem panic_onDisconnect (hook : Hook) : (s.onDisconnect e hook).panic = s.panic := by
  rw [onDisconnect_eq]
  split
  · rfl
  · split
    · exact s.panic_runHook _ hook
    · rfl

/-- A handler contains the panics of its disconnects. -/
theorem panic_perform (react : Reaction) (h : s.panic = none) :
    (perform e react s).1.panic = none := by
  induction react generalizing s with
  | done outcome => exact h
  | note note next ih => exact ih _ h
  | send m next ih => exact ih _ _ ((Sends.send s e m).panic.trans h)
  | disconnect reason next ih =>
      rw [perform]
      dsimp only
      split
      · rfl
      · next hnone => exact ih _ _ hnone
  | onDisconnect hook next ih => exact ih _ ((s.panic_onDisconnect e hook).trans h)
  | broadcast key m next ih =>
      rw [perform]
      split
      · exact ih _ _ h
      · next g _ => exact ih _ _ ((Sends.broadcastMessage s key g m).panic.trans h)

@[simp] theorem endpoints_contain : s.contain.endpoints = s.endpoints := by
  rw [contain]
  split <;> rfl

theorem panic_contain : s.contain.panic = none := by
  rw [contain]
  split
  · rfl
  · assumption

end Node

end MessageEngine
