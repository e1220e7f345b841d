import Mathlib
import MessageEngine.Proofs.PoolQueues
import MessageEngine.Proofs.Runs
import MessageEngine.Proofs.ServerBook

/-!
# What a server has to know of endpoints

Of all that happens to endpoints it matters to a server which of them are
disconnected, what their hooks strike off its book, and which queues they
are given.  Calls, handlers and workers change nothing of that but by a
disconnect, and a first disconnect strikes off what the hooks of the
endpoint say.  So a property that survives a disconnect survives every act.
-/

namespace MessageEngine

/-- The numbers that a hook strikes off the book, in order. -/
def Hook.strikes : Hook → List UInt64
  | done => []
  | note _ next => next.strikes
  | untrack id next => id :: next.strikes
  | disconnect _ next => next.strikes
  | register hook next => hook.strikes ++ next.strikes

/-- The hooks that a handler registers strike nothing off the book. -/
def Reaction.Fair : Reaction → Prop
  | done _ => True
  | note _ next => next.Fair
  | send _ next => ∀ answer, (next answer).Fair
  | disconnect _ next => ∀ first, (next first).Fair
  | onDisconnect hook next => hook.strikes = [] ∧ next.Fair
  | broadcast _ _ next => ∀ answer, (next answer).Fair

/-- No handler strikes anything off the book. -/
def Registry.Fair (r : Registry) : Prop :=
  ∀ key h, r.handler? key = some h → ∀ m, (h.react m).Fair

theorem Registry.Fair.react {r : Registry} (hfair : r.Fair) {m : Message}
    {receiver : EndpointType} {h : Handler} (hselect : r.select m receiver = .handler h) :
    (h.react m).Fair := by
  rw [Registry.select] at hselect
  split at hselect
  · cases hselect
  · next h' hfound =>
    split at hselect
    · cases hselect
      exact hfair _ _ hfound m
    · cases hselect

/-- Where an endpoint stands whose end has begun. -/
def Lifecycle.halt? (s : Lifecycle) : Option Lifecycle := if s.isActive then none else some s

/-- What a server has to know of an endpoint. -/
structure Guest where
  id : UInt64
  reason : Option DisconnectReason
  ended : Bool
  halt : Option Lifecycle
  /-- The numbers that are struck off the book when it is disconnected. -/
  strikes : List UInt64
  handle : Option Handle
  deriving DecidableEq

def Endpoint.guest (x : Endpoint) : Guest :=
  ⟨x.id, x.reason, x.ended, x.state.halt?, x.hooks.flatMap Hook.strikes, x.handle⟩

namespace Guest

def depart (g : Guest) (reason : DisconnectReason) : Guest :=
  { g with
    reason := some reason, ended := true, halt := some .disconnected, strikes := [],
    handle := none }

/-- The end has begun, and got stuck. -/
def stick (g : Guest) (reason : DisconnectReason) : Guest :=
  { g with reason := some reason, halt := some .disconnecting, handle := none }

end Guest

namespace Node

def guest? (s : Node) (e : EndpointRef) : Option Guest := (s.endpoint? e).map Endpoint.guest

def faces (s : Node) : List (String × List (String × Bool)) := s.pools.map Pool.face

/-- Of the engines, a server's book, its guests and the pools nothing has changed that matters. -/
structure Still (s s' : Node) : Prop where
  engine : s'.engine = s.engine
  server : s'.server = s.server
  guests : ∀ e, s'.guest? e = s.guest? e
  faces : s'.faces = s.faces

variable {s s' s'' : Node} {e d : EndpointRef}

namespace Still

theorem refl (s : Node) : Still s s := ⟨rfl, rfl, fun _ ↦ rfl, rfl⟩

theorem trans (h : Still s s') (h' : Still s' s'') : Still s s'' where
  engine := h'.engine.trans h.engine
  server := h'.server.trans h.server
  guests e := (h'.guests e).trans (h.guests e)
  faces := h'.faces.trans h.faces

theorem panic (s : Node) (panic : Option String) : Still s { s with panic := panic } :=
  ⟨rfl, rfl, fun _ ↦ rfl, rfl⟩

theorem record (s : Node) (x : Record) : Still s (s.record x) := ⟨rfl, rfl, fun _ ↦ rfl, rfl⟩

theorem trace (s : Node) (t : Trace) : Still s (s.trace t) := record s (.trace t)

theorem modifyEndpoint {f : Endpoint → Endpoint}
    (hf : ∀ x, s.endpoint? e = some x → (f x).guest = x.guest) :
    Still s (s.modifyEndpoint e f) where
  engine := rfl
  server := rfl
  guests d := by
    rw [guest?, guest?, endpoint?_modifyEndpoint]
    split
    · next he =>
      subst he
      cases hx : s.endpoint? e with
      | none => rfl
      | some x => exact congrArg some (hf x hx)
    · rfl
  faces := rfl

theorem setEndpoint {x y : Endpoint} (hx : s.endpoint? e = some x) (hy : y.guest = x.guest) :
    Still s (s.setEndpoint e y) := by
  refine modifyEndpoint fun x' hx' ↦ ?_
  rw [hx, Option.some.injEq] at hx'
  exact hx' ▸ hy

theorem modifyQueue {r : QueueRef} {f : Queue Job → Queue Job}
    (hf : ∀ q, s.queue? r = some q →
      (f q).name = q.name ∧ ((f q).disposed = q.disposed ∨ ∃ i, r = .dedicated i)) :
    Still s (s.modifyQueue r f) where
  engine := s.engine_modifyQueue r f
  server := by cases r <;> rfl
  guests e := congrArg (Option.map Endpoint.guest) (s.endpoint?_modifyQueue e r f)
  faces := by
    cases r with
    | dedicated i => rfl
    | pooled p i =>
        refine List.ext_getElem? fun k ↦ ?_
        simp only [Node.faces, Node.modifyQueue, modifyPool, List.getElem?_map,
          List.getElem?_modify]
        cases hpool : s.pools[k]? with
        | none => rfl
        | some pool =>
            by_cases hp : p = k
            · subst hp
              have hface : (pool.modifyQueue i f).face = pool.face := by
                refine pool.face_modifyQueue i fun q hq ↦ ?_
                have hfound : s.queue? (.pooled p i) = some q := by
                  simp only [queue?, hpool, hq]
                obtain ⟨hname, hopen | ⟨_, hnot⟩⟩ := hf q hfound
                · exact ⟨hname, hopen⟩
                · cases hnot
              simp [hface]
            · simp [hp]

theorem advance (s : Node) (r : QueueRef) : Still s (s.modifyQueue r Queue.advance) :=
  modifyQueue fun _ _ ↦ ⟨rfl, .inl rfl⟩

theorem enqueue (s : Node) (r : QueueRef) (j : Job) : Still s (s.enqueue r j).1 := by
  rcases s.enqueue_cases r j with h | ⟨text, h⟩ | ⟨q, hq, -, h⟩
  · rw [h]
    exact refl s
  · rw [h]
    exact panic s (some text)
  · rw [h]
    refine modifyQueue fun q' hq' ↦ ?_
    rw [hq, Option.some.injEq] at hq'
    subst hq'
    rw [Queue.enqueue]
    split <;> exact ⟨rfl, .inl rfl⟩

theorem release (s : Node) (h : Handle) : Still s (s.release h).1 := by
  rcases s.release_cases h with hsame | ⟨f, hf, hkept⟩
  · rw [hsame]
    exact refl s
  · rw [hf]
    refine modifyQueue fun q _ ↦ ⟨(hkept q).2.1, (hkept q).2.2.imp_right ?_⟩
    rintro ⟨i, rfl⟩
    exact ⟨i, rfl⟩

theorem drop (s : Node) (h : Handle) : Still s (s.drop h) := by
  rcases s.drop_cases h with hsame | ⟨hrelease, -⟩
  · rw [hsame]
    exact refl s
  · rw [hrelease]
    exact release s h

theorem clearBuffer (s : Node) (e : EndpointRef) : Still s (s.clearBuffer e) :=
  modifyEndpoint fun _ _ ↦ rfl

theorem detach (s : Node) (e : EndpointRef) (h : Option Handle) : Still s (s.detach e h) := by
  cases h with
  | none => exact clearBuffer s e
  | some h =>
      have htaken := enqueue s h.queue (.reset e)
      rw [Node.detach]
      split
      · next s₁ heq =>
        rw [heq] at htaken
        exact htaken.trans (release s₁ h)
      · next s₁ heq =>
        rw [heq] at htaken
        split
        · exact htaken.trans (drop s₁ h)
        · exact (htaken.trans (clearBuffer s₁ e)).trans (release _ h)

theorem sends (h : Sends s s') : Still s s' where
  engine := h.engine
  server := h.server
  guests e := by
    have hsame := congrArg (Option.map Endpoint.guest) (h.endpoints e)
    rw [Option.map_map, Option.map_map] at hsame
    exact hsame
  faces := congrArg (List.map Pool.face) h.pools

theorem contain (s : Node) : Still s s.contain := by
  rw [Node.contain]
  split
  · exact (panic s none).trans (trace _ _)
  · exact refl s

theorem receive (s : Node) (e : EndpointRef) (data : Bytes) : Still s (s.receive e data) := by
  rw [Node.receive]
  split
  · exact refl s
  · next x hx =>
    split
    · have hset : Still s (s.setEndpoint e { x with buffer := x.buffer ++ data }) :=
        setEndpoint hx rfl
      dsimp only
      split
      · exact hset.trans (enqueue _ _ _)
      · exact hset
    · exact refl s

theorem proceed (s : Node) (r : QueueRef) (e : EndpointRef) (messages : List Message) :
    Still s (s.proceed r e messages) := by
  rw [Node.proceed.eq_def]
  split
  · exact advance s r
  · exact modifyQueue fun _ _ ↦ ⟨rfl, .inl rfl⟩

theorem beginConnect (s : Node) (e : EndpointRef) : Still s (s.beginConnect e).1 := by
  rw [Node.beginConnect]
  split
  · exact refl s
  · next x hx =>
    split
    · next y hy =>
      refine setEndpoint hx ?_
      rw [Endpoint.beginConnect] at hy
      split at hy
      · next hstate =>
        cases hy
        simp [Endpoint.guest, hstate, Lifecycle.halt?, Lifecycle.isActive]
      · cases hy
      · cases hy
      · cases hy
      · cases hy
    · exact refl s

theorem abortConnect (s : Node) (e : EndpointRef) : Still s (s.abortConnect e) := by
  refine modifyEndpoint fun x _ ↦ ?_
  rw [Endpoint.abortConnect]
  split
  · next hstate => simp [Endpoint.guest, hstate, Lifecycle.halt?, Lifecycle.isActive]
  · rfl

theorem markConnected (s : Node) (e : EndpointRef) : Still s (s.markConnected e).1 := by
  rw [Node.markConnected]
  split
  · exact refl s
  · next x hx =>
    refine setEndpoint hx ?_
    rw [Endpoint.markConnected]
    split
    · next hactive =>
      have hhalt : x.state.halt? = none := if_pos hactive
      rw [Endpoint.guest, Endpoint.guest, hhalt]
      rfl
    · rfl

end Still

/-! ## Hooks -/

theorem server_runHook (s : Node) (reason : DisconnectReason) (hook : Hook) :
    (runHook reason hook s).server = s.server.strikeAll hook.strikes reason := by
  induction hook generalizing s with
  | done => rfl
  | note label next ih => exact ih _
  | untrack id next ih => exact ih _
  | disconnect _ next ih => exact ih s
  | register hook next ihhook ihnext =>
      rw [runHook, ihnext, ihhook, Hook.strikes, Server.strikeAll_append]

theorem server_runHooks (s : Node) (reason : DisconnectReason) (hooks : List Hook) :
    (runHooks reason hooks s).server =
      s.server.strikeAll (hooks.flatMap Hook.strikes) reason := by
  induction hooks generalizing s with
  | nil => rfl
  | cons hook rest ih =>
      rw [List.flatMap_cons, Server.strikeAll_append, ← server_runHook]
      exact ih _

theorem pools_runHook (s : Node) (reason : DisconnectReason) (hook : Hook) :
    (runHook reason hook s).engine = s.engine ∧ (runHook reason hook s).pools = s.pools := by
  induction hook generalizing s with
  | done => exact ⟨rfl, rfl⟩
  | note label next ih => exact ih _
  | untrack id next ih => exact ih _
  | disconnect _ next ih => exact ih s
  | register hook next ihhook ihnext =>
      exact ⟨(ihnext _).1.trans (ihhook s).1, (ihnext _).2.trans (ihhook s).2⟩

theorem pools_runHooks (s : Node) (reason : DisconnectReason) (hooks : List Hook) :
    (runHooks reason hooks s).engine = s.engine ∧ (runHooks reason hooks s).pools = s.pools := by
  induction hooks generalizing s with
  | nil => exact ⟨rfl, rfl⟩
  | cons hook rest ih =>
      have hfirst := s.pools_runHook reason hook
      exact ⟨(ih _).1.trans hfirst.1, (ih _).2.trans hfirst.2⟩

theorem Still.onDisconnect {hook : Hook} (hnone : hook.strikes = []) (s : Node)
    (e : EndpointRef) : Still s (s.onDisconnect e hook) := by
  rw [Node.onDisconnect_eq]
  split
  · exact refl s
  · next x hx =>
    split
    · next reason _ _ =>
      have hserver := s.server_runHook reason hook
      rw [hnone] at hserver
      obtain ⟨hengine, hpools⟩ := s.pools_runHook reason hook
      refine ⟨hengine, hserver, fun d ↦ ?_, congrArg (List.map Pool.face) hpools⟩
      rw [guest?, endpoint?, endpoints_runHook]
      rfl
    · refine setEndpoint hx ?_
      simp [Endpoint.guest, hnone]

/-! ## Disconnects -/

/-- A first disconnect changes at most its endpoint, and what the server wrote down. -/
structure Alters (e : EndpointRef) (g : Guest) (s s' : Node) : Prop where
  before : s.guest? e = some g
  first : g.reason = none
  engine : s'.engine = s.engine
  others : ∀ d, d ≠ e → s'.guest? d = s.guest? d
  faces : s'.faces = s.faces

/-- A first disconnect: the server strikes off what the hooks say. -/
structure Departs (e : EndpointRef) (g : Guest) (reason : DisconnectReason) (s s' : Node) : Prop
    extends Alters e g s s' where
  behind : s'.guest? e = some (g.depart reason)
  server : s'.server = s.server.strikeAll g.strikes reason

/-- A first disconnect that panics, as the worker of the queue has a name that is refused. -/
structure Sticks (e : EndpointRef) (g : Guest) (reason : DisconnectReason) (s s' : Node) : Prop
    extends Alters e g s s' where
  behind : s'.guest? e = some (g.stick reason)
  server : s'.server = s.server
  refused : ∃ h q, g.handle = some h ∧ s.queue? h.queue = some q ∧ Queue.nameRefusal? q.name ≠ none

theorem guest?_of_endpoint? {x : Endpoint} (hx : s.endpoint? e = some x) :
    s.guest? e = some x.guest := congrArg (Option.map Endpoint.guest) hx

theorem guest?_setEndpoint_self {x : Endpoint} (hx : s.endpoint? e = some x) (y : Endpoint) :
    (s.setEndpoint e y).guest? e = some y.guest :=
  guest?_of_endpoint? (s.endpoint?_setEndpoint_self e hx y)

theorem guest?_setEndpoint_of_ne (h : d ≠ e) (y : Endpoint) :
    (s.setEndpoint e y).guest? d = s.guest? d :=
  congrArg (Option.map Endpoint.guest) (s.endpoint?_setEndpoint_of_ne h.symm y)

theorem refused_of_detach {h : Option Handle} (hpanic : s.panic = none)
    (hsome : (s.detach e h).panic ≠ none) :
    ∃ h' q, h = some h' ∧ s.queue? h'.queue = some q ∧ Queue.nameRefusal? q.name ≠ none := by
  cases h with
  | none => exact absurd hpanic hsome
  | some h =>
      refine ⟨h, ?_⟩
      have hrefused : (s.enqueue h.queue (.reset e)).1.panic ≠ none := by
        intro hnone
        rw [Node.detach] at hsome
        split at hsome
        · next s₁ heq =>
          rw [heq] at hnone
          exact hsome ((s₁.panic_release h).trans hnone)
        · next s₁ heq =>
          rw [heq] at hnone
          have hopen : ¬s₁.panic.isSome = true := by
            rw [hnone]
            exact Bool.false_ne_true
          rw [if_neg hopen, panic_release] at hsome
          exact hsome hnone
      rw [Node.enqueue] at hrefused
      split at hrefused
      · exact absurd hpanic hrefused
      · next q hq =>
        refine ⟨q, rfl, hq, ?_⟩
        split at hrefused
        · next text htext =>
          intro hname
          rw [Queue.panic?, hname, ite_self] at htext
          cases htext
        · rw [panic_modifyQueue] at hrefused
          exact absurd hpanic hrefused

/-- What is left of a first disconnect when the queue has been let go of. -/
theorem Departs.of_detached {s₁ : Node} {x : Endpoint} (hx : s.endpoint? e = some x)
    (hnone : x.reason = none) (reason : DisconnectReason)
    (hdetached : Still (s.setEndpoint e (x.beginEnd reason)) s₁) :
    Departs e x.guest reason s
      ((runHooks reason x.hooks (s₁.modifyEndpoint e Endpoint.finish)).modifyEndpoint e
        fun x ↦ { x with events := x.events ++ [.disconnected reason] }) := by
  obtain ⟨hengine, hpools⟩ := (s₁.modifyEndpoint e Endpoint.finish).pools_runHooks reason x.hooks
  have hserver := (s₁.modifyEndpoint e Endpoint.finish).server_runHooks reason x.hooks
  have hhooks : ∀ d, (runHooks reason x.hooks (s₁.modifyEndpoint e Endpoint.finish)).endpoint? d =
      (s₁.modifyEndpoint e Endpoint.finish).endpoint? d := by
    intro d
    rw [endpoint?, endpoints_runHooks]
    rfl
  refine ⟨⟨guest?_of_endpoint? hx, hnone, hengine.trans hdetached.engine, fun d hd ↦ ?_, ?_⟩,
    ?_, ?_⟩
  · rw [guest?, endpoint?_modifyEndpoint_of_ne _ hd.symm, hhooks,
      endpoint?_modifyEndpoint_of_ne _ hd.symm]
    exact (hdetached.guests d).trans (guest?_setEndpoint_of_ne hd _)
  · exact (congrArg (List.map Pool.face) hpools).trans hdetached.faces
  · have hself := (hdetached.guests e).trans (guest?_setEndpoint_self hx _)
    obtain ⟨y, hy, hguest⟩ := Option.map_eq_some_iff.1 hself
    have hid : y.id = x.id := (congrArg Guest.id hguest :)
    have hreason : y.reason = some reason := (congrArg Guest.reason hguest :)
    have hhandle : y.handle = none := (congrArg Guest.handle hguest :)
    rw [guest?, endpoint?_modifyEndpoint_self, hhooks, endpoint?_modifyEndpoint_self, hy]
    simp [Endpoint.guest, Endpoint.finish, Guest.depart, hid, hreason, hhandle, Lifecycle.halt?,
      Lifecycle.isActive]
  · have hsame : (s₁.modifyEndpoint e Endpoint.finish).server = s.server := hdetached.server
    rw [← hsame]
    exact hserver

/-- What a disconnect does: nothing, or the endpoint departs, or it gets stuck in a panic. -/
theorem disconnect_cases (s : Node) (e : EndpointRef) (reason : DisconnectReason)
    (hpanic : s.panic = none) :
    ((s.disconnect e reason).1 = s ∧ ∀ g, s.guest? e = some g → g.reason ≠ none) ∨
      (∃ g, Departs e g reason s (s.disconnect e reason).1 ∧
        (s.disconnect e reason).1.panic = none) ∨
      ∃ g, Sticks e g reason s (s.disconnect e reason).1 := by
  cases hx : s.endpoint? e with
  | none =>
      refine .inl ⟨by rw [disconnect_eq, hx], fun g hg ↦ ?_⟩
      rw [guest?, hx] at hg
      cases hg
  | some x =>
      by_cases hsome : x.reason.isSome = true
      · refine .inl ⟨congrArg Prod.fst (s.disconnect_of_reason e hx hsome reason), fun g hg ↦ ?_⟩
        rw [guest?_of_endpoint? hx, Option.some.injEq] at hg
        subst hg
        exact Option.isSome_iff_ne_none.1 hsome
      · right
        have hnone : x.reason = none := Option.not_isSome_iff_eq_none.1 hsome
        have hdetached := Still.detach (s.setEndpoint e (x.beginEnd reason)) e x.handle
        -- To let go of the queue is all that can panic; the hooks are run behind it.
        have hrefused := refused_of_detach (s := s.setEndpoint e (x.beginEnd reason)) (e := e)
          (h := x.handle) hpanic
        rw [disconnect_eq, hx]
        simp only [hnone, Option.isSome_none, Bool.false_eq_true, if_false]
        generalize (s.setEndpoint e (x.beginEnd reason)).detach e x.handle = s₁
          at hdetached hrefused ⊢
        by_cases hpanic₁ : s₁.panic.isSome = true
        · refine .inr ⟨x.guest, ?_⟩
          rw [if_pos hpanic₁]
          obtain ⟨h, q, hhandle, hq, hname⟩ := hrefused (Option.isSome_iff_ne_none.1 hpanic₁)
          rw [queue?_setEndpoint] at hq
          have hothers : ∀ d, d ≠ e → s₁.guest? d = s.guest? d := fun d hd ↦
            (hdetached.guests d).trans (guest?_setEndpoint_of_ne hd _)
          exact ⟨⟨guest?_of_endpoint? hx, hnone, hdetached.engine, hothers, hdetached.faces⟩,
            (hdetached.guests e).trans (guest?_setEndpoint_self hx _), hdetached.server, h, q,
            hhandle, hq, hname⟩
        · refine .inl ⟨x.guest, ?_, ?_⟩
          · rw [if_neg hpanic₁]
            exact .of_detached hx hnone reason hdetached
          · rw [if_neg hpanic₁]
            refine (panic_runHooks _ reason x.hooks).trans ?_
            exact Option.not_isSome_iff_eq_none.1 hpanic₁

end Node

/-! ## Acts -/

/-- An act of an application, a transport or a worker: none of them strikes connections off the
book, or changes the queue that an endpoint was given. -/
def Act.Fair : Act → Prop
  | .attach _ _ => False
  | .onDisconnect _ hook => hook.strikes = []
  | _ => True

instance : DecidablePred Act.Fair
  | .attach _ _ => inferInstanceAs (Decidable False)
  | .onDisconnect _ hook => inferInstanceAs (Decidable (hook.strikes = []))
  | .beginConnect _ | .abortConnect _ | .markConnected _ | .send _ _ | .receive _ _
  | .disconnect _ _ | .renew _ | .work _ => inferInstanceAs (Decidable True)

namespace Node

/-- A property that no disconnect takes away, nor what happens between disconnects. -/
structure Stable (Inv : Node → Prop) : Prop where
  still : ∀ {s s'}, Still s s' → Inv s → Inv s'
  departs : ∀ {e g reason s s'}, Departs e g reason s s' → Inv s → Inv s'
  sticks : ∀ {e g reason s s'}, Sticks e g reason s s' → Inv s → Inv s'

namespace Stable

variable {Inv : Node → Prop} {s s' : Node}

theorem disconnect (h : Stable Inv) (hpanic : s.panic = none) (hinv : Inv s) (e : EndpointRef)
    (reason : DisconnectReason) : Inv (s.disconnect e reason).1 := by
  rcases s.disconnect_cases e reason hpanic with ⟨hsame, -⟩ | ⟨g, hdeparts, -⟩ | ⟨g, hsticks⟩
  · rwa [hsame]
  · exact h.departs hdeparts hinv
  · exact h.sticks hsticks hinv

theorem perform (h : Stable Inv) {react : Reaction} (hfair : react.Fair) (hpanic : s.panic = none)
    (hinv : Inv s) (e : EndpointRef) : Inv (Node.perform e react s).1 := by
  induction react generalizing s with
  | done outcome => exact hinv
  | note note next ih => exact ih hfair hpanic (h.still (.record s _) hinv)
  | send m next ih =>
      have hsend := Sends.send s e m
      exact ih _ (hfair _) (hsend.panic.trans hpanic) (h.still (.sends hsend) hinv)
  | disconnect reason next ih =>
      have hended := h.disconnect hpanic hinv e reason
      rw [Node.perform]
      dsimp only
      split
      · exact h.still (.panic _ none) hended
      · next hnone => exact ih _ (hfair _) hnone hended
  | onDisconnect hook next ih =>
      have hhook := h.still (.onDisconnect hfair.1 s e) hinv
      exact ih hfair.2 ((s.panic_onDisconnect e hook).trans hpanic) hhook
  | broadcast key m next ih =>
      rw [Node.perform]
      split
      · exact ih none (hfair _) hpanic hinv
      · next g _ =>
        have hsend := Sends.broadcastMessage s key g m
        exact ih _ (hfair _) (hsend.panic.trans hpanic) (h.still (.sends hsend) hinv)

theorem dispatch (h : Stable Inv) (hfair : (s.engine e).registry.Fair) (hpanic : s.panic = none)
    (hinv : Inv s) (type : EndpointType) (m : Message) : Inv (s.dispatch e type m) := by
  have hrecord : ∀ handled, Inv (s.record (.dispatched e m handled)) := fun _ ↦
    h.still (.record s _) hinv
  apply dispatch_keeps s e type m (hrecord _)
  · intro handler hselect
    apply h.perform (hfair.react hselect) _ (hrecord _)
    exact hpanic
  · exact fun s₁ t hhandled ↦ h.still (.trace s₁ t) hhandled

theorem parseReceived (h : Stable Inv) (hpanic : s.panic = none) (hinv : Inv s)
    (e : EndpointRef) : Inv (s.parseReceived e).1 := by
  apply parseReceived_keeps s e hinv (fun t ↦ h.still (.trace s t) hinv)
  · intro cause
    have htrace := h.still (.trace s (.invalidData cause)) hinv
    refine h.still (.contain _) (h.disconnect ?_ htrace e _)
    exact hpanic
  · exact fun x buffer hx ↦ h.still (.setEndpoint hx rfl) hinv

theorem handleMessage (h : Stable Inv) (hfair : (s.engine e).registry.Fair)
    (hpanic : s.panic = none) (hinv : Inv s) (m : Message) : Inv (s.handleMessage e m).1 := by
  have hrate : ∀ x rate, s.endpoint? e = some x → Inv (s.setEndpoint e { x with rate := rate }) :=
    fun x rate hx ↦ h.still (.setEndpoint hx rfl) hinv
  apply handleMessage_keeps s e m hinv hrate
  · intro x rate ceiling hx
    have htrace := h.still (.trace _ (.rateExceeded ceiling)) (hrate x rate hx)
    refine h.still (.contain _) (h.disconnect ?_ htrace e _)
    exact hpanic
  · intro x rate hx
    apply h.dispatch _ _ (hrate x rate hx)
    · exact hfair
    · exact hpanic

theorem execute (h : Stable Inv) (hfair : ∀ e, (s.engine e).registry.Fair)
    (hpanic : s.panic = none) (hinv : Inv s) (r : QueueRef) (j : Job) : Inv (s.execute r j) := by
  cases j with
  | hold clear => exact h.still (.advance s r) hinv
  | mark label panics =>
      have hmark : Inv (s.record (.mark label)) := h.still (.record s _) hinv
      cases panics with
      | false => exact h.still (.advance _ r) hmark
      | true => exact h.still (.advance _ r) (h.still (.trace _ _) hmark)
  | reset e => exact h.still (.advance _ r) (h.still (.clearBuffer s e) hinv)
  | parse e => exact h.still (.proceed _ r e _) (h.parseReceived hpanic hinv e)
  | handle e messages =>
      cases messages with
      | nil => exact h.still (.proceed s r e []) hinv
      | cons m ms =>
          obtain ⟨left, hexecute, -⟩ := s.execute_handle r e m ms
          rw [hexecute]
          exact h.still (.proceed _ r e left) (h.handleMessage (hfair e) hpanic hinv m)

/-- What survives a disconnect survives every act. -/
theorem act? (h : Stable Inv) {act : Act} (hact : act.Fair)
    (hfair : ∀ e, (s.engine e).registry.Fair) (hpanic : s.panic = none) (hinv : Inv s)
    (hstep : s.act? act = some s') : Inv s' := by
  cases act with
  | beginConnect e =>
      cases hstep
      exact h.still (.beginConnect s e) hinv
  | abortConnect e =>
      cases hstep
      exact h.still (.abortConnect s e) hinv
  | attach e handle => cases hact
  | markConnected e =>
      cases hstep
      exact h.still (.markConnected s e) hinv
  | send e m =>
      cases hstep
      exact h.still (.sends (.send s e m)) hinv
  | receive e data =>
      cases hstep
      exact h.still ((Still.receive s e data).trans (.panic _ none)) hinv
  | onDisconnect e hook =>
      cases hstep
      exact h.still (.onDisconnect hact s e) hinv
  | disconnect e reason =>
      cases hstep
      exact h.still (.panic _ none) (h.disconnect hpanic hinv e reason)
  | renew e =>
      cases hstep
      exact h.still (.modifyEndpoint fun _ _ ↦ rfl) hinv
  | work r =>
      obtain ⟨q, j, rest, -, -, rfl⟩ := work?_eq_some hstep
      exact h.execute hfair hpanic hinv r j

end Stable

/-! ## What no act changes -/

/-- A node as far as only its server's own calls change it. -/
structure Frame where
  engine : EndpointRef → Engine
  faces : List (String × List (String × Bool))
  server : Server

def frame (s : Node) : Frame := ⟨s.engine, s.faces, s.server.cover⟩

theorem Still.frame (h : Still s s') : s'.frame = s.frame := by
  rw [Node.frame, Node.frame, h.engine, h.faces, h.server]

section Alters

variable {g g' : Guest} {reason r : DisconnectReason}

theorem Alters.frame (h : Alters e g s s') (hcover : s'.server.cover = s.server.cover) :
    s'.frame = s.frame := by
  rw [Node.frame, Node.frame, h.engine, h.faces, hcover]

theorem Departs.frame (h : Departs e g reason s s') : s'.frame = s.frame := by
  refine h.toAlters.frame ?_
  rw [h.server, Server.cover_strikeAll]

theorem Sticks.frame (h : Sticks e g reason s s') : s'.frame = s.frame :=
  h.toAlters.frame (congrArg Server.cover h.server)

theorem Alters.guest?_of_reason (h : Alters e g s s') (hg : s.guest? d = some g')
    (hreason : g'.reason = some r) : s'.guest? d = some g' := by
  have hd : d ≠ e := by
    rintro rfl
    rw [h.before, Option.some.injEq] at hg
    subst hg
    rw [h.first] at hreason
    cases hreason
  exact (h.others d hd).trans hg

end Alters

theorem Stable.frame (f : Frame) : Stable fun s ↦ s.frame = f where
  still hstill h := hstill.frame.trans h
  departs hdeparts h := hdeparts.frame.trans h
  sticks hsticks h := hsticks.frame.trans h

theorem Stable.reason (e : EndpointRef) (r : DisconnectReason) :
    Stable fun s ↦ ∃ g, s.guest? e = some g ∧ g.reason = some r where
  still hstill := by
    rintro ⟨g, hg, hreason⟩
    exact ⟨g, (hstill.guests e).trans hg, hreason⟩
  departs hdeparts := by
    rintro ⟨g, hg, hreason⟩
    exact ⟨g, hdeparts.guest?_of_reason hg hreason, hreason⟩
  sticks hsticks := by
    rintro ⟨g, hg, hreason⟩
    exact ⟨g, hsticks.guest?_of_reason hg hreason, hreason⟩

end Node

end MessageEngine
