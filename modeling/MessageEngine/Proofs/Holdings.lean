import Mathlib
import MessageEngine.Proofs.Parting

/-!
# What endpoints hold

Queues are made and slots taken, endpoints are given them, and part with them
when they are disconnected.  As long as an endpoint is given a handle only
before it is disconnected, nothing stays with a disconnected endpoint, and
the load of a queue is the number of those who hold a slot on it.

To make a queue, to take a slot, to give an endpoint a handle and to
disconnect it are one step each, and the results are about every order of
these steps.  What threads do to each other within one call, such as a handle
that comes while the disconnect takes the old one away, is not modelled.
-/

namespace MessageEngine

/-- The handle was not released. -/
def Handle.isLive : Handle → Bool
  | .dedicated _ => true
  | .pooled _ slot => !slot.released

/-- A node, the handles that were not given to an endpoint yet, and those that were. -/
structure Estate where
  node : Node
  loose : List Handle := []
  given : List (EndpointRef × Handle) := []

/-- What can happen to handles and endpoints. -/
inductive Deal
  /-- A queue is made for an endpoint. -/
  | own (name : String)
  | acquire (p : Nat)
  /-- An endpoint is given a handle. -/
  | give (e : EndpointRef) (i : Nat)
  | act (a : Act)
  deriving DecidableEq

def Act.gives : Act → Bool
  | .attach _ _ => true
  | _ => false

namespace Estate

def step? (a : Estate) : Deal → Option Estate
  | .own name =>
    let (s, h) := a.node.newQueue name
    some { a with node := s, loose := a.loose ++ [h] }
  | .acquire p => (a.node.acquire p).map fun (s, h) ↦ { a with node := s, loose := a.loose ++ [h] }
  | .give e i =>
    a.loose[i]?.map fun h ↦
      { node := a.node.attach e h, loose := a.loose.eraseIdx i, given := a.given ++ [(e, h)] }
  | .act act =>
    if act.gives then none else (a.node.act? act).map fun s ↦ { a with node := s }

def run? (a : Estate) (deals : List Deal) : Option Estate := deals.foldlM step? a

/-- Only an endpoint that holds nothing and was not disconnected is given a handle. -/
def Timely (a : Estate) : Deal → Prop
  | .give e _ => (a.node.endpoint? e).any (fun x ↦ x.reason.isNone && x.handle.isNone) = true
  | .own _ | .acquire _ | .act _ => True

/-- It holds of every deal on the way. -/
def Along (P : Estate → Deal → Prop) : Estate → List Deal → Prop
  | _, [] => True
  | a, deal :: deals => P a deal ∧ ∀ a' ∈ a.step? deal, Along P a' deals

instance (a : Estate) : DecidablePred a.Timely
  | .give _ _ => inferInstanceAs (Decidable (_ = true))
  | .own _ | .acquire _ | .act _ => inferInstanceAs (Decidable True)

instance decidableAlong (P : Estate → Deal → Prop) [∀ a deal, Decidable (P a deal)] :
    (deals : List Deal) → (a : Estate) → Decidable (Along P a deals)
  | [], _ => inferInstanceAs (Decidable True)
  | deal :: deals, a =>
    have : DecidablePred fun a' ↦ Along P a' deals := decidableAlong P deals
    inferInstanceAs (Decidable (P a deal ∧ ∀ a' ∈ a.step? deal, _))

/-- How many handles on a queue are held, by endpoints or still by nobody. -/
def holders (a : Estate) (r : QueueRef) : Nat :=
  a.loose.countP (·.queue == r) + a.node.endpoints.countP (·.handle.any (·.queue == r))

end Estate

/-! ## What leaves holdings as they are -/

/-- What a queue has to do with those who hold it. -/
def Queue.account (q : Queue Job) : Nat × Bool := (q.load, q.disposed)

/-- The endpoint holds what it held, and has not ended meanwhile. -/
structure Endpoint.Holds (x x' : Endpoint) : Prop where
  reason : x'.reason = x.reason
  handle : x'.handle = x.handle
  filling : x'.outbox.filling = x.outbox.filling
  active : x.state.isActive = true → x'.state.isActive = true
  ended : x'.state = .disconnected → x.state = .disconnected

theorem Endpoint.Holds.of_stance {x x' : Endpoint} (h : x'.stance = x.stance) : x.Holds x' := by
  simp only [stance, Stance.mk.injEq] at h
  obtain ⟨hstate, hreason, hhandle, hfilling⟩ := h
  exact ⟨hreason, hhandle, hfilling, fun hactive ↦ hstate ▸ hactive, fun hended ↦ hstate ▸ hended⟩

namespace Node

variable {s s' s'' : Node} {e : EndpointRef}

structure Retains (s s' : Node) : Prop where
  endpoints : ∀ d, Option.Rel Endpoint.Holds (s.endpoint? d) (s'.endpoint? d)
  accounts : ∀ r, (s'.queue? r).map Queue.account = (s.queue? r).map Queue.account

namespace Retains

theorem of_leaves (h : Leaves s s') : Retains s s' where
  endpoints d := by
    have hstance := h.stances d
    cases hx : s.endpoint? d with
    | none =>
        rw [hx, Option.map_none, Option.map_eq_none_iff] at hstance
        rw [hstance]
        exact .none
    | some x =>
        rw [hx, Option.map_some, Option.map_eq_some_iff] at hstance
        obtain ⟨x', hx', hsame⟩ := hstance
        rw [hx']
        exact .some (.of_stance hsame)
  accounts r := congrArg (Option.map Queue.account) (h.queues r)

theorem trans (h : Retains s s') (h' : Retains s' s'') : Retains s s'' where
  endpoints d := by
    have hfirst := h.endpoints d
    have hthen := h'.endpoints d
    cases hx : s.endpoint? d with
    | none =>
        rw [hx] at hfirst
        cases hx' : s'.endpoint? d with
        | none => rwa [hx'] at hthen
        | some x' =>
            rw [hx'] at hfirst
            cases hfirst
    | some x =>
        rw [hx] at hfirst
        cases hx' : s'.endpoint? d with
        | none =>
            rw [hx'] at hfirst
            cases hfirst
        | some x' =>
            rw [hx'] at hfirst hthen
            cases hx'' : s''.endpoint? d with
            | none =>
                rw [hx''] at hthen
                cases hthen
            | some x'' =>
                rw [hx''] at hthen
                cases hfirst with
                | some hfirst =>
                  cases hthen with
                  | some hthen =>
                    exact .some ⟨hthen.reason.trans hfirst.reason,
                      hthen.handle.trans hfirst.handle, hthen.filling.trans hfirst.filling,
                      hthen.active ∘ hfirst.active, hfirst.ended ∘ hthen.ended⟩
  accounts r := (h'.accounts r).trans (h.accounts r)

theorem modifyEndpoint {f : Endpoint → Endpoint} (hf : ∀ x : Endpoint, x.Holds (f x)) :
    Retains s (s.modifyEndpoint e f) where
  endpoints d := by
    rw [endpoint?_modifyEndpoint]
    cases s.endpoint? d with
    | none =>
        rw [Option.map_none, ite_self]
        exact .none
    | some x =>
        split
        · exact .some (hf x)
        · exact .some (.of_stance rfl)
  accounts r := congrArg (Option.map Queue.account) (s.queue?_modifyEndpoint e r f)

theorem setEndpoint {x y : Endpoint} (hx : s.endpoint? e = some x) (hy : x.Holds y) :
    Retains s (s.setEndpoint e y) where
  endpoints d := by
    by_cases hd : e = d
    · subst hd
      rw [hx, s.endpoint?_setEndpoint_self e hx]
      exact .some hy
    · rw [s.endpoint?_setEndpoint_of_ne hd]
      cases s.endpoint? d with
      | none => exact .none
      | some x => exact .some (.of_stance rfl)
  accounts r := congrArg (Option.map Queue.account) (s.queue?_setEndpoint e r y)

theorem modifyQueue {t : QueueRef} {f : Queue Job → Queue Job}
    (hf : ∀ q, s.queue? t = some q → (f q).account = q.account) :
    Retains s (s.modifyQueue t f) where
  endpoints d := by
    rw [endpoint?_modifyQueue]
    cases s.endpoint? d with
    | none => exact .none
    | some x => exact .some (.of_stance rfl)
  accounts r := by
    rw [queue?_modifyQueue]
    split
    · next ht =>
      subst ht
      cases hq : s.queue? t with
      | none => rfl
      | some q => exact congrArg some (hf q hq)
    · rfl

theorem enqueue (s : Node) (r : QueueRef) (j : Job) : Retains s (s.enqueue r j).1 := by
  rcases s.enqueue_cases r j with h | ⟨text, h⟩ | ⟨q, hq, -, h⟩
  · rw [h]
    exact of_leaves (.refl s)
  · rw [h]
    exact of_leaves (.panic s (some text))
  · rw [h]
    refine modifyQueue fun q' hq' ↦ ?_
    cases hq.symm.trans hq'
    rw [Queue.enqueue]
    split <;> rfl

theorem proceed (s : Node) (r : QueueRef) (e : EndpointRef) (messages : List Message) :
    Retains s (s.proceed r e messages) := by
  rw [Node.proceed.eq_def]
  split <;> exact modifyQueue fun _ _ ↦ rfl

theorem receive (s : Node) (e : EndpointRef) (data : Bytes) : Retains s (s.receive e data) := by
  rw [Node.receive]
  split
  · exact of_leaves (.refl s)
  · next x hx =>
    split
    · have hbuffer : Retains s (s.setEndpoint e { x with buffer := x.buffer ++ data }) :=
        setEndpoint hx (.of_stance rfl)
      dsimp only
      split
      · exact hbuffer.trans (enqueue _ _ _)
      · exact hbuffer
    · exact of_leaves (.refl s)

theorem beginConnect (s : Node) (e : EndpointRef) : Retains s (s.beginConnect e).1 := by
  rw [Node.beginConnect]
  split
  · exact of_leaves (.refl s)
  · next x hx =>
    split
    · next y hy =>
      refine setEndpoint hx ?_
      rw [Endpoint.beginConnect] at hy
      split at hy
      · cases hy
        exact ⟨rfl, rfl, rfl, fun _ ↦ rfl, Lifecycle.noConfusion⟩
      · cases hy
      · cases hy
      · cases hy
      · cases hy
    · exact of_leaves (.refl s)

theorem abortConnect (s : Node) (e : EndpointRef) : Retains s (s.abortConnect e) := by
  refine modifyEndpoint fun x ↦ ?_
  rw [Endpoint.abortConnect]
  split
  · exact ⟨rfl, rfl, rfl, fun _ ↦ rfl, Lifecycle.noConfusion⟩
  · exact .of_stance rfl

theorem markConnected (s : Node) (e : EndpointRef) : Retains s (s.markConnected e).1 := by
  rw [Node.markConnected]
  split
  · exact of_leaves (.refl s)
  · next x hx =>
    refine setEndpoint hx ?_
    rw [Endpoint.markConnected]
    split
    · exact ⟨rfl, rfl, rfl, fun _ ↦ rfl, Lifecycle.noConfusion⟩
    · exact .of_stance rfl

end Retains

/-- No handle changes hands by an act, unless an endpoint is disconnected in it. -/
theorem retains_or_parts {act : Act} (hpanic : s.panic = none)
    (hkeeps : act.gives = false) (hact : s.act? act = some s') :
    Retains s s' ∨ ∃ e h s₁, Parts e h s s₁ ∧ Retains s₁ s' := by
  have hpasses : ∀ {e : EndpointRef} {s₁ s₂ : Node}, Passes e s s₁ → Retains s₁ s₂ →
      Retains s s₂ ∨ ∃ e h s₁, Parts e h s s₁ ∧ Retains s₁ s₂ := by
    rintro e s₁ s₂ (hleaves | ⟨h, hparts⟩) hrest
    · exact .inl ((Retains.of_leaves hleaves).trans hrest)
    · exact .inr ⟨e, h, s₁, hparts, hrest⟩
  cases act with
  | attach e h => cases hkeeps
  | work r =>
      obtain ⟨q, j, rest, -, -, rfl⟩ := work?_eq_some hact
      rw [execute_eq]
      exact hpasses (.effect hpanic j) (.proceed _ r _ _)
  | disconnect e reason =>
      cases hact
      exact hpasses (.disconnect hpanic e reason) (.of_leaves (.panic _ none))
  | receive e data =>
      cases hact
      exact .inl ((Retains.receive s e data).trans (.of_leaves (.panic _ none)))
  | beginConnect e =>
      cases hact
      exact .inl (.beginConnect s e)
  | abortConnect e =>
      cases hact
      exact .inl (.abortConnect s e)
  | markConnected e =>
      cases hact
      exact .inl (.markConnected s e)
  | send e m =>
      cases hact
      exact .inl (.of_leaves (.send s e m))
  | onDisconnect e hook =>
      cases hact
      exact .inl (.of_leaves (.onDisconnect s e hook))
  | renew e =>
      cases hact
      exact .inl (.modifyEndpoint fun _ ↦ .of_stance rfl)

/-! ## Who holds what -/

/-- The handles of the endpoints, in order. -/
def handles (s : Node) : List (Option Handle) := s.endpoints.map (·.handle)

theorem getElem?_handles (s : Node) (d : EndpointRef) :
    s.handles[d]? = (s.endpoint? d).map (·.handle) := List.getElem?_map

theorem handles_setEndpoint (s : Node) (e : EndpointRef) (x : Endpoint) :
    (s.setEndpoint e x).handles = s.handles.set e x.handle := by
  rw [handles, handles, ← List.map_set, List.set_eq_modify]
  rfl

theorem Retains.handles (h : Retains s s') : s'.handles = s.handles := by
  refine List.ext_getElem? fun d ↦ ?_
  have hsame := h.endpoints d
  rw [getElem?_handles, getElem?_handles]
  generalize s.endpoint? d = o, s'.endpoint? d = o' at hsame
  cases hsame with
  | none => rfl
  | some hholds => exact congrArg some hholds.handle

theorem Parts.handles {h : Option Handle} (hparts : Parts e h s s') :
    s'.handles = s.handles.set e none := by
  obtain ⟨x, hx, -, -⟩ := hparts.before
  obtain ⟨reason, hafter⟩ := hparts.after
  refine List.ext_getElem? fun d ↦ ?_
  rw [getElem?_handles, List.getElem?_set, getElem?_handles]
  by_cases hd : e = d
  · subst hd
    have hlength : e < s.handles.length := by
      rw [Node.handles, List.length_map]
      exact (List.getElem?_eq_some_iff.1 hx).1
    obtain ⟨x', hx', hstance⟩ := Option.map_eq_some_iff.1 hafter
    have hhandle : x'.handle = none := congrArg Stance.handle hstance
    simp [hlength, hx', hhandle]
  · have hother := congrArg (Option.map Stance.handle) (hparts.others d (Ne.symm hd))
    rw [Option.map_map, Option.map_map] at hother
    rw [if_neg hd]
    exact hother

end Node

/-- The load of the queue of a slot that is given up falls by one. -/
theorem account_partFrom {h : Option Handle} {p i : Nat} (hlive : ∀ h' ∈ h, h'.isLive = true)
    (e : EndpointRef) (q : Queue Job) :
    (partFrom h e (.pooled p i) q).account =
      (q.load - if h.any (·.queue == .pooled p i) then 1 else 0, q.disposed) := by
  have henqueue : (q.enqueue (.reset e)).1.account = q.account := by
    rw [Queue.enqueue]
    split <;> rfl
  cases h with
  | none => rfl
  | some h =>
      cases h with
      | dedicated j => rfl
      | pooled p' slot =>
          have hslot : slot.released = false := by simpa [Handle.isLive] using hlive _ rfl
          by_cases hr : Handle.queue (.pooled p' slot) = .pooled p i
          · simp only [partFrom, hr, if_true, Handle.part, Option.any_some, beq_self_eq_true]
            simp only [Queue.account, Prod.mk.injEq] at henqueue
            split
            · simp [Handle.forget, Handle.free, hslot, Queue.account, Queue.unassign]
            · simp [Handle.free, hslot, Queue.account, Queue.unassign, henqueue]
          · simp [partFrom, hr, Queue.account]

namespace Estate

open Node

variable {a a' : Estate}

theorem holders_eq (a : Estate) (r : QueueRef) :
    a.holders r = a.loose.countP (·.queue == r) +
      a.node.handles.countP (·.any (·.queue == r)) := by
  rw [holders, handles, List.countP_map]
  rfl

end Estate

/-- An endpoint that was disconnected holds nothing. -/
def Endpoint.Settled (x : Endpoint) : Prop :=
  (x.reason = none → x.state.isActive = true) ∧
    (x.reason.isSome = true → x.handle = none ∧ x.outbox.filling = false)

theorem Endpoint.Settled.holds {x x' : Endpoint} (h : x.Settled) (hx : x.Holds x') :
    x'.Settled := by
  refine ⟨fun hnone ↦ hx.active (h.1 (hx.reason.symm.trans hnone)), fun hsome ↦ ?_⟩
  obtain ⟨hhandle, hfilling⟩ := h.2 (hx.reason ▸ hsome)
  exact ⟨hx.handle.trans hhandle, hx.filling.trans hfilling⟩

namespace Node

variable {s s' : Node} {e : EndpointRef}

theorem Retains.back (h : Retains s s') {d : EndpointRef} {x' : Endpoint}
    (hx' : s'.endpoint? d = some x') : ∃ x, s.endpoint? d = some x ∧ x.Holds x' := by
  have hsame := h.endpoints d
  rw [hx'] at hsame
  generalize s.endpoint? d = o at hsame
  cases hsame with
  | some hholds => exact ⟨_, rfl, hholds⟩

theorem Retains.forth (h : Retains s s') {d : EndpointRef} {x : Endpoint}
    (hx : s.endpoint? d = some x) : ∃ x', s'.endpoint? d = some x' ∧ x.Holds x' := by
  have hsame := h.endpoints d
  rw [hx] at hsame
  generalize s'.endpoint? d = o at hsame
  cases hsame with
  | some hholds => exact ⟨_, rfl, hholds⟩

/-- What was given to an endpoint is still with it, or it parted with it. -/
def Settles (s : Node) (e : EndpointRef) (h : Handle) : Prop :=
  ∃ x, s.endpoint? e = some x ∧
    ((x.reason = none ∧ x.handle = some h) ∨
      (x.reason.isSome = true ∧ (x.state = .disconnected → ∀ i, h = .dedicated i →
        ∃ q, s.queue? (.dedicated i) = some q ∧ q.disposed = true)))

theorem Settles.retains {h : Handle} (hsettles : s.Settles e h) (hretains : Retains s s') :
    s'.Settles e h := by
  obtain ⟨x, hx, hcases⟩ := hsettles
  obtain ⟨x', hx', hholds⟩ := hretains.forth hx
  refine ⟨x', hx', ?_⟩
  rcases hcases with ⟨hreason, hhandle⟩ | ⟨hreason, hdisposed⟩
  · exact .inl ⟨hholds.reason.trans hreason, hholds.handle.trans hhandle⟩
  · refine .inr ⟨hholds.reason ▸ hreason, fun hended i hi ↦ ?_⟩
    obtain ⟨q, hq, hclosed⟩ := hdisposed (hholds.ended hended) i hi
    have haccount := hretains.accounts (.dedicated i)
    rw [hq, Option.map_some, Option.map_eq_some_iff] at haccount
    obtain ⟨q', hq', hsame⟩ := haccount
    exact ⟨q', hq', (congrArg Prod.snd hsame).trans hclosed⟩

theorem disposed_partFrom {h : Option Handle} {r : QueueRef} {q : Queue Job}
    (hdisposed : q.disposed = true) : (partFrom h e r q).disposed = true := by
  have henqueue : (q.enqueue (.reset e)).1 = q := by rw [Queue.enqueue, if_pos hdisposed]
  cases h with
  | none => exact hdisposed
  | some h =>
      rw [partFrom, Handle.part, henqueue]
      cases h with
      | dedicated i =>
          split
          · split
            · exact hdisposed
            · rfl
          · exact hdisposed
      | pooled p slot =>
          rw [Handle.forget, Handle.free]
          split <;> [split <;> split <;> exact hdisposed; exact hdisposed]

theorem Settles.parts {d : EndpointRef} {h : Handle} {h₀ : Option Handle}
    (hsettles : s.Settles d h) (hparts : Parts e h₀ s s')
    (hthere : ∀ h' ∈ h₀, (s.queue? h'.queue).isSome = true) : s'.Settles d h := by
  obtain ⟨x, hx, hcases⟩ := hsettles
  by_cases hd : d = e
  · subst hd
    obtain ⟨y, hy, hreason, rfl⟩ := hparts.before
    cases hx.symm.trans hy
    obtain ⟨reason, hafter⟩ := hparts.after
    obtain ⟨x', hx', hstance⟩ := Option.map_eq_some_iff.1 hafter
    have hhandle : x.handle = some h := by
      rcases hcases with ⟨-, hhandle⟩ | ⟨hsome, -⟩
      · exact hhandle
      · rw [hreason] at hsome
        cases hsome
    have hreason' : x'.reason = some reason := congrArg Stance.reason hstance
    refine ⟨x', hx', .inr ⟨congrArg Option.isSome hreason', fun hended i hi ↦ ?_⟩⟩
    subst hi
    obtain ⟨q, hq⟩ := Option.isSome_iff_exists.1 (hthere _ hhandle)
    have hstate : x'.state = _ := congrArg Stance.state hstance
    have hgoes : (s.hindrance? x.handle).isSome = false := by
      rw [Bool.eq_false_iff]
      intro hhindered
      rw [if_pos hhindered, hended] at hstate
      cases hstate
    have hpanic : q.panic?.isSome = false := by
      rwa [hhandle, hindrance?, Option.bind_some, hq, Option.bind_some] at hgoes
    refine ⟨_, (hparts.queues _).trans (congrArg (Option.map _) hq), ?_⟩
    rw [hhandle]
    simp [partFrom, Handle.queue, Handle.part, hpanic, Handle.free, Queue.dispose]
  · have hsame := hparts.others d hd
    rw [hx, Option.map_some] at hsame
    obtain ⟨x', hx', hstate, hreason, hhandle, -⟩ := endpoint?_of_stance hsame rfl
    refine ⟨x', hx', ?_⟩
    rcases hcases with ⟨hreason₀, hhandle₀⟩ | ⟨hreason₀, hdisposed⟩
    · exact .inl ⟨hreason.trans hreason₀, hhandle.trans hhandle₀⟩
    · refine .inr ⟨hreason ▸ hreason₀, fun hended i hi ↦ ?_⟩
      obtain ⟨q, hq, hclosed⟩ := hdisposed (hstate.symm.trans hended) i hi
      exact ⟨_, by rw [hparts.queues, hq, Option.map_some], disposed_partFrom hclosed⟩

end Node

namespace Estate

open Node

variable {a a' : Estate}

/-- Who holds what, and which queues know of it. -/
structure InOrder (a : Estate) : Prop where
  panic : a.node.panic = none
  settled : ∀ e x, a.node.endpoint? e = some x → x.Settled
  live : ∀ h, h ∈ a.loose ∨ some h ∈ a.node.handles →
    h.isLive = true ∧ (a.node.queue? h.queue).isSome = true
  load : ∀ p i q, a.node.queue? (.pooled p i) = some q → q.load = a.holders (.pooled p i)
  given : ∀ e h, (e, h) ∈ a.given → a.node.Settles e h

theorem InOrder.retains (h : a.InOrder) {s : Node} (hretains : Retains a.node s)
    (hpanic : s.panic = none) : InOrder { a with node := s } where
  panic := hpanic
  settled e x' hx' := by
    obtain ⟨x, hx, hholds⟩ := hretains.back hx'
    exact (h.settled e x hx).holds hholds
  live handle hheld := by
    rw [hretains.handles] at hheld
    obtain ⟨hlive, hthere⟩ := h.live handle hheld
    have hsame := congrArg Option.isSome (hretains.accounts handle.queue)
    rw [Option.isSome_map, Option.isSome_map] at hsame
    exact ⟨hlive, hsame.trans hthere⟩
  load p i q' hq' := by
    have haccount := hretains.accounts (.pooled p i)
    rw [hq', Option.map_some, eq_comm, Option.map_eq_some_iff] at haccount
    obtain ⟨q, hq, hsame⟩ := haccount
    rw [holders_eq, hretains.handles, ← holders_eq a, ← h.load p i q hq]
    exact (congrArg Prod.fst hsame).symm
  given e handle hgiven := (h.given e handle hgiven).retains hretains

theorem InOrder.parts (h : a.InOrder) {s : Node} {e : EndpointRef} {handle : Option Handle}
    (hparts : Parts e handle a.node s) (hpanic : s.panic = none) :
    InOrder { a with node := s } := by
  obtain ⟨x, hx, hreason, hhandle⟩ := hparts.before
  have hheld : a.node.handles[e]? = some handle := by
    rw [getElem?_handles, hx, Option.map_some, hhandle]
  have hmine : ∀ h' ∈ handle, h'.isLive = true ∧ (a.node.queue? h'.queue).isSome = true := by
    intro h' hh'
    rw [Option.mem_def] at hh'
    rw [hh'] at hheld
    exact h.live h' (.inr (List.mem_of_getElem? hheld))
  refine ⟨hpanic, ?_, ?_, ?_, ?_⟩
  · intro d x' hx'
    by_cases hd : d = e
    · subst hd
      obtain ⟨reason, hafter⟩ := hparts.after
      rw [hx', Option.map_some, Option.some.injEq] at hafter
      have hreason' : x'.reason = some reason := congrArg Stance.reason hafter
      have hnothing : x'.handle = none := congrArg Stance.handle hafter
      refine ⟨fun hnone ↦ ?_, fun _ ↦ ⟨hnothing, congrArg Stance.filling hafter⟩⟩
      cases hnone.symm.trans hreason'
    · have hsame := (hparts.others d hd).symm
      rw [hx', Option.map_some] at hsame
      obtain ⟨x₀, hx₀, hstance⟩ := Option.map_eq_some_iff.1 hsame
      exact (h.settled d x₀ hx₀).holds (.of_stance hstance.symm)
  · intro h' hh'
    have hbefore : h' ∈ a.loose ∨ some h' ∈ a.node.handles := by
      rcases hh' with hloose | hheld'
      · exact .inl hloose
      · rw [hparts.handles] at hheld'
        rcases List.mem_or_eq_of_mem_set hheld' with hmem | hnone
        · exact .inr hmem
        · cases hnone
    obtain ⟨hlive, hthere⟩ := h.live h' hbefore
    refine ⟨hlive, ?_⟩
    dsimp only
    rw [hparts.queues, Option.isSome_map]
    exact hthere
  · intro p i q' hq'
    dsimp only at hq'
    rw [hparts.queues, Option.map_eq_some_iff] at hq'
    obtain ⟨q, hq, rfl⟩ := hq'
    have hload := congrArg Prod.fst
      (account_partFrom (p := p) (i := i) (fun h' hh' ↦ (hmine h' hh').1) e q)
    obtain ⟨hlt, hget⟩ := List.getElem?_eq_some_iff.1 hheld
    have hcount := h.load p i q hq
    -- The handle was counted, so what is left of the load does not fall below the count.
    have hle : (if handle.any (·.queue == .pooled p i) then 1 else 0) ≤
        a.node.handles.countP (·.any (·.queue == .pooled p i)) := by
      split
      · next hany => exact List.countP_pos_iff.2 ⟨handle, List.mem_of_getElem? hheld, hany⟩
      · exact Nat.zero_le _
    rw [holders_eq] at hcount ⊢
    dsimp only [Queue.account] at hload ⊢
    rw [hload, hcount, hparts.handles, List.countP_set hlt, hget]
    simp only [Option.any_none, Bool.false_eq_true, if_false, Nat.add_zero]
    omega
  · exact fun d h' hgiven ↦ (h.given d h' hgiven).parts hparts fun h'' hh'' ↦ (hmine h'' hh'').2

/-! ## How handles come about and are given -/

theorem getElem?_snoc {α : Type} (xs : List α) (x : α) (i : Nat) :
    (xs ++ [x])[i]? = if xs.length = i then some x else xs[i]? := by
  rcases Nat.lt_trichotomy i xs.length with hlt | rfl | hgt
  · rw [if_neg hlt.ne', List.getElem?_append_left hlt]
  · simp
  · rw [if_neg hgt.ne, List.getElem?_eq_none (by simp; omega), List.getElem?_eq_none hgt.le]

theorem InOrder.holders_eq_zero (h : a.InOrder) {r : QueueRef} (hr : a.node.queue? r = none) :
    a.holders r = 0 := by
  have hnone : ∀ h', h' ∈ a.loose ∨ some h' ∈ a.node.handles → h'.queue ≠ r := by
    rintro h' hheld rfl
    have hthere := (h.live h' hheld).2
    rw [hr] at hthere
    cases hthere
  rw [holders_eq, Nat.add_eq_zero_iff, List.countP_eq_zero, List.countP_eq_zero]
  constructor
  · intro h' hloose
    simpa using hnone h' (.inl hloose)
  · rintro (_ | h') hheld
    · exact Bool.false_ne_true
    · simpa using hnone h' (.inr hheld)

/-- A handle is obtained on a queue that counts it, if it is one of a pool. -/
theorem InOrder.obtain (h : a.InOrder) {s : Node} {handle : Handle} (q' : Queue Job)
    (hendpoints : s.endpoints = a.node.endpoints) (hpanic : s.panic = a.node.panic)
    (hqueues : ∀ r, s.queue? r = if handle.queue = r then some q' else a.node.queue? r)
    (hlive : handle.isLive = true)
    (hload : ∀ p i, handle.queue = .pooled p i → q'.load = a.holders (.pooled p i) + 1)
    (hdisposed : ∀ q, a.node.queue? handle.queue = some q → q'.disposed = q.disposed) :
    InOrder { a with node := s, loose := a.loose ++ [handle] } := by
  have hendpoint : ∀ e, s.endpoint? e = a.node.endpoint? e := fun e ↦ by
    rw [endpoint?, hendpoints]
    rfl
  have hhandles : s.handles = a.node.handles := congrArg (List.map _) hendpoints
  have hsettled := fun e x hx ↦ h.settled e x ((hendpoint e).symm.trans hx)
  refine ⟨hpanic.trans h.panic, hsettled, ?_, ?_, ?_⟩
  · intro h' hheld
    dsimp only at hheld ⊢
    rw [hqueues]
    rw [hhandles, List.mem_append, List.mem_singleton, or_right_comm] at hheld
    rcases hheld with hheld | rfl
    · obtain ⟨hlive', hthere⟩ := h.live h' hheld
      refine ⟨hlive', ?_⟩
      split
      · rfl
      · exact hthere
    · exact ⟨hlive, by rw [if_pos rfl]; rfl⟩
  · intro p i q hq
    have hcount : holders { a with node := s, loose := a.loose ++ [handle] } (.pooled p i) =
        a.holders (.pooled p i) + if handle.queue = .pooled p i then 1 else 0 := by
      simp [holders_eq, hhandles, List.countP_append, List.countP_singleton]
      omega
    dsimp only at hq
    rw [hqueues] at hq
    rw [hcount]
    split at hq
    · next hon =>
      cases hq
      rw [if_pos hon, hload p i hon]
    · next hoff => rw [if_neg hoff, h.load p i q hq, Nat.add_zero]
  · intro e h' hgiven
    obtain ⟨x, hx, hcases⟩ := h.given e h' hgiven
    refine ⟨x, (hendpoint e).trans hx, hcases.imp id ?_⟩
    rintro ⟨hreason, hsettled⟩
    refine ⟨hreason, fun hended i hi ↦ ?_⟩
    obtain ⟨q, hq, hclosed⟩ := hsettled hended i hi
    dsimp only
    rw [hqueues]
    split
    · next hon => exact ⟨q', rfl, (hdisposed q (hon ▸ hq)).trans hclosed⟩
    · exact ⟨q, hq, hclosed⟩

theorem InOrder.own (h : a.InOrder) (name : String) :
    InOrder { a with
      node := (a.node.newQueue name).1, loose := a.loose ++ [(a.node.newQueue name).2] } := by
  refine h.obtain { name := name } rfl rfl (fun r ↦ ?_) rfl (fun _ _ hr ↦ by cases hr) ?_
  · cases r with
    | pooled p i => rfl
    | dedicated i =>
        simp only [newQueue, queue?, Handle.queue, QueueRef.dedicated.injEq]
        exact getElem?_snoc a.node.queues { name := name } i
  · intro q hq
    simp [newQueue, queue?, Handle.queue] at hq

theorem queue?_modifyPool_const {s : Node} {p : Nat} {pool pool' : Pool Job} {q : Queue Job}
    (hpool : s.pools[p]? = some pool) (j : Nat)
    (hqueues : ∀ i, pool'.queues[i]? = if j = i then some q else pool.queues[i]?) (r : QueueRef) :
    (s.modifyPool p fun _ ↦ pool').queue? r =
      if QueueRef.pooled p j = r then some q else s.queue? r := by
  cases r with
  | dedicated i => rfl
  | pooled p' i =>
      simp only [queue?, modifyPool, List.getElem?_modify, QueueRef.pooled.injEq]
      by_cases hp : p = p'
      · subst hp
        simp [hpool, hqueues]
      · simp only [hp, if_false, false_and]
        cases s.pools[p']? <;> rfl

theorem InOrder.acquire (h : a.InOrder) {p : Nat} {s : Node} {handle : Handle}
    (hacquire : a.node.acquire p = some (s, handle)) :
    InOrder { a with node := s, loose := a.loose ++ [handle] } := by
  rw [Node.acquire] at hacquire
  cases hpool : a.node.pools[p]? with
  | none =>
      rw [hpool] at hacquire
      cases hacquire
  | some pool =>
      have hacquired : (a.node.modifyPool p (fun _ ↦ pool.acquire.1),
          Handle.pooled p pool.acquire.2) = (s, handle) := by
        rw [hpool] at hacquire
        exact Option.some.inj hacquire
      have hqueue : ∀ i, a.node.queue? (.pooled p i) = pool.queues[i]? := fun i ↦ by
        rw [queue?, hpool]
      rcases pool.acquire_cases with ⟨j, q, hleast, -, hacq⟩ | ⟨-, hacq⟩
      · rw [hacq] at hacquired
        cases hacquired
        have hq : a.node.queue? (.pooled p j) = some q := (hqueue j).trans hleast.here
        refine h.obtain q.assign rfl rfl (queue?_modifyPool_const hpool j fun i ↦ ?_) rfl ?_ ?_
        · rw [Pool.modifyQueue, List.getElem?_modify]
          split
          · next hi =>
            subst hi
            rw [hleast.here]
            rfl
          · cases pool.queues[i]? <;> rfl
        · intro p' i hr
          cases hr
          exact congrArg (· + 1) (h.load p j q hq)
        · intro q₀ hq₀
          cases hq.symm.trans hq₀
          rfl
      · rw [hacq] at hacquired
        cases hacquired
        have hq : a.node.queue? (.pooled p pool.queues.length) = none := by simp [hqueue]
        refine h.obtain (Queue.assign { name := pool.nextName }) rfl rfl
          (queue?_modifyPool_const hpool _ fun i ↦ getElem?_snoc _ _ i) rfl ?_ ?_
        · intro p' i hr
          cases hr
          rw [h.holders_eq_zero hq]
          rfl
        · intro q₀ hq₀
          cases hq.symm.trans hq₀

theorem InOrder.give (h : a.InOrder) {e : EndpointRef} {x : Endpoint} {i : Nat} {handle : Handle}
    (hx : a.node.endpoint? e = some x) (hreason : x.reason = none) (hnone : x.handle = none)
    (hi : a.loose[i]? = some handle) :
    InOrder { node := a.node.attach e handle, loose := a.loose.eraseIdx i,
              given := a.given ++ [(e, handle)] } := by
  have hattach : a.node.attach e handle =
      a.node.setEndpoint e { x with handle := some handle, outbox := .fresh } := by
    rw [attach, hx]
    simp only [hnone]
  generalize hy : ({ x with handle := some handle, outbox := .fresh } : Endpoint) = y at hattach
  have hhandle' : y.handle = some handle := by rw [← hy]
  have hreason' : y.reason = none := by rw [← hy, hreason]
  have hself := a.node.endpoint?_setEndpoint_self e hx y
  have hother : ∀ d, d ≠ e → (a.node.setEndpoint e y).endpoint? d = a.node.endpoint? d :=
    fun d hd ↦ a.node.endpoint?_setEndpoint_of_ne hd.symm y
  have hqueues := fun r ↦ a.node.queue?_setEndpoint e r y
  have hheld : a.node.handles[e]? = some none := by
    rw [getElem?_handles, hx, Option.map_some, hnone]
  obtain ⟨hlt, hget⟩ := List.getElem?_eq_some_iff.1 hheld
  have hhandles : (a.node.setEndpoint e y).handles = a.node.handles.set e (some handle) := by
    rw [handles_setEndpoint, hhandle']
  obtain ⟨hlt', hget'⟩ := List.getElem?_eq_some_iff.1 hi
  have hperm : (handle :: a.loose.eraseIdx i).Perm a.loose := by
    rw [← hget']
    exact List.getElem_cons_eraseIdx_perm hlt'
  rw [hattach]
  refine ⟨h.panic, ?_, ?_, ?_, ?_⟩
  · intro d x' hx'
    by_cases hd : d = e
    · subst hd
      cases hself.symm.trans hx'
      refine ⟨fun _ ↦ ?_, fun hsome ↦ ?_⟩
      · rw [← hy]
        exact (h.settled d x hx).1 hreason
      · rw [hreason'] at hsome
        cases hsome
    · exact h.settled d x' ((hother d hd).symm.trans hx')
  · intro h' hh'
    rw [hqueues]
    refine h.live h' ?_
    rcases hh' with hloose | hheld'
    · exact .inl (List.mem_of_mem_eraseIdx hloose)
    · rw [hhandles] at hheld'
      rcases List.mem_or_eq_of_mem_set hheld' with hmem | hsome
      · exact .inr hmem
      · cases hsome
        exact .inl (List.mem_of_getElem? hi)
  · -- The handle is counted among the loose ones before, and then at the endpoint.
    intro p j q hq
    rw [hqueues] at hq
    have hcount := h.load p j q hq
    have hloose := hperm.countP_eq (·.queue == .pooled p j)
    rw [List.countP_cons] at hloose
    rw [holders_eq] at hcount ⊢
    dsimp only
    rw [hcount, hhandles, List.countP_set hlt, hget]
    simp only [Option.any_none, Option.any_some, Bool.false_eq_true, if_false, Nat.sub_zero]
    omega
  · intro d h' hgiven
    rw [List.mem_append, List.mem_singleton] at hgiven
    rcases hgiven with hgiven | hnew
    · obtain ⟨x', hx', hcases⟩ := h.given d h' hgiven
      by_cases hd : d = e
      · subst hd
        cases hx.symm.trans hx'
        rcases hcases with ⟨-, hhandle⟩ | ⟨hsome, -⟩
        · cases hnone.symm.trans hhandle
        · rw [hreason] at hsome
          cases hsome
      · refine ⟨x', (hother d hd).trans hx', ?_⟩
        dsimp only
        simp only [hqueues]
        exact hcases
    · cases hnew
      exact ⟨y, hself, .inl ⟨hreason', hhandle'⟩⟩

/-! ## Runs -/

theorem InOrder.step? (h : a.InOrder) {deal : Deal} (htimely : a.Timely deal)
    (hstep : a.step? deal = some a') : a'.InOrder := by
  cases deal with
  | own name =>
      cases hstep
      exact h.own name
  | acquire p =>
      obtain ⟨⟨s, handle⟩, hacquire, rfl⟩ := Option.map_eq_some_iff.1 hstep
      exact h.acquire hacquire
  | give e i =>
      obtain ⟨handle, hi, rfl⟩ := Option.map_eq_some_iff.1 hstep
      rw [Timely] at htimely
      cases hx : a.node.endpoint? e with
      | none =>
          rw [hx] at htimely
          cases htimely
      | some x =>
          rw [hx, Option.any_some, Bool.and_eq_true, Option.isNone_iff_eq_none,
            Option.isNone_iff_eq_none] at htimely
          exact h.give hx htimely.1 htimely.2 hi
  | act act =>
      rw [Estate.step?] at hstep
      split at hstep
      · cases hstep
      · next hkeeps =>
        obtain ⟨s, hs, rfl⟩ := Option.map_eq_some_iff.1 hstep
        have hpanic := panic_act? h.panic hs
        rcases retains_or_parts h.panic (Bool.eq_false_iff.2 hkeeps) hs with
          hretains | ⟨e, handle, s₁, hparts, hretains⟩
        · exact h.retains hretains hpanic
        · have hended := Leaves.panic s₁ none
          have hparted := h.parts (hparts.leaves hended) rfl
          exact hparted.retains ((Retains.of_leaves hended.symm).trans hretains) hpanic

theorem InOrder.run? {deals : List Deal} (h : a.InOrder) (htimely : Along Timely a deals)
    (hrun : a.run? deals = some a') : a'.InOrder := by
  induction deals generalizing a with
  | nil =>
      cases hrun
      exact h
  | cons deal deals ih =>
      obtain ⟨a₁, hstep, hrest⟩ := foldlM_cons_eq_some.1 hrun
      exact ih (h.step? htimely.1 hstep) (htimely.2 a₁ hstep) hrest

/-- What is known at any time of those who hold queues. -/
structure Accounted (a : Estate) : Prop where
  /-- A disconnected endpoint holds nothing, and a queue of its own was disposed. -/
  disconnected : ∀ e x, a.node.endpoint? e = some x → x.state = .disconnected →
    x.handle = none ∧ x.outbox.filling = false ∧ ∀ i, (e, .dedicated i) ∈ a.given →
      ∃ q, a.node.queue? (.dedicated i) = some q ∧ q.disposed = true
  /-- The load of a queue is the number of slots on it that somebody holds. -/
  loads : ∀ p i q, a.node.queue? (.pooled p i) = some q → q.load = a.holders (.pooled p i)
  holders : ∀ e x h, a.node.endpoint? e = some x → x.handle = some h →
    x.reason = none ∧ x.state.isActive = true

theorem InOrder.accounted (h : a.InOrder) : a.Accounted where
  disconnected e x hx hended := by
    have hreason : x.reason.isSome = true := by
      rw [Option.isSome_iff_ne_none]
      intro hnone
      have hactive := (h.settled e x hx).1 hnone
      rw [hended] at hactive
      cases hactive
    obtain ⟨hhandle, hfilling⟩ := (h.settled e x hx).2 hreason
    refine ⟨hhandle, hfilling, fun i hgiven ↦ ?_⟩
    obtain ⟨x', hx', hcases⟩ := h.given e _ hgiven
    cases hx.symm.trans hx'
    rcases hcases with ⟨hnone, -⟩ | ⟨-, hdisposed⟩
    · rw [hnone] at hreason
      cases hreason
    · exact hdisposed hended i rfl
  loads := h.load
  holders e x handle hx hhandle := by
    have hnone : x.reason = none := by
      rw [← Option.not_isSome_iff_eq_none]
      intro hsome
      cases ((h.settled e x hx).2 hsome).1.symm.trans hhandle
    exact ⟨hnone, (h.settled e x hx).1 hnone⟩

end Estate

/-- No endpoint holds a queue yet, and no slot is taken. -/
structure Node.Vacant (s : Node) : Prop where
  panic : s.panic = none
  endpoints : ∀ e x, s.endpoint? e = some x →
    x.reason = none ∧ x.state.isActive = true ∧ x.handle = none
  loads : ∀ p i q, s.queue? (.pooled p i) = some q → q.load = 0

namespace Estate

variable {a : Estate}

/-- However endpoints are connected and disconnected, if they are given handles only before they are
disconnected, all that they held is given up. -/
theorem accounted_of_run {s : Node} {deals : List Deal} (hs : s.Vacant)
    (htimely : Along Timely { node := s } deals) (hrun : run? { node := s } deals = some a) :
    a.Accounted := by
  have hnone : ∀ h, some h ∉ s.handles := by
    intro h hheld
    obtain ⟨e, he⟩ := List.mem_iff_getElem?.1 hheld
    rw [Node.getElem?_handles, Option.map_eq_some_iff] at he
    obtain ⟨x, hx, hhandle⟩ := he
    cases (hs.endpoints e x hx).2.2.symm.trans hhandle
  have hbegin : InOrder { node := s } := by
    refine ⟨hs.panic, fun e x hx ↦ ?_, fun h hh ↦ ?_, fun p i q hq ↦ ?_, fun e h hgiven ↦ ?_⟩
    · obtain ⟨hreason, hactive, -⟩ := hs.endpoints e x hx
      refine ⟨fun _ ↦ hactive, fun hsome ↦ ?_⟩
      rw [hreason] at hsome
      cases hsome
    · rcases hh with hloose | hheld
      · cases hloose
      · exact absurd hheld (hnone h)
    · rw [hs.loads p i q hq, holders_eq, List.countP_nil, Nat.zero_add, eq_comm,
        List.countP_eq_zero]
      rintro (_ | h) hheld
      · exact Bool.false_ne_true
      · exact absurd hheld (hnone h)
    · cases hgiven
  exact (hbegin.run? htimely hrun).accounted

end Estate

namespace Specimen

/-- Two clients that were not used yet, and a pool. -/
def newcomers : Node where
  endpoints := [{ type := ⟨.tcpClient, ""⟩ }, { type := ⟨.tcpClient, ""⟩ }]
  pools := [Pool.new "pool" 4]

/-- One gets a slot and the other a queue of its own, and both are disconnected. -/
def departures : List Deal :=
  [.acquire 0, .own "client", .act (.beginConnect 0), .act (.beginConnect 1), .give 1 1,
    .act (.disconnect 1 .requested), .act (.markConnected 1), .give 0 0, .act (.markConnected 0),
    .act (.disconnect 0 .connectionLost), .act (.disconnect 0 .requested)]

/-- Each is disconnected before it is given what it is to hold. -/
def overtaken : List Deal :=
  [.acquire 0, .own "client", .act (.beginConnect 0), .act (.beginConnect 1),
    .act (.disconnect 0 .requested), .act (.disconnect 1 .requested), .give 0 0, .give 1 0,
    .act (.markConnected 0), .act (.markConnected 1)]

theorem vacant_newcomers : newcomers.Vacant where
  panic := rfl
  endpoints e x hx := by
    match e, hx with
    | 0, rfl => decide
    | 1, rfl => decide
    | e + 2, hx => cases hx
  loads p i q hq := by
    match p, hq with
    | 0, hq => cases hq
    | p + 1, hq => cases hq

end Specimen

/-- What comes too late stays with the endpoint: its queue is open, and its slot counts. -/
theorem Estate.belated_keeps :
    ∃ a, Estate.run? { node := Specimen.newcomers } Specimen.overtaken = some a ∧
      (∃ x, a.node.endpoint? 0 = some x ∧ x.state = .disconnected ∧
        x.handle = some (.pooled 0 ⟨0, false⟩) ∧ x.outbox.filling = true) ∧
      (∃ q, a.node.queue? (.pooled 0 0) = some q ∧ q.load = 1) ∧
      (∃ x, a.node.endpoint? 1 = some x ∧ x.state = .disconnected ∧
        x.handle = some (.dedicated 0) ∧ x.outbox.filling = true) ∧
      (∃ q, a.node.queue? (.dedicated 0) = some q ∧ q.disposed = false) ∧ ¬ a.Accounted := by
  have hsome : (Estate.run? { node := Specimen.newcomers } Specimen.overtaken).isSome = true := by
    decide +kernel
  obtain ⟨a, ha⟩ := Option.isSome_iff_exists.1 hsome
  have hfirst : (Estate.run? { node := Specimen.newcomers } Specimen.overtaken).map
      (fun a ↦ (a.node.endpoint? 0).map Endpoint.stance) =
        some (some ⟨.disconnected, some .requested, some (.pooled 0 ⟨0, false⟩), true⟩) := by
    decide +kernel
  have hsecond : (Estate.run? { node := Specimen.newcomers } Specimen.overtaken).map
      (fun a ↦ (a.node.endpoint? 1).map Endpoint.stance) =
        some (some ⟨.disconnected, some .requested, some (.dedicated 0), true⟩) := by
    decide +kernel
  have hslot : (Estate.run? { node := Specimen.newcomers } Specimen.overtaken).map
      (fun a ↦ (a.node.queue? (.pooled 0 0)).map Queue.account) = some (some (1, false)) := by
    decide +kernel
  have hown : (Estate.run? { node := Specimen.newcomers } Specimen.overtaken).map
      (fun a ↦ (a.node.queue? (.dedicated 0)).map Queue.account) = some (some (0, false)) := by
    decide +kernel
  rw [ha, Option.map_some, Option.some.injEq, Option.map_eq_some_iff] at hfirst hsecond hslot hown
  obtain ⟨x, hx, hstance⟩ := hfirst
  obtain ⟨y, hy, hstance'⟩ := hsecond
  obtain ⟨q, hq, haccount⟩ := hslot
  obtain ⟨q', hq', haccount'⟩ := hown
  have hstate : x.state = .disconnected := congrArg Stance.state hstance
  have hhandle : x.handle = some _ := congrArg Stance.handle hstance
  refine ⟨a, ha, ⟨x, hx, hstate, hhandle, congrArg Stance.filling hstance⟩,
    ⟨q, hq, congrArg Prod.fst haccount⟩,
    ⟨y, hy, congrArg Stance.state hstance', congrArg Stance.handle hstance',
      congrArg Stance.filling hstance'⟩, ⟨q', hq', congrArg Prod.snd haccount'⟩, fun h ↦ ?_⟩
  cases (h.disconnected 0 x hx hstate).1.symm.trans hhandle

/-- Nothing is held in the end. -/
theorem Estate.accounted_departures :
    ∃ a, Estate.run? { node := Specimen.newcomers } Specimen.departures = some a ∧ a.Accounted ∧
      a.given = [(1, .dedicated 0), (0, .pooled 0 ⟨0, false⟩)] ∧
      (∃ q, a.node.queue? (.pooled 0 0) = some q ∧ q.load = 0) ∧
      ∃ q, a.node.queue? (.dedicated 0) = some q ∧ q.disposed = true := by
  have hsome : (Estate.run? { node := Specimen.newcomers } Specimen.departures).isSome = true := by
    decide +kernel
  obtain ⟨a, ha⟩ := Option.isSome_iff_exists.1 hsome
  have hgiven : (Estate.run? { node := Specimen.newcomers } Specimen.departures).map (·.given) =
      some [(1, .dedicated 0), (0, .pooled 0 ⟨0, false⟩)] := by decide +kernel
  have hpooled : (Estate.run? { node := Specimen.newcomers } Specimen.departures).map
      (fun a ↦ (a.node.queue? (.pooled 0 0)).map Queue.account) = some (some (0, false)) := by
    decide +kernel
  have hended : (Estate.run? { node := Specimen.newcomers } Specimen.departures).map
      (fun a ↦ (a.node.endpoint? 1).map Endpoint.stance) =
        some (some ⟨.disconnected, some .requested, none, false⟩) := by
    decide +kernel
  rw [ha, Option.map_some, Option.some.injEq] at hgiven hpooled hended
  obtain ⟨q, hq, haccount⟩ := Option.map_eq_some_iff.1 hpooled
  obtain ⟨x, hx, hstance⟩ := Option.map_eq_some_iff.1 hended
  have haccounted := accounted_of_run Specimen.vacant_newcomers (by decide +kernel) ha
  have hgave : (1, Handle.dedicated 0) ∈ a.given := by
    rw [hgiven]
    exact List.mem_cons_self
  have hdisposed := (haccounted.disconnected 1 x hx (congrArg Stance.state hstance)).2.2 0 hgave
  exact ⟨a, ha, haccounted, hgiven, ⟨q, hq, congrArg Prod.fst haccount⟩, hdisposed⟩

end MessageEngine
