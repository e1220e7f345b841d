import MessageEngine.Proofs.Reception

/-!
# Runs of a node

Whatever happens to the endpoints of a node is a row of acts: calls from
outside and steps of workers, in any order.  A panic ends with the call that
came to it.
-/

namespace MessageEngine

section

variable {σ α : Type} {step : σ → α → Option σ} {s s' : σ} {l : List α}

theorem foldlM_cons_eq_some {a : α} :
    (a :: l).foldlM step s = some s' ↔ ∃ s₁, step s a = some s₁ ∧ l.foldlM step s₁ = some s' := by
  rw [List.foldlM_cons, Option.bind_eq_bind, Option.bind_eq_some_iff]

/-- What every step preserves, a run preserves. -/
theorem foldlM_induction {Inv : σ → Prop} (hbegin : Inv s) (hrun : l.foldlM step s = some s')
    (hstep : ∀ a s₁ s₂, Inv s₁ → step s₁ a = some s₂ → Inv s₂) : Inv s' := by
  induction l generalizing s with
  | nil =>
      cases hrun
      exact hbegin
  | cons a l ih =>
      obtain ⟨s₁, hfirst, hrest⟩ := foldlM_cons_eq_some.1 hrun
      exact ih (hstep a s s₁ hbegin hfirst) hrest

end

/-- What can happen to the endpoints of a node. -/
inductive Act
  | beginConnect (e : EndpointRef)
  | abortConnect (e : EndpointRef)
  | attach (e : EndpointRef) (h : Handle)
  | markConnected (e : EndpointRef)
  | send (e : EndpointRef) (m : Message)
  | receive (e : EndpointRef) (data : Bytes)
  | onDisconnect (e : EndpointRef) (hook : Hook)
  | disconnect (e : EndpointRef) (reason : DisconnectReason)
  /-- A new window of time begins for the rate of an endpoint. -/
  | renew (e : EndpointRef)
  /-- The worker of a queue takes a step. -/
  | work (r : QueueRef)
  deriving DecidableEq

/-- Connected endpoints are used, and the worker of the queue runs. -/
def Act.Usual (r : QueueRef) : Act → Prop
  | .send _ _ | .receive _ _ | .onDisconnect _ _ | .disconnect _ _ | .renew _ => True
  | .work t => t = r
  | .beginConnect _ | .abortConnect _ | .attach _ _ | .markConnected _ => False

instance (r : QueueRef) : DecidablePred (Act.Usual r) := fun act ↦ by
  cases act <;> unfold Act.Usual <;> infer_instance

namespace Node

/-- What an act leads to, if it can happen. -/
def act? (s : Node) : Act → Option Node
  | .beginConnect e => some (s.beginConnect e).1
  | .abortConnect e => some (s.abortConnect e)
  | .attach e h => some (s.attach e h)
  | .markConnected e => some (s.markConnected e).1
  | .send e m => some (s.send e m).1
  | .receive e data => some { s.receive e data with panic := none }
  | .onDisconnect e hook => some (s.onDisconnect e hook)
  | .disconnect e reason => some { (s.disconnect e reason).1 with panic := none }
  | .renew e => some (s.modifyEndpoint e fun x ↦ { x with rate := x.rate.renew })
  | .work r => s.work? r

/-- What some acts lead to, one after the other. -/
def run? (s : Node) : List Act → Option Node
  | [] => some s
  | act :: acts => (s.act? act).bind fun s' ↦ s'.run? acts

/-- It holds of every act on the way, with the nodes before and behind it. -/
def Along (P : Node → Act → Node → Prop) : Node → List Act → Prop
  | _, [] => True
  | s, act :: acts => ∀ s' ∈ s.act? act, P s act s' ∧ Along P s' acts

instance decidableAlong (P : Node → Act → Node → Prop) [∀ s act s', Decidable (P s act s')] :
    (acts : List Act) → (s : Node) → Decidable (Along P s acts)
  | [], _ => inferInstanceAs (Decidable True)
  | act :: acts, s =>
    have : DecidablePred fun s' ↦ P s act s' ∧ Along P s' acts := fun s' ↦
      have := decidableAlong P acts s'
      inferInstanceAs (Decidable (_ ∧ _))
    inferInstanceAs (Decidable (∀ s' ∈ s.act? act, _))

variable {b : EndpointRef} {r : QueueRef} {s s' : Node}

theorem run?_cons {act : Act} {acts : List Act} :
    s.run? (act :: acts) = some s' ↔ ∃ s₁, s.act? act = some s₁ ∧ s₁.run? acts = some s' := by
  rw [run?, Option.bind_eq_some_iff]

theorem run?_append {acts more : List Act} :
    s.run? (acts ++ more) = some s' ↔ ∃ s₁, s.run? acts = some s₁ ∧ s₁.run? more = some s' := by
  induction acts generalizing s with
  | nil => exact ⟨fun h ↦ ⟨s, rfl, h⟩, fun ⟨_, hs, h⟩ ↦ by cases hs; exact h⟩
  | cons act acts ih =>
      simp only [List.cons_append, run?_cons, ih]
      constructor
      · rintro ⟨s₁, hact, s₂, hacts, hmore⟩
        exact ⟨s₂, ⟨s₁, hact, hacts⟩, hmore⟩
      · rintro ⟨s₂, ⟨s₁, hact, hacts⟩, hmore⟩
        exact ⟨s₁, hact, s₂, hacts, hmore⟩

/-- What every act preserves, a run preserves. -/
theorem run?_induction {Inv : Node → Prop} {acts : List Act} (h : Inv s)
    (hrun : s.run? acts = some s')
    (hstep : ∀ act ∈ acts, ∀ s₁ s₂, Inv s₁ → s₁.act? act = some s₂ → Inv s₂) : Inv s' := by
  induction acts generalizing s with
  | nil =>
      cases hrun
      exact h
  | cons act acts ih =>
      obtain ⟨s₁, hact, hrest⟩ := run?_cons.1 hrun
      have hfirst := hstep act List.mem_cons_self s s₁ h hact
      exact ih hfirst hrest fun a ha ↦ hstep a (List.mem_cons_of_mem act ha)

/-- The octets that an act offers to an endpoint. -/
def offer (b : EndpointRef) : Act → Bytes
  | .receive e data => if e = b then data else []
  | _ => []

/-- The octets that are offered to an endpoint on the way, whether it takes them or not. -/
def offered (b : EndpointRef) (acts : List Act) : Bytes := acts.flatMap (offer b)

/-- The octets that an endpoint takes of an act: those that are offered while it is connected. -/
def hears (b : EndpointRef) (s : Node) (act : Act) : Bytes :=
  if s.isConnected b then offer b act else []

/-- The octets that an endpoint takes on the way. -/
def accepted (b : EndpointRef) : Node → List Act → Bytes
  | _, [] => []
  | s, act :: acts =>
    match s.act? act with
    | none => []
    | some s' => hears b s act ++ accepted b s' acts

theorem accepted_cons {act : Act} (h : s.act? act = some s') (acts : List Act) :
    accepted b s (act :: acts) = hears b s act ++ accepted b s' acts := by
  rw [accepted, h]

theorem accepted_append {acts : List Act} {s₁ : Node} (hrun : s.run? acts = some s₁)
    (more : List Act) : accepted b s (acts ++ more) = accepted b s acts ++ accepted b s₁ more := by
  induction acts generalizing s with
  | nil =>
      cases hrun
      rfl
  | cons act acts ih =>
      obtain ⟨s₂, hact, hrest⟩ := run?_cons.1 hrun
      rw [List.cons_append, accepted_cons hact, accepted_cons hact, ih hrest, List.append_assoc]

/-- Nothing is left to be done for an endpoint. -/
def Idle (b : EndpointRef) (r : QueueRef) (s : Node) : Prop :=
  ∀ q ∈ s.queue? r, ∀ j ∈ q.backlog, j.isFor b = false

instance : Decidable (s.Idle b r) :=
  inferInstanceAs (Decidable (∀ q ∈ s.queue? r, _))

/-- An endpoint that has heard nothing yet and has a queue that is open and whose worker can be
started.  The queue may be shared, and may have jobs of others. -/
structure Listens (b : EndpointRef) (r : QueueRef) (s : Node) : Prop where
  panic : s.panic = none
  endpoint : ∃ x, s.endpoint? b = some x ∧ x.reason = none ∧ x.buffer = [] ∧
    ∃ h, x.handle = some h ∧ h.queue = r
  alone : s.Alone b r
  queue : ∃ q, s.queue? r = some q ∧ q.disposed = false ∧ Queue.nameRefusal? q.name = none ∧
    ∀ j ∈ q.backlog, j.isFor b = false
  dispatched : s.dispatched b = []

/-- An act of others leaves an endpoint and its queue alone, and so does one of its own that
neither brings octets nor may end it. -/
theorem Spares.act? {act : Act} (halone : s.Alone b r) (husual : act.Usual r)
    (hact : s.act? act = some s') :
    (Spares b r s s' ∧ offer b act = []) ∨ (∃ data, act = .receive b data) ∨
      (∃ reason, act = .disconnect b reason) ∨ act = .renew b ∨ act = .work r := by
  cases act with
  | beginConnect e => cases husual
  | abortConnect e => cases husual
  | attach e h => cases husual
  | markConnected e => cases husual
  | send e m =>
      cases hact
      exact .inl ⟨.sends (.send s e m), rfl⟩
  | receive e data =>
      by_cases he : e = b
      · subst he
        exact .inr (.inl ⟨data, rfl⟩)
      · cases hact
        exact .inl ⟨(Spares.receive he s data).trans (.panic _ none), if_neg he⟩
  | onDisconnect e hook =>
      cases hact
      exact .inl ⟨.onDisconnect s e hook, rfl⟩
  | disconnect e reason =>
      by_cases he : e = b
      · subst he
        exact .inr (.inr (.inl ⟨reason, rfl⟩))
      · cases hact
        have hspares := Spares.disconnect halone (fun h ↦ absurd h he) reason
        exact .inl ⟨hspares.trans (.panic _ none), rfl⟩
  | renew e =>
      by_cases he : e = b
      · subst he
        exact .inr (.inr (.inr (.inl rfl)))
      · cases hact
        exact .inl ⟨.modifyEndpoint fun x _ ↦ ⟨.inr rfl, fun h ↦ absurd h he⟩, rfl⟩
  | work t =>
      cases husual
      exact .inr (.inr (.inr (.inr rfl)))

theorem panic_work? (hpanic : s.panic = none) (hwork : s.work? r = some s') : s'.panic = none := by
  obtain ⟨q, j, rest, -, -, rfl⟩ := work?_eq_some hwork
  cases j with
  | hold clear => exact (s.panic_modifyQueue r _).trans hpanic
  | mark label panics =>
      rw [execute, panic_modifyQueue]
      cases panics <;> exact hpanic
  | reset e => exact (panic_modifyQueue _ r _).trans hpanic
  | parse e => exact (panic_proceed _ r e _).trans (s.panic_parseReceived e hpanic)
  | handle e messages =>
      cases messages with
      | nil => exact (s.panic_modifyQueue r _).trans hpanic
      | cons m ms =>
          obtain ⟨left, hexecute, -⟩ := s.execute_handle r e m ms
          rw [hexecute, panic_proceed]
          exact s.panic_handleMessage e m hpanic

/-- No panic outlasts the act that came to it. -/
theorem panic_act? {act : Act} (hpanic : s.panic = none) (hact : s.act? act = some s') :
    s'.panic = none := by
  cases act with
  | beginConnect e =>
      cases hact
      rw [beginConnect]
      split
      · exact hpanic
      · split <;> exact hpanic
  | attach e h =>
      cases hact
      rw [attach]
      split
      · exact hpanic
      · split
        · next old _ =>
          rcases drop_cases (s.setEndpoint e _) old with hsame | ⟨hrelease, -⟩
          · rw [hsame]
            exact hpanic
          · rw [hrelease, panic_release]
            exact hpanic
        · exact hpanic
  | markConnected e =>
      cases hact
      rw [markConnected]
      split <;> exact hpanic
  | send e m =>
      cases hact
      exact (Sends.send s e m).panic.trans hpanic
  | onDisconnect e hook =>
      cases hact
      exact (s.panic_onDisconnect e hook).trans hpanic
  | work t => exact panic_work? hpanic hact
  | receive e data =>
      cases hact
      rfl
  | disconnect e reason =>
      cases hact
      rfl
  | abortConnect e =>
      cases hact
      exact hpanic
  | renew e =>
      cases hact
      exact hpanic

end Node

end MessageEngine
