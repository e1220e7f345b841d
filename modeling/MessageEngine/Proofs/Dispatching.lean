import MessageEngine.Proofs.Bystander
import MessageEngine.Proofs.RegistryTables

/-!
# Which handler sees a message

The tables keep a handler under the type of its messages and the kind of its
receivers, in a form that takes any message and any receiver.  It finds out
for itself whether it was made for them.  By then the message is of the right
type, whatever was registered in whatever order; the receiver need not be,
since several types of endpoint are of one kind.  Only the last handler for
the pair is asked, it runs once or not at all, and whatever it ends with is
what the dispatch reports.
-/

namespace MessageEngine

variable {ρ σ : Type}

theorem Outcome.report_ne_false (outcome : Outcome) : outcome.report ≠ .ok false := by
  cases outcome with
  | ok => simp [report]
  | failed chain => simp [report]
  | panicked payload => simp [report]

structure Recipient (ρ : Type) where
  type : EndpointType
  self : ρ

/-- A handler that was run, with what it was given. -/
structure Run (ρ : Type) where
  handler : Handler
  message : Message
  recipient : Recipient ρ

/-- What handlers do to a state. -/
abbrev Effects (ρ σ : Type) := Run ρ → σ → σ × Outcome

/-- The same effects, with a record of what was run. -/
def Effects.recorded (effects : Effects ρ σ) : Effects ρ (List (Run ρ) × σ) := fun run (runs, s) ↦
  ((runs ++ [run], (effects run s).1), (effects run s).2)

namespace Registry

def handle (r : Registry) (effects : Effects ρ σ) (m : Message) (x : Recipient ρ) (s : σ) :
    σ × Except HandlerFailure Bool :=
  r.dispatch (fun h s ↦ effects ⟨h, m, x⟩ s) m x.type s

/-- Some handler was made for the type, registered by then, and this kind of receiver. -/
def Handled (history : List Registration) (t : MessageType) (kind : EndpointKind) : Prop :=
  ∃ h before later, history = before ++ .handler t h :: later ∧ Registered before t ∧
    h.receiver.kind = kind

variable {r : Registry} {history : List Registration} {t : MessageType} {h : Handler}
  {kind : EndpointKind} {effects : Effects ρ σ} {m : Message} {x : Recipient ρ} {s : σ}

theorem Kept.handled (hkept : Kept history t kind h) : Handled history t kind := by
  obtain ⟨before, later, hsplit, ht, hkind, -⟩ := hkept
  exact ⟨h, before, later, hsplit, ht, hkind⟩

theorem Kept.unique {g : Handler} (hh : Kept history t kind h) (hg : Kept history t kind g) :
    g = h := by
  have hlast := handler?_of.2 hh
  rw [handler?_of.2 hg] at hlast
  exact Option.some.inj hlast

theorem exists_kept_of_handled (hhandled : Handled history t kind) :
    ∃ h, Kept history t kind h := by
  induction history using List.reverseRecOn with
  | nil =>
      obtain ⟨h, hsplit⟩ := hhandled
      exact absurd hsplit not_exists_split_nil
  | append_singleton history a ih =>
      simp only [kept_concat]
      by_cases ha : ∃ g, a = .handler t g ∧ Registered history t ∧ g.receiver.kind = kind
      · -- the last attempt takes the place of all before
        obtain ⟨g, hg⟩ := ha
        exact ⟨g, .inr hg⟩
      · obtain ⟨h, hsplit⟩ := hhandled
        rcases exists_split_concat.1 hsplit with hbefore | hlast
        · obtain ⟨g, hkept⟩ := ih ⟨h, hbefore⟩
          refine ⟨g, .inl ⟨hkept, ?_⟩⟩
          intro g' hg' hkind
          exact ha ⟨g', hg', hkept.registered, hkind⟩
        · exact absurd ⟨h, hlast⟩ ha

theorem handler?_eq_none_iff :
    (of history).handler? (t, kind) = none ↔ ¬ Handled history t kind := by
  rw [Option.eq_none_iff_forall_ne_some]
  constructor
  · intro hnone hhandled
    obtain ⟨h, hkept⟩ := exists_kept_of_handled hhandled
    exact hnone h (handler?_of.2 hkept)
  · intro hnone h hkept
    exact hnone (handler?_of.1 hkept).handled

/-! ## From the lists -/

theorem handle_of_unhandled (hnone : r.handler? (m.type, x.type.kind) = none) :
    r.handle effects m x s = (s, .ok false) := by
  simp only [handle, dispatch, select, hnone]

theorem handle_of_other (hsome : r.handler? (m.type, x.type.kind) = some h)
    (hother : h.receiver ≠ x.type) :
    r.handle effects m x s = (s, .error .receiverMismatch) := by
  simp only [handle, dispatch, select, hsome, if_neg hother]

theorem handle_of_same (hsome : r.handler? (m.type, x.type.kind) = some h)
    (hsame : h.receiver = x.type) :
    r.handle effects m x s = ((effects ⟨h, m, x⟩ s).1, (effects ⟨h, m, x⟩ s).2.report) := by
  simp only [handle, dispatch, select, hsome, if_pos hsame]

/-- What becomes of a message for a recipient: what is run, what is left behind, and the answer. -/
structure Settles (history : List Registration) (effects : Effects ρ σ) (m : Message)
    (x : Recipient ρ) (s : σ) (runs : List (Run ρ)) (s' : σ)
    (answer : Except HandlerFailure Bool) : Prop where
  unhandled_iff : answer = .ok false ↔ ¬ Handled history m.type x.type.kind
  unhandled (absent : ¬ Handled history m.type x.type.kind) : runs = [] ∧ s' = s
  handled (present : Handled history m.type x.type.kind) : ∃ h, Kept history m.type x.type.kind h
  /-- The last handler was made for another type of the same kind. -/
  other (h : Handler) (last : Kept history m.type x.type.kind h) (differs : h.receiver ≠ x.type) :
    runs = [] ∧ s' = s ∧ answer = .error .receiverMismatch
  same (h : Handler) (last : Kept history m.type x.type.kind h) (fits : h.receiver = x.type) :
    runs = [⟨h, m, x⟩] ∧ s' = (effects ⟨h, m, x⟩ s).1 ∧
      answer = (effects ⟨h, m, x⟩ s).2.report

theorem settles_of (history : List Registration) (effects : Effects ρ σ) (m : Message)
    (x : Recipient ρ) (s : σ) :
    Settles history effects m x s ((of history).handle effects.recorded m x ([], s)).1.1
      ((of history).handle effects m x s).1 ((of history).handle effects m x s).2 := by
  cases hhandler : (of history).handler? (m.type, x.type.kind) with
  | none =>
      have hnone := handler?_eq_none_iff.1 hhandler
      rw [handle_of_unhandled hhandler, handle_of_unhandled hhandler]
      constructor
      · exact iff_of_true rfl hnone
      · exact fun _ ↦ ⟨rfl, rfl⟩
      · exact fun hhandled ↦ absurd hhandled hnone
      · intro h hlast
        exact absurd hlast.handled hnone
      · intro h hlast
        exact absurd hlast.handled hnone
  | some h =>
      have hkept := handler?_of.1 hhandler
      by_cases hsame : h.receiver = x.type
      · rw [handle_of_same hhandler hsame, handle_of_same hhandler hsame]
        constructor
        · exact iff_of_false (Outcome.report_ne_false _) (not_not_intro hkept.handled)
        · exact fun hnone ↦ absurd hkept.handled hnone
        · exact fun _ ↦ ⟨h, hkept⟩
        · intro g hg hother
          rw [hkept.unique hg] at hother
          exact absurd hsame hother
        · intro g hg _
          obtain rfl := hkept.unique hg
          exact ⟨rfl, rfl, rfl⟩
      · rw [handle_of_other hhandler hsame, handle_of_other hhandler hsame]
        constructor
        · exact iff_of_false nofun (not_not_intro hkept.handled)
        · exact fun hnone ↦ absurd hkept.handled hnone
        · exact fun _ ↦ ⟨h, hkept⟩
        · exact fun _ _ _ ↦ ⟨rfl, rfl, rfl⟩
        · intro g hg hfits
          rw [hkept.unique hg] at hfits
          exact absurd hfits hsame

/-- The handler that fits the recipient was kept first and is not asked. -/
example :
    let t : MessageType := { name := "Ping", id := 1, version := 1, registered := 1, fields := [] }
    let wolf : EndpointType := { kind := .udpConnection, name := "wolf" }
    let sheep : EndpointType := { kind := .udpConnection, name := "sheep" }
    let h (receiver : EndpointType) : Handler := ⟨"h", receiver, fun _ ↦ .done .ok⟩
    let r := of [.message t, .handler t (h wolf), .handler t (h sheep)]
    r.handle (fun _ runs ↦ (runs + 1, .ok)) (.initial t) ⟨wolf, ()⟩ 0 =
      (0, .error .receiverMismatch) := rfl

/-! ## From the tables -/

/-- How a call ends: with a value, or with a panic and its payload. -/
abbrev Unwinding (α : Type) := Except (Option String) α

def unwind : Outcome → Unwinding (Except (List String) Unit)
  | .ok => .ok (.ok ())
  | .failed chain => .ok (.error chain)
  | .panicked payload => .error payload

/-- Call a handler that was kept in a form that takes any message and any recipient. -/
def Callee.call (c : Callee) (effects : Effects ρ σ) (m : Message) (x : Recipient ρ) (s : σ) :
    σ × Unwinding (Except (List String) Unit) :=
  if m.type = c.type then
    if x.type = c.handler.receiver then
      let (s, outcome) := effects ⟨c.handler, m, x⟩ s
      (s, unwind outcome)
    else (s, .ok (.error ["receiver type mismatch"]))
  else (s, .ok (.error ["message type mismatch"]))

/-- Stop a panic, and report how the call ended. -/
def stop : Unwinding (Except (List String) Unit) → Unwinding (Except HandlerFailure Bool)
  | .ok (.ok ()) => .ok (.ok true)
  | .ok (.error chain) => .ok (.error (.failed chain))
  | .error payload => .ok (.error (.panicked (payload.getD "non-string panic payload")))

/-- Look a handler up and call it.  Only the call is kept from unwinding. -/
def Tables.dispatch (T : Tables) (effects : Effects ρ σ) (m : Message) (x : Recipient ρ) (s : σ) :
    σ × Unwinding (Except HandlerFailure Bool) :=
  match T.handlers[(m.type, x.type.kind)]? with
  | none => (s, .ok (.ok false))
  | some c =>
    let (s, ending) := c.call effects m x s
    (s, stop ending)

theorem stop_unwind (outcome : Outcome) : stop (unwind outcome) = .ok outcome.report := by
  cases outcome with
  | ok => rfl
  | failed chain => rfl
  | panicked payload => rfl

/-- A dispatch from the tables: the handler is called for messages of its type only, nothing
unwinds, and the rest is as it is from the lists. -/
structure Tables.Dispatches (T : Tables) (r : Registry) (effects : Effects ρ σ) (m : Message)
    (x : Recipient ρ) (s : σ) : Prop where
  type (c : Callee) (kept : T.handlers[(m.type, x.type.kind)]? = some c) : m.type = c.type
  dispatch : T.dispatch effects m x s =
    ((r.handle effects m x s).1, .ok (r.handle effects m x s).2)

theorem Tables.Shows.type_eq {T : Tables} {c : Callee} (hT : T.Shows r)
    (hc : T.handlers[(t, kind)]? = some c) : t = c.type := by
  rw [hT.handlers, Option.map_eq_some_iff] at hc
  obtain ⟨h, -, rfl⟩ := hc
  rfl

theorem Tables.Shows.dispatches {T : Tables} (hT : T.Shows r) :
    T.Dispatches r effects m x s where
  type _ kept := hT.type_eq kept
  dispatch := by
    rw [Tables.dispatch, hT.handlers]
    cases hhandler : r.handler? (m.type, x.type.kind) with
    | none =>
        rw [handle_of_unhandled hhandler]
        rfl
    | some h =>
        by_cases hsame : h.receiver = x.type
        · rw [handle_of_same hhandler hsame, ← stop_unwind]
          simp only [Option.map_some, Callee.call, if_true, if_pos hsame.symm]
        · rw [handle_of_other hhandler hsame]
          simp only [Option.map_some, Callee.call, if_true, if_neg (Ne.symm hsame)]
          rfl

end Registry

/-! ## At a node -/

/-- What a handler does at a node leaves the engine as it is, and its panic goes no further. -/
structure Node.Contains (s s' : Node) : Prop where
  engine : s'.engine = s.engine
  panic (calm : s.panic = none) : s'.panic = none

theorem Node.contains_dispatch (s : Node) (e : EndpointRef) (type : EndpointType) (m : Message) :
    s.Contains (s.dispatch e type m) where
  engine := by
    -- nothing that is done for `e` touches the engine that another endpoint sees
    have halone : s.Alone (e + 1) (.pooled 0 0) := by
      intro _ _ i _ _ _
      exact QueueRef.noConfusion
    exact (Spares.dispatch (Nat.ne_of_lt e.lt_succ_self) halone type m).engine
  panic calm := s.panic_dispatch e type m calm

namespace Registry

/-- Whatever was registered in whatever order, a message is for the last handler that was kept for
its type and the kind of its recipient, or for none.  So it is from the lists and from the tables,
and at a node it changes nothing that is registered. -/
theorem dispatched_to_last (history : List Registration) (effects : Effects ρ σ) (m : Message)
    (x : Recipient ρ) (s : σ) :
    Settles history effects m x s ((of history).handle effects.recorded m x ([], s)).1.1
        ((of history).handle effects m x s).1 ((of history).handle effects m x s).2 ∧
      (Tables.of history).Dispatches (of history) effects m x s ∧
      ∀ (node : Node) (e : EndpointRef), node.Contains (node.dispatch e x.type m) := by
  refine ⟨settles_of history effects m x s, (shows_of history).dispatches, ?_⟩
  intro node e
  exact node.contains_dispatch e x.type m

end Registry

end MessageEngine
