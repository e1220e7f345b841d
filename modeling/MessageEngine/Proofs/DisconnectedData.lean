import MessageEngine.Proofs.Handling

/-!
# What a disconnect does to data that was received

The reset of the buffer is itself a job and stands behind all parses, so
what came before the disconnect is parsed as if nothing had happened.
Whether it is handled is up to the reason.  Behind the disconnect nothing
comes in any more, and so the buffer stays empty once the reset was done.
-/

namespace MessageEngine

namespace Node

variable {b : EndpointRef} {r : QueueRef} {g : Engine} {type : EndpointType} {p : Progress}
  {s s' : Node}

/-- A run that ends with a reason that drops nothing brings the endpoint further in all that it
took, if that is well-formed. -/
theorem Reception.run? {acts : List Act} (h : s.Reception b r g type p)
    (husual : ∀ act ∈ acts, act.Usual r) (hrun : s.run? acts = some s')
    (hslow : Along (Slow b r) s acts)
    (hkeeps : ∀ reason, s'.reason? b = some reason → reason.discardsPending = false)
    (hgood : ∀ failure,
      g.protocol.parse g.registry (p.received ++ accepted b s acts) ≠ .error failure) :
    ∃ p', s'.Reception b r g type p' ∧ p'.received = p.received ++ accepted b s acts := by
  induction acts generalizing s p with
  | nil =>
      cases hrun
      exact ⟨p, h, (List.append_nil _).symm⟩
  | cons act acts ih =>
      obtain ⟨s₁, hact, hrest⟩ := run?_cons.1 hrun
      obtain ⟨hfirst, hothers⟩ := hslow s₁ hact
      have hothers' : ∀ a ∈ acts, a.Usual r := fun a ha ↦ husual a (List.mem_cons_of_mem act ha)
      have hact' := husual act List.mem_cons_self
      -- a reason that the endpoint has now is the one that it has in the end
      have hkeeps₁ : ∀ reason, s₁.reason? b = some reason → reason.discardsPending = false := by
        intro reason hreason
        have hended : s₁.Ended b r reason 0 := by
          have hnow : s₁.Open b r ∨ ∃ reason, s₁.Ended b r reason 0 := by
            rcases h.open_or_ended with hopen | ⟨first, hended⟩
            · exact hopen.act? hact' hact
            · exact .inr ⟨first, (hended.act? hact' hact).1⟩
          rcases hnow with hopen | ⟨first, hended⟩
          · rw [hopen.reason?] at hreason
            cases hreason
          · rw [hended.reason?, Option.some.injEq] at hreason
            exact hreason ▸ hended
        exact hkeeps reason (hended.run? hothers' hrest).1.reason?
      rw [accepted_cons hact, ← List.append_assoc] at hgood ⊢
      have hgood₁ : ∀ failure, g.protocol.parse g.registry p.received ≠ .error failure := by
        intro failure hfailure
        have hmore := Protocol.parse_error_append hfailure (hears b s act ++ accepted b s₁ acts)
        rw [← List.append_assoc] at hmore
        exact hgood failure hmore
      obtain ⟨p₁, hreception, hreceived, -, -⟩ :=
        h.act? hact' hact (fun _ _ ↦ hgood₁) (fun _ ↦ hkeeps₁) hfirst
      rw [← hreceived] at hgood ⊢
      exact ih hreception hothers' hrest hothers hgood

/-- Let an endpoint be disconnected, from outside, by a parse, for its rate or by a handler.  If the
reason drops nothing, what it had taken is still dispatched, in order and each once; else nothing
is dispatched any more.  In both cases what is offered to it changes nothing, and from when nothing
is left to be done for it, its buffer is empty. -/
theorem dispatched_after_disconnect {x : Endpoint} {acts : List Act} {reason : DisconnectReason}
    (h : s.Listens b r) (hx : s.endpoint? b = some x) (husual : ∀ act ∈ acts, act.Usual r)
    (hrun : s.run? acts = some s') (hreason : s'.reason? b = some reason) :
    (reason.discardsPending = false → Along (Slow b r) s acts → ∀ ms rest,
      (s.engine b).parse (accepted b s acts) = .ok (ms, rest) →
        s'.dispatched b <+: ms.map (fun m ↦ (m, (s.engine b).registry.handles m x.type)) ∧
          (s'.Idle b r →
            s'.dispatched b = ms.map fun m ↦ (m, (s.engine b).registry.handles m x.type))) ∧
      (reason.discardsPending = true → ∀ more s'', (∀ act ∈ more, act.Usual r) →
        s'.run? more = some s'' → s''.dispatched b = s'.dispatched b) ∧
      (∀ data, s'.receive b data = s') ∧
      (s'.Idle b r → ∀ more s'', (∀ act ∈ more, act.Usual r) → s'.run? more = some s'' →
        ∃ y, s''.endpoint? b = some y ∧ y.reason = some reason ∧ y.buffer = []) := by
  have hended : s'.Ended b r reason 0 := by
    rcases h.open.run? husual hrun with hopen | ⟨first, hended⟩
    · rw [hopen.reason?] at hreason
      cases hreason
    · rw [hended.reason?, Option.some.injEq] at hreason
      exact hreason ▸ hended
  refine ⟨?_, ?_, ?_, ?_⟩
  · intro hkeeps hslow ms rest hparse
    have hkeeps' : ∀ last, s'.reason? b = some last → last.discardsPending = false := by
      intro last hlast
      rw [hreason, Option.some.injEq] at hlast
      exact hlast ▸ hkeeps
    have hgood : ∀ failure, (s.engine b).parse ([] ++ accepted b s acts) ≠ .error failure := by
      intro failure hfailure
      rw [List.nil_append, hparse] at hfailure
      cases hfailure
    obtain ⟨p, hreception, hreceived⟩ :=
      (h.reception hx).run? husual hrun hslow hkeeps' hgood
    rw [← List.nil_append (accepted b s acts), ← hreceived] at hparse
    refine ⟨hreception.prefix_of_parse_ok (List.append_nil p.received ▸ hparse), fun hidle ↦ ?_⟩
    rw [Engine.parse, (hreception.drained hidle).1, Except.ok.injEq, Prod.mk.injEq] at hparse
    rw [hreception.dispatched, hparse.1]
  · intro hdiscards more s'' hmore hrun'
    exact (hended.run? hmore hrun').2 hdiscards
  · intro data
    exact hended.receive data
  · intro hidle more s'' hmore hrun'
    obtain ⟨y, hy, -, hreason', hbuffer⟩ :=
      (hended.run? hmore hrun').1.buffer (hended.idle_run? hidle hmore hrun')
    exact ⟨y, hy, hreason', hbuffer⟩

end Node

namespace Specimen

/-- A handler that disconnects its receiver. -/
def parting (reason : DisconnectReason) : Handler :=
  ⟨"parting", ⟨.tcpConnection, ""⟩, fun _ ↦ .disconnect reason fun _ ↦ .done .ok⟩

/-- A connection that is disconnected by the first of its messages. -/
def farewell (reason : DisconnectReason) : Node where
  engine _ := {
    registry := { types := [reading], handlers := [((reading, .tcpConnection), parting reason)] }
    protocol := masked }
  endpoints := [{
    type := ⟨.tcpConnection, ""⟩, state := .connected, handle := some (.dedicated 0) }]
  queues := [{ name := "peer" }]

/-- Two messages come in one piece, and the first is handled. -/
def batch : List Act :=
  [.receive 0 [7, 0, 17, 0, 0, 0, 3, 1, 0, 192, 127, 2, 0, 0, 0, 1, 1, 0, 0, 0, 97, 0, 95, 7, 0, 10,
      0, 0, 0, 3, 0, 0, 0, 0, 0, 0, 0, 0, 95],
    .work (.dedicated 0), .work (.dedicated 0)]

/-- More octets come, and the queue is worked off. -/
def remainder : List Act := [.receive 0 [7, 0], .work (.dedicated 0), .work (.dedicated 0)]

theorem farewell_listens (reason : DisconnectReason) :
    (farewell reason).Listens 0 (.dedicated 0) where
  panic := rfl
  endpoint := ⟨_, rfl, rfl, rfl, _, rfl, rfl⟩
  alone e x i he hx := by
    cases e with
    | zero => exact absurd rfl he
    | succ e =>
        rw [Node.endpoint?] at hx
        cases hx
  queue := ⟨{ name := "peer" }, rfl, rfl, by decide +kernel, fun _ h ↦ absurd h List.not_mem_nil⟩
  dispatched := rfl

end Specimen

/-- The message behind the one whose handler disconnects is handled if that was on request, and
dropped if it was for spam. -/
theorem Node.dispatched_after_disconnect_batch :
    (∃ s', (Specimen.farewell .requested).run? (Specimen.batch ++ Specimen.remainder) = some s' ∧
        s'.dispatched 0 = [(Specimen.first, true), (Specimen.second, true)] ∧
        ∃ y, s'.endpoint? 0 = some y ∧ y.reason = some .requested ∧ y.buffer = []) ∧
      ∃ s' s'', (Specimen.farewell .spam).run? Specimen.batch = some s' ∧
        s'.run? Specimen.remainder = some s'' ∧ s''.dispatched 0 = s'.dispatched 0 := by
  constructor
  · have hsome : ((Specimen.farewell .requested).run?
        (Specimen.batch ++ Specimen.remainder)).isSome = true := by decide +kernel
    obtain ⟨s', hs'⟩ := Option.isSome_iff_exists.1 hsome
    have hend : ∀ s ∈ (Specimen.farewell .requested).run? (Specimen.batch ++ Specimen.remainder),
        s.reason? 0 = some .requested ∧ s.Idle 0 (.dedicated 0) := by
      decide +kernel
    have hparse : ((Specimen.farewell .requested).engine 0).protocol.parse
        ((Specimen.farewell .requested).engine 0).registry
        (accepted 0 (Specimen.farewell .requested) (Specimen.batch ++ Specimen.remainder)) =
          .ok ([Specimen.first, Specimen.second], []) := by
      decide +kernel
    obtain ⟨hreason, hidle⟩ := hend s' hs'
    obtain ⟨hkept, -, -, hempty⟩ := dispatched_after_disconnect
      (Specimen.farewell_listens .requested) rfl (by decide) hs' hreason
    exact ⟨s', hs', (hkept rfl (by decide +kernel) _ _ hparse).2 hidle,
      hempty hidle [] s' (fun _ h ↦ absurd h List.not_mem_nil) rfl⟩
  · have hsome : ((Specimen.farewell .spam).run? Specimen.batch).isSome = true := by
      decide +kernel
    obtain ⟨s', hs'⟩ := Option.isSome_iff_exists.1 hsome
    have hend : ∀ s ∈ (Specimen.farewell .spam).run? Specimen.batch,
        s.reason? 0 = some .spam ∧ (s.run? Specimen.remainder).isSome = true := by
      decide +kernel
    obtain ⟨hreason, hmore⟩ := hend s' hs'
    obtain ⟨s'', hs''⟩ := Option.isSome_iff_exists.1 hmore
    obtain ⟨-, hdropped, -, -⟩ := dispatched_after_disconnect
      (Specimen.farewell_listens .spam) rfl (by decide) hs' hreason
    exact ⟨s', s'', hs', hs'', hdropped rfl Specimen.remainder s'' (by decide) hs''⟩

end MessageEngine
