import MessageEngine.Proofs.Calls
import MessageEngine.Proofs.StreamRoundTrip

/-!
# An endpoint ends once

Whatever happens to a node, in any order, the first disconnect of an
endpoint is the only one.  Its reason stays, nothing is begun, sent or
received any more, and every hook is run once for that reason, whether it
was registered before or after, or by another hook.
-/

namespace MessageEngine

namespace Node

variable {b : EndpointRef} {s s' : Node}

/-- What has come of the calls on an endpoint. -/
structure EndsOnce (b : EndpointRef) (calls : List Call) (s : Node) : Prop where
  /-- The first disconnect was answered with true and all others with false.  It panicked instead
  only if a queue has a name under which no worker can be started. -/
  answers : Call.answers calls = [] ∨ ∃ first n,
    Call.answers calls = first :: List.replicate n (.ok false) ∧
      (first = .ok true ∨ ∃ text, first = .error text ∧ s.Refuses text)
  state : ∀ reason, Call.first? calls = some reason →
    ∃ x, s.endpoint? b = some x ∧ x.state = .disconnected ∧ x.reason = some reason
  refuses : ∀ reason, Call.first? calls = some reason →
    s.beginConnect b = (s, .error .terminated) ∧ s.markConnected b = (s, false) ∧
      (∀ m, s.send b m = (s, .error (.network .notConnected))) ∧
      (∀ data, s.receive b data = s) ∧ ∀ other, s.disconnect b other = (s, false)
  /-- The hooks were run in the order in which they were registered, each once, and for the reason
  of the first disconnect. -/
  hooks : Call.notes calls =
    match Call.first? calls with
    | some reason => ((Call.registered calls).flatMap Hook.notes).map (·, reason)
    | none => []
  events : ∃ x, s.endpoint? b = some x ∧
    x.events = Call.marks calls ++ (Call.first? calls).toList.map .disconnected ∧
      Call.marks calls <+: [.connected]
  begins : (s.beginConnect b).2 = .ok () ↔ ∃ x, s.endpoint? b = some x ∧ x.state = .uninitialized
  retries : ∀ x, s.endpoint? b = some x → x.state = .connecting →
    ((s.abortConnect b).beginConnect b).2 = .ok ()

theorem beginConnect_eq_ok_iff :
    (s.beginConnect b).2 = .ok () ↔ ∃ x, s.endpoint? b = some x ∧ x.state = .uninitialized := by
  constructor
  · intro hok
    rw [beginConnect] at hok
    split at hok
    · cases hok
    · next x hx =>
      refine ⟨x, hx, ?_⟩
      rw [Endpoint.beginConnect] at hok
      cases hstate : x.state with
      | uninitialized => rfl
      | _ =>
          rw [hstate] at hok
          cases hok
  · rintro ⟨x, hx, hstate⟩
    rw [beginConnect, hx]
    simp only [Endpoint.beginConnect, hstate]

theorem beginConnect_abortConnect {x : Endpoint} (hx : s.endpoint? b = some x)
    (hstate : x.state = .connecting) : ((s.abortConnect b).beginConnect b).2 = .ok () := by
  refine beginConnect_eq_ok_iff.2 ⟨{ x with state := .uninitialized }, ?_, rfl⟩
  rw [abortConnect, endpoint?_modifyEndpoint_self, hx, Option.map_some, Endpoint.abortConnect,
    if_pos hstate]

/-- Nothing can be done any more with an endpoint that was disconnected. -/
theorem refuses_of_disconnected {x : Endpoint} (hx : s.endpoint? b = some x)
    (hstate : x.state = .disconnected) (hreason : x.reason.isSome = true) :
    s.beginConnect b = (s, .error .terminated) ∧ s.markConnected b = (s, false) ∧
      (∀ m, s.send b m = (s, .error (.network .notConnected))) ∧
      (∀ data, s.receive b data = s) ∧ ∀ other, s.disconnect b other = (s, false) := by
  have hdeaf : s.isConnected b = false := by
    rw [isConnected, hx]
    dsimp only
    rw [hstate]
    rfl
  refine ⟨?_, ?_, ?_, ?_, ?_⟩
  · rw [beginConnect, hx]
    simp only [Endpoint.beginConnect, hstate]
  · have hinactive : x.state.isActive ≠ true := by
      rw [hstate]
      exact Bool.false_ne_true
    have hunmarked : x.markConnected = (x, false) := if_neg hinactive
    rw [markConnected, hx]
    simp only [hunmarked]
    rw [s.setEndpoint_self b hx]
  · intro m
    rw [send, hdeaf, if_neg Bool.false_ne_true]
  · exact receive_of_not_isConnected hdeaf
  · exact s.disconnect_of_reason b hx hreason

/-! ## How often an endpoint is marked -/

theorem mark?_performCalls {e : EndpointRef} {react : Reaction} {c : Call}
    (hc : c ∈ performCalls e react s) : c.mark? = none := by
  induction react generalizing s with
  | done outcome => cases hc
  | note note next ih => exact ih hc
  | send m next ih => exact ih _ hc
  | disconnect reason next ih =>
      rw [performCalls, List.mem_cons] at hc
      rcases hc with rfl | hc
      · rfl
      · split at hc
        · cases hc
        · exact ih _ hc
  | onDisconnect hook next ih =>
      rw [performCalls, List.mem_cons] at hc
      rcases hc with rfl | hc
      · rfl
      · exact ih hc
  | broadcast key m next ih =>
      rw [performCalls] at hc
      split at hc
      · exact ih _ hc
      · exact ih _ hc

/-- Workers mark no endpoint as connected. -/
theorem mark?_jobCalls {j : Job} {c : Call} (hc : c ∈ s.jobCalls j) : c.mark? = none := by
  have hended : ∀ {t : Node} {e : EndpointRef} {reason : DisconnectReason},
      c ∈ [t.disconnectCall e reason] → c.mark? = none := by
    intro t e reason hc
    rw [List.mem_singleton] at hc
    subst hc
    rfl
  cases j with
  | hold clear => cases hc
  | mark label panics => cases hc
  | reset e => cases hc
  | parse e =>
      rw [jobCalls, parseCalls] at hc
      split at hc
      · cases hc
      · split at hc
        · cases hc
        · split at hc
          · exact hended hc
          · cases hc
  | handle e messages =>
      cases messages with
      | nil => cases hc
      | cons m ms =>
          rw [jobCalls, handleCalls] at hc
          split at hc
          · cases hc
          · dsimp only at hc
            split at hc
            · exact hended hc
            · split at hc
              · cases hc
              · rw [dispatchCalls] at hc
                split at hc
                · exact mark?_performCalls hc
                · cases hc

theorem marks_eq_nil {calls : List Call} (h : ∀ c ∈ calls, c.mark? = none) :
    Call.marks (Call.on b calls) = [] :=
  List.filterMap_eq_nil_iff.2 fun c hc ↦ h c (List.mem_of_mem_filter hc)

/-- An endpoint is marked at most as often as it is asked to be. -/
theorem length_marks_actCalls (s : Node) (act : Act) :
    (Call.marks (Call.on b (s.actCalls act))).length ≤ [act].count (.markConnected b) := by
  have hnone : (∀ c ∈ s.actCalls act, c.mark? = none) →
      (Call.marks (Call.on b (s.actCalls act))).length ≤ [act].count (.markConnected b) := by
    intro hmarks
    rw [marks_eq_nil hmarks]
    exact Nat.zero_le _
  cases act with
  | markConnected e =>
      by_cases he : e = b
      · subst he
        rw [List.count_singleton_self]
        refine Nat.le_trans (List.length_filterMap_le _ _) ?_
        exact List.length_filter_le _ _
      · rw [actCalls, Call.on_singleton_of_ne he]
        exact Nat.zero_le _
  | work r =>
      refine hnone fun c hc ↦ ?_
      rw [actCalls] at hc
      split at hc
      · cases hc
      · split at hc
        · cases hc
        · exact mark?_jobCalls hc
  | beginConnect e | abortConnect e | onDisconnect e hook | disconnect e reason =>
      refine hnone fun c hc ↦ ?_
      rw [actCalls, List.mem_singleton] at hc
      subst hc
      rfl
  | attach e h | send e m | receive e data | renew e =>
      refine hnone fun c hc ↦ ?_
      cases hc

theorem length_marks_calls (s : Node) (acts : List Act) :
    (Call.marks (Call.on b (s.calls acts))).length ≤ acts.count (.markConnected b) := by
  induction acts generalizing s with
  | nil => exact Nat.zero_le _
  | cons act acts ih =>
      have hhead : (Call.marks (Call.on b (s.actCalls act))).length ≤ _ :=
        length_marks_actCalls s act
      rw [calls, Call.on_append, Call.marks, List.filterMap_append, List.length_append,
        ← List.singleton_append, List.count_append]
      refine Nat.add_le_add hhead ?_
      cases hact : s.act? act with
      | none => exact Nat.zero_le _
      | some s' => exact ih s'

/-- The subscribers are told of a connection once if it is marked once. -/
theorem marks_prefix {acts : List Act} (honce : acts.count (.markConnected b) ≤ 1) :
    Call.marks (Call.on b (s.calls acts)) <+: [.connected] := by
  have hlength := Nat.le_trans (length_marks_calls s acts) honce
  have hall : ∀ event ∈ Call.marks (Call.on b (s.calls acts)), event = .connected := by
    intro event hevent
    obtain ⟨c, -, hmark⟩ := List.mem_filterMap.1 hevent
    rw [Call.mark?] at hmark
    split at hmark
    · exact (Option.some.inj hmark).symm
    · cases hmark
  exact List.prefix_replicate_iff.2 ⟨hlength, List.eq_replicate_of_mem hall⟩

/-! ## What has come of the calls -/

section EndsOnce

variable {calls : List Call} {x : Endpoint}

/-- What the node refuses, begins and tries again, it does for where the endpoint stands. -/
theorem endsOnce_of_endpoint? (hx : s.endpoint? b = some x)
    (hanswers : Call.answers calls = [] ∨ ∃ first n,
      Call.answers calls = first :: List.replicate n (.ok false) ∧
        (first = .ok true ∨ ∃ text, first = .error text ∧ s.Refuses text))
    (hended : ∀ reason, Call.first? calls = some reason →
      x.state = .disconnected ∧ x.reason = some reason)
    (hhooks : Call.notes calls =
      match Call.first? calls with
      | some reason => ((Call.registered calls).flatMap Hook.notes).map (·, reason)
      | none => [])
    (hevents : x.events = Call.marks calls ++ (Call.first? calls).toList.map .disconnected)
    (hmarks : Call.marks calls <+: [.connected]) : s.EndsOnce b calls where
  answers := hanswers
  state reason hfirst := ⟨x, hx, hended reason hfirst⟩
  refuses reason hfirst := by
    obtain ⟨hstate, hreason⟩ := hended reason hfirst
    exact refuses_of_disconnected hx hstate (congrArg Option.isSome hreason)
  hooks := hhooks
  events := ⟨x, hx, hevents, hmarks⟩
  begins := beginConnect_eq_ok_iff
  retries _ hy hstate := beginConnect_abortConnect hy hstate

theorem EndsOnce.of_before (h : Ending.Before calls x.ending) (hx : s.endpoint? b = some x)
    (hmarks : Call.marks calls <+: [.connected]) : s.EndsOnce b calls := by
  refine endsOnce_of_endpoint? hx (.inl h.answers) ?_ ?_ ?_ hmarks
  · intro reason hfirst
    rw [h.first] at hfirst
    cases hfirst
  · rw [h.first, h.notes]
  · rw [h.first, Option.toList_none, List.map_nil, List.append_nil]
    exact h.events

theorem EndsOnce.of_behind {reason : DisconnectReason} (h : Ending.Behind reason calls x.ending)
    (hx : s.endpoint? b = some x) (hmarks : Call.marks calls <+: [.connected]) :
    s.EndsOnce b calls := by
  obtain ⟨n, hanswers⟩ := h.answers
  refine endsOnce_of_endpoint? hx (.inr ⟨_, n, hanswers, .inl rfl⟩) ?_ ?_ ?_ hmarks
  · intro first hfirst
    rw [h.first, Option.some.injEq] at hfirst
    subst hfirst
    exact ⟨h.state, h.given⟩
  · rw [h.first, h.notes]
  · rw [h.first]
    exact h.events

theorem EndsOnce.of_stuck {text : String} (h : Ending.Stuck text calls x.ending)
    (hx : s.endpoint? b = some x) (hmarks : Call.marks calls <+: [.connected])
    (hrefuses : s.Refuses text) : s.EndsOnce b calls := by
  obtain ⟨n, hanswers⟩ := h.answers
  refine endsOnce_of_endpoint? hx (.inr ⟨_, n, hanswers, .inr ⟨text, rfl, hrefuses⟩⟩) ?_ ?_ ?_
    hmarks
  · intro reason hfirst
    rw [h.first] at hfirst
    cases hfirst
  · rw [h.first, h.notes]
  · rw [h.first, Option.toList_none, List.map_nil, List.append_nil]
    exact h.events

end EndsOnce

/-- A call that panicked did so since a queue refuses to start its worker. -/
theorem Follows.refuses {calls : List Call} (h : Follows s calls s') {text : String}
    (htext : .error text ∈ Call.answers (Call.on b calls)) : s'.Refuses text := by
  obtain ⟨c, hc, hanswer⟩ := List.mem_filterMap.1 htext
  have hpanic : c.ask.panic? = some text := by
    rw [Call.answer?] at hanswer
    split at hanswer
    · next hask =>
      rw [hask, Option.some.inj hanswer]
      rfl
    · cases hanswer
  have hrefuses := h.panics c (List.mem_of_mem_filter hc) text hpanic
  exact hrefuses.of_names fun r ↦ (h.names r).symm

/-- What hooks left in the log, they left there in the calls. -/
theorem Follows.hookNotes {calls : List Call} (h : Follows s calls s') :
    s'.hookNotes = s.hookNotes ++ Call.notes calls := by
  obtain ⟨lines, hlog, hnotes⟩ := h.log
  rw [Node.hookNotes, Node.hookNotes, hlog, List.filterMap_append, hnotes]

/-- Whatever happens to a node with a new endpoint that is marked as connected at most once, the
first disconnect of the endpoint is the only one.  Every note of a hook falls to a call.  A hook
that disconnects its endpoint or registers another hook on it does so by the calls that everybody
uses, and what comes of that is what was said of hooks. -/
theorem ends_once {x : Endpoint} {acts : List Act} (hpanic : s.panic = none)
    (hx : s.endpoint? b = some x) (hnew : x.ending = {})
    (honce : acts.count (.markConnected b) ≤ 1) (hrun : s.run? acts = some s') :
    s'.EndsOnce b (Call.on b (s.calls acts)) ∧
      s'.hookNotes = s.hookNotes ++ Call.notes (s.calls acts) ∧
      ∀ t y reason, t.endpoint? b = some y → y.ended = true → y.reason = some reason →
        (∀ again next, callHook b reason (.disconnect again next) t =
          callHook b reason next (t.disconnect b again).1) ∧
        (∀ hook next, callHook b reason (.register hook next) t =
          callHook b reason next (t.onDisconnect b hook)) ∧
        ∀ hook, callHook b reason hook t = runHook reason hook t := by
  have hfollows := Follows.run? hpanic hrun
  refine ⟨?_, hfollows.hookNotes, fun t y reason hy hended hreason ↦
    ⟨fun again next ↦ callHook_disconnect hreason hy again next, fun _ _ ↦ rfl,
      callHook_eq_runHook hreason hy hended⟩⟩
  have hbegin : s.ending? b = some {} := (congrArg (Option.map Endpoint.ending) hx).trans
    (congrArg some hnew)
  obtain ⟨ending, hending, hsteps⟩ := hfollows.endings b {} hbegin
  obtain ⟨y, hy, rfl⟩ := Option.map_eq_some_iff.1 hending
  have hmarks := marks_prefix (s := s) honce
  rcases hsteps.stage (.inl .new) with hbefore | ⟨reason, hbehind⟩ | ⟨text, hstuck⟩
  · exact .of_before hbefore hy hmarks
  · exact .of_behind hbehind hy hmarks
  · obtain ⟨n, hanswers⟩ := hstuck.answers
    rw [List.nil_append] at hanswers
    have hpanicked : .error text ∈ Call.answers (Call.on b (s.calls acts)) := by
      rw [hanswers]
      exact List.mem_cons_self
    exact .of_stuck hstuck hy hmarks (hfollows.refuses hpanicked)

end Node

namespace Specimen

/-- A handler that disconnects its receiver and has a hook run after that. -/
def leaving : Handler :=
  ⟨"leaving", ⟨.tcpConnection, ""⟩, fun _ ↦
    .disconnect .requested fun _ ↦ .onDisconnect (.note "after" .done) (.done .ok)⟩

/-- A connection that was not used yet, and a queue for it. -/
def guest : Node where
  engine _ := {
    registry := { types := [reading], handlers := [((reading, .tcpConnection), leaving)] }
    protocol := masked }
  endpoints := [{ type := ⟨.tcpConnection, ""⟩ }]
  queues := [{ name := "peer" }]

/-- The second attempt to connect succeeds, the handler of the first message disconnects, and a
disconnect from outside comes too late.  The first hook disconnects again and registers another. -/
def visit : List Act :=
  [.beginConnect 0, .abortConnect 0, .beginConnect 0, .attach 0 (.dedicated 0), .markConnected 0,
    .onDisconnect 0 (.note "before" (.disconnect .spam (.register (.note "inside" .done) .done))),
    .receive 0 [7, 0, 10, 0, 0, 0, 3, 0, 0, 0, 0, 0, 0, 0, 0, 95], .work (.dedicated 0),
    .work (.dedicated 0), .disconnect 0 .spam, .onDisconnect 0 (.note "late" .done)]

end Specimen

/-- The handler's disconnect is the one that counts, and each hook is run once for its reason. -/
theorem Node.ends_once_guest :
    ∃ s', Specimen.guest.run? Specimen.visit = some s' ∧
      (∃ x, s'.endpoint? 0 = some x ∧ x.state = .disconnected ∧ x.reason = some .requested) ∧
      (∃ x, s'.endpoint? 0 = some x ∧ x.events = [.connected, .disconnected .requested]) ∧
      s'.disconnect 0 .serverStopped = (s', false) ∧
      s'.hookNotes = ["before", "inside", "after", "late"].map (·, .requested) := by
  have hsome : (Specimen.guest.run? Specimen.visit).isSome = true := by decide +kernel
  obtain ⟨s', hs'⟩ := Option.isSome_iff_exists.1 hsome
  have hfirst : Call.first? (Call.on 0 (Specimen.guest.calls Specimen.visit)) =
      some .requested := by
    decide +kernel
  have hmarks : Call.marks (Call.on 0 (Specimen.guest.calls Specimen.visit)) = [.connected] := by
    decide +kernel
  have hnotes : Call.notes (Specimen.guest.calls Specimen.visit) =
      ["before", "inside", "after", "late"].map (·, .requested) := by
    decide +kernel
  have hnew : Specimen.guest.endpoint? 0 = some { type := ⟨.tcpConnection, ""⟩ } := rfl
  obtain ⟨honce, hlog, -⟩ := ends_once rfl hnew rfl (by decide) hs'
  obtain ⟨x, hx, hevents, -⟩ := honce.events
  rw [hfirst, hmarks] at hevents
  rw [hnotes] at hlog
  obtain ⟨-, -, -, -, hrefused⟩ := honce.refuses _ hfirst
  exact ⟨s', hs', honce.state _ hfirst, ⟨x, hx, hevents⟩, hrefused .serverStopped, hlog⟩

end MessageEngine
