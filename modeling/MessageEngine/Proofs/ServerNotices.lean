import MessageEngine.Proofs.Calls
import MessageEngine.Proofs.TrackedConnections

/-!
# What the subscribers of a server are told

A connection is disconnected for the reason of the first who asks for that,
be it the server that stops, the server that tracks it too late, a worker, a
handler or an application.  The subscribers are told once that it was added
when it is tracked, and once that it was removed, for that reason, when it
has been both tracked and disconnected.
-/

namespace MessageEngine

open Node

/-! ## Who asks first -/

/-- The reason for which a disconnect was asked, whatever came of it. -/
def Call.given? (c : Call) : Option DisconnectReason :=
  match c.ask with
  | .disconnect reason _ => some reason
  | _ => none

theorem Ending.Step.reason {x x' : Ending} {e : EndpointRef} {c : Call} (h : x.Step e c x') :
    x'.reason = x.reason.or c.given? := by
  cases h with
  | ends hnone | sticks hnone =>
      rw [hnone]
      rfl
  | again hsome =>
      obtain ⟨r, hr⟩ := Option.isSome_iff_exists.1 hsome
      rw [hr]
      rfl
  | begins | refused | aborted | unaborted | marked | unmarked | waits | runs =>
      exact (Option.or_none).symm

theorem Ending.Steps.reason {x x' : Ending} {e : EndpointRef} {calls : List Call}
    (h : Ending.Steps e x calls x') : x'.reason = x.reason.or (calls.findSome? Call.given?) := by
  induction h with
  | nil x => exact (Option.or_none).symm
  | @cons _ _ _ c _ head _ ih =>
      rw [ih, head.reason, Option.or_assoc, List.findSome?_cons]
      cases c.given? with
      | none => rfl
      | some r => rfl

/-- Whom a call is to disconnect, if there is such an endpoint, and for what reason. -/
def Node.heed? (s : Node) (c : Call) : Option (EndpointRef × DisconnectReason) :=
  if (s.endpoint? c.endpoint).isSome then c.given?.map (c.endpoint, ·) else none

theorem Node.lookup_heed? {s : Node} {e : EndpointRef} (hsome : (s.endpoint? e).isSome)
    (calls : List Call) :
    (calls.filterMap s.heed?).lookup e = (Call.on e calls).findSome? Call.given? := by
  induction calls with
  | nil => rfl
  | cons c rest ih =>
      by_cases hc : c.endpoint = e
      · have hon : Call.on e (c :: rest) = c :: Call.on e rest :=
          List.filter_cons_of_pos (beq_iff_eq.2 hc)
        have hheed : s.heed? c = c.given?.map (e, ·) := by
          rw [Node.heed?, hc, if_pos hsome]
        rw [hon, List.filterMap_cons, hheed, List.findSome?_cons]
        cases c.given? with
        | none => exact ih
        | some r => exact List.lookup_cons_self
      · have hon : Call.on e (c :: rest) = Call.on e rest :=
          List.filter_cons_of_neg fun h ↦ hc (beq_iff_eq.1 h)
        rw [hon, ← ih, List.filterMap_cons]
        cases hheed : s.heed? c with
        | none => rfl
        | some p =>
            have hp : p.1 = c.endpoint := by
              rw [Node.heed?] at hheed
              split at hheed
              · obtain ⟨r, -, rfl⟩ := Option.map_eq_some_iff.1 hheed
                rfl
              · cases hheed
            have hne : e ≠ p.1 := fun h ↦ hc (hp.symm.trans h.symm)
            rw [List.lookup_cons, beq_false_of_ne hne]

namespace Lobby

/-- Whom a service is to disconnect and for what reason, in order. -/
def asks (l : Lobby) : Service → List (EndpointRef × DisconnectReason)
  | .stop reason =>
    if l.node.server.isRunning then (l.node.server.connections.map Prod.snd).map (·, reason) else []
  | .track i =>
    match l.newcomers[i]? with
    | some ⟨_, .standing e⟩ => if l.node.server.isRunning then [] else [(e, .serverStopped)]
    | _ => []
  | .act act => (l.node.actCalls act).filterMap l.node.heed?
  | .start _ | .announce _ | .seat | .number _ _ _ | .attach _ | .stand _ _ => []

/-- Whom a run is to disconnect and for what reason, in order. -/
def asked (l : Lobby) : List Service → List (EndpointRef × DisconnectReason)
  | [] => []
  | service :: rest =>
    l.asks service ++
      match l.step? service with
      | none => []
      | some l' => l'.asked rest

/-- What was asked between two nodes of a run, and what has come of it. -/
structure Heeds (l : Lobby) (asked : List (EndpointRef × DisconnectReason)) (l' : Lobby) :
    Prop where
  reason : ∀ e g, l.node.guest? e = some g →
    ∃ g', l'.node.guest? e = some g' ∧ g'.reason = g.reason.or (asked.lookup e)
  known : ∀ p ∈ asked, ∃ g, l.node.guest? p.1 = some g
  /-- An endpoint that a connection has now it had before, or it is new. -/
  newcomer : ∀ a' ∈ l'.newcomers, ∀ e, a'.stage.endpoint? = some e →
    (∃ a ∈ l.newcomers, a.stage.endpoint? = some e) ∨
      l.node.guest? e = none ∧ ∃ g, l'.node.guest? e = some g ∧ g.reason = none

section Steps

variable {l l' : Lobby} {i : Nat} {e : EndpointRef} {a a' : Newcomer} {s' : Node}

theorem Heeds.quiet (hreasons : ∀ e, (l'.node.guest? e).map Guest.reason =
      (l.node.guest? e).map Guest.reason)
    (hnewcomers : ∀ a' ∈ l'.newcomers, ∀ e, a'.stage.endpoint? = some e →
      ∃ a ∈ l.newcomers, a.stage.endpoint? = some e) : l.Heeds [] l' where
  reason e g hg := by
    have hsame := hreasons e
    rw [hg] at hsame
    obtain ⟨g', hg', hreason⟩ := Option.map_eq_some_iff.1 hsame
    exact ⟨g', hg', hreason.trans Option.or_none.symm⟩
  known p hp := nomatch hp
  newcomer a' ha' e he := .inl (hnewcomers a' ha' e he)

theorem endpoint?_move (hi : l.newcomers[i]? = some a) (a' : Newcomer)
    (he : a.stage.endpoint? = a'.stage.endpoint?) {b : Newcomer}
    (hb : b ∈ (l.move i a').newcomers) {d : EndpointRef} (hd : b.stage.endpoint? = some d) :
    ∃ b ∈ l.newcomers, b.stage.endpoint? = some d := by
  rcases List.mem_or_eq_of_mem_set hb with hold | rfl
  · exact ⟨b, hold, hd⟩
  · exact ⟨a, List.mem_of_getElem? hi, he.trans hd⟩

theorem guest?_start (l : Lobby) (bound : Bool) (e : EndpointRef) :
    (l.start bound).node.guest? e = l.node.guest? e := by
  rw [Lobby.start, beginServer]
  by_cases hrunning : l.node.server.isRunning = true
  · rw [if_pos hrunning]
  · rw [if_neg hrunning]
    cases bound with
    | true => rfl
    | false => rfl

theorem newcomers_start (l : Lobby) (bound : Bool) :
    (l.start bound).newcomers = l.newcomers := by
  rw [Lobby.start]
  split
  · rfl
  · rfl

theorem Heeds.seat (l : Lobby) : l.Heeds [] l.seat := by
  rw [Lobby.seat]
  cases hslot : l.node.acquireSlot with
  | none => exact .quiet (fun _ ↦ rfl) fun a ha e he ↦ ⟨a, ha, he⟩
  | some pair =>
      obtain ⟨p, pool, -, -, hs, -⟩ := acquireSlot_eq_some hslot
      refine .quiet (fun e ↦ ?_) fun a ha e he ↦ ?_
      · dsimp only
        rw [hs]
        rfl
      · rcases List.mem_append.1 ha with hold | hnew
        · exact ⟨a, hold, he⟩
        · rw [List.mem_singleton.1 hnew] at he
          cases he

theorem lookup_map_reason (es : List EndpointRef) (reason : DisconnectReason) (e : EndpointRef) :
    (es.map (·, reason)).lookup e = if e ∈ es then some reason else none := by
  induction es with
  | nil => rfl
  | cons d rest ih =>
      rw [List.map_cons, List.lookup_cons, ih]
      by_cases he : e = d
      · rw [beq_iff_eq.2 he, if_pos (List.mem_cons.2 (.inl he))]
      · rw [beq_false_of_ne he]
        simp only [List.mem_cons, he, false_or]

theorem reason_dismiss_eq (es : List EndpointRef) (reason : DisconnectReason) (e : EndpointRef)
    (g : Guest) :
    (dismiss es reason e g).reason = g.reason.or ((es.map (·, reason)).lookup e) := by
  rw [lookup_map_reason, dismiss]
  cases hreason : g.reason with
  | none =>
      by_cases he : e ∈ es
      · rw [if_pos ⟨he, rfl⟩, if_pos he]
        rfl
      · rw [if_neg fun h ↦ he h.1, if_neg he]
        exact hreason
  | some r =>
      rw [if_neg fun h ↦ Option.some_ne_none r h.2]
      exact hreason

theorem Kept.heeds_stop (h : l.Kept) (reason : DisconnectReason) :
    l.Heeds (l.asks (.stop reason)) (l.stop reason) := by
  rw [asks, Lobby.stop]
  cases hpool : l.node.server.pool with
  | none =>
      rw [finishServer_of_idle (h.isRunning_eq_false_iff.2 hpool),
        if_neg (Bool.eq_false_iff.1 (h.isRunning_eq_false_iff.2 hpool))]
      exact .quiet (fun _ ↦ rfl) fun a ha e he ↦ ⟨a, ha, he⟩
  | some p =>
      obtain ⟨-, hguests, -⟩ := h.disconnectAll_spec reason
      rw [h.finishServer_eq hpool, if_pos (h.isRunning_iff.2 ⟨p, hpool⟩)]
      refine ⟨fun e g hg ↦ ?_, fun ask hask ↦ ?_, fun a ha e he ↦ .inl ⟨a, ha, he⟩⟩
      · have hguest := hguests e
        rw [hg, Option.map_some] at hguest
        exact ⟨_, hguest, reason_dismiss_eq _ _ _ _⟩
      · obtain ⟨d, hd, rfl⟩ := List.mem_map.1 hask
        obtain ⟨c, hc, rfl⟩ := List.mem_map.1 hd
        obtain ⟨-, g, hg, -⟩ := h.agrees.entries c.1 c.2 (h.agrees.ordered.mem_iff.1 hc)
        exact ⟨g, hg⟩

theorem Heeds.number {run : Nat} {handle : Handle} {type : EndpointType}
    {remote : Option SocketAddress} (hi : l.newcomers[i]? = some ⟨run, .seated handle⟩) :
    l.Heeds [] (l.number i run handle type remote) := by
  have hlost : ∀ b ∈ (l.move i ⟨run, .lost⟩).newcomers, ∀ d, b.stage.endpoint? = some d →
      ∃ b ∈ l.newcomers, b.stage.endpoint? = some d := fun b hb d hd ↦
    endpoint?_move hi ⟨run, .lost⟩ rfl hb hd
  rw [Lobby.number]
  dsimp only
  split
  · have hdrop := Still.drop l.node.nextConnectionId.1 handle
    exact .quiet (fun e ↦ congrArg (Option.map Guest.reason) (hdrop.guests e)) hlost
  · set x : Endpoint := { type := type, id := l.node.nextConnectionId.2, remote := remote }
    have hguest := guest?_newEndpoint l.node.nextConnectionId.1 x
    have hnew : l.node.guest? l.node.endpoints.length = none := by
      rw [guest?, endpoint?, List.getElem?_eq_none (Nat.le_refl _)]
      rfl
    refine ⟨fun e g hg ↦ ⟨g, ?_, Option.or_none.symm⟩, fun p hp ↦ absurd hp List.not_mem_nil,
      fun b hb d hd ↦ ?_⟩
    · have hne : e ≠ l.node.endpoints.length := by
        rintro rfl
        cases hnew.symm.trans hg
      exact (hguest e).trans ((if_neg hne).trans hg)
    · rcases List.mem_or_eq_of_mem_set hb with hold | rfl
      · exact .inl ⟨b, hold, hd⟩
      · cases hd
        exact .inr ⟨hnew, x.guest, (hguest _).trans (if_pos rfl), rfl⟩

theorem Heeds.move (hi : l.newcomers[i]? = some a) (a' : Newcomer)
    (he : a.stage.endpoint? = a'.stage.endpoint?)
    (hreasons : ∀ e, (s'.guest? e).map Guest.reason = (l.node.guest? e).map Guest.reason) :
    l.Heeds [] ⟨l.move i a', s'⟩ :=
  .quiet hreasons fun _ hb _ hd ↦ endpoint?_move hi a' he hb hd

theorem Kept.heeds_track {run : Nat} (h : l.Kept) (hi : l.newcomers[i]? = some ⟨run, .standing e⟩) :
    l.Heeds (l.asks (.track i)) ⟨l.move i ⟨run, .tracked e l.ended⟩, l.node.track e⟩ := by
  obtain ⟨g, hg⟩ := h.agrees.guest? (List.mem_of_getElem? hi) rfl
  obtain ⟨x, hx, rfl⟩ := Option.map_eq_some_iff.1 hg
  obtain ⟨hagrees, hframe, hreasons⟩ := h.enlist hi hx
  have hpanic : (l.node.enlist e x.id).panic = none := (panic_onDisconnect _ _ _).trans h.panic
  have hrunning : (l.node.enlist e x.id).server.isRunning = l.node.server.isRunning :=
    congrArg (fun f : Frame ↦ f.server.isRunning) hframe
  have hmem : ⟨run, .tracked e l.ended⟩ ∈ (l.move i ⟨run, .tracked e l.ended⟩).newcomers :=
    List.mem_set (List.getElem?_eq_some_iff.1 hi).1 _
  rw [track_eq hx, hrunning, asks, hi]
  by_cases hon : l.node.server.isRunning = true
  · dsimp only
    rw [if_pos hon, if_pos hon]
    exact .move hi _ rfl hreasons
  · dsimp only
    rw [if_neg hon, if_neg hon]
    refine ⟨fun d g hg ↦ ?_, fun p hp ↦ ?_,
      fun b hb d hd ↦ .inl (endpoint?_move hi ⟨run, .tracked e l.ended⟩ rfl hb hd)⟩
    · have hsame := hreasons d
      rw [hg] at hsame
      obtain ⟨g', hg', hreason⟩ := Option.map_eq_some_iff.1 hsame
      have hguest := guest?_disconnect hagrees hpanic hmem rfl .serverStopped d
      rw [hg', Option.map_some] at hguest
      refine ⟨_, hguest, (reason_dismiss_eq [e] .serverStopped d g').trans ?_⟩
      rw [hreason]
      rfl
    · rw [List.mem_singleton.1 hp]
      exact ⟨x.guest, hg⟩

theorem Kept.heeds_act {act : Act} (h : l.Kept) (hact : l.node.act? act = some s') :
    l.Heeds (l.asks (.act act)) { l with node := s' } where
  reason e g hg := by
    obtain ⟨x, hx, rfl⟩ := Option.map_eq_some_iff.1 hg
    -- The machine of endings says what the calls of the act do to the reason.
    obtain ⟨ending, hending, hsteps⟩ := (Follows.act? h.panic hact).endings e x.ending
      (congrArg (Option.map Endpoint.ending) hx)
    obtain ⟨y, hy, rfl⟩ := Option.map_eq_some_iff.1 hending
    refine ⟨y.guest, guest?_of_endpoint? hy, ?_⟩
    rw [asks, lookup_heed? (congrArg Option.isSome hx)]
    exact hsteps.reason
  known p hp := by
    obtain ⟨c, -, hheed⟩ := List.mem_filterMap.1 hp
    rw [heed?] at hheed
    split at hheed
    · next hsome =>
      obtain ⟨x, hx⟩ := Option.isSome_iff_exists.1 hsome
      obtain ⟨r, -, rfl⟩ := Option.map_eq_some_iff.1 hheed
      exact ⟨x.guest, guest?_of_endpoint? hx⟩
    · cases hheed
  newcomer a ha e he := .inl ⟨a, ha, he⟩

theorem Kept.heeds_step? {service : Service} (h : l.Kept) (hstep : l.step? service = some l') :
    l.Heeds (l.asks service) l' := by
  cases step_of_step? hstep with
  | start bound =>
      refine .quiet (fun e ↦ congrArg (Option.map Guest.reason) (guest?_start l bound e))
        fun a ha e he ↦ ⟨a, ?_, he⟩
      rwa [newcomers_start] at ha
  | announce address => exact .quiet (fun _ ↦ rfl) fun a ha e he ↦ ⟨a, ha, he⟩
  | stop reason => exact h.heeds_stop reason
  | seat => exact .seat l
  | number hi type remote => exact .number hi
  | @attach _ _ e handle hi =>
      obtain ⟨-, -, hguest⟩ := attach_spec l.node e handle
      refine .move hi _ rfl fun d ↦ ?_
      rw [hguest, Option.map_map]
      refine congrArg (Option.map · (l.node.guest? d)) (funext fun g ↦ ?_)
      by_cases hd : d = e
      · simp [hd]
      · simp [hd]
  | @stand _ _ e hi =>
      refine .move hi _ rfl fun d ↦ ?_
      exact congrArg (Option.map Guest.reason) ((Still.markConnected l.node e).guests d)
  | shake hi hreason =>
      refine .move hi _ rfl fun d ↦ ?_
      exact congrArg (Option.map Guest.reason) ((h.still_setState hi hreason).guests d)
  | track hi => exact h.heeds_track hi
  | act hfair hact => exact h.heeds_act hact

end Steps

/-! ## Runs -/

variable {l l' : Lobby} {asked asked' : List (EndpointRef × DisconnectReason)}

/-- Only endpoints were asked to go, and those of connections have their reasons from that. -/
structure Heeded (l : Lobby) (asked : List (EndpointRef × DisconnectReason)) : Prop where
  known : ∀ p ∈ asked, ∃ g, l.node.guest? p.1 = some g
  reason : ∀ a ∈ l.newcomers, ∀ e, a.stage.endpoint? = some e →
    ∃ g, l.node.guest? e = some g ∧ g.reason = asked.lookup e

theorem Heeded.trans (h : l.Heeded asked) (h' : l.Heeds asked' l') :
    l'.Heeded (asked ++ asked') where
  known p hp := by
    have hbefore : ∃ g, l.node.guest? p.1 = some g := by
      rcases List.mem_append.1 hp with hp | hp
      · exact h.known p hp
      · exact h'.known p hp
    obtain ⟨g, hg⟩ := hbefore
    obtain ⟨g', hg', -⟩ := h'.reason p.1 g hg
    exact ⟨g', hg'⟩
  reason a' ha' e he := by
    rcases h'.newcomer a' ha' e he with ⟨a, ha, hae⟩ | ⟨hnew, g, hg, hnone⟩
    · obtain ⟨g, hg, hreason⟩ := h.reason a ha e hae
      obtain ⟨g', hg', hreason'⟩ := h'.reason e g hg
      refine ⟨g', hg', ?_⟩
      rw [hreason', hreason, List.lookup_append]
    · refine ⟨g, hg, hnone.trans (Eq.symm ?_)⟩
      -- Nobody can have asked for the end of an endpoint before it was there.
      refine List.lookup_eq_none_iff.2 fun p hp ↦ ?_
      have hbefore : ∃ g, l.node.guest? p.1 = some g := by
        rcases List.mem_append.1 hp with hp | hp
        · exact h.known p hp
        · exact h'.known p hp
      obtain ⟨g₀, hg₀⟩ := hbefore
      refine bne_iff_ne.2 ?_
      rintro rfl
      cases hnew.symm.trans hg₀

theorem Heeded.run? {services : List Service} (hheeded : l.Heeded asked) (h : l.Kept)
    (hrun : l.run? services = some l') (hfew : l'.numbers.length < 2 ^ 64) :
    l'.Heeded (asked ++ l.asked services) := by
  induction services generalizing l asked with
  | nil =>
      cases hrun
      rwa [Lobby.asked, List.append_nil]
  | cons service rest ih =>
      obtain ⟨l₁, hstep, hrest⟩ := run?_cons.1 hrun
      have hfew₁ := (length_numbers_run? hrest).trans_lt hfew
      have hall := ih (hheeded.trans (h.heeds_step? hstep)) (h.step? hstep hfew₁) hrest
      rw [Lobby.asked, hstep, ← List.append_assoc]
      exact hall

/-- What was published is what has come of the connections. -/
structure Notifies (l : Lobby) (asked : List (EndpointRef × DisconnectReason)) : Prop where
  /-- A connection was added once, and removed once for the first reason that was given. -/
  told : ∀ e, l.Tracks e → ∃ x, l.node.endpoint? e = some x ∧ x.reason = asked.lookup e ∧
    (x.state = .disconnected ↔ (asked.lookup e).isSome = true) ∧
      l.node.server.told x.id =
        match asked.lookup e with
        | none => [.added x.id]
        | some reason => [.added x.id, .removed x.id reason]
  apart : ∀ d e x y, l.Tracks d → l.Tracks e → l.node.endpoint? d = some x →
    l.node.endpoint? e = some y → x.id = y.id → d = e
  /-- Every event is about one of them, which was in the book when it was added, and was not when it
  was removed. -/
  books : ∀ n ∈ l.node.server.notices, ∃ e x, l.Tracks e ∧ l.node.endpoint? e = some x ∧
    n.event.id = x.id ∧ n.book.lookup x.id =
      match n.event with
      | .added _ => some e
      | .removed _ _ => none

theorem Kept.notifies (h : l.Kept) (hheeded : l.Heeded asked) : l.Notifies asked where
  told e htracks := by
    obtain ⟨x, hx, hcases⟩ := h.tracked htracks
    obtain ⟨a, ha, he⟩ := htracks.newcomer
    obtain ⟨g, hg, hreason⟩ := hheeded.reason a ha e he
    obtain rfl : x.guest = g := Option.some.inj ((guest?_of_endpoint? hx).symm.trans hg)
    refine ⟨x, hx, hreason, ?_⟩
    rw [← hreason]
    rcases hcases with ⟨hnone, hactive, -, htold⟩ | ⟨r, hsome, hstate, -, htold⟩
    · have hguest : x.guest.reason = none := hnone
      rw [hguest]
      exact ⟨⟨fun hgone ↦ absurd hgone (ne_disconnected hactive), fun hsome ↦ nomatch hsome⟩, htold⟩
    · have hguest : x.guest.reason = some r := hsome
      rw [hguest]
      exact ⟨⟨fun _ ↦ rfl, fun _ ↦ hstate⟩, htold⟩
  apart d e x y hd he hx hy hid := by
    obtain ⟨a, ha, had⟩ := hd.newcomer
    obtain ⟨b, hb, hbe⟩ := he.newcomer
    have hnumber := h.agrees.number h.tidy ha had (guest?_of_endpoint? hx)
    have hnumber' := h.agrees.number h.tidy hb hbe (guest?_of_endpoint? hy)
    have hguest : x.guest.id = y.guest.id := hid
    rw [hguest] at hnumber
    exact h.tidy.unique hnumber hnumber'
  books n hn := by
    obtain ⟨e, hnumber, htracks, hbook⟩ := h.agrees.notices n hn
    obtain ⟨g, hg, hid⟩ := h.agrees.named _ e hnumber
    obtain ⟨x, hx, rfl⟩ := Option.map_eq_some_iff.1 hg
    have hself : n.event.id = x.id := hid.symm
    exact ⟨e, x, htracks, hx, hself, hself ▸ hbook⟩

/-- Whatever happens to a server and its connections, as long as there are numbers left: the
subscribers are told of each connection that is tracked that it was added, and then that it was
removed if it is disconnected, for the reason of its first disconnect. -/
theorem notifies_of_run {services : List Service} (hfresh : l.Fresh)
    (hrun : l.run? services = some l') (hfew : l'.numbers.length < 2 ^ 64) :
    l'.Notifies (l.asked services) := by
  have hledger : l.newcomers = [] := congrArg Ledger.newcomers hfresh.ledger
  have hheeded : l.Heeded [] := by
    refine ⟨fun p hp ↦ (nomatch hp), fun a ha ↦ ?_⟩
    rw [hledger] at ha
    cases ha
  exact (hfresh.kept.run? hrun hfew).notifies (hheeded.run? hfresh.kept hrun hfew)

theorem notifies_gathering :
    ∃ l, Specimen.lobby.run? Specimen.gathering = some l ∧ l.Notifies [(0, .requested)] ∧
      l.node.server.events = [.added 1, .removed 1 .requested, .added 2] := by
  have hsome : (Specimen.lobby.run? Specimen.gathering).isSome = true := by decide +kernel
  obtain ⟨l, hl⟩ := Option.isSome_iff_exists.1 hsome
  have hfew : (Specimen.lobby.run? Specimen.gathering).map (·.numbers.length) = some 2 := by
    decide +kernel
  have hevents : (Specimen.lobby.run? Specimen.gathering).map (·.node.server.events) =
      some [.added 1, .removed 1 .requested, .added 2] := by
    decide +kernel
  have hasked : Specimen.lobby.asked Specimen.gathering = [(0, .requested)] := by decide +kernel
  rw [hl, Option.map_some, Option.some.injEq] at hfew hevents
  have hnotifies :=
    notifies_of_run Specimen.lobby_fresh hl (hfew ▸ (by decide : 2 < 2 ^ 64))
  rw [hasked] at hnotifies
  exact ⟨l, hl, hnotifies, hevents⟩

end Lobby

end MessageEngine
