import Mathlib.Data.List.Perm.Basic
import MessageEngine.Proofs.Admission

/-!
# The connections that a server keeps track of

At any time the book has the connections that were tracked and are not
disconnected.  All of them were tracked in the run that is on.  Whether the
queue of one of them does anything depends on when the connection got its
slot: if a run has ended since, and another has begun before it was tracked,
the queue takes nothing any more.
-/

namespace MessageEngine

open Node

namespace Lobby

variable {l l' : Lobby}

theorem isActive_of_halt? {state : Lifecycle} (h : state.halt? = none) : state.isActive = true := by
  rw [Lifecycle.halt?] at h
  split at h
  · assumption
  · cases h

theorem eq_of_halt? {state halt : Lifecycle} (h : state.halt? = some halt) : state = halt := by
  rw [Lifecycle.halt?] at h
  split at h
  · cases h
  · exact Option.some.inj h

/-- A tracked connection is in the book, or was disconnected; the subscribers were told so. -/
theorem Kept.tracked {e : EndpointRef} (h : l.Kept) (htracks : l.Tracks e) :
    ∃ x, l.node.endpoint? e = some x ∧
      ((x.reason = none ∧ x.state.isActive = true ∧ l.node.server.connection? x.id = some e ∧
          l.node.server.told x.id = [.added x.id]) ∨
        ∃ r, x.reason = some r ∧ x.state = .disconnected ∧
          l.node.server.connection? x.id = none ∧
            l.node.server.told x.id = [.added x.id, .removed x.id r]) := by
  obtain ⟨P, hlodges⟩ := h.agrees.lodges_of_tracks htracks
  rcases hlodges with ⟨g, hstays⟩ | ⟨g, r, hleft⟩
  · obtain ⟨x, hx, rfl⟩ := Option.map_eq_some_iff.1 hstays.guest
    exact ⟨x, hx, .inl ⟨hstays.reason, isActive_of_halt? hstays.halt, hstays.entry, hstays.told⟩⟩
  · obtain ⟨x, hx, rfl⟩ := Option.map_eq_some_iff.1 hleft.guest
    exact ⟨x, hx, .inr ⟨r, hleft.reason, eq_of_halt? hleft.halt, hleft.entry, hleft.told⟩⟩

theorem ne_disconnected {state : Lifecycle} (h : state.isActive = true) :
    state ≠ .disconnected := by
  rintro rfl
  cases h

theorem Kept.connection?_eq_some_iff (h : l.Kept) (id : UInt64) (e : EndpointRef) :
    l.node.server.connection? id = some e ↔
      l.Tracks e ∧ ∃ x, l.node.endpoint? e = some x ∧ x.id = id ∧ x.state ≠ .disconnected := by
  constructor
  · intro hentry
    obtain ⟨htracks, g, hg, hid, hreason⟩ := h.agrees.entries id e hentry
    obtain ⟨x, hx, hcases⟩ := h.tracked htracks
    have hsame : x.guest = g := Option.some.inj ((guest?_of_endpoint? hx).symm.trans hg)
    subst hsame
    rcases hcases with ⟨-, hactive, -⟩ | ⟨r, hleft, -⟩
    · exact ⟨htracks, x, hx, hid, ne_disconnected hactive⟩
    · cases hreason.symm.trans hleft
  · rintro ⟨htracks, x, hx, rfl, hstate⟩
    obtain ⟨y, hy, hcases⟩ := h.tracked htracks
    have hsame : x = y := Option.some.inj (hx.symm.trans hy)
    subst hsame
    rcases hcases with ⟨-, -, hentry, -⟩ | ⟨r, -, hgone, -⟩
    · exact hentry
    · exact absurd hgone hstate

/-! ## How many there are -/

/-- The connection was tracked and is not disconnected. -/
def isLive (l : Lobby) (a : Newcomer) : Bool :=
  match a.stage with
  | .tracked e _ =>
    match l.node.endpoint? e with
    | some x => x.state != .disconnected
    | none => false
  | _ => false

theorem isLive_iff {a : Newcomer} : l.isLive a = true ↔ ∃ e, a.stage.tracks e = true ∧
    ∃ x, l.node.endpoint? e = some x ∧ x.state ≠ .disconnected := by
  obtain ⟨run, stage⟩ := a
  cases stage with
  | tracked d run =>
      dsimp only [isLive, Admission.tracks]
      constructor
      · intro h
        cases hx : l.node.endpoint? d with
        | none =>
            rw [hx] at h
            cases h
        | some x =>
            rw [hx] at h
            exact ⟨d, beq_self_eq_true d, x, hx, bne_iff_ne.1 h⟩
      · rintro ⟨e, he, x, hx, hstate⟩
        rw [beq_iff_eq] at he
        subst he
        rw [hx]
        exact bne_iff_ne.2 hstate
  | seated h | numbered e h | attached e | standing e | lost => simp [isLive, Admission.tracks]

theorem Kept.nodup_live (h : l.Kept) :
    ((l.newcomers.filter l.isLive).map fun a ↦ a.stage.endpoint?).Nodup := by
  refine List.pairwise_map.2 (List.pairwise_filter.2 (List.pairwise_iff_getElem.2 ?_))
  intro i j hi hj hij hlive _ hsame
  obtain ⟨e, htracks, -⟩ := isLive_iff.1 hlive
  have he := Admission.endpoint?_of_tracks htracks
  have heq := h.tidy.apart i j _ _ e (List.getElem?_eq_getElem hi) (List.getElem?_eq_getElem hj) he
    (hsame.symm.trans he)
  omega

theorem Kept.nodup_connections (h : l.Kept) :
    (l.node.server.connections.map fun c ↦ some c.2).Nodup := by
  refine List.Nodup.map_on (fun c hc d hd hsame ↦ ?_) (h.agrees.ordered.imp fun hlt heq ↦ ?_)
  · have hcd : c.2 = d.2 := Option.some.inj hsame
    obtain ⟨-, x, hx, hid, -⟩ := (h.connection?_eq_some_iff c.1 c.2).1
      (h.agrees.ordered.mem_iff.1 hc)
    obtain ⟨-, y, hy, hid', -⟩ := (h.connection?_eq_some_iff d.1 d.2).1
      (h.agrees.ordered.mem_iff.1 hd)
    rw [hcd, hy, Option.some.injEq] at hx
    subst hx
    exact Prod.ext (hid.symm.trans hid') hcd
  · rw [heq] at hlt
    exact UInt64.lt_irrefl _ hlt

theorem Kept.length_connections (h : l.Kept) :
    l.node.server.connections.length = l.newcomers.countP l.isLive := by
  -- Neither the book nor the list of connections has an endpoint twice, so it is enough that both
  -- have the same ones.
  have hperm : (l.node.server.connections.map fun c ↦ some c.2).Perm
      ((l.newcomers.filter l.isLive).map fun a ↦ a.stage.endpoint?) := by
    refine (List.perm_ext_iff_of_nodup h.nodup_connections h.nodup_live).2 fun o ↦ ?_
    rw [List.mem_map, List.mem_map]
    constructor
    · rintro ⟨⟨id, e⟩, hc, rfl⟩
      obtain ⟨⟨a, ha, htracks⟩, x, hx, -, hstate⟩ := (h.connection?_eq_some_iff id e).1
        (h.agrees.ordered.mem_iff.1 hc)
      refine ⟨a, List.mem_filter.2 ⟨ha, isLive_iff.2 ⟨e, htracks, x, hx, hstate⟩⟩, ?_⟩
      exact Admission.endpoint?_of_tracks htracks
    · rintro ⟨a, ha, rfl⟩
      obtain ⟨ha, hlive⟩ := List.mem_filter.1 ha
      obtain ⟨e, htracks, x, hx, hstate⟩ := isLive_iff.1 hlive
      have hentry := (h.connection?_eq_some_iff x.id e).2 ⟨⟨a, ha, htracks⟩, x, hx, rfl, hstate⟩
      refine ⟨(x.id, e), h.agrees.ordered.mem_iff.2 hentry, ?_⟩
      exact (Admission.endpoint?_of_tracks htracks).symm
  have hlength := hperm.length_eq
  rw [List.length_map, List.length_map] at hlength
  rw [hlength, List.countP_eq_length_filter]

/-! ## The register -/

/-- The book of a server, its numbers and its state are what they should be. -/
structure Registers (l : Lobby) : Prop where
  entry : ∀ id e, l.node.server.connection? id = some e ↔
    l.Tracks e ∧ ∃ x, l.node.endpoint? e = some x ∧ x.id = id ∧ x.state ≠ .disconnected
  ascending : l.node.server.connections.Pairwise fun c d ↦ c.1 < d.1
  count : l.node.server.connections.length = l.newcomers.countP l.isLive
  numbers : l.numbers.map (·.1.toNat) = List.range' 1 l.numbers.length
  owner : ∀ e, l.Tracks e → ∃ x, l.node.endpoint? e = some x ∧ (x.id, some e) ∈ l.numbers
  /-- Of a server that is not running, only an address may be left that was announced too late. -/
  idle : l.node.server.isRunning = false → l.node.server.connections = [] ∧
    l.node.server.pool = none ∧ (l.node.server.address = none ↔ l.belated = false)
  begins : (l.node.server.isRunning = true ↔ l.node.beginServer.2 = .error .alreadyRunning) ∧
    (l.node.server.isRunning = true → l.node.beginServer.1 = l.node)
  ends : ∀ reason,
    (l.node.server.isRunning = false ↔ (l.node.finishServer reason).2 = .error .notRunning) ∧
    (l.node.server.isRunning = false → (l.node.finishServer reason).1 = l.node) ∧
    ∀ id e, l.node.server.connection? id = some e →
      ∃ x, (l.node.finishServer reason).1.endpoint? e = some x ∧ x.state = .disconnected ∧
        x.reason = some reason

theorem Kept.numbers_eq (h : l.Kept) (hfew : l.numbers.length < 2 ^ 64) :
    l.numbers.map (·.1.toNat) = List.range' 1 l.numbers.length := by
  have hcounted := congrArg (List.map UInt64.toNat) h.counted
  rw [List.map_map, List.map_map] at hcounted
  refine hcounted.trans ((List.map_congr_left fun i hi ↦ ?_).trans (List.map_id _))
  have hlt : i < 2 ^ 64 := (List.mem_range'_1.1 hi).2.trans_le (by omega)
  exact UInt64.toNat_ofNat_of_lt' hlt

theorem beginServer_iff {s : Node} :
    s.server.isRunning = true ↔ s.beginServer.2 = .error .alreadyRunning := by
  constructor
  · intro hrunning
    rw [beginServer_of_running hrunning]
  · intro herror
    rw [beginServer] at herror
    split at herror
    · assumption
    · cases herror

theorem finishServer_iff {s : Node} {reason : DisconnectReason} :
    s.server.isRunning = false ↔ (s.finishServer reason).2 = .error .notRunning := by
  constructor
  · intro hidle
    rw [finishServer_of_idle hidle]
  · intro herror
    rw [finishServer] at herror
    split at herror
    · cases herror
    · next hidle => exact Bool.eq_false_iff.2 hidle

theorem Kept.dismissed (h : l.Kept) (reason : DisconnectReason) {id : UInt64} {e : EndpointRef}
    (hentry : l.node.server.connection? id = some e) :
    ∃ x, (l.node.finishServer reason).1.endpoint? e = some x ∧ x.state = .disconnected ∧
      x.reason = some reason := by
  obtain ⟨htracks, g, hg, -, hreason⟩ := h.agrees.entries id e hentry
  cases hpool : l.node.server.pool with
  | none => cases (h.idle hpool id).symm.trans hentry
  | some p =>
      obtain ⟨-, hguests, -⟩ := h.disconnectAll_spec reason
      have hmem : e ∈ l.node.server.connections.map Prod.snd :=
        List.mem_map.2 ⟨(id, e), h.agrees.ordered.mem_iff.2 hentry, rfl⟩
      -- The entry has no reason yet, so this is the disconnect that counts.
      have hguest := hguests e
      rw [hg, Option.map_some, dismiss, if_pos ⟨hmem, hreason⟩] at hguest
      rw [h.finishServer_eq hpool]
      obtain ⟨x, hx, hdepart⟩ := Option.map_eq_some_iff.1 hguest
      exact ⟨x, hx, eq_of_halt? (congrArg Guest.halt hdepart), congrArg Guest.reason hdepart⟩

theorem Kept.registers (h : l.Kept) (hfew : l.numbers.length < 2 ^ 64) : l.Registers where
  entry := h.connection?_eq_some_iff
  ascending := h.agrees.ordered
  count := h.length_connections
  numbers := h.numbers_eq hfew
  owner e htracks := by
    obtain ⟨x, hx, -⟩ := h.tracked htracks
    obtain ⟨a, ha, he⟩ := htracks.newcomer
    exact ⟨x, hx, h.agrees.number h.tidy ha he (guest?_of_endpoint? hx)⟩
  idle hidle := by
    have hpool := h.isRunning_eq_false_iff.1 hidle
    have haddress : l.node.server.address.isSome = l.belated := h.fit.address hpool
    refine ⟨Server.eq_nil_of_lookup (h.idle hpool), hpool, ?_⟩
    rw [← haddress, Option.isSome_eq_false_iff, Option.isNone_iff_eq_none]
  begins := ⟨beginServer_iff, fun hrunning ↦ by rw [beginServer_of_running hrunning]⟩
  ends reason := by
    refine ⟨finishServer_iff, fun hidle ↦ ?_, fun id e hentry ↦ h.dismissed reason hentry⟩
    rw [finishServer_of_idle hidle]

/-- Whatever happens to a server and its connections, the register is right as long as there are
numbers left. -/
theorem registers_of_run {services : List Service} (hfresh : l.Fresh)
    (hrun : l.run? services = some l') (hfew : l'.numbers.length < 2 ^ 64) : l'.Registers :=
  (hfresh.kept.run? hrun hfew).registers hfew

end Lobby

namespace Specimen

/-- A server that was never started. -/
def lobby : Lobby where
  node := { server := { name := "TcpServer" } }

theorem lobby_fresh : lobby.Fresh where
  panic := rfl
  fair e key h hfound := by cases hfound
  server := rfl
  named := by decide
  strikes x hx := by cases hx
  ledger := rfl

/-- Two connections come in, and the first is disconnected before it is tracked; the second shakes
hands then. -/
def gathering : List Service :=
  [.start true, .seat, .seat, .number 1 ⟨.tcpConnection, ""⟩ none,
    .number 0 ⟨.webSocketConnection, ""⟩ none, .attach 1, .stand 1 false,
    .act (.disconnect 0 .requested), .track 1, .attach 0, .stand 0 true, .track 0]

/-- The server is said to listen when it has been stopped. -/
def belated : List Service :=
  [.start true, .stop .requested, .announce ⟨.v4 1 2 3 4, 80, 0⟩]

end Specimen

namespace Lobby

variable {l l' : Lobby}

theorem registers_gathering :
    ∃ l, Specimen.lobby.run? Specimen.gathering = some l ∧ l.Registers ∧
      l.node.server.connections = [(2, 1)] ∧ l.numbers = [(1, some 0), (2, some 1)] := by
  have hsome : (Specimen.lobby.run? Specimen.gathering).isSome = true := by decide +kernel
  obtain ⟨l, hl⟩ := Option.isSome_iff_exists.1 hsome
  have hnumbers : (Specimen.lobby.run? Specimen.gathering).map (·.numbers) =
      some [(1, some 0), (2, some 1)] := by
    decide +kernel
  have hbook : (Specimen.lobby.run? Specimen.gathering).map (·.node.server.connections) =
      some [(2, 1)] := by
    decide +kernel
  rw [hl, Option.map_some, Option.some.injEq] at hnumbers hbook
  have hfew : l.numbers.length < 2 ^ 64 := by
    rw [hnumbers]
    decide
  exact ⟨l, hl, registers_of_run Specimen.lobby_fresh hl hfew, hbook, hnumbers⟩

/-- No run is on, and the server has the address that it was said to have. -/
theorem belated_keeps_address :
    ∃ l, Specimen.lobby.run? Specimen.belated = some l ∧ l.node.server.isRunning = false ∧
      l.node.server.address = some ⟨.v4 1 2 3 4, 80, 0⟩ :=
  ⟨_, rfl, rfl, rfl⟩

/-! ## Runs that end -/

/-- The endpoint has a queue of the run that is on, and that takes every job. -/
def Serves (l : Lobby) (x : Endpoint) : Prop :=
  ∃ p slot, x.handle = some (.pooled p slot) ∧ l.node.server.pool = some p ∧
    ∀ job, (l.node.enqueue (.pooled p slot.queue) job).2 = true

theorem serves_iff {x : Endpoint} {run : Nat}
    (hberth : l.node.frame.Berthed l.ended run x.handle) : l.Serves x ↔ run = l.ended := by
  obtain ⟨handle, hhandle, p, slot, name, rfl, hsign, hname, hrun, -⟩ := hberth
  constructor
  · rintro ⟨p', slot', hhandle', hpool, -⟩
    obtain ⟨rfl, -⟩ := Handle.pooled.inj (Option.some.inj (hhandle.symm.trans hhandle'))
    exact hrun.1 hpool
  · rintro rfl
    refine ⟨p, slot, hhandle, hrun.2 rfl, fun job ↦ ?_⟩
    obtain ⟨q, hq, rfl, hdisposed⟩ := queue?_of_sign? hsign
    rw [enqueue_of_open _ _ hq (hdisposed.trans (decide_eq_false (Nat.lt_irrefl _))) hname]

theorem Kept.attended (h : l.Kept) {a : Newcomer} {e : EndpointRef} {run : Nat}
    (ha : a ∈ l.newcomers) (hstage : a.stage = .tracked e run) :
    ∃ x, l.node.endpoint? e = some x ∧
      ((x.state = .disconnected ∧ ∀ id, l.node.server.connection? id ≠ some e) ∨
        (x.state.isActive = true ∧ l.node.server.connection? x.id = some e ∧
          l.node.server.isRunning = true ∧ run = l.ended ∧ (l.Serves x ↔ a.run = run))) := by
  have htracks : l.Tracks e := ⟨a, ha, by rw [hstage]; exact beq_self_eq_true e⟩
  obtain ⟨x, hx, ⟨hreason, hactive, hentry, -⟩ | ⟨r, -, hgone, -⟩⟩ := h.tracked htracks
  · refine ⟨x, hx, .inr ⟨hactive, hentry, ?_⟩⟩
    obtain ⟨hrunning, hrun⟩ := h.current a ha e run hstage x.guest (guest?_of_endpoint? hx) hreason
    have hsound := h.agrees.sound a ha
    rw [Newcomer.Sound, hstage] at hsound
    have hberth := (hsound.stays (guest?_of_endpoint? hx) hreason).handle
    exact ⟨hrunning, hrun, hrun ▸ serves_iff hberth⟩
  · refine ⟨x, hx, .inl ⟨hgone, fun id hentry ↦ ?_⟩⟩
    obtain ⟨-, y, hy, -, hstate⟩ := (h.connection?_eq_some_iff id e).1 hentry
    rw [hx, Option.some.injEq] at hy
    exact hstate (hy ▸ hgone)

/-- A connection that has been tracked is disconnected and not in the book, or it was tracked in the
run that is on.  In this case it has a queue of that run exactly if it got its slot in it: no run
has ended, and another begun, before it was tracked. -/
theorem attended_of_run {services : List Service} (hfresh : l.Fresh)
    (hrun : l.run? services = some l') (hfew : l'.numbers.length < 2 ^ 64) {a : Newcomer}
    {e : EndpointRef} {run : Nat} (ha : a ∈ l'.newcomers) (hstage : a.stage = .tracked e run) :
    ∃ x, l'.node.endpoint? e = some x ∧
      ((x.state = .disconnected ∧ ∀ id, l'.node.server.connection? id ≠ some e) ∨
        (x.state.isActive = true ∧ l'.node.server.connection? x.id = some e ∧
          l'.node.server.isRunning = true ∧ run = l'.ended ∧ (l'.Serves x ↔ a.run = run))) :=
  (hfresh.kept.run? hrun hfew).attended ha hstage

end Lobby

namespace Specimen

/-- The server is stopped and started again before a connection is tracked. -/
def restart : List Service :=
  [.start true, .seat, .number 0 ⟨.tcpConnection, ""⟩ none, .attach 0, .stand 0 false,
    .stop .serverStopped, .start true, .track 0]

end Specimen

namespace Lobby

theorem attended_gathering :
    ∃ l x, Specimen.lobby.run? Specimen.gathering = some l ∧ l.node.endpoint? 1 = some x ∧
      x.state = .connecting ∧ l.node.server.connection? x.id = some 1 ∧
      l.node.server.isRunning = true ∧ l.Serves x := by
  have hsome : (Specimen.lobby.run? Specimen.gathering).isSome = true := by decide +kernel
  obtain ⟨l, hl⟩ := Option.isSome_iff_exists.1 hsome
  have hfew : (Specimen.lobby.run? Specimen.gathering).map (·.numbers.length) = some 2 := by
    decide +kernel
  have hnewcomers : (Specimen.lobby.run? Specimen.gathering).map (·.newcomers) =
      some [⟨0, .tracked 1 0⟩, ⟨0, .tracked 0 0⟩] := by
    decide +kernel
  have hstate : (Specimen.lobby.run? Specimen.gathering).bind
      (fun l ↦ (l.node.endpoint? 1).map (·.state)) = some .connecting := by
    decide +kernel
  rw [hl, Option.map_some, Option.some.injEq] at hfew hnewcomers
  rw [hl, Option.bind_some, Option.map_eq_some_iff] at hstate
  have hmem : (⟨0, .tracked 1 0⟩ : Newcomer) ∈ l.newcomers := by
    rw [hnewcomers]
    exact List.mem_cons_self
  obtain ⟨y, hy, hconnecting⟩ := hstate
  obtain ⟨x, hx, hcases⟩ :=
    attended_of_run Specimen.lobby_fresh hl (hfew ▸ (by decide : 2 < 2 ^ 64)) hmem rfl
  obtain rfl : y = x := Option.some.inj (hy.symm.trans hx)
  rcases hcases with ⟨hgone, -⟩ | ⟨-, hentry, hrunning, -, hserves⟩
  · cases hconnecting.symm.trans hgone
  · exact ⟨l, y, hl, hx, hconnecting, hentry, hrunning, hserves.2 rfl⟩

/-- The connection got its slot before the server was stopped.  It is connected and in the book of
the server that runs again, and what it receives is thrown away. -/
theorem restart_outlives_stop :
    ∃ l x, Specimen.lobby.run? Specimen.restart = some l ∧
      l.newcomers = [⟨0, .tracked 0 1⟩] ∧ l.ended = 1 ∧ l.node.endpoint? 0 = some x ∧
      x.state = .connected ∧ l.node.server.connection? x.id = some 0 ∧
      l.node.server.isRunning = true ∧ x.handle = some (.pooled 0 ⟨0, false⟩) ∧
      l.node.server.pool = some 1 ∧ (l.node.enqueue (.pooled 0 0) (.parse 0)).2 = false :=
  ⟨_, _, rfl, rfl, rfl, rfl, rfl, rfl, rfl, rfl, rfl, rfl⟩

end Lobby

end MessageEngine
