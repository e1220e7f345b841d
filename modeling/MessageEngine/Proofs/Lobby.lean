import Mathlib.Data.List.Nodup
import MessageEngine.Node.Server
import MessageEngine.Proofs.Guests

/-!
# A server at work

A server is started and stopped at will, and connections come in meanwhile.
Each of them is given a slot and a number, gets its endpoint, and is tracked
in the end, and between any two of these steps everything else may happen:
to the server, to the other connections, and to the connection itself.

Beside the node it is written down which numbers were handed out, how many
runs have ended, and which run was on when a connection got its slot and
when it was tracked.

Every call on the server or an endpoint is one step, and so is every turn of a
worker; the results are about every order of these steps.  What threads do to
each other within one call, such as a stop while a connection is entered in
the book, is not modelled.
-/

namespace MessageEngine

/-- How far a connection has come. -/
inductive Admission
  | seated (h : Handle)
  | numbered (e : EndpointRef) (h : Handle)
  /-- The endpoint has the slot. -/
  | attached (e : EndpointRef)
  /-- The endpoint is connected, or shakes hands. -/
  | standing (e : EndpointRef)
  /-- The server was asked to keep track of it when so many runs had ended. -/
  | tracked (e : EndpointRef) (run : Nat)
  /-- There was no room for what it would receive. -/
  | lost
  deriving DecidableEq

namespace Admission

def endpoint? : Admission → Option EndpointRef
  | numbered e _ | attached e | standing e | tracked e _ => some e
  | seated _ | lost => none

def tracks (stage : Admission) (e : EndpointRef) : Bool :=
  match stage with
  | tracked d _ => d == e
  | _ => false

theorem endpoint?_of_tracks {stage : Admission} {e : EndpointRef} (h : stage.tracks e = true) :
    stage.endpoint? = some e := by
  cases stage with
  | tracked d run =>
      rw [tracks, beq_iff_eq] at h
      exact congrArg some h
  | seated h | numbered d h | attached d | standing d | lost => cases h

end Admission

/-- A connection that was given a slot when so many runs had ended. -/
structure Newcomer where
  run : Nat
  stage : Admission
  deriving DecidableEq

/-- What is written down beside the node. -/
structure Ledger where
  newcomers : List Newcomer := []
  /-- The numbers that were handed out, with the endpoints that got them. -/
  numbers : List (UInt64 × Option EndpointRef) := []
  /-- How many runs have ended. -/
  ended : Nat := 0
  /-- The server was said to listen while no run was on, and no run has ended since. -/
  belated : Bool := false

namespace Ledger

/-- The connection at a place comes to another stage. -/
def move (c : Ledger) (i : Nat) (a : Newcomer) : Ledger :=
  { c with newcomers := c.newcomers.set i a }

/-- A number is handed out on the way. -/
def handOut (c : Ledger) (i : Nat) (a : Newcomer) (id : UInt64) (owner : Option EndpointRef) :
    Ledger := { c.move i a with numbers := c.numbers ++ [(id, owner)] }

end Ledger

structure Lobby extends Ledger where
  node : Node

/-- What can happen to a server and its connections. -/
inductive Service
  /-- Begin a run, and take that back at once if the server could not be bound. -/
  | start (bound : Bool)
  /-- The server listens at an address. -/
  | announce (address : SocketAddress)
  | stop (reason : DisconnectReason)
  /-- A connection comes in, and is given a slot if a run is on. -/
  | seat
  | number (i : Nat) (type : EndpointType) (remote : Option SocketAddress)
  | attach (i : Nat)
  | stand (i : Nat) (handshake : Bool)
  | track (i : Nat)
  /-- Whatever else happens to endpoints. -/
  | act (act : Act)
  deriving DecidableEq

namespace Lobby

def start (l : Lobby) (bound : Bool) : Lobby :=
  match l.node.beginServer with
  | (s, .ok _) => { l with node := if bound then s else s.abortServer }
  | (s, .error _) => { l with node := s }

def announce (l : Lobby) (address : SocketAddress) : Lobby :=
  { l with
    node := l.node.serverStarted address, belated := l.belated || !l.node.server.isRunning }

def stop (l : Lobby) (reason : DisconnectReason) : Lobby :=
  match l.node.finishServer reason with
  | (s, .ok _) => { l with node := s, ended := l.ended + 1, belated := false }
  | (s, .error _) => { l with node := s }

def seat (l : Lobby) : Lobby :=
  match l.node.acquireSlot with
  | none => l
  | some (s, h) => { l with node := s, newcomers := l.newcomers ++ [⟨l.ended, .seated h⟩] }

/-- Number a connection and make its endpoint.  A panic for want of room takes the slot with it. -/
def number (l : Lobby) (i run : Nat) (h : Handle) (type : EndpointType)
    (remote : Option SocketAddress) : Lobby :=
  let (s, id) := l.node.nextConnectionId
  let (s', e) := s.newEndpoint { type := type, id := id, remote := remote }
  match s'.panic with
  | some _ => ⟨l.handOut i ⟨run, .lost⟩ id none, s.drop h⟩
  | none => ⟨l.handOut i ⟨run, .numbered e h⟩ id (some e), s'⟩

/-- What happens next, if it can.  A handshake begins before anyone could have disconnected the
endpoint. -/
def step? (l : Lobby) : Service → Option Lobby
  | .start bound => some (l.start bound)
  | .announce address => some (l.announce address)
  | .stop reason => some (l.stop reason)
  | .seat => some l.seat
  | .number i type remote =>
    match l.newcomers[i]? with
    | some ⟨run, .seated h⟩ => some (l.number i run h type remote)
    | _ => none
  | .attach i =>
    match l.newcomers[i]? with
    | some ⟨run, .numbered e h⟩ => some ⟨l.move i ⟨run, .attached e⟩, l.node.attach e h⟩
    | _ => none
  | .stand i false =>
    match l.newcomers[i]? with
    | some ⟨run, .attached e⟩ =>
      some ⟨l.move i ⟨run, .standing e⟩, (l.node.markConnected e).1⟩
    | _ => none
  | .stand i true =>
    match l.newcomers[i]? with
    | some ⟨run, .attached e⟩ =>
      if l.node.reason? e = none then
        some ⟨l.move i ⟨run, .standing e⟩, l.node.setState e .connecting⟩
      else none
    | _ => none
  | .track i =>
    match l.newcomers[i]? with
    | some ⟨run, .standing e⟩ =>
      some ⟨l.move i ⟨run, .tracked e l.ended⟩, l.node.track e⟩
    | _ => none
  | .act act => if act.Fair then (l.node.act? act).map fun s ↦ { l with node := s } else none

/-- The steps there are, each with what it needs. -/
inductive Step (l : Lobby) : Service → Lobby → Prop
  | start (bound : Bool) : Step l (.start bound) (l.start bound)
  | announce (address : SocketAddress) : Step l (.announce address) (l.announce address)
  | stop (reason : DisconnectReason) : Step l (.stop reason) (l.stop reason)
  | seat : Step l .seat l.seat
  | number {i run : Nat} {h : Handle} (hi : l.newcomers[i]? = some ⟨run, .seated h⟩)
      (type : EndpointType) (remote : Option SocketAddress) :
      Step l (.number i type remote) (l.number i run h type remote)
  | attach {i run : Nat} {e : EndpointRef} {h : Handle}
      (hi : l.newcomers[i]? = some ⟨run, .numbered e h⟩) :
      Step l (.attach i) ⟨l.move i ⟨run, .attached e⟩, l.node.attach e h⟩
  | stand {i run : Nat} {e : EndpointRef} (hi : l.newcomers[i]? = some ⟨run, .attached e⟩) :
      Step l (.stand i false) ⟨l.move i ⟨run, .standing e⟩, (l.node.markConnected e).1⟩
  | shake {i run : Nat} {e : EndpointRef} (hi : l.newcomers[i]? = some ⟨run, .attached e⟩)
      (hreason : l.node.reason? e = none) :
      Step l (.stand i true) ⟨l.move i ⟨run, .standing e⟩, l.node.setState e .connecting⟩
  | track {i run : Nat} {e : EndpointRef} (hi : l.newcomers[i]? = some ⟨run, .standing e⟩) :
      Step l (.track i) ⟨l.move i ⟨run, .tracked e l.ended⟩, l.node.track e⟩
  | act {act : Act} {s : Node} (hfair : act.Fair) (hact : l.node.act? act = some s) :
      Step l (.act act) { l with node := s }

theorem step_of_step? {l l' : Lobby} {service : Service} (h : l.step? service = some l') :
    l.Step service l' := by
  cases service with
  | start bound =>
      cases h
      exact .start bound
  | announce address =>
      cases h
      exact .announce address
  | stop reason =>
      cases h
      exact .stop reason
  | seat =>
      cases h
      exact .seat
  | number i type remote =>
      rw [step?] at h
      split at h
      · next hi =>
        cases h
        exact .number hi type remote
      · cases h
  | attach i =>
      rw [step?] at h
      split at h
      · next hi =>
        cases h
        exact .attach hi
      · cases h
  | stand i handshake =>
      cases handshake with
      | false =>
          rw [step?] at h
          split at h
          · next hi =>
            cases h
            exact .stand hi
          · cases h
      | true =>
          rw [step?] at h
          split at h
          · next hi =>
            split at h
            · next hreason =>
              cases h
              exact .shake hi hreason
            · cases h
          · cases h
  | track i =>
      rw [step?] at h
      split at h
      · next hi =>
        cases h
        exact .track hi
      · cases h
  | act act =>
      rw [step?] at h
      split at h
      · next hfair =>
        obtain ⟨s, hact, rfl⟩ := Option.map_eq_some_iff.1 h
        exact .act hfair hact
      · cases h

def run? (l : Lobby) : List Service → Option Lobby
  | [] => some l
  | service :: rest => (l.step? service).bind fun l' ↦ l'.run? rest

/-- A server that was never started, on a node that has nothing to do with it yet. -/
structure Fresh (l : Lobby) : Prop where
  panic : l.node.panic = none
  fair : ∀ e, (l.node.engine e).registry.Fair
  server : l.node.server =
    { name := l.node.server.name, perQueue := l.node.server.perQueue }
  named : Queue.nameRefusal? l.node.server.name = none
  strikes : ∀ x ∈ l.node.endpoints, ∀ hook ∈ x.hooks, hook.strikes = []
  ledger : l.toLedger = {}

end Lobby

/-! ## Slots -/

namespace Node

/-- The name of a queue of a pool, and whether it is disposed. -/
def Frame.sign? (f : Frame) (p i : Nat) : Option (String × Bool) := f.faces[p]?.bind (·.2[i]?)

/-- A slot of a run: its queue is disposed once that has ended, and belongs to the pool of the
server until then. -/
def Frame.Berth (f : Frame) (ended run : Nat) (h : Handle) : Prop :=
  ∃ p slot name, h = .pooled p slot ∧ f.sign? p slot.queue = some (name, decide (run < ended)) ∧
    Queue.nameRefusal? name = none ∧ (f.server.pool = some p ↔ run = ended) ∧ run ≤ ended

/-- A handle that is a slot of a run. -/
def Frame.Berthed (f : Frame) (ended run : Nat) (handle : Option Handle) : Prop :=
  ∃ h, handle = some h ∧ f.Berth ended run h

theorem queue?_of_sign? {s : Node} {p i : Nat} {name : String} {disposed : Bool}
    (h : s.frame.sign? p i = some (name, disposed)) :
    ∃ q, s.queue? (.pooled p i) = some q ∧ q.name = name ∧ q.disposed = disposed := by
  obtain ⟨face, hface, hsign⟩ := Option.bind_eq_some_iff.1 h
  rw [frame, faces, List.getElem?_map, Option.map_eq_some_iff] at hface
  obtain ⟨pool, hpool, rfl⟩ := hface
  rw [Pool.face, List.getElem?_map, Option.map_eq_some_iff] at hsign
  obtain ⟨q, hq, heq⟩ := hsign
  obtain ⟨hname, hdisposed⟩ := Prod.mk.inj heq
  refine ⟨q, ?_, hname, hdisposed⟩
  rw [queue?, hpool]
  exact hq

/-- An endpoint that nobody disconnected, and what the server knows of it. -/
structure Stays (P : Option Handle → Prop) (tracked : Bool) (e : EndpointRef) (g : Guest)
    (s : Node) : Prop where
  guest : s.guest? e = some g
  reason : g.reason = none
  ended : g.ended = false
  halt : g.halt = none
  handle : P g.handle
  strikes : g.strikes = if tracked then [g.id] else []
  entry : s.server.connection? g.id = if tracked then some e else none
  told : s.server.told g.id = if tracked then [.added g.id] else []

/-- An endpoint that was disconnected. -/
structure Left (tracked : Bool) (e : EndpointRef) (g : Guest) (r : DisconnectReason)
    (s : Node) : Prop where
  guest : s.guest? e = some g
  reason : g.reason = some r
  ended : g.ended = true
  halt : g.halt = some .disconnected
  strikes : g.strikes = []
  entry : s.server.connection? g.id = none
  told : s.server.told g.id = if tracked then [.added g.id, .removed g.id r] else []

def Lodges (P : Option Handle → Prop) (tracked : Bool) (e : EndpointRef) (s : Node) : Prop :=
  (∃ g, Stays P tracked e g s) ∨ ∃ g r, Left tracked e g r s

variable {P P' : Option Handle → Prop} {tracked : Bool} {e d : EndpointRef} {g g' : Guest}
  {r reason : DisconnectReason} {s s' : Node}

/-- Nothing has changed of an endpoint and of what the server knows of it. -/
structure Same (e : EndpointRef) (s s' : Node) : Prop where
  guest : s'.guest? e = s.guest? e
  entry : ∀ g ∈ s.guest? e, s'.server.connection? g.id = s.server.connection? g.id
  told : ∀ g ∈ s.guest? e, s'.server.told g.id = s.server.told g.id

theorem Lodges.of_same (h : Lodges P tracked e s) (hsame : Same e s s')
    (hhandle : ∀ h, P h → P' h) : Lodges P' tracked e s' := by
  rcases h with ⟨g, h⟩ | ⟨g, r, h⟩
  · exact .inl ⟨g, { h with
      guest := hsame.guest.trans h.guest
      handle := hhandle _ h.handle
      entry := (hsame.entry g h.guest).trans h.entry
      told := (hsame.told g h.guest).trans h.told }⟩
  · exact .inr ⟨g, r, { h with
      guest := hsame.guest.trans h.guest
      entry := (hsame.entry g h.guest).trans h.entry
      told := (hsame.told g h.guest).trans h.told }⟩

theorem Lodges.stays (h : Lodges P tracked e s) (hg : s.guest? e = some g)
    (hreason : g.reason = none) : Stays P tracked e g s := by
  rcases h with ⟨g', h⟩ | ⟨g', r, h⟩
  · have hsame : g' = g := Option.some.inj (h.guest.symm.trans hg)
    rwa [hsame] at h
  · have hsame : g' = g := Option.some.inj (h.guest.symm.trans hg)
    rw [← hsame, h.reason] at hreason
    cases hreason

theorem Lodges.left (h : Lodges P tracked e s) (hg : s.guest? e = some g)
    (hreason : g.reason = some r) : Left tracked e g r s := by
  rcases h with ⟨g', h⟩ | ⟨g', r', h⟩
  · have hsame : g' = g := Option.some.inj (h.guest.symm.trans hg)
    rw [← hsame, h.reason] at hreason
    cases hreason
  · have hsame : g' = g := Option.some.inj (h.guest.symm.trans hg)
    rw [hsame] at h
    rw [h.reason, Option.some.injEq] at hreason
    rwa [hreason] at h

theorem Stays.departs (h : Stays P tracked e g s) (hdeparts : Departs e g reason s s') :
    Left tracked e (g.depart reason) reason s' where
  guest := hdeparts.behind
  reason := rfl
  ended := rfl
  halt := rfl
  strikes := rfl
  entry := by
    show s'.server.connection? g.id = none
    rw [hdeparts.server, Server.connection?_strikeAll, h.strikes, h.entry]
    cases tracked
    · rfl
    · exact if_pos (List.mem_singleton.2 rfl)
  told := by
    show s'.server.told g.id = _
    rw [hdeparts.server, h.strikes]
    cases tracked
    · exact h.told
    · show (s.server.strike g.id reason).told g.id = [.added g.id, .removed g.id reason]
      rw [Server.told_strike, h.told, if_pos (rfl : g.id = g.id)]
      rfl

end Node

/-! ## What the ledger says -/

/-- As far as the server knows, the connection has come as far as it is said. -/
def Newcomer.Sound (a : Newcomer) (ended : Nat) (s : Node) : Prop :=
  match a.stage with
  | .seated h => s.frame.Berth ended a.run h
  | .numbered e h => s.frame.Berth ended a.run h ∧ s.Lodges (· = none) false e
  | .attached e | .standing e => s.Lodges (s.frame.Berthed ended a.run) false e
  | .tracked e _ => s.Lodges (s.frame.Berthed ended a.run) true e
  | .lost => True

theorem Newcomer.Sound.of_same {a : Newcomer} {ended ended' : Nat} {s s' : Node}
    (h : a.Sound ended s)
    (hberth : ∀ handle, s.frame.Berth ended a.run handle → s'.frame.Berth ended' a.run handle)
    (hsame : ∀ e, a.stage.endpoint? = some e → s.Same e s') : a.Sound ended' s' := by
  obtain ⟨run, stage⟩ := a
  have hberthed : ∀ handle, s.frame.Berthed ended run handle →
      s'.frame.Berthed ended' run handle := by
    rintro _ ⟨handle, rfl, h⟩
    exact ⟨handle, rfl, hberth handle h⟩
  cases stage with
  | seated handle => exact hberth handle h
  | numbered e handle => exact ⟨hberth handle h.1, h.2.of_same (hsame e rfl) fun _ ↦ id⟩
  | attached e => exact Node.Lodges.of_same h (hsame e rfl) hberthed
  | standing e => exact Node.Lodges.of_same h (hsame e rfl) hberthed
  | tracked e run => exact Node.Lodges.of_same h (hsame e rfl) hberthed
  | lost => trivial

theorem Newcomer.Sound.of_frame {a : Newcomer} {ended : Nat} {s s' : Node} (h : a.Sound ended s)
    (hframe : s'.frame = s.frame) (hsame : ∀ e, a.stage.endpoint? = some e → s.Same e s') :
    a.Sound ended s' := by
  refine h.of_same (fun handle hberth ↦ ?_) hsame
  rw [hframe]
  exact hberth

namespace Ledger

/-- The server was asked to keep track of the endpoint. -/
def Tracks (c : Ledger) (e : EndpointRef) : Prop := ∃ a ∈ c.newcomers, a.stage.tracks e = true

/-- Every connection has its own endpoint and its own number. -/
structure Tidy (c : Ledger) : Prop where
  apart : ∀ (i j : Nat) (a b : Newcomer) e, c.newcomers[i]? = some a → c.newcomers[j]? = some b →
    a.stage.endpoint? = some e → b.stage.endpoint? = some e → i = j
  known : ∀ a ∈ c.newcomers, ∀ e, a.stage.endpoint? = some e → ∃ id, (id, some e) ∈ c.numbers
  distinct : (c.numbers.map Prod.fst).Nodup

/-- An event is about a connection that was tracked, and one who looks it up in the book at that
moment finds it when it was added, and does not when it was removed. -/
def Right (c : Ledger) (n : Notice) : Prop :=
  ∃ e, (n.event.id, some e) ∈ c.numbers ∧ c.Tracks e ∧
    n.book.lookup n.event.id =
      match n.event with
      | .added _ => some e
      | .removed _ _ => none

/-- The book and the notices of the server are what they should be. -/
structure Agrees (c : Ledger) (s : Node) : Prop where
  sound : ∀ a ∈ c.newcomers, a.Sound c.ended s
  named : ∀ id e, (id, some e) ∈ c.numbers → ∃ g, s.guest? e = some g ∧ g.id = id
  strange : ∀ e, (∀ a ∈ c.newcomers, a.stage.endpoint? ≠ some e) →
    ∀ g, s.guest? e = some g → g.strikes = []
  ordered : Server.Ascending s.server.connections
  entries : ∀ id e, s.server.connection? id = some e →
    c.Tracks e ∧ ∃ g, s.guest? e = some g ∧ g.id = id ∧ g.reason = none
  notices : ∀ n ∈ s.server.notices, c.Right n

/-! ## What acts leave as it is -/

section Acts

open Node

variable {c : Ledger} {e d : EndpointRef} {g g' : Guest} {r reason : DisconnectReason}
  {s s' : Node}

/-- The endpoint of a connection lodges, whatever has become of the connection. -/
theorem Agrees.lodges (h : c.Agrees s) {a : Newcomer} (ha : a ∈ c.newcomers)
    (he : a.stage.endpoint? = some e) :
    ∃ P, s.Lodges P (a.stage.tracks e) e ∧
      ∀ handle, P handle → handle = none ∨ s.frame.Berthed c.ended a.run handle := by
  have hsound := h.sound a ha
  obtain ⟨run, stage⟩ := a
  cases stage with
  | seated handle => cases he
  | numbered d handle =>
      cases he
      exact ⟨_, hsound.2, fun _ ↦ .inl⟩
  | attached d =>
      cases he
      exact ⟨_, hsound, fun _ ↦ .inr⟩
  | standing d =>
      cases he
      exact ⟨_, hsound, fun _ ↦ .inr⟩
  | tracked d run =>
      cases he
      refine ⟨_, ?_, fun _ ↦ .inr⟩
      rw [Admission.tracks, beq_self_eq_true]
      exact hsound
  | lost => cases he

theorem Agrees.guest? (h : c.Agrees s) {a : Newcomer} (ha : a ∈ c.newcomers)
    (he : a.stage.endpoint? = some e) : ∃ g, s.guest? e = some g := by
  obtain ⟨P, hlodges, -⟩ := h.lodges ha he
  rcases hlodges with ⟨g, hstays⟩ | ⟨g, r, hleft⟩
  · exact ⟨g, hstays.guest⟩
  · exact ⟨g, hleft.guest⟩

theorem Agrees.lodges_of_tracks (h : c.Agrees s) (htracks : c.Tracks e) :
    ∃ P, s.Lodges P true e := by
  obtain ⟨a, ha, htrack⟩ := htracks
  obtain ⟨P, hlodges, -⟩ := h.lodges ha (Admission.endpoint?_of_tracks htrack)
  exact ⟨P, htrack ▸ hlodges⟩

/-- An endpoint strikes off itself if it is in the book, and nothing else. -/
theorem Agrees.strikes (h : c.Agrees s) (hg : s.guest? e = some g) (hreason : g.reason = none) :
    g.strikes = [] ∨ g.strikes = [g.id] ∧ c.Tracks e := by
  by_cases hcome : ∃ a ∈ c.newcomers, a.stage.endpoint? = some e
  · obtain ⟨a, ha, he⟩ := hcome
    obtain ⟨P, hlodges, -⟩ := h.lodges ha he
    have hstays := hlodges.stays hg hreason
    cases htracks : a.stage.tracks e with
    | false =>
        rw [htracks] at hstays
        exact .inl hstays.strikes
    | true =>
        rw [htracks] at hstays
        exact .inr ⟨hstays.strikes, ⟨a, ha, htracks⟩⟩
  · refine .inl (h.strange e (fun a ha he ↦ hcome ⟨a, ha, he⟩) g hg)

theorem Tidy.unique (h : c.Tidy) {id : UInt64} (hd : (id, some d) ∈ c.numbers)
    (he : (id, some e) ∈ c.numbers) : d = e := by
  have hsame := List.inj_on_of_nodup_map h.distinct hd he rfl
  exact Option.some.inj (congrArg Prod.snd hsame)

theorem Agrees.number (h : c.Agrees s) (htidy : c.Tidy) {a : Newcomer} (ha : a ∈ c.newcomers)
    (he : a.stage.endpoint? = some e) (hg : s.guest? e = some g) : (g.id, some e) ∈ c.numbers := by
  obtain ⟨id, hid⟩ := htidy.known a ha e he
  obtain ⟨g', hg', rfl⟩ := h.named id e hid
  rw [hg, Option.some.injEq] at hg'
  exact hg' ▸ hid

theorem Tracks.newcomer (h : c.Tracks e) : ∃ a ∈ c.newcomers, a.stage.endpoint? = some e := by
  obtain ⟨a, ha, htracks⟩ := h
  exact ⟨a, ha, Admission.endpoint?_of_tracks htracks⟩

theorem Agrees.still (h : c.Agrees s) (hstill : Still s s') : c.Agrees s' where
  sound a ha := by
    refine (h.sound a ha).of_frame hstill.frame fun e _ ↦ ⟨hstill.guests e, ?_, ?_⟩
    · intro g _
      rw [hstill.server]
    · intro g _
      rw [hstill.server]
  named id e hid := by
    rw [hstill.guests]
    exact h.named id e hid
  strange e he g hg := by
    rw [hstill.guests] at hg
    exact h.strange e he g hg
  ordered := hstill.server ▸ h.ordered
  entries id e hentry := by
    rw [hstill.guests]
    rw [hstill.server] at hentry
    exact h.entries id e hentry
  notices := hstill.server ▸ h.notices

theorem Agrees.notMem_strikes (h : c.Agrees s) (htidy : c.Tidy) {a : Newcomer}
    (ha : a ∈ c.newcomers) (hd : a.stage.endpoint? = some d) (hne : d ≠ e)
    (hg : s.guest? e = some g) (hreason : g.reason = none) (hg' : s.guest? d = some g') :
    g'.id ∉ g.strikes := by
  rcases h.strikes hg hreason with hnone | ⟨hself, htracks⟩
  · rw [hnone]
    exact List.not_mem_nil
  · rw [hself, List.mem_singleton]
    intro hid
    obtain ⟨b, hb, he⟩ := htracks.newcomer
    have hnumber := h.number htidy ha hd hg'
    rw [hid] at hnumber
    exact hne (htidy.unique hnumber (h.number htidy hb he hg))

theorem Agrees.departs (h : c.Agrees s) (htidy : c.Tidy) (hdeparts : Departs e g reason s s') :
    c.Agrees s' where
  sound a ha := by
    by_cases he : a.stage.endpoint? = some e
    · have hsound := h.sound a ha
      obtain ⟨run, stage⟩ := a
      -- However far the connection has come, it has left now, and keeps no handle.
      have hleft : ∀ {P tracked}, Lodges P tracked e s → ∀ {P'}, Lodges P' tracked e s' := fun hl ↦
        .inr ⟨_, _, (hl.stays hdeparts.before hdeparts.first).departs hdeparts⟩
      rw [Newcomer.Sound] at hsound ⊢
      rw [hdeparts.frame]
      cases stage with
      | seated handle => cases he
      | numbered d handle =>
          cases he
          exact ⟨hsound.1, hleft hsound.2⟩
      | attached d =>
          cases he
          exact hleft hsound
      | standing d =>
          cases he
          exact hleft hsound
      | tracked d run =>
          cases he
          exact hleft hsound
      | lost => cases he
    · refine (h.sound a ha).of_frame hdeparts.frame fun d hd ↦ ?_
      have hne : d ≠ e := fun heq ↦ he (heq ▸ hd)
      refine ⟨hdeparts.others d hne, fun g' hg' ↦ ?_, fun g' hg' ↦ ?_⟩
      · have hnot := h.notMem_strikes htidy ha hd hne hdeparts.before hdeparts.first hg'
        rw [hdeparts.server, Server.connection?_strikeAll, if_neg hnot]
      · have hnot := h.notMem_strikes htidy ha hd hne hdeparts.before hdeparts.first hg'
        rw [hdeparts.server, Server.told_strikeAll_of_notMem hnot]
  named id d hid := by
    obtain ⟨g', hg', hid'⟩ := h.named id d hid
    by_cases hd : d = e
    · subst hd
      rw [hdeparts.before, Option.some.injEq] at hg'
      subst hg'
      exact ⟨_, hdeparts.behind, hid'⟩
    · exact ⟨g', (hdeparts.others d hd).trans hg', hid'⟩
  strange d hstrange g' hg' := by
    by_cases hd : d = e
    · subst hd
      rw [hdeparts.behind, Option.some.injEq] at hg'
      exact hg' ▸ rfl
    · exact h.strange d hstrange g' ((hdeparts.others d hd).symm.trans hg')
  ordered := by
    rw [hdeparts.server]
    exact h.ordered.strikeAll
  entries id d hentry := by
    rw [hdeparts.server, Server.connection?_strikeAll] at hentry
    split at hentry
    · cases hentry
    · next hnot =>
      obtain ⟨htracks, g', hg', hid, hreason⟩ := h.entries id d hentry
      -- Were it the one that departs, it would have struck off itself.
      have hd : d ≠ e := by
        rintro rfl
        rw [hdeparts.before, Option.some.injEq] at hg'
        subst hg'
        obtain ⟨P, hlodges⟩ := h.lodges_of_tracks htracks
        have hself : g.strikes = [g.id] := (hlodges.stays hdeparts.before hreason).strikes
        rw [hself, hid, List.mem_singleton] at hnot
        exact hnot rfl
      exact ⟨htracks, g', (hdeparts.others d hd).trans hg', hid, hreason⟩
  notices := by
    rw [hdeparts.server]
    rcases h.strikes hdeparts.before hdeparts.first with hnone | ⟨hself, htracks⟩
    · rw [hnone]
      exact h.notices
    · rw [hself]
      intro n hn
      rcases List.mem_append.1 hn with hold | hnew
      · exact h.notices n hold
      · obtain ⟨a, ha, he⟩ := htracks.newcomer
        have hnumber := h.number htidy ha he hdeparts.before
        rw [List.mem_singleton.1 hnew]
        refine ⟨e, hnumber, htracks, ?_⟩
        exact (Server.connection?_strike (v := s.server) reason).trans (if_pos rfl)

/-- The name of no queue that a connection was given is refused. -/
theorem Agrees.not_sticks (h : c.Agrees s) {a : Newcomer} (ha : a ∈ c.newcomers)
    (he : a.stage.endpoint? = some e) : ¬Sticks e g reason s s' := by
  intro hsticks
  obtain ⟨P, hlodges, hhandle⟩ := h.lodges ha he
  have hstays := hlodges.stays hsticks.before hsticks.first
  obtain ⟨handle, q, hsome, hq, hrefused⟩ := hsticks.refused
  rcases hhandle _ hstays.handle with hnone | ⟨handle', hsome', p, slot, name, rfl, hsign, hname, -⟩
  · rw [hsome] at hnone
    cases hnone
  · rw [hsome, Option.some.injEq] at hsome'
    subst hsome'
    obtain ⟨q', hq', hname', -⟩ := queue?_of_sign? hsign
    have hsame : q' = q := Option.some.inj (hq'.symm.trans hq)
    rw [← hsame, hname'] at hrefused
    exact hrefused hname

theorem Agrees.sticks (h : c.Agrees s) (hsticks : Sticks e g reason s s') : c.Agrees s' := by
  -- Who gets stuck is none of the connections, so for them nothing has changed.
  have hstrange : ∀ a ∈ c.newcomers, ∀ d, a.stage.endpoint? = some d → d ≠ e := by
    rintro a ha d hd rfl
    exact h.not_sticks ha hd hsticks
  refine ⟨fun a ha ↦ ?_, fun id d hid ↦ ?_, fun d hd g' hg' ↦ ?_, ?_, fun id d hentry ↦ ?_, ?_⟩
  · refine (h.sound a ha).of_frame hsticks.frame fun d hd ↦ ?_
    refine ⟨hsticks.others d (hstrange a ha d hd), ?_, ?_⟩
    · intro g' _
      rw [hsticks.server]
    · intro g' _
      rw [hsticks.server]
  · obtain ⟨g', hg', hid'⟩ := h.named id d hid
    by_cases hd : d = e
    · subst hd
      rw [hsticks.before, Option.some.injEq] at hg'
      subst hg'
      exact ⟨_, hsticks.behind, hid'⟩
    · exact ⟨g', (hsticks.others d hd).trans hg', hid'⟩
  · by_cases hde : d = e
    · subst hde
      rw [hsticks.behind, Option.some.injEq] at hg'
      subst hg'
      exact h.strange d hd g hsticks.before
    · exact h.strange d hd g' ((hsticks.others d hde).symm.trans hg')
  · exact hsticks.server ▸ h.ordered
  · rw [hsticks.server] at hentry
    obtain ⟨htracks, g', hg', hrest⟩ := h.entries id d hentry
    obtain ⟨a, ha, hd⟩ := htracks.newcomer
    exact ⟨htracks, g', (hsticks.others d (hstrange a ha d hd)).trans hg', hrest⟩
  · exact hsticks.server ▸ h.notices

theorem Tidy.stable (h : c.Tidy) : Stable c.Agrees where
  still hstill hagrees := hagrees.still hstill
  departs hdeparts hagrees := hagrees.departs h hdeparts
  sticks hsticks hagrees := hagrees.sticks hsticks

theorem Agrees.panic_disconnect (h : c.Agrees s) (hpanic : s.panic = none) {a : Newcomer}
    (ha : a ∈ c.newcomers) (he : a.stage.endpoint? = some e) (reason : DisconnectReason) :
    (s.disconnect e reason).1.panic = none := by
  rcases s.disconnect_cases e reason hpanic with ⟨hsame, -⟩ | ⟨g, -, hnone⟩ | ⟨g, hsticks⟩
  · rw [hsame]
    exact hpanic
  · exact hnone
  · exact absurd hsticks (h.not_sticks ha he)

/-- A connection in the book of a server was tracked in the run that is on. -/
def Current (c : Ledger) (s : Node) : Prop :=
  ∀ a ∈ c.newcomers, ∀ e run, a.stage = .tracked e run → ∀ g, s.guest? e = some g →
    g.reason = none → s.frame.server.isRunning = true ∧ run = c.ended

theorem stable_current : Stable c.Current where
  still hstill hcurrent a ha e run hstage g hg hreason := by
    rw [hstill.guests] at hg
    rw [hstill.frame]
    exact hcurrent a ha e run hstage g hg hreason
  departs {d _ _ _ _} hdeparts hcurrent a ha e run hstage g hg hreason := by
    rw [hdeparts.frame]
    by_cases he : e = d
    · subst he
      rw [hdeparts.behind, Option.some.injEq] at hg
      subst hg
      cases hreason
    · exact hcurrent a ha e run hstage g ((hdeparts.others e he).symm.trans hg) hreason
  sticks {d _ _ _ _} hsticks hcurrent a ha e run hstage g hg hreason := by
    rw [hsticks.frame]
    by_cases he : e = d
    · subst he
      rw [hsticks.behind, Option.some.injEq] at hg
      subst hg
      cases hreason
    · exact hcurrent a ha e run hstage g ((hsticks.others e he).symm.trans hg) hreason

end Acts

end Ledger

end MessageEngine
