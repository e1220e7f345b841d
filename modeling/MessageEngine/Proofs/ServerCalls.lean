import MessageEngine.Proofs.Lobby

/-!
# The calls on a server

A server that is in order has a pool while a run is on, numbers to hand out,
and a book that says what it should.  It is still in order when a run has
begun or ended, when it was said to listen, and when a connection has come
in, and whatever happens to its endpoints.
-/

namespace MessageEngine

open Node

/-! ## What the server's own calls see to -/

/-- The server can give out slots and numbers. -/
structure Node.Frame.Fit (f : Frame) (c : Ledger) : Prop where
  fair : ∀ e, (f.engine e).registry.Fair
  named : Queue.nameRefusal? f.server.name = none
  next : f.server.nextId = UInt64.ofNat (c.numbers.length + 1)
  running : f.server.isRunning = f.server.pool.isSome
  pool : ∀ p, f.server.pool = some p → ∃ face, f.faces[p]? = some face ∧
    Queue.nameRefusal? face.1 = none ∧
      ∀ sign ∈ face.2, Queue.nameRefusal? sign.1 = none ∧ sign.2 = false
  address : f.server.pool = none → f.server.address.isSome = c.belated

theorem Node.Frame.Berth.mono {f f' : Frame} {ended run : Nat} {h : Handle}
    (hberth : f.Berth ended run h)
    (hsign : ∀ p i sign, f.sign? p i = some sign → f'.sign? p i = some sign)
    (hpool : ∀ p, p < f.faces.length → (f'.server.pool = some p ↔ f.server.pool = some p)) :
    f'.Berth ended run h := by
  obtain ⟨p, slot, name, rfl, hfound, hname, hrun, hle⟩ := hberth
  refine ⟨p, slot, name, rfl, hsign p _ _ hfound, hname, ?_, hle⟩
  obtain ⟨face, hface, -⟩ := Option.bind_eq_some_iff.1 hfound
  rw [hpool p (List.getElem?_eq_some_iff.1 hface).1, hrun]

namespace Ledger

section Advances

variable {c c' : Ledger} {i : Nat} {a a' : Newcomer} {s s' : Node}

/-- A connection at a place that was not tracked has come to another stage. -/
structure Advances (c c' : Ledger) (i : Nat) (a a' : Newcomer) : Prop where
  here : c.newcomers[i]? = some a
  newcomers : c'.newcomers = c.newcomers.set i a'
  ended : c'.ended = c.ended
  numbers : c.numbers ⊆ c'.numbers
  untracked : ∀ e, a.stage.tracks e = false
  own : a.stage.endpoint? = none ∨ a.stage.endpoint? = a'.stage.endpoint?
  free : ∀ (j : Nat) (b : Newcomer) e, j ≠ i → c.newcomers[j]? = some b →
    b.stage.endpoint? = some e → a'.stage.endpoint? ≠ some e

/-- What a step has changed of a node is as it should be, and of the other connections nothing has
changed. -/
structure Renews (c c' : Ledger) (a' : Newcomer) (s s' : Node) : Prop where
  berth : ∀ run handle, s.frame.Berth c.ended run handle → s'.frame.Berth c.ended run handle
  guests : ∀ e, a'.stage.endpoint? ≠ some e → s'.guest? e = s.guest? e
  book : ∀ id e, (id, some e) ∈ c.numbers → a'.stage.endpoint? ≠ some e →
    s'.server.connection? id = s.server.connection? id ∧ s'.server.told id = s.server.told id
  sound : a'.Sound c.ended s'
  named : ∀ id e, (id, some e) ∈ c'.numbers → ∃ g, s'.guest? e = some g ∧ g.id = id
  ordered : Server.Ascending s'.server.connections
  entries : ∀ id e, s'.server.connection? id = some e → s.server.connection? id = some e ∨
    a'.stage.tracks e = true ∧ ∃ g, s'.guest? e = some g ∧ g.id = id ∧ g.reason = none
  notices : ∀ n ∈ s'.server.notices, n ∈ s.server.notices ∨ c'.Right n

namespace Advances

theorem getElem? (h : Advances c c' i a a') {j : Nat} {b : Newcomer} :
    c'.newcomers[j]? = some b ↔ (j = i ∧ b = a') ∨ (j ≠ i ∧ c.newcomers[j]? = some b) := by
  have hlt : i < c.newcomers.length := (List.getElem?_eq_some_iff.1 h.here).1
  rw [h.newcomers, List.getElem?_set]
  by_cases hj : i = j
  · subst hj
    simp [hlt, eq_comm]
  · simp [hj, Ne.symm hj]

theorem mem (h : Advances c c' i a a') {b : Newcomer} (hb : b ∈ c'.newcomers) :
    b = a' ∨ ∃ j, j ≠ i ∧ c.newcomers[j]? = some b := by
  obtain ⟨j, hj⟩ := List.mem_iff_getElem?.1 hb
  rcases h.getElem?.1 hj with ⟨-, rfl⟩ | ⟨hne, hold⟩
  · exact .inl rfl
  · exact .inr ⟨j, hne, hold⟩

theorem mem_self (h : Advances c c' i a a') : a' ∈ c'.newcomers :=
  List.mem_of_getElem? (h.getElem?.2 (.inl ⟨rfl, rfl⟩))

theorem mem_of_ne (h : Advances c c' i a a') {j : Nat} {b : Newcomer} (hj : j ≠ i)
    (hb : c.newcomers[j]? = some b) : b ∈ c'.newcomers :=
  List.mem_of_getElem? (h.getElem?.2 (.inr ⟨hj, hb⟩))

theorem tracked (h : Advances c c' i a a') {e : EndpointRef} (he : c.Tracks e) :
    c'.Tracks e ∧ a'.stage.endpoint? ≠ some e := by
  obtain ⟨b, hb, htracks⟩ := he
  obtain ⟨j, hj⟩ := List.mem_iff_getElem?.1 hb
  have hne : j ≠ i := by
    rintro rfl
    rw [h.here, Option.some.injEq] at hj
    subst hj
    rw [h.untracked] at htracks
    cases htracks
  have he := Admission.endpoint?_of_tracks htracks
  exact ⟨⟨b, h.mem_of_ne hne hj, htracks⟩, h.free j b e hne hj he⟩

theorem right (h : Advances c c' i a a') {n : Notice} (hn : c.Right n) : c'.Right n := by
  obtain ⟨e, hnumber, htracks, hbook⟩ := hn
  exact ⟨e, h.numbers hnumber, (h.tracked htracks).1, hbook⟩

theorem tidy (h : Advances c c' i a a') (htidy : c.Tidy)
    (hknown : ∀ e, a'.stage.endpoint? = some e → ∃ id, (id, some e) ∈ c'.numbers)
    (hdistinct : (c'.numbers.map Prod.fst).Nodup) : c'.Tidy where
  apart j k b b' e hj hk he he' := by
    rcases h.getElem?.1 hj with ⟨rfl, rfl⟩ | ⟨hnej, hj⟩
    · rcases h.getElem?.1 hk with ⟨rfl, -⟩ | ⟨hnek, hk⟩
      · rfl
      · exact absurd he (h.free k b' e hnek hk he')
    · rcases h.getElem?.1 hk with ⟨rfl, rfl⟩ | ⟨-, hk⟩
      · exact absurd he' (h.free j b e hnej hj he)
      · exact htidy.apart j k b b' e hj hk he he'
  known b hb e he := by
    rcases h.mem hb with rfl | ⟨j, -, hj⟩
    · exact hknown e he
    · obtain ⟨id, hid⟩ := htidy.known b (List.mem_of_getElem? hj) e he
      exact ⟨id, h.numbers hid⟩
  distinct := hdistinct

theorem agrees (h : Advances c c' i a a') (hagrees : c.Agrees s) (htidy : c.Tidy)
    (hrenews : Renews c c' a' s s') : c'.Agrees s' where
  sound b hb := by
    rw [h.ended]
    rcases h.mem hb with rfl | ⟨j, hj, hold⟩
    · exact hrenews.sound
    · have hmem := List.mem_of_getElem? hold
      refine (hagrees.sound b hmem).of_same (hrenews.berth b.run) fun e he ↦ ?_
      have hne := h.free j b e hj hold he
      refine ⟨hrenews.guests e hne, fun g hg ↦ ?_, fun g hg ↦ ?_⟩
      · exact (hrenews.book g.id e (hagrees.number htidy hmem he hg) hne).1
      · exact (hrenews.book g.id e (hagrees.number htidy hmem he hg) hne).2
  named := hrenews.named
  strange e he g hg := by
    have hself := he a' h.mem_self
    rw [hrenews.guests e hself] at hg
    refine hagrees.strange e (fun b hb hbe ↦ ?_) g hg
    obtain ⟨j, hj⟩ := List.mem_iff_getElem?.1 hb
    by_cases hji : j = i
    · subst hji
      rw [h.here, Option.some.injEq] at hj
      subst hj
      rcases h.own with hnone | hown
      · rw [hnone] at hbe
        cases hbe
      · exact hself (hown.symm.trans hbe)
    · exact he b (h.mem_of_ne hji hj) hbe
  ordered := hrenews.ordered
  entries id e hentry := by
    rcases hrenews.entries id e hentry with hold | ⟨htracks, hguest⟩
    · obtain ⟨htracks, g, hg, hrest⟩ := hagrees.entries id e hold
      obtain ⟨htracks', hne⟩ := h.tracked htracks
      exact ⟨htracks', g, (hrenews.guests e hne).trans hg, hrest⟩
    · exact ⟨⟨a', h.mem_self, htracks⟩, hguest⟩
  notices n hn := by
    rcases hrenews.notices n hn with hold | hright
    · exact h.right (hagrees.notices n hold)
    · exact hright

theorem current (h : Advances c c' i a a') (hcurrent : c.Current s)
    (hnew : ∀ e run, a'.stage = .tracked e run → ∀ g, s.guest? e = some g → g.reason = none →
      s.frame.server.isRunning = true ∧ run = c.ended) : c'.Current s := by
  intro b hb e run hstage g hg hreason
  rw [h.ended]
  rcases h.mem hb with rfl | ⟨j, -, hj⟩
  · exact hnew e run hstage g hg hreason
  · exact hcurrent b (List.mem_of_getElem? hj) e run hstage g hg hreason

end Advances

/-- Only the pools or the state of the server have changed. -/
theorem Agrees.reframe (h : c.Agrees s) (hnewcomers : c'.newcomers = c.newcomers)
    (hnumbers : c'.numbers = c.numbers) (hguests : ∀ e, s'.guest? e = s.guest? e)
    (hbook : s'.server.connections = s.server.connections)
    (hnotices : s'.server.notices = s.server.notices)
    (hberth : ∀ run handle, s.frame.Berth c.ended run handle →
      s'.frame.Berth c'.ended run handle) : c'.Agrees s' := by
  have hsame : ∀ e, Same e s s' := by
    intro e
    refine ⟨hguests e, fun g _ ↦ ?_, fun g _ ↦ ?_⟩
    · rw [Server.connection?, hbook, Server.connection?]
    · rw [Server.told, Server.events, hnotices]
      rfl
  have htracks : ∀ e, c'.Tracks e ↔ c.Tracks e := fun e ↦ by rw [Tracks, hnewcomers, Tracks]
  refine ⟨fun a ha ↦ ?_, fun id e hid ↦ ?_, fun e he g hg ↦ ?_, ?_, fun id e hentry ↦ ?_, ?_⟩
  · rw [hnewcomers] at ha
    exact (h.sound a ha).of_same (hberth a.run) fun e _ ↦ hsame e
  · rw [hguests]
    exact h.named id e (hnumbers ▸ hid)
  · rw [hguests] at hg
    exact h.strange e (hnewcomers ▸ he) g hg
  · rw [hbook]
    exact h.ordered
  · rw [Server.connection?, hbook] at hentry
    rw [htracks, hguests]
    exact h.entries id e hentry
  · intro n hn
    rw [hnotices] at hn
    obtain ⟨e, hnumber, htracked, hlookup⟩ := h.notices n hn
    exact ⟨e, hnumbers ▸ hnumber, (htracks e).2 htracked, hlookup⟩

end Advances

end Ledger

/-! ## A server in order -/

/-- Everything about the server is as it should be. -/
structure Lobby.Kept (l : Lobby) : Prop where
  panic : l.node.panic = none
  fit : l.node.frame.Fit l.toLedger
  counted : l.numbers.map Prod.fst = (List.range' 1 l.numbers.length).map UInt64.ofNat
  tidy : l.toLedger.Tidy
  agrees : l.toLedger.Agrees l.node
  current : l.toLedger.Current l.node

namespace Lobby

variable {l l' : Lobby}

theorem nodup_of_counted {numbers : List (UInt64 × Option EndpointRef)}
    (h : numbers.map Prod.fst = (List.range' 1 numbers.length).map UInt64.ofNat)
    (hfew : numbers.length < 2 ^ 64) : (numbers.map Prod.fst).Nodup := by
  rw [h]
  refine List.Nodup.map_on (fun i hi j hj hij ↦ ?_) List.nodup_range'
  have hi' : i < 2 ^ 64 := (List.mem_range'_1.1 hi).2.trans_le (by omega)
  have hj' : j < 2 ^ 64 := (List.mem_range'_1.1 hj).2.trans_le (by omega)
  have hmod := congrArg UInt64.toNat hij
  rwa [UInt64.toNat_ofNat_of_lt' hi', UInt64.toNat_ofNat_of_lt' hj'] at hmod

theorem Fresh.kept (h : l.Fresh) : l.Kept := by
  obtain ⟨c, s⟩ := l
  have hledger : c = {} := h.ledger
  subst hledger
  have hserver : s.server = { name := s.server.name, perQueue := s.server.perQueue } := h.server
  refine ⟨h.panic, ⟨h.fair, h.named, ?_, ?_, ?_, ?_⟩, rfl, ⟨?_, ?_, List.nodup_nil⟩, ?_, ?_⟩
  · show s.server.nextId = 1
    rw [hserver]
  · show s.server.isRunning = s.server.pool.isSome
    rw [hserver]
    rfl
  · intro p hp
    have hnone : s.server.pool = none := by rw [hserver]
    have hsome : s.server.pool = some p := hp
    rw [hnone] at hsome
    cases hsome
  · intro _
    show s.server.address.isSome = false
    rw [hserver]
    rfl
  · intro i j a b e hi
    cases hi
  · intro a ha
    cases ha
  · refine ⟨fun a ha ↦ (nomatch ha), fun id e hid ↦ (nomatch hid), fun e _ g hg ↦ ?_, ?_, ?_, ?_⟩
    · obtain ⟨x, hx, rfl⟩ := Option.map_eq_some_iff.1 hg
      exact List.flatMap_eq_nil_iff.2 (h.strikes x (List.mem_of_getElem? hx))
    · rw [hserver]
      exact List.Pairwise.nil
    · intro id e hentry
      rw [hserver] at hentry
      cases hentry
    · intro n hn
      rw [hserver] at hn
      cases hn
  · intro a ha
    cases ha

theorem Kept.act {act : Act} {s : Node} (h : l.Kept) (hfair : act.Fair)
    (hact : l.node.act? act = some s) : Kept { l with node := s } := by
  have hregistry : ∀ e, (l.node.engine e).registry.Fair := h.fit.fair
  have hframe := (Stable.frame l.node.frame).act? hfair hregistry h.panic rfl hact
  refine ⟨panic_act? h.panic hact, ?_, h.counted, h.tidy, ?_, ?_⟩
  · exact hframe ▸ h.fit
  · exact h.tidy.stable.act? hfair hregistry h.panic h.agrees hact
  · exact Ledger.stable_current.act? hfair hregistry h.panic h.current hact

/-! ## Starting -/

theorem Kept.isRunning_iff (h : l.Kept) :
    l.node.server.isRunning = true ↔ ∃ p, l.node.server.pool = some p := by
  have hrunning : l.node.server.isRunning = l.node.server.pool.isSome := h.fit.running
  rw [hrunning, Option.isSome_iff_exists]

theorem Kept.isRunning_eq_false_iff (h : l.Kept) :
    l.node.server.isRunning = false ↔ l.node.server.pool = none := by
  have hrunning : l.node.server.isRunning = l.node.server.pool.isSome := h.fit.running
  rw [hrunning, Option.isSome_eq_false_iff, Option.isNone_iff_eq_none]

theorem Kept.idle (h : l.Kept) (hpool : l.node.server.pool = none) (id : UInt64) :
    l.node.server.connection? id = none := by
  refine Option.eq_none_iff_forall_not_mem.2 fun e hentry ↦ ?_
  obtain ⟨⟨a, ha, htracks⟩, g, hg, -, hreason⟩ := h.agrees.entries id e hentry
  rw [Admission.tracks.eq_def] at htracks
  split at htracks
  · next d run hstage =>
    rw [beq_iff_eq] at htracks
    subst htracks
    have hrunning := (h.current a ha d run hstage g hg hreason).1
    have hsome : l.node.server.pool.isSome = true := h.fit.running.symm.trans hrunning
    rw [hpool] at hsome
    cases hsome
  · cases htracks

/-- A pool is made for a run that begins, or would have begun. -/
theorem Kept.open (h : l.Kept) (hpool : l.node.server.pool = none) (ceiling : Nat)
    (pool : Option Nat) (hnew : ∀ p, pool = some p → p = l.node.pools.length) :
    Kept { l with node := { l.node with
      pools := l.node.pools ++ [Pool.new l.node.server.name ceiling]
      server := { l.node.server with isRunning := pool.isSome, pool := pool } } } := by
  set s' : Node := { l.node with
    pools := l.node.pools ++ [Pool.new l.node.server.name ceiling]
    server := { l.node.server with isRunning := pool.isSome, pool := pool } }
  have hfaces : s'.faces = l.node.faces ++ [(l.node.server.name, [])] := List.map_append
  have hlength : l.node.faces.length = l.node.pools.length := List.length_map _
  refine ⟨h.panic, ⟨h.fit.fair, h.fit.named, h.fit.next, rfl, ?_, ?_⟩, h.counted, h.tidy, ?_, ?_⟩
  · intro p hp
    refine ⟨(l.node.server.name, []), ?_, h.fit.named, fun sign hsign ↦ nomatch hsign⟩
    show s'.faces[p]? = _
    rw [hnew p hp, hfaces, ← hlength]
    exact List.getElem?_concat_length
  · intro _
    exact h.fit.address hpool
  · refine h.agrees.reframe rfl rfl (fun _ ↦ rfl) rfl rfl fun run handle hberth ↦ ?_
    refine hberth.mono (fun p i sign hsign ↦ ?_) fun p hp ↦ ?_
    · obtain ⟨face, hface, hsign⟩ := Option.bind_eq_some_iff.1 hsign
      refine Option.bind_eq_some_iff.2 ⟨face, ?_, hsign⟩
      show s'.faces[p]? = some face
      rw [hfaces]
      exact (List.getElem?_append_left (List.getElem?_eq_some_iff.1 hface).1).trans hface
    · have hlt : p < l.node.pools.length := hlength ▸ hp
      constructor
      · intro hsome
        have hlast := hnew p hsome
        omega
      · intro hsome
        have hbefore : l.node.server.pool = some p := hsome
        rw [hpool] at hbefore
        cases hbefore
  · intro a ha e run hstage g hg hreason
    have hrunning : l.node.server.pool.isSome = true :=
      h.fit.running.symm.trans (h.current a ha e run hstage g hg hreason).1
    rw [hpool] at hrunning
    cases hrunning

theorem beginServer_of_running {s : Node} (h : s.server.isRunning = true) :
    s.beginServer = (s, .error .alreadyRunning) := if_pos h

theorem Kept.start (h : l.Kept) (bound : Bool) : (l.start bound).Kept := by
  rw [Lobby.start]
  cases hpool : l.node.server.pool with
  | some p =>
      rw [beginServer_of_running (h.isRunning_iff.2 ⟨p, hpool⟩)]
      exact h
  | none =>
      have hidle : ¬l.node.server.isRunning = true := by
        rw [h.isRunning_eq_false_iff.2 hpool]
        exact Bool.false_ne_true
      rw [beginServer, if_neg hidle]
      cases bound with
      | true => exact h.open hpool _ _ fun p hp ↦ (Option.some.inj hp).symm
      | false => exact h.open hpool _ none fun p hp ↦ nomatch hp

theorem Kept.announce (h : l.Kept) (address : SocketAddress) : (l.announce address).Kept := by
  refine ⟨h.panic, ⟨h.fit.fair, h.fit.named, h.fit.next, h.fit.running, h.fit.pool, ?_⟩,
    h.counted, ?_, ?_, ?_⟩
  · intro hpool
    show true = (l.belated || !l.node.server.isRunning)
    rw [h.isRunning_eq_false_iff.2 hpool]
    exact (Bool.or_true _).symm
  · exact ⟨h.tidy.apart, h.tidy.known, h.tidy.distinct⟩
  · refine h.agrees.reframe rfl rfl (fun _ ↦ rfl) rfl rfl fun run handle hberth ↦ ?_
    exact hberth.mono (fun _ _ _ ↦ id) fun _ _ ↦ Iff.rfl
  · exact h.current

/-! ## Stopping -/

section Stop

variable {s : Node} {c : Ledger} {e : EndpointRef} {reason : DisconnectReason}

/-- What a guest is once those on a list have been disconnected. -/
def dismiss (es : List EndpointRef) (reason : DisconnectReason) (e : EndpointRef) (g : Guest) :
    Guest := if e ∈ es ∧ g.reason = none then g.depart reason else g

theorem reason_dismiss {es : List EndpointRef} {g : Guest} (he : e ∈ es) :
    (dismiss es reason e g).reason ≠ none := by
  rw [dismiss]
  split
  · exact Option.some_ne_none reason
  · next h => exact fun hnone ↦ h ⟨he, hnone⟩

theorem guest?_disconnect (hagrees : c.Agrees s) (hpanic : s.panic = none) {a : Newcomer}
    (ha : a ∈ c.newcomers) (he : a.stage.endpoint? = some e) (reason : DisconnectReason)
    (d : EndpointRef) :
    (s.disconnect e reason).1.guest? d = (s.guest? d).map (dismiss [e] reason d) := by
  rcases s.disconnect_cases e reason hpanic with ⟨hsame, hbefore⟩ | ⟨g, hdeparts, -⟩ | ⟨g, hsticks⟩
  · rw [hsame]
    cases hg : s.guest? d with
    | none => rfl
    | some g =>
        refine congrArg some (if_neg ?_).symm
        rintro ⟨hd, hnone⟩
        rw [List.mem_singleton] at hd
        subst hd
        exact hbefore g hg hnone
  · by_cases hd : d = e
    · subst hd
      rw [hdeparts.before, hdeparts.behind]
      exact congrArg some (if_pos ⟨List.mem_singleton_self d, hdeparts.first⟩).symm
    · rw [hdeparts.others d hd]
      cases hg : s.guest? d with
      | none => rfl
      | some g => exact congrArg some (if_neg fun h ↦ hd (List.mem_singleton.1 h.1)).symm
  · exact absurd hsticks (hagrees.not_sticks ha he)

/-- Connections are disconnected one after the other without a panic. -/
theorem disconnectAll_spec (htidy : c.Tidy) (hagrees : c.Agrees s) (hpanic : s.panic = none)
    {es : List EndpointRef} (hes : ∀ e ∈ es, ∃ a ∈ c.newcomers, a.stage.endpoint? = some e)
    (reason : DisconnectReason) :
    (s.disconnectAll es reason).panic = none ∧
      (∀ d, (s.disconnectAll es reason).guest? d = (s.guest? d).map (dismiss es reason d)) ∧
      ∀ {Inv : Node → Prop}, Stable Inv → Inv s → Inv (s.disconnectAll es reason) := by
  induction es generalizing s with
  | nil =>
      refine ⟨hpanic, fun d ↦ ?_, fun _ hinv ↦ hinv⟩
      have hid : dismiss [] reason d = id := funext fun g ↦ if_neg fun h ↦ nomatch h.1
      rw [hid, Option.map_id]
      rfl
  | cons e rest ih =>
      obtain ⟨a, ha, he⟩ := hes e List.mem_cons_self
      have hnone := hagrees.panic_disconnect hpanic ha he reason
      have hguest := guest?_disconnect hagrees hpanic ha he reason
      -- What agrees is stable, so the rest can be disconnected like the first.
      obtain ⟨hpanic', hguests, hstable⟩ := ih (htidy.stable.disconnect hpanic hagrees e reason)
        hnone fun e he ↦ hes e (List.mem_cons_of_mem _ he)
      refine ⟨hpanic', fun d ↦ ?_, fun h hinv ↦ hstable h (h.disconnect hpanic hinv e reason)⟩
      refine (hguests d).trans ?_
      rw [hguest, Option.map_map]
      refine congrArg (Option.map · (s.guest? d)) (funext fun g ↦ ?_)
      by_cases hg : g.reason = none
      · by_cases hd : d = e
        · simp [dismiss, Guest.depart, hg, hd]
        · simp [dismiss, hg, hd]
      · simp [dismiss, hg]

theorem faces_modifyPool (s : Node) (p : Nat) {f : Pool Job → Pool Job}
    {look : String × List (String × Bool) → String × List (String × Bool)}
    (hf : ∀ pool, s.pools[p]? = some pool → (f pool).face = look pool.face) :
    (s.modifyPool p f).faces = s.faces.modify p look := by
  refine List.ext_getElem? fun k ↦ ?_
  simp only [Node.faces, modifyPool, List.getElem?_map, List.getElem?_modify]
  cases hpool : s.pools[k]? with
  | none => rfl
  | some pool =>
      by_cases hp : p = k
      · subst hp
        simp [hf pool hpool]
      · simp [hp]

theorem Kept.newcomer (h : l.Kept) {e : EndpointRef}
    (he : e ∈ l.node.server.connections.map Prod.snd) :
    ∃ a ∈ l.newcomers, a.stage.endpoint? = some e := by
  obtain ⟨⟨id, _⟩, hmem, rfl⟩ := List.mem_map.1 he
  exact (h.agrees.entries id _ (h.agrees.ordered.mem_iff.1 hmem)).1.newcomer

theorem Kept.agrees_closeServer (h : l.Kept) : l.Agrees l.node.closeServer :=
  h.agrees.reframe rfl rfl (fun _ ↦ rfl) rfl rfl fun _ _ hberth ↦
    hberth.mono (fun _ _ _ ↦ id) fun _ _ ↦ Iff.rfl

theorem Kept.disconnectAll_spec (h : l.Kept) (reason : DisconnectReason) :
    let s := l.node.closeServer.disconnectAll (l.node.server.connections.map Prod.snd) reason
    s.panic = none ∧
      (∀ d, s.guest? d =
        (l.node.guest? d).map (dismiss (l.node.server.connections.map Prod.snd) reason d)) ∧
      ∀ {Inv : Node → Prop}, Stable Inv → Inv l.node.closeServer → Inv s :=
  Lobby.disconnectAll_spec h.tidy h.agrees_closeServer h.panic (fun _ he ↦ h.newcomer he) reason

theorem Kept.lookup_disconnectAll (h : l.Kept) (reason : DisconnectReason) (id : UInt64) :
    (l.node.closeServer.disconnectAll (l.node.server.connections.map Prod.snd)
      reason).server.connection? id = none := by
  obtain ⟨-, hguests, hstable⟩ := h.disconnectAll_spec reason
  refine Option.eq_none_iff_forall_not_mem.2 fun e hentry ↦ ?_
  -- Who is still in the book has no reason, so he was in it before and was not spared.
  have hagrees := hstable h.tidy.stable h.agrees_closeServer
  obtain ⟨htracks, g, hg, -, hreason⟩ := hagrees.entries id e hentry
  rw [hguests] at hg
  obtain ⟨g₀, hg₀, hdismiss⟩ := Option.map_eq_some_iff.1 hg
  have hbefore : g₀.reason = none := by
    rw [dismiss] at hdismiss
    split at hdismiss
    · next hnone => exact hnone.2
    · rw [hdismiss]
      exact hreason
  obtain ⟨P, hlodges⟩ := h.agrees.lodges_of_tracks htracks
  have hfound : l.node.server.connection? g₀.id = some e := (hlodges.stays hg₀ hbefore).entry
  have hmem : e ∈ l.node.server.connections.map Prod.snd :=
    List.mem_map.2 ⟨(g₀.id, e), h.agrees.ordered.mem_iff.2 hfound, rfl⟩
  exact reason_dismiss hmem (hdismiss ▸ hreason)

/-- The slots of the run that ends are slots of an ended run. -/
theorem berth_dispose {f f' : Frame} {ended run p : Nat} {handle : Handle}
    (hpool : f.server.pool = some p) (hpool' : f'.server.pool = none)
    (hfaces : f'.faces = f.faces.modify p fun face ↦ (face.1, face.2.map fun sign ↦ (sign.1, true)))
    (hberth : f.Berth ended run handle) : f'.Berth (ended + 1) run handle := by
  obtain ⟨p', slot, name, rfl, hsign, hname, hrun, hle⟩ := hberth
  refine ⟨p', slot, name, rfl, ?_, hname, ?_, by omega⟩
  · obtain ⟨face, hface, hfound⟩ := Option.bind_eq_some_iff.1 hsign
    rw [decide_eq_true (by omega : run < ended + 1)]
    rw [Frame.sign?, hfaces, List.getElem?_modify, hface]
    by_cases hp : p = p'
    · simp [hp, hfound]
    · have hother : run ≠ ended := by
        intro hsame
        exact hp (Option.some.inj (hpool.symm.trans (hrun.2 hsame)))
      rw [decide_eq_true (by omega : run < ended)] at hfound
      simp [hp, hfound]
  · rw [hpool']
    constructor
    · intro hnone
      cases hnone
    · intro hsame
      omega

theorem Kept.finishServer_eq {p : Nat} (h : l.Kept) (hpool : l.node.server.pool = some p)
    (reason : DisconnectReason) :
    let s := l.node.closeServer.disconnectAll (l.node.server.connections.map Prod.snd) reason
    l.node.finishServer reason = ({ s.modifyPool p Pool.dispose with
      server := { s.server with pool := none, address := none } }, .ok ()) := by
  intro s
  have hempty : s.server.connections = [] :=
    Server.eq_nil_of_lookup (h.lookup_disconnectAll reason)
  have hframe : s.frame = l.node.closeServer.frame :=
    (h.disconnectAll_spec reason).2.2 (Stable.frame l.node.closeServer.frame) rfl
  have hpool' : s.server.pool = some p :=
    (congrArg (fun f : Frame ↦ f.server.pool) hframe).trans hpool
  rw [finishServer, if_pos (h.isRunning_iff.2 ⟨p, hpool⟩)]
  dsimp only
  have hs : l.node.closeServer.disconnectAll (l.node.closeServer.server.connections.map (·.2))
      reason = s := rfl
  rw [hs, hpool']
  show ({ s.modifyPool p Pool.dispose with
    server := { s.server with pool := none, address := none, connections := [] } }, _) = _
  rw [← hempty]

theorem finishServer_of_idle {s : Node} (h : s.server.isRunning = false) :
    s.finishServer reason = (s, .error .notRunning) := by
  rw [finishServer, h]
  exact if_neg Bool.false_ne_true

theorem Kept.stop (h : l.Kept) (reason : DisconnectReason) : (l.stop reason).Kept := by
  rw [Lobby.stop]
  cases hpool : l.node.server.pool with
  | none =>
      rw [finishServer_of_idle (h.isRunning_eq_false_iff.2 hpool)]
      exact h
  | some p =>
      obtain ⟨hpanic, hguests, hstable⟩ := h.disconnectAll_spec reason
      have hempty := h.lookup_disconnectAll reason
      rw [h.finishServer_eq hpool]
      generalize l.node.closeServer.disconnectAll (l.node.server.connections.map Prod.snd)
        reason = s at hpanic hguests hstable hempty
      have hframe : s.frame = l.node.closeServer.frame := hstable (Stable.frame _) rfl
      have hcover : s.server.cover = l.node.closeServer.server.cover := congrArg Frame.server hframe
      have hagrees := hstable h.tidy.stable h.agrees_closeServer
      have hfaces : (s.modifyPool p Pool.dispose).faces = s.faces.modify p fun face ↦
          (face.1, face.2.map fun sign ↦ (sign.1, true)) :=
        faces_modifyPool s p fun pool _ ↦ pool.face_dispose
      refine ⟨hpanic, ⟨?_, ?_, ?_, ?_, ?_, fun _ ↦ rfl⟩, h.counted, ?_, ?_, ?_⟩
      · show ∀ e, (s.frame.engine e).registry.Fair
        rw [hframe]
        exact h.fit.fair
      · show Queue.nameRefusal? s.server.cover.name = none
        rw [hcover]
        exact h.fit.named
      · show s.server.cover.nextId = _
        rw [hcover]
        exact h.fit.next
      · show s.server.cover.isRunning = false
        rw [hcover]
        rfl
      · intro p' hp'
        cases hp'
      · exact ⟨h.tidy.apart, h.tidy.known, h.tidy.distinct⟩
      · refine hagrees.reframe rfl rfl (fun _ ↦ rfl) rfl rfl fun run handle hberth ↦ ?_
        have hbefore : s.frame.server.pool = some p := by
          rw [hframe]
          exact hpool
        exact berth_dispose hbefore rfl hfaces hberth
      · intro a ha e run hstage g hg hreason
        -- The book is empty, so no tracked connection is left without a reason.
        have htracks : a.stage.tracks e = true := by
          rw [hstage]
          exact beq_self_eq_true e
        obtain ⟨P, hlodges⟩ := hagrees.lodges_of_tracks ⟨a, ha, htracks⟩
        have hfound : s.server.connection? g.id = some e := (hlodges.stays hg hreason).entry
        rw [hempty] at hfound
        cases hfound

end Stop

/-! ## Coming in -/

theorem acquireSlot_eq_some {s s' : Node} {h : Handle} (hacquire : s.acquireSlot = some (s', h)) :
    ∃ p pool, s.server.pool = some p ∧ s.pools[p]? = some pool ∧
      s' = s.modifyPool p (fun _ ↦ pool.acquire.1) ∧ h = .pooled p pool.acquire.2 := by
  rw [acquireSlot] at hacquire
  cases hp : s.server.pool with
  | none =>
      rw [hp] at hacquire
      cases hacquire
  | some p =>
      rw [hp] at hacquire
      dsimp only [Node.acquire] at hacquire
      cases hpool : s.pools[p]? with
      | none =>
          rw [hpool] at hacquire
          cases hacquire
      | some pool =>
          rw [hpool] at hacquire
          cases hacquire
          exact ⟨p, pool, rfl, hpool, rfl, rfl⟩

theorem Kept.come {a : Newcomer} (h : l.Kept) (hnone : a.stage.endpoint? = none)
    (hsound : a.Sound l.ended l.node) : Kept { l with newcomers := l.newcomers ++ [a] } := by
  have hmem : ∀ b ∈ l.newcomers ++ [a], b ∈ l.newcomers ∨ b = a := by
    intro b hb
    rwa [List.mem_append, List.mem_singleton] at hb
  have hold : ∀ b ∈ l.newcomers ++ [a], ∀ e, b.stage.endpoint? = some e → b ∈ l.newcomers := by
    intro b hb e he
    rcases hmem b hb with hb | rfl
    · exact hb
    · rw [hnone] at he
      cases he
  have hplace : ∀ {k : Nat} {b : Newcomer} {e}, (l.newcomers ++ [a])[k]? = some b →
      b.stage.endpoint? = some e → l.newcomers[k]? = some b := by
    intro k b e hk hb
    rw [List.getElem?_append] at hk
    split at hk
    · exact hk
    · rw [List.mem_singleton.1 (List.mem_of_getElem? hk), hnone] at hb
      cases hb
  have htracks : ∀ e, l.Tracks e →
      Ledger.Tracks { l.toLedger with newcomers := l.newcomers ++ [a] } e := by
    rintro e ⟨b, hb, he⟩
    exact ⟨b, List.mem_append_left _ hb, he⟩
  have htidy : Ledger.Tidy { l.toLedger with newcomers := l.newcomers ++ [a] } :=
    { apart := fun i j b b' e hi hj he he' ↦
        h.tidy.apart i j b b' e (hplace hi he) (hplace hj he') he he'
      known := fun b hb e he ↦ h.tidy.known b (hold b hb e he) e he
      distinct := h.tidy.distinct }
  have hagrees : Ledger.Agrees { l.toLedger with newcomers := l.newcomers ++ [a] } l.node :=
    { sound := fun b hb ↦ by
        rcases hmem b hb with hb | rfl
        · exact h.agrees.sound b hb
        · exact hsound
      named := h.agrees.named
      strange := fun e he g hg ↦
        h.agrees.strange e (fun b hb ↦ he b (List.mem_append_left _ hb)) g hg
      ordered := h.agrees.ordered
      entries := fun id e hentry ↦ by
        obtain ⟨htrack, hguest⟩ := h.agrees.entries id e hentry
        exact ⟨htracks e htrack, hguest⟩
      notices := fun n hn ↦ by
        obtain ⟨e, hnumber, htrack, hbook⟩ := h.agrees.notices n hn
        exact ⟨e, hnumber, htracks e htrack, hbook⟩ }
  refine ⟨h.panic, ?_, h.counted, htidy, hagrees, fun b hb e run hstage ↦ ?_⟩
  · exact ⟨h.fit.fair, h.fit.named, h.fit.next, h.fit.running, h.fit.pool, h.fit.address⟩
  · refine h.current b (hold b hb e ?_) e run hstage
    rw [hstage]
    rfl

theorem Kept.acquire (h : l.Kept) {s' : Node} {handle : Handle}
    (hacquire : l.node.acquireSlot = some (s', handle)) :
    Kept { l with node := s' } ∧ s'.frame.Berth l.ended l.ended handle := by
  obtain ⟨p, pool, hp, hpool, rfl, rfl⟩ := acquireSlot_eq_some hacquire
  have hface : l.node.faces[p]? = some pool.face := by
    rw [Node.faces, List.getElem?_map, hpool]
    rfl
  obtain ⟨face, hface', hname, hsigns⟩ := h.fit.pool p hp
  have hsame : face = pool.face := Option.some.inj (hface'.symm.trans hface)
  subst hsame
  have hfaces : (l.node.modifyPool p fun _ ↦ pool.acquire.1).faces =
      l.node.faces.modify p fun _ ↦ pool.acquire.1.face :=
    faces_modifyPool l.node p fun _ _ ↦ rfl
  -- The pool keeps the queues that it had, and the slot is on one that is open.
  have hgrow : (∀ (i : Nat) sign, pool.face.2[i]? = some sign →
        pool.acquire.1.face.2[i]? = some sign) ∧
      pool.acquire.1.face.1 = pool.name ∧
      (∀ sign ∈ pool.acquire.1.face.2, Queue.nameRefusal? sign.1 = none ∧ sign.2 = false) ∧
      ∃ sign, pool.acquire.1.face.2[pool.acquire.2.queue]? = some sign := by
    rcases pool.face_acquire with ⟨hkept, hsign⟩ | ⟨hgrown, hqueue⟩
    · rw [hkept]
      exact ⟨fun _ _ ↦ id, rfl, hsigns, hsign⟩
    · rw [hgrown, hqueue]
      refine ⟨fun i sign hsign ↦ ?_, rfl, fun sign hsign ↦ ?_, _, List.getElem?_concat_length⟩
      · exact (List.getElem?_append_left (List.getElem?_eq_some_iff.1 hsign).1).trans hsign
      · rcases List.mem_append.1 hsign with hold | hnew
        · exact hsigns sign hold
        · rw [List.mem_singleton.1 hnew]
          exact ⟨Pool.nameRefusal?_nextName hname, rfl⟩
  obtain ⟨hkeep, hpoolname, hopen, sign, hsign⟩ := hgrow
  have hmono : ∀ run handle, l.node.frame.Berth l.ended run handle →
      (l.node.modifyPool p fun _ ↦ pool.acquire.1).frame.Berth l.ended run handle := by
    intro run handle hberth
    refine hberth.mono (fun k i sign hsign ↦ ?_) fun _ _ ↦ Iff.rfl
    obtain ⟨face, hfound, hsign⟩ := Option.bind_eq_some_iff.1 hsign
    show ((l.node.modifyPool p fun _ ↦ pool.acquire.1).faces[k]?.bind _) = _
    rw [hfaces, List.getElem?_modify]
    by_cases hk : p = k
    · subst hk
      have hsame : face = pool.face := Option.some.inj (hfound.symm.trans hface)
      subst hsame
      simp [hface, hkeep i _ hsign]
    · have hfound' : l.node.faces[k]? = some face := hfound
      simp [hfound', hk, hsign]
  refine ⟨⟨h.panic, ⟨h.fit.fair, h.fit.named, h.fit.next, h.fit.running, ?_, h.fit.address⟩,
    h.counted, h.tidy,
    h.agrees.reframe rfl rfl (fun _ ↦ rfl) rfl rfl hmono, h.current⟩, ?_⟩
  · intro p' hp'
    have hsame : p' = p := Option.some.inj (hp'.symm.trans hp)
    subst hsame
    refine ⟨pool.acquire.1.face, ?_, hpoolname ▸ hname, hopen⟩
    show (l.node.modifyPool p' fun _ ↦ pool.acquire.1).faces[p']? = _
    rw [hfaces, List.getElem?_modify, hface]
    simp
  · obtain ⟨hname', hdisposed⟩ := hopen sign (List.mem_of_getElem? hsign)
    refine ⟨p, pool.acquire.2, sign.1, rfl, ?_, hname', ⟨fun _ ↦ rfl, fun _ ↦ hp⟩, le_rfl⟩
    show ((l.node.modifyPool p fun _ ↦ pool.acquire.1).faces[p]?.bind _) = _
    rw [hfaces, List.getElem?_modify, hface, decide_eq_false (Nat.lt_irrefl l.ended), ← hdisposed]
    simp [hsign]

theorem Kept.seat (h : l.Kept) : l.seat.Kept := by
  rw [Lobby.seat]
  cases hacquire : l.node.acquireSlot with
  | none => exact h
  | some pair =>
      obtain ⟨hkept, hberth⟩ := h.acquire hacquire
      exact hkept.come rfl hberth

end Lobby

end MessageEngine
