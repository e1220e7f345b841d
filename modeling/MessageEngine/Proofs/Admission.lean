import MessageEngine.Proofs.ServerCalls

/-!
# The way of a connection into the book

A connection that came in gets its number and its endpoint, is given its
slot, comes to stand, and is tracked.  Every step leaves the server in
order, and so does a whole run of a server.
-/

namespace MessageEngine

open Node

/-- The server enters a connection and registers the hook that will strike it off. -/
def Node.enlist (s : Node) (e : EndpointRef) (id : UInt64) : Node :=
  { s with server := s.server.enter id e }.onDisconnect e (.untrack id .done)

namespace Lobby

variable {l l' : Lobby}

/-! ## Numbers and endpoints -/

section Number

variable {i run : Nat} {handle : Handle} {type : EndpointType} {remote : Option SocketAddress}

theorem Kept.counted_snoc (h : l.Kept) (owner : Option EndpointRef) :
    (l.numbers ++ [(l.node.server.nextId, owner)]).map Prod.fst =
      (List.range' 1 (l.numbers ++ [(l.node.server.nextId, owner)]).length).map UInt64.ofNat := by
  have hnext : l.node.server.nextId = UInt64.ofNat (l.numbers.length + 1) := h.fit.next
  rw [List.length_append, List.length_singleton, List.range'_concat, List.map_append,
    List.map_append, h.counted, hnext, Nat.one_mul, Nat.add_comm 1]
  rfl

theorem Kept.next_add_one (h : l.Kept) (owner : Option EndpointRef) :
    l.node.server.nextId + 1 =
      UInt64.ofNat ((l.numbers ++ [(l.node.server.nextId, owner)]).length + 1) := by
  have hnext : l.node.server.nextId = UInt64.ofNat (l.numbers.length + 1) := h.fit.next
  rw [List.length_append, List.length_singleton, UInt64.ofNat_add, ← hnext]
  rfl

theorem Kept.unheard (h : l.Kept) {id : UInt64} (hid : id ∉ l.numbers.map Prod.fst) :
    l.node.server.connection? id = none ∧ l.node.server.told id = [] := by
  constructor
  · refine Option.eq_none_iff_forall_not_mem.2 fun e hentry ↦ ?_
    obtain ⟨htracks, g, hg, rfl, -⟩ := h.agrees.entries id e hentry
    obtain ⟨a, ha, he⟩ := htracks.newcomer
    exact hid (List.mem_map_of_mem (h.agrees.number h.tidy ha he hg))
  · refine List.filter_eq_nil_iff.2 fun event hevent ↦ ?_
    obtain ⟨n, hn, rfl⟩ := List.mem_map.1 hevent
    obtain ⟨e, hnumber, -⟩ := h.agrees.notices n hn
    rw [beq_iff_eq]
    rintro rfl
    exact hid (List.mem_map_of_mem hnumber)

theorem guest?_newEndpoint (s : Node) (x : Endpoint) (d : EndpointRef) :
    (s.newEndpoint x).1.guest? d = if d = s.endpoints.length then some x.guest else s.guest? d := by
  rw [guest?, guest?, endpoint?, endpoint?, newEndpoint, List.getElem?_append]
  by_cases hd : d = s.endpoints.length
  · simp [hd]
  · rw [if_neg hd]
    split
    · rfl
    · next hge =>
      have hlt : s.endpoints.length < d :=
        Nat.lt_of_le_of_ne (Nat.le_of_not_lt hge) (Ne.symm hd)
      have hgt : [x].length ≤ d - s.endpoints.length := Nat.sub_pos_of_lt hlt
      rw [List.getElem?_eq_none hgt, List.getElem?_eq_none (Nat.le_of_not_lt hge)]

/-- A place that was seated comes to a stage without an endpoint, or with a new one. -/
theorem Kept.advances_seated (h : l.Kept) (hi : l.newcomers[i]? = some ⟨run, .seated handle⟩)
    (stage : Admission) (hfree : ∀ e, stage.endpoint? = some e → l.node.guest? e = none)
    (id : UInt64) (owner : Option EndpointRef) :
    Ledger.Advances l.toLedger (l.handOut i ⟨run, stage⟩ id owner) i ⟨run, .seated handle⟩
      ⟨run, stage⟩ where
  here := hi
  newcomers := rfl
  ended := rfl
  numbers := List.subset_append_left _ _
  untracked _ := rfl
  own := .inl rfl
  free j b e _ hb he hstage := by
    obtain ⟨g, hg⟩ := h.agrees.guest? (List.mem_of_getElem? hb) he
    cases (hfree e hstage).symm.trans hg

theorem Kept.fit_next (h : l.Kept) (a : Newcomer) (owner : Option EndpointRef) :
    l.node.nextConnectionId.1.frame.Fit (l.handOut i a l.node.server.nextId owner) :=
  ⟨h.fit.fair, h.fit.named, h.next_add_one owner, h.fit.running, h.fit.pool, h.fit.address⟩

theorem berth_next {s : Node} {ended : Nat} (hberth : s.frame.Berth ended run handle) :
    s.nextConnectionId.1.frame.Berth ended run handle :=
  hberth.mono (fun _ _ _ ↦ id) fun _ _ ↦ Iff.rfl

theorem Kept.lose (h : l.Kept) (hi : l.newcomers[i]? = some ⟨run, .seated handle⟩)
    (hfew : l.numbers.length + 1 < 2 ^ 64) :
    Kept ⟨l.handOut i ⟨run, .lost⟩ l.node.server.nextId none,
      l.node.nextConnectionId.1.drop handle⟩ := by
  have hdrop := Still.drop l.node.nextConnectionId.1 handle
  have hpanic : (l.node.nextConnectionId.1.drop handle).panic = none := by
    rcases l.node.nextConnectionId.1.drop_cases handle with hsame | ⟨hrelease, -⟩
    · exact (congrArg Node.panic hsame).trans h.panic
    · exact (congrArg Node.panic hrelease).trans ((panic_release _ handle).trans h.panic)
  generalize l.node.nextConnectionId.1.drop handle = s' at hdrop hpanic ⊢
  have hcounted := h.counted_snoc none
  have hdistinct := nodup_of_counted hcounted (by rwa [List.length_append])
  have hadv := h.advances_seated hi .lost (fun e he ↦ nomatch he) l.node.server.nextId none
  have hrenews : Ledger.Renews l.toLedger (l.handOut i ⟨run, .lost⟩ l.node.server.nextId none)
      ⟨run, .lost⟩ l.node s' :=
    { berth := fun run handle hberth ↦ by
        rw [hdrop.frame]
        exact berth_next hberth
      guests := fun e _ ↦ hdrop.guests e
      book := fun id e _ _ ↦ by
        rw [hdrop.server]
        exact ⟨rfl, rfl⟩
      sound := trivial
      named := fun id e hid ↦ by
        rcases List.mem_append.1 hid with hold | hnew
        · rw [hdrop.guests]
          exact h.agrees.named id e hold
        · cases List.mem_singleton.1 hnew
      ordered := by
        rw [hdrop.server]
        exact h.agrees.ordered
      entries := fun id e hentry ↦ .inl (by rwa [hdrop.server] at hentry)
      notices := fun n hn ↦ .inl (by rwa [hdrop.server] at hn) }
  have hcurrent : l.Current s' := by
    intro a ha e run hstage g hg hreason
    rw [hdrop.guests] at hg
    rw [hdrop.frame]
    exact h.current a ha e run hstage g hg hreason
  exact
    { panic := hpanic
      fit := by
        show s'.frame.Fit _
        rw [hdrop.frame]
        exact h.fit_next _ none
      counted := hcounted
      tidy := hadv.tidy h.tidy (fun e he ↦ nomatch he) hdistinct
      agrees := hadv.agrees h.agrees h.tidy hrenews
      current := hadv.current hcurrent fun e run hstage ↦ nomatch hstage }

theorem Kept.make (h : l.Kept) (hi : l.newcomers[i]? = some ⟨run, .seated handle⟩)
    (hfew : l.numbers.length + 1 < 2 ^ 64)
    (hpanic : (l.node.nextConnectionId.1.newEndpoint
      { type := type, id := l.node.server.nextId, remote := remote }).1.panic = none) :
    Kept ⟨l.handOut i ⟨run, .numbered l.node.endpoints.length handle⟩ l.node.server.nextId
      (some l.node.endpoints.length), (l.node.nextConnectionId.1.newEndpoint
        { type := type, id := l.node.server.nextId, remote := remote }).1⟩ := by
  set x : Endpoint := { type := type, id := l.node.server.nextId, remote := remote }
  set s' : Node := (l.node.nextConnectionId.1.newEndpoint x).1
  have hguest : ∀ d, s'.guest? d =
      if d = l.node.endpoints.length then some x.guest else l.node.guest? d :=
    guest?_newEndpoint l.node.nextConnectionId.1 x
  have hself : s'.guest? l.node.endpoints.length = some x.guest := (hguest _).trans (if_pos rfl)
  have hnew : l.node.guest? l.node.endpoints.length = none := by
    rw [guest?, endpoint?, List.getElem?_eq_none (Nat.le_refl _)]
    rfl
  have hother : ∀ {d g}, l.node.guest? d = some g → d ≠ l.node.endpoints.length := by
    rintro d g hg rfl
    cases hnew.symm.trans hg
  have hcounted := h.counted_snoc (some l.node.endpoints.length)
  have hdistinct := nodup_of_counted hcounted (by rwa [List.length_append])
  have hfresh : l.node.server.nextId ∉ l.numbers.map Prod.fst := by
    intro hold
    rw [List.map_append, List.nodup_append] at hdistinct
    exact hdistinct.2.2 _ hold _ (List.mem_singleton_self _) rfl
  -- The number is new, so neither the book nor a notice can have it.
  have hunheard := h.unheard hfresh
  have hstays : Stays (· = none) false l.node.endpoints.length x.guest s' :=
    ⟨hself, rfl, rfl, rfl, rfl, rfl, hunheard.1, hunheard.2⟩
  have hberth : l.node.frame.Berth l.ended run handle := h.agrees.sound _ (List.mem_of_getElem? hi)
  have hadv := h.advances_seated hi (.numbered l.node.endpoints.length handle)
    (fun e he ↦ Option.some.inj he ▸ hnew) l.node.server.nextId (some l.node.endpoints.length)
  have hrenews : Ledger.Renews l.toLedger
      (l.handOut i ⟨run, .numbered l.node.endpoints.length handle⟩ l.node.server.nextId
        (some l.node.endpoints.length))
      ⟨run, .numbered l.node.endpoints.length handle⟩ l.node s' :=
    { berth := fun _ _ ↦ berth_next
      guests := fun e he ↦ by
        have hne : e ≠ l.node.endpoints.length := fun heq ↦ he (congrArg some heq.symm)
        exact (hguest e).trans (if_neg hne)
      book := fun _ _ _ _ ↦ ⟨rfl, rfl⟩
      sound := ⟨berth_next hberth, .inl ⟨_, hstays⟩⟩
      named := fun id e hid ↦ by
        rcases List.mem_append.1 hid with hold | hlast
        · obtain ⟨g, hg, hgid⟩ := h.agrees.named id e hold
          exact ⟨g, (hguest e).trans ((if_neg (hother hg)).trans hg), hgid⟩
        · cases List.mem_singleton.1 hlast
          exact ⟨x.guest, hself, rfl⟩
      ordered := h.agrees.ordered
      entries := fun _ _ ↦ .inl
      notices := fun _ ↦ .inl }
  have hcurrent : l.Current s' := by
    intro a ha e run hstage g hg hreason
    obtain ⟨g', hg'⟩ := h.agrees.guest? ha (by rw [hstage]; rfl)
    rw [hguest, if_neg (hother hg')] at hg
    exact h.current a ha e run hstage g hg hreason
  exact
    { panic := hpanic
      fit := h.fit_next _ _
      counted := hcounted
      tidy := by
        refine hadv.tidy h.tidy (fun e he ↦ ?_) hdistinct
        cases he
        exact ⟨_, List.mem_append_right _ (List.mem_singleton_self _)⟩
      agrees := hadv.agrees h.agrees h.tidy hrenews
      current := hadv.current hcurrent fun e run hstage ↦ Admission.noConfusion hstage }

theorem length_numbers_number :
    (l.number i run handle type remote).numbers.length = l.numbers.length + 1 := by
  rw [Lobby.number]
  dsimp only
  split
  · exact List.length_append
  · exact List.length_append

theorem Kept.number (h : l.Kept) (hi : l.newcomers[i]? = some ⟨run, .seated handle⟩)
    (hfew : l.numbers.length + 1 < 2 ^ 64) : (l.number i run handle type remote).Kept := by
  rw [Lobby.number]
  dsimp only
  split
  · exact h.lose hi hfew
  · next hpanic => exact h.make hi hfew hpanic

end Number

/-! ## From the endpoint to the book -/

section Move

variable {i : Nat} {a a' : Newcomer} {e d : EndpointRef} {s' : Node}

theorem Kept.advances_move (h : l.Kept) (hi : l.newcomers[i]? = some a) (a' : Newcomer)
    (he : a.stage.endpoint? = some e) (he' : a'.stage.endpoint? = some e)
    (huntracked : ∀ e, a.stage.tracks e = false) :
    Ledger.Advances l.toLedger (l.move i a') i a a' where
  here := hi
  newcomers := rfl
  ended := rfl
  numbers := List.Subset.refl _
  untracked := huntracked
  own := .inr (he.trans he'.symm)
  free j b d hj hb hd hd' := by
    rw [he', Option.some.injEq] at hd'
    exact hj (h.tidy.apart j i b a e hb hi (hd' ▸ hd) he)

theorem Kept.tidy_move (h : l.Kept) (hi : l.newcomers[i]? = some a) (a' : Newcomer)
    (he : a.stage.endpoint? = some e) (he' : a'.stage.endpoint? = some e)
    (huntracked : ∀ e, a.stage.tracks e = false) : (l.move i a').Tidy := by
  refine (h.advances_move hi a' he he' huntracked).tidy h.tidy (fun d hd ↦ ?_) h.tidy.distinct
  rw [he', Option.some.injEq] at hd
  exact hd ▸ h.tidy.known a (List.mem_of_getElem? hi) e he

/-- A step in which the server has no part. -/
theorem Kept.settle (h : l.Kept) (hi : l.newcomers[i]? = some a)
    (he : a.stage.endpoint? = some e) (he' : a'.stage.endpoint? = some e)
    (huntracked : ∀ e, a.stage.tracks e = false) (huntracked' : ∀ e, a'.stage.tracks e = false)
    (hpanic : s'.panic = none) (hframe : s'.frame = l.node.frame)
    (hserver : s'.server = l.node.server)
    (hothers : ∀ d, d ≠ e → s'.guest? d = l.node.guest? d)
    (hself : ∀ g, l.node.guest? e = some g → ∃ g', s'.guest? e = some g' ∧ g'.id = g.id)
    (hsound : a'.Sound l.ended s') : Kept ⟨l.move i a', s'⟩ := by
  have hadv := h.advances_move hi a' he he' huntracked
  have hne : ∀ {d}, a'.stage.endpoint? ≠ some d → d ≠ e := by
    rintro d hd rfl
    exact hd he'
  have hrenews : Ledger.Renews l.toLedger (l.move i a') a' l.node s' :=
    { berth := fun run handle hberth ↦ by rwa [hframe]
      guests := fun d hd ↦ hothers d (hne hd)
      book := fun id d _ _ ↦ by
        rw [hserver]
        exact ⟨rfl, rfl⟩
      sound := hsound
      named := fun id d hid ↦ by
        obtain ⟨g, hg, rfl⟩ := h.agrees.named id d hid
        by_cases hd : d = e
        · subst hd
          exact hself g hg
        · exact ⟨g, (hothers d hd).trans hg, rfl⟩
      ordered := by
        rw [hserver]
        exact h.agrees.ordered
      entries := fun id d hentry ↦ .inl (by rwa [hserver] at hentry)
      notices := fun n hn ↦ .inl (by rwa [hserver] at hn) }
  have hcurrent : l.Current s' := by
    intro b hb d run hstage g hg hreason
    rw [hframe]
    by_cases hd : d = e
    · -- Only one connection has this endpoint, and that is not tracked.
      subst hd
      obtain ⟨j, hj⟩ := List.mem_iff_getElem?.1 hb
      have hij := h.tidy.apart j i b a d hj hi (by rw [hstage]; rfl) he
      subst hij
      rw [hi, Option.some.injEq] at hj
      subst hj
      have hnot := huntracked d
      rw [hstage, Admission.tracks, beq_self_eq_true] at hnot
      cases hnot
    · exact h.current b hb d run hstage g ((hothers d hd).symm.trans hg) hreason
  exact
    { panic := hpanic
      fit := by
        show s'.frame.Fit _
        rw [hframe]
        exact ⟨h.fit.fair, h.fit.named, h.fit.next, h.fit.running, h.fit.pool, h.fit.address⟩
      counted := h.counted
      tidy := h.tidy_move hi a' he he' huntracked
      agrees := hadv.agrees h.agrees h.tidy hrenews
      current := by
        refine hadv.current hcurrent fun d run hstage ↦ ?_
        have hnot := huntracked' d
        rw [hstage, Admission.tracks, beq_self_eq_true] at hnot
        cases hnot }

/-- A step in which nothing happens that matters to the server. -/
theorem Kept.settle_still (h : l.Kept) (hi : l.newcomers[i]? = some a)
    (he : a.stage.endpoint? = some e) (he' : a'.stage.endpoint? = some e)
    (huntracked : ∀ e, a.stage.tracks e = false) (huntracked' : ∀ e, a'.stage.tracks e = false)
    (hpanic : s'.panic = none) (hstill : Still l.node s')
    (hsound : a.Sound l.ended s' → a'.Sound l.ended s') : Kept ⟨l.move i a', s'⟩ := by
  refine h.settle hi he he' huntracked huntracked' hpanic hstill.frame hstill.server
    (fun d _ ↦ hstill.guests d) (fun g hg ↦ ⟨g, (hstill.guests e).trans hg, rfl⟩) ?_
  exact hsound ((h.agrees.still hstill).sound a (List.mem_of_getElem? hi))

theorem attach_spec (s : Node) (e : EndpointRef) (handle : Handle) :
    (s.attach e handle).frame = s.frame ∧ (s.attach e handle).server = s.server ∧
      ∀ d, (s.attach e handle).guest? d = (s.guest? d).map fun g ↦
        if d = e then { g with handle := some handle } else g := by
  rw [Node.attach]
  cases hx : s.endpoint? e with
  | none =>
      refine ⟨rfl, rfl, fun d ↦ ?_⟩
      by_cases hd : d = e
      · subst hd
        rw [guest?, hx]
        rfl
      · simp [hd]
  | some x =>
      have hset : ∀ d,
          (s.setEndpoint e { x with handle := some handle, outbox := .fresh }).guest? d =
            (s.guest? d).map fun g ↦ if d = e then { g with handle := some handle } else g := by
        intro d
        by_cases hd : d = e
        · subst hd
          rw [guest?_setEndpoint_self hx, guest?_of_endpoint? hx, Option.map_some, if_pos rfl]
          rfl
        · rw [guest?_setEndpoint_of_ne hd]
          simp [hd]
      dsimp only
      split
      · next old _ =>
        have hdrop := Still.drop
          (s.setEndpoint e { x with handle := some handle, outbox := .fresh }) old
        exact ⟨hdrop.frame, hdrop.server, fun d ↦ (hdrop.guests d).trans (hset d)⟩
      · exact ⟨rfl, rfl, hset⟩

theorem Kept.attach {run : Nat} {handle : Handle} (h : l.Kept)
    (hi : l.newcomers[i]? = some ⟨run, .numbered e handle⟩) :
    Kept ⟨l.move i ⟨run, .attached e⟩, l.node.attach e handle⟩ := by
  obtain ⟨hframe, hserver, hguest⟩ := attach_spec l.node e handle
  have hself : ∀ g, l.node.guest? e = some g →
      (l.node.attach e handle).guest? e = some { g with handle := some handle } := by
    intro g hg
    rw [hguest, hg, Option.map_some, if_pos rfl]
  have hact : l.node.act? (.attach e handle) = some (l.node.attach e handle) := rfl
  have hpanic := panic_act? h.panic hact
  obtain ⟨hberth, hlodges⟩ := h.agrees.sound _ (List.mem_of_getElem? hi)
  refine h.settle hi rfl rfl (fun _ ↦ rfl) (fun _ ↦ rfl) hpanic hframe hserver (fun d hd ↦ ?_)
    (fun g hg ↦ ⟨_, hself g hg, rfl⟩) ?_
  · rw [hguest]
    simp [hd]
  · rcases hlodges with ⟨g, hstays⟩ | ⟨g, r, hleft⟩
    · refine .inl ⟨_, hself g hstays.guest, hstays.reason, hstays.ended, hstays.halt, ?_,
        hstays.strikes, ?_, ?_⟩
      · rw [hframe]
        exact ⟨handle, rfl, hberth⟩
      · rw [hserver]
        exact hstays.entry
      · rw [hserver]
        exact hstays.told
    · refine .inr ⟨_, r, hself g hleft.guest, hleft.reason, hleft.ended, hleft.halt, hleft.strikes,
        ?_, ?_⟩
      · rw [hserver]
        exact hleft.entry
      · rw [hserver]
        exact hleft.told

theorem Kept.markConnected {run : Nat} (h : l.Kept)
    (hi : l.newcomers[i]? = some ⟨run, .attached e⟩) :
    Kept ⟨l.move i ⟨run, .standing e⟩, (l.node.markConnected e).1⟩ := by
  have hact : l.node.act? (.markConnected e) = some (l.node.markConnected e).1 := rfl
  exact h.settle_still hi rfl rfl (fun _ ↦ rfl) (fun _ ↦ rfl) (panic_act? h.panic hact)
    (.markConnected l.node e) id

theorem Kept.still_setState {run : Nat} (h : l.Kept)
    (hi : l.newcomers[i]? = some ⟨run, .attached e⟩) (hreason : l.node.reason? e = none) :
    Still l.node (l.node.setState e .connecting) := by
  refine .modifyEndpoint fun x hx ↦ ?_
  have hnone : x.reason = none := by
    rw [reason?, hx] at hreason
    exact hreason
  -- Nobody has disconnected the endpoint, so its end has not begun.
  have hlodges : l.node.Lodges _ false e := h.agrees.sound _ (List.mem_of_getElem? hi)
  have hhalt : x.state.halt? = none := (hlodges.stays (guest?_of_endpoint? hx) hnone).halt
  rw [Endpoint.guest, Endpoint.guest, hhalt]
  rfl

theorem Kept.setState {run : Nat} (h : l.Kept) (hi : l.newcomers[i]? = some ⟨run, .attached e⟩)
    (hreason : l.node.reason? e = none) :
    Kept ⟨l.move i ⟨run, .standing e⟩, l.node.setState e .connecting⟩ :=
  h.settle_still hi rfl rfl (fun _ ↦ rfl) (fun _ ↦ rfl) h.panic (h.still_setState hi hreason) id

end Move

/-! ## The book -/

section Track

variable {i run : Nat} {e : EndpointRef} {g g' : Guest} {s' : Node}

theorem onDisconnect_of_not_ended {s : Node} {x : Endpoint} (hx : s.endpoint? e = some x)
    (hended : x.ended = false) (hook : Hook) :
    s.onDisconnect e hook = s.setEndpoint e { x with hooks := x.hooks ++ [hook] } := by
  rw [onDisconnect_eq, hx]
  dsimp only
  rw [hended]

theorem onDisconnect_of_ended {s : Node} {x : Endpoint} {r : DisconnectReason}
    (hx : s.endpoint? e = some x) (hended : x.ended = true) (hreason : x.reason = some r)
    (hook : Hook) : s.onDisconnect e hook = runHook r hook s := by
  rw [onDisconnect_eq, hx]
  dsimp only
  rw [hended, hreason]

/-- What is entered in the book, and perhaps struck off again at once, concerns nobody else. -/
theorem Kept.entered (h : l.Kept) (hi : l.newcomers[i]? = some ⟨run, .standing e⟩)
    (hg : l.node.guest? e = some g) (hframe : s'.frame = l.node.frame)
    (hothers : ∀ d, d ≠ e → s'.guest? d = l.node.guest? d) (hself : s'.guest? e = some g')
    (hid : g'.id = g.id) (hsound : s'.Lodges (s'.frame.Berthed l.ended run) true e)
    (hordered : Server.Ascending s'.server.connections)
    (hentry : ∀ k, s'.server.connection? k = l.node.server.connection? k ∨
      k = g.id ∧ (s'.server.connection? k = none ∨
        s'.server.connection? k = some e ∧ g'.reason = none))
    (htold : ∀ k, k ≠ g.id → s'.server.connection? k = l.node.server.connection? k ∧
      s'.server.told k = l.node.server.told k)
    (hnotices : ∀ n ∈ s'.server.notices, n ∈ l.node.server.notices ∨
      (l.move i ⟨run, .tracked e l.ended⟩).Right n) :
    (l.move i ⟨run, .tracked e l.ended⟩).Agrees s' := by
  have hadv := h.advances_move hi ⟨run, .tracked e l.ended⟩ rfl rfl fun _ ↦ rfl
  have hne : ∀ {d}, Admission.endpoint? (.tracked e l.ended) ≠ some d → d ≠ e := by
    rintro d hd rfl
    exact hd rfl
  have hnumber := h.agrees.number h.tidy (List.mem_of_getElem? hi) rfl hg
  refine hadv.agrees h.agrees h.tidy
    { berth := fun _ _ hberth ↦ by rwa [hframe]
      guests := fun d hd ↦ hothers d (hne hd)
      book := fun id d hid' hd ↦ ?_
      sound := hsound
      named := fun id d hid' ↦ ?_
      ordered := hordered
      entries := fun id d hfound ↦ ?_
      notices := hnotices }
  · refine htold id fun heq ↦ hne hd ?_
    exact h.tidy.unique (heq ▸ hid') hnumber
  · obtain ⟨g₀, hg₀, rfl⟩ := h.agrees.named id d hid'
    by_cases hd : d = e
    · subst hd
      rw [hg, Option.some.injEq] at hg₀
      exact ⟨g', hself, hg₀ ▸ hid⟩
    · exact ⟨g₀, (hothers d hd).trans hg₀, rfl⟩
  · rcases hentry id with hold | ⟨rfl, hnone | ⟨hsome, hreason⟩⟩
    · exact .inl (hold.symm.trans hfound)
    · cases hnone.symm.trans hfound
    · cases Option.some.inj (hsome.symm.trans hfound)
      exact .inr ⟨beq_self_eq_true e, g', hself, hid, hreason⟩

theorem tracks_move (hi : l.newcomers[i]? = some ⟨run, .standing e⟩) :
    (l.move i ⟨run, .tracked e l.ended⟩).Tracks e :=
  ⟨⟨run, .tracked e l.ended⟩, List.mem_set (List.getElem?_eq_some_iff.1 hi).1 _,
    beq_self_eq_true e⟩

theorem Kept.right_added (h : l.Kept) (hi : l.newcomers[i]? = some ⟨run, .standing e⟩)
    (hg : l.node.guest? e = some g) :
    (l.move i ⟨run, .tracked e l.ended⟩).Right
      ⟨.added g.id, Server.insertConnection g.id e l.node.server.connections⟩ :=
  ⟨e, h.agrees.number h.tidy (List.mem_of_getElem? hi) rfl hg, tracks_move hi,
    Server.lookup_insertConnection.trans (if_pos rfl)⟩

/-- A connection that stands is entered in the book, and its hook waits. -/
theorem Kept.enter_stays (h : l.Kept) (hi : l.newcomers[i]? = some ⟨run, .standing e⟩)
    {P : Option Handle → Prop} (hstays : Stays P false e g l.node)
    (hframe : s'.frame = l.node.frame) (hserver : s'.server = l.node.server.enter g.id e)
    (hothers : ∀ d, d ≠ e → s'.guest? d = l.node.guest? d)
    (hself : s'.guest? e = some { g with strikes := g.strikes ++ [g.id] }) :
    (l.move i ⟨run, .tracked e l.ended⟩).Agrees s' := by
  have hstrikes : g.strikes = [] := hstays.strikes
  have hlodges : l.node.Lodges (l.node.frame.Berthed l.ended run) false e :=
    h.agrees.sound _ (List.mem_of_getElem? hi)
  have hberthed := (hlodges.stays hstays.guest hstays.reason).handle
  refine h.entered hi hstays.guest hframe hothers hself rfl (.inl ⟨_, hself, hstays.reason,
    hstays.ended, hstays.halt, ?_, ?_, ?_, ?_⟩) ?_ (fun k ↦ ?_) (fun k hk ↦ ?_) fun n hn ↦ ?_
  · rw [hframe]
    exact hberthed
  · rw [hstrikes]
    rfl
  · rw [hserver, Server.connection?_enter]
    exact if_pos rfl
  · rw [hserver, Server.told_enter, hstays.told]
    exact if_pos rfl
  · rw [hserver]
    exact h.agrees.ordered.insertConnection
  · rw [hserver, Server.connection?_enter]
    by_cases hk : k = g.id
    · exact .inr ⟨hk, .inr ⟨if_pos hk, hstays.reason⟩⟩
    · exact .inl (if_neg hk)
  · rw [hserver, Server.connection?_enter, Server.told_enter, if_neg hk, if_neg (Ne.symm hk)]
    exact ⟨rfl, List.append_nil _⟩
  · rw [hserver] at hn
    rcases List.mem_append.1 hn with hold | hnew
    · exact .inl hold
    · rw [List.mem_singleton.1 hnew]
      exact .inr (h.right_added hi hstays.guest)

/-- One that has left is entered and struck off again, as its hook is run at once. -/
theorem Kept.enter_left {r : DisconnectReason} (h : l.Kept)
    (hi : l.newcomers[i]? = some ⟨run, .standing e⟩) (hleft : Left false e g r l.node)
    (hframe : s'.frame = l.node.frame)
    (hserver : s'.server = (l.node.server.enter g.id e).strike g.id r)
    (hguests : ∀ d, s'.guest? d = l.node.guest? d) :
    (l.move i ⟨run, .tracked e l.ended⟩).Agrees s' := by
  have hself := (hguests e).trans hleft.guest
  refine h.entered hi hleft.guest hframe (fun d _ ↦ hguests d) hself rfl (.inr ⟨_, r, hself,
    hleft.reason, hleft.ended, hleft.halt, hleft.strikes, ?_, ?_⟩) ?_ (fun k ↦ ?_) (fun k hk ↦ ?_)
    fun n hn ↦ ?_
  · rw [hserver, Server.connection?_strike]
    exact if_pos rfl
  · rw [hserver, Server.told_strike, Server.told_enter, hleft.told]
    simp
  · rw [hserver]
    have hentered : Server.Ascending (l.node.server.enter g.id e).connections :=
      h.agrees.ordered.insertConnection
    exact hentered.strike r
  · rw [hserver, Server.connection?_strike, Server.connection?_enter]
    by_cases hk : k = g.id
    · exact .inr ⟨hk, .inl (if_pos hk)⟩
    · rw [if_neg hk, if_neg hk]
      exact .inl rfl
  · rw [hserver, Server.connection?_strike, Server.connection?_enter, Server.told_strike,
      Server.told_enter, if_neg hk, if_neg hk, if_neg (Ne.symm hk), if_neg (Ne.symm hk)]
    exact ⟨rfl, (List.append_nil _).trans (List.append_nil _)⟩
  · rw [hserver] at hn
    rcases List.mem_append.1 hn with hentered | hnew
    · rcases List.mem_append.1 hentered with hold | hnew
      · exact .inl hold
      · rw [List.mem_singleton.1 hnew]
        exact .inr (h.right_added hi hleft.guest)
    · rw [List.mem_singleton.1 hnew]
      refine .inr ⟨e, h.agrees.number h.tidy (List.mem_of_getElem? hi) rfl hleft.guest,
        tracks_move hi, ?_⟩
      exact (Server.connection?_strike (v := l.node.server.enter g.id e) r).trans (if_pos rfl)

/-- The server writes down a connection, before it asks whether a run is on. -/
theorem Kept.enlist (h : l.Kept) (hi : l.newcomers[i]? = some ⟨run, .standing e⟩) {x : Endpoint}
    (hx : l.node.endpoint? e = some x) :
    (l.move i ⟨run, .tracked e l.ended⟩).Agrees (l.node.enlist e x.id) ∧
      (l.node.enlist e x.id).frame = l.node.frame ∧
        ∀ d, ((l.node.enlist e x.id).guest? d).map Guest.reason =
          (l.node.guest? d).map Guest.reason := by
  have hg := guest?_of_endpoint? hx
  have hx₁ : ({ l.node with server := l.node.server.enter x.id e } : Node).endpoint? e = some x :=
    hx
  have hlodges : l.node.Lodges (l.node.frame.Berthed l.ended run) false e :=
    h.agrees.sound _ (List.mem_of_getElem? hi)
  cases hreason : x.reason with
  | none =>
      have hstays := hlodges.stays hg hreason
      have hended : x.ended = false := hstays.ended
      rw [Node.enlist, onDisconnect_of_not_ended hx₁ hended]
      have hself := guest?_setEndpoint_self hx₁ { x with hooks := x.hooks ++ [.untrack x.id .done] }
      have hothers := fun d (hd : d ≠ e) ↦ guest?_setEndpoint_of_ne
        (s := { l.node with server := l.node.server.enter x.id e }) hd
          { x with hooks := x.hooks ++ [.untrack x.id .done] }
      refine ⟨h.enter_stays hi hstays rfl rfl hothers ?_, rfl, fun d ↦ ?_⟩
      · rw [hself]
        simp [Endpoint.guest, Hook.strikes]
      · by_cases hd : d = e
        · subst hd
          rw [hself, hg]
          rfl
        · rw [hothers d hd]
          rfl
  | some r =>
      have hleft := hlodges.left hg hreason
      have hended : x.ended = true := hleft.ended
      rw [Node.enlist, onDisconnect_of_ended hx₁ hended hreason]
      exact ⟨h.enter_left hi hleft rfl rfl fun _ ↦ rfl, rfl, fun _ ↦ rfl⟩

theorem track_eq {s : Node} {x : Endpoint} (hx : s.endpoint? e = some x) :
    s.track e = if (s.enlist e x.id).server.isRunning then s.enlist e x.id
      else ((s.enlist e x.id).disconnect e .serverStopped).1 := by
  rw [track, hx]
  rfl

theorem Kept.track (h : l.Kept) (hi : l.newcomers[i]? = some ⟨run, .standing e⟩) :
    Kept ⟨l.move i ⟨run, .tracked e l.ended⟩, l.node.track e⟩ := by
  obtain ⟨g, hg⟩ := h.agrees.guest? (List.mem_of_getElem? hi) rfl
  obtain ⟨x, hx, rfl⟩ := Option.map_eq_some_iff.1 hg
  have hadv := h.advances_move hi ⟨run, .tracked e l.ended⟩ rfl rfl fun _ ↦ rfl
  have htidy := h.tidy_move hi ⟨run, .tracked e l.ended⟩ rfl rfl fun _ ↦ rfl
  obtain ⟨hagrees, hframe, hreasons⟩ := h.enlist hi hx
  have hpanic : (l.node.enlist e x.id).panic = none := (panic_onDisconnect _ _ _).trans h.panic
  have hfit : ∀ f, f = l.node.frame → f.Fit (l.move i ⟨run, .tracked e l.ended⟩) := by
    rintro _ rfl
    exact ⟨h.fit.fair, h.fit.named, h.fit.next, h.fit.running, h.fit.pool, h.fit.address⟩
  -- Only behind the entry is it asked whether a run is on.
  have hcurrent : l.Current (l.node.enlist e x.id) := by
    intro a ha d run hstage g' hg' hreason
    have hsame := hreasons d
    rw [hg'] at hsame
    obtain ⟨g₀, hg₀, hreason₀⟩ := Option.map_eq_some_iff.1 hsame.symm
    rw [hframe]
    exact h.current a ha d run hstage g₀ hg₀ (hreason₀.trans hreason)
  rw [track_eq hx]
  generalize l.node.enlist e x.id = s at *
  split
  · next hrunning =>
    refine ⟨hpanic, hfit _ hframe, h.counted, htidy, hagrees, hadv.current hcurrent ?_⟩
    intro d run' hstage _ _ _
    cases hstage
    exact ⟨hrunning, rfl⟩
  · next hidle =>
    have hmem := hadv.mem_self
    have hnone := hagrees.panic_disconnect hpanic hmem rfl .serverStopped
    have hframe' := (Stable.frame s.frame).disconnect hpanic rfl e .serverStopped
    refine ⟨hnone, hfit _ (hframe'.trans hframe), h.counted, htidy,
      htidy.stable.disconnect hpanic hagrees e _,
      hadv.current (Ledger.stable_current.disconnect hpanic hcurrent e _) ?_⟩
    intro d run' hstage g' hg' hreason
    cases hstage
    rw [guest?_disconnect hagrees hpanic hmem rfl] at hg'
    obtain ⟨g₀, -, rfl⟩ := Option.map_eq_some_iff.1 hg'
    exact absurd hreason (reason_dismiss (List.mem_singleton_self e))

end Track

/-! ## Runs -/

/-- One step leaves the server in order. -/
theorem Kept.step? {service : Service} (h : l.Kept) (hstep : l.step? service = some l')
    (hfew : l'.numbers.length < 2 ^ 64) : l'.Kept := by
  cases step_of_step? hstep with
  | start bound => exact h.start bound
  | announce address => exact h.announce address
  | stop reason => exact h.stop reason
  | seat => exact h.seat
  | number hi type remote =>
      rw [length_numbers_number] at hfew
      exact h.number hi hfew
  | attach hi => exact h.attach hi
  | stand hi => exact h.markConnected hi
  | shake hi hreason => exact h.setState hi hreason
  | track hi => exact h.track hi
  | act hfair hact => exact h.act hfair hact

/-- Numbers that were handed out are not taken back. -/
theorem length_numbers_step? {service : Service} (hstep : l.step? service = some l') :
    l.numbers.length ≤ l'.numbers.length := by
  cases step_of_step? hstep with
  | start bound =>
      rw [Lobby.start]
      split <;> exact le_rfl
  | stop reason =>
      rw [Lobby.stop]
      split <;> exact le_rfl
  | seat =>
      rw [Lobby.seat]
      split <;> exact le_rfl
  | number hi type remote =>
      rw [length_numbers_number]
      exact Nat.le_succ _
  | announce | attach | stand | shake | track | act => exact le_rfl

theorem run?_cons {service : Service} {rest : List Service} :
    l.run? (service :: rest) = some l' ↔
      ∃ l₁, l.step? service = some l₁ ∧ l₁.run? rest = some l' := by
  rw [run?, Option.bind_eq_some_iff]

theorem length_numbers_run? {services : List Service} (hrun : l.run? services = some l') :
    l.numbers.length ≤ l'.numbers.length := by
  induction services generalizing l with
  | nil =>
      cases hrun
      exact le_rfl
  | cons service rest ih =>
      obtain ⟨l₁, hstep, hrest⟩ := run?_cons.1 hrun
      exact (length_numbers_step? hstep).trans (ih hrest)

theorem Kept.run? {services : List Service} (h : l.Kept) (hrun : l.run? services = some l')
    (hfew : l'.numbers.length < 2 ^ 64) : l'.Kept := by
  induction services generalizing l with
  | nil =>
      cases hrun
      exact h
  | cons service rest ih =>
      obtain ⟨l₁, hstep, hrest⟩ := run?_cons.1 hrun
      have hfew₁ := (length_numbers_run? hrest).trans_lt hfew
      exact ih (h.step? hstep hfew₁) hrest

/-- To accept a connection at one go is to seat it, number it, attach its endpoint and have that
stand. -/
theorem run?_accept {type : EndpointType} {remote : Option SocketAddress} {handshake : Bool}
    {s : Node} {e : EndpointRef} {handle : Handle} (hpanic : l.node.panic = none)
    (hroom : ¬Bytes.maxRoom < (l.node.engine l.node.endpoints.length).protocol.bufferLength)
    (haccept : l.node.accept type remote handshake = some (s, e, handle)) :
    (l.run? [.seat, .number l.newcomers.length type remote, .attach l.newcomers.length,
      .stand l.newcomers.length handshake]).map Lobby.node = some s := by
  rw [accept] at haccept
  cases hslot : l.node.acquireSlot with
  | none =>
      rw [hslot] at haccept
      cases haccept
  | some pair =>
      obtain ⟨s₁, h⟩ := pair
      obtain ⟨p, pool, -, -, hs₁, -⟩ := acquireSlot_eq_some hslot
      rw [hslot] at haccept
      dsimp only at haccept
      have hmade : ∀ x, (s₁.nextConnectionId.1.newEndpoint x).1.panic = none := by
        intro x
        rw [hs₁]
        exact (if_neg hroom).trans hpanic
      have hi : ∀ a : Newcomer, (l.newcomers ++ [a])[l.newcomers.length]? = some a := fun _ ↦
        List.getElem?_concat_length
      have hset : ∀ a b : Newcomer, (l.newcomers ++ [a]).set l.newcomers.length b =
          l.newcomers ++ [b] := by
        intro a b
        simp
      cases handshake with
      | false =>
          cases haccept
          simp only [Lobby.run?, Lobby.step?, Lobby.seat, hslot, Option.bind_some, hi, Lobby.number,
            hmade, Ledger.handOut, Ledger.move, hset]
          rfl
      | true =>
          cases haccept
          have hreason : ∀ x : Endpoint, x.handle = none → x.reason = none →
              ((s₁.nextConnectionId.1.newEndpoint x).1.attach
                (s₁.nextConnectionId.1.newEndpoint x).2 handle).reason?
                  (s₁.nextConnectionId.1.newEndpoint x).2 = none := by
            intro x hhandle hreason
            have hx : (s₁.nextConnectionId.1.newEndpoint x).1.endpoint?
                (s₁.nextConnectionId.1.newEndpoint x).2 = some x := List.getElem?_concat_length
            rw [Node.attach, hx]
            dsimp only
            rw [hhandle, reason?, endpoint?_setEndpoint_self _ _ hx]
            exact hreason
          simp only [Lobby.run?, Lobby.step?, Lobby.seat, hslot, Option.bind_some, hi, Lobby.number,
            hmade, Ledger.handOut, Ledger.move, hset, hreason, if_true]
          rfl

end Lobby

end MessageEngine
