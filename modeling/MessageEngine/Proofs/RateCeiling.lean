import MessageEngine.Proofs.DisconnectedData
import MessageEngine.Proofs.OutboundFrames

/-!
# The ceiling of the rate

Each message is counted before it is handled, and the count is compared with
the ceiling before the handler runs.  So in a window of time no more messages
are dispatched than the ceiling allows, however they came in, and the first
that is too many ends the endpoint together with all that wait behind it.
-/

namespace MessageEngine

namespace Rate

def countLimit : Nat := 0xffffffff

theorem toNat_window_record (r : Rate) :
    r.record.window.toNat = min (r.window.toNat + 1) countLimit := by
  have hlt := r.window.toNat_lt
  rw [record, countLimit]
  dsimp only
  split
  · next hfull =>
    rw [hfull]
    rfl
  · next hfull =>
    have hne : r.window.toNat ≠ 0xffffffff := fun heq ↦ hfull (UInt32.toNat_inj.1 heq)
    rw [UInt32.toNat_add]
    simp only [UInt32.reduceToNat]
    omega

theorem above_eq_true_iff (r : Rate) (ceiling : UInt32) :
    r.above ceiling = true ↔ 0 < ceiling.toNat ∧ ceiling.toNat < r.window.toNat := by
  rw [above, Bool.and_eq_true, decide_eq_true_iff, decide_eq_true_iff, gt_iff_lt, gt_iff_lt,
    UInt32.lt_iff_toNat_lt, UInt32.lt_iff_toNat_lt]
  rfl

theorem above_eq_false_iff (r : Rate) (ceiling : UInt32) :
    r.above ceiling = false ↔ (0 < ceiling.toNat → r.window.toNat ≤ ceiling.toNat) := by
  rw [← Bool.not_eq_true, above_eq_true_iff]
  omega

end Rate

namespace Node

variable {b : EndpointRef} {r : QueueRef} {g : Engine} {type : EndpointType} {s s' : Node}
  {x : Endpoint}

/-! ## What leaves the count alone -/

theorem dispatched_disconnect (s : Node) (e : EndpointRef) (reason : DisconnectReason)
    (b : EndpointRef) : (s.disconnect e reason).1.dispatched b = s.dispatched b := by
  rw [disconnect_eq]
  split
  · rfl
  · next x _ =>
    split
    · rfl
    · have hlog := (s.setEndpoint e (x.beginEnd reason)).detach_keeps e log_modifyQueue
        (fun _ _ ↦ rfl) (fun _ _ _ ↦ rfl) x.handle
      generalize (s.setEndpoint e (x.beginEnd reason)).detach e x.handle = s₁ at hlog ⊢
      dsimp only
      split
      · exact congrArg _ hlog
      · refine (Spares.runHooks (b := b) (r := .dedicated 0) reason x.hooks _).dispatched.trans ?_
        exact congrArg _ hlog

/-- The count of an endpoint, and what was dispatched to it, are what they were. -/
structure KeepsCount (b : EndpointRef) (s s' : Node) : Prop where
  engine : s'.engine = s.engine
  rate : (s'.endpoint? b).map Endpoint.rate = (s.endpoint? b).map Endpoint.rate
  dispatched : s'.dispatched b = s.dispatched b

theorem Spares.keepsCount (h : Spares b r s s') : KeepsCount b s s' := by
  refine ⟨h.engine, ?_, h.dispatched⟩
  have hcore := congrArg (Option.map Endpoint.rate) h.core
  rwa [Option.map_map, Option.map_map] at hcore

namespace KeepsCount

theorem refl (b : EndpointRef) (s : Node) : KeepsCount b s s := ⟨rfl, rfl, rfl⟩

theorem trans {s'' : Node} (h : KeepsCount b s s') (h' : KeepsCount b s' s'') :
    KeepsCount b s s'' :=
  ⟨h'.engine.trans h.engine, h'.rate.trans h.rate, h'.dispatched.trans h.dispatched⟩

theorem disconnect (s : Node) (b : EndpointRef) (reason : DisconnectReason) :
    KeepsCount b s (s.disconnect b reason).1 := by
  refine ⟨s.engine_disconnect b reason, ?_, s.dispatched_disconnect b reason b⟩
  cases hx : s.endpoint? b with
  | none =>
      rw [Node.disconnect_eq, hx]
      dsimp only
      rw [hx]
  | some x =>
      obtain ⟨x', hx', hrate⟩ := s.rate_disconnect b hx reason
      rw [hx', Option.map_some, Option.map_some, hrate]

theorem orEnds (h : SparesOrEnds b r s s') : KeepsCount b s s' := by
  rcases h with h | ⟨s₁, reason, hfirst, -, hrest⟩
  · exact h.keepsCount
  · exact (hfirst.keepsCount.trans (disconnect s₁ b reason)).trans hrest.keepsCount

theorem setEndpoint (hx : s.endpoint? b = some x) {y : Endpoint} (hrate : y.rate = x.rate) :
    KeepsCount b s (s.setEndpoint b y) := by
  refine ⟨rfl, ?_, rfl⟩
  rw [s.endpoint?_setEndpoint_self b hx, hx, Option.map_some, Option.map_some, hrate]

theorem receive (s : Node) (b : EndpointRef) (data : Bytes) :
    KeepsCount b s (s.receive b data) := by
  rw [Node.receive]
  split
  · exact refl b s
  · next x hx =>
    split
    · have hset : KeepsCount b s (s.setEndpoint b { x with buffer := x.buffer ++ data }) :=
        setEndpoint hx rfl
      dsimp only
      split
      · next h _ =>
        have hengine := (s.setEndpoint b { x with buffer := x.buffer ++ data }).enqueue_keeps
          h.queue engine_modifyQueue (fun _ _ ↦ rfl) (.parse b)
        have hlog := (s.setEndpoint b { x with buffer := x.buffer ++ data }).enqueue_keeps
          h.queue log_modifyQueue (fun _ _ ↦ rfl) (.parse b)
        refine hset.trans ⟨hengine, ?_, congrArg _ hlog⟩
        rw [endpoint?, endpoints_enqueue]
        rfl
      · exact hset
    · exact refl b s

theorem parseReceived (s : Node) (b : EndpointRef) : KeepsCount b s (s.parseReceived b).1 := by
  cases hx : s.endpoint? b with
  | none =>
      rw [Node.parseReceived, hx]
      exact refl b s
  | some x =>
      obtain ⟨buffer, -, hparsed⟩ := parseReceived_cases (r := .dedicated 0) hx
      have hset : KeepsCount b s (s.setEndpoint b { x with buffer := buffer }) :=
        setEndpoint hx rfl
      exact hset.trans (orEnds hparsed)

theorem proceed (s : Node) (r : QueueRef) (e : EndpointRef) (messages : List Message)
    (b : EndpointRef) : KeepsCount b s (s.proceed r e messages) := by
  refine ⟨?_, ?_, s.dispatched_proceed r e messages b⟩
  · rw [Node.proceed.eq_def]
    split <;> exact s.engine_modifyQueue r _
  · rw [endpoint?_proceed]

end KeepsCount

/-! ## Counting a message -/

/-- The next message of an endpoint is counted: it is dropped, because it is one too many or the
endpoint had ended before, or it is dispatched. -/
inductive Counted (b : EndpointRef) (x : Endpoint) (s s' : Node) : Prop
  | dropped (engine : s'.engine = s.engine)
      (rate : (s'.endpoint? b).map Endpoint.rate = some x.rate.record)
      (dispatched : s'.dispatched b = s.dispatched b)
      (cause : x.discarding = true ∨ x.rate.record.above (s.engine b).protocol.maxRate = true ∧
        (x.reason = none → s'.reason? b = some .spam))
  | dispatched (entry : Message × Bool) (engine : s'.engine = s.engine)
      (rate : (s'.endpoint? b).map Endpoint.rate = some x.rate.record)
      (dispatched : s'.dispatched b = s.dispatched b ++ [entry])
      (below : x.rate.record.above (s.engine b).protocol.maxRate = false)

theorem Counted.proceed {s₁ : Node} (h : Counted b x s s₁) (r : QueueRef) (e : EndpointRef)
    (messages : List Message) : Counted b x s (s₁.proceed r e messages) := by
  have hkept := KeepsCount.proceed s₁ r e messages b
  cases h with
  | dropped engine rate dispatched cause =>
      refine .dropped (hkept.engine.trans engine) (hkept.rate.trans rate)
        (hkept.dispatched.trans dispatched) ?_
      rw [reason?_proceed]
      exact cause
  | dispatched entry engine rate dispatched below =>
      exact .dispatched entry (hkept.engine.trans engine) (hkept.rate.trans rate)
        (hkept.dispatched.trans dispatched) below

theorem Counted.handleMessage (hx : s.endpoint? b = some x) (halone : s.Alone b r) (m : Message) :
    Counted b x s (s.handleMessage b m).1 := by
  have hcounted := s.endpoint?_setEndpoint_self b hx { x with rate := x.rate.record }
  have hrate : ((s.setEndpoint b { x with rate := x.rate.record }).endpoint? b).map
      Endpoint.rate = some x.rate.record := by
    rw [hcounted]
    rfl
  have halone' : (s.setEndpoint b { x with rate := x.rate.record }).Alone b r :=
    halone.of_endpoint? fun e he ↦ s.endpoint?_setEndpoint_of_ne he.symm _
  rw [Node.handleMessage, hx]
  dsimp only [Rate.exceeds]
  split
  · next hexceeded =>
    -- The message is one too many, and the endpoint is disconnected for it.
    have htraced := (Spares.trace (b := b) (r := r)
      (s.setEndpoint b { x with rate := x.rate.record })
      (.rateExceeded (s.engine b).protocol.maxRate)).keepsCount
    have hended := (htraced.trans (.disconnect _ b .spam)).trans
      (Spares.contain (b := b) (r := r) _).keepsCount
    refine .dropped hended.engine (hended.rate.trans hrate) hended.dispatched
      (.inr ⟨hexceeded, fun hreason ↦ ?_⟩)
    obtain ⟨x', hx', hspam, -⟩ := ((s.setEndpoint b { x with rate := x.rate.record }).trace
      (.rateExceeded (s.engine b).protocol.maxRate)).endpoint?_disconnect b hcounted hreason .spam
    rw [(Spares.contain (b := b) (r := r) _).reason?, reason?, hx']
    exact hspam
  · next hbelow =>
    split
    · next hdiscarding => exact .dropped rfl hrate rfl (.inl hdiscarding)
    · have hkept := KeepsCount.orEnds
        (Spares.dispatch_self halone' (congrArg Option.isSome hcounted) x.type m)
      refine .dispatched (m, (s.engine b).registry.handles m x.type) hkept.engine
        (hkept.rate.trans hrate) ?_ (eq_false_of_ne_true hbelow)
      rw [hkept.dispatched, dispatched_record, Record.dispatch?, if_pos rfl]
      rfl

theorem Counted.work? (hx : s.endpoint? b = some x) (halone : s.Alone b r)
    (hpanic : s.panic = none) (hwork : s.work? r = some s') :
    KeepsCount b s s' ∨ s.handlesNext b r = true ∧ Counted b x s s' := by
  obtain ⟨q, j, rest, hq, hhead, rfl⟩ := work?_eq_some hwork
  cases hj : j.isFor b with
  | false =>
      obtain ⟨s₁, e, messages, hexecute, -, hspares, -⟩ :=
        execute_of_foreign (r := r) hj halone hpanic
      rw [hexecute]
      exact .inl (hspares.keepsCount.trans (.proceed s₁ r e messages b))
  | true =>
      cases j with
      | hold clear => cases hj
      | mark label panics => cases hj
      | reset e =>
          rw [Job.isFor, beq_iff_eq] at hj
          subst hj
          have hcleared : KeepsCount e s (s.clearBuffer e) := by
            rw [clearBuffer, s.modifyEndpoint_of_endpoint? e hx]
            exact .setEndpoint hx rfl
          exact .inl (hcleared.trans (.proceed _ r e [] e))
      | parse e =>
          rw [Job.isFor, beq_iff_eq] at hj
          subst hj
          exact .inl ((KeepsCount.parseReceived s e).trans (.proceed _ r e _ e))
      | handle e messages =>
          rw [Job.isFor, beq_iff_eq] at hj
          subst hj
          cases messages with
          | nil => exact .inl (.proceed s r e [] e)
          | cons m ms =>
              obtain ⟨left, hexecute, -⟩ := s.execute_handle r e m ms
              rw [hexecute]
              exact .inr ⟨handlesNext_of_head hq hhead,
                (Counted.handleMessage hx halone m).proceed r e left⟩

/-- An act inside a window: only the worker counts. -/
theorem Counted.act? {act : Act} (hx : s.endpoint? b = some x) (halone : s.Alone b r)
    (hpanic : s.panic = none) (husual : act.Usual r) (hwindow : act ≠ .renew b)
    (hact : s.act? act = some s') :
    KeepsCount b s s' ∨ act = .work r ∧ s.handlesNext b r = true ∧ Counted b x s s' := by
  rcases Spares.act? halone husual hact with ⟨hspares, -⟩ | ⟨data, rfl⟩ | ⟨reason, rfl⟩ | rfl | rfl
  · exact .inl hspares.keepsCount
  · cases hact
    exact .inl ((KeepsCount.receive s b data).trans (Spares.panic (r := r) _ none).keepsCount)
  · cases hact
    exact .inl ((KeepsCount.disconnect s b reason).trans
      (Spares.panic (r := r) _ none).keepsCount)
  · exact absurd rfl hwindow
  · rcases Counted.work? hx halone hpanic hact with hkept | hcounted
    · exact .inl hkept
    · exact .inr ⟨rfl, hcounted⟩

/-! ## What was counted in a window -/

/-- In a window that began with so many messages counted and dispatched, `n` more were counted and
`d` more dispatched. -/
structure Tally (b : EndpointRef) (g : Engine) (total before n d : Nat) (s : Node) : Prop where
  engine : s.engine b = g
  rate : ∃ x, s.endpoint? b = some x ∧ x.rate.total = total + n ∧
    x.rate.window.toNat = min n Rate.countLimit
  dispatched : (s.dispatched b).length = before + d
  counted : d ≤ n
  below : 0 < g.protocol.maxRate.toNat → d ≤ g.protocol.maxRate.toNat

variable {total before n d : Nat}

theorem Tally.kept (h : s.Tally b g total before n d) (hkept : KeepsCount b s s') :
    s'.Tally b g total before n d := by
  have hrate := hkept.rate
  obtain ⟨x, hx, htotal, hcount⟩ := h.rate
  rw [hx, Option.map_some] at hrate
  obtain ⟨y, hy, hyrate⟩ := Option.map_eq_some_iff.1 hrate
  exact ⟨(congrFun hkept.engine b).trans h.engine, ⟨y, hy, hyrate ▸ htotal, hyrate ▸ hcount⟩,
    hkept.dispatched ▸ h.dispatched, h.counted, h.below⟩

theorem Tally.record (h : s.Tally b g total before n d) (hx : s.endpoint? b = some x)
    (hrate : (s'.endpoint? b).map Endpoint.rate = some x.rate.record) :
    ∃ y, s'.endpoint? b = some y ∧ y.rate.total = total + (n + 1) ∧
      y.rate.window.toNat = min (n + 1) Rate.countLimit := by
  obtain ⟨y, hy, htotal, hcount⟩ := h.rate
  rw [hx, Option.some.injEq] at hy
  subst hy
  obtain ⟨y', hy', hrecord⟩ := Option.map_eq_some_iff.1 hrate
  refine ⟨y', hy', ?_, ?_⟩
  · rw [hrecord, Rate.record, htotal, Nat.add_assoc]
  · rw [hrecord, Rate.toNat_window_record, hcount]
    omega

/-- The count with the next message is not above a ceiling that the count can pass, so it has not
come to its greatest value. -/
theorem Tally.next_le_iff (h : s.Tally b g total before n d)
    (hceiling : g.protocol.maxRate.toNat < Rate.countLimit) (hx : s.endpoint? b = some x) :
    x.rate.record.above g.protocol.maxRate = false ↔
      (0 < g.protocol.maxRate.toNat → n + 1 ≤ g.protocol.maxRate.toNat) := by
  obtain ⟨y, hy, -, hcount⟩ := h.rate
  rw [hx, Option.some.injEq] at hy
  subst hy
  rw [Rate.above_eq_false_iff, Rate.toNat_window_record, hcount]
  omega

theorem Tally.drop (h : s.Tally b g total before n d) (hx : s.endpoint? b = some x)
    (hengine : s'.engine = s.engine)
    (hrate : (s'.endpoint? b).map Endpoint.rate = some x.rate.record)
    (hdispatched : s'.dispatched b = s.dispatched b) : s'.Tally b g total before (n + 1) d :=
  ⟨(congrFun hengine b).trans h.engine, h.record hx hrate, hdispatched ▸ h.dispatched,
    Nat.le_succ_of_le h.counted, h.below⟩

theorem Tally.dispatch (h : s.Tally b g total before n d)
    (hceiling : g.protocol.maxRate.toNat < Rate.countLimit) (hx : s.endpoint? b = some x)
    {entry : Message × Bool} (hengine : s'.engine = s.engine)
    (hrate : (s'.endpoint? b).map Endpoint.rate = some x.rate.record)
    (hdispatched : s'.dispatched b = s.dispatched b ++ [entry])
    (hbelow : x.rate.record.above (s.engine b).protocol.maxRate = false) :
    s'.Tally b g total before (n + 1) (d + 1) := by
  have hle := h.counted
  rw [h.engine, h.next_le_iff hceiling hx] at hbelow
  refine ⟨(congrFun hengine b).trans h.engine, h.record hx hrate, ?_, by omega, fun hpos ↦ ?_⟩
  · rw [hdispatched, List.length_append, h.dispatched, List.length_singleton, Nat.add_assoc]
  · have hnext := hbelow hpos
    omega

theorem Tally.renew (h : s.Tally b g total before n d) :
    (s.modifyEndpoint b fun x ↦ { x with rate := x.rate.renew }).Tally b g (total + n)
      (before + d) 0 0 := by
  obtain ⟨x, hx, htotal, -⟩ := h.rate
  refine ⟨h.engine, ⟨{ x with rate := x.rate.renew }, ?_, htotal, rfl⟩, h.dispatched, Nat.le_refl 0,
    fun _ ↦ Nat.zero_le _⟩
  rw [endpoint?_modifyEndpoint_self, hx]
  rfl

/-- No act leads above the ceiling of its window. -/
theorem Tally.act? {act : Act} (h : s.Tally b g total before n d)
    (hceiling : g.protocol.maxRate.toNat < Rate.countLimit) (halone : s.Alone b r)
    (hpanic : s.panic = none) (husual : act.Usual r) (hact : s.act? act = some s') :
    ∃ total' before' n' d', s'.Tally b g total' before' n' d' ∧
      total + before' ≤ total' + before ∧ total' + n' ≤ total + n + 1 ∧
      (act ≠ .renew b → total' = total ∧ before' = before) := by
  have hle := h.counted
  by_cases hwindow : act = .renew b
  · subst hwindow
    cases hact
    exact ⟨total + n, before + d, 0, 0, h.renew, by omega, Nat.le_succ _,
      fun hne ↦ absurd rfl hne⟩
  · obtain ⟨x, hx, -⟩ := h.rate
    rcases Counted.act? hx halone hpanic husual hwindow hact with hkept | ⟨-, -, hcounted⟩
    · exact ⟨total, before, n, d, h.kept hkept, Nat.le_refl _, Nat.le_succ _,
        fun _ ↦ ⟨rfl, rfl⟩⟩
    · cases hcounted with
      | dropped engine rate dispatched _ =>
          exact ⟨total, before, n + 1, d, h.drop hx engine rate dispatched, Nat.le_refl _,
            Nat.le_refl _, fun _ ↦ ⟨rfl, rfl⟩⟩
      | dispatched entry engine rate dispatched below =>
          exact ⟨total, before, n + 1, d + 1,
            h.dispatch hceiling hx engine rate dispatched below, Nat.le_refl _, Nat.le_refl _,
            fun _ ↦ ⟨rfl, rfl⟩⟩

theorem Tally.run? {acts : List Act} (h : s.Tally b g total before n d)
    (hceiling : g.protocol.maxRate.toNat < Rate.countLimit)
    (hstands : s.Open b r ∨ ∃ reason, s.Ended b r reason 0)
    (husual : ∀ act ∈ acts, act.Usual r) (hrun : s.run? acts = some s') :
    ∃ total' before' n' d', s'.Tally b g total' before' n' d' ∧
      total + before' ≤ total' + before ∧ total' + n' ≤ total + n + acts.length ∧
      (.renew b ∉ acts → total' = total ∧ before' = before) := by
  induction acts generalizing s total before n d with
  | nil =>
      cases hrun
      exact ⟨total, before, n, d, h, Nat.le_refl _, Nat.le_refl _, fun _ ↦ ⟨rfl, rfl⟩⟩
  | cons act acts ih =>
      obtain ⟨s₁, hact, hrest⟩ := run?_cons.1 hrun
      have hfirst := husual act List.mem_cons_self
      have hothers : ∀ a ∈ acts, a.Usual r := fun a ha ↦ husual a (List.mem_cons_of_mem act ha)
      have halone : s.Alone b r ∧ s.panic = none := by
        rcases hstands with hopen | ⟨_, hended⟩
        · exact ⟨hopen.alone, hopen.panic⟩
        · exact ⟨hended.alone, hended.panic⟩
      have hstands₁ : s₁.Open b r ∨ ∃ reason, s₁.Ended b r reason 0 := by
        rcases hstands with hopen | ⟨reason, hended⟩
        · exact hopen.act? hfirst hact
        · exact .inr ⟨reason, (hended.act? hfirst hact).1⟩
      obtain ⟨total₁, before₁, n₁, d₁, h₁, hle₁, hone, hsame₁⟩ :=
        h.act? hceiling halone.1 halone.2 hfirst hact
      obtain ⟨total₂, before₂, n₂, d₂, h₂, hle₂, hmany, hsame₂⟩ := ih h₁ hstands₁ hothers hrest
      rw [List.length_cons]
      refine ⟨total₂, before₂, n₂, d₂, h₂, by omega, by omega, fun hwindow ↦ ?_⟩
      rw [List.mem_cons, not_or] at hwindow
      obtain ⟨htotal, hbefore⟩ := hsame₂ hwindow.2
      obtain ⟨htotal₁, hbefore₁⟩ := hsame₁ (Ne.symm hwindow.1)
      exact ⟨htotal.trans htotal₁, hbefore.trans hbefore₁⟩

/-! ## Up to the ceiling -/

/-- The rate is what an endpoint is disconnected for, if an act disconnects it. -/
def Steady (b : EndpointRef) (s : Node) (_ : Act) (s' : Node) : Prop :=
  (∀ x ∈ s'.endpoint? b, x.rate.above (s.engine b).protocol.maxRate = false) →
    s'.reason? b = s.reason? b

instance (act : Act) : Decidable (Steady b s act s') := inferInstanceAs (Decidable (_ → _))

/-- An endpoint that is open in the end was not disconnected on the way. -/
theorem Open.steady {acts : List Act} (h : s.Open b r) (husual : ∀ act ∈ acts, act.Usual r)
    (hrun : s.run? acts = some s') (hnone : s'.reason? b = none) : Along (Steady b) s acts := by
  induction acts generalizing s with
  | nil => exact trivial
  | cons act acts ih =>
      intro s₁ hact
      obtain ⟨s₂, hact', hrest⟩ := run?_cons.1 hrun
      rw [hact', Option.mem_some_iff] at hact
      subst hact
      have hothers : ∀ a ∈ acts, a.Usual r := fun a ha ↦ husual a (List.mem_cons_of_mem act ha)
      rcases h.act? (husual act List.mem_cons_self) hact' with hopen | ⟨reason, hended⟩
      · exact ⟨fun _ ↦ hopen.reason?.trans h.reason?.symm, ih hopen hothers hrest⟩
      · rw [(hended.run? hothers hrest).1.reason?] at hnone
        cases hnone

/-- Where the worker is to handle a message of the endpoint, messages of it wait. -/
theorem Reception.waiting_ne_nil {p : Progress} (h : s.Reception b r g type p)
    (hnext : s.handlesNext b r = true) : p.waiting ≠ [] := by
  obtain ⟨q, hq, hqueue⟩ := h.queue
  rw [handlesNext, hq] at hnext
  dsimp only at hnext
  split at hnext
  · next e messages rest hhead =>
    rw [beq_iff_eq] at hnext
    subst hnext
    have hown : (Job.handle e messages).isFor e = true := beq_self_eq_true e
    have hjobs := hqueue.jobs
    rw [hhead, List.filter_cons_of_pos hown] at hjobs
    rcases Progress.jobs_eq_cons hjobs.symm with ⟨m, ms, hwaiting, -⟩ | ⟨-, _, -, hj, -⟩ |
      ⟨-, -, -, hj, -⟩
    · rw [hwaiting]
      exact List.cons_ne_nil m ms
    · cases hj
    · cases hj
  · cases hnext

/-- What has come of the octets that an endpoint took: their messages are being dispatched and the
ceiling of the window has not been passed, or it was passed by the message behind those that were
dispatched. -/
inductive Metered (b : EndpointRef) (r : QueueRef) (g : Engine) (type : EndpointType)
    (data : Bytes) (before : Nat) (s : Node) : Prop
  | within {p : Progress} {total d : Nat} (reception : s.Reception b r g type p)
      (received : p.received = data) (lost : p.lost = false)
      (tally : s.Tally b g total before d d)
  | exceeded {done ms : List Message} {rest : Bytes} (ended : s.Ended b r .spam 0)
      (dispatched : s.dispatched b = done.map fun m ↦ (m, g.registry.handles m type))
      (taken : g.protocol.Takes g.registry data (done ++ ms) rest) (more : ms ≠ [])
      (length : done.length = before + g.protocol.maxRate.toNat)
      (pos : 0 < g.protocol.maxRate.toNat)

theorem Metered.proceed {p : Progress} {act : Act} (h : s.Reception b r g type p)
    (hlost : p.lost = false) (husual : act.Usual r) (hact : s.act? act = some s')
    (htally : s'.Tally b g total before d d) (hsteady : Steady b s act s')
    (hgood : ∀ failure, g.protocol.parse g.registry p.received ≠ .error failure) :
    s'.Metered b r g type (p.received ++ hears b s act) before := by
  have hbelow : ∀ x ∈ s'.endpoint? b, x.rate.above (s.engine b).protocol.maxRate = false := by
    intro x hx
    obtain ⟨y, hy, -, hcount⟩ := htally.rate
    rw [hy, Option.mem_some_iff] at hx
    subst hx
    rw [h.engine, Rate.above_eq_false_iff, hcount]
    intro hpos
    have hle := htally.below hpos
    omega
  have hnone : s'.reason? b = none := (hsteady hbelow).trans (h.open hlost).reason?
  have hkeeps : MayEnd b s act →
      ∀ reason, s'.reason? b = some reason → reason.discardsPending = false := by
    intro _ reason hreason
    rw [hnone] at hreason
    cases hreason
  obtain ⟨p', hreception, hreceived, -, -⟩ :=
    h.act? husual hact (fun _ _ ↦ hgood) hkeeps fun _ ↦ hbelow
  refine .within hreception hreceived ?_ htally
  rw [hreception.lost_eq, hnone]
  rfl

/-- The message that is one too many ends the endpoint, and is still in front of those that wait. -/
theorem Metered.exceed {p : Progress} (h : s.Reception b r g type p) (hlost : p.lost = false)
    (hact : s.act? (.work r) = some s') (hnext : s.handlesNext b r = true)
    (htally : s.Tally b g total before d d)
    (hceiling : g.protocol.maxRate.toNat < Rate.countLimit) (hx : s.endpoint? b = some x)
    (hdispatched : s'.dispatched b = s.dispatched b)
    (habove : x.rate.record.above (s.engine b).protocol.maxRate = true)
    (hspam : s'.reason? b = some .spam) : s'.Metered b r g type p.received before := by
  have hended : s'.Ended b r .spam 0 := by
    rcases (h.open hlost).work? hact with hopen | ⟨reason, hended⟩
    · rw [hopen.reason?] at hspam
      cases hspam
    · rw [hended.reason?, Option.some.injEq] at hspam
      exact hspam ▸ hended
  obtain ⟨y, -, hagrees⟩ := h.endpoint
  have hnot := (htally.next_le_iff hceiling hx).not
  rw [← h.engine, habove] at hnot
  obtain ⟨hpos, hlt⟩ : 0 < g.protocol.maxRate.toNat ∧ g.protocol.maxRate.toNat < d + 1 := by
    have := hnot.1 Bool.noConfusion
    rw [h.engine] at this
    omega
  have hle := htally.below hpos
  have hlength := htally.dispatched
  rw [h.dispatched, List.length_map] at hlength
  refine .exceeded hended (hdispatched.trans h.dispatched) hagrees.taken (h.waiting_ne_nil hnext)
    ?_ hpos
  omega

theorem Metered.act? {act : Act} {data : Bytes} (h : s.Metered b r g type data before)
    (hceiling : g.protocol.maxRate.toNat < Rate.countLimit) (husual : act.Usual r)
    (hact : s.act? act = some s') (hsteady : Steady b s act s')
    (hgood : ∀ failure, g.protocol.parse g.registry data ≠ .error failure) :
    ∃ before', s'.Metered b r g type (data ++ hears b s act) before' ∧
      (act ≠ .renew b → before' = before) := by
  cases h with
  | exceeded ended dispatched taken more length pos =>
      obtain ⟨hended, hsame⟩ := ended.act? husual hact
      have hdeaf : hears b s act = [] := if_neg (ne_true_of_eq_false ended.isConnected)
      rw [hdeaf, List.append_nil]
      exact ⟨before, .exceeded hended ((hsame rfl).trans dispatched) taken more length pos,
        fun _ ↦ rfl⟩
  | @within p total d reception received lost tally =>
      subst received
      by_cases hwindow : act = .renew b
      · subst hwindow
        have htally := tally.renew
        cases hact
        exact ⟨before + d, .proceed reception lost husual rfl htally hsteady hgood,
          fun hne ↦ absurd rfl hne⟩
      · obtain ⟨x, hx, hagrees⟩ := reception.endpoint
        have hopen := reception.open lost
        refine ⟨before, ?_, fun _ ↦ rfl⟩
        rcases Counted.act? hx hopen.alone hopen.panic husual hwindow hact with
          hkept | ⟨rfl, hnext, hcounted⟩
        · exact .proceed reception lost husual hact (tally.kept hkept) hsteady hgood
        · cases hcounted with
          | dispatched entry engine rate dispatched below =>
              exact .proceed reception lost husual hact
                (tally.dispatch hceiling hx engine rate dispatched below) hsteady hgood
          | dropped engine rate dispatched cause =>
              obtain ⟨habove, hspam⟩ :=
                cause.resolve_left (ne_true_of_eq_false hagrees.discarding)
              have hsilent : hears b s (.work r) = [] := ite_self []
              rw [hsilent, List.append_nil]
              exact .exceed reception lost hact hnext tally hceiling hx dispatched habove
                (hspam (hagrees.connected lost).2.1)

theorem Metered.run? {acts : List Act} {data : Bytes} (h : s.Metered b r g type data before)
    (hceiling : g.protocol.maxRate.toNat < Rate.countLimit)
    (husual : ∀ act ∈ acts, act.Usual r) (hrun : s.run? acts = some s')
    (hsteady : Along (Steady b) s acts)
    (hgood : ∀ failure,
      g.protocol.parse g.registry (data ++ accepted b s acts) ≠ .error failure) :
    ∃ before', s'.Metered b r g type (data ++ accepted b s acts) before' ∧
      (.renew b ∉ acts → before' = before) := by
  induction acts generalizing s data before with
  | nil =>
      cases hrun
      rw [accepted, List.append_nil]
      exact ⟨before, h, fun _ ↦ rfl⟩
  | cons act acts ih =>
      obtain ⟨s₁, hact, hrest⟩ := run?_cons.1 hrun
      obtain ⟨hfirst, hothers⟩ := hsteady s₁ hact
      rw [accepted_cons hact, ← List.append_assoc] at hgood ⊢
      have hgood₁ : ∀ failure, g.protocol.parse g.registry data ≠ .error failure := by
        intro failure hfailure
        have hmore := Protocol.parse_error_append hfailure (hears b s act ++ accepted b s₁ acts)
        rw [← List.append_assoc] at hmore
        exact hgood failure hmore
      obtain ⟨before₁, h₁, hsame₁⟩ :=
        h.act? hceiling (husual act List.mem_cons_self) hact hfirst hgood₁
      obtain ⟨before₂, h₂, hsame₂⟩ :=
        ih h₁ (fun a ha ↦ husual a (List.mem_cons_of_mem act ha)) hrest hothers hgood
      refine ⟨before₂, h₂, fun hwindow ↦ ?_⟩
      rw [List.mem_cons, not_or] at hwindow
      exact (hsame₂ hwindow.2).trans (hsame₁ (Ne.symm hwindow.1))

/-- The messages that may be dispatched until a window ends, when so many were dispatched before it
began: as many more as the ceiling says, or all if it is zero. -/
def permitted (ceiling : UInt32) (before : Nat) (ms : List Message) : List Message :=
  if 0 < ceiling.toNat then ms.take (before + ceiling.toNat) else ms

section permitted

variable {ceiling : UInt32} {done ms : List Message}

theorem prefix_permitted (hfront : done <+: ms)
    (hle : 0 < ceiling.toNat → done.length ≤ before + ceiling.toNat) :
    done <+: permitted ceiling before ms := by
  rw [permitted]
  split
  · next hpos => exact List.prefix_take_iff.2 ⟨hfront, hle hpos⟩
  · exact hfront

theorem permitted_of_length_le
    (hle : 0 < ceiling.toNat → ms.length ≤ before + ceiling.toNat) :
    permitted ceiling before ms = ms := by
  rw [permitted]
  split
  · next hpos => exact List.take_of_length_le (hle hpos)
  · rfl

theorem permitted_append (hpos : 0 < ceiling.toNat)
    (hlength : done.length = before + ceiling.toNat) (ms : List Message) :
    permitted ceiling before (done ++ ms) = done := by
  rw [permitted, if_pos hpos]
  exact List.take_left' hlength

end permitted

section parsed

variable {data rest : Bytes} {ms : List Message}

/-- An endpoint that was disconnected for its rate had more messages than are permitted, and those
that are permitted were dispatched. -/
theorem Metered.spam_of_parse_ok (h : s.Metered b r g type data before)
    (hparse : g.protocol.parse g.registry data = .ok (ms, rest))
    (hspam : s.reason? b = some .spam) :
    s.dispatched b =
        (permitted g.protocol.maxRate before ms).map (fun m ↦ (m, g.registry.handles m type)) ∧
      0 < g.protocol.maxRate.toNat ∧ before + g.protocol.maxRate.toNat < ms.length := by
  cases h with
  | within reception received lost tally =>
      rw [(reception.open lost).reason?] at hspam
      cases hspam
  | exceeded ended dispatched taken more length pos =>
      obtain ⟨found, rfl, -⟩ := taken.parse_rest_ok hparse
      have hmore := List.length_pos_iff.2 more
      refine ⟨?_, pos, ?_⟩
      · rw [dispatched, List.append_assoc, permitted_append pos length]
      · simp only [List.length_append]
        omega

theorem Metered.prefix_of_parse_ok (h : s.Metered b r g type data before)
    (hparse : g.protocol.parse g.registry data = .ok (ms, rest)) :
    s.dispatched b <+:
      (permitted g.protocol.maxRate before ms).map fun m ↦ (m, g.registry.handles m type) := by
  cases h with
  | exceeded ended dispatched taken more length pos =>
      have hmetered : s.Metered b r g type data before :=
        .exceeded ended dispatched taken more length pos
      have hall := (hmetered.spam_of_parse_ok hparse ended.reason?).1
      exact hall ▸ List.prefix_refl _
  | @within p total d reception received lost tally =>
      subst received
      obtain ⟨x, -, hagrees⟩ := reception.endpoint
      obtain ⟨found, rfl, -⟩ := hagrees.taken.parse_rest_ok hparse
      have hlength := tally.dispatched
      rw [reception.dispatched, List.length_map] at hlength
      rw [reception.dispatched]
      refine (prefix_permitted ?_ fun hpos ↦ ?_).map _
      · rw [List.append_assoc]
        exact List.prefix_append _ _
      · rw [hlength]
        exact Nat.add_le_add_left (tally.below hpos) before

/-- When nothing is left to be done, all that are permitted were dispatched, and one more is what
the endpoint was disconnected for. -/
theorem Metered.drained_of_parse_ok (h : s.Metered b r g type data before)
    (hparse : g.protocol.parse g.registry data = .ok (ms, rest)) (hidle : s.Idle b r) :
    s.dispatched b =
        (permitted g.protocol.maxRate before ms).map (fun m ↦ (m, g.registry.handles m type)) ∧
      s.reason? b =
        if 0 < g.protocol.maxRate.toNat ∧ before + g.protocol.maxRate.toNat < ms.length then
          some .spam
        else none := by
  cases h with
  | exceeded ended dispatched taken more length pos =>
      have hmetered : s.Metered b r g type data before :=
        .exceeded ended dispatched taken more length pos
      obtain ⟨hdispatched, habove⟩ := hmetered.spam_of_parse_ok hparse ended.reason?
      exact ⟨hdispatched, by rw [if_pos habove]; exact ended.reason?⟩
  | @within p total d reception received lost tally =>
      subst received
      have hlength := tally.dispatched
      rw [reception.dispatched, List.length_map] at hlength
      rw [(reception.drained hidle).1, Except.ok.injEq, Prod.mk.injEq] at hparse
      obtain ⟨rfl, rfl⟩ := hparse
      have hle : 0 < g.protocol.maxRate.toNat →
          p.done.length ≤ before + g.protocol.maxRate.toNat := by
        intro hpos
        rw [hlength]
        exact Nat.add_le_add_left (tally.below hpos) before
      constructor
      · rw [permitted_of_length_le hle]
        exact reception.dispatched
      · rw [if_neg fun habove ↦ Nat.not_lt.2 (hle habove.1) habove.2]
        exact (reception.open lost).reason?

end parsed

/-- A window begins with nothing counted in it, and so with nothing dispatched. -/
theorem Tally.begins (h : s.Tally b g total before n d)
    (hbegins : ∀ y ∈ s.endpoint? b, y.rate.window = 0) :
    s.Tally b g total (s.dispatched b).length 0 0 := by
  obtain ⟨y, hy, htotal, hcount⟩ := h.rate
  have hle := h.counted
  have hlength := h.dispatched
  rw [hbegins y hy, Rate.countLimit, UInt32.toNat_zero] at hcount
  obtain rfl : n = 0 := by omega
  obtain rfl : d = 0 := by omega
  exact ⟨h.engine, ⟨y, hy, htotal, congrArg UInt32.toNat (hbegins y hy)⟩, rfl, Nat.le_refl 0,
    fun _ ↦ Nat.zero_le _⟩

theorem Metered.begins {data : Bytes} (h : s.Metered b r g type data before)
    (hnone : s.reason? b = none) (hbegins : ∀ y ∈ s.endpoint? b, y.rate.window = 0) :
    s.Metered b r g type data (s.dispatched b).length := by
  cases h with
  | exceeded ended =>
      rw [ended.reason?] at hnone
      cases hnone
  | within reception received lost tally =>
      exact .within reception received lost (tally.begins hbegins)

/-- Let a window begin for an endpoint, whatever came before, and let its ceiling be one that the
count can pass.  No more messages than the ceiling says are dispatched in the window, each was
counted, no act counts more than one, and the count of the window stops at its greatest value.  If
the endpoint is disconnected for nothing else and what it took is well-formed, then the messages are
dispatched in order up to the ceiling; the endpoint is disconnected for its rate if there is one
more, with those before it dispatched and nothing afterwards. -/
theorem rate_ceiling {before acts : List Act} {s₀ : Node} (h : s.Listens b r)
    (hx : s.endpoint? b = some x) (hfresh : x.rate.window = 0)
    (hceiling : (s.engine b).protocol.maxRate.toNat < Rate.countLimit)
    (husual : ∀ act ∈ before ++ acts, act.Usual r) (hbefore : s.run? before = some s₀)
    (hbegins : ∀ y ∈ s₀.endpoint? b, y.rate.window = 0) (hwindow : .renew b ∉ acts)
    (hrun : s₀.run? acts = some s') :
    (0 < (s.engine b).protocol.maxRate.toNat →
        (s'.dispatched b).length ≤ (s₀.dispatched b).length + (s.engine b).protocol.maxRate.toNat) ∧
      (∃ y z, s₀.endpoint? b = some y ∧ s'.endpoint? b = some z ∧
        x.rate.total + (s'.dispatched b).length ≤ z.rate.total ∧
        y.rate.total + (s'.dispatched b).length ≤ z.rate.total + (s₀.dispatched b).length ∧
        z.rate.window.toNat = min (z.rate.total - y.rate.total) Rate.countLimit ∧
        z.rate.total ≤ x.rate.total + (before ++ acts).length) ∧
      (s'.reason? b = some .spam → ∀ more s'', (∀ act ∈ more, act.Usual r) →
        s'.run? more = some s'' → s''.dispatched b = s'.dispatched b) ∧
      (s₀.reason? b = none → Along (Steady b) s₀ acts → ∀ ms rest,
        (s.engine b).parse (accepted b s (before ++ acts)) = .ok (ms, rest) →
        let allowed := (permitted (s.engine b).protocol.maxRate (s₀.dispatched b).length ms).map
          fun m ↦ (m, (s.engine b).registry.handles m x.type)
        let above := 0 < (s.engine b).protocol.maxRate.toNat ∧
          (s₀.dispatched b).length + (s.engine b).protocol.maxRate.toNat < ms.length
        s'.dispatched b <+: allowed ∧
          (s'.reason? b = some .spam → s'.dispatched b = allowed ∧ above) ∧
          (s'.Idle b r →
            s'.dispatched b = allowed ∧ s'.reason? b = if above then some .spam else none)) := by
  have hfirst : ∀ act ∈ before, act.Usual r := fun a ha ↦ husual a (List.mem_append_left _ ha)
  have hthen : ∀ act ∈ acts, act.Usual r := fun a ha ↦ husual a (List.mem_append_right _ ha)
  have hstart : s.Tally b (s.engine b) x.rate.total 0 0 0 := by
    refine ⟨rfl, ⟨x, hx, rfl, congrArg UInt32.toNat hfresh⟩, ?_, Nat.le_refl 0,
      fun _ ↦ Nat.zero_le _⟩
    rw [h.dispatched]
    rfl
  have hstands := h.open.run? hfirst hbefore
  obtain ⟨total, k, n₀, d₀, hcounted, hmore, hfew, -⟩ :=
    hstart.run? hceiling (.inl h.open) hfirst hbefore
  have hbegun := hcounted.begins hbegins
  obtain ⟨total', before', n, d, hends, -, hfew', hsame⟩ :=
    hbegun.run? hceiling hstands hthen hrun
  obtain ⟨rfl, rfl⟩ := hsame hwindow
  refine ⟨?_, ?_, ?_, ?_⟩
  · intro hpos
    rw [hends.dispatched]
    exact Nat.add_le_add_left (hends.below hpos) _
  · obtain ⟨y, hy, hytotal, -⟩ := hbegun.rate
    obtain ⟨z, hz, hztotal, hzcount⟩ := hends.rate
    have hlength := hends.dispatched
    have hlength₀ := hcounted.dispatched
    have hle := hends.counted
    have hle₀ := hcounted.counted
    obtain ⟨w, hw, hwtotal, -⟩ := hcounted.rate
    rw [hy, Option.some.injEq] at hw
    subst hw
    refine ⟨y, z, hy, hz, by omega, by omega, ?_, ?_⟩
    · rw [hzcount, hztotal, hytotal, Nat.add_zero, Nat.add_sub_cancel_left]
    · rw [List.length_append]
      omega
  · intro hspam more s'' hmore' hrun'
    rcases h.open.run? husual (run?_append.2 ⟨s₀, hbefore, hrun⟩) with hopen | ⟨reason, hended⟩
    · rw [hopen.reason?] at hspam
      cases hspam
    · rw [hended.reason?, Option.some.injEq] at hspam
      exact (hended.run? hmore' hrun').2 (hspam ▸ rfl)
  · intro hnone hsteady ms rest hparse
    rw [Engine.parse] at hparse
    have hgood : ∀ failure, (s.engine b).protocol.parse (s.engine b).registry
        ([] ++ accepted b s before) ≠ .error failure := by
      intro failure hfailure
      have hlater := Protocol.parse_error_append hfailure (accepted b s₀ acts)
      rw [List.nil_append, ← accepted_append hbefore, hparse] at hlater
      cases hlater
    have hempty : s.Metered b r (s.engine b) x.type [] 0 := .within (h.reception hx) rfl rfl hstart
    obtain ⟨k', hmetered, -⟩ := hempty.run? hceiling hfirst hbefore
      (h.open.steady hfirst hbefore hnone) hgood
    rw [List.nil_append] at hmetered
    rw [accepted_append hbefore] at hparse
    obtain ⟨k'', hmetered', hsame'⟩ := (hmetered.begins hnone hbegins).run? hceiling hthen hrun
      hsteady fun failure hfailure ↦ by rw [hparse] at hfailure; cases hfailure
    obtain rfl := hsame' hwindow
    exact ⟨hmetered'.prefix_of_parse_ok hparse, hmetered'.spam_of_parse_ok hparse,
      hmetered'.drained_of_parse_ok hparse⟩

end Node

namespace Specimen

/-- A connection that takes one message in each window. -/
def metered : Node where
  engine _ := {
    registry := { types := [reading], handlers := [((reading, .tcpConnection), failing)] }
    protocol := { masked with maxRate := 1 } }
  endpoints := [{
    type := ⟨.tcpConnection, ""⟩, state := .connected, handle := some (.dedicated 0) }]
  queues := [{ name := "peer" }]

/-- One message comes and is handled, and the next window begins. -/
def opening : List Act :=
  [.receive 0 [7, 0, 10, 0, 0, 0, 3, 0, 0, 0, 0, 0, 0, 0, 0, 95], .work (.dedicated 0),
    .work (.dedicated 0), .renew 0]

/-- Two messages come in this one, and the queue is worked off. -/
def surplus : List Act := batch ++ [.work (.dedicated 0), .work (.dedicated 0)]

theorem metered_listens : metered.Listens 0 (.dedicated 0) where
  panic := rfl
  endpoint := ⟨_, rfl, rfl, rfl, _, rfl, rfl⟩
  alone e x i he hx := by
    cases e with
    | zero => exact absurd rfl he
    | succ e =>
        rw [Node.endpoint?] at hx
        cases hx
  queue := ⟨{ name := "peer" }, rfl, rfl, by decide +kernel, fun _ h ↦ absurd h List.not_mem_nil⟩
  dispatched := rfl

end Specimen

/-- Of two messages in a window of one, the first is dispatched and the second ends the endpoint. -/
theorem Node.rate_ceiling_metered :
    ∃ s₀ s', Specimen.metered.run? Specimen.opening = some s₀ ∧
      s₀.run? Specimen.surplus = some s' ∧ (s'.dispatched 0).length ≤ 2 ∧
      s'.dispatched 0 = [(Specimen.second, true), (Specimen.first, true)] ∧
      s'.reason? 0 = some .spam ∧
      ∀ more s'', (∀ act ∈ more, act.Usual (.dedicated 0)) → s'.run? more = some s'' →
        s''.dispatched 0 = s'.dispatched 0 := by
  have hsome : (Specimen.metered.run? Specimen.opening).isSome = true := by decide +kernel
  obtain ⟨s₀, hs₀⟩ := Option.isSome_iff_exists.1 hsome
  have hbegins : ∀ s ∈ Specimen.metered.run? Specimen.opening,
      (∀ y ∈ s.endpoint? 0, y.rate.window = 0) ∧ s.reason? 0 = none ∧
        s.dispatched 0 = [(Specimen.second, true)] ∧ Along (Steady 0) s Specimen.surplus ∧
        (s.run? Specimen.surplus).isSome = true ∧
        ∀ s' ∈ s.run? Specimen.surplus, s'.Idle 0 (.dedicated 0) := by
    decide +kernel
  obtain ⟨hwindow, hnone, hdispatched, hsteady, hsome', hidle⟩ := hbegins s₀ hs₀
  obtain ⟨s', hs'⟩ := Option.isSome_iff_exists.1 hsome'
  have hparse : (Specimen.metered.engine 0).protocol.parse (Specimen.metered.engine 0).registry
      (accepted 0 Specimen.metered (Specimen.opening ++ Specimen.surplus)) =
        .ok ([Specimen.second, Specimen.first, Specimen.second], []) := by
    decide +kernel
  obtain ⟨hle, -, hstops, hup⟩ := rate_ceiling Specimen.metered_listens rfl rfl (by decide)
    (by decide) hs₀ hwindow (by decide) hs'
  rw [hdispatched] at hle hup
  obtain ⟨hall, hreason⟩ := (hup hnone hsteady _ _ hparse).2.2 (hidle s' hs')
  exact ⟨s₀, s', hs₀, hs', hle (by decide), hall, hreason, hstops hreason⟩

end MessageEngine
