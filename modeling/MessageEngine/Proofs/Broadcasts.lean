import Mathlib
import MessageEngine.Proofs.OutboundDrain
import MessageEngine.Proofs.StreamRoundTrip

/-!
# Broadcasts

Endpoints join a group and leave it, they are disconnected, and in between
frames are broadcast.  What the group puts in the outbox of an endpoint is
one copy of each frame that is broadcast while the endpoint is a member and
connected, and whoever is not connected when a frame is broadcast is a member
no longer.
-/

namespace MessageEngine

/-- What can happen to a group and to the endpoints that may belong to it. -/
inductive GroupCall
  | add (e : EndpointRef)
  | remove (e : EndpointRef)
  | clear
  | broadcast (data : Bytes)
  | broadcastMessage (m : Message)
  | disconnect (e : EndpointRef) (reason : DisconnectReason)
  deriving DecidableEq

/-- What a call leads to.  A panic ends with the call that came to it. -/
def Group.call (key : String) (s : Node) (g : Group) : GroupCall → Node
  | .add e => s.setGroup key (g.add e).1
  | .remove e => s.setGroup key (g.remove e).1
  | .clear => s.setGroup key g.clear
  | .broadcast data => (s.broadcast key g data).1
  | .broadcastMessage m => (s.broadcastMessage key g m).1
  | .disconnect e reason => { (s.disconnect e reason).1 with panic := none }

namespace Node

def groupCall (key : String) (s : Node) (call : GroupCall) : Node :=
  match s.group? key with
  | some g => g.call key s call
  | none => s

def groupCalls (key : String) (s : Node) (calls : List GroupCall) : Node :=
  calls.foldl (groupCall key) s

def members (key : String) (s : Node) : List EndpointRef :=
  match s.group? key with
  | some g => g.members
  | none => []

/-- The frames that wait in the outbox of an endpoint. -/
def queued (s : Node) (e : EndpointRef) : List Bytes :=
  match s.endpoint? e with
  | some x => x.outbox.frames
  | none => []

/-! ## What a history of calls should come to -/

/-- Who joins with a call. -/
def joining (key : String) (s : Node) : GroupCall → List EndpointRef
  | .add e => if e ∈ s.members key then [] else [e]
  | _ => []

/-- The frame that a call broadcasts.  A message is made one frame, by the protocol of the member
that joined first. -/
def broadcast? (key : String) (s : Node) : GroupCall → Option Bytes
  | .broadcast data => some data
  | .broadcastMessage m =>
    match s.members key with
    | first :: _ => (s.serializeFor first m).2.toOption
    | [] => none
  | _ => none

/-- Who leaves with a call, if a member. -/
def leaving (key : String) (s : Node) (e : EndpointRef) : GroupCall → Bool
  | .remove d => e = d
  | .clear => true
  | call => (s.broadcast? key call).isSome && !s.isConnected e

/-- The copies of the frame that an endpoint is to get with a call. -/
def copies (key : String) (e : EndpointRef) (s : Node) (call : GroupCall) : List Bytes :=
  if e ∈ s.members key ∧ s.isConnected e = true then (s.broadcast? key call).toList else []

/-- What is noted of each call and the node before it. -/
def noted {α : Type} (key : String) (note : Node → GroupCall → List α) :
    Node → List GroupCall → List α
  | _, [] => []
  | s, call :: calls => note s call ++ noted key note (s.groupCall key call) calls

/-- Whoever is connected puts frames in its outbox, and they are taken out. -/
def Receptive (s : Node) : Prop :=
  ∀ e x, s.endpoint? e = some x → x.state.isConnected = true →
    x.outbox.filling = true ∧ x.outbox.draining = true

variable {key : String} {s s' : Node} {e : EndpointRef} {x : Endpoint} {g : Group}

/-! ## What is found after a change -/

@[simp] theorem group?_setGroup : (s.setGroup key g).group? key = some g := by
  simp [group?, setGroup]

@[simp] theorem members_setGroup : (s.setGroup key g).members key = g.members := by
  simp [members]

theorem members_of_group? (hg : s.group? key = some g) : s.members key = g.members := by
  rw [members, hg]

theorem queued_of_endpoint? (hx : s.endpoint? e = some x) : s.queued e = x.outbox.frames := by
  rw [queued, hx]

theorem queued_congr (h : s'.endpoint? e = s.endpoint? e) : s'.queued e = s.queued e := by
  rw [queued, queued, h]

theorem isConnected_congr (h : s'.endpoint? e = s.endpoint? e) :
    s'.isConnected e = s.isConnected e := by
  rw [isConnected, isConnected, h]

theorem Receptive.setEndpoint (h : s.Receptive) (hx : s.endpoint? e = some x) {y : Endpoint}
    (hstate : y.state = x.state) (hfilling : y.outbox.filling = x.outbox.filling)
    (hdraining : y.outbox.draining = x.outbox.draining) : (s.setEndpoint e y).Receptive := by
  intro d z hz hconnected
  by_cases hd : e = d
  · subst hd
    rw [s.endpoint?_setEndpoint_self e hx, Option.some.injEq] at hz
    subst hz
    rw [hfilling, hdraining]
    exact h e x hx (hstate ▸ hconnected)
  · rw [s.endpoint?_setEndpoint_of_ne hd] at hz
    exact h d z hz hconnected

theorem Receptive.sendBytes (h : s.Receptive) (hx : s.endpoint? e = some x)
    (hconnected : x.state.isConnected = true) (data : Bytes) :
    s.sendBytes e data = (s.setEndpoint e
      { x with outbox := { x.outbox with frames := x.outbox.frames ++ [data] } }, .ok ()) := by
  obtain ⟨hfilling, hdraining⟩ := h e x hx hconnected
  simp [Node.sendBytes, hx, Endpoint.put, Outbox.put, hconnected, hfilling, hdraining]

/-- Each of some endpoints that are connected takes one copy. -/
theorem Receptive.sendToAll {es : List EndpointRef} (h : s.Receptive) (hnodup : es.Nodup)
    (hconnected : ∀ e ∈ es, s.isConnected e = true) (data : Bytes) :
    (s.sendToAll data es).2 = es.length ∧ (s.sendToAll data es).1.Receptive ∧
      (s.sendToAll data es).1.groups = s.groups ∧
      ∀ e, (s.sendToAll data es).1.queued e = s.queued e ++ if e ∈ es then [data] else [] := by
  induction es generalizing s with
  | nil => simp [Node.sendToAll, h]
  | cons d es ih =>
      obtain ⟨hd, hnodup⟩ := List.nodup_cons.1 hnodup
      obtain ⟨x, hx, hstate⟩ : ∃ x, s.endpoint? d = some x ∧ x.state.isConnected = true := by
        have hfirst := hconnected d List.mem_cons_self
        rw [isConnected] at hfirst
        split at hfirst
        · next x hx => exact ⟨x, hx, hfirst⟩
        · cases hfirst
      have hsent := h.sendBytes hx hstate data
      have hothers : ∀ e, d ≠ e → (s.sendBytes d data).1.endpoint? e = s.endpoint? e := by
        intro e he
        rw [hsent]
        exact s.endpoint?_setEndpoint_of_ne he _
      have hself : (s.sendBytes d data).1.queued d = s.queued d ++ [data] := by
        rw [hsent, queued_of_endpoint? hx]
        exact queued_of_endpoint? (s.endpoint?_setEndpoint_self d hx _)
      have hreceptive : (s.sendBytes d data).1.Receptive := by
        rw [hsent]
        exact h.setEndpoint hx rfl rfl rfl
      have hgroups : (s.sendBytes d data).1.groups = s.groups := by
        rw [hsent]
        rfl
      have hok : (s.sendBytes d data).2.isOk = true := by
        rw [hsent]
        rfl
      have hrest : ∀ e ∈ es, (s.sendBytes d data).1.isConnected e = true := by
        intro e he
        rw [isConnected_congr (hothers e fun heq ↦ hd (heq ▸ he))]
        exact hconnected e (List.mem_cons_of_mem d he)
      obtain ⟨hcount, hreceptive', hgroups', hqueued⟩ := ih hreceptive hnodup hrest
      refine ⟨?_, hreceptive', hgroups'.trans hgroups, fun e ↦ ?_⟩
      · simp [Node.sendToAll, hok, hcount]
      · refine (hqueued e).trans ?_
        by_cases he : d = e
        · subst he
          simp [hself, hd]
        · rw [queued_congr (hothers e he)]
          simp [Ne.symm he]

/-- A frame went to the members that are connected, and the others are members no longer. -/
structure Spreads (key : String) (g : Group) (data : Bytes) (count : Nat) (s s' : Node) : Prop where
  group : s'.group? key = some { g with members := g.members.filter s.isConnected }
  count : count = (g.members.filter s.isConnected).length
  queued : ∀ e, s'.queued e =
    s.queued e ++ if e ∈ g.members ∧ s.isConnected e = true then [data] else []
  receptive : s'.Receptive
  panic : s'.panic = s.panic

theorem Receptive.broadcast (h : s.Receptive) (hnodup : g.members.Nodup) (data : Bytes) :
    Spreads key g data (s.broadcast key g data).2 s (s.broadcast key g data).1 := by
  have hconnected : ∀ e ∈ g.members.filter s.isConnected, s.isConnected e = true := fun e he ↦
    (List.mem_filter.1 he).2
  have hopen : (s.setGroup key { g with members := g.members.filter s.isConnected }).Receptive := h
  obtain ⟨hcount, hreceptive, hgroups, hqueued⟩ :=
    hopen.sendToAll (hnodup.filter _) hconnected data
  refine ⟨?_, hcount, fun e ↦ ?_, hreceptive, ?_⟩
  · rw [group?, Node.broadcast, hgroups]
    exact group?_setGroup
  · refine (hqueued e).trans ?_
    simp only [List.mem_filter]
    rfl
  · exact (Sends.sendToAll _ data _).panic

/-- Making a frame changes nothing but the number of the next one. -/
theorem Receptive.serializeFor (h : s.Receptive) (e : EndpointRef) (m : Message) :
    (s.serializeFor e m).1.Receptive ∧ (s.serializeFor e m).1.groups = s.groups ∧
      (∀ d, (s.serializeFor e m).1.queued d = s.queued d) ∧
      (∀ d, (s.serializeFor e m).1.isConnected d = s.isConnected d) := by
  rw [Node.serializeFor]
  split
  · exact ⟨h, rfl, fun _ ↦ rfl, fun _ ↦ rfl⟩
  · next x hx =>
    have hself := s.endpoint?_setEndpoint_self e hx { x with frames := x.frames + 1 }
    refine ⟨h.setEndpoint hx rfl rfl rfl, rfl, fun d ↦ ?_, fun d ↦ ?_⟩
    · by_cases hd : e = d
      · subst hd
        rw [queued_of_endpoint? hself, queued_of_endpoint? hx]
      · exact queued_congr (s.endpoint?_setEndpoint_of_ne hd _)
    · by_cases hd : e = d
      · subst hd
        simp only [isConnected, hself, hx]
      · exact isConnected_congr (s.endpoint?_setEndpoint_of_ne hd _)

theorem broadcastMessage_of_ok {first : EndpointRef} {rest : List EndpointRef} {m : Message}
    {data : Bytes} (hfirst : g.members = first :: rest)
    (hdata : (s.serializeFor first m).2 = .ok data) :
    s.broadcastMessage key g m = (((s.serializeFor first m).1.broadcast key g data).1,
      .ok ((s.serializeFor first m).1.broadcast key g data).2) := by
  have hframed : s.serializeFor first m = ((s.serializeFor first m).1, .ok data) :=
    Prod.ext rfl hdata
  rw [broadcastMessage, hfirst]
  dsimp only
  rw [hframed]

theorem broadcastMessage_of_error {first : EndpointRef} {rest : List EndpointRef} {m : Message}
    {cause : EngineError} (hfirst : g.members = first :: rest)
    (hdata : (s.serializeFor first m).2 = .error cause) :
    s.broadcastMessage key g m = ((s.serializeFor first m).1, .error cause) := by
  have hfailed : s.serializeFor first m = ((s.serializeFor first m).1, .error cause) :=
    Prod.ext rfl hdata
  rw [broadcastMessage, hfirst]
  dsimp only
  rw [hfailed]

/-- A message is made one frame for all, or nothing happens. -/
theorem Receptive.broadcastMessage (h : s.Receptive) (hg : s.group? key = some g)
    (hnodup : g.members.Nodup) (m : Message) :
    (∃ data count, s.broadcast? key (.broadcastMessage m) = some data ∧
        (s.broadcastMessage key g m).2 = .ok count ∧
        Spreads key g data count s (s.broadcastMessage key g m).1) ∨
      s.broadcast? key (.broadcastMessage m) = none ∧
        (g.members = [] ∧ (s.broadcastMessage key g m).2 = .ok 0 ∨
          ∃ cause, (s.broadcastMessage key g m).2 = .error cause) ∧
        (s.broadcastMessage key g m).1.group? key = some g ∧
        (∀ e, (s.broadcastMessage key g m).1.queued e = s.queued e) ∧
        (s.broadcastMessage key g m).1.Receptive := by
  have hmembers := members_of_group? hg
  cases hfirst : g.members with
  | nil =>
      refine .inr ?_
      simp [broadcast?, Node.broadcastMessage, hmembers, hfirst, hg, h]
  | cons first rest =>
      obtain ⟨hreceptive, hgroups, hqueued, hconnected⟩ := h.serializeFor first m
      have hframe : s.broadcast? key (.broadcastMessage m) =
          (s.serializeFor first m).2.toOption := by
        rw [broadcast?, hmembers, hfirst]
      cases hdata : (s.serializeFor first m).2 with
      | error cause =>
          rw [hframe, hdata, broadcastMessage_of_error hfirst hdata]
          refine .inr ⟨rfl, .inr ⟨cause, rfl⟩, ?_, hqueued, hreceptive⟩
          rw [group?, hgroups]
          exact hg
      | ok data =>
          have hspread : Spreads key g data _ _ _ := hreceptive.broadcast hnodup data
          obtain ⟨hgroup, hcount, hcopies, hopen, hpanic⟩ := hspread
          have hsame : (s.serializeFor first m).1.isConnected = s.isConnected :=
            funext hconnected
          rw [hsame] at hgroup hcount
          rw [hframe, hdata, broadcastMessage_of_ok hfirst hdata]
          refine .inl ⟨data, _, rfl, rfl, hgroup, hcount, fun e ↦ ?_, hopen,
            hpanic.trans (Sends.serializeFor s first m).panic⟩
          rw [hcopies e, hqueued e, hsame]

theorem groups_disconnect (s : Node) (e : EndpointRef) (reason : DisconnectReason) :
    (s.disconnect e reason).1.groups = s.groups :=
  s.disconnect_keeps e (fun _ r _ ↦ by cases r <;> rfl) (fun _ _ ↦ rfl) (fun _ _ _ ↦ rfl)
    (fun _ _ _ ↦ rfl) (fun _ _ ↦ rfl) reason

/-- A disconnect leaves the frames that wait, and whoever is still connected takes more. -/
theorem Receptive.disconnect (h : s.Receptive) (hpanic : s.panic = none) (e : EndpointRef)
    (reason : DisconnectReason) :
    (s.disconnect e reason).1.Receptive ∧
      ∀ d, (s.disconnect e reason).1.queued d = s.queued d := by
  have hothers : ∀ d, e ≠ d → (s.disconnect e reason).1.endpoint? d = s.endpoint? d :=
    fun d hd ↦ s.endpoint?_disconnect_of_ne hd reason
  cases hx : s.endpoint? e with
  | none =>
      rw [Node.disconnect_eq, hx]
      exact ⟨h, fun _ ↦ rfl⟩
  | some x =>
      obtain ⟨x', hx', hframes, hdraining⟩ := s.outbox_disconnect e hx reason
      constructor
      · intro d y hy hconnected
        by_cases hd : e = d
        · subst hd
          rw [hx', Option.some.injEq] at hy
          subst hy
          rcases Passes.disconnect hpanic e reason with hleaves | ⟨handle, hparts⟩
          · obtain ⟨z, hz, hstate, -, -, hfilling⟩ := hleaves.endpoint hx
            rw [hx', Option.some.injEq] at hz
            subst hz
            rw [hfilling, hdraining]
            exact h e x hx (hstate ▸ hconnected)
          · -- who parts with its queue is not connected behind that
            obtain ⟨last, hafter⟩ := hparts.after
            rw [hx', Option.map_some, Option.some.injEq] at hafter
            have hstate : x'.state = _ := congrArg Stance.state hafter
            rw [hstate] at hconnected
            dsimp only at hconnected
            split at hconnected <;> cases hconnected
        · rw [hothers d hd] at hy
          exact h d y hy hconnected
      · intro d
        by_cases hd : e = d
        · subst hd
          rw [queued_of_endpoint? hx', queued_of_endpoint? hx, hframes]
        · exact queued_congr (hothers d hd)

/-! ## One call -/

/-- Who joins goes behind the others, and nobody leaves. -/
theorem filter_dedup_concat {joined members : List EndpointRef} (he : e ∉ members) :
    (joined ++ [e]).dedup.filter (· ∈ members ++ [e]) =
      joined.dedup.filter (· ∈ members) ++ [e] := by
  induction joined with
  | nil => simp
  | cons d joined ih =>
      by_cases hd : d ∈ joined
      · rw [List.cons_append, List.dedup_cons_of_mem (List.mem_append_left _ hd),
          List.dedup_cons_of_mem hd]
        exact ih
      · by_cases hde : d = e
        · -- an earlier stay of the same endpoint no longer counts
          subst hde
          have hagain : d ∈ joined ++ [d] := List.mem_append_right _ (List.mem_singleton_self d)
          rw [List.cons_append, List.dedup_cons_of_mem hagain, List.dedup_cons_of_notMem hd, ih]
          simp [he]
        · have hnew : d ∉ joined ++ [e] := by
            simp [hd, hde]
          rw [List.cons_append, List.dedup_cons_of_notMem hnew, List.dedup_cons_of_notMem hd,
            List.filter_cons, List.filter_cons, ih]
          simp only [List.mem_append, List.mem_singleton, hde, or_false]
          split <;> rfl

/-- The members are in the order in which they joined, each where it joined last. -/
structure Assembly (key : String) (joined : List EndpointRef) (s : Node) : Prop where
  panic : s.panic = none
  group : (s.group? key).isSome = true
  ordered : s.members key = joined.dedup.filter (· ∈ s.members key)
  receptive : s.Receptive

variable {joined : List EndpointRef}

theorem Assembly.nodup (h : s.Assembly key joined) : (s.members key).Nodup := by
  rw [h.ordered]
  exact (List.nodup_dedup joined).filter _

theorem Assembly.ordered_filter (h : s.Assembly key joined) (stays : EndpointRef → Bool) :
    (s.members key).filter stays =
      joined.dedup.filter (· ∈ (s.members key).filter stays) := by
  conv_lhs => rw [h.ordered, List.filter_filter]
  refine List.filter_congr fun d _ ↦ ?_
  simp [List.mem_filter, Bool.and_comm]

/-- A call does to members and outboxes what it should. -/
structure Complies (key : String) (call : GroupCall) (s s' : Node) : Prop where
  panic : s'.panic = none
  group : (s'.group? key).isSome = true
  receptive : s'.Receptive
  members : s'.members key = (s.members key).filter (!s.leaving key · call) ++ s.joining key call
  queued : ∀ e, s'.queued e = s.queued e ++ s.copies key e call

theorem Complies.setGroup {call : GroupCall} {g' : Group} (hpanic : s.panic = none)
    (hopen : s.Receptive) (hsilent : s.broadcast? key call = none)
    (hmembers : g'.members =
      (s.members key).filter (!s.leaving key · call) ++ s.joining key call) :
    Complies key call s (s.setGroup key g') := by
  refine ⟨hpanic, by simp, hopen, by simpa using hmembers, fun e ↦ ?_⟩
  simp only [copies, hsilent, Option.toList_none, ite_self, List.append_nil]
  rfl

theorem Complies.spreads {call : GroupCall} {data : Bytes} {count : Nat}
    (hg : s.group? key = some g) (hpanic : s.panic = none)
    (hframe : s.broadcast? key call = some data)
    (hleaving : ∀ e, s.leaving key e call = !s.isConnected e) (hjoining : s.joining key call = [])
    (hspread : Spreads key g data count s s') : Complies key call s s' := by
  refine ⟨hspread.panic.trans hpanic, by simp [hspread.group], hspread.receptive, ?_, fun e ↦ ?_⟩
  · simp [members_of_group? hspread.group, members_of_group? hg, hleaving, hjoining]
  · rw [hspread.queued e, copies, hframe, members_of_group? hg]
    rfl

theorem Assembly.complies (h : s.Assembly key joined) (call : GroupCall) :
    Complies key call s (s.groupCall key call) := by
  obtain ⟨g, hg⟩ := Option.isSome_iff_exists.1 h.group
  have hmembers := members_of_group? hg
  have hnodup : g.members.Nodup := hmembers ▸ h.nodup
  have hcall : s.groupCall key call = g.call key s call := by
    rw [groupCall, hg]
  rw [hcall]
  cases call with
  | add d =>
      refine .setGroup h.panic h.receptive rfl ?_
      rw [Group.add, joining, hmembers]
      split <;> simp [leaving, broadcast?]
  | remove d =>
      refine .setGroup h.panic h.receptive rfl ?_
      simp [Group.remove, leaving, joining, hmembers, bne, beq_eq_decide]
  | clear =>
      refine .setGroup h.panic h.receptive rfl ?_
      simp [Group.clear, leaving, joining]
  | broadcast data =>
      exact .spreads hg h.panic rfl (fun e ↦ by simp [leaving, broadcast?]) rfl
        (h.receptive.broadcast hnodup data)
  | broadcastMessage m =>
      rcases h.receptive.broadcastMessage hg hnodup m with
        ⟨data, count, hframe, -, hspread⟩ | ⟨hnone, -, hgroup, hqueued, hopen⟩
      · exact .spreads hg h.panic hframe (fun e ↦ by simp [leaving, hframe]) rfl hspread
      · refine ⟨(Sends.broadcastMessage s key g m).panic.trans h.panic, ?_, hopen, ?_, fun e ↦ ?_⟩
        · exact Option.isSome_iff_exists.2 ⟨g, hgroup⟩
        · simp only [Group.call, members_of_group? hgroup, hmembers, leaving, hnone, joining]
          simp
        · rw [copies, hnone, Option.toList_none, ite_self, List.append_nil]
          exact hqueued e
  | disconnect d reason =>
      obtain ⟨hopen, hqueued⟩ := h.receptive.disconnect h.panic d reason
      have hgroup : ∀ text, { (s.disconnect d reason).1 with panic := text }.group? key =
          some g := by
        intro text
        rw [← hg, group?, group?, s.groups_disconnect]
      refine ⟨rfl, ?_, hopen, ?_, fun e ↦ ?_⟩
      · exact Option.isSome_iff_exists.2 ⟨g, hgroup none⟩
      · simp [Group.call, members_of_group? (hgroup none), hmembers, leaving, broadcast?, joining]
      · simp only [copies, broadcast?, Option.toList_none, ite_self, List.append_nil]
        exact hqueued e

theorem Assembly.groupCall (h : s.Assembly key joined) (call : GroupCall) :
    (s.groupCall key call).Assembly key (joined ++ s.joining key call) := by
  obtain ⟨hpanic, hgroup, hopen, hmembers, -⟩ := h.complies call
  refine ⟨hpanic, hgroup, ?_, hopen⟩
  rw [hmembers]
  by_cases hjoins : s.joining key call = []
  · rw [hjoins, List.append_nil, List.append_nil]
    exact h.ordered_filter _
  · cases call with
    | add d =>
        have hnew : d ∉ s.members key := fun hd ↦ hjoins (by rw [joining, if_pos hd])
        have hall : (s.members key).filter (!s.leaving key · (.add d)) = s.members key := by
          simp [leaving, broadcast?]
        rw [hall, joining, if_neg hnew, filter_dedup_concat hnew, ← h.ordered]
    | _ => exact absurd rfl hjoins

/-! ## Any row of calls -/

theorem Assembly.groupCalls (h : s.Assembly key joined) (calls : List GroupCall) :
    (s.groupCalls key calls).Assembly key (joined ++ noted key (joining key) s calls) ∧
      ∀ e, (s.groupCalls key calls).queued e = s.queued e ++ noted key (copies key e) s calls := by
  induction calls generalizing s joined with
  | nil =>
      rw [noted, List.append_nil]
      exact ⟨h, fun e ↦ (List.append_nil _).symm⟩
  | cons call calls ih =>
      obtain ⟨hrest, hqueued⟩ := ih (h.groupCall call)
      refine ⟨?_, fun e ↦ ?_⟩
      · rw [noted, ← List.append_assoc]
        exact hrest
      · rw [noted, ← List.append_assoc, ← (h.complies call).queued e]
        exact hqueued e

/-- Let a group be made whose members are distinct, and let whoever is connected have an outbox that
is in use at both ends.  After any calls the members are distinct and in the order in which they
joined; what was put in the outbox of an endpoint is one copy of each frame that was broadcast
while it was a connected member, in order.  The next call takes out of the group whom it should
take out and nobody else; a broadcast answers how many there are to get the frame, and if there is
no frame, because the message cannot be serialized or nobody is a member, it does nothing. -/
theorem broadcasts_of_run (hpanic : s.panic = none) (hgroup : s.group? key = some g)
    (hnodup : g.members.Nodup) (hopen : s.Receptive) (calls : List GroupCall) :
    let s' := s.groupCalls key calls
    (s'.members key).Nodup ∧
      s'.members key = (g.members ++ noted key (joining key) s calls).dedup.filter
        (· ∈ s'.members key) ∧
      (∀ e, s'.queued e = s.queued e ++ noted key (copies key e) s calls) ∧
      (∀ call, (s'.groupCall key call).members key =
        (s'.members key).filter (!s'.leaving key · call) ++ s'.joining key call) ∧
      ∃ g', s'.group? key = some g' ∧ s'.members key = g'.members ∧
        (∀ data, (s'.broadcast key g' data).2 = (g'.members.filter s'.isConnected).length) ∧
        ∀ m, (∃ data, s'.broadcast? key (.broadcastMessage m) = some data ∧
            (s'.broadcastMessage key g' m).2 =
              .ok (g'.members.filter s'.isConnected).length) ∨
          (g'.members = [] ∧ (s'.broadcastMessage key g' m).2 = .ok 0 ∨
              ∃ cause, (s'.broadcastMessage key g' m).2 = .error cause) ∧
            (s'.broadcastMessage key g' m).1.members key = g'.members ∧
            ∀ e, (s'.broadcastMessage key g' m).1.queued e = s'.queued e := by
  have hbegin : s.Assembly key g.members := by
    refine ⟨hpanic, Option.isSome_iff_exists.2 ⟨g, hgroup⟩, ?_, hopen⟩
    rw [members_of_group? hgroup, hnodup.dedup]
    exact (List.filter_eq_self.2 fun e he ↦ decide_eq_true he).symm
  obtain ⟨hends, hqueued⟩ := hbegin.groupCalls calls
  obtain ⟨g', hg'⟩ := Option.isSome_iff_exists.1 hends.group
  have hmembers := members_of_group? hg'
  have hnodup' : g'.members.Nodup := hmembers ▸ hends.nodup
  refine ⟨hends.nodup, hends.ordered, hqueued, fun call ↦ (hends.complies call).members, g', hg',
    hmembers, fun data ↦ ?_, fun m ↦ ?_⟩
  · have hspread : Spreads key g' data _ _ _ := hends.receptive.broadcast hnodup' data
    exact hspread.count
  · rcases hends.receptive.broadcastMessage hg' hnodup' m with
      ⟨data, count, hframe, hanswer, hspread⟩ | ⟨-, hanswer, hsame, hqueued', -⟩
    · exact .inl ⟨data, hframe, hspread.count ▸ hanswer⟩
    · exact .inr ⟨hanswer, members_of_group? hsame, hqueued'⟩

end Node

namespace Specimen

def attending (i : Nat) : Endpoint where
  type := ⟨.tcpConnection, ""⟩
  state := .connected
  handle := some (.dedicated i)
  outbox := .fresh

/-- Three connections and a group that nobody has joined yet. -/
def hall : Node where
  engine _ := { registry := { types := [reading] }, protocol := masked }
  endpoints := [attending 0, attending 1, attending 2]
  queues := [{ name := "a" }, { name := "b" }, { name := "c" }]
  groups := [("all", {})]

/-- One leaves and comes back, and one is disconnected. -/
def session : List GroupCall :=
  [.add 0, .add 1, .add 0, .broadcast [1], .add 2, .disconnect 1 .requested, .remove 0, .add 0,
    .broadcastMessage second]

theorem hall_receptive : hall.Receptive := by
  intro e x hx _
  have hfresh : ∀ y ∈ hall.endpoints, y.outbox.filling = true ∧ y.outbox.draining = true := by
    decide
  exact hfresh x (List.mem_of_getElem? hx)

end Specimen

/-- Who came back is behind who stayed, and who was disconnected gets no frame any more. -/
theorem Node.broadcasts_of_run_session :
    (Specimen.hall.groupCalls "all" Specimen.session).members "all" = [2, 0] ∧
      (Specimen.hall.groupCalls "all" Specimen.session).queued 0 =
        [[1], [7, 0, 10, 0, 0, 0, 3, 0, 0, 0, 0, 0, 0, 0, 0, 95]] ∧
      (Specimen.hall.groupCalls "all" Specimen.session).queued 1 = [[1]] ∧
      (Specimen.hall.groupCalls "all" Specimen.session).queued 2 =
        [[7, 0, 10, 0, 0, 0, 3, 0, 0, 0, 0, 0, 0, 0, 0, 95]] := by
  have hgroup : Specimen.hall.group? "all" = some {} := rfl
  obtain ⟨-, hordered, hqueued, -⟩ := broadcasts_of_run rfl hgroup List.nodup_nil
    Specimen.hall_receptive Specimen.session
  refine ⟨hordered.trans ?_, (hqueued 0).trans ?_, (hqueued 1).trans ?_, (hqueued 2).trans ?_⟩
  · decide +kernel
  · decide +kernel
  · decide +kernel
  · decide +kernel

end MessageEngine
