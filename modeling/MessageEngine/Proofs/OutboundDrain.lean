import Mathlib
import MessageEngine.Proofs.OutboundFrames
import MessageEngine.Proofs.Parting

/-!
# How an outbox is drained

Frames are put in the outbox of an endpoint, its link writes them, the
carrier may refuse any of them, and the endpoint may be disconnected at any
time.  What the carrier was offered is what was sent, in order: all of it
unless a frame is refused, and then all up to that frame.

A send, a disconnect and a turn of the writer's loop are one step each, and
the results are about every order of these steps.  What threads do to each
other within one call, such as a disconnect between the look at the state and
the entry in the outbox, is not modelled.
-/

namespace MessageEngine

/-- An endpoint with the link that its frames go out on. -/
structure Outlet where
  node : Node
  link : Link
  /-- The data of the sends that were answered without an error. -/
  accepted : List Bytes := []
  /-- The reason of the disconnect by a call, if that was the first. -/
  parted : Option DisconnectReason := none

/-- What can happen at an outlet. -/
inductive Outgoing
  | send (m : Message)
  | sendBytes (data : Bytes)
  | disconnect (reason : DisconnectReason)
  /-- The writer takes a step. -/
  | write
  /-- The carrier refuses what it is offered from now on, or takes it again. -/
  | fault (text : Option String)
  deriving DecidableEq

namespace Outlet

/-- The data of a send, if it was answered without an error. -/
def sent (data : Except EngineError Bytes) (answer : Except EngineError Unit) : List Bytes :=
  match answer, data with
  | .ok _, .ok data => [data]
  | _, _ => []

def step? (o : Outlet) : Outgoing → Option Outlet
  | .send m =>
    some { o with
      node := (o.node.send o.link.endpoint m).1
      accepted := o.accepted ++
        sent (o.node.serializeFor o.link.endpoint m).2 (o.node.send o.link.endpoint m).2 }
  | .sendBytes data =>
    some { o with
      node := (o.node.sendBytes o.link.endpoint data).1
      accepted := o.accepted ++ sent (.ok data) (o.node.sendBytes o.link.endpoint data).2 }
  | .disconnect reason =>
    some { o with
      node := (o.node.disconnect o.link.endpoint reason).1
      parted := if (o.node.disconnect o.link.endpoint reason).2 then some reason else o.parted }
  | .write => (o.link.writeStep? o.node).map fun (s, l) ↦ { o with node := s, link := l }
  | .fault text => some { o with link := { o.link with fault := text } }

def run? (o : Outlet) (steps : List Outgoing) : Option Outlet := steps.foldlM step? o

/-- How far the writer has come, of an endpoint as it is. -/
inductive Stage (o : Outlet) (x : Endpoint) : Prop
  /-- What was not written yet waits in the outbox. -/
  | writing (written : List Bytes) (writing : o.link.writing = true)
    (offers : o.link.offers = written.map .written)
    (accepted : o.accepted = written ++ x.outbox.frames)
    (filling : x.outbox.filling = x.reason.isNone) (reason : x.reason = o.parted)
  /-- All was written. -/
  | drained (stopped : o.link.writing = false) (closed : x.outbox.draining = false)
    (offers : o.link.offers = o.accepted.map .written ++ [.shutdown])
    (parted : o.parted.isSome = true) (reason : x.reason = o.parted)
  /-- A frame was refused, and nothing was written behind it. -/
  | refused (written : List Bytes) (frame : Bytes) (stopped : o.link.writing = false)
    (closed : x.outbox.draining = false)
    (offers : o.link.offers = written.map .written ++ [.refused frame, .shutdown])
    (accepted : written ++ [frame] <+: o.accepted)
    (reason : x.reason = some (o.parted.getD .invalidMessageSent))

/-- The outlet is in use, or was, and its endpoint is disconnected if it has a reason. -/
structure InOrder (o : Outlet) : Prop where
  panic : o.node.panic = none
  endpoint : ∃ x, o.node.endpoint? o.link.endpoint = some x ∧ o.Stage x ∧
    (x.reason = none → o.node.hindrance? x.handle = none) ∧
    (x.reason.isSome = true → x.state = .disconnected)

end Outlet

namespace Node

variable {s : Node} {e : EndpointRef} {x : Endpoint}

theorem sendBytes_cases (hx : s.endpoint? e = some x) (data : Bytes) :
    ∃ x', (s.sendBytes e data).1.endpoint? e = some x' ∧
      (((s.sendBytes e data).2 = .ok () ∧ x.outbox.draining = true ∧
          x'.outbox = { x.outbox with frames := x.outbox.frames ++ [data] }) ∨
        ((∃ cause, (s.sendBytes e data).2 = .error cause) ∧ x'.outbox = x.outbox)) := by
  simp only [sendBytes, hx]
  cases hput : x.put data with
  | error cause => exact ⟨x, hx, .inr ⟨⟨_, rfl⟩, rfl⟩⟩
  | ok y =>
      refine ⟨y, s.endpoint?_setEndpoint_self e hx y, .inl ⟨rfl, ?_⟩⟩
      rw [Endpoint.put] at hput
      split at hput
      · split at hput
        · next o ho =>
          cases hput
          rw [Outbox.put] at ho
          split at ho
          · cases ho
          · split at ho
            · cases ho
            · next hdraining =>
              cases ho
              exact ⟨by simpa using hdraining, rfl⟩
        · cases hput
      · cases hput

theorem takeFrame?_of_nil (hx : s.endpoint? e = some x) (hframes : x.outbox.frames = []) :
    s.takeFrame? e = none := by
  simp only [takeFrame?, hx, hframes]

theorem takeFrame?_of_cons {frame : Bytes} {rest : List Bytes} (hx : s.endpoint? e = some x)
    (hframes : x.outbox.frames = frame :: rest) :
    s.takeFrame? e =
      some (s.setEndpoint e { x with outbox := { x.outbox with frames := rest } }, frame) := by
  simp only [takeFrame?, hx, hframes]

/-- The first disconnect keeps the frames that wait. -/
theorem disconnect_of_unhindered (hpanic : s.panic = none) (hx : s.endpoint? e = some x)
    (hreason : x.reason = none) (hhindrance : s.hindrance? x.handle = none)
    (reason : DisconnectReason) :
    (s.disconnect e reason).2 = true ∧ (s.disconnect e reason).1.panic = none ∧
      ∃ x', (s.disconnect e reason).1.endpoint? e = some x' ∧ x'.state = .disconnected ∧
        x'.reason = some reason ∧ x'.outbox = x.outbox.finish := by
  obtain ⟨hanswer, htext⟩ := disconnect_answer hpanic hx hreason reason
  rw [hhindrance] at hanswer htext
  obtain ⟨x', hx', hgiven, houtbox, -⟩ := s.endpoint?_disconnect e hx hreason reason
  obtain ⟨other, hafter⟩ := (Parts.disconnect hpanic hx hreason reason).after
  rw [hx', Option.map_some, Option.some.injEq, hhindrance] at hafter
  exact ⟨hanswer, htext, x', hx', congrArg Stance.state hafter, hgiven, houtbox⟩

end Node

namespace Outlet

open Node

variable {o o' : Outlet} {x x' : Endpoint}

theorem InOrder.sends (h : o.InOrder) {s : Node} {data : List Bytes}
    (hleaves : Leaves o.node s) (hpanic : s.panic = o.node.panic)
    (hsent : ∀ x, o.node.endpoint? o.link.endpoint = some x →
      ∃ x', s.endpoint? o.link.endpoint = some x' ∧
        ((x.outbox.draining = true ∧ x'.outbox = { x.outbox with
            frames := x.outbox.frames ++ data }) ∨ (data = [] ∧ x'.outbox = x.outbox))) :
    InOrder { o with node := s, accepted := o.accepted ++ data } := by
  obtain ⟨x, hx, hstage, hhindrance, hended⟩ := h.endpoint
  obtain ⟨x', hx', hsame⟩ := hsent x hx
  obtain ⟨x₁, hx₁, hstate, hreason, hhandle, hfilling⟩ := hleaves.endpoint hx
  cases hx'.symm.trans hx₁
  refine ⟨hpanic.trans h.panic, x', hx', ?_, ?_, ?_⟩
  · cases hstage with
    | writing written hwriting hoffers haccepted hfills hparted =>
        refine .writing written hwriting hoffers ?_ ?_ (hreason.trans hparted)
        · dsimp only
          rcases hsame with ⟨-, houtbox⟩ | ⟨rfl, houtbox⟩
          · rw [haccepted, houtbox, List.append_assoc]
          · rw [haccepted, houtbox, List.append_nil]
        · rw [hfilling, hreason, hfills]
    | drained hstopped hclosed hoffers hparted hgiven =>
        obtain ⟨rfl, houtbox⟩ := hsame.resolve_left fun hgoes ↦
          Bool.false_ne_true (hclosed.symm.trans hgoes.1)
        refine .drained hstopped (houtbox ▸ hclosed) ?_ hparted (hreason.trans hgiven)
        dsimp only
        rw [List.append_nil, hoffers]
    | refused written frame hstopped hclosed hoffers haccepted hgiven =>
        obtain ⟨rfl, houtbox⟩ := hsame.resolve_left fun hgoes ↦
          Bool.false_ne_true (hclosed.symm.trans hgoes.1)
        refine .refused written frame hstopped (houtbox ▸ hclosed) hoffers ?_
          (hreason.trans hgiven)
        dsimp only
        rw [List.append_nil]
        exact haccepted
  · intro hnone
    rw [hhandle]
    exact (hindrance?_congr hleaves.queues x.handle).trans (hhindrance (hreason.symm.trans hnone))
  · exact fun hsome ↦ hstate.trans (hended (hreason ▸ hsome))

theorem InOrder.send (h : o.InOrder) (m : Message) (ho : o.step? (.send m) = some o') :
    o'.InOrder := by
  cases ho
  refine h.sends (.send o.node _ m) (Sends.send o.node _ m).panic fun x hx ↦ ?_
  obtain ⟨x', hx', hcases⟩ := o.node.send_cases _ hx m
  refine ⟨x', hx', ?_⟩
  rcases hcases with ⟨hok, frame, hframe, hdraining, houtbox⟩ | ⟨⟨cause, herror⟩, houtbox⟩
  · refine .inl ⟨hdraining, ?_⟩
    have hdata : (o.node.serializeFor o.link.endpoint m).2 = .ok frame := by
      rw [serializeFor, hx]
      dsimp only
      rw [Engine.serialize, hframe]
      rfl
    rw [hok, hdata, houtbox]
    rfl
  · exact .inr ⟨by rw [herror]; rfl, houtbox⟩

theorem InOrder.sendBytes (h : o.InOrder) (data : Bytes)
    (ho : o.step? (.sendBytes data) = some o') : o'.InOrder := by
  cases ho
  refine h.sends (.sendBytes o.node _ data) (Sends.sendBytes o.node _ data).panic fun x hx ↦ ?_
  obtain ⟨x', hx', hcases⟩ := sendBytes_cases hx data
  refine ⟨x', hx', ?_⟩
  rcases hcases with ⟨hok, hdraining, houtbox⟩ | ⟨⟨cause, herror⟩, houtbox⟩
  · exact .inl ⟨hdraining, by rw [hok, houtbox]; rfl⟩
  · exact .inr ⟨by rw [herror]; rfl, houtbox⟩

/-- A disconnect keeps what waits to be written, and only the first has a say. -/
theorem InOrder.disconnect (h : o.InOrder) (reason : DisconnectReason)
    (ho : o.step? (.disconnect reason) = some o') : o'.InOrder := by
  cases ho
  obtain ⟨x, hx, hstage, hhindrance, hended⟩ := h.endpoint
  cases hreason : x.reason with
  | some first =>
      rw [o.node.disconnect_of_reason _ hx (congrArg Option.isSome hreason),
        if_neg Bool.false_ne_true]
      exact h
  | none =>
      obtain ⟨hanswer, hpanic, x', hx', hstate, hgiven, houtbox⟩ :=
        disconnect_of_unhindered h.panic hx hreason (hhindrance hreason) reason
      rw [hanswer, if_pos rfl]
      refine ⟨hpanic, x', hx', ?_, ?_, fun _ ↦ hstate⟩
      · cases hstage with
        | writing written hwriting hoffers haccepted hfills hparted =>
            refine .writing written hwriting hoffers ?_ ?_ hgiven
            · rw [houtbox]
              exact haccepted
            · rw [houtbox, hgiven]
              rfl
        | drained _ _ _ hparted hsame =>
            rw [← hsame, hreason] at hparted
            cases hparted
        | refused _ _ _ _ _ _ hsame => cases hreason.symm.trans hsame
      · exact fun hnone ↦ absurd (hgiven.symm.trans hnone) (Option.some_ne_none _)

theorem endpoint?_closeOutbox {s : Node} {e : EndpointRef} (hx : s.endpoint? e = some x) :
    (s.closeOutbox e).endpoint? e = some { x with outbox := x.outbox.close } := by
  rw [closeOutbox, endpoint?_modifyEndpoint_self, hx]
  rfl

/-- A frame that the carrier refuses disconnects the endpoint, unless it was disconnected. -/
theorem InOrder.refuse (h : o.InOrder) {written rest : List Bytes} {frame : Bytes}
    (hx : o.node.endpoint? o.link.endpoint = some x) (hframes : x.outbox.frames = frame :: rest)
    (hoffers : o.link.offers = written.map .written)
    (haccepted : o.accepted = written ++ x.outbox.frames) (hparted : x.reason = o.parted)
    {s : Node} (hs : s = o.node.setEndpoint o.link.endpoint
      { x with outbox := { x.outbox with frames := rest } }) (t : Trace) :
    InOrder { o with
      node := ((s.trace t).disconnect o.link.endpoint .invalidMessageSent).1.closeOutbox
        o.link.endpoint
      link := (o.link.offer (.refused frame)).stopWriting } := by
  obtain ⟨x₀, hx₀, -, hhindrance, hended⟩ := h.endpoint
  cases hx.symm.trans hx₀
  have htaken : (s.trace t).endpoint? o.link.endpoint =
      some { x with outbox := { x.outbox with frames := rest } } := by
    rw [hs]
    exact o.node.endpoint?_setEndpoint_self _ hx _
  have hpanic : (s.trace t).panic = none := by
    rw [hs]
    exact h.panic
  have hqueues : ∀ r, (s.trace t).queue? r = o.node.queue? r := fun r ↦ by
    rw [hs, trace, queue?_record, queue?_setEndpoint]
  have hrefused : ∀ x' : Endpoint, x'.outbox.draining = false →
      x'.reason = some (o.parted.getD .invalidMessageSent) →
      Stage { o with
        node := ((s.trace t).disconnect o.link.endpoint .invalidMessageSent).1.closeOutbox
          o.link.endpoint
        link := (o.link.offer (.refused frame)).stopWriting } x' := by
    intro x' hclosed hreason
    refine .refused written frame rfl hclosed ?_ ?_ hreason
    · simp [Link.offer, Link.stopWriting, hoffers]
    · exact ⟨rest, by simp [haccepted, hframes]⟩
  cases hreason : x.reason with
  | none =>
      have hfree := (hindrance?_congr hqueues x.handle).trans (hhindrance hreason)
      obtain ⟨-, hnone, x', hx', hstate, hgiven, -⟩ :=
        disconnect_of_unhindered hpanic htaken hreason hfree .invalidMessageSent
      have hparted' : o.parted = none := hparted.symm.trans hreason
      refine ⟨hnone, _, endpoint?_closeOutbox hx', hrefused _ rfl ?_, ?_, fun _ ↦ hstate⟩
      · rw [hparted']
        exact hgiven
      · exact fun hnone ↦ absurd (hgiven.symm.trans hnone) (Option.some_ne_none _)
  | some first =>
      -- The endpoint was disconnected before the frame was refused, and keeps that reason.
      rw [(s.trace t).disconnect_of_reason _ htaken (congrArg Option.isSome hreason)]
      rw [(s.trace t).disconnect_of_reason _ htaken (congrArg Option.isSome hreason)] at hrefused
      refine ⟨hpanic, _, endpoint?_closeOutbox htaken, hrefused _ rfl ?_, ?_, hended⟩
      · rw [← hparted, hreason]
        rfl
      · exact fun hnone ↦ absurd (hreason.symm.trans hnone) (Option.some_ne_none _)

theorem InOrder.write (h : o.InOrder) (ho : o.step? .write = some o') : o'.InOrder := by
  obtain ⟨⟨s, l⟩, hstep, rfl⟩ := Option.map_eq_some_iff.1 ho
  obtain ⟨x, hx, hstage, hhindrance, hended⟩ := h.endpoint
  rw [Link.writeStep?] at hstep
  cases hstage with
  | drained hstopped _ _ _ _ =>
      rw [hstopped] at hstep
      cases hstep
  | refused _ _ hstopped _ _ _ _ =>
      rw [hstopped] at hstep
      cases hstep
  | writing written hwriting hoffers haccepted hfills hparted =>
      rw [hwriting, if_neg (by decide)] at hstep
      cases hframes : x.outbox.frames with
      | nil =>
          rw [takeFrame?_of_nil hx hframes] at hstep
          dsimp only at hstep
          split at hstep
          · cases hstep
          · next hstops =>
            cases hstep
            -- The writer stops only with an outbox that no longer fills, hence behind a disconnect.
            have hsome : x.reason.isSome = true := by
              rw [mayWrite, hx] at hstops
              dsimp only at hstops
              rw [hfills, Bool.and_self, Option.isNone_iff_eq_none] at hstops
              exact Option.isSome_iff_ne_none.2 hstops
            refine ⟨h.panic, _, endpoint?_closeOutbox hx, ?_, ?_, hended⟩
            · refine .drained rfl rfl ?_ (hparted ▸ hsome) hparted
              simp [Link.stopWriting, hoffers, haccepted, hframes]
            · intro hnone
              cases (congrArg Option.isSome hnone).symm.trans hsome
      | cons frame rest =>
          rw [takeFrame?_of_cons hx hframes] at hstep
          dsimp only at hstep
          split at hstep
          · cases hstep
            refine ⟨h.panic, _, o.node.endpoint?_setEndpoint_self _ hx _, ?_, ?_, hended⟩
            · refine .writing (written ++ [frame]) hwriting ?_ ?_ hfills hparted
              · simp [Link.offer, hoffers]
              · simp [haccepted, hframes]
            · intro hnone
              exact (hindrance?_congr (fun r ↦ o.node.queue?_setEndpoint _ r _) x.handle).trans
                (hhindrance hnone)
          · cases hstep
            exact h.refuse hx hframes hoffers haccepted hparted rfl _

theorem InOrder.step? (h : o.InOrder) {step : Outgoing} (ho : o.step? step = some o') :
    o'.InOrder := by
  cases step with
  | send m => exact h.send m ho
  | sendBytes data => exact h.sendBytes data ho
  | disconnect reason => exact h.disconnect reason ho
  | write => exact h.write ho
  | fault text =>
      cases ho
      obtain ⟨x, hx, hstage, hrest⟩ := h.endpoint
      refine ⟨h.panic, x, hx, ?_, hrest⟩
      cases hstage with
      | writing written hwriting hoffers haccepted hfills hparted =>
          exact .writing written hwriting hoffers haccepted hfills hparted
      | drained hstopped hclosed hoffers hparted hreason =>
          exact .drained hstopped hclosed hoffers hparted hreason
      | refused written frame hstopped hclosed hoffers haccepted hreason =>
          exact .refused written frame hstopped hclosed hoffers haccepted hreason

theorem run?_cons {step : Outgoing} {steps : List Outgoing} :
    o.run? (step :: steps) = some o' ↔ ∃ o₁, o.step? step = some o₁ ∧ o₁.run? steps = some o' :=
  foldlM_cons_eq_some

theorem InOrder.run? {steps : List Outgoing} (h : o.InOrder) (ho : o.run? steps = some o') :
    o'.InOrder :=
  foldlM_induction h ho fun _ _ _ h hstep ↦ h.step? hstep

/-! ## The writer alone -/

/-- If the carrier takes all it is offered, the writer writes all that was sent, and then shuts the
carrier down if the endpoint was disconnected. -/
theorem InOrder.drains (h : o.InOrder) (hwriting : o.link.writing = true)
    (hfault : o.link.fault = none) :
    ∃ n o', o.run? (List.replicate n .write) = some o' ∧ o'.link.offers =
      o.accepted.map .written ++ if o.parted.isSome then [.shutdown] else [] := by
  obtain ⟨x, hx, hstage, -⟩ := h.endpoint
  cases hstage with
  | drained hstopped _ _ _ _ => cases hwriting.symm.trans hstopped
  | refused _ _ hstopped _ _ _ _ => cases hwriting.symm.trans hstopped
  | writing written _ hoffers haccepted hfills hparted =>
      -- Each step writes one of the frames that wait, and nobody puts new ones behind them.
      generalize hframes : x.outbox.frames = frames at haccepted
      induction frames generalizing o x written with
      | nil =>
          rw [List.append_nil] at haccepted
          cases hreason : x.reason with
          | none =>
              refine ⟨0, o, rfl, ?_⟩
              rw [← hparted, hreason, hoffers, haccepted]
              exact (List.append_nil _).symm
          | some reason =>
              have hstops : o.node.mayWrite o.link.endpoint = false := by
                simp [mayWrite, hx, hreason]
              have hstep : o.step? .write = some { o with
                  node := o.node.closeOutbox o.link.endpoint, link := o.link.stopWriting } := by
                simp [Outlet.step?, Link.writeStep?, hwriting, takeFrame?_of_nil hx hframes, hstops]
              refine ⟨1, _, run?_cons.2 ⟨_, hstep, rfl⟩, ?_⟩
              rw [← hparted, hreason, haccepted]
              exact congrArg (· ++ [Offer.shutdown]) hoffers
      | cons frame rest ih =>
          have hstep : o.step? .write = some { o with
              node := o.node.setEndpoint o.link.endpoint
                { x with outbox := { x.outbox with frames := rest } }
              link := o.link.offer (.written frame) } := by
            simp [Outlet.step?, Link.writeStep?, hwriting, takeFrame?_of_cons hx hframes,
              Link.refusal_of_fault hfault]
          obtain ⟨n, o', hrun, hoffers'⟩ := ih (h.write hstep) hwriting hfault
            { x with outbox := { x.outbox with frames := rest } }
            (o.node.endpoint?_setEndpoint_self _ hx _) (written ++ [frame]) hwriting
            (by simp [Link.offer, hoffers]) hfills hparted rfl (by simp [haccepted])
          exact ⟨n + 1, o', run?_cons.2 ⟨_, hstep, hrun⟩, hoffers'⟩

/-! ## What becomes of what was sent -/

theorem packets_of_webSocket {l : Link} (h : l.carrier = .webSocket) :
    l.packets = l.written.map .binary := by
  rw [Link.packets, h]
  exact List.filterMap_eq_map (f := Packet.binary) ▸ rfl

theorem packets_of_stream {l : Link} (h : l.carrier = .stream) :
    l.packets = (l.written.filter (!·.isEmpty)).map .octets := by
  rw [Link.packets, h]
  induction l.written with
  | nil => rfl
  | cons frame rest ih => cases frame <;> simp_all [Carrier.packet?]

/-- What is known at any time of the writer and of what was sent. -/
structure Delivers (o : Outlet) : Prop where
  stage : ∃ x, o.node.endpoint? o.link.endpoint = some x ∧ o.Stage x ∧
    (x.reason.isSome = true → x.state = .disconnected)
  /-- The writer waits only with nothing to write, for an endpoint that is not disconnected. -/
  waits : o.link.writing = true → o.link.writeStep? o.node = none →
    o.link.offers = o.accepted.map .written ∧ o.parted = none
  drains : o.link.writing = true → o.link.fault = none →
    ∃ n o', o.run? (List.replicate n .write) = some o' ∧ o'.link.offers =
      o.accepted.map .written ++ if o.parted.isSome then [.shutdown] else []
  webSocket : o.link.carrier = .webSocket → o.link.packets = o.link.written.map .binary
  stream : o.link.carrier = .stream →
    o.link.packets = (o.link.written.filter (!·.isEmpty)).map .octets

theorem InOrder.delivers (h : o.InOrder) : o.Delivers where
  stage := by
    obtain ⟨x, hx, hstage, -, hended⟩ := h.endpoint
    exact ⟨x, hx, hstage, hended⟩
  waits hwriting hwaits := by
    obtain ⟨x, hx, hstage, -⟩ := h.endpoint
    cases hstage with
    | drained hstopped _ _ _ _ => cases hwriting.symm.trans hstopped
    | refused _ _ hstopped _ _ _ _ => cases hwriting.symm.trans hstopped
    | writing written _ hoffers haccepted hfills hparted =>
        cases hframes : x.outbox.frames with
        | nil =>
            cases hreason : x.reason with
            | none => exact ⟨by simp [hoffers, haccepted, hframes], hparted.symm.trans hreason⟩
            | some reason =>
                simp [Link.writeStep?, hwriting, takeFrame?_of_nil hx hframes, mayWrite, hx,
                  hreason] at hwaits
        | cons frame rest =>
            simp only [Link.writeStep?, hwriting, takeFrame?_of_cons hx hframes, Bool.not_true,
              Bool.false_eq_true, if_false] at hwaits
            split at hwaits <;> cases hwaits
  drains := h.drains
  webSocket := packets_of_webSocket
  stream := packets_of_stream

/-- Whatever is sent, and whenever the endpoint is disconnected or the carrier refuses a frame, the
carrier is offered what was sent, in order and once. -/
theorem delivers_of_run {s : Node} {l : Link} {steps : List Outgoing} (hpanic : s.panic = none)
    (hx : s.endpoint? l.endpoint = some x) (houtbox : x.outbox = .fresh)
    (hreason : x.reason = none) (hhindrance : s.hindrance? x.handle = none)
    (hwriting : l.writing = true) (hoffers : l.offers = [])
    (hrun : run? { node := s, link := l } steps = some o) : o.Delivers := by
  have hbegin : InOrder { node := s, link := l } := by
    refine ⟨hpanic, x, hx, .writing [] hwriting hoffers ?_ ?_ hreason, fun _ ↦ hhindrance, ?_⟩
    · rw [houtbox]
      rfl
    · rw [houtbox, hreason]
      rfl
    · rw [hreason]
      exact fun hsome ↦ absurd hsome Bool.false_ne_true
  exact (hbegin.run? hrun).delivers

end Outlet

namespace Specimen

/-- A connection that frames can be sent on through a WebSocket. -/
def outgoing : Outlet where
  node.endpoints := [{ type := ⟨.tcpConnection, ""⟩, state := .connected, outbox := .fresh }]
  link := { endpoint := 0, carrier := .webSocket }

/-- Of the frames that wait for a disconnected endpoint, the carrier takes the first. -/
def outage : List Outgoing :=
  [.sendBytes [1], .write, .sendBytes [2], .sendBytes [3], .sendBytes [4], .disconnect .requested,
    .sendBytes [5], .write, .fault "broken pipe", .write, .disconnect .spam]

end Specimen

/-- The frame behind the one that was refused is not written, and the reason stays. -/
theorem Outlet.delivers_outage :
    ∃ o, Specimen.outgoing.run? Specimen.outage = some o ∧ o.accepted = [[1], [2], [3], [4]] ∧
      o.link.offers = [.written [1], .written [2], .refused [3], .shutdown] ∧
      o.link.packets = [.binary [1], .binary [2]] ∧
      (∃ x, o.node.endpoint? 0 = some x ∧ x.state = .disconnected ∧ x.reason = some .requested) ∧
      o.Delivers := by
  have hsome : (Specimen.outgoing.run? Specimen.outage).isSome = true := by decide +kernel
  obtain ⟨o, ho⟩ := Option.isSome_iff_exists.1 hsome
  have haccepted : (Specimen.outgoing.run? Specimen.outage).map (·.accepted) =
      some [[1], [2], [3], [4]] := by decide +kernel
  have hlink : (Specimen.outgoing.run? Specimen.outage).map (·.link) = some
      { endpoint := 0, carrier := .webSocket, writing := false, fault := "broken pipe"
        offers := [.written [1], .written [2], .refused [3], .shutdown] } := by decide +kernel
  have hended : (Specimen.outgoing.run? Specimen.outage).map
      (fun o ↦ (o.node.endpoint? 0).map Endpoint.stance) =
        some (some ⟨.disconnected, some .requested, none, false⟩) := by decide +kernel
  rw [ho, Option.map_some, Option.some.injEq] at haccepted hlink hended
  obtain ⟨x, hx, hstance⟩ := Option.map_eq_some_iff.1 hended
  have hdelivers : o.Delivers := delivers_of_run rfl rfl rfl rfl rfl rfl rfl ho
  have hoffers := congrArg Link.offers hlink
  have hcarrier := congrArg Link.carrier hlink
  refine ⟨o, ho, haccepted, hoffers, ?_, ?_, hdelivers⟩
  · rw [hdelivers.webSocket hcarrier, hlink]
    rfl
  · exact ⟨x, hx, congrArg Stance.state hstance, congrArg Stance.reason hstance⟩

end MessageEngine
