import MessageEngine.Transport.Link
import MessageEngine.Proofs.Bystander

/-!
# Frames on their way out

A message that was sent stands last in the outbox, and one that could not be
sent leaves the outbox as it was.  The writer takes the frames from the
front.  A disconnect keeps those that wait, so the writer stops only when
there are none.
-/

namespace MessageEngine

namespace Node

variable (s : Node) (e : EndpointRef)

theorem engine_disconnect (reason : DisconnectReason) :
    (s.disconnect e reason).1.engine = s.engine :=
  s.disconnect_keeps e engine_modifyQueue (fun _ _ ↦ rfl) (fun _ _ _ ↦ rfl) (fun _ _ _ ↦ rfl)
    (fun _ _ ↦ rfl) reason

/-- What a send comes to: the frame of the message goes behind the others, or the outbox stays
as it was and there is an error. -/
theorem send_cases {x : Endpoint} (hx : s.endpoint? e = some x) (m : Message) :
    ∃ x', (s.send e m).1.endpoint? e = some x' ∧
      (((s.send e m).2 = .ok () ∧ ∃ frame,
          (s.engine e).protocol.serialize (.ofNat e) x.frames m = .ok frame ∧
          x.outbox.draining = true ∧
          x'.outbox = { x.outbox with frames := x.outbox.frames ++ [frame] }) ∨
        ((∃ cause, (s.send e m).2 = .error cause) ∧ x'.outbox = x.outbox)) := by
  cases hconnected : s.isConnected e with
  | false =>
      refine ⟨x, ?_, .inr ⟨⟨.network .notConnected, ?_⟩, rfl⟩⟩ <;>
        rw [send, if_neg (ne_true_of_eq_false hconnected)]
      exact hx
  | true =>
      have hframed : s.serializeFor e m =
          (s.setEndpoint e { x with frames := x.frames + 1 },
            (s.engine e).serialize (.ofNat e) x.frames m) := by
        rw [serializeFor, hx]
      have hcounted := s.endpoint?_setEndpoint_self e hx { x with frames := x.frames + 1 }
      rw [send, if_pos hconnected, hframed]
      cases hserialize : (s.engine e).protocol.serialize (.ofNat e) x.frames m with
      | error cause =>
          rw [Engine.serialize, hserialize]
          exact ⟨_, hcounted, .inr ⟨⟨.protocol cause, rfl⟩, rfl⟩⟩
      | ok frame =>
          have hframe : (s.engine e).serialize (.ofNat e) x.frames m = .ok frame := by
            rw [Engine.serialize, hserialize]
            rfl
          rw [hframe]
          simp only [sendBytes, hcounted]
          cases hput : ({ x with frames := x.frames + 1 } : Endpoint).put frame with
          | error cause => exact ⟨_, hcounted, .inr ⟨⟨.network cause, rfl⟩, rfl⟩⟩
          | ok y =>
              refine ⟨y, endpoint?_setEndpoint_self _ e hcounted y, .inl ⟨rfl, frame, rfl, ?_⟩⟩
              rw [Endpoint.put] at hput
              split at hput
              · split at hput
                · next o ho =>
                  cases hput
                  rw [Outbox.put] at ho
                  split at ho
                  · cases ho
                  · split at ho
                    · cases ho
                    · next hdraining =>
                      cases ho
                      exact ⟨by simpa using hdraining, rfl⟩
                · cases hput
              · cases hput

/-- A disconnect keeps the frames that wait, and who takes them out may go on. -/
theorem outbox_disconnect {x : Endpoint} (hx : s.endpoint? e = some x) (reason : DisconnectReason) :
    ∃ x', (s.disconnect e reason).1.endpoint? e = some x' ∧
      x'.outbox.frames = x.outbox.frames ∧ x'.outbox.draining = x.outbox.draining := by
  cases hreason : x.reason with
  | none =>
      obtain ⟨x', hx', -, houtbox, -⟩ := s.endpoint?_disconnect e hx hreason reason
      exact ⟨x', hx', by rw [houtbox]; rfl, by rw [houtbox]; rfl⟩
  | some first =>
      rw [s.disconnect_of_reason e hx (congrArg Option.isSome hreason)]
      exact ⟨x, hx, rfl, rfl⟩

end Node

namespace Link

variable (s s' : Node) (l l' : Link)

theorem written_offer (frame : Bytes) :
    (l.offer (.written frame)).written = l.written ++ [frame] := by
  rw [written, written, offer, List.filterMap_append]
  rfl

theorem written_stopWriting : l.stopWriting.written = l.written := by
  rw [written, written, stopWriting, List.filterMap_append]
  exact List.append_nil _

theorem isShutDown_offer (frame : Bytes) :
    (l.offer (.written frame)).isShutDown = l.isShutDown := by
  simp [isShutDown, offer]

theorem isShutDown_stopWriting : l.stopWriting.isShutDown = true := by
  simp [isShutDown, stopWriting]

variable {s s' l l'}

theorem refusal_of_fault (hfault : l.fault = none) (frame : Bytes) : l.refusal frame = none := by
  rw [refusal, hfault]
  split <;> rfl

/-- A step of the writer takes out the first frame, or ends its work on an outbox that is empty
and will stay so. -/
theorem writeStep?_cases {x : Endpoint} (hx : s.endpoint? l.endpoint = some x)
    (hfault : l.fault = none) (h : l.writeStep? s = some (s', l')) :
    l.writing = true ∧
      ((∃ frame rest, x.outbox.frames = frame :: rest ∧
          s' = s.setEndpoint l.endpoint { x with outbox := { x.outbox with frames := rest } } ∧
          l' = l.offer (.written frame)) ∨
        (x.outbox.frames = [] ∧ s' = s.closeOutbox l.endpoint ∧ l' = l.stopWriting)) := by
  rw [writeStep?] at h
  cases hwriting : l.writing with
  | false =>
      rw [hwriting] at h
      cases h
  | true =>
      refine ⟨rfl, ?_⟩
      rw [hwriting, if_neg (by decide)] at h
      cases hframes : x.outbox.frames with
      | nil =>
          have htake : s.takeFrame? l.endpoint = none := by
            simp only [Node.takeFrame?, hx, hframes]
          rw [htake] at h
          dsimp only at h
          split at h
          · cases h
          · cases h
            exact .inr ⟨rfl, rfl, rfl⟩
      | cons frame rest =>
          have htake : s.takeFrame? l.endpoint =
              some (s.setEndpoint l.endpoint { x with outbox := { x.outbox with frames := rest } },
                frame) := by
            simp only [Node.takeFrame?, hx, hframes]
          rw [htake] at h
          simp only [refusal_of_fault hfault] at h
          cases h
          exact .inl ⟨frame, rest, rfl, rfl, rfl⟩

/-- The writer does not wait with frames in front of it. -/
theorem frames_of_writeStep?_eq_none {x : Endpoint} (hx : s.endpoint? l.endpoint = some x)
    (hfault : l.fault = none) (hwriting : l.writing = true) (h : l.writeStep? s = none) :
    x.outbox.frames = [] := by
  cases hframes : x.outbox.frames with
  | nil => rfl
  | cons frame rest =>
      have htake : s.takeFrame? l.endpoint =
          some (s.setEndpoint l.endpoint { x with outbox := { x.outbox with frames := rest } },
            frame) := by
        simp only [Node.takeFrame?, hx, hframes]
      rw [writeStep?, hwriting, if_neg (by decide), htake] at h
      simp only [refusal_of_fault hfault] at h
      cases h

end Link

end MessageEngine
