import MessageEngine.Proofs.OutboundFrames
import MessageEngine.Proofs.Pipe
import MessageEngine.Proofs.Reception

/-!
# Delivery from one endpoint to another

Whatever the order in which the parts of a pipe take their steps, the
messages that are dispatched at the far end are those that were accepted for
sending, in order and each once; and none is missing when no step is left to
be taken.
-/

namespace MessageEngine

namespace Pipe

/-- What comes behind all octets: the end, if it is still to be read. -/
def ending : Bool → List Arrival
  | true => [.ended]
  | false => []

/-- How things stand in a pipe: the frames of the accepted messages are those that were written
and those that wait in the outbox, and what was written was received, or waits in front of the
reader, or is in the stream. -/
structure Stands (g : Engine) (b : EndpointRef) (type : EndpointType) (p : Pipe)
    (frames pieces : List Bytes) (progress : Progress) : Prop where
  endpoint : p.reader.endpoint = b
  protocol : (p.source.engine p.writer.endpoint).protocol = g.protocol
  serialized : List.Forall₂
    (fun m frame ↦ ∃ sender number, g.protocol.serialize sender number m = .ok frame)
    p.accepted frames
  outbox : ∃ x, p.source.endpoint? p.writer.endpoint = some x ∧
    frames = p.writer.written ++ x.outbox.frames ∧
    (p.writer.writing = false → x.outbox.frames = [] ∧ x.outbox.draining = false)
  fault : p.writer.fault = none
  shutDown : p.writer.isShutDown = !p.writer.writing
  carried : p.carried ≤ p.writer.written.flatten.length
  octets : progress.received ++ pieces.flatten ++ p.inFlight = p.writer.written.flatten
  carrier : p.reader.carrier = .stream
  nonempty : ∀ piece ∈ pieces, piece ≠ []
  arrivals : p.reader.arrivals =
    pieces.map .octets ++ ending (p.closed && !progress.lost)
  closed : p.closed = true → p.writer.writing = false ∧ p.inFlight = []
  lost : progress.lost = true → p.closed = true ∧ pieces = []
  reading : p.reader.reading = !progress.lost
  steady : progress.state = .connected ∧ progress.held = false
  reception : p.sink.Reception p.reader.endpoint p.queue g type progress

variable {g : Engine} {b : EndpointRef} {type : EndpointType} {p q : Pipe}
  {frames pieces : List Bytes} {progress : Progress}

theorem Fresh.stands (h : p.Fresh) {x : Endpoint}
    (hx : p.sink.endpoint? p.reader.endpoint = some x) :
    p.Stands p.engine p.reader.endpoint x.type [] [] {} where
  endpoint := rfl
  protocol := h.protocol
  serialized := by
    rw [h.accepted]
    exact .nil
  outbox := by
    obtain ⟨y, hy, hframes⟩ := h.source
    refine ⟨y, hy, ?_, ?_⟩ <;> rw [h.writer]
    · exact hframes.symm
    · intro hwriting
      cases hwriting
  fault := by rw [h.writer]
  shutDown := by
    rw [h.writer]
    rfl
  carried := h.carried ▸ Nat.zero_le _
  octets := by
    rw [inFlight, h.carried, h.writer]
    rfl
  carrier := by rw [h.reader]
  nonempty _ hpiece := absurd hpiece List.not_mem_nil
  arrivals := by
    rw [h.reader, h.closed]
    rfl
  closed hclosed := by
    rw [h.closed] at hclosed
    cases hclosed
  lost hlost := by cases hlost
  reading := by
    rw [h.reader]
    rfl
  steady := ⟨rfl, rfl⟩
  reception := by
    obtain ⟨y, hy, hstate, hreason, hbuffer, hhandle⟩ := h.sink
    rw [hx, Option.some.injEq] at hy
    subst hy
    obtain ⟨q, hq, hopen, hname, hforeign⟩ := h.queue
    refine ⟨⟨rfl, h.panic, h.alone, ⟨x, hx, rfl, .nil [], fun _ ↦ Protocol.front_nil, hbuffer, ?_,
      fun _ ↦ ⟨hstate, hreason, hhandle⟩, ?_⟩, h.dispatched⟩, q, hq,
      ⟨fun _ hheld ↦ (hforeign _ hheld).2 rfl, hname, fun _ ↦ ⟨hopen, rfl⟩⟩,
      Job.filter_of_foreign hforeign⟩
    · intro hlost
      cases hlost
    · intro hlost
      cases hlost

/-! ## The side that sends -/

theorem Stands.send (h : p.Stands g b type frames pieces progress) {m : Message}
    (hstep : p.step? (.send m) = some q) :
    ∃ frames', q.Stands g b type frames' pieces progress := by
  obtain ⟨x, hx, hframes, hstopped⟩ := h.outbox
  obtain ⟨x', hx', hresult⟩ := p.source.send_cases p.writer.endpoint hx m
  have hprotocol : ((p.source.send p.writer.endpoint m).1.engine p.writer.endpoint).protocol =
      g.protocol := by
    rw [(Node.Sends.send _ _ m).engine]
    exact h.protocol
  rw [step?] at hstep
  rcases hresult with ⟨hok, frame, hserialize, hdraining, houtbox⟩ | ⟨⟨cause, herror⟩, houtbox⟩
  · rw [← Prod.eta (p.source.send p.writer.endpoint m), hok] at hstep
    cases hstep
    refine ⟨frames ++ [frame], { h with
      protocol := hprotocol
      serialized := ?_
      outbox := ⟨x', hx', ?_, ?_⟩ }⟩
    · rw [h.protocol] at hserialize
      exact List.rel_append h.serialized (.cons ⟨_, _, hserialize⟩ .nil)
    · rw [houtbox, hframes, List.append_assoc]
    · intro hwriting
      rw [(hstopped hwriting).2] at hdraining
      cases hdraining
  · rw [← Prod.eta (p.source.send p.writer.endpoint m), herror] at hstep
    cases hstep
    refine ⟨frames, { h with protocol := hprotocol, outbox := ⟨x', hx', ?_, ?_⟩ }⟩
    · rw [houtbox]
      exact hframes
    · rw [houtbox]
      exact hstopped

/-- A disconnect of the endpoint that sends leaves the frames that wait to the writer. -/
theorem Stands.disconnect (h : p.Stands g b type frames pieces progress) {reason : DisconnectReason}
    (hstep : p.step? (.disconnect reason) = some q) : q.Stands g b type frames pieces progress := by
  obtain ⟨x, hx, hframes, hstopped⟩ := h.outbox
  obtain ⟨x', hx', hsame, hdraining⟩ := p.source.outbox_disconnect p.writer.endpoint hx reason
  cases hstep
  refine { h with
    protocol := ?_
    outbox := ⟨x', hx', by rw [hsame]; exact hframes, by rw [hsame, hdraining]; exact hstopped⟩ }
  rw [Node.engine_disconnect]
  exact h.protocol

theorem Stands.write (h : p.Stands g b type frames pieces progress)
    (hstep : p.step? .write = some q) : q.Stands g b type frames pieces progress := by
  obtain ⟨x, hx, hframes, hstopped⟩ := h.outbox
  obtain ⟨⟨s, l⟩, hwrite, rfl⟩ := Option.map_eq_some_iff.1 hstep
  obtain ⟨hwriting, ⟨frame, rest, hrest, rfl, rfl⟩ | ⟨hempty, rfl, rfl⟩⟩ :=
    Link.writeStep?_cases hx h.fault hwrite
  · have hlonger : (p.writer.offer (.written frame)).written.flatten =
        p.writer.written.flatten ++ frame := by
      rw [Link.written_offer, List.flatten_append, List.flatten_singleton]
    refine { h with
      protocol := h.protocol
      outbox := ⟨_, p.source.endpoint?_setEndpoint_self _ hx _, ?_, ?_⟩
      shutDown := (p.writer.isShutDown_offer frame).trans h.shutDown
      carried := ?_
      octets := ?_
      closed := ?_ }
    · dsimp only
      rw [hframes, hrest, Link.written_offer, List.append_assoc, List.singleton_append]
    · intro hnot
      exact absurd hwriting (ne_true_of_eq_false hnot)
    · dsimp only
      rw [hlonger, List.length_append]
      exact Nat.le_add_right_of_le h.carried
    · have hmore : inFlight { p with
            source := p.source.setEndpoint p.writer.endpoint
              { x with outbox := { x.outbox with frames := rest } }
            writer := p.writer.offer (.written frame) } = p.inFlight ++ frame := by
        rw [inFlight, inFlight]
        dsimp only
        rw [hlonger, List.drop_append_of_le_length h.carried]
      rw [hmore, ← List.append_assoc, h.octets]
      exact hlonger.symm
    · intro hclosed
      exact absurd hwriting (ne_true_of_eq_false (h.closed hclosed).1)
  · have hsame : p.writer.stopWriting.written = p.writer.written := p.writer.written_stopWriting
    have hflight : inFlight { p with
          source := p.source.closeOutbox p.writer.endpoint
          writer := p.writer.stopWriting } = p.inFlight := by
      rw [inFlight, inFlight]
      dsimp only
      rw [hsame]
    refine { h with
      protocol := h.protocol
      outbox := ⟨{ x with outbox := x.outbox.close }, ?_, ?_, fun _ ↦ ⟨rfl, rfl⟩⟩
      shutDown := p.writer.isShutDown_stopWriting
      carried := ?_
      octets := ?_
      closed := ?_ }
    · dsimp only
      rw [Node.closeOutbox]
      exact (p.source.endpoint?_modifyEndpoint_self _ _).trans (congrArg (Option.map _) hx)
    · dsimp only
      rw [hsame, hframes, hempty]
      rfl
    · dsimp only
      rw [hsame]
      exact h.carried
    · rw [hflight]
      dsimp only
      rw [hsame]
      exact h.octets
    · intro hclosed
      exact absurd hwriting (ne_true_of_eq_false (h.closed hclosed).1)

/-! ## The stream -/

theorem Stands.lost_of_open (h : p.Stands g b type frames pieces progress)
    (hopen : p.closed = false) : progress.lost = false := by
  cases hlost : progress.lost with
  | false => rfl
  | true => exact (h.lost hlost).1.symm.trans hopen

theorem Stands.carry (h : p.Stands g b type frames pieces progress) {count : Nat}
    (hstep : p.step? (.carry count) = some q) :
    ∃ piece, q.Stands g b type frames (pieces ++ [piece]) progress := by
  rw [step?] at hstep
  split at hstep
  · cases hstep
  · next hsome =>
    cases hstep
    -- the end comes out behind all octets, so it has not come out yet
    have hopen : p.closed = false := by
      cases hclosed : p.closed with
      | false => rfl
      | true =>
          rw [(h.closed hclosed).2, List.take_nil] at hsome
          exact absurd rfl hsome
    have hlost := h.lost_of_open hopen
    refine ⟨p.inFlight.take count, { h with
      carried := ?_
      octets := ?_
      nonempty := ?_
      arrivals := ?_
      closed := ?_
      lost := ?_ }⟩
    · have hcarried := h.carried
      dsimp only
      rw [List.length_take, inFlight, List.length_drop]
      omega
    · have hflight : p.inFlight.take count ++
          p.writer.written.flatten.drop (p.carried + (p.inFlight.take count).length) =
            p.inFlight := by
        rw [← List.drop_drop]
        exact List.prefix_iff_eq_append.1 (List.take_prefix count p.inFlight)
      calc progress.received ++ (pieces ++ [p.inFlight.take count]).flatten ++
            p.writer.written.flatten.drop (p.carried + (p.inFlight.take count).length)
          = progress.received ++ pieces.flatten ++ p.inFlight := by
            rw [List.flatten_append, List.flatten_singleton, ← List.append_assoc,
              List.append_assoc, hflight]
        _ = p.writer.written.flatten := h.octets
    · intro piece hpiece
      rcases List.mem_append.1 hpiece with hpiece | hpiece
      · exact h.nonempty piece hpiece
      · rw [List.mem_singleton.1 hpiece]
        exact hsome
    · dsimp only [Link.arrive]
      rw [h.arrivals, hopen, Bool.false_and, List.map_append]
      simp [ending]
    · intro hclosed
      exact absurd hclosed (ne_true_of_eq_false hopen)
    · intro hgone
      exact absurd hgone (ne_true_of_eq_false hlost)

theorem Stands.close (h : p.Stands g b type frames pieces progress)
    (hstep : p.step? .close = some q) : q.Stands g b type frames pieces progress := by
  rw [step?] at hstep
  split at hstep
  · next hend =>
    obtain ⟨hshut, hflight, hopen⟩ := hend
    cases hstep
    have hlost := h.lost_of_open hopen
    refine { h with
      arrivals := ?_
      closed := ?_
      lost := ?_ }
    · dsimp only [Link.arrive]
      rw [h.arrivals, hopen, hlost]
      simp [ending]
    · intro _
      rw [h.shutDown] at hshut
      exact ⟨by simpa using hshut, hflight⟩
    · intro hgone
      exact absurd hgone (ne_true_of_eq_false hlost)
  · cases hstep

/-! ## The side that receives -/

theorem Stands.isFinished (h : p.Stands g b type frames pieces progress)
    (hlost : progress.lost = false) : p.sink.isFinished p.reader.endpoint = false := by
  obtain ⟨x, hx, hagrees⟩ := h.reception.endpoint
  rw [Node.isFinished, hx]
  exact congrArg Option.isSome (hagrees.connected hlost).2.1

/-- What is left of a piece, if anything is, waits in front of the others. -/
theorem leftover_eq (octets : Bytes) (rest : List Arrival) :
    ∃ pieces : List Bytes, Link.leftover octets rest = pieces.map .octets ++ rest ∧
      pieces.flatten = octets ∧ ∀ piece ∈ pieces, piece ≠ [] := by
  cases octets with
  | nil => exact ⟨[], rfl, rfl, fun _ h ↦ absurd h List.not_mem_nil⟩
  | cons octet octets =>
      refine ⟨[octet :: octets], rfl, List.flatten_singleton, fun piece hpiece ↦ ?_⟩
      rw [List.mem_singleton.1 hpiece]
      exact List.cons_ne_nil octet octets

theorem take_octets {s : Node} {l : Link} (hcarrier : l.carrier = .stream) {octets : Bytes}
    (hsome : octets ≠ []) (hroom : 0 < (s.engine l.endpoint).protocol.bufferLength)
    (rest : List Arrival) :
    ∃ reads, l.take s rest (.octets octets) =
      (s.receive l.endpoint (octets.take (s.engine l.endpoint).protocol.bufferLength),
        { l with
          reads := reads
          arrivals :=
            Link.leftover (octets.drop (s.engine l.endpoint).protocol.bufferLength) rest }) := by
  have hchunk : (octets.take (s.engine l.endpoint).protocol.bufferLength).isEmpty = false := by
    rw [List.isEmpty_eq_false_iff]
    intro hnil
    rcases List.take_eq_nil_iff.1 hnil with hzero | hnil
    · exact Nat.ne_of_gt hroom hzero
    · exact hsome hnil
  rw [Link.take, hcarrier]
  simp only [hchunk, Bool.false_eq_true, if_false]
  exact ⟨_, rfl⟩

theorem Stands.read (h : p.Stands g b type frames pieces progress)
    (hroom : 0 < g.protocol.bufferLength) (hstep : p.step? .read = some q) :
    ∃ pieces' progress', q.Stands g b type frames pieces' progress' := by
  obtain ⟨⟨s, l⟩, hread, rfl⟩ := Option.map_eq_some_iff.1 hstep
  rw [Link.readStep?, h.reading, Bool.not_not] at hread
  cases hlost : progress.lost with
  | true =>
      rw [hlost, if_pos rfl] at hread
      cases hread
  | false =>
      rw [hlost, if_neg Bool.false_ne_true, h.isFinished hlost, if_neg Bool.false_ne_true,
        h.arrivals, hlost] at hread
      cases pieces with
      | nil =>
          rcases Bool.eq_false_or_eq_true p.closed with hclosed | hclosed
          · rw [hclosed] at hread
            cases hread
            exact ⟨[], progress.lose, { h with
              arrivals := by
                dsimp only [Progress.lose]
                rw [Bool.not_true, Bool.and_false]
                rfl
              lost := fun _ ↦ ⟨hclosed, rfl⟩
              reading := rfl
              reception := h.reception.lose hlost rfl }⟩
          · rw [hclosed] at hread
            cases hread
      | cons piece others =>
          have hsome : piece ≠ [] := h.nonempty piece List.mem_cons_self
          rw [List.map_cons, List.cons_append] at hread
          have hengine := h.reception.engine
          obtain ⟨reads, htake⟩ := take_octets (s := p.sink) h.carrier hsome (hengine ▸ hroom)
            (others.map .octets ++ ending (p.closed && !false))
          dsimp only at hread
          rw [htake, hengine] at hread
          obtain ⟨left, hleft, hflatten, hnonempty⟩ :=
            leftover_eq (piece.drop g.protocol.bufferLength)
              (others.map .octets ++ ending (p.closed && !false))
          cases hread
          refine ⟨left ++ others, progress.hear (piece.take g.protocol.bufferLength), { h with
            octets := ?_
            nonempty := ?_
            arrivals := ?_
            lost := fun hgone ↦ absurd hgone (ne_true_of_eq_false hlost)
            reading := h.reading
            reception := h.reception.receive hlost h.steady.1 _ }⟩
          · refine Eq.trans ?_ h.octets
            rw [List.flatten_append, hflatten, List.flatten_cons]
            dsimp only [Progress.hear]
            rw [← List.append_assoc, List.append_assoc progress.received, List.take_append_drop]
            simp only [List.append_assoc]
            rfl
          · intro piece' hpiece'
            rcases List.mem_append.1 hpiece' with hpiece' | hpiece'
            · exact hnonempty piece' hpiece'
            · exact h.nonempty piece' (List.mem_cons_of_mem piece hpiece')
          · dsimp only [Progress.hear]
            rw [hleft, List.map_append, List.append_assoc, hlost]

/-- The frames of the accepted messages are read as these messages. -/
theorem Stands.parse_frames (h : p.Stands g b type frames pieces progress)
    (hmax : g.protocol.maxPayload < UInt32.size) (hcarries : ∀ m ∈ p.accepted, g.Carries m) :
    g.protocol.parse g.registry frames.flatten = .ok (p.accepted, []) := by
  have hwrites : List.Forall₂ g.protocol.Writes p.accepted frames := by
    have hboth := (List.forall₂_and_left p.accepted frames).2 ⟨hcarries, h.serialized⟩
    exact hboth.imp fun m frame ⟨hm, sender, number, hs⟩ ↦ ⟨sender, number, hs, hm.undone _ _⟩
  exact Protocol.parse_flatten hmax (fun m hm ↦ (hcarries m hm).known)
    (fun m hm ↦ (hcarries m hm).fits) hwrites

/-- What was received is the beginning of these frames. -/
theorem Stands.flatten_frames (h : p.Stands g b type frames pieces progress) :
    ∃ rest, frames.flatten = progress.received ++ rest := by
  obtain ⟨x, -, hframes, -⟩ := h.outbox
  refine ⟨pieces.flatten ++ p.inFlight ++ x.outbox.frames.flatten, ?_⟩
  rw [← List.append_assoc, ← List.append_assoc, h.octets, ← List.flatten_append, ← hframes]

theorem Stands.work (h : p.Stands g b type frames pieces progress)
    (hmax : g.protocol.maxPayload < UInt32.size) (hcarries : ∀ m ∈ p.accepted, g.Carries m)
    (hstep : p.step? .work = some q) (hcalm : p.Calm q) :
    ∃ progress', q.Stands g b type frames pieces progress' := by
  obtain ⟨s, hwork, rfl⟩ := Option.map_eq_some_iff.1 hstep
  have hparse := h.parse_frames hmax hcarries
  obtain ⟨rest, hrest⟩ := h.flatten_frames
  rw [hrest] at hparse
  -- what was received is the beginning of frames that parse, so no parse of it is refused
  have hgood : ∀ failure,
      g.protocol.parse g.registry progress.received ≠ .error failure := by
    intro failure hfailure
    rw [Protocol.parse_error_append hfailure] at hparse
    cases hparse
  have hrate : ∀ x, s.endpoint? p.reader.endpoint = some x →
      x.rate.above g.protocol.maxRate = false := by
    intro x hx
    rw [← h.reception.engine]
    exact hcalm.2 x hx
  have hkeeps : p.sink.handlesNext p.reader.endpoint p.queue = true →
      ∀ reason, s.reason? p.reader.endpoint = some reason → reason.discardsPending = false := by
    intro hnext reason hreason
    rw [hcalm.1 hnext] at hreason
    exact h.reception.keeps hreason
  obtain ⟨progress', hreception, hreceived, hstate, hheld, hended⟩ :=
    h.reception.work? hwork (fun _ ↦ hgood) hkeeps hrate
  have hlost : progress'.lost = progress.lost := by
    rcases hended with hsame | hnext
    · exact hsame
    · rw [hreception.lost_eq, hcalm.1 hnext, ← h.reception.lost_eq]
  exact ⟨progress', { h with
    octets := by rw [hreceived]; exact h.octets
    arrivals := by rw [hlost]; exact h.arrivals
    lost := by rw [hlost]; exact h.lost
    reading := by rw [hlost]; exact h.reading
    steady := by rw [hstate, hheld]; exact h.steady
    reception := hreception }⟩

theorem Stands.renew (h : p.Stands g b type frames pieces progress)
    (hstep : p.step? .renew = some q) : q.Stands g b type frames pieces progress := by
  cases hstep
  exact { h with
    reception := h.reception.modifyEndpoint fun _ hx ↦ hx.rate _ }

theorem Stands.hear (h : p.Stands g b type frames pieces progress) {e : EndpointRef} {data : Bytes}
    (hstep : p.step? (.hear e data) = some q) : q.Stands g b type frames pieces progress := by
  rw [step?] at hstep
  split at hstep
  · cases hstep
  · next he =>
    cases hstep
    exact { h with
      reception := h.reception.spares ((Node.Spares.receive he p.sink data).trans (.panic _ none))
        rfl }

theorem Stands.drop (h : p.Stands g b type frames pieces progress) {e : EndpointRef}
    {reason : DisconnectReason} (hstep : p.step? (.drop e reason) = some q) :
    q.Stands g b type frames pieces progress := by
  rw [step?] at hstep
  split at hstep
  · cases hstep
  · next he =>
    cases hstep
    have hspares := Node.Spares.disconnect h.reception.alone (fun h ↦ absurd h he) reason
    exact { h with reception := h.reception.spares (hspares.trans (.panic _ none)) rfl }

/-! ## Any number of moves -/

theorem Stands.step? {move : Move} (h : p.Stands g b type frames pieces progress)
    (hroom : 0 < g.protocol.bufferLength) (hmax : g.protocol.maxPayload < UInt32.size)
    (hcarries : ∀ m ∈ p.accepted, g.Carries m) (hstep : p.step? move = some q)
    (hcalm : move = .work → p.Calm q) :
    ∃ frames' pieces' progress', q.Stands g b type frames' pieces' progress' := by
  cases move with
  | send m =>
      obtain ⟨frames', h'⟩ := h.send hstep
      exact ⟨frames', pieces, progress, h'⟩
  | disconnect reason => exact ⟨frames, pieces, progress, h.disconnect hstep⟩
  | write => exact ⟨frames, pieces, progress, h.write hstep⟩
  | carry count =>
      obtain ⟨piece, h'⟩ := h.carry hstep
      exact ⟨frames, _, progress, h'⟩
  | close => exact ⟨frames, pieces, progress, h.close hstep⟩
  | read =>
      obtain ⟨pieces', progress', h'⟩ := h.read hroom hstep
      exact ⟨frames, pieces', progress', h'⟩
  | work =>
      obtain ⟨progress', h'⟩ := h.work hmax hcarries hstep (hcalm rfl)
      exact ⟨frames, pieces, progress', h'⟩
  | renew => exact ⟨frames, pieces, progress, h.renew hstep⟩
  | hear e data => exact ⟨frames, pieces, progress, h.hear hstep⟩
  | drop e reason => exact ⟨frames, pieces, progress, h.drop hstep⟩

theorem accepted_of_step? {move : Move} (h : p.step? move = some q) :
    p.accepted <+: q.accepted := by
  cases move with
  | send m =>
      rw [step?] at h
      split at h
      · cases h
        exact List.prefix_append _ _
      · cases h
        exact List.prefix_rfl
  | disconnect reason =>
      cases h
      exact List.prefix_rfl
  | write | read | work =>
      obtain ⟨_, -, rfl⟩ := Option.map_eq_some_iff.1 h
      exact List.prefix_rfl
  | carry count | close | hear e data | drop e reason =>
      rw [step?] at h
      split at h <;> cases h
      exact List.prefix_rfl
  | renew =>
      cases h
      exact List.prefix_rfl

theorem accepted_of_run? {moves : List Move} (h : p.run? moves = some q) :
    p.accepted <+: q.accepted := by
  induction moves generalizing p with
  | nil =>
      cases h
      exact List.prefix_rfl
  | cons move moves ih =>
      rw [run?] at h
      split at h
      · cases h
      · next p' hstep => exact (accepted_of_step? hstep).trans (ih h)

theorem Stands.run? {moves : List Move} (h : p.Stands g b type frames pieces progress)
    (hroom : 0 < g.protocol.bufferLength) (hmax : g.protocol.maxPayload < UInt32.size)
    (hrun : p.run? moves = some q) (hcalm : p.Undisturbed moves)
    (hcarries : ∀ m ∈ q.accepted, g.Carries m) :
    ∃ frames' pieces' progress', q.Stands g b type frames' pieces' progress' := by
  -- what was accepted on the way is among what is accepted at the end
  induction moves generalizing p frames pieces progress with
  | nil =>
      cases hrun
      exact ⟨frames, pieces, progress, h⟩
  | cons move moves ih =>
      rw [Pipe.run?] at hrun
      split at hrun
      · cases hrun
      · next p' hstep =>
        obtain ⟨hmove, hmoves⟩ := hcalm p' hstep
        have haccepted := (accepted_of_step? hstep).trans (accepted_of_run? hrun)
        obtain ⟨frames', pieces', progress', h'⟩ := h.step? hroom hmax
          (fun m hm ↦ hcarries m (haccepted.subset hm)) hstep hmove
        exact ih h' hrun hmoves

/-! ## What was dispatched -/

theorem Stands.dispatched_prefix (h : p.Stands g b type frames pieces progress)
    (hmax : g.protocol.maxPayload < UInt32.size) (hcarries : ∀ m ∈ p.accepted, g.Carries m) :
    progress.done <+: p.accepted := by
  have hparse := h.parse_frames hmax hcarries
  obtain ⟨rest, hrest⟩ := h.flatten_frames
  rw [hrest] at hparse
  obtain ⟨x, -, hagrees⟩ := h.reception.endpoint
  obtain ⟨found, hfound, -⟩ := (hagrees.taken.append rest).parse_rest_ok hparse
  refine ⟨progress.waiting ++ found, ?_⟩
  rw [← List.append_assoc]
  exact hfound.symm

theorem Stands.frames_eq_written (h : p.Stands g b type frames pieces progress)
    (hwrite : p.step? .write = none) : frames = p.writer.written := by
  obtain ⟨x, hx, hframes, hstopped⟩ := h.outbox
  have hempty : x.outbox.frames = [] := by
    cases hwriting : p.writer.writing with
    | false => exact (hstopped hwriting).1
    | true =>
        exact Link.frames_of_writeStep?_eq_none hx h.fault hwriting
          (Option.map_eq_none_iff.1 hwrite)
  rw [hframes, hempty, List.append_nil]

theorem Stands.pieces_eq_nil (h : p.Stands g b type frames pieces progress)
    (hread : p.step? .read = none) : pieces = [] := by
  cases hlost : progress.lost with
  | true => exact (h.lost hlost).2
  | false =>
      have hstep := Option.map_eq_none_iff.1 hread
      rw [Link.readStep?, h.reading, hlost, Bool.not_not, if_neg Bool.false_ne_true,
        h.isFinished hlost, if_neg Bool.false_ne_true, h.arrivals] at hstep
      cases pieces with
      | nil => rfl
      | cons piece others => cases hstep

theorem Stands.jobs_eq_nil (h : p.Stands g b type frames pieces progress)
    (hwork : p.step? .work = none) : progress.jobs p.reader.endpoint = [] := by
  obtain ⟨q, hq, hqueue⟩ := h.reception.queue
  have hidle := Option.map_eq_none_iff.1 hwork
  have hfree := hqueue.free h.steady.2
  rw [Node.work?, hq] at hidle
  have hbacklog : q.backlog = [] := by
    dsimp only at hidle
    split at hidle
    · assumption
    · next hhead =>
      rw [hhead] at hfree
      exact absurd List.mem_cons_self hfree
    · cases hidle
  rw [← hqueue.jobs, hbacklog]
  rfl

/-- When nothing is left to be done, every message has been dispatched: all octets have been
received, and no parse is still to come. -/
theorem Stands.done_eq (h : p.Stands g b type frames pieces progress)
    (hmax : g.protocol.maxPayload < UInt32.size) (hcarries : ∀ m ∈ p.accepted, g.Carries m)
    (hdrained : p.Drained) : progress.done = p.accepted := by
  obtain ⟨hwrite, hcarry, -, hread, hwork⟩ := hdrained
  obtain ⟨x, -, hagrees⟩ := h.reception.endpoint
  have hreceived : progress.received = frames.flatten := by
    have hoctets := h.octets
    rwa [h.pieces_eq_nil hread, forall_carry_iff.1 hcarry, List.flatten_nil, List.append_nil,
      List.append_nil, ← h.frames_eq_written hwrite] at hoctets
  obtain ⟨hwaiting, hparses⟩ := Progress.of_jobs_eq_nil (h.jobs_eq_nil hwork)
  have htaken := hagrees.taken
  rw [hwaiting, List.append_nil, hreceived] at htaken
  have hparse := h.parse_frames hmax hcarries
  rw [Protocol.parse_eq_ok_iff.2 ⟨htaken, hagrees.idle hparses⟩, Except.ok.injEq,
    Prod.mk.injEq] at hparse
  exact hparse.1

/-- A pipe delivers.  On every run from a fresh pipe, in whatever order sends, writer, stream,
reader and worker take their steps and whenever the sender is disconnected, the messages that
were dispatched are the first of those that were accepted, in order and each once; and when no
step is left to be taken they are all of them. -/
theorem delivery {moves : List Move} {x : Endpoint} (hfresh : p.Fresh)
    (hx : p.sink.endpoint? p.reader.endpoint = some x) (hrun : p.run? moves = some q)
    (hcalm : p.Undisturbed moves) (hcarries : ∀ m ∈ q.accepted, p.engine.Carries m) :
    q.sink.dispatched p.reader.endpoint <+:
        q.accepted.map (fun m ↦ (m, p.engine.registry.handles m x.type)) ∧
      (q.Drained → q.sink.dispatched p.reader.endpoint =
        q.accepted.map fun m ↦ (m, p.engine.registry.handles m x.type)) := by
  obtain ⟨frames, pieces, progress, h⟩ :=
    (hfresh.stands hx).run? hfresh.room hfresh.maxPayload hrun hcalm hcarries
  have hdispatched := h.reception.dispatched
  rw [h.endpoint] at hdispatched
  rw [hdispatched]
  refine ⟨(h.dispatched_prefix hfresh.maxPayload hcarries).map _, fun hdrained ↦ ?_⟩
  rw [h.done_eq hfresh.maxPayload hcarries hdrained]

end Pipe

namespace Specimen

/-- The handler of readings. -/
def seen : Handler := ⟨"seen", ⟨.tcpConnection, ""⟩, fun _ ↦ .note (.flag "seen" true) (.done .ok)⟩

/-- A program that has readings handled on the connections of its server. -/
def listening : Engine :=
  { registry := { types := [reading], handlers := [((reading, .tcpConnection), seen)] },
    protocol := masked }

def client : Endpoint := { type := ⟨.tcpClient, ""⟩, state := .connected, outbox := .fresh }

def connection : Endpoint :=
  { type := ⟨.tcpConnection, ""⟩, state := .connected, handle := some (.dedicated 0) }

/-- A client and a server's connection that were just joined. -/
def joined : Pipe where
  source := { engine := fun _ ↦ listening, endpoints := [client] }
  writer := { endpoint := 0, carrier := .stream }
  sink := { engine := fun _ ↦ listening, endpoints := [connection], queues := [{ name := "peer" }] }
  reader := { endpoint := 0, carrier := .stream }
  queue := .dedicated 0

/-- The client is disconnected before its writer has run, and the frames are cut. -/
def hasty : List Move :=
  [.send first, .send second, .disconnect .requested, .send first, .write, .carry 5, .read, .work,
    .write, .write, .carry 100, .close, .read, .read, .work, .work, .work, .work]

theorem joined_fresh : joined.Fresh where
  protocol := rfl
  maxPayload := by decide
  room := by decide
  accepted := rfl
  carried := rfl
  closed := rfl
  writer := rfl
  reader := rfl
  source := ⟨_, rfl, rfl⟩
  panic := rfl
  dispatched := rfl
  sink := ⟨_, rfl, rfl, rfl, rfl, _, rfl, rfl⟩
  alone e x i he hx := by
    cases e with
    | zero => exact absurd rfl he
    | succ e =>
        rw [Node.endpoint?] at hx
        cases hx
  queue := ⟨{ name := "peer" }, rfl, rfl, by decide +kernel, fun _ h ↦ absurd h List.not_mem_nil⟩

end Specimen

/-- Both messages arrive, though the sender was disconnected before its writer had run. -/
theorem Pipe.delivery_hasty :
    Specimen.joined.Fresh ∧ Specimen.joined.Undisturbed Specimen.hasty ∧
      ∃ q, Specimen.joined.run? Specimen.hasty = some q ∧ q.Drained ∧
        q.sink.dispatched 0 = [(Specimen.first, true), (Specimen.second, true)] := by
  have hcalm : Specimen.joined.Undisturbed Specimen.hasty := by decide +kernel
  have hsome : (Specimen.joined.run? Specimen.hasty).isSome = true := by decide +kernel
  obtain ⟨q, hq⟩ := Option.isSome_iff_exists.1 hsome
  have hdrained : ∀ q ∈ Specimen.joined.run? Specimen.hasty, q.Drained := by decide +kernel
  have haccepted : ∀ q ∈ Specimen.joined.run? Specimen.hasty,
      q.accepted = [Specimen.first, Specimen.second] := by
    decide +kernel
  have hcarries : ∀ m ∈ q.accepted, Specimen.listening.Carries m := by
    intro m hm
    rw [haccepted q hq, List.mem_cons, List.mem_singleton] at hm
    have hundone : ∀ m : Message, ∀ sender number,
        Transform.UndoneAlong sender number 0 Specimen.masked.transforms m.body :=
      fun m sender number ↦ Transform.undoneAlong_of_undoes Specimen.masked_undoes _ _ _ _
    rcases hm with rfl | rfl
    · exact ⟨rfl, Message.fits_of_length_body_lt (by decide), hundone _⟩
    · exact ⟨rfl, Message.fits_of_length_body_lt (by decide), hundone _⟩
  have hdelivered := (delivery Specimen.joined_fresh rfl hq hcalm hcarries).2 (hdrained q hq)
  rw [haccepted q hq] at hdelivered
  exact ⟨Specimen.joined_fresh, hcalm, q, hq, hdrained q hq, hdelivered⟩

end MessageEngine
