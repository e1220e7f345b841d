import Mathlib
import MessageEngine.Proofs.Delivery
import MessageEngine.Proofs.Handling

/-!
# What the reader of a link takes in

A stream brings octets cut at will, and a WebSocket brings them as binary and
text messages with pings and pongs in between.  The reader hands on what it
reads and stops at the end, while the worker of the queue takes its steps
whenever it likes.  What comes of it depends on the octets alone.
-/

namespace MessageEngine

namespace Arrival

/-- The octets that an arrival brings. -/
def payload : Arrival → Bytes
  | .octets b => b
  | .text t => utf8 t
  | .control _ | .ended | .failed _ => []

/-- With this the peer is gone: it says so, or the carrier fails, or a stream yields no octets. -/
def ends (c : Carrier) : Arrival → Bool
  | .octets b => c == .stream && b.isEmpty
  | .ended | .failed _ => true
  | .text _ | .control _ => false

end Arrival

/-- No fewer steps than some arrivals take to be read. -/
def Link.steps (xs : List Arrival) : Nat := (xs.map Link.arrivalSteps).sum

/-- An endpoint with the link that brings its octets. -/
structure Inlet where
  node : Node
  link : Link

/-- The engine of the endpoint that receives. -/
def Inlet.engine (i : Inlet) : Engine := i.node.engine i.link.endpoint

/-- What can happen at an inlet. -/
inductive Pull
  /-- The reader takes a step. -/
  | read
  /-- Something happens in the node, such as a step of a worker. -/
  | act (a : Act)
  deriving DecidableEq

/-- Only the reader brings octets to the endpoint, and no call from outside ends it. -/
def Act.Beside (b : EndpointRef) (r : QueueRef) : Act → Prop
  | .receive e _ | .disconnect e _ => e ≠ b
  | act => act.Usual r

namespace Inlet

/-- What a pull leads to, if it can be made. -/
def step? (i : Inlet) : Pull → Option Inlet
  | .read => (i.link.readStep? i.node).map fun (s, l) ↦ ⟨s, l⟩
  | .act a => (i.node.act? a).map fun s ↦ ⟨s, i.link⟩

def run? (i : Inlet) (pulls : List Pull) : Option Inlet := pulls.foldlM step? i

/-- The rate stays below its ceiling, and no handler disconnects the endpoint. -/
def Calm (r : QueueRef) (i : Inlet) (j : Inlet) : Pull → Prop
  | .read => True
  | .act a => Node.Calm i.link.endpoint r i.node a j.node

def Undisturbed (r : QueueRef) : Inlet → List Pull → Prop
  | _, [] => True
  | i, pull :: pulls => ∀ j ∈ i.step? pull, i.Calm r j pull ∧ Undisturbed r j pulls

instance (r : QueueRef) (i j : Inlet) : DecidablePred (i.Calm r j) := fun pull ↦ by
  cases pull <;> unfold Calm <;> infer_instance

instance decidableUndisturbed (r : QueueRef) :
    (pulls : List Pull) → (i : Inlet) → Decidable (Undisturbed r i pulls)
  | [], _ => inferInstanceAs (Decidable True)
  | pull :: pulls, i =>
    have : DecidablePred fun j ↦ i.Calm r j pull ∧ Undisturbed r j pulls := fun j ↦
      have := decidableUndisturbed r pulls j
      inferInstanceAs (Decidable (_ ∧ _))
    inferInstanceAs (Decidable (∀ j ∈ i.step? pull, _))

end Inlet

namespace Link

variable {s : Node} {l : Link} {x : Arrival}

theorem take_of_ends (hends : x.ends l.carrier = true) (rest : List Arrival) :
    ∃ reads, l.take s rest x = ((s.disconnect l.endpoint .connectionLost).1,
      { l with reads := reads, arrivals := rest, reading := false }) := by
  cases x with
  | text t => cases hends
  | control b => cases hends
  | ended => exact ⟨l.reads, rfl⟩
  | failed text => exact ⟨l.reads, rfl⟩
  | octets b =>
      rw [Arrival.ends, Bool.and_eq_true, beq_iff_eq, List.isEmpty_iff] at hends
      obtain ⟨hcarrier, rfl⟩ := hends
      rw [take, hcarrier]
      simp only [List.take_nil, List.isEmpty_nil, if_true]
      exact ⟨_, rfl⟩

/-- Of any other arrival the endpoint receives the beginning, and the remainder is still to be
read. -/
theorem take_of_goes_on (hgoes : x.ends l.carrier = false)
    (hroom : 0 < (s.engine l.endpoint).protocol.bufferLength) (rest : List Arrival) :
    ∃ reads chunk left, x.payload = chunk ++ left.flatMap Arrival.payload ∧
      (∀ y ∈ left, y.ends l.carrier = false) ∧ steps left < arrivalSteps x ∧
      (l.take s rest x).2 = { l with reads := reads, arrivals := left ++ rest } ∧
      ((l.take s rest x).1 = s.receive l.endpoint chunk ∨
        chunk = [] ∧ (l.take s rest x).1 = s) := by
  have hnone : ∀ y ∈ ([] : List Arrival), y.ends l.carrier = false := fun _ h ↦
    absurd h List.not_mem_nil
  cases x with
  | ended => cases hgoes
  | failed text => cases hgoes
  | text t =>
      exact ⟨l.reads, utf8 t, [], (List.append_nil _).symm, hnone, Nat.one_pos, rfl, .inl rfl⟩
  | control b => exact ⟨l.reads, [], [], rfl, hnone, Nat.one_pos, rfl, .inr ⟨rfl, rfl⟩⟩
  | octets b =>
      by_cases hcarrier : l.carrier = .stream
      · have hsome : b ≠ [] := by
          rintro rfl
          rw [Arrival.ends, hcarrier] at hgoes
          cases hgoes
        obtain ⟨reads, htake⟩ := Pipe.take_octets (s := s) hcarrier hsome hroom rest
        have hwhole := List.take_append_drop (s.engine l.endpoint).protocol.bufferLength b
        rw [htake]
        by_cases hdrop : b.drop (s.engine l.endpoint).protocol.bufferLength = []
        · rw [hdrop, List.append_nil] at hwhole
          refine ⟨reads, _, [], ?_, hnone, Nat.succ_pos _, ?_,
            .inl rfl⟩
          · rw [hwhole]
            exact (List.append_nil b).symm
          · rw [hdrop, leftover]
            rfl
        · refine ⟨reads, _, [.octets (b.drop (s.engine l.endpoint).protocol.bufferLength)], ?_, ?_,
            ?_, ?_, .inl rfl⟩
          · simp only [Arrival.payload, List.flatMap_cons, List.flatMap_nil, List.append_nil,
              hwhole]
          · intro y hy
            rw [List.mem_singleton.1 hy, Arrival.ends, List.isEmpty_eq_false_iff.2 hdrop,
              Bool.and_false]
          · have hlength := List.length_pos_iff.2 hsome
            simp only [steps, arrivalSteps, List.map_cons, List.map_nil, List.sum_cons,
              List.sum_nil, List.length_drop]
            omega
          · rw [leftover, List.isEmpty_eq_false_iff.2 hdrop]
            rfl
      · have hsocket : l.carrier = .webSocket := by
          cases hc : l.carrier with
          | stream => exact absurd hc hcarrier
          | webSocket => rfl
        refine ⟨l.reads, b, [], (List.append_nil b).symm, hnone, Nat.succ_pos _, ?_, .inl ?_⟩
        · rw [take, hsocket]
          rfl
        · rw [take, hsocket]

end Link

namespace Inlet

variable {b : EndpointRef} {r : QueueRef} {g : Engine} {type : EndpointType} {c : Carrier}
  {data : Bytes} {last : Arrival} {after left : List Arrival} {p : Progress} {i j : Inlet}

/-- How things stand at an inlet: what is to be taken in was received or is still to be read, and
when the end has been read, so has all in front of it. -/
structure Stands (b : EndpointRef) (r : QueueRef) (g : Engine) (type : EndpointType) (c : Carrier)
    (data : Bytes) (last : Arrival) (after left : List Arrival) (p : Progress) (i : Inlet) :
    Prop where
  endpoint : i.link.endpoint = b
  carrier : i.link.carrier = c
  goesOn : ∀ x ∈ left, x.ends c = false
  octets : p.received ++ left.flatMap Arrival.payload = data
  arrivals : i.link.arrivals = if p.lost then after else left ++ last :: after
  reading : i.link.reading = !p.lost
  lost : p.lost = true → left = [] ∧ i.node.reason? b = some .connectionLost
  state : p.state = .connected
  reception : i.node.Reception b r g type p

theorem Stands.engine (h : i.Stands b r g type c data last after left p) : i.engine = g := by
  rw [Inlet.engine, h.endpoint, h.reception.engine]

theorem Stands.isFinished (h : i.Stands b r g type c data last after left p)
    (hlost : p.lost = false) : i.node.isFinished b = false := by
  obtain ⟨x, hx, hagrees⟩ := h.reception.endpoint
  rw [Node.isFinished, hx]
  exact congrArg Option.isSome (hagrees.connected hlost).2.1

/-- While the reader has not stopped it can take a step, by which it stops or comes further. -/
theorem Stands.reads (h : i.Stands b r g type c data last after left p)
    (hlast : last.ends c = true) (hroom : 0 < g.protocol.bufferLength) (hlost : p.lost = false) :
    ∃ j left' p', i.step? .read = some j ∧ j.Stands b r g type c data last after left' p' ∧
      (p'.lost = true ∨ p'.lost = false ∧ Link.steps left' < Link.steps left) := by
  have hreading : i.link.reading = true := by
    rw [h.reading, hlost]
    rfl
  have hstep : ∀ x rest, i.link.arrivals = x :: rest →
      i.step? .read = some ⟨(i.link.take i.node rest x).1, (i.link.take i.node rest x).2⟩ := by
    intro x rest harrivals
    rw [step?, Link.readStep?, hreading, h.endpoint, h.isFinished hlost, harrivals]
    rfl
  have harrivals := h.arrivals
  rw [hlost, if_neg Bool.false_ne_true] at harrivals
  cases left with
  | nil =>
      rw [← h.carrier] at hlast
      obtain ⟨reads, htake⟩ := Link.take_of_ends (s := i.node) hlast after
      rw [h.endpoint] at htake
      rw [hstep last after harrivals, htake]
      have hended := (h.reception.open hlost).disconnect .connectionLost fun q _ ↦ Nat.zero_le _
      exact ⟨_, [], p.lose, rfl, { h with
        endpoint := rfl
        carrier := h.carrier
        arrivals := rfl
        reading := rfl
        lost := fun _ ↦ ⟨rfl, hended.reason?⟩
        reception := h.reception.lose hlost rfl }, .inl rfl⟩
  | cons x others =>
      have hgoes := h.goesOn x List.mem_cons_self
      have hothers : ∀ y ∈ others, y.ends c = false := fun y hy ↦
        h.goesOn y (List.mem_cons_of_mem x hy)
      rw [← h.carrier] at hgoes
      have hroom' : 0 < i.engine.protocol.bufferLength := h.engine ▸ hroom
      obtain ⟨reads, chunk, rest, hpayload, hrest, hfewer, hlink, hnode⟩ :=
        Link.take_of_goes_on (s := i.node) hgoes hroom' (others ++ last :: after)
      rw [h.endpoint] at hlink hnode
      rw [h.carrier] at hrest
      have hreceived : ∃ p', (i.link.take i.node (others ++ last :: after) x).1.Reception b r g
          type p' ∧ p'.received = p.received ++ chunk ∧ p'.lost = false ∧
          p'.state = .connected := by
        rcases hnode with hnode | ⟨rfl, hnode⟩
        · rw [hnode]
          exact ⟨p.hear chunk, h.reception.receive hlost h.state chunk, rfl, hlost, h.state⟩
        · rw [hnode]
          exact ⟨p, h.reception, (List.append_nil _).symm, hlost, h.state⟩
      obtain ⟨p', hreception, hoctets, hlost', hstate⟩ := hreceived
      refine ⟨_, rest ++ others, p', hstep x (others ++ last :: after) harrivals, {
        endpoint := ?_
        carrier := ?_
        goesOn := ?_
        octets := ?_
        arrivals := ?_
        reading := ?_
        lost := fun hgone ↦ absurd hgone (ne_true_of_eq_false hlost')
        state := hstate
        reception := hreception }, .inr ⟨hlost', ?_⟩⟩
      · rw [hlink]
      · rw [hlink]
        exact h.carrier
      · intro y hy
        exact (List.mem_append.1 hy).elim (hrest y) (hothers y)
      · rw [hoctets, List.flatMap_append, ← h.octets, List.flatMap_cons, hpayload]
        simp only [List.append_assoc]
      · rw [hlink, hlost', if_neg Bool.false_ne_true, List.append_assoc]
      · rw [hlink, hlost']
        exact hreading
      · simp only [Link.steps, List.map_append, List.sum_append, List.map_cons, List.sum_cons]
          at hfewer ⊢
        omega

theorem Stands.stopped (h : i.Stands b r g type c data last after left p) (hlost : p.lost = true) :
    i.step? .read = none := by
  rw [step?, Link.readStep?, h.reading, hlost]
  rfl

/-- What happens in the node meanwhile leaves it to the reader to bring octets and the end. -/
theorem Stands.act {a : Act} {ms : List Message} {rest : Bytes}
    (h : i.Stands b r g type c data last after left p)
    (hparse : g.protocol.parse g.registry data = .ok (ms, rest)) (hbeside : a.Beside b r)
    (hstep : i.step? (.act a) = some j) (hcalm : i.Calm r j (.act a)) :
    ∃ p', j.Stands b r g type c data last after left p' := by
  obtain ⟨s, hact, rfl⟩ := Option.map_eq_some_iff.1 hstep
  rw [Calm, h.endpoint] at hcalm
  have husual : a.Usual r := by
    cases a <;> first | exact hbeside | exact trivial
  have hnothing : Node.offer b a = [] := by
    cases a with
    | receive e bytes => exact if_neg hbeside
    | _ => rfl
  have hgood : ∀ failure, g.protocol.parse g.registry p.received ≠ .error failure := by
    intro failure hfailure
    rw [← h.octets, Protocol.parse_error_append hfailure] at hparse
    cases hparse
  have hsame : Node.MayEnd b i.node a → s.reason? b = i.node.reason? b := by
    intro hmay
    cases a with
    | disconnect e reason => exact absurd hmay hbeside
    | work t =>
        cases husual
        exact hcalm.2 rfl hmay
    | _ => cases hmay
  obtain ⟨p', hreception, hreceived, hstate, hlost⟩ :=
    h.reception.act? husual hact (fun _ _ ↦ hgood)
      (fun hmay reason hreason ↦ h.reception.keeps ((hsame hmay).symm.trans hreason)) hcalm.1
  have hlost' : p'.lost = p.lost := by
    rcases hlost with hlost | hmay
    · exact hlost
    · rw [hreception.lost_eq, h.reception.lost_eq, hsame hmay]
  refine ⟨p', { h with
    octets := ?_
    arrivals := ?_
    reading := ?_
    lost := fun hgone ↦ ?_
    state := hstate.trans h.state
    reception := hreception }⟩
  · rw [hreceived, Node.hears, hnothing, ite_self, List.append_nil]
    exact h.octets
  · rw [hlost']
    exact h.arrivals
  · rw [hlost']
    exact h.reading
  · obtain ⟨hleft, hreason⟩ := h.lost (hlost'.symm.trans hgone)
    rcases h.reception.open_or_ended with hopen | ⟨reason, hended⟩
    · rw [hopen.reason?] at hreason
      cases hreason
    · have hended' := (hended.act? husual hact).1
      rw [hended.reason?] at hreason
      exact ⟨hleft, hended'.reason?.trans hreason⟩

theorem Stands.run? {pulls : List Pull} {ms : List Message} {rest : Bytes}
    (h : i.Stands b r g type c data last after left p) (hlast : last.ends c = true)
    (hroom : 0 < g.protocol.bufferLength)
    (hparse : g.protocol.parse g.registry data = .ok (ms, rest))
    (hbeside : ∀ a, .act a ∈ pulls → a.Beside b r) (hrun : i.run? pulls = some j)
    (hcalm : i.Undisturbed r pulls) :
    ∃ left' p', j.Stands b r g type c data last after left' p' := by
  induction pulls generalizing i left p with
  | nil =>
      cases hrun
      exact ⟨left, p, h⟩
  | cons pull pulls ih =>
      obtain ⟨i₁, hstep, hrest⟩ := foldlM_cons_eq_some.1 hrun
      obtain ⟨hfirst, hothers⟩ := hcalm i₁ hstep
      have hbeside' : ∀ a, .act a ∈ pulls → a.Beside b r := fun a ha ↦
        hbeside a (List.mem_cons_of_mem pull ha)
      cases pull with
      | act a =>
          obtain ⟨p₁, h₁⟩ := h.act hparse (hbeside a List.mem_cons_self) hstep hfirst
          exact ih h₁ hbeside' hrest hothers
      | read =>
          cases hlost : p.lost with
          | true =>
              rw [h.stopped hlost] at hstep
              cases hstep
          | false =>
              obtain ⟨i₂, left₁, p₁, hread, h₁, -⟩ := h.reads hlast hroom hlost
              rw [hstep, Option.some.injEq] at hread
              subst hread
              exact ih h₁ hbeside' hrest hothers

/-- The reader comes to the end, whatever the worker does meanwhile or leaves undone. -/
theorem Stands.reaches_end (h : i.Stands b r g type c data last after left p)
    (hlast : last.ends c = true) (hroom : 0 < g.protocol.bufferLength) :
    ∃ n j, i.run? (List.replicate n .read) = some j ∧ j.link.reading = false := by
  -- every step leaves less to be read in front of the end
  induction hsteps : Link.steps left using Nat.strongRecOn generalizing i left p with
  | ind steps ih =>
      cases hlost : p.lost with
      | true =>
          refine ⟨0, i, rfl, ?_⟩
          rw [h.reading, hlost]
          rfl
      | false =>
          obtain ⟨i₁, left₁, p₁, hread, h₁, hfewer⟩ := h.reads hlast hroom hlost
          rcases hfewer with hlost₁ | ⟨-, hfewer⟩
          · refine ⟨1, i₁, foldlM_cons_eq_some.2 ⟨i₁, hread, rfl⟩, ?_⟩
            rw [h₁.reading, hlost₁]
            rfl
          · obtain ⟨n, j, hrun, hend⟩ := ih _ (hsteps ▸ hfewer) h₁ rfl
            exact ⟨n + 1, j, foldlM_cons_eq_some.2 ⟨i₁, hread, hrun⟩, hend⟩

theorem stands {x : Endpoint} {items : List Arrival}
    (h : i.node.Listens i.link.endpoint r) (hx : i.node.endpoint? i.link.endpoint = some x)
    (hconnected : x.state = .connected) (hreading : i.link.reading = true)
    (harrivals : i.link.arrivals = items ++ last :: after)
    (hitems : ∀ y ∈ items, y.ends i.link.carrier = false) :
    i.Stands i.link.endpoint r i.engine x.type i.link.carrier
      (items.flatMap Arrival.payload) last after items
      { state := x.state, held := true } where
  endpoint := rfl
  carrier := rfl
  goesOn := hitems
  octets := List.nil_append _
  arrivals := harrivals
  reading := hreading
  lost hlost := by cases hlost
  state := hconnected
  reception := h.reception hx

/-- Let octets that are well-formed come over a link in any pieces, with an end behind them, and let
the reader and the worker take their steps in any order.  Their messages are dispatched in order
and each once, however the octets were cut and whichever carrier brought them.  The reader comes to
the end and reads nothing behind it; the endpoint has then lost its connection, and when nothing is
left to be done, all messages were dispatched and the buffer is empty. -/
theorem takes_in {x : Endpoint} {items : List Arrival} {pulls : List Pull} {ms : List Message}
    {rest : Bytes} (h : i.node.Listens i.link.endpoint r)
    (hx : i.node.endpoint? i.link.endpoint = some x) (hconnected : x.state = .connected)
    (hroom : 0 < i.engine.protocol.bufferLength) (hreading : i.link.reading = true)
    (harrivals : i.link.arrivals = items ++ last :: after)
    (hitems : ∀ y ∈ items, y.ends i.link.carrier = false)
    (hlast : last.ends i.link.carrier = true)
    (hparse : i.engine.parse (items.flatMap Arrival.payload) = .ok (ms, rest))
    (hbeside : ∀ a, .act a ∈ pulls → a.Beside i.link.endpoint r)
    (hrun : i.run? pulls = some j) (hcalm : i.Undisturbed r pulls) :
    j.node.dispatched i.link.endpoint <+:
        ms.map (fun m ↦ (m, i.engine.registry.handles m x.type)) ∧
      (j.link.reading = true →
        last :: after <:+ j.link.arrivals ∧ j.node.reason? i.link.endpoint = none ∧
          ∃ n k, j.run? (List.replicate n .read) = some k ∧ k.link.reading = false) ∧
      (j.link.reading = false →
        j.link.arrivals = after ∧ j.step? .read = none ∧
          ∃ y, j.node.endpoint? i.link.endpoint = some y ∧ y.state = .disconnected ∧
            y.reason = some .connectionLost ∧
            (j.node.Idle i.link.endpoint r →
              j.node.dispatched i.link.endpoint =
                  ms.map (fun m ↦ (m, i.engine.registry.handles m x.type)) ∧
                y.buffer = [])) := by
  obtain ⟨left, p, hends⟩ := (stands h hx hconnected hreading harrivals hitems).run? hlast hroom
    hparse hbeside hrun hcalm
  obtain ⟨y, hy, hagrees⟩ := hends.reception.endpoint
  refine ⟨?_, ?_, ?_⟩
  · rw [← hends.octets] at hparse
    exact hends.reception.prefix_of_parse_ok hparse
  · intro hstill
    rw [hends.reading, Bool.not_eq_true'] at hstill
    refine ⟨?_, (hends.reception.open hstill).reason?, hends.reaches_end hlast hroom⟩
    rw [hends.arrivals, hstill, if_neg Bool.false_ne_true]
    exact List.suffix_append left _
  · intro hover
    rw [hends.reading, Bool.not_eq_false'] at hover
    obtain ⟨hnothing, hreason⟩ := hends.lost hover
    rw [Node.reason?, hy, Option.bind_some] at hreason
    refine ⟨?_, hends.stopped hover, y, hy, (hagrees.ended hover).1, hreason, fun hidle ↦ ?_⟩
    · rw [hends.arrivals, hover, if_pos rfl]
    · obtain ⟨hdone, hreset⟩ := hends.reception.drained hidle
      have hreceived := hends.octets
      rw [hnothing, List.flatMap_nil, List.append_nil] at hreceived
      rw [Engine.parse, ← hreceived, hdone, Except.ok.injEq, Prod.mk.injEq] at hparse
      refine ⟨?_, ?_⟩
      · rw [← hparse.1]
        exact hends.reception.dispatched
      · rw [hagrees.buffer, hover, hreset]
        rfl

end Inlet

namespace Specimen

/-- Two frames and the beginning of a third, cut within the first, and then a stream fails. -/
def torn : List Arrival :=
  [.octets [7, 0, 17, 0, 0, 0, 3, 1, 0, 192],
    .octets [127, 2, 0, 0, 0, 1, 1, 0, 0, 0, 97, 0, 95, 7, 0, 10, 0, 0, 0, 3, 0, 0, 0, 0, 0, 0, 0,
      0, 95, 9, 0, 17]]

/-- The same octets in messages of a WebSocket, with a ping in between. -/
def told : List Arrival :=
  [.octets [7, 0, 17, 0, 0, 0, 3, 1, 0, 192], .control [1],
    .octets [127, 2, 0, 0, 0, 1, 1, 0, 0, 0, 97, 0, 95],
    .text "\x07\x00\n\x00\x00\x00\x03\x00\x00\x00\x00\x00\x00\x00\x00_\t\x00\x11"]

def inlet (carrier : Carrier) (arrivals : List Arrival) : Inlet where
  node := crowded
  link := { endpoint := 0, carrier := carrier, arrivals := arrivals }

def stream : Inlet := inlet .stream (torn ++ [.failed "reset", .octets [7]])

def socket : Inlet := inlet .webSocket (told ++ [.ended, .text "a"])

/-- The end is read before anything has been parsed. -/
def readFirst (reads works : Nat) : List Pull :=
  List.replicate reads .read ++ List.replicate works (.act (.work (.pooled 0 0)))

theorem beside_readFirst {reads works : Nat} {a : Act} (h : .act a ∈ readFirst reads works) :
    a.Beside 0 (.pooled 0 0) := by
  rw [readFirst, List.mem_append] at h
  rcases h with h | h
  · cases (List.mem_replicate.1 h).2
  · cases (List.mem_replicate.1 h).2
    rfl

theorem parse_torn : (crowded.engine 0).protocol.parse (crowded.engine 0).registry
    (torn.flatMap Arrival.payload) = .ok ([first, second], [9, 0, 17]) := by
  decide +kernel

theorem payload_told : told.flatMap Arrival.payload = torn.flatMap Arrival.payload := by
  decide +kernel

end Specimen

/-- Over a stream that fails and over a WebSocket that is closed come the same messages. -/
theorem Inlet.takes_in_told :
    (∃ j, Specimen.stream.run? (Specimen.readFirst 3 6) = some j ∧
        j.link.arrivals = [.octets [7]] ∧
        j.node.dispatched 0 = [(Specimen.first, true), (Specimen.second, true)] ∧
        ∃ y, j.node.endpoint? 0 = some y ∧ y.reason = some .connectionLost ∧ y.buffer = []) ∧
      ∃ j, Specimen.socket.run? (Specimen.readFirst 5 7) = some j ∧
        j.link.arrivals = [.text "a"] ∧
        j.node.dispatched 0 = [(Specimen.first, true), (Specimen.second, true)] ∧
        ∃ y, j.node.endpoint? 0 = some y ∧ y.reason = some .connectionLost ∧ y.buffer = [] := by
  constructor
  · have hsome : (Specimen.stream.run? (Specimen.readFirst 3 6)).isSome = true := by
      decide +kernel
    obtain ⟨j, hj⟩ := Option.isSome_iff_exists.1 hsome
    have hend : ∀ j ∈ Specimen.stream.run? (Specimen.readFirst 3 6),
        j.link.reading = false ∧ j.node.Idle 0 (.pooled 0 0) := by
      decide +kernel
    obtain ⟨hover, hidle⟩ := hend j hj
    obtain ⟨hrest, -, y, hy, -, hreason, hdone⟩ := (takes_in (i := Specimen.stream)
      Specimen.crowded_listens rfl rfl (by decide) rfl rfl (by decide) rfl Specimen.parse_torn
      (fun _ ↦ Specimen.beside_readFirst) hj (by decide +kernel)).2.2 hover
    exact ⟨j, hj, hrest, (hdone hidle).1, y, hy, hreason, (hdone hidle).2⟩
  · have hsome : (Specimen.socket.run? (Specimen.readFirst 5 7)).isSome = true := by
      decide +kernel
    obtain ⟨j, hj⟩ := Option.isSome_iff_exists.1 hsome
    have hend : ∀ j ∈ Specimen.socket.run? (Specimen.readFirst 5 7),
        j.link.reading = false ∧ j.node.Idle 0 (.pooled 0 0) := by
      decide +kernel
    obtain ⟨hover, hidle⟩ := hend j hj
    obtain ⟨hrest, -, y, hy, -, hreason, hdone⟩ := (takes_in (i := Specimen.socket)
      Specimen.crowded_listens rfl rfl (by decide) rfl rfl (by decide) rfl
      (Specimen.payload_told ▸ Specimen.parse_torn) (fun _ ↦ Specimen.beside_readFirst) hj
      (by decide +kernel)).2.2 hover
    exact ⟨j, hj, hrest, (hdone hidle).1, y, hy, hreason, (hdone hidle).2⟩

end MessageEngine
