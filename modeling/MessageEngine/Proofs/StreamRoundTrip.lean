import MessageEngine.Proofs.FrameParsing
import MessageEngine.Proofs.WireRoundTrip
import MessageEngine.Transform.Simple
import Mathlib.Data.List.Forall2

/-!
# A stream of frames is read back

The frames of messages, one behind the other, parse to these messages and
leave nothing.  Of the transforms it takes that each undoes what it did to
the octets it was given, and of the messages that no length in them was
written wrongly; without transforms a message with such a length never
becomes a frame.
-/

namespace MessageEngine

/-- The number of a type leads back to the type. -/
def Registry.Knows (r : Registry) (t : MessageType) : Prop := r.typeOf? t.id = some t

namespace Transform

/-- Each of a line of transforms undoes what it makes of the octets that it is given, when data
is encoded with the first of them at the given stage. -/
def UndoneAlong (sender frame : UInt64) : Nat → List Transform → Bytes → Prop
  | _, [], _ => True
  | stage, t :: rest, data => ∀ coded, t.encode ⟨sender, frame, .ofNat stage⟩ data = .ok coded →
      t.decode coded = .ok data ∧ UndoneAlong sender frame (stage + 1) rest coded

theorem undoneAlong_of_undoes {ts : List Transform} (h : ∀ t ∈ ts, t.Undoes)
    (sender frame : UInt64) (stage : Nat) (data : Bytes) :
    UndoneAlong sender frame stage ts data := by
  induction ts generalizing stage data with
  | nil => trivial
  | cons t rest ih =>
      intro coded hcoded
      exact ⟨h t List.mem_cons_self _ _ _ hcoded,
        ih (fun u hu ↦ h u (List.mem_cons_of_mem t hu)) (stage + 1) coded⟩

theorem decodeAll_of_encodeAll {sender frame : UInt64} {stage : Nat} {ts : List Transform}
    {data coded : Bytes} (hundone : UndoneAlong sender frame stage ts data)
    (hcoded : encodeAll sender frame stage ts data = .ok coded) :
    decodeAll ts coded = .ok data := by
  induction ts generalizing stage data with
  | nil =>
      rw [encodeAll, Except.ok.injEq] at hcoded
      rw [decodeAll, hcoded]
  | cons t rest ih =>
      rw [encodeAll] at hcoded
      split at hcoded
      · next between ht =>
        obtain ⟨hback, hrest⟩ := hundone between ht
        rw [decodeAll, ih hrest hcoded]
        exact hback
      · cases hcoded

end Transform

theorem Header.split?_toBytes {h : Header} (hl : h.length < UInt32.size) (rest : Bytes) :
    split? (h.toBytes ++ rest) = some (h, rest) := by
  have hid : Bytes.ofLE (Bytes.le 2 h.id.toNat) = h.id.toNat := by
    rw [Bytes.ofLE_le]
    exact Nat.mod_eq_of_lt h.id.toNat_lt
  have hlength : Bytes.ofLE (Bytes.le 4 h.length) = h.length := by
    rw [Bytes.ofLE_le]
    exact Nat.mod_eq_of_lt hl
  simp only [Bytes.le] at hid hlength
  simp only [toBytes, Bytes.le, List.cons_append, List.nil_append, split?, hid, hlength,
    UInt16.ofNat_toNat]

namespace Protocol

/-- The frame of a message: its number, the true count of what follows, its version, and the
octets of its fields as they are sent. -/
def Frames (m : Message) (frame : Bytes) : Prop :=
  ∃ fields, frame = Bytes.le 2 m.id.toNat ++ Bytes.le 4 (fields.length + 1) ++
      m.type.version :: fields ∧
    fields.length + 1 < UInt32.size

/-- A message became a frame, through transforms that undo what they did to it. -/
def Writes (p : Protocol) (m : Message) (frame : Bytes) : Prop :=
  ∃ sender number, p.serialize sender number m = .ok frame ∧
    Transform.UndoneAlong sender number 0 p.transforms m.body

section Serialize

variable {p : Protocol} {registry : Registry} {sender number : UInt64} {m : Message}
  {frame : Bytes}

theorem serialize_eq_ok_iff :
    p.serialize sender number m = .ok frame ↔
      ∃ fields, Transform.encodeAll sender number 0 p.transforms m.body = .ok fields ∧
        fields.length + 1 ≤ p.maxPayload ∧
        frame = Header.toBytes ⟨m.id, fields.length + 1⟩ ++ m.type.version :: fields := by
  rw [serialize]
  cases Transform.encodeAll sender number 0 p.transforms m.body with
  | error e => simp
  | ok fields =>
      simp only [List.length_cons, Except.ok.injEq, exists_eq_left']
      split
      · next h => simp only [reduceCtorEq, false_iff]; omega
      · next h => rw [Except.ok.injEq]; exact ⟨fun hf ↦ ⟨by omega, hf.symm⟩, fun hf ↦ hf.2.symm⟩

theorem frames_of_serialize (hmax : p.maxPayload < UInt32.size)
    (hs : p.serialize sender number m = .ok frame) : Frames m frame := by
  obtain ⟨fields, _, hlen, rfl⟩ := serialize_eq_ok_iff.1 hs
  exact ⟨fields, rfl, Nat.lt_of_le_of_lt hlen hmax⟩

/-- A payload that is not too large holds no length that was written wrongly. -/
theorem fits_of_serialize (hmax : p.maxPayload < UInt32.size) (hnone : p.transforms = [])
    (hs : p.serialize sender number m = .ok frame) : m.Fits := by
  obtain ⟨fields, hcoded, hlen, -⟩ := serialize_eq_ok_iff.1 hs
  rw [hnone, Transform.encodeAll, Except.ok.injEq] at hcoded
  subst hcoded
  exact Message.fits_of_length_body_lt (by omega)

theorem fits_of_writes {ms : List Message} {frames : List Bytes} (hmax : p.maxPayload < UInt32.size)
    (hnone : p.transforms = []) (hw : List.Forall₂ p.Writes ms frames) : ∀ m ∈ ms, m.Fits := by
  have hboth : List.Forall₂ (fun m frame ↦ m.Fits ∧ p.Writes m frame) ms frames :=
    hw.imp fun _ _ ⟨sender, number, hs, hundone⟩ ↦
      ⟨fits_of_serialize hmax hnone hs, sender, number, hs, hundone⟩
  exact ((List.forall₂_and_left ms frames).1 hboth).1

theorem serialize_of_not_fits (hmax : p.maxPayload < UInt32.size) (hnone : p.transforms = [])
    (hm : ¬ m.Fits) :
    p.serialize sender number m =
      .error (.payloadTooLarge (m.body.length + 1) p.maxPayload) := by
  have hlen : UInt32.size ≤ m.body.length :=
    Nat.le_of_not_lt fun h ↦ hm (Message.fits_of_length_body_lt h)
  have hlarge : m.body.length + 1 > p.maxPayload := by omega
  rw [serialize, hnone]
  simp only [Transform.encodeAll, List.length_cons, hlarge, if_true]

/-- What the receiver makes of the payload of a frame when its transforms give back the fields. -/
theorem decodePayload_of_decodeAll {fields : Bytes} (hm : m.Fits)
    (hback : Transform.decodeAll p.transforms fields = .ok m.body) :
    p.decodePayload m.type m.type.version fields = .ok m := by
  have hread : readFields m.type m.body = .ok m := by
    rw [readFields, MessageType.read_body hm]
    rfl
  simp only [decodePayload, bne_self_eq_false, Bool.and_false, Bool.false_eq_true, if_false,
    hback, hread]
  rfl

theorem announced_of_known (hknown : registry.Knows m.type) {n : Nat} (hn : n + 1 ≤ p.maxPayload) :
    p.announced registry ⟨m.id, n + 1⟩ = .ok m.type := by
  have htype : registry.typeOf? m.id = some m.type := hknown
  have hsmall : ¬ n + 1 > p.maxPayload := Nat.not_lt.2 hn
  simp only [announced, Nat.add_one_ne_zero, if_false, hsmall, htype]

theorem front_of_writes (hmax : p.maxPayload < UInt32.size) (hknown : registry.Knows m.type)
    (hm : m.Fits) (hw : p.Writes m frame) (rest : Bytes) :
    p.front registry (frame ++ rest) = .frame m rest := by
  obtain ⟨sender, number, hs, hundone⟩ := hw
  obtain ⟨fields, hcoded, hlen, rfl⟩ := serialize_eq_ok_iff.1 hs
  have hback := Transform.decodeAll_of_encodeAll hundone hcoded
  rw [List.append_assoc]
  refine front_eq_frame_iff.2 ⟨⟨m.id, fields.length + 1⟩, m.type.version :: fields ++ rest, m.type,
    m.type.version, fields, Header.split?_toBytes (Nat.lt_of_le_of_lt hlen hmax) _,
    announced_of_known hknown hlen, ?_, ?_, decodePayload_of_decodeAll hm hback, ?_⟩
  · simp
  · exact List.take_left' rfl
  · exact List.drop_left' rfl

/-- The frames of messages are taken off the front of a buffer one after the other. -/
theorem takes_flatten {ms : List Message} {frames : List Bytes} (hmax : p.maxPayload < UInt32.size)
    (hknown : ∀ m ∈ ms, registry.Knows m.type) (hfits : ∀ m ∈ ms, m.Fits)
    (hw : List.Forall₂ p.Writes ms frames) (rest : Bytes) :
    p.Takes registry (frames.flatten ++ rest) ms rest := by
  induction hw with
  | nil => exact .nil rest
  | cons hfirst _ ih =>
      rw [List.flatten_cons, List.append_assoc]
      exact .cons
        (front_of_writes hmax (hknown _ List.mem_cons_self) (hfits _ List.mem_cons_self) hfirst _)
        (ih (fun m hm ↦ hknown m (List.mem_cons_of_mem _ hm))
          fun m hm ↦ hfits m (List.mem_cons_of_mem _ hm))

theorem parse_flatten {ms : List Message} {frames : List Bytes} (hmax : p.maxPayload < UInt32.size)
    (hknown : ∀ m ∈ ms, registry.Knows m.type) (hfits : ∀ m ∈ ms, m.Fits)
    (hw : List.Forall₂ p.Writes ms frames) : p.parse registry frames.flatten = .ok (ms, []) := by
  have htakes := takes_flatten hmax hknown hfits hw []
  rw [List.append_nil] at htakes
  exact parse_eq_ok_iff.2 ⟨htakes, front_nil⟩

/-- Messages of known types, written one behind the other, are read back in order, and nothing
is left.  Each stands in a frame with its number, its length and its version.  Without
transforms nothing need be known of the lengths in them: a message that holds one too large for
its four octets is refused when it is to be written. -/
theorem stream_round_trip {ms : List Message} {frames : List Bytes}
    (hmax : p.maxPayload < UInt32.size) (hknown : ∀ m ∈ ms, registry.Knows m.type)
    (hw : List.Forall₂ p.Writes ms frames) (hfits : p.transforms ≠ [] → ∀ m ∈ ms, m.Fits) :
    List.Forall₂ Frames ms frames ∧ p.parse registry frames.flatten = .ok (ms, []) ∧
      (p.transforms = [] → ∀ sender number (m : Message), ¬ m.Fits →
        p.serialize sender number m =
          .error (.payloadTooLarge (m.body.length + 1) p.maxPayload)) := by
  have hall : ∀ m ∈ ms, m.Fits := by
    by_cases hnone : p.transforms = []
    · exact fits_of_writes hmax hnone hw
    · exact hfits hnone
  refine ⟨?_, parse_flatten hmax hknown hall hw, ?_⟩
  · exact hw.imp fun _ _ ⟨_, _, hs, _⟩ ↦ frames_of_serialize hmax hs
  · intro hnone sender number m hm
    exact serialize_of_not_fits hmax hnone hm

end Serialize

end Protocol

namespace Specimen

/-- A measurement with labels, some of them missing. -/
def reading : MessageType where
  name := "reading"
  id := 7
  version := 3
  registered := 3
  fields := [⟨"value", .scalar .f32⟩, ⟨"labels", .vec (.opt .string)⟩]

def registry : Registry := { types := [reading] }

def first : Message := ⟨reading, ((0x7fc00001 : UInt32), [some "a", none], ())⟩

def second : Message := ⟨reading, ((0 : UInt32), [], ())⟩

/-- A line of transforms in which one stands twice. -/
def masked : Protocol := { transforms := [.masking 90, .appending 5, .masking 90] }

theorem masked_undoes : ∀ t ∈ masked.transforms, t.Undoes := by
  intro t ht
  simp only [masked, List.mem_cons, List.not_mem_nil, or_false] at ht
  rcases ht with rfl | rfl | rfl
  · exact Transform.masking_undoes 90
  · exact Transform.appending_undoes 5
  · exact Transform.masking_undoes 90

end Specimen

theorem Protocol.stream_round_trip_masked :
    Specimen.masked.parse Specimen.registry
      ([[7, 0, 17, 0, 0, 0, 3, 1, 0, 192, 127, 2, 0, 0, 0, 1, 1, 0, 0, 0, 97, 0, 95],
        [7, 0, 10, 0, 0, 0, 3, 0, 0, 0, 0, 0, 0, 0, 0, 95]] : List Bytes).flatten =
      .ok ([Specimen.first, Specimen.second], []) := by
  have hw : List.Forall₂ Specimen.masked.Writes [Specimen.first, Specimen.second]
      [[7, 0, 17, 0, 0, 0, 3, 1, 0, 192, 127, 2, 0, 0, 0, 1, 1, 0, 0, 0, 97, 0, 95],
        [7, 0, 10, 0, 0, 0, 3, 0, 0, 0, 0, 0, 0, 0, 0, 95]] :=
    .cons ⟨1, 0, rfl, Transform.undoneAlong_of_undoes Specimen.masked_undoes 1 0 0 _⟩
      (.cons ⟨1, 1, rfl, Transform.undoneAlong_of_undoes Specimen.masked_undoes 1 1 0 _⟩ .nil)
  refine (stream_round_trip (by decide) ?_ hw ?_).2.1
  · intro m hm
    simp only [List.mem_cons, List.not_mem_nil, or_false] at hm
    rcases hm with rfl | rfl <;> rfl
  · intro _ m hm
    simp only [List.mem_cons, List.not_mem_nil, or_false] at hm
    rcases hm with rfl | rfl <;> exact Message.fits_of_length_body_lt (by decide)

end MessageEngine
