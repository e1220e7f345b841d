import MessageEngine.Proofs.CanonicalWire
import MessageEngine.Proofs.StreamRoundTrip

/-!
# The grammar of a stream

Without transforms and with strict versions a stream is accepted only if it
is what a sender would write: the frames of messages of known types, one
behind the other, and then what may be the beginning of another frame.  All
of that is accepted, so the frames in a stream can be told apart in one way
only.
-/

namespace MessageEngine

namespace Registry

variable {registry : Registry} {id : UInt16} {t : MessageType}

theorem id_of_typeOf? (h : registry.typeOf? id = some t) : t.id = id := by
  have hfound := List.find?_some h
  simpa using hfound

theorem knows_of_typeOf? (h : registry.typeOf? id = some t) : registry.Knows t := by
  rw [Knows, id_of_typeOf? h]
  exact h

end Registry

theorem Header.eq_of_split? {b ahead : Bytes} {h : Header} (hs : split? b = some (h, ahead)) :
    b = h.toBytes ++ ahead := by
  match b, hs with
  | x₁ :: x₂ :: x₃ :: x₄ :: x₅ :: x₆ :: tail, hs =>
      simp only [split?, Option.some.injEq, Prod.mk.injEq] at hs
      obtain ⟨rfl, rfl⟩ := hs
      have hid : (UInt16.ofNat (Bytes.ofLE [x₁, x₂])).toNat = Bytes.ofLE [x₁, x₂] := by
        have hsmall : Bytes.ofLE [x₁, x₂] < Bytes.capacity 2 := Bytes.ofLE_lt [x₁, x₂]
        rw [UInt16.toNat_ofNat']
        exact Nat.mod_eq_of_lt hsmall
      have hfirst : Bytes.le 2 (Bytes.ofLE [x₁, x₂]) = [x₁, x₂] := Bytes.le_ofLE [x₁, x₂]
      have hsecond : Bytes.le 4 (Bytes.ofLE [x₃, x₄, x₅, x₆]) = [x₃, x₄, x₅, x₆] :=
        Bytes.le_ofLE [x₃, x₄, x₅, x₆]
      rw [toBytes, hid, hfirst, hsecond]
      rfl

theorem Header.length_lt_of_split? {b ahead : Bytes} {h : Header}
    (hs : split? b = some (h, ahead)) : h.length < UInt32.size := by
  match b, hs with
  | _ :: _ :: c :: d :: e :: f :: tail, hs =>
      simp only [split?, Option.some.injEq, Prod.mk.injEq] at hs
      have hsmall : Bytes.ofLE [c, d, e, f] < Bytes.capacity 4 := Bytes.ofLE_lt [c, d, e, f]
      rw [← hs.1]
      exact hsmall

theorem Header.split?_eq_none_iff {b : Bytes} : split? b = none ↔ b.length < headerSize := by
  match b with
  | [] | [_] | [_, _] | [_, _, _] | [_, _, _, _] | [_, _, _, _, _] => simp [split?, headerSize]
  | _ :: _ :: _ :: _ :: _ :: _ :: _ => simp [split?, headerSize]

namespace Protocol

/-- These frames are written for the messages, all of known types, whoever sends them. -/
def Spells (p : Protocol) (registry : Registry) (ms : List Message) (frames : List Bytes) : Prop :=
  List.Forall₂ (fun m frame ↦ registry.Knows m.type ∧
    ∀ sender number, p.serialize sender number m = .ok frame) ms frames

/-- Less than a header, or the header of a frame that will be taken and less than its payload. -/
def Tail (p : Protocol) (registry : Registry) (b : Bytes) : Prop :=
  b.length < headerSize ∨ ∃ (h : Header) (ahead : Bytes), b = h.toBytes ++ ahead ∧
    registry.isRegistered h.id = true ∧ 1 ≤ h.length ∧ h.length ≤ p.maxPayload ∧
      ahead.length < h.length

/-- A frame with a number and a payload, of which its header gives the true length. -/
def Carries (id : UInt16) (payload frame : Bytes) : Prop :=
  Header.split? frame = some (⟨id, payload.length⟩, payload)

section Grammar

variable {p : Protocol} {registry : Registry}

theorem announced_eq_ok_iff {h : Header} {t : MessageType} :
    p.announced registry h = .ok t ↔
      1 ≤ h.length ∧ h.length ≤ p.maxPayload ∧ registry.typeOf? h.id = some t := by
  rw [announced]
  by_cases hzero : h.length = 0
  · simp [hzero]
  · have hpos : 1 ≤ h.length := Nat.one_le_iff_ne_zero.2 hzero
    by_cases hlarge : h.length > p.maxPayload
    · have hnot : ¬ h.length ≤ p.maxPayload := Nat.not_le.2 hlarge
      simp [hzero, hlarge, hnot]
    · have hsmall : h.length ≤ p.maxPayload := Nat.not_lt.1 hlarge
      cases htype : registry.typeOf? h.id with
      | none => simp [hzero, hlarge]
      | some u => simp [hzero, hlarge, hpos, hsmall]

theorem front_of_announced {b ahead : Bytes} {h : Header} {t : MessageType}
    (hs : Header.split? b = some (h, ahead)) (ha : p.announced registry h = .ok t) :
    p.front registry b = .incomplete ↔ ahead.length < h.length := by
  have hpos := (announced_eq_ok_iff.1 ha).1
  by_cases hholds : ahead.holds h.length = true
  · have hlen : h.length ≤ ahead.length := (Bytes.holds_iff _ _).1 hholds
    have htaken : (ahead.take h.length).length = h.length := List.length_take_of_le hlen
    have hnot : ¬ ahead.length < h.length := Nat.not_lt.2 hlen
    simp only [front, hs, ha, hholds, if_true, hnot, iff_false]
    split
    · next hnil =>
      rw [hnil, List.length_nil] at htaken
      omega
    · split <;> exact Front.noConfusion
  · have hlen : ahead.length < h.length := by
      rw [Bytes.holds_iff] at hholds
      exact Nat.not_le.1 hholds
    simp [front, hs, ha, hholds, hlen]

theorem front_eq_incomplete_iff (hmax : p.maxPayload < UInt32.size) {b : Bytes} :
    p.front registry b = .incomplete ↔ p.Tail registry b := by
  constructor
  · intro hf
    cases hs : Header.split? b with
    | none => exact .inl (Header.split?_eq_none_iff.1 hs)
    | some found =>
        obtain ⟨h, ahead⟩ := found
        cases ha : p.announced registry h with
        | error e => simp [front, hs, ha] at hf
        | ok t =>
            obtain ⟨hpos, hsmall, htype⟩ := announced_eq_ok_iff.1 ha
            have hknown : registry.isRegistered h.id = true := congrArg Option.isSome htype
            exact .inr ⟨h, ahead, Header.eq_of_split? hs, hknown, hpos, hsmall,
              (front_of_announced hs ha).1 hf⟩
  · rintro (hshort | ⟨h, ahead, rfl, hknown, hpos, hsmall, hlen⟩)
    · simp only [front, Header.split?_eq_none_iff.2 hshort]
    · obtain ⟨t, htype⟩ := Option.isSome_iff_exists.1 hknown
      have hs := Header.split?_toBytes (Nat.lt_of_le_of_lt hsmall hmax) ahead
      exact (front_of_announced hs (announced_eq_ok_iff.2 ⟨hpos, hsmall, htype⟩)).2 hlen

theorem readFields_eq_ok {t : MessageType} {fields : Bytes} {m : Message}
    (h : readFields t fields = .ok m) : m.type = t ∧ fields = m.body := by
  rw [readFields] at h
  split at h
  · cases h
  · next m' r hread =>
    split at h
    · cases h
    · next hend =>
      cases h
      obtain ⟨htype, hpasses⟩ := MessageType.read_eq_ok hread
      have hnil : r.unread = [] := by simpa [Reader.hasRemaining] using hend
      have hall := hpasses.unread
      rw [hnil, List.append_nil] at hall
      exact ⟨htype, hall⟩

/-- A payload becomes a message if its version will do and its fields, transformed back, are
those of the message. -/
theorem decodePayload_eq_ok_iff {t : MessageType} {version : UInt8} {fields : Bytes}
    {m : Message} : p.decodePayload t version fields = .ok m ↔
      (p.strictVersions = true → version = t.version) ∧
        ∃ plain, Transform.decodeAll p.transforms fields = .ok plain ∧
          readFields t plain = .ok m := by
  rw [decodePayload]
  by_cases hversion : p.strictVersions = true → version = t.version
  · have hno : ¬ (p.strictVersions && version != t.version) = true := by simpa using hversion
    rw [if_neg hno]
    cases Transform.decodeAll p.transforms fields with
    | error failure => simp
    | ok plain =>
        cases hread : readFields t plain with
        | error e => simp [hread, Except.mapError]
        | ok found => simpa [hread, Except.mapError] using fun _ ↦ hversion
  · have hyes : (p.strictVersions && version != t.version) = true := by simpa using hversion
    simp [hyes, hversion]

theorem decodePayload_eq_ok (hstrict : p.strictVersions = true) (hnone : p.transforms = [])
    {t : MessageType} {version : UInt8} {fields : Bytes} {m : Message}
    (h : p.decodePayload t version fields = .ok m) :
    version = m.type.version ∧ m.type = t ∧ fields = m.body := by
  obtain ⟨hversion, plain, hplain, hread⟩ := decodePayload_eq_ok_iff.1 h
  rw [hnone, Transform.decodeAll, Except.ok.injEq] at hplain
  subst hplain
  obtain ⟨rfl, hbody⟩ := readFields_eq_ok hread
  exact ⟨hversion hstrict, rfl, hbody⟩

section Carried

variable {id : UInt16} {payload frame : Bytes} {m : Message}

/-- A frame alone is read if its number and its length will do and its payload is that of a
message. -/
theorem parse_carried_iff (hframe : Carries id payload frame) :
    p.parse registry frame = .ok ([m], []) ↔
      ∃ t version fields, payload = version :: fields ∧ payload.length ≤ p.maxPayload ∧
        registry.typeOf? id = some t ∧ p.decodePayload t version fields = .ok m := by
  rw [Carries] at hframe
  rw [parse_eq_ok_iff]
  constructor
  · rintro ⟨htakes, -⟩
    cases htakes with
    | cons first others =>
        obtain ⟨h, ahead, t, version, fields, hs, ha, -, htake, hdecode, -⟩ :=
          front_eq_frame_iff.1 first
        cases hframe.symm.trans hs
        rw [List.take_length] at htake
        obtain ⟨-, hsmall, htype⟩ := announced_eq_ok_iff.1 ha
        exact ⟨t, version, fields, htake, hsmall, htype, hdecode⟩
  · rintro ⟨t, version, fields, rfl, hsmall, htype, hdecode⟩
    have ha : p.announced registry ⟨id, fields.length + 1⟩ = .ok t :=
      announced_eq_ok_iff.2 ⟨Nat.succ_pos _, hsmall, htype⟩
    have first : p.front registry frame = .frame m [] :=
      front_eq_frame_iff.2 ⟨_, _, t, version, fields, hframe, ha, Nat.le_refl _,
        List.take_length, hdecode, List.drop_length⟩
    exact ⟨.cons first (.nil []), front_nil⟩

theorem parse_carried_of_error {t : MessageType} {version : UInt8} {fields : Bytes}
    {failure : DecodeFailure} (hframe : Carries id (version :: fields) frame)
    (hsmall : fields.length + 1 ≤ p.maxPayload) (htype : registry.typeOf? id = some t)
    (hdecode : p.decodePayload t version fields = .error failure) :
    p.parse registry frame = .error failure := by
  have ha : p.announced registry ⟨id, fields.length + 1⟩ = .ok t :=
    announced_eq_ok_iff.2 ⟨Nat.succ_pos _, hsmall, htype⟩
  exact parse_eq_error_iff.2 ⟨[], frame, .nil frame, front_eq_failed_iff.2
    ⟨_, _, hframe, .inr ⟨t, version, fields, ha, Nat.le_refl _, List.take_length, hdecode⟩⟩⟩

end Carried

theorem serialize_plain_iff (hnone : p.transforms = []) {sender number : UInt64} {m : Message}
    {frame : Bytes} : p.serialize sender number m = .ok frame ↔
      m.body.length + 1 ≤ p.maxPayload ∧
        frame = Header.toBytes ⟨m.id, m.body.length + 1⟩ ++ m.type.version :: m.body := by
  rw [serialize_eq_ok_iff, hnone]
  simp [Transform.encodeAll]

/-- A frame that is taken off a buffer is the one that its message is written as. -/
theorem serialize_of_front (hstrict : p.strictVersions = true) (hnone : p.transforms = [])
    {b rest : Bytes} {m : Message} (hf : p.front registry b = .frame m rest) :
    ∃ frame, b = frame ++ rest ∧ registry.Knows m.type ∧
      ∀ sender number, p.serialize sender number m = .ok frame := by
  obtain ⟨h, ahead, t, version, fields, hs, ha, hlen, htake, hdecode, rfl⟩ :=
    front_eq_frame_iff.1 hf
  obtain ⟨-, hsmall, htype⟩ := announced_eq_ok_iff.1 ha
  obtain ⟨rfl, rfl, rfl⟩ := decodePayload_eq_ok hstrict hnone hdecode
  have hid : m.id = h.id := Registry.id_of_typeOf? htype
  have hlength : m.body.length + 1 = h.length := by
    have htaken := congrArg List.length htake
    rw [List.length_take_of_le hlen, List.length_cons] at htaken
    exact htaken.symm
  refine ⟨h.toBytes ++ m.type.version :: m.body, ?_, Registry.knows_of_typeOf? htype, ?_⟩
  · rw [Header.eq_of_split? hs, List.append_assoc, ← htake, List.take_append_drop]
  · intro sender number
    refine (serialize_plain_iff hnone).2 ⟨hlength ▸ hsmall, ?_⟩
    rw [hid, hlength]

theorem Takes.spells (hstrict : p.strictVersions = true) (hnone : p.transforms = [])
    {b rest : Bytes} {ms : List Message} (h : p.Takes registry b ms rest) :
    ∃ frames, p.Spells registry ms frames ∧ b = frames.flatten ++ rest := by
  induction h with
  | nil b => exact ⟨[], .nil, rfl⟩
  | cons first _ ih =>
      obtain ⟨frame, rfl, hframe⟩ := serialize_of_front hstrict hnone first
      obtain ⟨frames, hframes, rfl⟩ := ih
      refine ⟨frame :: frames, .cons hframe hframes, ?_⟩
      rw [List.flatten_cons, List.append_assoc]

theorem Spells.takes (hmax : p.maxPayload < UInt32.size) (hnone : p.transforms = [])
    {ms : List Message} {frames : List Bytes} (h : p.Spells registry ms frames) (rest : Bytes) :
    p.Takes registry (frames.flatten ++ rest) ms rest := by
  have hknown : ∀ m ∈ ms, registry.Knows m.type := by
    have hboth := h.imp fun _ _ hm ↦ And.intro hm.1 hm.2
    exact ((List.forall₂_and_left ms frames).1 hboth).1
  have hwrites : List.Forall₂ p.Writes ms frames := by
    refine h.imp fun m frame hm ↦ ⟨0, 0, hm.2 0 0, ?_⟩
    rw [hnone]
    trivial
  exact takes_flatten hmax hknown (fits_of_writes hmax hnone hwrites) hwrites rest

theorem Spells.unique {ms : List Message} {frames frames' : List Bytes}
    (h : p.Spells registry ms frames) (h' : p.Spells registry ms frames') : frames = frames' := by
  induction h generalizing frames' with
  | nil =>
      cases h'
      rfl
  | cons hfirst _ ih =>
      cases h' with
      | cons hfirst' hothers' =>
          have hsame := (hfirst.2 0 0).symm.trans (hfirst'.2 0 0)
          rw [Except.ok.injEq] at hsame
          rw [hsame, ih hothers']

theorem parse_eq_ok_iff_spells (hmax : p.maxPayload < UInt32.size) (hnone : p.transforms = [])
    (hstrict : p.strictVersions = true) {b r : Bytes} {ms : List Message} :
    p.parse registry b = .ok (ms, r) ↔
      ∃ frames, p.Spells registry ms frames ∧ b = frames.flatten ++ r ∧ p.Tail registry r := by
  rw [parse_eq_ok_iff, front_eq_incomplete_iff hmax]
  constructor
  · rintro ⟨htakes, htail⟩
    obtain ⟨frames, hframes, hb⟩ := htakes.spells hstrict hnone
    exact ⟨frames, hframes, hb, htail⟩
  · rintro ⟨frames, hframes, rfl, htail⟩
    exact ⟨hframes.takes hmax hnone r, htail⟩

/-- The parser accepts exactly the streams that a sender writes, with the beginning of a frame
behind them.  So a stream splits into frames in one way only, and no other stream gives the same
messages and the same rest. -/
theorem parse_grammar (p : Protocol) (registry : Registry) (hmax : p.maxPayload < UInt32.size)
    (hnone : p.transforms = []) (hstrict : p.strictVersions = true) :
    (∀ b ms r, p.parse registry b = .ok (ms, r) ↔
      ∃ frames, p.Spells registry ms frames ∧ b = frames.flatten ++ r ∧ p.Tail registry r) ∧
    (∀ ms ms' frames frames' r r', p.Spells registry ms frames → p.Tail registry r →
      p.Spells registry ms' frames' → p.Tail registry r' →
      frames.flatten ++ r = frames'.flatten ++ r' → ms = ms' ∧ frames = frames' ∧ r = r') ∧
    ∀ b b' ms r, p.parse registry b = .ok (ms, r) → p.parse registry b' = .ok (ms, r) →
      b = b' := by
  refine ⟨fun b ms r ↦ parse_eq_ok_iff_spells hmax hnone hstrict, ?_, ?_⟩
  · intro ms ms' frames frames' r r' hframes htail hframes' htail' hsame
    have hparse := (parse_eq_ok_iff_spells hmax hnone hstrict).2 ⟨frames, hframes, rfl, htail⟩
    have hparse' := (parse_eq_ok_iff_spells hmax hnone hstrict).2 ⟨frames', hframes', rfl, htail'⟩
    rw [hsame, hparse', Except.ok.injEq, Prod.mk.injEq] at hparse
    obtain ⟨rfl, rfl⟩ := hparse
    exact ⟨rfl, hframes.unique hframes', rfl⟩
  · intro b b' ms r hparse hparse'
    obtain ⟨frames, hframes, rfl, -⟩ := (parse_eq_ok_iff_spells hmax hnone hstrict).1 hparse
    obtain ⟨frames', hframes', rfl, -⟩ := (parse_eq_ok_iff_spells hmax hnone hstrict).1 hparse'
    rw [hframes.unique hframes']

end Grammar

/-- Two readings and the beginning of a third, of which five octets of the payload are there. -/
theorem parse_grammar_readings :
    Specimen.registry.Knows Specimen.reading ∧
      ({} : Protocol).parse Specimen.registry
        ([7, 0, 16, 0, 0, 0, 3, 1, 0, 192, 127, 2, 0, 0, 0, 1, 1, 0, 0, 0, 97, 0] ++
          [7, 0, 9, 0, 0, 0, 3, 0, 0, 0, 0, 0, 0, 0, 0] ++ [7, 0, 9, 0, 0, 0, 3, 0, 0, 0, 0]) =
        .ok ([Specimen.first, Specimen.second], [7, 0, 9, 0, 0, 0, 3, 0, 0, 0, 0]) := by
  refine ⟨rfl, ?_⟩
  refine ((parse_grammar {} Specimen.registry (by decide) rfl rfl).1 _ _ _).2
    ⟨[[7, 0, 16, 0, 0, 0, 3, 1, 0, 192, 127, 2, 0, 0, 0, 1, 1, 0, 0, 0, 97, 0],
      [7, 0, 9, 0, 0, 0, 3, 0, 0, 0, 0, 0, 0, 0, 0]], ?_, rfl, ?_⟩
  · exact .cons ⟨rfl, fun _ _ ↦ rfl⟩ (.cons ⟨rfl, fun _ _ ↦ rfl⟩ .nil)
  · exact .inr ⟨⟨7, 9⟩, [3, 0, 0, 0, 0], rfl, rfl, by decide, by decide, by decide⟩

end Protocol

end MessageEngine
