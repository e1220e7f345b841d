import MessageEngine.Proofs.FrameGrammar

/-!
# What strict versions ask for

A strict protocol takes the frames that a lenient one takes, as long as each
carries the version that messages of its type declare.  The registry keeps a
version of its own for every type, which is not asked for.  So to be strict
is to expect the registered versions only if the types of which frames can
be received declare the versions that they are registered with.
-/

namespace MessageEngine

/-- The version that messages of the type behind a number declare. -/
def Registry.declaredVersion? (r : Registry) (id : UInt16) : Option UInt8 :=
  (r.create? id).map (·.type.version)

/-- A frame from outside: the number in its header, and the first octet of its payload. -/
structure Stamp where
  id : UInt16
  version : UInt8
  deriving DecidableEq, Repr

/-- The stamp of the frame at the front of a buffer, with what comes behind the frame. -/
def stamp? (b : Bytes) : Option (Stamp × Bytes) :=
  match Header.split? b with
  | some (h, version :: ahead) => some (⟨h.id, version⟩, (version :: ahead).drop h.length)
  | _ => none

/-- The stamps of the first `n` frames in a buffer. -/
def stamps : Nat → Bytes → List Stamp
  | 0, _ => []
  | n + 1, b =>
    match stamp? b with
    | some (s, rest) => s :: stamps n rest
    | none => []

namespace Protocol

def withStrictVersions (p : Protocol) (strict : Bool) : Protocol :=
  { p with strictVersions := strict }

/-- To be strict is to expect these versions: what is accepted is what would be without, every
message of a frame that carries one of them, and the first frame that is refused for its version
only is refused for the version that was expected. -/
structure Heeds (p : Protocol) (registry : Registry) (expected? : UInt16 → Option UInt8) :
    Prop where
  accepts (b : Bytes) (ms : List Message) (rest : Bytes) :
    (p.withStrictVersions true).parse registry b = .ok (ms, rest) ↔
      (p.withStrictVersions false).parse registry b = .ok (ms, rest) ∧
        (stamps ms.length b).length = ms.length ∧
        ∀ s ∈ stamps ms.length b, expected? s.id = some s.version
  refuses (b : Bytes) (ms : List Message) (rest : Bytes) (failure : DecodeFailure)
    (before : (p.withStrictVersions true).Takes registry b ms rest)
    (here : (p.withStrictVersions true).front registry rest = .failed failure)
    (only : ∀ other, (p.withStrictVersions false).front registry rest ≠ .failed other) :
    ∃ s next version, stamp? rest = some (s, next) ∧ expected? s.id = some version ∧
      s.version ≠ version ∧ (p.withStrictVersions true).parse registry b =
        .error (.refused (.versionMismatch s.id version s.version))

/-- Frames of a type can be received, if versions are not looked at. -/
def Receives (p : Protocol) (registry : Registry) (t : MessageType) : Prop :=
  ∃ b m rest, (p.withStrictVersions false).front registry b = .frame m rest ∧ m.type = t

section Strict

variable {p : Protocol} {registry : Registry} {b next rest : Bytes} {m : Message}
  {ms : List Message}

theorem declaredVersion?_of_knows {t : MessageType} (h : registry.Knows t) :
    registry.declaredVersion? t.id = some t.version := by
  rw [Registry.Knows] at h
  rw [Registry.declaredVersion?, Registry.create?, h]
  rfl

theorem expectedVersion?_of_knows {t : MessageType} (h : registry.Knows t) :
    registry.expectedVersion? t.id = some t.registered := by
  rw [Registry.Knows] at h
  rw [Registry.expectedVersion?, h]
  rfl

theorem stamp?_of_split? {h : Header} {ahead fields : Bytes} {version : UInt8}
    (hs : Header.split? b = some (h, ahead)) (htake : ahead.take h.length = version :: fields) :
    stamp? b = some (⟨h.id, version⟩, ahead.drop h.length) := by
  cases ahead with
  | nil => simp at htake
  | cons x ahead =>
      cases hlen : h.length with
      | zero => simp [hlen] at htake
      | succ n =>
          rw [hlen, List.take_succ_cons, List.cons.injEq] at htake
          simp only [stamp?, hs, hlen, htake.1]

theorem parts_of_front (hfront : p.front registry b = .frame m next) :
    ∃ h ahead version fields, Header.split? b = some (h, ahead) ∧
      p.announced registry h = .ok m.type ∧ h.length ≤ ahead.length ∧
      ahead.take h.length = version :: fields ∧ p.decodePayload m.type version fields = .ok m ∧
      ahead.drop h.length = next ∧ stamp? b = some (⟨m.id, version⟩, next) := by
  obtain ⟨h, ahead, t, version, fields, hs, ha, hlen, htake, hdecode, hrest⟩ :=
    front_eq_frame_iff.1 hfront
  obtain ⟨-, plain, -, hread⟩ := decodePayload_eq_ok_iff.1 hdecode
  obtain ⟨rfl, -⟩ := readFields_eq_ok hread
  have hid : m.id = h.id := Registry.id_of_typeOf? (announced_eq_ok_iff.1 ha).2.2
  have hstamp := stamp?_of_split? hs htake
  rw [hrest, ← hid] at hstamp
  exact ⟨h, ahead, version, fields, hs, ha, hlen, htake, hdecode, hrest, hstamp⟩

theorem stamp_of_front (hfront : p.front registry b = .frame m next) :
    registry.Knows m.type ∧ ∃ version, stamp? b = some (⟨m.id, version⟩, next) := by
  obtain ⟨h, ahead, version, fields, -, ha, -, -, -, -, hstamp⟩ := parts_of_front hfront
  exact ⟨Registry.knows_of_typeOf? (announced_eq_ok_iff.1 ha).2.2, version, hstamp⟩

/-- One frame: being strict adds that it carries the version of its message. -/
theorem front_strict_iff :
    (p.withStrictVersions true).front registry b = .frame m next ↔
      (p.withStrictVersions false).front registry b = .frame m next ∧
        stamp? b = some (⟨m.id, m.type.version⟩, next) := by
  constructor
  · intro hfront
    obtain ⟨h, ahead, version, fields, hs, ha, hlen, htake, hdecode, hrest, hstamp⟩ :=
      parts_of_front hfront
    obtain ⟨hversion, hread⟩ := decodePayload_eq_ok_iff.1 hdecode
    refine ⟨front_eq_frame_iff.2 ⟨h, ahead, m.type, version, fields, hs, ha, hlen, htake,
      decodePayload_eq_ok_iff.2 ⟨nofun, hread⟩, hrest⟩, ?_⟩
    rw [hstamp, hversion rfl]
  · rintro ⟨hfront, hversion⟩
    obtain ⟨h, ahead, version, fields, hs, ha, hlen, htake, hdecode, hrest, hstamp⟩ :=
      parts_of_front hfront
    obtain ⟨-, hread⟩ := decodePayload_eq_ok_iff.1 hdecode
    cases hstamp.symm.trans hversion
    exact front_eq_frame_iff.2 ⟨h, ahead, m.type, m.type.version, fields, hs, ha, hlen, htake,
      decodePayload_eq_ok_iff.2 ⟨fun _ ↦ rfl, hread⟩, hrest⟩

theorem front_strict_incomplete_iff :
    (p.withStrictVersions true).front registry b = .incomplete ↔
      (p.withStrictVersions false).front registry b = .incomplete := by
  cases hs : Header.split? b with
  | none => simp only [front, hs]
  | some found =>
      obtain ⟨h, ahead⟩ := found
      cases ha : p.announced registry h with
      | error e =>
          have hfailed (strict : Bool) :
              (p.withStrictVersions strict).front registry b = .failed (.refused e) :=
            front_eq_failed_iff.2 ⟨h, ahead, hs, .inl ⟨e, ha, rfl⟩⟩
          rw [hfailed, hfailed]
      | ok t =>
          have hopen (strict : Bool) :
              (p.withStrictVersions strict).front registry b = .incomplete ↔
                ahead.length < h.length :=
            front_of_announced hs ha
          rw [hopen, hopen]

theorem front_strict_of_mismatch {version : UInt8}
    (hfront : (p.withStrictVersions false).front registry b = .frame m next)
    (hstamp : stamp? b = some (⟨m.id, version⟩, next)) (hversion : version ≠ m.type.version) :
    (p.withStrictVersions true).front registry b =
      .failed (.refused (.versionMismatch m.id m.type.version version)) := by
  obtain ⟨h, ahead, version', fields, hs, ha, hlen, htake, -, -, hstamp'⟩ :=
    parts_of_front hfront
  cases hstamp.symm.trans hstamp'
  refine front_eq_failed_iff.2
    ⟨h, ahead, hs, .inr ⟨m.type, version, fields, ha, hlen, htake, ?_⟩⟩
  have hchecked : ((p.withStrictVersions true).strictVersions && version != m.type.version) =
      true := by
    simpa [withStrictVersions] using hversion
  rw [decodePayload, if_pos hchecked]
  rfl

/-! ## Frame after frame -/

theorem stamps_cons {s : Stamp} (hstamp : stamp? b = some (s, next)) (n : Nat) :
    stamps (n + 1) b = s :: stamps n next := by
  simp only [stamps, hstamp]

/-- None of the frames that are taken is without a stamp. -/
theorem Takes.length_stamps (h : p.Takes registry b ms rest) :
    (stamps ms.length b).length = ms.length := by
  induction h with
  | nil b => rfl
  | cons first _ ih =>
      obtain ⟨-, version, hstamp⟩ := stamp_of_front first
      rw [List.length_cons, stamps_cons hstamp, List.length_cons, ih]

theorem takes_strict_iff :
    (p.withStrictVersions true).Takes registry b ms rest ↔
      (p.withStrictVersions false).Takes registry b ms rest ∧
        ∀ s ∈ stamps ms.length b, registry.declaredVersion? s.id = some s.version := by
  constructor
  · intro h
    induction h with
    | nil b => exact ⟨.nil b, nofun⟩
    | cons first _ ih =>
        obtain ⟨hfront, hstamp⟩ := front_strict_iff.1 first
        have hdeclared := declaredVersion?_of_knows (stamp_of_front first).1
        refine ⟨.cons hfront ih.1, ?_⟩
        rw [List.length_cons, stamps_cons hstamp]
        exact List.forall_mem_cons.2 ⟨hdeclared, ih.2⟩
  · rintro ⟨h, hstamps⟩
    induction h with
    | nil b => exact .nil b
    | cons first _ ih =>
        obtain ⟨hknown, version, hstamp⟩ := stamp_of_front first
        rw [List.length_cons, stamps_cons hstamp] at hstamps
        obtain ⟨hfirst, hothers⟩ := List.forall_mem_cons.1 hstamps
        cases (declaredVersion?_of_knows hknown).symm.trans hfirst
        exact .cons (front_strict_iff.2 ⟨first, hstamp⟩) (ih hothers)

theorem exists_frame_of_failed {failure : DecodeFailure}
    (here : (p.withStrictVersions true).front registry b = .failed failure)
    (only : ∀ other, (p.withStrictVersions false).front registry b ≠ .failed other) :
    ∃ m next, (p.withStrictVersions false).front registry b = .frame m next := by
  cases hfront : (p.withStrictVersions false).front registry b with
  | incomplete =>
      rw [front_strict_incomplete_iff.2 hfront] at here
      cases here
  | failed other => exact absurd hfront (only other)
  | frame m next => exact ⟨m, next, rfl⟩

/-- Whatever is registered, to be strict is to expect the versions that messages declare. -/
theorem heeds_declared (p : Protocol) (registry : Registry) :
    p.Heeds registry registry.declaredVersion? where
  accepts b ms rest := by
    rw [parse_eq_ok_iff, parse_eq_ok_iff, takes_strict_iff, front_strict_incomplete_iff]
    constructor
    · rintro ⟨⟨htakes, hversions⟩, hstop⟩
      exact ⟨⟨htakes, hstop⟩, htakes.length_stamps, hversions⟩
    · rintro ⟨⟨htakes, hstop⟩, -, hversions⟩
      exact ⟨⟨htakes, hversions⟩, hstop⟩
  refuses b ms rest failure before here only := by
    obtain ⟨m, next, hfront⟩ := exists_frame_of_failed here only
    obtain ⟨hknown, version, hstamp⟩ := stamp_of_front hfront
    have hversion : version ≠ m.type.version := by
      rintro rfl
      rw [front_strict_iff.2 ⟨hfront, hstamp⟩] at here
      cases here
    exact ⟨⟨m.id, version⟩, next, m.type.version, hstamp, declaredVersion?_of_knows hknown,
      hversion, parse_eq_error_iff.2
        ⟨ms, rest, before, front_strict_of_mismatch hfront hstamp hversion⟩⟩

/-! ## The registered versions -/

section Registered

variable (hsame : ∀ t, p.Receives registry t → t.version = t.registered)
include hsame

theorem expected_eq_declared {s : Stamp}
    (hfront : (p.withStrictVersions false).front registry b = .frame m next)
    (hstamp : stamp? b = some (s, rest)) :
    registry.expectedVersion? s.id = registry.declaredVersion? s.id := by
  obtain ⟨hknown, version, hstamp'⟩ := stamp_of_front hfront
  cases hstamp.symm.trans hstamp'
  have hdeclared := declaredVersion?_of_knows hknown
  have hexpected := expectedVersion?_of_knows hknown
  rw [hsame m.type ⟨b, m, next, hfront, rfl⟩] at hdeclared
  exact hexpected.trans hdeclared.symm

theorem Takes.expected_eq_declared (h : (p.withStrictVersions false).Takes registry b ms rest) :
    ∀ s ∈ stamps ms.length b, registry.expectedVersion? s.id = registry.declaredVersion? s.id := by
  induction h with
  | nil b => exact nofun
  | cons first _ ih =>
      obtain ⟨-, version, hstamp⟩ := stamp_of_front first
      rw [List.length_cons, stamps_cons hstamp]
      exact List.forall_mem_cons.2 ⟨Protocol.expected_eq_declared hsame first hstamp, ih⟩

theorem heeds_registered : p.Heeds registry registry.expectedVersion? where
  accepts b ms rest := by
    rw [(p.heeds_declared registry).accepts]
    refine and_congr_right fun hparse ↦ and_congr_right fun _ ↦ forall₂_congr fun s hs ↦ ?_
    rw [(parse_eq_ok_iff.1 hparse).1.expected_eq_declared hsame s hs]
  refuses b ms rest failure before here only := by
    obtain ⟨m, next, hfront⟩ := exists_frame_of_failed here only
    obtain ⟨s, next', version, hstamp, hdeclared, hversion, hparse⟩ :=
      (p.heeds_declared registry).refuses b ms rest failure before here only
    have hexpected := expected_eq_declared hsame hfront hstamp
    exact ⟨s, next', version, hstamp, hexpected.trans hdeclared, hversion, hparse⟩

end Registered

theorem eq_registered_of_heeds (h : p.Heeds registry registry.expectedVersion?) {t : MessageType}
    (ht : p.Receives registry t) : t.version = t.registered := by
  obtain ⟨b, m, next, hfront, rfl⟩ := ht
  obtain ⟨⟨id, length⟩, ahead, version, fields, hs, ha, hlen, htake, hdecode, -, -⟩ :=
    parts_of_front hfront
  obtain ⟨-, hread⟩ := decodePayload_eq_ok_iff.1 hdecode
  obtain ⟨-, hsmall, htype⟩ := announced_eq_ok_iff.1 ha
  -- the same payload under the version that its message declares is accepted by both
  have hlength : length = (m.type.version :: fields).length := by
    have htaken := congrArg List.length htake
    rwa [List.length_take_of_le hlen] at htaken
  have hcarries : Carries id (m.type.version :: fields)
      (Header.toBytes ⟨id, length⟩ ++ m.type.version :: fields) := by
    rw [Carries, ← hlength]
    exact Header.split?_toBytes (Header.length_lt_of_split? hs) _
  have hparse : (p.withStrictVersions true).parse registry
      (Header.toBytes ⟨id, length⟩ ++ m.type.version :: fields) = .ok ([m], []) :=
    (parse_carried_iff hcarries).2 ⟨m.type, m.type.version, fields, rfl, hlength ▸ hsmall, htype,
      decodePayload_eq_ok_iff.2 ⟨fun _ ↦ rfl, hread⟩⟩
  have hstamps := ((h.accepts _ _ _).1 hparse).2.2
  rw [List.length_singleton, stamps_cons (stamp?_of_split? hcarries List.take_length)] at hstamps
  have hfirst := hstamps _ List.mem_cons_self
  rw [Registry.expectedVersion?, htype, Option.map_some, Option.some.injEq] at hfirst
  exact hfirst.symm

/-- To be strict is to expect the versions that messages declare.  These are the registered ones
exactly if they are for the types of which frames can be received. -/
theorem strict_versions (p : Protocol) (registry : Registry) :
    p.Heeds registry registry.declaredVersion? ∧
      (p.Heeds registry registry.expectedVersion? ↔
        ∀ t, p.Receives registry t → t.version = t.registered) :=
  ⟨p.heeds_declared registry, fun h _ ht ↦ eq_registered_of_heeds h ht, heeds_registered⟩

end Strict

end Protocol

namespace Specimen

/-- A type whose messages do not declare the version that it is registered with. -/
def skewed : MessageType := ⟨"skewed", 7, 1, 7, [⟨"n", .scalar .u8⟩]⟩

def skewedRegistry : Registry := { types := [skewed] }

/-- The version that is declared is accepted, and the registered one is refused. -/
theorem strict_refuses_registered :
    skewedRegistry.expectedVersion? 7 = some 7 ∧
    stamps 1 [7, 0, 2, 0, 0, 0, 1, 5] = [⟨7, 1⟩] ∧
    (({} : Protocol).withStrictVersions true).parse skewedRegistry [7, 0, 2, 0, 0, 0, 1, 5] =
      .ok ([⟨skewed, ((5 : UInt8), ())⟩], []) ∧
    (({} : Protocol).withStrictVersions true).parse skewedRegistry [7, 0, 2, 0, 0, 0, 7, 5] =
      .error (.refused (.versionMismatch 7 1 7)) ∧
    ¬ ({} : Protocol).Heeds skewedRegistry skewedRegistry.expectedVersion? := by
  have hdeclared : Protocol.Carries 7 [1, 5] [7, 0, 2, 0, 0, 0, 1, 5] := rfl
  have hregistered : Protocol.Carries 7 [7, 5] [7, 0, 2, 0, 0, 0, 7, 5] := rfl
  have haccepted : (({} : Protocol).withStrictVersions true).parse skewedRegistry
      [7, 0, 2, 0, 0, 0, 1, 5] = .ok ([⟨skewed, ((5 : UInt8), ())⟩], []) :=
    (Protocol.parse_carried_iff hdeclared).2 ⟨skewed, 1, [5], rfl, by decide, rfl, rfl⟩
  have hrefused : (({} : Protocol).withStrictVersions true).parse skewedRegistry
      [7, 0, 2, 0, 0, 0, 7, 5] = .error (.refused (.versionMismatch 7 1 7)) :=
    Protocol.parse_carried_of_error hregistered (by decide) rfl rfl
  refine ⟨rfl, rfl, haccepted, hrefused, fun hheeds ↦ ?_⟩
  have hfirst := ((hheeds.accepts _ _ _).1 haccepted).2.2 ⟨7, 1⟩ List.mem_cons_self
  exact absurd hfirst (by decide)

end Specimen

end MessageEngine
