import MessageEngine.Proofs.IdentityTransforms

/-!
# Wider settings

A greater bound on payloads, versions that are not looked at, and more types
in the registry refuse less.  What is accepted without them is accepted with
them and comes to the same, the beginning of a frame at the end of the buffer
included, since a number belongs for good to the type that it was first
registered for.  What is written under the narrower bound is written as it was.
-/

namespace MessageEngine

inductive Registration
  | message (t : MessageType)
  | handler (t : MessageType) (h : Handler)

namespace Registry

/-- The registry after an attempt, which may have failed. -/
def after (r : Registry) : Registration → Registry
  | .message t =>
    match r.registerMessage t with
    | .ok r' => r'
    | .error _ => r
  | .handler t h =>
    match r.registerHandler t h with
    | .ok r' => r'
    | .error _ => r

/-- A registry in which every number leads where it leads in the other one. -/
def Extends (r' r : Registry) : Prop := ∀ id t, r.typeOf? id = some t → r'.typeOf? id = some t

theorem after_extends (r : Registry) (attempt : Registration) : (r.after attempt).Extends r := by
  intro id t htype
  cases attempt with
  | message u =>
      by_cases hknown : r.isRegistered u.id = true
      · simpa [after, registerMessage, hknown] using htype
      · -- the new type stands behind all that were there
        rw [typeOf?] at htype
        simp [after, registerMessage, hknown, typeOf?, List.find?_append, htype]
  | handler u h =>
      by_cases hknown : u ∈ r.types
      · simpa [after, registerHandler, hknown, typeOf?] using htype
      · simpa [after, registerHandler, hknown] using htype

theorem foldl_after_extends (r : Registry) (attempts : List Registration) :
    (attempts.foldl after r).Extends r := by
  induction attempts generalizing r with
  | nil => exact fun _ _ htype ↦ htype
  | cons attempt attempts ih =>
      intro id t htype
      apply ih (r.after attempt)
      exact r.after_extends attempt id t htype

end Registry

namespace Protocol

/-- The same transforms, no smaller bound on payloads, and no stricter about versions. -/
structure Widens (q p : Protocol) : Prop where
  transforms : q.transforms = p.transforms
  maxPayload : p.maxPayload ≤ q.maxPayload
  lenient : p.strictVersions = false → q.strictVersions = false

section Widens

variable {p q : Protocol} {registry registry' : Registry} {b rest : Bytes} {m : Message}
  {ms : List Message}

theorem Widens.announced {h : Header} {t : MessageType} (hq : q.Widens p)
    (hregistry : registry'.Extends registry) (ha : p.announced registry h = .ok t) :
    q.announced registry' h = .ok t := by
  obtain ⟨hpos, hlarge, htype⟩ := announced_eq_ok_iff.1 ha
  apply announced_eq_ok_iff.2
  exact ⟨hpos, Nat.le_trans hlarge hq.maxPayload, hregistry _ _ htype⟩

theorem Widens.decodePayload {t : MessageType} {version : UInt8} {fields : Bytes}
    (hq : q.Widens p) (hd : p.decodePayload t version fields = .ok m) :
    q.decodePayload t version fields = .ok m := by
  obtain ⟨hversion, plain, hplain, hread⟩ := decodePayload_eq_ok_iff.1 hd
  apply decodePayload_eq_ok_iff.2
  refine ⟨?_, plain, ?_, hread⟩
  · -- `q` looks at versions only where `p` does
    intro hstrict
    apply hversion
    by_contra hlenient
    rw [hq.lenient (Bool.eq_false_iff.2 hlenient)] at hstrict
    cases hstrict
  · rw [hq.transforms]
    exact hplain

theorem Widens.front_frame (hq : q.Widens p) (hregistry : registry'.Extends registry)
    (hf : p.front registry b = .frame m rest) : q.front registry' b = .frame m rest := by
  obtain ⟨h, ahead, t, version, fields, hsplit, ha, hlen, htake, hd, hrest⟩ :=
    front_eq_frame_iff.1 hf
  apply front_eq_frame_iff.2
  exact ⟨h, ahead, t, version, fields, hsplit, hq.announced hregistry ha, hlen, htake,
    hq.decodePayload hd, hrest⟩

theorem Widens.front_incomplete (hq : q.Widens p) (hregistry : registry'.Extends registry)
    (hf : p.front registry b = .incomplete) : q.front registry' b = .incomplete := by
  cases hsplit : Header.split? b with
  | none => simp only [front, hsplit]
  | some found =>
      obtain ⟨h, ahead⟩ := found
      cases ha : p.announced registry h with
      | error e => simp [front, hsplit, ha] at hf
      | ok t =>
          have hpart := (front_of_announced hsplit ha).1 hf
          exact (front_of_announced hsplit (hq.announced hregistry ha)).2 hpart

theorem Widens.parse (hq : q.Widens p) (hregistry : registry'.Extends registry)
    (hp : p.parse registry b = .ok (ms, rest)) : q.parse registry' b = .ok (ms, rest) := by
  obtain ⟨htakes, hend⟩ := parse_eq_ok_iff.1 hp
  apply parse_eq_ok_iff.2
  exact ⟨htakes.imp fun _ _ _ hf ↦ hq.front_frame hregistry hf,
    hq.front_incomplete hregistry hend⟩

theorem Widens.serialize {sender number : UInt64} {frame : Bytes} (hq : q.Widens p)
    (hs : p.serialize sender number m = .ok frame) : q.serialize sender number m = .ok frame := by
  obtain ⟨fields, hcoded, hlen, hframe⟩ := serialize_eq_ok_iff.1 hs
  rw [← hq.transforms] at hcoded
  apply serialize_eq_ok_iff.2
  exact ⟨fields, hcoded, Nat.le_trans hlen hq.maxPayload, hframe⟩

theorem serialize_of_isDeterministic (hp : ∀ t ∈ p.transforms, t.IsDeterministic)
    (sender number sender' number' : UInt64) (m : Message) :
    p.serialize sender number m = p.serialize sender' number' m := by
  have halong : p.along (.numbered sender' number' 0 p.transforms) = p := by
    rw [along, Line.map_fst_numbered]
  have hline : ∀ x ∈ Line.numbered sender' number' 0 p.transforms, x.1.IsDeterministic := by
    intro x hx
    apply hp
    rw [← Line.map_fst_numbered sender' number' 0 p.transforms]
    exact List.mem_map_of_mem hx
  have hwrite := p.write_eq_of_isDeterministic hline sender number m
  rw [halong, write_numbered] at hwrite
  exact Except.ok.inj hwrite

/-- Under wider settings and after any further attempts to register something all that was
accepted is accepted, and comes to the same messages and the same rest, and all that was written
is written as it was.  If no transform depends on its number, it is written so for any frame of
any sender. -/
theorem widens_accepts (hq : q.Widens p) (registry : Registry) (attempts : List Registration) :
    (∀ b ms rest, p.parse registry b = .ok (ms, rest) →
      q.parse (attempts.foldl Registry.after registry) b = .ok (ms, rest)) ∧
    (∀ sender number m frame, p.serialize sender number m = .ok frame →
      q.serialize sender number m = .ok frame) ∧
    ((∀ t ∈ p.transforms, t.IsDeterministic) → ∀ sender number sender' number' m frame,
      p.serialize sender number m = .ok frame → q.serialize sender' number' m = .ok frame) := by
  have hregistry := registry.foldl_after_extends attempts
  refine ⟨fun b ms rest hp ↦ hq.parse hregistry hp, fun _ _ _ _ hs ↦ hq.serialize hs, ?_⟩
  intro hp sender number sender' number' m frame hs
  apply hq.serialize
  rw [← hs]
  exact serialize_of_isDeterministic hp sender' number' sender number m

end Widens

end Protocol

namespace Specimen

/-- Another type under a number that is taken, and one under a number that is free. -/
def lateTypes : List Registration :=
  [.message ⟨"intruder", 7, 1, 1, []⟩, .message ⟨"newcomer", 8, 1, 1, []⟩]

end Specimen

/-- A frame and the header of another one, read under a bound of nine octets and of ninety. -/
theorem Protocol.widens_accepts_reading :
    Protocol.Widens { maxPayload := 90, strictVersions := false } { maxPayload := 9 } ∧
      Protocol.parse { maxPayload := 9 } Specimen.registry
          [7, 0, 9, 0, 0, 0, 3, 0, 0, 0, 0, 0, 0, 0, 0, 7, 0, 9, 0, 0, 0] =
        .ok ([Specimen.second], [7, 0, 9, 0, 0, 0]) ∧
      Protocol.parse { maxPayload := 90, strictVersions := false }
          (Specimen.lateTypes.foldl Registry.after Specimen.registry)
          [7, 0, 9, 0, 0, 0, 3, 0, 0, 0, 0, 0, 0, 0, 0, 7, 0, 9, 0, 0, 0] =
        .ok ([Specimen.second], [7, 0, 9, 0, 0, 0]) := by
  have hwider : Protocol.Widens { maxPayload := 90, strictVersions := false }
      { maxPayload := 9 } := ⟨rfl, by decide, fun _ ↦ rfl⟩
  have hparse : Protocol.parse { maxPayload := 9 } Specimen.registry
      [7, 0, 9, 0, 0, 0, 3, 0, 0, 0, 0, 0, 0, 0, 0, 7, 0, 9, 0, 0, 0] =
        .ok ([Specimen.second], [7, 0, 9, 0, 0, 0]) :=
    parse_eq_ok_iff.2 ⟨.cons rfl (.nil _), rfl⟩
  have haccepts := widens_accepts hwider Specimen.registry Specimen.lateTypes
  exact ⟨hwider, hparse, haccepts.1 _ _ _ hparse⟩

end MessageEngine
