import MessageEngine.Config.Engine
import MessageEngine.Proofs.StreamRoundTrip

/-!
# What a configured protocol reads of what it writes

Without compression a configured protocol reads back whatever it writes.
With compression the two sides put the same bound to different things: the
sender to the packed payload, the receiver also to what it unpacks to.  So a
message is read back only if its fields are within the bound before they are
packed; beyond it a frame may well be written, but is refused.

Of the packer it takes that packed octets are unpacked as far as is asked.
-/

namespace MessageEngine

/-- Packing some octets and unpacking so many of them gives the first of them. -/
def Compression.Packer.Restores (z : Packer) (asked : Nat) (data : Bytes) : Prop :=
  z.unpack asked (z.pack data) = .ok (data.take asked)

namespace Compression.Packer

variable {z : Packer} {limit : Nat} {data output : Bytes}

theorem decode_eq_ok_iff : z.decode limit data = .ok output ↔
    limit + 1 < UInt64.size ∧ z.unpack (limit + 1) data = .ok output ∧
      output.length < limit + 1 := by
  rw [decode]
  by_cases hlimit : UInt64.size ≤ limit + 1
  · simp [if_pos hlimit, Nat.not_lt.2 hlimit]
  · rw [if_neg hlimit]
    cases hunpack : z.unpack (limit + 1) data with
    | error flaw => simp
    | ok found =>
        by_cases hholds : found.holds (limit + 1) = true
        · have hlen := (Bytes.holds_iff _ _).1 hholds
          simp only [if_pos hholds, reduceCtorEq, Except.ok.injEq, false_iff]
          rintro ⟨-, rfl, hshort⟩
          omega
        · have hlen : found.length < limit + 1 := by
            rw [Bytes.holds_iff] at hholds
            omega
          simp only [if_neg hholds, Except.ok.injEq]
          constructor
          · rintro rfl
            exact ⟨Nat.lt_of_not_le hlimit, rfl, hlen⟩
          · exact fun h ↦ h.2.1

theorem decode_pack_of_le (hz : z.Restores (limit + 1) data) (hlimit : limit + 1 < UInt64.size)
    (hdata : data.length ≤ limit) : z.decode limit (z.pack data) = .ok data := by
  have hless : data.length < limit + 1 := Nat.lt_succ_of_le hdata
  rw [Restores, List.take_of_length_le (Nat.le_of_lt hless)] at hz
  exact decode_eq_ok_iff.2 ⟨hlimit, hz, hless⟩

theorem decode_pack_of_lt (hz : z.Restores (limit + 1) data) (hlimit : limit + 1 < UInt64.size)
    (hdata : limit < data.length) :
    z.decode limit (z.pack data) = .error (.refused (.payloadTooLarge (limit + 1) limit)) := by
  have hlen : (data.take (limit + 1)).length = limit + 1 := by
    rw [List.length_take]
    omega
  have hholds : Bytes.holds (data.take (limit + 1)) (limit + 1) = true :=
    (Bytes.holds_iff _ _).2 (by omega)
  rw [decode, if_neg (Nat.not_le.2 hlimit), hz]
  simp only [hholds, if_true, hlen]

end Compression.Packer

/-- An accepted configuration bounds payloads by what a header can say. -/
theorem Config.maxPayload_lt_of_validate {c : Config} (hc : c.validate = .ok c) :
    c.protocol.maxPayload < UInt32.size := by
  have hnone : c.violation? = none := by
    rw [validate] at hc
    split at hc
    · cases hc
    · assumption
  rw [violation?] at hnone
  split at hnone
  · cases hnone
  · split at hnone
    · cases hnone
    · split at hnone
      · cases hnone
      · next hmax =>
        rw [not_or, Nat.not_lt] at hmax
        exact Nat.lt_of_le_of_lt hmax.2 (by decide)

namespace Protocol

section Configured

variable {z : Compression.Packer} {c : ProtocolConfig} {registry : Registry} {m : Message}
  {sender number : UInt64} {frame : Bytes}

@[simp] theorem transforms_ofConfig : (ofConfig c z).transforms = c.transforms z := rfl

theorem transforms_of_plain (hplain : c.compression = false) : (ofConfig c z).transforms = [] := by
  rw [transforms_ofConfig, ProtocolConfig.transforms, hplain]
  rfl

theorem transforms_of_packed (hpacked : c.compression = true) :
    (ofConfig c z).transforms = [.zlib c.maxPayload z] := by
  rw [transforms_ofConfig, ProtocolConfig.transforms, if_pos hpacked]

theorem parse_written (hmax : c.maxPayload < UInt32.size) (hknown : registry.Knows m.type)
    (hm : m.Fits) (hw : (ofConfig c z).Writes m frame) :
    (ofConfig c z).parse registry frame = .ok ([m], []) := by
  have hfront := front_of_writes hmax hknown hm hw []
  rw [List.append_nil] at hfront
  exact parse_eq_ok_iff.2 ⟨.cons hfront (.nil []), front_nil⟩

/-- Nothing is packed, so the bound on the payload is a bound on the fields. -/
theorem parse_uncompressed (hmax : c.maxPayload < UInt32.size) (hknown : registry.Knows m.type)
    (hplain : c.compression = false)
    (hs : (ofConfig c z).serialize sender number m = .ok frame) :
    (ofConfig c z).parse registry frame = .ok ([m], []) := by
  have hnone : (ofConfig c z).transforms = [] := transforms_of_plain hplain
  refine parse_written hmax hknown (fits_of_serialize hmax hnone hs) ⟨sender, number, hs, ?_⟩
  rw [hnone]
  trivial

theorem parse_compressed (hmax : c.maxPayload < UInt32.size) (hknown : registry.Knows m.type)
    (hz : z.Restores (c.maxPayload + 1) m.body) (hpacked : c.compression = true)
    (hbody : m.body.length ≤ c.maxPayload)
    (hs : (ofConfig c z).serialize sender number m = .ok frame) :
    (ofConfig c z).parse registry frame = .ok ([m], []) := by
  have hm : m.Fits := Message.fits_of_length_body_lt (Nat.lt_of_le_of_lt hbody hmax)
  refine parse_written hmax hknown hm ⟨sender, number, hs, ?_⟩
  rw [transforms_of_packed hpacked]
  intro coded hcoded
  cases hcoded
  have hlimit : c.maxPayload + 1 < UInt64.size := Nat.lt_of_le_of_lt hmax (by decide)
  exact ⟨Compression.Packer.decode_pack_of_le hz hlimit hbody, trivial⟩

/-- What the sender let pass because it was packed well, the receiver refuses to unpack. -/
theorem parse_too_large (hmax : c.maxPayload < UInt32.size) (hknown : registry.Knows m.type)
    (hz : z.Restores (c.maxPayload + 1) m.body) (hpacked : c.compression = true)
    (hbody : c.maxPayload < m.body.length)
    (hs : (ofConfig c z).serialize sender number m = .ok frame) :
    (ofConfig c z).parse registry frame =
      .error (.refused (.payloadTooLarge (c.maxPayload + 1) c.maxPayload)) := by
  obtain ⟨fields, hcoded, hlen, rfl⟩ := serialize_eq_ok_iff.1 hs
  have hlimit : c.maxPayload + 1 < UInt64.size := Nat.lt_of_le_of_lt hmax (by decide)
  have hline : (ofConfig c z).transforms = [.zlib c.maxPayload z] := transforms_of_packed hpacked
  rw [hline] at hcoded
  have hfields : z.pack m.body = fields := by
    cases hcoded
    rfl
  have hdecode : Transform.decodeAll (ofConfig c z).transforms fields =
      .error (.refused (.payloadTooLarge (c.maxPayload + 1) c.maxPayload)) := by
    rw [hline, ← hfields]
    exact Compression.Packer.decode_pack_of_lt hz hlimit hbody
  have hpayload : (ofConfig c z).decodePayload m.type m.type.version fields =
      .error (.refused (.payloadTooLarge (c.maxPayload + 1) c.maxPayload)) := by
    simp only [decodePayload, bne_self_eq_false, Bool.and_false, Bool.false_eq_true, if_false,
      hdecode]
  refine parse_eq_error_iff.2 ⟨[], _, .nil _, front_eq_failed_iff.2
    ⟨⟨m.id, fields.length + 1⟩, m.type.version :: fields,
      Header.split?_toBytes (Nat.lt_of_le_of_lt hlen hmax) _,
      .inr ⟨m.type, m.type.version, fields, announced_of_known hknown hlen, ?_, ?_, hpayload⟩⟩⟩
  · simp
  · exact List.take_of_length_le (by simp)

end Configured

/-- Under an accepted configuration a message that was written is read back exactly if nothing is
compressed or its fields were within the bound on payloads before they were.  Otherwise its frame
is refused for what it would unpack to. -/
theorem parse_configured_iff {z : Compression.Packer} {c : Config} {registry : Registry}
    {m : Message} {sender number : UInt64} {frame : Bytes} (hc : c.validate = .ok c)
    (hknown : registry.Knows m.type) (hz : z.Restores (c.protocol.maxPayload + 1) m.body)
    (hs : (ofConfig c.protocol z).serialize sender number m = .ok frame) :
    ((ofConfig c.protocol z).parse registry frame = .ok ([m], []) ↔
      (c.protocol.compression = true → m.body.length ≤ c.protocol.maxPayload)) ∧
    ((ofConfig c.protocol z).parse registry frame ≠ .ok ([m], []) →
      (ofConfig c.protocol z).parse registry frame =
        .error (.refused
          (.payloadTooLarge (c.protocol.maxPayload + 1) c.protocol.maxPayload))) := by
  have hmax := c.maxPayload_lt_of_validate hc
  by_cases hpacked : c.protocol.compression = true
  · by_cases hbody : m.body.length ≤ c.protocol.maxPayload
    · have hp := parse_compressed hmax hknown hz hpacked hbody hs
      exact ⟨⟨fun _ _ ↦ hbody, fun _ ↦ hp⟩, fun hne ↦ absurd hp hne⟩
    · have hp := parse_too_large hmax hknown hz hpacked (Nat.lt_of_not_le hbody) hs
      refine ⟨⟨fun hok ↦ ?_, fun hcond ↦ absurd (hcond hpacked) hbody⟩, fun _ ↦ hp⟩
      rw [hp] at hok
      cases hok
  · have hp := parse_uncompressed hmax hknown (Bool.eq_false_iff.2 hpacked) hs
    exact ⟨⟨fun _ h ↦ absurd h hpacked, fun _ ↦ hp⟩, fun hne ↦ absurd hp hne⟩

end Protocol

namespace Specimen

/-- A message of octets that pack well. -/
def zeros : Message :=
  ⟨⟨"blob", 65535, 255, 255, [⟨"data", .bytes⟩]⟩, (List.replicate 34 (0 : UInt8), ())⟩

def zerosRegistry : Registry := { types := [zeros.type] }

/-- Payloads are compressed and may hold so many octets. -/
def compressing (maxPayload : Nat) : Config :=
  { protocol := { maxPayload := maxPayload, compression := true } }

/-- The fields of the message, packed. -/
def zerosPacked : Bytes := [120, 1, 83, 98, 32, 6, 0, 0, 5, 50, 0, 35]

/-- The frame of the message: its header, its version and its packed fields. -/
def zerosFrame : Bytes := [255, 255, 13, 0, 0, 0, 255] ++ zerosPacked

theorem pack_zeros : Compression.Zlib.packer.pack zeros.body = zerosPacked := by
  decide +kernel

theorem restores_zeros {asked : Nat} (h : asked = 21 ∨ asked = 1025) :
    Compression.Zlib.packer.Restores asked zeros.body := by
  rw [Compression.Packer.Restores, pack_zeros]
  rcases h with rfl | rfl <;> decide +kernel

theorem knows_zeros : zerosRegistry.Knows zeros.type := rfl

theorem serialize_zeros (maxPayload : Nat) (h : 13 ≤ maxPayload) :
    (Protocol.ofConfig (compressing maxPayload).protocol).serialize 0 0 zeros = .ok zerosFrame := by
  refine Protocol.serialize_eq_ok_iff.2 ⟨zerosPacked, ?_, h, rfl⟩
  rw [Protocol.transforms_ofConfig]
  exact congrArg Except.ok pack_zeros

end Specimen

/-- With room for the fields before they are packed the frame is read back. -/
theorem Specimen.compressing_reads_own_frame :
    (compressing 1024).validate = .ok (compressing 1024) ∧
    zerosRegistry.Knows zeros.type ∧
    Compression.Zlib.packer.Restores 1025 zeros.body ∧
    (Protocol.ofConfig (compressing 1024).protocol).serialize 0 0 zeros = .ok zerosFrame ∧
    (Protocol.ofConfig (compressing 1024).protocol).parse zerosRegistry zerosFrame =
      .ok ([zeros], []) := by
  have hz : Compression.Zlib.packer.Restores 1025 zeros.body := restores_zeros (.inr rfl)
  have hs := serialize_zeros 1024 (by decide)
  have hread := Protocol.parse_configured_iff (c := compressing 1024) rfl knows_zeros hz hs
  exact ⟨rfl, knows_zeros, hz, hs, hread.1.2 fun _ ↦ by decide⟩

/-- With room for the packed fields only, the same frame is written and then refused. -/
theorem Specimen.compressing_refuses_own_frame :
    (compressing 20).validate = .ok (compressing 20) ∧
    zerosRegistry.Knows zeros.type ∧
    Compression.Zlib.packer.Restores 21 zeros.body ∧
    (Protocol.ofConfig (compressing 20).protocol).serialize 0 0 zeros = .ok zerosFrame ∧
    (Protocol.ofConfig (compressing 20).protocol).parse zerosRegistry zerosFrame =
      .error (.refused (.payloadTooLarge 21 20)) := by
  have hz : Compression.Zlib.packer.Restores 21 zeros.body := restores_zeros (.inl rfl)
  have hs := serialize_zeros 20 (by decide)
  exact ⟨rfl, knows_zeros, hz, hs,
    Protocol.parse_too_large (by decide) knows_zeros hz rfl (by decide) hs⟩

end MessageEngine
