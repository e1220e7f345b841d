import MessageEngine.Proofs.ConfiguredProtocol
import MessageEngine.Proofs.FrameGrammar
import MessageEngine.Proofs.Unpacking

/-!
# Octets behind the fields of a payload

The fields of a message have to use up the payload, and octets behind them
are refused as unread.  With compression the fields are unpacked first, and
unpacking stops at the end of the packed data.  So octets behind that end are
not missed by the fields, and the payload is accepted as if they were not
there.
-/

namespace MessageEngine

namespace Compression.Packer

variable {z : Packer} {limit : Nat} {data output : Bytes}

theorem decode_append (hz : z.StopsAtEnd) (h : z.decode limit data = .ok output)
    (extra : Bytes) : z.decode limit (data ++ extra) = .ok output := by
  obtain ⟨hlimit, hunpack, hlen⟩ := decode_eq_ok_iff.1 h
  exact decode_eq_ok_iff.2 ⟨hlimit, hz _ _ _ extra hunpack hlen, hlen⟩

end Compression.Packer

namespace Protocol

theorem readFields_append {t : MessageType} {fields extra : Bytes} {m : Message}
    (h : readFields t fields = .ok m) (hlen : fields.length < UInt32.size) (hextra : extra ≠ []) :
    readFields t (fields ++ extra) = .error (.unreadPayload t.id extra.length) := by
  obtain ⟨rfl, rfl⟩ := readFields_eq_ok h
  have hfits : m.Fits := Message.fits_of_length_body_lt hlen
  have hread : m.type.read (Reader.ofBytes (m.body ++ extra)) =
      (.ok m, ⟨0 + m.body.length, extra⟩) := by
    rw [MessageType.read, Reader.ofBytes, Message.body, Fields.read_append 0 extra _ _ hfits]
    rfl
  have hmore : (⟨0 + m.body.length, extra⟩ : Reader).hasRemaining = true := by
    simpa [Reader.hasRemaining] using hextra
  rw [readFields, hread]
  simp only [if_pos hmore]
  rfl

section Trailing

variable {z : Compression.Packer} {c : ProtocolConfig} {registry : Registry} {id : UInt16}
  {payload extra frame longer : Bytes} {m : Message}

/-- Nothing is unpacked, so the fields leave the octets behind them unread. -/
theorem parse_longer_uncompressed (hplain : c.compression = false)
    (hframe : Carries id payload frame) (hlonger : Carries id (payload ++ extra) longer)
    (hparse : (ofConfig c z).parse registry frame = .ok ([m], [])) (hextra : extra ≠ [])
    (hfits : (payload ++ extra).length ≤ c.maxPayload) :
    (ofConfig c z).parse registry longer = .error (.refused (.unreadPayload id extra.length)) := by
  obtain ⟨t, version, fields, rfl, -, htype, hdecode⟩ := (parse_carried_iff hframe).1 hparse
  obtain ⟨hversion, plain, hcoded, hread⟩ := decodePayload_eq_ok_iff.1 hdecode
  have hnone : (ofConfig c z).transforms = [] := transforms_of_plain hplain
  rw [hnone, Transform.decodeAll, Except.ok.injEq] at hcoded
  subst hcoded
  have hlen : fields.length < UInt32.size :=
    Nat.lt_of_succ_lt (Header.length_lt_of_split? hframe)
  have hunread := readFields_append hread hlen hextra
  rw [Registry.id_of_typeOf? htype] at hunread
  have hchecked : ¬ ((ofConfig c z).strictVersions && version != t.version) = true := by
    simpa using hversion
  have hrefused : (ofConfig c z).decodePayload t version (fields ++ extra) =
      .error (.refused (.unreadPayload id extra.length)) := by
    rw [decodePayload, if_neg hchecked, hnone, Transform.decodeAll]
    simp only [hunread]
    rfl
  exact parse_carried_of_error hlonger hfits htype hrefused

/-- The unpacked fields are the same, and nothing else is looked at. -/
theorem parse_longer_compressed (hz : z.StopsAtEnd) (hpacked : c.compression = true)
    (hframe : Carries id payload frame) (hlonger : Carries id (payload ++ extra) longer)
    (hparse : (ofConfig c z).parse registry frame = .ok ([m], []))
    (hfits : (payload ++ extra).length ≤ c.maxPayload) :
    (ofConfig c z).parse registry longer = .ok ([m], []) := by
  obtain ⟨t, version, fields, rfl, -, htype, hdecode⟩ := (parse_carried_iff hframe).1 hparse
  obtain ⟨hversion, plain, hcoded, hread⟩ := decodePayload_eq_ok_iff.1 hdecode
  have hline : (ofConfig c z).transforms = [.zlib c.maxPayload z] := transforms_of_packed hpacked
  rw [hline] at hcoded
  have hcoded' : Transform.decodeAll (ofConfig c z).transforms (fields ++ extra) = .ok plain := by
    rw [hline]
    exact Compression.Packer.decode_append hz hcoded extra
  exact (parse_carried_iff hlonger).2 ⟨t, version, fields ++ extra, rfl, hfits, htype,
    decodePayload_eq_ok_iff.2 ⟨hversion, plain, hcoded', hread⟩⟩

/-- A payload with further octets behind it is refused exactly if nothing is compressed, and then
for the number of these octets.  Compressed it stands for the same message, whatever packer is used
that stops at the end of the packed data. -/
theorem parse_longer_error_iff (hz : z.StopsAtEnd) (hframe : Carries id payload frame)
    (hlonger : Carries id (payload ++ extra) longer)
    (hparse : (ofConfig c z).parse registry frame = .ok ([m], [])) (hextra : extra ≠ [])
    (hfits : (payload ++ extra).length ≤ c.maxPayload) :
    ((∃ failure, (ofConfig c z).parse registry longer = .error failure) ↔
      c.compression = false) ∧
    (c.compression = false → (ofConfig c z).parse registry longer =
      .error (.refused (.unreadPayload id extra.length))) ∧
    (c.compression = true → (ofConfig c z).parse registry longer = .ok ([m], [])) := by
  have hplain (h : c.compression = false) :=
    parse_longer_uncompressed h hframe hlonger hparse hextra hfits
  have hpacked (h : c.compression = true) :=
    parse_longer_compressed hz h hframe hlonger hparse hfits
  refine ⟨⟨?_, fun h ↦ ⟨_, hplain h⟩⟩, hplain, hpacked⟩
  rintro ⟨failure, herror⟩
  rw [Bool.eq_false_iff]
  intro h
  rw [hpacked h] at herror
  cases herror

end Trailing

/-- A reading with an octet too many. -/
theorem parse_longer_reading :
    (ofConfig {}).parse Specimen.registry [7, 0, 9, 0, 0, 0, 3, 0, 0, 0, 0, 0, 0, 0, 0] =
        .ok ([Specimen.second], []) ∧
      (ofConfig {}).parse Specimen.registry [7, 0, 10, 0, 0, 0, 3, 0, 0, 0, 0, 0, 0, 0, 0, 1] =
        .error (.refused (.unreadPayload 7 1)) := by
  have hframe : Carries 7 [3, 0, 0, 0, 0, 0, 0, 0, 0]
      [7, 0, 9, 0, 0, 0, 3, 0, 0, 0, 0, 0, 0, 0, 0] := rfl
  have hlonger : Carries 7 ([3, 0, 0, 0, 0, 0, 0, 0, 0] ++ [1])
      [7, 0, 10, 0, 0, 0, 3, 0, 0, 0, 0, 0, 0, 0, 0, 1] := rfl
  have hparse : (ofConfig {}).parse Specimen.registry
      [7, 0, 9, 0, 0, 0, 3, 0, 0, 0, 0, 0, 0, 0, 0] = .ok ([Specimen.second], []) :=
    (parse_carried_iff hframe).2 ⟨Specimen.reading, 3, [0, 0, 0, 0, 0, 0, 0, 0], rfl, by decide,
      rfl, rfl⟩
  have hlongest := parse_longer_error_iff Compression.Zlib.stopsAtEnd_packer hframe hlonger hparse
    (by decide) (by decide)
  exact ⟨hparse, hlongest.2.1 rfl⟩

end Protocol

/-- The packed fields of a message with an octet behind them are read as the message. -/
theorem Specimen.compressing_overlooks_octet :
    Protocol.Carries 65535 (255 :: zerosPacked) zerosFrame ∧
    Protocol.Carries 65535 (255 :: zerosPacked ++ [0])
      ([255, 255, 14, 0, 0, 0, 255] ++ zerosPacked ++ [0]) ∧
    (255 :: zerosPacked ++ [0]).length ≤ (compressing 1024).protocol.maxPayload ∧
    (Protocol.ofConfig (compressing 1024).protocol).parse zerosRegistry zerosFrame =
      .ok ([zeros], []) ∧
    (Protocol.ofConfig (compressing 1024).protocol).parse zerosRegistry
      ([255, 255, 14, 0, 0, 0, 255] ++ zerosPacked ++ [0]) = .ok ([zeros], []) := by
  have hframe : Protocol.Carries 65535 (255 :: zerosPacked) zerosFrame := rfl
  have hlonger : Protocol.Carries 65535 (255 :: zerosPacked ++ [0])
      ([255, 255, 14, 0, 0, 0, 255] ++ zerosPacked ++ [0]) := rfl
  have hfits : (255 :: zerosPacked ++ [0]).length ≤ (compressing 1024).protocol.maxPayload := by
    decide
  have hparse : (Protocol.ofConfig (compressing 1024).protocol).parse zerosRegistry zerosFrame =
      .ok ([zeros], []) :=
    Protocol.parse_compressed (by decide) knows_zeros (restores_zeros (.inr rfl)) rfl (by decide)
      (serialize_zeros 1024 (by decide))
  exact ⟨hframe, hlonger, hfits, hparse, Protocol.parse_longer_compressed
    Compression.Zlib.stopsAtEnd_packer rfl hframe hlonger hparse hfits⟩

end MessageEngine
