import MessageEngine.Proofs.ConfiguredProtocol

/-!
# The limit on unpacked octets

Data is unpacked up to its limit and refused beyond it.  To tell the two
apart one octet more than the limit is asked for, and so many octets have to
be counted in 64 bits.  The greatest limit leaves no number for that one
octet: under it nothing is unpacked, whatever the data is.
-/

namespace MessageEngine

namespace Compression.Packer

variable {z : Packer} {limit : Nat} {octets output : Bytes}

theorem length_le_of_decode (h : z.decode limit octets = .ok output) : output.length ≤ limit := by
  obtain ⟨-, -, hshort⟩ := decode_eq_ok_iff.1 h
  omega

theorem decode_eq_panicked_iff :
    z.decode limit octets = .error .panicked ↔ UInt64.size ≤ limit + 1 := by
  by_cases hgreat : UInt64.size ≤ limit + 1
  · simp [decode, hgreat]
  · simp only [decode, hgreat, if_false, iff_false]
    split
    · split <;> simp
    · simp

end Compression.Packer

namespace Transform

/-- A limit on what is unpacked: data that was packed comes back up to the limit and is refused
beyond it, for one octet too many, and whatever is to be unpacked neither exceeds the limit nor
brings the transform down. -/
structure Limits (t : Transform) (limit : Nat) (data : Bytes) : Prop where
  returns (nonce : Nonce) (h : data.length ≤ limit) :
    ∃ coded, t.encode nonce data = .ok coded ∧ t.decode coded = .ok data
  refuses (nonce : Nonce) (h : limit < data.length) :
    ∃ coded, t.encode nonce data = .ok coded ∧
      t.decode coded = .error (.refused (.payloadTooLarge (limit + 1) limit))
  bounds (octets output : Bytes) (h : t.decode octets = .ok output) : output.length ≤ limit
  stands (octets : Bytes) : t.decode octets ≠ .error .panicked

section Zlib

open Compression

variable {z : Packer} {limit : Nat} {data : Bytes}

theorem limits_zlib (hz : z.Restores (limit + 1) data) (hcount : limit + 1 < UInt64.size) :
    (zlib limit z).Limits limit data where
  returns nonce hdata := by
    refine ⟨z.pack data, rfl, ?_⟩
    exact Packer.decode_pack_of_le hz hcount hdata
  refuses nonce hdata := by
    refine ⟨z.pack data, rfl, ?_⟩
    exact Packer.decode_pack_of_lt hz hcount hdata
  bounds octets output h := Packer.length_le_of_decode h
  stands octets h := by
    apply Nat.not_le_of_lt hcount
    exact Packer.decode_eq_panicked_iff.1 h

/-- Every limit in 64 bits holds but the greatest.  Under that one nothing is unpacked to more
than the limit either, as nothing is unpacked at all. -/
theorem zlib_limits_iff (limit : UInt64) (hz : z.Restores (limit.toNat + 1) data) :
    ((zlib limit.toNat z).Limits limit.toNat data ↔ limit.toNat + 1 < UInt64.size) ∧
      (limit.toNat + 1 = UInt64.size →
        ∀ octets, (zlib limit.toNat z).decode octets = .error .panicked) := by
  have hgreatest (h : UInt64.size ≤ limit.toNat + 1) (octets : Bytes) :
      (zlib limit.toNat z).decode octets = .error .panicked :=
    Packer.decode_eq_panicked_iff.2 h
  refine ⟨⟨fun h ↦ ?_, limits_zlib hz⟩, fun h ↦ hgreatest (Nat.le_of_eq h.symm)⟩
  by_contra hcount
  exact h.stands data (hgreatest (Nat.le_of_not_lt hcount) data)

end Zlib

end Transform

namespace Specimen

theorem restores_zeros_brim {asked : Nat}
    (h : asked = 38 ∨ asked = 39 ∨ asked = UInt64.size) :
    Compression.Zlib.packer.Restores asked zeros.body := by
  rw [Compression.Packer.Restores, pack_zeros]
  rcases h with rfl | rfl | rfl <;> decide +kernel

end Specimen

/-- The fields of the message just fill a limit of 38 octets, and are one too many for 37. -/
theorem Transform.zlib_limits_brim :
    Compression.Zlib.packer.Restores 39 Specimen.zeros.body ∧
      (zlib 38).decode (Compression.Zlib.packer.pack Specimen.zeros.body) =
        .ok Specimen.zeros.body ∧
      Compression.Zlib.packer.Restores 38 Specimen.zeros.body ∧
      (zlib 37).decode (Compression.Zlib.packer.pack Specimen.zeros.body) =
        .error (.refused (.payloadTooLarge 38 37)) := by
  have hwhole := Specimen.restores_zeros_brim (.inr (.inl rfl))
  have hpart := Specimen.restores_zeros_brim (.inl rfl)
  have hfills := (zlib_limits_iff 38 hwhole).1.2 (by decide)
  have hexceeds := (zlib_limits_iff 37 hpart).1.2 (by decide)
  obtain ⟨coded, hcoded, hback⟩ := hfills.returns ⟨0, 0, 0⟩ (by decide)
  obtain ⟨coded', hcoded', hrefused⟩ := hexceeds.refuses ⟨0, 0, 0⟩ (by decide)
  cases hcoded
  cases hcoded'
  exact ⟨hwhole, hback, hpart, hrefused⟩

/-- Under the greatest limit the same fields are packed and cannot be unpacked. -/
theorem Specimen.greatest_limit_fails :
    Compression.Zlib.packer.Restores UInt64.size zeros.body ∧
      (Transform.zlib 18446744073709551615).encode ⟨0, 0, 0⟩ zeros.body =
        .ok (Compression.Zlib.packer.pack zeros.body) ∧
      (Transform.zlib 18446744073709551615).decode (Compression.Zlib.packer.pack zeros.body) =
        .error .panicked ∧
      ¬ (Transform.zlib 18446744073709551615).Limits 18446744073709551615 zeros.body := by
  have hfails : (Transform.zlib 18446744073709551615).decode
      (Compression.Zlib.packer.pack zeros.body) = .error .panicked := rfl
  refine ⟨restores_zeros_brim (.inr (.inr rfl)), rfl, hfails, ?_⟩
  intro h
  exact h.stands _ hfails

end MessageEngine
