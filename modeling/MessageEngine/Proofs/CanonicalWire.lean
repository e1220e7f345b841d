import MessageEngine.Message

/-!
# What is read is what would be written

A reader that accepts a value went past the encoding of this value, octet
for octet, and not further.  So a value has one encoding only: no tag but 0
and 1, no text that is not UTF-8 and no false count is ever accepted, at
whatever depth it stands.
-/

namespace MessageEngine

namespace Reader

/-- The reader went past these octets. -/
structure Passes (r : Reader) (b : Bytes) (r' : Reader) : Prop where
  unread : r.unread = b ++ r'.unread
  position : r'.position = r.position + b.length

namespace Passes

variable {r r₁ r₂ : Reader} {a b : Bytes}

theorem nil (r : Reader) : r.Passes [] r := ⟨rfl, rfl⟩

theorem append (ha : r.Passes a r₁) (hb : r₁.Passes b r₂) : r.Passes (a ++ b) r₂ := by
  refine ⟨?_, ?_⟩
  · rw [ha.unread, hb.unread, List.append_assoc]
  · rw [hb.position, ha.position, List.length_append, Nat.add_assoc]

end Passes

variable {r r' : Reader}

theorem andThen_eq_ok {α β : Type} {x : Result α} {next : α → Reader → Result β} {b : β}
    (h : andThen x next = (.ok b, r')) : ∃ a r₁, x = (.ok a, r₁) ∧ next a r₁ = (.ok b, r') := by
  obtain ⟨outcome, r₁⟩ := x
  cases outcome with
  | error e => cases h
  | ok a => exact ⟨a, r₁, rfl, h⟩

theorem take_eq_ok {n : Nat} {b : Bytes} (h : r.take n = (.ok b, r')) :
    b.length = n ∧ r.Passes b r' := by
  rw [take] at h
  split at h
  · next hholds =>
    have hn : n ≤ r.unread.length := (Bytes.holds_iff _ _).1 hholds
    have hlen : (r.unread.take n).length = n := List.length_take_of_le hn
    simp only [Prod.mk.injEq, Except.ok.injEq] at h
    obtain ⟨rfl, rfl⟩ := h
    exact ⟨hlen, (List.take_append_drop n r.unread).symm, by rw [hlen]⟩
  · cases h

theorem scalar_eq_ok {kind : Scalar} {v : kind.Value} (h : r.scalar kind = (.ok v, r')) :
    r.Passes (Bytes.le kind.width (kind.toNumber v)) r' := by
  obtain ⟨b, r₁, htake, hb⟩ := andThen_eq_ok h
  obtain ⟨hlen, hpasses⟩ := take_eq_ok htake
  simp only [Prod.mk.injEq, Except.ok.injEq] at hb
  obtain ⟨rfl, rfl⟩ := hb
  have hfits : Bytes.ofLE b < Bytes.capacity kind.width := hlen ▸ Bytes.ofLE_lt b
  have hsame : Bytes.le kind.width (Bytes.ofLE b) = b := hlen ▸ Bytes.le_ofLE b
  rw [Scalar.toNumber_ofNumber, Nat.mod_eq_of_lt hfits, hsame]
  exact hpasses

theorem bool_eq_ok {v : Bool} (h : r.bool = (.ok v, r')) :
    r.Passes [if v then 1 else 0] r' := by
  obtain ⟨b, r₁, htake, hb⟩ := andThen_eq_ok h
  obtain ⟨-, hpasses⟩ := take_eq_ok htake
  split at hb
  · cases hb
    exact hpasses
  · cases hb
    exact hpasses
  · cases hb

theorem count_eq_ok {n : Nat} (h : r.count = (.ok n, r')) : r.Passes (Bytes.le 4 n) r' := by
  obtain ⟨b, r₁, htake, hb⟩ := andThen_eq_ok h
  obtain ⟨hlen, hpasses⟩ := take_eq_ok htake
  simp only [Prod.mk.injEq, Except.ok.injEq] at hb
  obtain ⟨rfl, rfl⟩ := hb
  have hsame : Bytes.le 4 (Bytes.ofLE b) = b := hlen ▸ Bytes.le_ofLE b
  rwa [hsame]

theorem blob_eq_ok {b : Bytes} (h : r.blob = (.ok b, r')) : r.Passes b.sized r' := by
  obtain ⟨n, r₁, hcount, htake⟩ := andThen_eq_ok h
  obtain ⟨rfl, hpasses⟩ := take_eq_ok htake
  exact (count_eq_ok hcount).append hpasses

theorem utf8_of_fromUTF8? {b : Bytes} {v : String}
    (h : String.fromUTF8? ⟨b.toArray⟩ = some v) : utf8 v = b := by
  rw [String.fromUTF8?] at h
  split at h
  · cases h
    rfl
  · cases h

theorem text_eq_ok {v : String} (h : r.text = (.ok v, r')) : r.Passes (utf8 v).sized r' := by
  obtain ⟨b, r₁, hblob, hb⟩ := andThen_eq_ok h
  split at hb
  · next s hs =>
    cases hb
    rw [utf8_of_fromUTF8? hs]
    exact blob_eq_ok hblob
  · cases hb

section Elements

variable {α : Type} {read : Reader → Result α} {encode : α → Bytes}
  (hread : ∀ {r v r'}, read r = (.ok v, r') → r.Passes (encode v) r')

include hread

theorem times_eq_ok {n : Nat} {found vs : List α} (h : times read n found r = (.ok vs, r')) :
    ∃ ws, vs = found.reverse ++ ws ∧ ws.length = n ∧ r.Passes (ws.flatMap encode) r' := by
  induction n generalizing r found with
  | zero =>
      rw [times] at h
      cases h
      exact ⟨[], (List.append_nil _).symm, rfl, .nil _⟩
  | succ n ih =>
      rw [times] at h
      split at h
      · next a r₁ hfirst =>
        obtain ⟨ws, rfl, hlen, hrest⟩ := ih h
        refine ⟨a :: ws, ?_, congrArg (· + 1) hlen, ?_⟩
        · rw [List.reverse_cons, List.append_assoc, List.singleton_append]
        · rw [List.flatMap_cons]
          exact (hread hfirst).append hrest
      · cases h

theorem sequence_eq_ok {vs : List α} (h : sequence read r = (.ok vs, r')) :
    r.Passes (Bytes.le 4 vs.length ++ vs.flatMap encode) r' := by
  obtain ⟨n, r₁, hcount, hrest⟩ := andThen_eq_ok h
  split at hrest
  · obtain ⟨ws, rfl, rfl, hpasses⟩ := times_eq_ok hread hrest
    exact (count_eq_ok hcount).append hpasses
  · cases hrest

theorem option_eq_ok {v : Option α} (h : option read r = (.ok v, r')) :
    r.Passes (match v with | none => [0] | some a => 1 :: encode a) r' := by
  obtain ⟨present, r₁, htag, hrest⟩ := andThen_eq_ok h
  have hpasses := bool_eq_ok htag
  cases present with
  | false =>
      cases hrest
      exact hpasses
  | true =>
      obtain ⟨a, r₂, hvalue, ha⟩ := andThen_eq_ok hrest
      cases ha
      exact hpasses.append (hread hvalue)

end Elements

theorem value_eq_ok {t : WireType} {v : t.Value} (h : r.value t = (.ok v, r')) :
    r.Passes (t.encode v) r' := by
  induction t generalizing r r' with
  | scalar kind =>
      rw [WireType.encode_scalar]
      exact scalar_eq_ok h
  | bool =>
      rw [WireType.encode_bool]
      exact bool_eq_ok h
  | string =>
      rw [WireType.encode_string]
      exact text_eq_ok h
  | bytes =>
      rw [WireType.encode_bytes]
      exact blob_eq_ok h
  | vec element ih =>
      rw [WireType.encode_vec]
      exact sequence_eq_ok ih h
  | opt inner ih =>
      have hpasses := option_eq_ok ih h
      change Option inner.Value at v
      cases v with
      | none =>
          rw [WireType.encode_none]
          exact hpasses
      | some a =>
          rw [WireType.encode_some]
          exact hpasses

end Reader

/-! ## Messages -/

theorem Fields.read_eq_ok {fs : List Field} {vs : Fields fs} {r r' : Reader}
    (h : Fields.read fs r = (.ok vs, r')) : r.Passes (Fields.encode fs vs) r' := by
  induction fs generalizing r with
  | nil =>
      cases h
      exact .nil _
  | cons f rest ih =>
      obtain ⟨v, r₁, hfirst, hrest⟩ := Reader.andThen_eq_ok h
      obtain ⟨ws, r₂, hothers, hws⟩ := Reader.andThen_eq_ok hrest
      cases hws
      exact (Reader.value_eq_ok hfirst).append (ih hothers)

theorem MessageType.read_eq_ok {t : MessageType} {m : Message} {r r' : Reader}
    (h : t.read r = (.ok m, r')) : m.type = t ∧ r.Passes m.body r' := by
  obtain ⟨vs, r₁, hfields, hm⟩ := Reader.andThen_eq_ok h
  cases hm
  exact ⟨rfl, Fields.read_eq_ok hfields⟩

end MessageEngine
