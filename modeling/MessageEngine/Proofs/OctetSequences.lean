import MessageEngine.Proofs.FrameParsing
import MessageEngine.Proofs.Truncation
import MessageEngine.Proofs.UncheckedCounts

/-!
# Octet sequences and blobs

A sequence of octets and a blob look the same on the wire, and they are read
alike, also where the reading fails.  So either may be declared in place of
the other, at any depth of a type and in any fields of a message: the frames
that are written stay the same, and so does what is parsed or refused.
-/

namespace MessageEngine

namespace Reader

theorem scalar_u8_cons (p : Nat) (x : UInt8) (s : Bytes) :
    (Reader.mk p (x :: s)).scalar .u8 = (.ok x, ⟨p + 1, s⟩) := by
  have hread := scalar_append p s .u8 x
  have hle : Bytes.le Scalar.u8.width (Scalar.u8.toNumber x) = [x] := by
    simp [Bytes.le, Scalar.width, Scalar.toNumber]
  rw [hle] at hread
  exact hread

/-- Octets that are there are read one by one. -/
theorem times_scalar_u8 {n : Nat} {p : Nat} {s : Bytes} (h : n ≤ s.length) (found : Bytes) :
    times (scalar .u8) n found ⟨p, s⟩ =
      (.ok (found.reverse ++ s.take n), ⟨p + n, s.drop n⟩) := by
  induction n generalizing p s found with
  | zero => simp [times]
  | succ n ih =>
      cases s with
      | nil => cases h
      | cons x s =>
          have hrest := ih (p := p + 1) (Nat.le_of_succ_le_succ h) (x :: found)
          rw [times, scalar_u8_cons]
          simp only [hrest, List.reverse_cons, List.append_assoc, List.singleton_append,
            List.take_succ_cons, List.drop_succ_cons, Nat.add_assoc, Nat.add_comm 1]

/-- The check of the count refuses just what would be refused as a blob. -/
theorem sequence_scalar_u8 (r : Reader) : sequence (scalar .u8) r = r.blob := by
  rw [sequence, blob]
  congr 1
  funext n r
  rw [take]
  split
  · next hholds =>
    have hn : n ≤ r.unread.length := (Bytes.holds_iff _ _).1 hholds
    exact times_scalar_u8 hn []
  · rfl

theorem value_vec_u8 (r : Reader) : r.value (.vec (.scalar .u8)) = r.value .bytes :=
  sequence_scalar_u8 r

end Reader

theorem WireType.encode_vec_u8 (v : Bytes) :
    (vec (scalar .u8)).encode v = bytes.encode v := by
  have hoctet (x : UInt8) : (scalar .u8).encode x = [x] := by
    simp [Bytes.le, Scalar.width, Scalar.toNumber]
  have hoctets : v.flatMap (scalar .u8).encode = v := by
    rw [funext hoctet, List.flatMap_singleton']
  have hsequence := encode_vec (scalar .u8) v
  rw [hoctets] at hsequence
  rw [hsequence, encode_bytes, Bytes.sized]

/-- Writers that hold the same octets are the same. -/
theorem Writer.ext_content {w w' : Writer} (h : w.content = w'.content) : w = w' := by
  obtain ⟨b⟩ := w
  obtain ⟨b'⟩ := w'
  rw [content, content, List.reverse_inj] at h
  exact congrArg Writer.mk h

/-! ## At any depth -/

/-- One wire type in place of another, where sequences of octets have become blobs, or blobs
sequences of octets, in any places. -/
inductive WireType.Recast : WireType → WireType → Type
  | same (t : WireType) : Recast t t
  | toBlob : Recast (.vec (.scalar .u8)) .bytes
  | toSequence : Recast .bytes (.vec (.scalar .u8))
  | vec {t u : WireType} (element : Recast t u) : Recast (.vec t) (.vec u)
  | opt {t u : WireType} (inner : Recast t u) : Recast (.opt t) (.opt u)

namespace WireType.Recast

/-- The value under the other type, with the same octets in it. -/
def value : {t u : WireType} → Recast t u → t.Value → u.Value
  | _, _, same _, v => v
  | _, _, toBlob, (v : List UInt8) => v
  | _, _, toSequence, (v : Bytes) => v
  | _, _, vec (t := t) element, (vs : List t.Value) => vs.map element.value
  | _, _, opt (t := t) inner, (v : Option t.Value) => v.map inner.value

def reverse : {t u : WireType} → Recast t u → Recast u t
  | _, _, same t => same t
  | _, _, toBlob => toSequence
  | _, _, toSequence => toBlob
  | _, _, vec element => vec element.reverse
  | _, _, opt inner => opt inner.reverse

variable {t u : WireType}

theorem reverse_value (x : Recast t u) (v : t.Value) : x.reverse.value (x.value v) = v := by
  induction x with
  | same t => rfl
  | toBlob => rfl
  | toSequence => rfl
  | @vec t u element ih =>
      change List t.Value at v
      change (v.map element.value).map element.reverse.value = v
      have hid : element.reverse.value ∘ element.value = id := funext ih
      rw [List.map_map, hid, List.map_id]
  | @opt t u inner ih =>
      change Option t.Value at v
      change (v.map inner.value).map inner.reverse.value = v
      have hid : inner.reverse.value ∘ inner.value = id := funext ih
      rw [Option.map_map, hid, Option.map_id]
      rfl

theorem encode_value (x : Recast t u) (v : t.Value) : u.encode (x.value v) = t.encode v := by
  induction x with
  | same t => rfl
  | toBlob => exact (encode_vec_u8 v).symm
  | toSequence => exact encode_vec_u8 v
  | @vec t u element ih =>
      change List t.Value at v
      change (WireType.vec u).encode (v.map element.value) = _
      rw [encode_vec, encode_vec, List.length_map, List.flatMap_map]
      simp only [ih]
  | @opt t u inner ih =>
      change Option t.Value at v
      cases v with
      | none => rfl
      | some a =>
          change (WireType.opt u).encode (some (inner.value a)) = _
          rw [encode_some, encode_some, ih]

end WireType.Recast

namespace Reader

variable {α β γ : Type}

/-- What was read, turned into something else; failures and the place stay. -/
def mapOk (f : α → β) (x : Result α) : Result β := andThen x fun a r ↦ (.ok (f a), r)

theorem andThen_mapOk (f : α → β) (x : Result α) (next : β → Reader → Result γ) :
    andThen (mapOk f x) next = andThen x fun a r ↦ next (f a) r :=
  andThen_assoc x _ next

theorem mapOk_andThen (f : β → γ) (x : Result α) (next : α → Reader → Result β) :
    mapOk f (andThen x next) = andThen x fun a r ↦ mapOk f (next a r) :=
  andThen_assoc x next _

theorem times_mapOk (f : α → β) (read : Reader → Result α) (n : Nat) (found : List α)
    (r : Reader) : times (fun r ↦ mapOk f (read r)) n (found.map f) r =
      mapOk (List.map f) (times read n found r) := by
  induction n generalizing found r with
  | zero => simp [times, mapOk, andThen, List.map_reverse]
  | succ n ih =>
      rw [times_succ, times_succ, andThen_mapOk, mapOk_andThen]
      congr 1
      funext a r
      exact ih (a :: found) r

theorem sequence_mapOk (f : α → β) (read : Reader → Result α) (r : Reader) :
    sequence (fun r ↦ mapOk f (read r)) r = mapOk (List.map f) (sequence read r) := by
  rw [sequence, sequence, mapOk_andThen]
  congr 1
  funext n r
  split
  · exact times_mapOk f read n [] r
  · rfl

theorem option_mapOk (f : α → β) (read : Reader → Result α) (r : Reader) :
    option (fun r ↦ mapOk f (read r)) r = mapOk (Option.map f) (option read r) := by
  rw [option, option, mapOk_andThen]
  congr 1
  funext present r
  cases present with
  | false => rfl
  | true =>
      simp only [if_true, andThen_mapOk, mapOk_andThen]
      rfl

theorem value_recast {t u : WireType} (x : t.Recast u) (r : Reader) :
    r.value u = mapOk x.value (r.value t) := by
  induction x generalizing r with
  | same t => exact (andThen_ok _).symm
  | toBlob => exact (value_vec_u8 r).symm.trans (andThen_ok _).symm
  | toSequence => exact (value_vec_u8 r).trans (andThen_ok _).symm
  | vec element ih =>
      rw [value, funext ih]
      exact sequence_mapOk element.value _ r
  | opt inner ih =>
      rw [value, funext ih]
      exact option_mapOk inner.value _ r

end Reader

/-! ## In fields and messages -/

/-- Fields of the same names, of which the types were recast. -/
inductive Fields.Recast : List Field → List Field → Type
  | nil : Recast [] []
  | cons (name : String) {t u : WireType} {fs gs : List Field} (first : t.Recast u)
      (rest : Recast fs gs) : Recast (⟨name, t⟩ :: fs) (⟨name, u⟩ :: gs)

namespace Fields.Recast

def values : {fs gs : List Field} → Recast fs gs → Fields fs → Fields gs
  | _, _, nil, _ => ()
  | _, _, cons _ first rest, (v, vs) => (first.value v, rest.values vs)

variable {fs gs : List Field}

theorem encode_values (x : Recast fs gs) (vs : Fields fs) :
    encode gs (x.values vs) = encode fs vs := by
  induction x with
  | nil => rfl
  | cons name first rest ih =>
      obtain ⟨v, vs⟩ := vs
      rw [values, encode, encode, first.encode_value, ih]

theorem read_values (x : Recast fs gs) (r : Reader) :
    read gs r = Reader.mapOk x.values (read fs r) := by
  induction x generalizing r with
  | nil => rfl
  | cons name first rest ih =>
      simp only [read, Reader.value_recast first, ih, Reader.andThen_mapOk, Reader.mapOk_andThen]
      rfl

end Fields.Recast

/-- Other fields for the messages of a type. -/
structure MessageType.Recast (t : MessageType) where
  fields : List Field
  recast : Fields.Recast t.fields fields

abbrev MessageType.Recast.type {t : MessageType} (x : t.Recast) : MessageType :=
  { t with fields := x.fields }

section Recast

variable (x : (t : MessageType) → t.Recast)

/-- The message with its fields recast. -/
def Message.recast (m : Message) : Message :=
  ⟨(x m.type).type, (x m.type).recast.values m.fields⟩

theorem Message.body_recast (m : Message) : (m.recast x).body = m.body :=
  (x m.type).recast.encode_values m.fields

theorem MessageType.read_recast (t : MessageType) (r : Reader) :
    (x t).type.read r = Reader.mapOk (Message.recast x) (t.read r) := by
  rw [MessageType.read, MessageType.read, (x t).recast.read_values, Reader.andThen_mapOk,
    Reader.mapOk_andThen]
  rfl

namespace Protocol

variable (p : Protocol) {registry registry' : Registry}

theorem serialize_recast (sender number : UInt64) (m : Message) :
    p.serialize sender number (m.recast x) = p.serialize sender number m := by
  rw [serialize, serialize, Message.body_recast]
  rfl

theorem readFields_recast (t : MessageType) (fields : Bytes) :
    readFields (x t).type fields = (readFields t fields).map (Message.recast x) := by
  rw [readFields, readFields, MessageType.read_recast]
  rcases t.read (Reader.ofBytes fields) with ⟨_ | m, r⟩
  · rfl
  · simp only [Reader.mapOk, Reader.andThen]
    split <;> rfl

theorem decodePayload_recast (t : MessageType) (version : UInt8) (fields : Bytes) :
    p.decodePayload (x t).type version fields =
      (p.decodePayload t version fields).map (Message.recast x) := by
  rw [decodePayload, decodePayload]
  change (if (p.strictVersions && version != t.version) = true then _ else _) = _
  split
  · rfl
  · cases Transform.decodeAll p.transforms fields with
    | error failure => rfl
    | ok plain =>
        simp only [readFields_recast]
        cases readFields t plain <;> rfl

def Front.recast : Front → Front
  | .incomplete => .incomplete
  | .failed failure => .failed failure
  | .frame m rest => .frame (m.recast x) rest

section

variable (hregistry : registry'.types = registry.types.map fun t ↦ (x t).type)
include hregistry

theorem announced_recast (h : Header) :
    p.announced registry' h = (p.announced registry h).map fun t ↦ (x t).type := by
  have htype : registry'.typeOf? h.id = (registry.typeOf? h.id).map fun t ↦ (x t).type := by
    rw [Registry.typeOf?, Registry.typeOf?, hregistry, List.find?_map]
    rfl
  simp only [announced, htype]
  split
  · rfl
  · split
    · rfl
    · cases registry.typeOf? h.id <;> rfl

theorem front_recast (b : Bytes) :
    p.front registry' b = (p.front registry b).recast x := by
  cases hs : Header.split? b with
  | none => simp only [front, hs, Front.recast]
  | some found =>
      obtain ⟨h, ahead⟩ := found
      have hannounced := announced_recast x p hregistry h
      cases ha : p.announced registry h with
      | error e => simp only [front, hs, hannounced, ha, Except.map, Front.recast]
      | ok t =>
          simp only [front, hs, hannounced, ha, Except.map]
          split
          · cases ahead.take h.length with
            | nil => rfl
            | cons version fields =>
                simp only [decodePayload_recast]
                cases p.decodePayload t version fields <;> rfl
          · rfl

theorem Takes.recast {b rest : Bytes} {ms : List Message} (h : p.Takes registry b ms rest) :
    p.Takes registry' b (ms.map (Message.recast x)) rest := by
  induction h with
  | nil b => exact .nil b
  | cons first _ ih =>
      refine .cons ?_ ih
      rw [front_recast x p hregistry, first]
      rfl

theorem parse_recast (b : Bytes) :
    p.parse registry' b = (p.parse registry b).map fun (ms, rest) ↦
      (ms.map (Message.recast x), rest) := by
  cases hp : p.parse registry b with
  | ok found =>
      obtain ⟨ms, rest⟩ := found
      obtain ⟨htakes, hend⟩ := parse_eq_ok_iff.1 hp
      apply parse_eq_ok_iff.2
      refine ⟨htakes.recast x p hregistry, ?_⟩
      rw [front_recast x p hregistry, hend]
      rfl
  | error failure =>
      obtain ⟨ms, rest, htakes, hend⟩ := parse_eq_error_iff.1 hp
      apply parse_eq_error_iff.2
      refine ⟨_, rest, htakes.recast x p hregistry, ?_⟩
      rw [front_recast x p hregistry, hend]
      rfl

end

end Protocol

end Recast

/-- A sequence of octets is written as the blob of these octets, and wherever one is read the
other comes to the same: to the same octets, or to the same error, and to the same place.  So in
the place of one the other may stand at any depth of a type, which changes neither what is written
nor how a read ends, and in any fields of messages, which changes no frame, no message but for the
types of its fields, and no refusal. -/
theorem WireType.sequence_as_blob :
    (∀ (v : Bytes) (w : Writer), w.value (.vec (.scalar .u8)) v = w.value .bytes v) ∧
    (∀ r : Reader, r.value (.vec (.scalar .u8)) = r.value .bytes) ∧
    (∀ (t u : WireType) (x : t.Recast u),
      (∀ (v : t.Value) (w : Writer), w.value u (x.value v) = w.value t v) ∧
      (∀ r : Reader, r.value u = Reader.mapOk x.value (r.value t)) ∧
      ∀ v : t.Value, x.reverse.value (x.value v) = v) ∧
    ∀ (x : (t : MessageType) → t.Recast) (p : Protocol),
      (∀ (sender number : UInt64) (m : Message),
        p.serialize sender number (m.recast x) = p.serialize sender number m) ∧
      ∀ (types : List MessageType) (handlers handlers' : List (HandlerKey × Handler)) (b : Bytes),
        p.parse ⟨types.map fun t ↦ (x t).type, handlers'⟩ b =
          (p.parse ⟨types, handlers⟩ b).map fun (ms, rest) ↦ (ms.map (Message.recast x), rest) := by
  have hwrite {t u : WireType} (x : t.Recast u) (v : t.Value) (w : Writer) :
      w.value u (x.value v) = w.value t v := by
    apply Writer.ext_content
    rw [Writer.content_value, Writer.content_value, x.encode_value]
  refine ⟨?_, ?_, ?_, ?_⟩
  · intro v w
    exact hwrite .toSequence v w
  · exact Reader.value_vec_u8
  · intro t u x
    exact ⟨hwrite x, Reader.value_recast x, x.reverse_value⟩
  · intro x p
    constructor
    · exact p.serialize_recast x
    · intro types handlers handlers' b
      exact p.parse_recast x rfl b

end MessageEngine
