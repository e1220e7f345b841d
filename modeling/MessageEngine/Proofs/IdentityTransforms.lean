import MessageEngine.Proofs.CheckedParsing

/-!
# The way without transforms

Without transforms the fields of a message are written behind its header and
are read from where they stand.  With transforms they are written apart, go
through the line and are copied.  The two ways agree: transforms that leave
octets as they are may stand anywhere in a line, also in one that is empty
without them, and the same frames are written, the same buffers are parsed,
and both fail for the same causes.

A transform may be given a number used once.  So a line says which number
each of its transforms is given for the next message, and the numbers of the
transforms that stay are the same before and after.
-/

namespace MessageEngine

/-! ## Writing a frame -/

def Fields.write : (fs : List Field) → Fields fs → Writer → Writer
  | [], _, w => w
  | f :: rest, (v, vs), w => write rest vs (w.value f.type v)

def Message.write (m : Message) (w : Writer) : Writer := Fields.write m.type.fields m.fields w

theorem Fields.content_write (fs : List Field) (vs : Fields fs) (w : Writer) :
    (Fields.write fs vs w).content = w.content ++ Fields.encode fs vs := by
  induction fs generalizing w with
  | nil => simp [Fields.write, Fields.encode]
  | cons f rest ih =>
      obtain ⟨v, vs⟩ := vs
      rw [Fields.write, ih, Writer.content_value, Fields.encode, List.append_assoc]

theorem Message.content_write (m : Message) (w : Writer) :
    (m.write w).content = w.content ++ m.body := Fields.content_write _ _ w

/-- Transforms in order, and the number that each of them is given. -/
abbrev Line := List (Transform × Nonce)

namespace Line

def encode : Line → Bytes → Except ProtocolError Bytes
  | [], data => .ok data
  | (t, nonce) :: rest, data =>
    match t.encode nonce data with
    | .ok coded => encode rest coded
    | .error e => .error e

end Line

namespace Protocol

def along (p : Protocol) (line : Line) : Protocol := { p with transforms := line.map Prod.fst }

/-- The fields of a message behind what was written.  With transforms they are written apart. -/
def writeFields (line : Line) (m : Message) (w : Writer) : Except ProtocolError Writer :=
  if line.isEmpty then .ok (m.write w) else (line.encode (m.write {}).content).map w.put

/-- A message as a frame: the length stands open until the payload has been written. -/
def write (p : Protocol) (line : Line) (m : Message) : Checked (Except ProtocolError Bytes) :=
  let w := Writer.put {} (Bytes.le 2 m.id.toNat)
  let place := w.content.length
  let w := w.count 0
  let start := w.content.length
  match writeFields line m (w.put [m.type.version]) with
  | .error e => .ok (.error e)
  | .ok w => do
    let length ← Checked.minus w.content.length start
    if length > p.maxPayload then return .error (.payloadTooLarge length p.maxPayload)
    else
      match w.patch? place (.ofNat length) with
      | none => .error .outOfRange
      | some w => return .ok w.content

/-- The frame of a message whose fields became these octets. -/
def framed (p : Protocol) (m : Message) (fields : Bytes) : Except ProtocolError Bytes :=
  if fields.length + 1 > p.maxPayload then
    .error (.payloadTooLarge (fields.length + 1) p.maxPayload)
  else .ok (Header.toBytes ⟨m.id, fields.length + 1⟩ ++ m.type.version :: fields)

end Protocol

/-- Four octets hold as much of a number as 32 bits do. -/
theorem Bytes.le_toNat_ofNat (n : Nat) : le 4 (UInt32.ofNat n).toNat = le 4 n := by
  have hback := Bytes.le_ofLE (le 4 n)
  rw [Bytes.length_le, Bytes.ofLE_le] at hback
  rw [← hback, UInt32.toNat_ofNat']
  rfl

theorem Bytes.patch?_append (a b c : Bytes) (hb : b.length = 4) (value : UInt32) :
    (a ++ (b ++ c)).patch? a.length value = some (a ++ (le 4 value.toNat ++ c)) := by
  have hroom : a.length + 4 ≤ (a ++ (b ++ c)).length := by
    simp only [List.length_append]
    omega
  have hdrop : (a ++ (b ++ c)).drop (a.length + 4) = c := by
    rw [← List.drop_drop, List.drop_left, ← hb, List.drop_left]
  rw [patch?, if_pos hroom, hdrop, List.take_left, List.append_assoc]

namespace Protocol

section Write

variable {p : Protocol} {m : Message}

theorem writeFields_of_error {line : Line} {e : ProtocolError} (w : Writer)
    (h : line.encode m.body = .error e) : writeFields line m w = .error e := by
  cases line with
  | nil => cases h
  | cons x line =>
      have hbody : (m.write {}).content = m.body := m.content_write {}
      simp only [writeFields, List.isEmpty_cons, Bool.false_eq_true, if_false, hbody, h]
      rfl

theorem writeFields_of_ok {line : Line} {fields : Bytes} (w : Writer)
    (h : line.encode m.body = .ok fields) :
    ∃ w', writeFields line m w = .ok w' ∧ w'.content = w.content ++ fields := by
  cases line with
  | nil =>
      cases h
      exact ⟨m.write w, rfl, m.content_write w⟩
  | cons x line =>
      have hbody : (m.write {}).content = m.body := m.content_write {}
      refine ⟨w.put fields, ?_, w.content_put fields⟩
      simp only [writeFields, List.isEmpty_cons, Bool.false_eq_true, if_false, hbody, h]
      rfl

/-- Whichever way the fields take, what is written is the frame around what the line makes of
them. -/
theorem write_eq (p : Protocol) (line : Line) (m : Message) :
    p.write line m = .ok (line.encode m.body >>= p.framed m) := by
  have hid : (Writer.put {} (Bytes.le 2 m.id.toNat)).content = Bytes.le 2 m.id.toNat :=
    Writer.content_put {} _
  have hheader : ((Writer.put {} (Bytes.le 2 m.id.toNat)).count 0).content =
      Bytes.le 2 m.id.toNat ++ Bytes.le 4 0 := by
    rw [Writer.content_count, hid]
  rw [write, hid, hheader]
  cases hcoded : line.encode m.body with
  | error e =>
      simp only [writeFields_of_error _ hcoded]
      rfl
  | ok fields =>
      obtain ⟨w, hw, hcontent⟩ := writeFields_of_ok
        (((Writer.put {} (Bytes.le 2 m.id.toNat)).count 0).put [m.type.version]) hcoded
      rw [Writer.content_put, hheader, List.append_assoc, List.append_assoc] at hcontent
      have hminus : Checked.minus w.content.length
          (Bytes.le 2 m.id.toNat ++ Bytes.le 4 0).length = .ok (fields.length + 1) := by
        have hlen : w.content.length =
            (Bytes.le 2 m.id.toNat ++ Bytes.le 4 0).length + (fields.length + 1) := by
          simp only [hcontent, List.length_append, List.length_singleton]
          omega
        rw [hlen, Checked.minus_of_le (Nat.le_add_right _ _), Nat.add_sub_cancel_left]
      have hpatch : w.patch? (Bytes.le 2 m.id.toNat).length (.ofNat (fields.length + 1)) =
          some (.ofBytes (Bytes.le 2 m.id.toNat ++ (Bytes.le 4 (fields.length + 1) ++
            m.type.version :: fields))) := by
        rw [Writer.patch?, hcontent, Bytes.patch?_append _ _ _ (Bytes.length_le 4 0),
          Bytes.le_toNat_ofNat]
        rfl
      simp only [hw, hminus, Checked.ok_bind, hpatch, Writer.content_ofBytes]
      change _ = Except.ok (p.framed m fields)
      rw [framed, Header.toBytes, List.append_assoc]
      split <;> rfl

end Write

end Protocol

namespace Line

/-- The numbers that the transforms are given for a frame of a sender: each is named by its
stage. -/
def numbered (sender frame : UInt64) : Nat → List Transform → Line
  | _, [] => []
  | stage, t :: rest => (t, ⟨sender, frame, .ofNat stage⟩) :: numbered sender frame (stage + 1) rest

theorem map_fst_numbered (sender frame : UInt64) (stage : Nat) (ts : List Transform) :
    (numbered sender frame stage ts).map Prod.fst = ts := by
  induction ts generalizing stage with
  | nil => rfl
  | cons t rest ih => rw [numbered, List.map_cons, ih]

theorem encode_numbered (sender frame : UInt64) (stage : Nat) (ts : List Transform)
    (data : Bytes) :
    (numbered sender frame stage ts).encode data =
      Transform.encodeAll sender frame stage ts data := by
  induction ts generalizing stage data with
  | nil => rfl
  | cons t rest ih =>
      rw [numbered, encode, Transform.encodeAll]
      cases t.encode ⟨sender, frame, .ofNat stage⟩ data with
      | error e => rfl
      | ok coded => exact ih (stage + 1) coded

end Line

theorem Protocol.write_numbered (p : Protocol) (sender number : UInt64) (m : Message) :
    p.write (.numbered sender number 0 p.transforms) m = .ok (p.serialize sender number m) := by
  rw [write_eq, Line.encode_numbered, serialize]
  cases Transform.encodeAll sender number 0 p.transforms m.body with
  | error e => rfl
  | ok fields => rfl

/-! ## Identities in a line -/

namespace Transform

/-- Octets are left as they are in both directions. -/
structure IsIdentity (t : Transform) : Prop where
  encode (nonce : Nonce) (data : Bytes) : t.encode nonce data = .ok data
  decode (data : Bytes) : t.decode data = .ok data

/-- What becomes of octets does not depend on the number that is given with them. -/
def IsDeterministic (t : Transform) : Prop :=
  ∀ nonce nonce' data, t.encode nonce data = t.encode nonce' data

theorem masking_zero_isIdentity : (masking 0).IsIdentity := by
  have hmap (data : Bytes) : data.map (· ^^^ 0) = data := by simp
  constructor
  · intro nonce data
    exact congrArg Except.ok (hmap data)
  · intro data
    exact congrArg Except.ok (hmap data)

end Transform

namespace Line

/-- One line with identities put in anywhere; all that was there keeps its number. -/
inductive Padded : Line → Line → Prop
  | nil : Padded [] []
  | keep (x : Transform × Nonce) {line longer : Line} (h : Padded line longer) :
      Padded (x :: line) (x :: longer)
  | insert (t : Transform) (nonce : Nonce) (ht : t.IsIdentity) {line longer : Line}
      (h : Padded line longer) : Padded line ((t, nonce) :: longer)

namespace Padded

variable {line longer : Line}

theorem encode_eq (h : Padded line longer) (data : Bytes) :
    longer.encode data = line.encode data := by
  induction h generalizing data with
  | nil => rfl
  | keep x h ih =>
      obtain ⟨t, nonce⟩ := x
      rw [encode, encode]
      cases t.encode nonce data with
      | error e => rfl
      | ok coded => exact ih coded
  | insert t nonce ht h ih =>
      rw [encode, ht.encode nonce data]
      exact ih data

theorem decodeAll_eq (h : Padded line longer) (data : Bytes) :
    Transform.decodeAll (longer.map Prod.fst) data =
      Transform.decodeAll (line.map Prod.fst) data := by
  induction h with
  | nil => rfl
  | keep x h ih => rw [List.map_cons, List.map_cons, Transform.decodeAll, Transform.decodeAll, ih]
  | insert t nonce ht h ih =>
      rw [List.map_cons, Transform.decodeAll, ih]
      cases Transform.decodeAll _ data with
      | error failure => rfl
      | ok coded => exact ht.decode coded

theorem isDeterministic (h : Padded line longer) (hline : ∀ x ∈ line, x.1.IsDeterministic) :
    ∀ x ∈ longer, x.1.IsDeterministic := by
  induction h with
  | nil => exact hline
  | keep x h ih =>
      obtain ⟨hx, hrest⟩ := List.forall_mem_cons.1 hline
      exact List.forall_mem_cons.2 ⟨hx, ih hrest⟩
  | insert t nonce ht h ih =>
      refine List.forall_mem_cons.2 ⟨?_, ih hline⟩
      intro nonce nonce' data
      rw [ht.encode, ht.encode]

end Padded

theorem encode_numbered_eq (line : Line) (hline : ∀ x ∈ line, x.1.IsDeterministic)
    (sender frame : UInt64) (stage : Nat) (data : Bytes) :
    (numbered sender frame stage (line.map Prod.fst)).encode data = line.encode data := by
  induction line generalizing stage data with
  | nil => rfl
  | cons x line ih =>
      obtain ⟨t, nonce⟩ := x
      obtain ⟨ht, hrest⟩ := List.forall_mem_cons.1 hline
      rw [List.map_cons, numbered, encode, encode, ht ⟨sender, frame, .ofNat stage⟩ nonce data]
      cases t.encode nonce data with
      | error e => rfl
      | ok coded => exact ih hrest (stage + 1) coded

end Line

namespace Protocol

section Padded

variable {line longer : Line}

theorem parse_along (p : Protocol) (h : Line.Padded line longer) (registry : Registry)
    (b : Bytes) : (p.along longer).parse registry b = (p.along line).parse registry b := by
  have hdecode (t : MessageType) (version : UInt8) (fields : Bytes) :
      (p.along longer).decodePayload t version fields =
        (p.along line).decodePayload t version fields := by
    simp only [decodePayload, along, h.decodeAll_eq]
    rfl
  apply parse_of_front_eq
  intro b
  simp only [front, hdecode]
  rfl

theorem write_eq_of_isDeterministic (p : Protocol) (hline : ∀ x ∈ line, x.1.IsDeterministic)
    (sender number : UInt64) (m : Message) :
    (.ok ((p.along line).serialize sender number m) : Checked (Except ProtocolError Bytes)) =
      p.write line m := by
  rw [← write_numbered, write_eq, write_eq]
  change Except.ok ((Line.numbered sender number 0 (line.map Prod.fst)).encode m.body >>= _) = _
  rw [Line.encode_numbered_eq line hline]
  rfl

/-- Identities may be put in anywhere: what is written is the same, and what is parsed.  With the
numbers that a frame comes with, what is written is what is serialized. -/
theorem padded_agrees (p : Protocol) (h : Line.Padded line longer) :
    (∀ m, p.write longer m = p.write line m) ∧
    (∀ registry b, (p.along longer).tryParse registry b = (p.along line).tryParse registry b) ∧
    (∀ registry b, (p.along longer).parse registry b = (p.along line).parse registry b) ∧
    ((∀ x ∈ line, x.1.IsDeterministic) → ∀ sender number m,
      (p.along longer).serialize sender number m = (p.along line).serialize sender number m) ∧
    (∀ sender number m,
      p.write (.numbered sender number 0 p.transforms) m = .ok (p.serialize sender number m)) := by
  have hwrite (m : Message) : p.write longer m = p.write line m := by
    rw [write_eq, write_eq, h.encode_eq]
  refine ⟨hwrite, ?_, p.parse_along h, ?_, p.write_numbered⟩
  · intro registry b
    rw [tryParse_eq, tryParse_eq, p.parse_along h]
  · intro hline sender number m
    have hlonger := h.isDeterministic hline
    have hsame := p.write_eq_of_isDeterministic hlonger sender number m
    rw [hwrite, ← p.write_eq_of_isDeterministic hline sender number m] at hsame
    exact Except.ok.inj hsame

end Padded

end Protocol

namespace Specimen

def shortLine : Line := [(.masking 90, ⟨1, 1, 0⟩), (.appending 5, ⟨1, 1, 1⟩)]

def paddedLine : Line :=
  [(.masking 0, ⟨2, 2, 0⟩), (.masking 90, ⟨1, 1, 0⟩), (.masking 0, ⟨2, 2, 1⟩),
    (.masking 0, ⟨2, 2, 2⟩), (.appending 5, ⟨1, 1, 1⟩), (.masking 0, ⟨2, 2, 3⟩)]

theorem padded_shortLine : Line.Padded shortLine paddedLine := by
  have hzero := Transform.masking_zero_isIdentity
  exact .insert _ _ hzero (.keep _ (.insert _ _ hzero (.insert _ _ hzero (.keep _
    (.insert _ _ hzero .nil)))))

end Specimen

/-- A message through both lines, and the beginning of another frame behind it. -/
theorem Protocol.padded_agrees_reading :
    Line.Padded Specimen.shortLine Specimen.paddedLine ∧
      Protocol.write {} Specimen.paddedLine Specimen.second =
        .ok (.ok [7, 0, 10, 0, 0, 0, 3, 90, 90, 90, 90, 90, 90, 90, 90, 5]) ∧
      (Protocol.along {} Specimen.paddedLine).parse Specimen.registry
          [7, 0, 10, 0, 0, 0, 3, 90, 90, 90, 90, 90, 90, 90, 90, 5, 7] =
        .ok ([Specimen.second], [7]) := by
  have hagrees := padded_agrees {} Specimen.padded_shortLine
  have hwrite : Protocol.write {} Specimen.shortLine Specimen.second =
      .ok (.ok [7, 0, 10, 0, 0, 0, 3, 90, 90, 90, 90, 90, 90, 90, 90, 5]) := by
    decide +kernel
  have hparse : (Protocol.along {} Specimen.shortLine).parse Specimen.registry
      [7, 0, 10, 0, 0, 0, 3, 90, 90, 90, 90, 90, 90, 90, 90, 5, 7] =
        .ok ([Specimen.second], [7]) :=
    parse_eq_ok_iff.2 ⟨.cons rfl (.nil [7]), rfl⟩
  refine ⟨Specimen.padded_shortLine, ?_, ?_⟩
  · rw [hagrees.1, hwrite]
  · rw [hagrees.2.2.1, hparse]

end MessageEngine
