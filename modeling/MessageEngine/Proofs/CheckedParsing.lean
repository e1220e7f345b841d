import MessageEngine.Proofs.CheckedReading
import MessageEngine.Proofs.FrameGrammar

/-!
# Parsing by position

A parse that keeps its buffer until it has succeeded: it looks for each frame
behind a cursor and only then lets go of what is in front of it.  With every
slice, index and difference checked it comes to what `parse` comes to.  So
octets from anywhere are harmless.  Every turn but the last takes a frame,
which is seven octets at least, a refusal leaves the buffer as it was, and of
a buffer that is accepted less than a header and the largest payload is left.
-/

namespace MessageEngine

theorem Checked.bind_eq_ok {α β : Type} {x : Checked α} {next : α → Checked β} {b : β} :
    x >>= next = .ok b ↔ ∃ a, x = .ok a ∧ next a = .ok b := by
  cases x with
  | error fault => simp [bind, Except.bind]
  | ok a => simp [bind, Except.bind]

theorem Checked.ok_bind {α β : Type} (a : α) (next : α → Checked β) :
    (Except.ok a : Checked α) >>= next = next a := rfl

def Header.at (buffer : Bytes) (cursor : Nat) : Checked Header := do
  let header ← Checked.slice buffer cursor (cursor + headerSize)
  let id := Bytes.ofLE [← Checked.octet header 0, ← Checked.octet header 1]
  let length := Bytes.ofLE [← Checked.octet header 2, ← Checked.octet header 3,
    ← Checked.octet header 4, ← Checked.octet header 5]
  return ⟨.ofNat id, length⟩

namespace Protocol

/-- The message whose fields make up all of the given octets. -/
def readChecked (t : MessageType) (id : UInt16) (fields : Bytes) :
    Checked (Except ProtocolError Message) := do
  match ← Scan.message t ⟨fields, 0⟩ with
  | (.error e, _) => return .error e
  | (.ok m, s) =>
    if s.remaining > 0 then return .error (.unreadPayload id s.remaining) else return .ok m

/-- The message in a payload.  Without transforms its fields are read where they stand. -/
def decodeChecked (p : Protocol) (registry : Registry) (id : UInt16) (payload : Bytes) :
    Checked (Except DecodeFailure Message) :=
  match registry.create? id with
  | none => .error .unregistered
  | some blank => do
    let version ← Checked.octet payload 0
    if p.strictVersions && version != blank.type.version then
      return .error (.refused (.versionMismatch id blank.type.version version))
    else
      let sent ← Checked.slice payload 1 payload.length
      match if p.transforms.isEmpty then .ok sent else Transform.decodeAll p.transforms sent with
      | .error failure => return .error failure
      | .ok fields => return (← readChecked blank.type id fields).mapError .refused

inductive Turn
  | stop
  | refuse (failure : DecodeFailure)
  | frame (m : Message) (next : Nat)

/-- What comes of a header that will do, if so many octets are unread from its beginning on. -/
def openFrame (p : Protocol) (registry : Registry) (buffer : Bytes) (cursor unread : Nat)
    (h : Header) : Checked Turn := do
  let ahead ← Checked.minus unread headerSize
  if ahead < h.length then
    -- so much room is made for the rest of the frame
    let _ ← Checked.minus (headerSize + h.length) unread
    return .stop
  else
    let start := cursor + headerSize
    let payload ← Checked.slice buffer start (start + h.length)
    match ← p.decodeChecked registry h.id payload with
    | .error failure => return .refuse failure
    | .ok m => return .frame m (start + h.length)

/-- One turn of the loop, which looks for a frame at the cursor. -/
def turn (p : Protocol) (registry : Registry) (buffer : Bytes) (cursor : Nat) : Checked Turn := do
  let unread ← Checked.minus buffer.length cursor
  if unread < headerSize then return .stop
  else
    let h ← Header.at buffer cursor
    if h.length = 0 then return .refuse (.refused (.emptyPayload h.id))
    else if h.length > p.maxPayload then
      return .refuse (.refused (.payloadTooLarge h.length p.maxPayload))
    else if !registry.isRegistered h.id then return .refuse (.refused (.unknownMessageId h.id))
    else p.openFrame registry buffer cursor unread h

theorem lt_of_openFrame {p : Protocol} {registry : Registry} {buffer : Bytes}
    {cursor unread next : Nat} {h : Header} {m : Message}
    (hf : p.openFrame registry buffer cursor unread h = .ok (.frame m next)) :
    cursor < next ∧ next ≤ buffer.length := by
  simp only [openFrame, Checked.bind_eq_ok] at hf
  obtain ⟨ahead, -, hf⟩ := hf
  split at hf
  · simp only [Checked.bind_eq_ok] at hf
    obtain ⟨room, -, hf⟩ := hf
    cases hf
  · simp only [Checked.bind_eq_ok] at hf
    obtain ⟨payload, hslice, out, -, hf⟩ := hf
    have hrange := Checked.le_of_slice hslice
    cases out with
    | error failure => cases hf
    | ok found =>
        cases hf
        simp only [headerSize] at hrange ⊢
        omega

theorem lt_of_turn {p : Protocol} {registry : Registry} {buffer : Bytes} {cursor next : Nat}
    {m : Message} (ht : p.turn registry buffer cursor = .ok (.frame m next)) :
    cursor < next ∧ next ≤ buffer.length := by
  simp only [turn, Checked.bind_eq_ok] at ht
  obtain ⟨unread, -, ht⟩ := ht
  split at ht
  · cases ht
  · simp only [Checked.bind_eq_ok] at ht
    obtain ⟨h, -, ht⟩ := ht
    split_ifs at ht
    · cases ht
    · cases ht
    · cases ht
    · exact lt_of_openFrame ht

/-- Turn after turn from a cursor on; `found` holds the messages of the turns before, last
first. -/
def loop (p : Protocol) (registry : Registry) (buffer : Bytes) (cursor : Nat)
    (found : List Message) : Checked (Except DecodeFailure (List Message × Nat)) :=
  match _h : p.turn registry buffer cursor with
  | .error fault => .error fault
  | .ok .stop => .ok (.ok (found.reverse, cursor))
  | .ok (.refuse failure) => .ok (.error failure)
  | .ok (.frame m next) => loop p registry buffer next (m :: found)
termination_by buffer.length - cursor
decreasing_by
  have hnext := lt_of_turn _h
  omega

/-- The messages of the frames at the front of a buffer, or the refusal, and the buffer that is
kept. -/
def tryParse (p : Protocol) (registry : Registry) (buffer : Bytes) :
    Checked (Except DecodeFailure (List Message) × Bytes) := do
  match ← p.loop registry buffer 0 [] with
  | .error failure => return (.error failure, buffer)
  | .ok (ms, cursor) =>
    if cursor > 0 then return (.ok ms, ← Checked.slice buffer cursor buffer.length)
    else return (.ok ms, buffer)

section Turns

variable {p : Protocol} {registry : Registry} {buffer rest : Bytes} {cursor : Nat}
  {m : Message} {ms : List Message} {failure : DecodeFailure}

theorem header_at (buffer : Bytes) (cursor : Nat) (hlen : cursor + headerSize ≤ buffer.length) :
    ∃ h, Header.at buffer cursor = .ok h ∧
      Header.split? (buffer.drop cursor) = some (h, buffer.drop (cursor + headerSize)) := by
  have hslice := Checked.slice_of_le (Nat.le_add_right cursor headerSize) hlen
  rw [Nat.add_sub_cancel_left] at hslice
  have hdrop : buffer.drop (cursor + headerSize) = (buffer.drop cursor).drop headerSize := by
    rw [List.drop_drop]
  have hcount : headerSize ≤ (buffer.drop cursor).length := by
    rw [List.length_drop]
    omega
  rw [hdrop]
  simp only [Header.at, hslice]
  match buffer.drop cursor, hcount with
  | a :: b :: c :: d :: e :: f :: tail, _ => exact ⟨_, rfl, rfl⟩

theorem readChecked_eq (t : MessageType) (fields : Bytes) :
    readChecked t t.id fields = .ok (readFields t fields) := by
  obtain ⟨out, j, -, hread, hscan⟩ := Scan.follows_message t fields 0 (Nat.zero_le _)
  have hstart : Reader.within fields 0 = Reader.ofBytes fields := rfl
  rw [hstart] at hread
  simp only [readChecked, hscan, Checked.ok_bind, readFields, hread]
  cases out with
  | error e => rfl
  | ok m =>
      simp only [Scanner.hasRemaining_within, Scanner.remaining_within, decide_eq_true_eq]
      split <;> rfl

theorem decodeChecked_eq {id : UInt16} {t : MessageType} (htype : registry.typeOf? id = some t)
    (version : UInt8) (sent : Bytes) :
    p.decodeChecked registry id (version :: sent) = .ok (p.decodePayload t version sent) := by
  obtain rfl : t.id = id := Registry.id_of_typeOf? htype
  have hcreate : registry.create? t.id = some (Message.initial t) := by
    simp [Registry.create?, htype]
  have hinitial : (Message.initial t).type = t := rfl
  have hoctet : Checked.octet (version :: sent) 0 = .ok version := rfl
  have hslice : Checked.slice (version :: sent) 1 (version :: sent).length = .ok sent := by
    rw [Checked.slice_of_le (by simp) (Nat.le_refl _)]
    simp
  have hplain : (if p.transforms.isEmpty then .ok sent else Transform.decodeAll p.transforms sent) =
      Transform.decodeAll p.transforms sent := by
    cases p.transforms <;> rfl
  simp only [decodeChecked, hcreate, hinitial, hoctet, Checked.ok_bind, hslice, hplain,
    decodePayload]
  split
  · rfl
  · cases Transform.decodeAll p.transforms sent with
    | error failure => rfl
    | ok fields => simp only [readChecked_eq, Checked.ok_bind]; rfl

/-! ## One turn -/

theorem turn_of_header {h : Header} (hlen : cursor + headerSize ≤ buffer.length)
    (hat : Header.at buffer cursor = .ok h) :
    p.turn registry buffer cursor =
      match p.announced registry h with
      | .error e => .ok (.refuse (.refused e))
      | .ok _ => p.openFrame registry buffer cursor (buffer.length - cursor) h := by
  have hminus : Checked.minus buffer.length cursor = .ok (buffer.length - cursor) :=
    Checked.minus_of_le (by omega)
  have hlong : ¬ buffer.length - cursor < headerSize := by omega
  simp only [turn, hminus, Checked.ok_bind, hlong, if_false, hat, announced]
  split
  · rfl
  · split
    · rfl
    · cases htype : registry.typeOf? h.id with
      | none => simp [Registry.isRegistered, htype, pure, Except.pure]
      | some t => simp [Registry.isRegistered, htype]

/-- A turn comes to what stands at its cursor.  Behind a frame the next turn begins, seven octets
further on at least. -/
inductive Finds (buffer : Bytes) (cursor : Nat) : Front → Turn → Prop
  | stop : Finds buffer cursor .incomplete .stop
  | refuse (failure : DecodeFailure) : Finds buffer cursor (.failed failure) (.refuse failure)
  | frame (m : Message) (next : Nat) (hnext : cursor + 7 ≤ next) (hlen : next ≤ buffer.length) :
      Finds buffer cursor (.frame m (buffer.drop next)) (.frame m next)

theorem openFrame_finds {h : Header} {t : MessageType} (hlen : cursor + headerSize ≤ buffer.length)
    (hsplit : Header.split? (buffer.drop cursor) = some (h, buffer.drop (cursor + headerSize)))
    (ha : p.announced registry h = .ok t) :
    ∃ turn, p.openFrame registry buffer cursor (buffer.length - cursor) h = .ok turn ∧
      Finds buffer cursor (p.front registry (buffer.drop cursor)) turn := by
  obtain ⟨hpos, -, htype⟩ := announced_eq_ok_iff.1 ha
  have hahead : (buffer.drop (cursor + headerSize)).length =
      buffer.length - cursor - headerSize := by
    rw [List.length_drop, Nat.sub_add_eq]
  have hminus : Checked.minus (buffer.length - cursor) headerSize =
      .ok (buffer.length - cursor - headerSize) := Checked.minus_of_le (by omega)
  by_cases hpart : buffer.length - cursor - headerSize < h.length
  · have hroom := Checked.minus_of_le (by omega : buffer.length - cursor ≤ headerSize + h.length)
    refine ⟨.stop, ?_, ?_⟩
    · simp only [openFrame, hminus, Checked.ok_bind, hpart, if_true, hroom]
      rfl
    · rw [(front_of_announced hsplit ha).2 (by omega)]
      exact .stop
  · have hslice := Checked.slice_of_le (Nat.le_add_right (cursor + headerSize) h.length)
      (by omega : cursor + headerSize + h.length ≤ buffer.length)
    rw [Nat.add_sub_cancel_left] at hslice
    have hholds : Bytes.holds (buffer.drop (cursor + headerSize)) h.length = true :=
      (Bytes.holds_iff _ _).2 (by omega)
    cases hpayload : (buffer.drop (cursor + headerSize)).take h.length with
    | nil =>
        -- no payload is announced with length 0, so there is a version octet
        have hcount := congrArg List.length hpayload
        rw [List.length_take_of_le (by omega), List.length_nil] at hcount
        omega
    | cons version sent =>
        have hturn : p.openFrame registry buffer cursor (buffer.length - cursor) h =
            match p.decodePayload t version sent with
            | .error failure => .ok (.refuse failure)
            | .ok m => .ok (.frame m (cursor + headerSize + h.length)) := by
          simp only [openFrame, hminus, Checked.ok_bind, hpart, if_false, hslice, hpayload,
            decodeChecked_eq htype]
          cases p.decodePayload t version sent <;> rfl
        rw [hturn]
        cases hdecode : p.decodePayload t version sent with
        | error failure =>
            refine ⟨.refuse failure, rfl, ?_⟩
            simp only [front, hsplit, ha, hholds, if_true, hpayload, hdecode]
            exact .refuse failure
        | ok m =>
            refine ⟨.frame m (cursor + headerSize + h.length), rfl, ?_⟩
            simp only [front, hsplit, ha, hholds, if_true, hpayload, hdecode, List.drop_drop]
            exact .frame m _ (by simp only [headerSize]; omega) (by omega)

theorem turn_finds (p : Protocol) (registry : Registry) (hcursor : cursor ≤ buffer.length) :
    ∃ turn, p.turn registry buffer cursor = .ok turn ∧
      Finds buffer cursor (p.front registry (buffer.drop cursor)) turn := by
  by_cases hshort : buffer.length - cursor < headerSize
  · have hsplit : Header.split? (buffer.drop cursor) = none := by
      apply Header.split?_eq_none_iff.2
      rwa [List.length_drop]
    refine ⟨.stop, ?_, ?_⟩
    · simp only [turn, Checked.minus_of_le hcursor, Checked.ok_bind, hshort, if_true]
      rfl
    · simp only [front, hsplit]
      exact .stop
  · have hlen : cursor + headerSize ≤ buffer.length := by omega
    obtain ⟨h, hat, hsplit⟩ := header_at buffer cursor hlen
    rw [turn_of_header hlen hat]
    cases ha : p.announced registry h with
    | error e =>
        refine ⟨.refuse (.refused e), rfl, ?_⟩
        simp only [front, hsplit, ha]
        exact .refuse _
    | ok t => exact openFrame_finds hlen hsplit ha

theorem seven_le_of_turn {next : Nat} (hcursor : cursor ≤ buffer.length)
    (ht : p.turn registry buffer cursor = .ok (.frame m next)) :
    cursor + 7 ≤ next ∧ next ≤ buffer.length := by
  obtain ⟨turn, hturn, hfinds⟩ := turn_finds p registry hcursor
  cases hturn.symm.trans ht
  generalize p.front registry (buffer.drop cursor) = here at hfinds
  cases hfinds with
  | frame m next hnext hlen => exact ⟨hnext, hlen⟩

/-! ## Turn after turn -/

theorem loop_of_stop (found : List Message) (h : p.turn registry buffer cursor = .ok .stop) :
    p.loop registry buffer cursor found = .ok (.ok (found.reverse, cursor)) := by
  rw [loop]
  split <;> simp_all

theorem loop_of_refuse (found : List Message)
    (h : p.turn registry buffer cursor = .ok (.refuse failure)) :
    p.loop registry buffer cursor found = .ok (.error failure) := by
  rw [loop]
  split <;> simp_all

theorem loop_of_frame (found : List Message) {next : Nat}
    (h : p.turn registry buffer cursor = .ok (.frame m next)) :
    p.loop registry buffer cursor found = p.loop registry buffer next (m :: found) := by
  rw [loop]
  split <;> simp_all

/-- From any cursor the loop parses what is behind it. -/
theorem loop_eq (p : Protocol) (registry : Registry) (found : List Message)
    (hcursor : cursor ≤ buffer.length) :
    p.loop registry buffer cursor found =
      .ok ((p.parseFrom registry found (buffer.drop cursor)).map fun (ms, rest) ↦
        (ms, buffer.length - rest.length)) := by
  -- on what is left behind the cursor, which every frame makes shorter
  induction hn : buffer.length - cursor using Nat.strongRecOn generalizing cursor found with
  | _ n ih =>
      obtain ⟨turn, hturn, hfinds⟩ := turn_finds p registry hcursor
      generalize hfront : p.front registry (buffer.drop cursor) = here at hfinds
      cases hfinds with
      | stop =>
          have hback : buffer.length - (buffer.drop cursor).length = cursor := by
            rw [List.length_drop]
            omega
          rw [loop_of_stop found hturn, parseFrom_of_incomplete found hfront]
          simp only [Except.map, hback]
      | refuse failure =>
          rw [loop_of_refuse found hturn, parseFrom_of_failed found hfront]
          rfl
      | frame m next hnext hlen =>
          rw [loop_of_frame found hturn, parseFrom_of_frame found hfront]
          exact ih (buffer.length - next) (by omega) (m :: found) hlen rfl

theorem suffix_of_front {b : Bytes} (hf : p.front registry b = .frame m rest) : rest <:+ b := by
  obtain ⟨h, ahead, -, -, -, hsplit, -, -, -, -, rfl⟩ := front_eq_frame_iff.1 hf
  rw [Header.eq_of_split? hsplit]
  exact (List.drop_suffix h.length ahead).trans (List.suffix_append h.toBytes ahead)

theorem Takes.suffix {b : Bytes} (h : p.Takes registry b ms rest) : rest <:+ b := by
  induction h with
  | nil b => exact List.suffix_refl b
  | cons first _ ih => exact ih.trans (suffix_of_front first)

/-- What waits for the rest of a frame is less than a header and the largest payload. -/
theorem length_lt_of_incomplete {b : Bytes} (hf : p.front registry b = .incomplete) :
    b.length < headerSize + p.maxPayload := by
  cases hsplit : Header.split? b with
  | none =>
      have hshort := Header.split?_eq_none_iff.1 hsplit
      omega
  | some found =>
      obtain ⟨h, ahead⟩ := found
      have hlen := Header.length_of_split? hsplit
      cases ha : p.announced registry h with
      | error e => simp [front, hsplit, ha] at hf
      | ok t =>
          have hlarge := (announced_eq_ok_iff.1 ha).2.1
          have hpart := (front_of_announced hsplit ha).1 hf
          omega

/-- What is parsed by position is what is parsed, and a refusal leaves the buffer as it was. -/
theorem tryParse_eq (p : Protocol) (registry : Registry) (buffer : Bytes) :
    p.tryParse registry buffer =
      match p.parse registry buffer with
      | .ok (ms, rest) => .ok (.ok ms, rest)
      | .error failure => .ok (.error failure, buffer) := by
  have hloop := loop_eq p registry [] (Nat.zero_le buffer.length)
  rw [List.drop_zero, ← parse] at hloop
  rw [tryParse, hloop]
  cases hparse : p.parse registry buffer with
  | error failure => rfl
  | ok found =>
      obtain ⟨ms, rest⟩ := found
      have hsuffix : rest <:+ buffer := (parse_eq_ok_iff.1 hparse).1.suffix
      have hrest : buffer.drop (buffer.length - rest.length) = rest :=
        (List.suffix_iff_eq_drop.1 hsuffix).symm
      simp only [Except.map, Checked.ok_bind]
      by_cases hmoved : buffer.length - rest.length > 0
      · have hslice := Checked.slice_of_le (Nat.sub_le buffer.length rest.length)
          (Nat.le_refl buffer.length)
        rw [hrest, List.take_of_length_le (by omega)] at hslice
        simp only [hmoved, if_true, hslice]
        rfl
      · have hall : rest = buffer := by
          apply hsuffix.eq_of_length_le
          omega
        simp only [hmoved, if_false]
        rw [hall]
        rfl

end Turns

/-- The cursor at which a turn begins when so many turns have taken a frame each. -/
inductive Reaches (p : Protocol) (registry : Registry) (buffer : Bytes) : Nat → Nat → Prop
  | start : Reaches p registry buffer 0 0
  | next {n cursor behind : Nat} {m : Message} (before : Reaches p registry buffer n cursor)
      (turn : p.turn registry buffer cursor = .ok (.frame m behind)) :
      Reaches p registry buffer (n + 1) behind

/-- What octets from anywhere can do to a parse, at most. -/
structure Withstands (p : Protocol) (registry : Registry) (buffer : Bytes) : Prop where
  /-- No turn meets a fault, and each but the last takes seven octets at least. -/
  turns (n cursor : Nat) (h : p.Reaches registry buffer n cursor) :
    7 * n ≤ cursor ∧ cursor ≤ buffer.length ∧
      ∃ turn, p.turn registry buffer cursor = .ok turn ∧
        ∀ m next, turn = .frame m next → cursor + 7 ≤ next ∧ next ≤ buffer.length
  /-- Nor does the whole parse, and it comes to what `parse` comes to. -/
  parses : p.tryParse registry buffer =
    match p.parse registry buffer with
    | .ok (ms, rest) => .ok (.ok ms, rest)
    | .error failure => .ok (.error failure, buffer)
  refuses (failure : DecodeFailure) (left : Bytes)
    (h : p.tryParse registry buffer = .ok (.error failure, left)) :
    left = buffer ∧ ∀ more,
      p.tryParse registry (left ++ more) = .ok (.error failure, left ++ more)
  keeps (ms : List Message) (left : Bytes)
    (h : p.tryParse registry buffer = .ok (.ok ms, left)) :
    left <:+ buffer ∧ left.length < headerSize + p.maxPayload

section Withstands

variable {p : Protocol} {registry : Registry} {buffer left : Bytes} {ms : List Message}
  {failure : DecodeFailure}

theorem Reaches.bounds {n cursor : Nat} (h : p.Reaches registry buffer n cursor) :
    7 * n ≤ cursor ∧ cursor ≤ buffer.length := by
  induction h with
  | start => exact ⟨Nat.le_refl 0, Nat.zero_le _⟩
  | next before turn ih =>
      have hnext := seven_le_of_turn ih.2 turn
      omega

theorem tryParse_eq_error_iff :
    p.tryParse registry buffer = .ok (.error failure, left) ↔
      p.parse registry buffer = .error failure ∧ left = buffer := by
  rw [tryParse_eq]
  cases p.parse registry buffer with
  | error found => simp [eq_comm]
  | ok found => simp

theorem tryParse_eq_ok_iff :
    p.tryParse registry buffer = .ok (.ok ms, left) ↔
      p.parse registry buffer = .ok (ms, left) := by
  rw [tryParse_eq]
  cases p.parse registry buffer with
  | error found => simp
  | ok found => simp [Prod.ext_iff]

/-- This is so whatever octets come, whatever the transforms make of them, and whatever is
registered. -/
theorem withstands (p : Protocol) (registry : Registry) (buffer : Bytes) :
    p.Withstands registry buffer where
  turns n cursor h := by
    obtain ⟨hcount, hcursor⟩ := h.bounds
    obtain ⟨turn, hturn, -⟩ := turn_finds p registry hcursor
    refine ⟨hcount, hcursor, turn, hturn, ?_⟩
    rintro m next rfl
    exact seven_le_of_turn hcursor hturn
  parses := tryParse_eq p registry buffer
  refuses failure left h := by
    obtain ⟨hparse, rfl⟩ := tryParse_eq_error_iff.1 h
    refine ⟨rfl, ?_⟩
    intro more
    exact tryParse_eq_error_iff.2 ⟨parse_error_append hparse more, rfl⟩
  keeps ms left h := by
    obtain ⟨htakes, hend⟩ := parse_eq_ok_iff.1 (tryParse_eq_ok_iff.1 h)
    exact ⟨htakes.suffix, length_lt_of_incomplete hend⟩

end Withstands

end Protocol

end MessageEngine
