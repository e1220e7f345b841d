import MessageEngine.Frame

/-!
# Frames at the front of a buffer

What is found at the front of a buffer stays when more arrives behind it.
So a parse takes the same frames off a stream whether it comes in one piece
or cut at will, and a stream that is refused is refused for the same cause
wherever it is cut.
-/

namespace MessageEngine

theorem Header.split?_append {b rest : Bytes} {h : Header} (hs : split? b = some (h, rest))
    (c : Bytes) : split? (b ++ c) = some (h, rest ++ c) := by
  match b, hs with
  | x₁ :: x₂ :: x₃ :: x₄ :: x₅ :: x₆ :: tail, hs =>
      simp only [split?, Option.some.injEq, Prod.mk.injEq] at hs
      obtain ⟨rfl, rfl⟩ := hs
      rfl

namespace Protocol

section Front

variable {p : Protocol} {registry : Registry}

/-- A frame at the front of a buffer, in parts. -/
theorem front_eq_frame_iff {b rest : Bytes} {m : Message} :
    p.front registry b = .frame m rest ↔
      ∃ h ahead t version fields, Header.split? b = some (h, ahead) ∧
        p.announced registry h = .ok t ∧ h.length ≤ ahead.length ∧
        ahead.take h.length = version :: fields ∧ p.decodePayload t version fields = .ok m ∧
        ahead.drop h.length = rest := by
  constructor
  · intro hf
    unfold front at hf
    split at hf
    · cases hf
    · next h ahead hs =>
      split at hf
      · cases hf
      · next t ha =>
        split at hf
        · next hh =>
          split at hf
          · cases hf
          · next version fields ht =>
            split at hf
            · cases hf
            · next m' hd =>
              simp only [Front.frame.injEq] at hf
              obtain ⟨rfl, rfl⟩ := hf
              exact ⟨h, ahead, t, version, fields, hs, ha, (Bytes.holds_iff _ _).1 hh, ht, hd,
                rfl⟩
        · cases hf
  · rintro ⟨h, ahead, t, version, fields, hs, ha, hh, ht, hd, rfl⟩
    simp only [front, hs, ha, (Bytes.holds_iff _ _).2 hh, if_true, ht, hd]

/-- A refusal at the front of a buffer: of a header, or of a whole frame. -/
theorem front_eq_failed_iff {b : Bytes} {failure : DecodeFailure} :
    p.front registry b = .failed failure ↔
      ∃ h ahead, Header.split? b = some (h, ahead) ∧
        ((∃ e, p.announced registry h = .error e ∧ failure = .refused e) ∨
          ∃ t version fields, p.announced registry h = .ok t ∧ h.length ≤ ahead.length ∧
            ahead.take h.length = version :: fields ∧
            p.decodePayload t version fields = .error failure) := by
  constructor
  · intro hf
    unfold front at hf
    split at hf
    · cases hf
    · next h ahead hs =>
      refine ⟨h, ahead, hs, ?_⟩
      split at hf
      · next e ha =>
        simp only [Front.failed.injEq] at hf
        exact .inl ⟨e, ha, hf.symm⟩
      · next t ha =>
        split at hf
        · next hh =>
          split at hf
          · cases hf
          · next version fields ht =>
            split at hf
            · next failure' hd =>
              simp only [Front.failed.injEq] at hf
              subst hf
              exact .inr ⟨t, version, fields, ha, (Bytes.holds_iff _ _).1 hh, ht, hd⟩
            · cases hf
        · cases hf
  · rintro ⟨h, ahead, hs, ⟨e, ha, rfl⟩ | ⟨t, version, fields, ha, hh, ht, hd⟩⟩
    · simp only [front, hs, ha]
    · simp only [front, hs, ha, (Bytes.holds_iff _ _).2 hh, if_true, ht, hd]

/-- Neither what a frame holds nor where it ends depends on what comes behind it. -/
theorem front_frame_append {b rest : Bytes} {m : Message}
    (hf : p.front registry b = .frame m rest) (c : Bytes) :
    p.front registry (b ++ c) = .frame m (rest ++ c) := by
  obtain ⟨h, ahead, t, version, fields, hs, ha, hh, ht, hd, rfl⟩ := front_eq_frame_iff.1 hf
  refine front_eq_frame_iff.2 ⟨h, ahead ++ c, t, version, fields, Header.split?_append hs c, ha,
    ?_, ?_, hd, ?_⟩
  · rw [List.length_append]
    exact Nat.le_add_right_of_le hh
  · rw [List.take_append_of_le_length hh, ht]
  · rw [List.drop_append_of_le_length hh]

/-- Nothing that comes behind makes up for what was refused. -/
theorem front_failed_append {b : Bytes} {failure : DecodeFailure}
    (hf : p.front registry b = .failed failure) (c : Bytes) :
    p.front registry (b ++ c) = .failed failure := by
  obtain ⟨h, ahead, hs, hcause⟩ := front_eq_failed_iff.1 hf
  refine front_eq_failed_iff.2 ⟨h, ahead ++ c, Header.split?_append hs c, ?_⟩
  rcases hcause with hheader | ⟨t, version, fields, ha, hh, ht, hd⟩
  · exact .inl hheader
  · refine .inr ⟨t, version, fields, ha, ?_, ?_, hd⟩
    · rw [List.length_append]
      exact Nat.le_add_right_of_le hh
    · rw [List.take_append_of_le_length hh, ht]

@[simp] theorem front_nil : p.front registry [] = .incomplete := rfl

end Front

/-! ## Frame after frame -/

/-- Well-formed frames at the front of a buffer: their messages, and what stands behind. -/
inductive Takes (p : Protocol) (registry : Registry) : Bytes → List Message → Bytes → Prop
  | nil (b : Bytes) : Takes p registry b [] b
  | cons {b next rest : Bytes} {m : Message} {ms : List Message}
      (first : p.front registry b = .frame m next) (others : Takes p registry next ms rest) :
      Takes p registry b (m :: ms) rest

namespace Takes

variable {p : Protocol} {registry : Registry} {b c rest : Bytes} {ms ns : List Message}

theorem append (h : p.Takes registry b ms rest) (c : Bytes) :
    p.Takes registry (b ++ c) ms (rest ++ c) := by
  induction h with
  | nil b => exact .nil _
  | cons first _ ih => exact .cons (front_frame_append first c) ih

theorem trans (h : p.Takes registry b ms rest) (h' : p.Takes registry rest ns c) :
    p.Takes registry b (ms ++ ns) c := by
  induction h with
  | nil b => exact h'
  | cons first _ ih => exact .cons first (ih h')

/-- A protocol that takes every frame the other one takes also takes as many of them. -/
theorem imp {q : Protocol} {registry' : Registry}
    (hframe : ∀ b m rest, p.front registry b = .frame m rest →
      q.front registry' b = .frame m rest)
    (h : p.Takes registry b ms rest) : q.Takes registry' b ms rest := by
  induction h with
  | nil b => exact .nil b
  | cons first _ ih => exact .cons (hframe _ _ _ first) ih

end Takes

section Parse

variable {p : Protocol} {registry : Registry} {b rest : Bytes} {ms ns : List Message}
  {failure : DecodeFailure}

theorem parseFrom_of_incomplete (found : List Message) (hf : p.front registry b = .incomplete) :
    p.parseFrom registry found b = .ok (found.reverse, b) := by
  rw [parseFrom]
  split <;> simp_all

theorem parseFrom_of_failed (found : List Message) (hf : p.front registry b = .failed failure) :
    p.parseFrom registry found b = .error failure := by
  rw [parseFrom]
  split <;> simp_all

theorem parseFrom_of_frame (found : List Message) {m : Message}
    (hf : p.front registry b = .frame m rest) :
    p.parseFrom registry found b = p.parseFrom registry (m :: found) rest := by
  rw [parseFrom]
  split <;> simp_all

theorem Takes.parseFrom_eq (h : p.Takes registry b ms rest) (found : List Message) :
    p.parseFrom registry found b = p.parseFrom registry (ms.reverse ++ found) rest := by
  induction h generalizing found with
  | nil b => rfl
  | cons first _ ih =>
      rw [parseFrom_of_frame found first, ih, List.reverse_cons, List.append_assoc,
        List.singleton_append]

/-- The frames at the front of a buffer end where no frame follows. -/
theorem exists_takes (p : Protocol) (registry : Registry) (b : Bytes) :
    ∃ ms rest, p.Takes registry b ms rest ∧ (p.front registry rest = .incomplete ∨
      ∃ failure, p.front registry rest = .failed failure) := by
  induction hn : b.length using Nat.strongRecOn generalizing b with
  | _ n ih =>
      cases hf : p.front registry b with
      | incomplete => exact ⟨[], b, .nil b, .inl hf⟩
      | failed failure => exact ⟨[], b, .nil b, .inr ⟨failure, hf⟩⟩
      | frame m next =>
          obtain ⟨ms, rest, htakes, hend⟩ := ih next.length (hn ▸ length_lt_of_front hf) next rfl
          exact ⟨m :: ms, rest, .cons hf htakes, hend⟩

theorem parse_eq_ok_iff :
    p.parse registry b = .ok (ms, rest) ↔
      p.Takes registry b ms rest ∧ p.front registry rest = .incomplete := by
  constructor
  · intro hp
    obtain ⟨ns, r, htakes, hend⟩ := p.exists_takes registry b
    rw [parse, htakes.parseFrom_eq] at hp
    rcases hend with hend | ⟨failure, hend⟩
    · rw [parseFrom_of_incomplete _ hend] at hp
      simp only [List.append_nil, List.reverse_reverse, Except.ok.injEq, Prod.mk.injEq] at hp
      obtain ⟨rfl, rfl⟩ := hp
      exact ⟨htakes, hend⟩
    · rw [parseFrom_of_failed _ hend] at hp
      cases hp
  · rintro ⟨htakes, hend⟩
    rw [parse, htakes.parseFrom_eq, parseFrom_of_incomplete _ hend]
    simp

theorem parse_eq_error_iff :
    p.parse registry b = .error failure ↔
      ∃ ms rest, p.Takes registry b ms rest ∧ p.front registry rest = .failed failure := by
  constructor
  · intro hp
    obtain ⟨ns, r, htakes, hend⟩ := p.exists_takes registry b
    rw [parse, htakes.parseFrom_eq] at hp
    rcases hend with hend | ⟨failure', hend⟩
    · rw [parseFrom_of_incomplete _ hend] at hp
      cases hp
    · rw [parseFrom_of_failed _ hend] at hp
      cases hp
      exact ⟨ns, r, htakes, hend⟩
  · rintro ⟨ms, rest, htakes, hend⟩
    rw [parse, htakes.parseFrom_eq, parseFrom_of_failed _ hend]

/-- Behind the frames that were taken off, parsing goes on as if they had never been there. -/
theorem Takes.parse_ok {r : Bytes} (h : p.Takes registry b ms rest)
    (hp : p.parse registry rest = .ok (ns, r)) : p.parse registry b = .ok (ms ++ ns, r) := by
  obtain ⟨htakes, hend⟩ := parse_eq_ok_iff.1 hp
  exact parse_eq_ok_iff.2 ⟨h.trans htakes, hend⟩

theorem Takes.parse_error (h : p.Takes registry b ms rest)
    (hp : p.parse registry rest = .error failure) : p.parse registry b = .error failure := by
  obtain ⟨ns, r, htakes, hend⟩ := parse_eq_error_iff.1 hp
  exact parse_eq_error_iff.2 ⟨ms ++ ns, r, h.trans htakes, hend⟩

theorem Takes.parse_rest_ok {r : Bytes} (h : p.Takes registry b ms rest)
    (hp : p.parse registry b = .ok (ns, r)) :
    ∃ found, ns = ms ++ found ∧ p.parse registry rest = .ok (found, r) := by
  cases hrest : p.parse registry rest with
  | error failure =>
      rw [h.parse_error hrest] at hp
      cases hp
  | ok found =>
      rw [h.parse_ok hrest, Except.ok.injEq, Prod.mk.injEq] at hp
      obtain ⟨rfl, rfl⟩ := hp
      exact ⟨found.1, rfl, rfl⟩

theorem Takes.parse_rest_error (h : p.Takes registry b ms rest)
    (hp : p.parse registry b = .error failure) : p.parse registry rest = .error failure := by
  cases hrest : p.parse registry rest with
  | error failure' =>
      rw [h.parse_error hrest] at hp
      exact hp
  | ok found =>
      rw [h.parse_ok hrest] at hp
      cases hp

/-- What is found at the front of every buffer decides what is parsed of it. -/
theorem parse_of_front_eq {q : Protocol} {registry' : Registry}
    (hfront : ∀ b, q.front registry' b = p.front registry b) (b : Bytes) :
    q.parse registry' b = p.parse registry b := by
  cases hp : p.parse registry b with
  | ok found =>
      obtain ⟨ms, rest⟩ := found
      obtain ⟨htakes, hend⟩ := parse_eq_ok_iff.1 hp
      apply parse_eq_ok_iff.2
      exact ⟨htakes.imp fun c _ _ h ↦ (hfront c).trans h, (hfront rest).trans hend⟩
  | error failure =>
      obtain ⟨ms, rest, htakes, hend⟩ := parse_eq_error_iff.1 hp
      apply parse_eq_error_iff.2
      exact ⟨ms, rest, htakes.imp fun c _ _ h ↦ (hfront c).trans h, (hfront rest).trans hend⟩

theorem parse_error_append (hp : p.parse registry b = .error failure) (c : Bytes) :
    p.parse registry (b ++ c) = .error failure := by
  obtain ⟨ms, rest, htakes, hend⟩ := parse_eq_error_iff.1 hp
  exact parse_eq_error_iff.2 ⟨ms, rest ++ c, htakes.append c, front_failed_append hend c⟩

end Parse

/-! ## A stream that arrives in pieces -/

/-- The pieces of a stream go behind what is left of those before, and the buffer is parsed after
each, until a parse fails: what the parses returned, and the buffer at the end or the failure. -/
def feed (p : Protocol) (registry : Registry) :
    Bytes → List Bytes → List (List Message) × Except DecodeFailure Bytes
  | buffer, [] => ([], .ok buffer)
  | buffer, piece :: pieces =>
    match p.parse registry (buffer ++ piece) with
    | .error failure => ([], .error failure)
    | .ok (ms, rest) =>
      let (batches, outcome) := feed p registry rest pieces
      (ms :: batches, outcome)

section Feed

variable {p : Protocol} {registry : Registry}

theorem feed_of_parse_ok {buffer rest : Bytes} {pieces : List Bytes} {ms : List Message}
    (hb : p.front registry buffer = .incomplete)
    (hp : p.parse registry (buffer ++ pieces.flatten) = .ok (ms, rest)) :
    ∃ batches, p.feed registry buffer pieces = (batches, .ok rest) ∧
      batches.length = pieces.length ∧ batches.flatten = ms := by
  -- between two calls the buffer never begins with a frame, whole or refused
  induction pieces generalizing buffer ms with
  | nil =>
      rw [List.flatten_nil, List.append_nil] at hp
      have hbuffer := parse_eq_ok_iff.2 ⟨Takes.nil buffer, hb⟩
      rw [hbuffer, Except.ok.injEq, Prod.mk.injEq] at hp
      obtain ⟨rfl, rfl⟩ := hp
      exact ⟨[], rfl, rfl, rfl⟩
  | cons piece pieces ih =>
      rw [List.flatten_cons, ← List.append_assoc] at hp
      cases hfirst : p.parse registry (buffer ++ piece) with
      | error failure => rw [parse_error_append hfirst] at hp; cases hp
      | ok found =>
          obtain ⟨ns, left⟩ := found
          obtain ⟨htakes, hleft⟩ := parse_eq_ok_iff.1 hfirst
          have htakes' := htakes.append pieces.flatten
          cases hothers : p.parse registry (left ++ pieces.flatten) with
          | error failure => rw [htakes'.parse_error hothers] at hp; cases hp
          | ok others =>
              obtain ⟨ms', rest'⟩ := others
              rw [htakes'.parse_ok hothers, Except.ok.injEq, Prod.mk.injEq] at hp
              obtain ⟨rfl, rfl⟩ := hp
              obtain ⟨batches, hfeed, hlen, hflat⟩ := ih hleft hothers
              refine ⟨ns :: batches, ?_, ?_, ?_⟩
              · rw [feed, hfirst]
                simp only [hfeed]
              · rw [List.length_cons, List.length_cons, hlen]
              · rw [List.flatten_cons, hflat]

theorem feed_of_parse_error {buffer : Bytes} {pieces : List Bytes} {failure : DecodeFailure}
    (hb : p.front registry buffer = .incomplete)
    (hp : p.parse registry (buffer ++ pieces.flatten) = .error failure) :
    ∃ batches, p.feed registry buffer pieces = (batches, .error failure) ∧
      batches.length < pieces.length ∧
      ∃ ms rest, p.Takes registry (buffer ++ pieces.flatten) ms rest ∧
        p.front registry rest = .failed failure ∧ batches.flatten <+: ms := by
  induction pieces generalizing buffer with
  | nil =>
      rw [List.flatten_nil, List.append_nil, parse_eq_ok_iff.2 ⟨Takes.nil buffer, hb⟩] at hp
      cases hp
  | cons piece pieces ih =>
      rw [List.flatten_cons, ← List.append_assoc] at hp ⊢
      obtain ⟨ms, rest, hall, hend⟩ := parse_eq_error_iff.1 hp
      cases hfirst : p.parse registry (buffer ++ piece) with
      | error failure' =>
          rw [parse_error_append hfirst, Except.error.injEq] at hp
          subst hp
          refine ⟨[], ?_, Nat.zero_lt_succ _, ms, rest, hall, hend, List.nil_prefix⟩
          rw [feed, hfirst]
      | ok found =>
          obtain ⟨ns, left⟩ := found
          obtain ⟨htakes, hleft⟩ := parse_eq_ok_iff.1 hfirst
          have htakes' := htakes.append pieces.flatten
          cases hothers : p.parse registry (left ++ pieces.flatten) with
          | ok others => rw [htakes'.parse_ok hothers] at hp; cases hp
          | error failure' =>
              rw [htakes'.parse_error hothers, Except.error.injEq] at hp
              subst hp
              obtain ⟨batches, hfeed, hlen, ms', rest', hms', hend', hprefix⟩ := ih hleft hothers
              refine ⟨ns :: batches, ?_, ?_, ns ++ ms', rest', htakes'.trans hms', hend', ?_⟩
              · rw [feed, hfirst]
                simp only [hfeed]
              · rw [List.length_cons, List.length_cons]
                exact Nat.succ_lt_succ hlen
              · rw [List.flatten_cons]
                exact (List.prefix_append_right_inj ns).2 hprefix

/-- However a stream is cut, feeding its pieces comes to what parsing it at once does.  If that
succeeds, so does every call, with the same messages and the same rest.  If it fails, then one
call does, for the same cause, and before it only messages of the frames in front of the faulty
one were returned. -/
theorem feed_pieces (p : Protocol) (registry : Registry) (pieces : List Bytes) :
    match p.parse registry pieces.flatten with
    | .ok (ms, rest) =>
      ∃ batches, p.feed registry [] pieces = (batches, .ok rest) ∧
        batches.length = pieces.length ∧ batches.flatten = ms
    | .error failure =>
      ∃ batches, p.feed registry [] pieces = (batches, .error failure) ∧
        batches.length < pieces.length ∧
        ∃ ms rest, p.Takes registry pieces.flatten ms rest ∧
          p.front registry rest = .failed failure ∧ batches.flatten <+: ms := by
  have hb : p.front registry [] = .incomplete := front_nil
  split
  · next ms rest hp => exact feed_of_parse_ok hb hp
  · next failure hp => exact feed_of_parse_error hb hp

end Feed

end Protocol

end MessageEngine
