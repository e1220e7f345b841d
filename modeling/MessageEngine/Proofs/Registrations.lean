import MessageEngine.Proofs.StrictVersions
import MessageEngine.Proofs.WiderSettings
import Mathlib.Data.Finset.Card

/-!
# What a registry records

Types and handlers are registered in any order, and some attempts fail.  What
a registry holds then can be read off the history of the attempts: the types
that were the first with their numbers, and for a type and a kind of receiver
the last handler that came behind the type.  A type that comes second with a
number has no part in it, and neither have the handlers made for it.
-/

namespace MessageEngine

/-- The number that a message type is to be registered under. -/
def Registration.number? : Registration → Option UInt16
  | .message t => some t.id
  | .handler _ _ => none

namespace Registry

def attempt (r : Registry) : Registration → Except ProtocolError Registry
  | .message t => r.registerMessage t
  | .handler t h => r.registerHandler t h

/-- The registry after a history of attempts. -/
def of (history : List Registration) : Registry := history.foldl after empty

/-- The numbers that there were attempts to register a type under. -/
def numbers (history : List Registration) : List UInt16 :=
  history.filterMap Registration.number?

/-- The type was registered, which did not fail. -/
def Registered (history : List Registration) (t : MessageType) : Prop :=
  ∃ before later, history = before ++ .message t :: later ∧
    ∃ r, (of before).registerMessage t = .ok r

/-- There was an attempt to register the type, and none before it with the same number. -/
def First (history : List Registration) (t : MessageType) : Prop :=
  ∃ before later, history = before ++ .message t :: later ∧ t.id ∉ numbers before

/-- The handler was made for a type that was registered by then and for this kind of receiver,
and none was later on. -/
def Kept (history : List Registration) (t : MessageType) (kind : EndpointKind) (h : Handler) :
    Prop :=
  ∃ before later, history = before ++ .handler t h :: later ∧ Registered before t ∧
    h.receiver.kind = kind ∧ ∀ g, .handler t g ∈ later → g.receiver.kind ≠ kind

variable {r : Registry} {history before : List Registration} {a : Registration}
  {t u : MessageType} {h : Handler} {id : UInt16} {kind : EndpointKind} {e : ProtocolError}

/-! ## One attempt -/

theorem after_of_error (ha : r.attempt a = .error e) : r.after a = r := by
  cases a with
  | message t =>
      rw [attempt] at ha
      simp only [after, ha]
  | handler t h =>
      rw [attempt] at ha
      simp only [after, ha]

theorem registerMessage_of_taken (ht : r.isRegistered t.id = true) :
    r.registerMessage t = .error (.duplicateMessageId t.id) := if_pos ht

theorem registerMessage_of_free (ht : ¬ r.isRegistered t.id = true) :
    r.registerMessage t = .ok { r with types := r.types ++ [t] } := if_neg ht

theorem registerHandler_of_mem (ht : t ∈ r.types) :
    r.registerHandler t h = .ok { r with
      handlers := ((t, h.receiver.kind), h) :: r.handlers.filter (·.1 ≠ (t, h.receiver.kind)) } :=
  if_pos ht

theorem registerHandler_of_notMem (ht : t ∉ r.types) :
    r.registerHandler t h = .error .unregisteredMessageType := if_neg ht

theorem types_after_message :
    (r.after (.message t)).types = r.types ++ if r.isRegistered t.id = true then [] else [t] := by
  by_cases ht : r.isRegistered t.id = true
  · rw [after, registerMessage_of_taken ht, if_pos ht, List.append_nil]
  · rw [after, registerMessage_of_free ht, if_neg ht]

theorem types_after_handler : (r.after (.handler t h)).types = r.types := by
  by_cases ht : t ∈ r.types
  · rw [after, registerHandler_of_mem ht]
  · rw [after, registerHandler_of_notMem ht]

theorem handler?_after_message (key : HandlerKey) :
    (r.after (.message t)).handler? key = r.handler? key := by
  by_cases ht : r.isRegistered t.id = true
  · rw [after, registerMessage_of_taken ht]
  · rw [after, registerMessage_of_free ht]
    rfl

theorem lookup_others {key key' : HandlerKey} {kept : List (HandlerKey × Handler)}
    (hkey : key' ≠ key) : (kept.filter (·.1 ≠ key)).lookup key' = kept.lookup key' := by
  induction kept with
  | nil => rfl
  | cons c kept ih =>
      obtain ⟨k, g⟩ := c
      by_cases hk : k = key
      · rw [List.filter_cons_of_neg (by simp [hk]), ih, List.lookup_cons, hk, beq_false_of_ne hkey]
      · rw [List.filter_cons_of_pos (by simp [hk]), List.lookup_cons, List.lookup_cons, ih]

theorem handler?_after_handler (key : HandlerKey) :
    (r.after (.handler t h)).handler? key =
      if t ∈ r.types ∧ key = (t, h.receiver.kind) then some h else r.handler? key := by
  by_cases ht : t ∈ r.types
  · rw [after, registerHandler_of_mem ht]
    by_cases hkey : key = (t, h.receiver.kind)
    · rw [if_pos ⟨ht, hkey⟩, hkey]
      exact List.lookup_cons_self
    · rw [if_neg fun hboth ↦ hkey hboth.2, handler?, List.lookup_cons, beq_false_of_ne hkey]
      exact lookup_others hkey
  · rw [after, registerHandler_of_notMem ht, if_neg fun hboth ↦ ht hboth.1]

theorem typeOf?_after_message (id : UInt16) :
    (r.after (.message t)).typeOf? id =
      (r.typeOf? id).or (if t.id = id then some t else none) := by
  rw [typeOf?, types_after_message, List.find?_append]
  by_cases hid : t.id = id
  · -- either the number has a type, which stands in front, or `t` is added
    subst hid
    rw [if_pos rfl, isRegistered]
    cases htype : r.typeOf? t.id with
    | none =>
        rw [typeOf?] at htype
        simp [htype]
    | some u =>
        rw [typeOf?] at htype
        simp [htype]
  · rw [if_neg hid, Option.or_none]
    split
    · simp [typeOf?]
    · simp [hid, typeOf?]

/-! ## Histories from behind -/

theorem of_concat (history : List Registration) (a : Registration) :
    of (history ++ [a]) = (of history).after a := List.foldl_concat ..

theorem not_exists_split_nil {b : Registration}
    {P : List Registration → List Registration → Prop} :
    ¬ ∃ before later, [] = before ++ b :: later ∧ P before later := by
  rintro ⟨before, later, hsplit, -⟩
  exact List.append_ne_nil_of_right_ne_nil before (List.cons_ne_nil b later) hsplit.symm

theorem exists_split_concat {b : Registration}
    {P : List Registration → List Registration → Prop} :
    (∃ before later, history ++ [a] = before ++ b :: later ∧ P before later) ↔
      (∃ before later, history = before ++ b :: later ∧ P before (later ++ [a])) ∨
        a = b ∧ P history [] := by
  constructor
  · rintro ⟨before, later, hsplit, hP⟩
    rcases List.eq_nil_or_concat later with rfl | ⟨later, c, rfl⟩
    · obtain ⟨rfl, hb⟩ := List.append_inj' hsplit rfl
      obtain rfl := List.singleton_inj.1 hb
      exact .inr ⟨rfl, hP⟩
    · rw [List.concat_eq_append, ← List.cons_append, ← List.append_assoc] at hsplit
      rw [List.concat_eq_append] at hP
      obtain ⟨rfl, hc⟩ := List.append_inj' hsplit rfl
      obtain rfl := List.singleton_inj.1 hc
      exact .inl ⟨before, later, rfl, hP⟩
  · rintro (⟨before, later, rfl, hP⟩ | ⟨rfl, hP⟩)
    · exact ⟨before, later ++ [a], by simp, hP⟩
    · exact ⟨history, [], rfl, hP⟩

theorem numbers_concat_message :
    numbers (history ++ [.message t]) = numbers history ++ [t.id] :=
  List.filterMap_append

theorem numbers_concat_handler :
    numbers (history ++ [.handler t h]) = numbers history := by
  rw [numbers, List.filterMap_append]
  exact List.append_nil _

theorem first_concat :
    First (history ++ [a]) t ↔
      First history t ∨ a = .message t ∧ t.id ∉ numbers history := exists_split_concat

theorem kept_concat :
    Kept (history ++ [a]) t kind h ↔
      (Kept history t kind h ∧ ∀ g, a = .handler t g → g.receiver.kind ≠ kind) ∨
        a = .handler t h ∧ Registered history t ∧ h.receiver.kind = kind := by
  rw [Kept, exists_split_concat]
  constructor
  · rintro (⟨before, later, hsplit, ht, hkind, hlater⟩ | ⟨ha, ht, hkind, -⟩)
    · refine .inl ⟨⟨before, later, hsplit, ht, hkind, ?_⟩, ?_⟩
      · intro g hg
        exact hlater g (List.mem_append_left _ hg)
      · rintro g rfl
        exact hlater g (List.mem_append_right _ (List.mem_singleton_self _))
    · exact .inr ⟨ha, ht, hkind⟩
  · rintro (⟨⟨before, later, hsplit, ht, hkind, hlater⟩, ha⟩ | ⟨ha, ht, hkind⟩)
    · refine .inl ⟨before, later, hsplit, ht, hkind, ?_⟩
      intro g hg
      rcases List.mem_append.1 hg with hg | hg
      · exact hlater g hg
      · exact ha g (List.mem_singleton.1 hg).symm
    · exact .inr ⟨ha, ht, hkind, fun g hg ↦ absurd hg List.not_mem_nil⟩

/-! ## What is registered -/

theorem Registered.append (ht : Registered before t) (later : List Registration) :
    Registered (before ++ later) t := by
  obtain ⟨front, back, rfl, hr⟩ := ht
  exact ⟨front, back ++ later, by simp, hr⟩

theorem Kept.registered (hkept : Kept history t kind h) : Registered history t := by
  obtain ⟨before, later, rfl, ht, -⟩ := hkept
  exact ht.append _

theorem isRegistered_of : (of history).isRegistered id = true ↔ id ∈ numbers history := by
  induction history using List.reverseRecOn with
  | nil => exact iff_of_false Bool.false_ne_true List.not_mem_nil
  | append_singleton history a ih =>
      rw [isRegistered] at ih
      rw [of_concat, isRegistered]
      cases a with
      | message t =>
          rw [typeOf?_after_message, Option.isSome_or, Bool.or_eq_true, ih, numbers_concat_message,
            List.mem_append, List.mem_singleton]
          by_cases hid : t.id = id
          · simp [hid]
          · simp [hid, Ne.symm hid]
      | handler t h => rw [typeOf?, types_after_handler, numbers_concat_handler, ← ih, typeOf?]

theorem registerMessage_eq_ok_iff :
    (∃ r, (of history).registerMessage t = .ok r) ↔ t.id ∉ numbers history := by
  rw [← isRegistered_of]
  constructor
  · rintro ⟨r, hr⟩ ht
    rw [registerMessage_of_taken ht] at hr
    cases hr
  · intro ht
    exact ⟨_, registerMessage_of_free ht⟩

theorem registered_iff_first : Registered history t ↔ First history t := by
  simp only [Registered, First, registerMessage_eq_ok_iff]

theorem typeOf?_of : (of history).typeOf? id = some t ↔ First history t ∧ t.id = id := by
  induction history using List.reverseRecOn with
  | nil => exact iff_of_false nofun fun hboth ↦ not_exists_split_nil hboth.1
  | append_singleton history a ih =>
      rw [of_concat, first_concat]
      cases a with
      | message u =>
          rw [typeOf?_after_message, Option.or_eq_some_iff, ih]
          constructor
          · rintro (⟨hfirst, hid⟩ | ⟨hnone, hu⟩)
            · exact ⟨.inl hfirst, hid⟩
            · split at hu
              · next hid =>
                obtain rfl := Option.some.inj hu
                refine ⟨.inr ⟨rfl, ?_⟩, hid⟩
                rw [← isRegistered_of, isRegistered, hid, hnone]
                exact Bool.false_ne_true
              · cases hu
          · rintro ⟨hfirst | ⟨hu, hfree⟩, hid⟩
            · exact .inl ⟨hfirst, hid⟩
            · obtain rfl := Registration.message.inj hu
              rw [← isRegistered_of, isRegistered, hid] at hfree
              exact .inr ⟨Option.not_isSome_iff_eq_none.1 hfree, if_pos hid⟩
      | handler u h =>
          rw [typeOf?, types_after_handler, ← typeOf?, ih]
          simp

theorem mem_types_of : t ∈ (of history).types ↔ Registered history t := by
  rw [registered_iff_first]
  induction history using List.reverseRecOn with
  | nil => exact iff_of_false List.not_mem_nil not_exists_split_nil
  | append_singleton history a ih =>
      rw [of_concat, first_concat, ← ih]
      cases a with
      | message u =>
          rw [types_after_message, List.mem_append]
          apply or_congr_right
          split
          · next ht =>
            refine iff_of_false List.not_mem_nil ?_
            rintro ⟨hu, hfree⟩
            obtain rfl := Registration.message.inj hu
            exact hfree (isRegistered_of.1 ht)
          · next ht =>
            rw [List.mem_singleton]
            constructor
            · rintro rfl
              exact ⟨rfl, fun hnumber ↦ ht (isRegistered_of.2 hnumber)⟩
            · rintro ⟨hu, -⟩
              exact (Registration.message.inj hu).symm
      | handler u h =>
          rw [types_after_handler]
          simp

theorem handler?_of : (of history).handler? (t, kind) = some h ↔ Kept history t kind h := by
  induction history using List.reverseRecOn with
  | nil => exact iff_of_false nofun not_exists_split_nil
  | append_singleton history a ih =>
      rw [of_concat, kept_concat]
      cases a with
      | message u =>
          rw [handler?_after_message, ih]
          simp
      | handler u g =>
          rw [handler?_after_handler]
          split
          · next hkey =>
            obtain ⟨hu, hkey⟩ := hkey
            obtain ⟨rfl, rfl⟩ := Prod.mk.inj hkey
            constructor
            · intro hg
              obtain rfl := Option.some.inj hg
              exact .inr ⟨rfl, mem_types_of.1 hu, rfl⟩
            · rintro (⟨-, hlater⟩ | ⟨hg, -⟩)
              · exact absurd rfl (hlater g rfl)
              · rw [(Registration.handler.inj hg).2]
          · next hkey =>
            rw [ih]
            constructor
            · intro hkept
              refine .inl ⟨hkept, ?_⟩
              rintro g' hg hkind
              -- the type was there for the one that was kept, so the new one would have replaced it
              obtain ⟨rfl, rfl⟩ := Registration.handler.inj hg
              exact hkey ⟨mem_types_of.2 hkept.registered, by rw [hkind]⟩
            · rintro (⟨hkept, -⟩ | ⟨hg, ht, hkind⟩)
              · exact hkept
              · obtain ⟨rfl, rfl⟩ := Registration.handler.inj hg
                exact absurd ⟨mem_types_of.2 ht, by rw [hkind]⟩ hkey

theorem messageCount_of : (of history).messageCount = (numbers history).toFinset.card := by
  induction history using List.reverseRecOn with
  | nil => rfl
  | append_singleton history a ih =>
      rw [messageCount] at ih
      rw [of_concat, messageCount]
      cases a with
      | message t =>
          rw [types_after_message, List.length_append, ih, numbers_concat_message,
            List.toFinset_append, Finset.union_comm]
          split
          · next ht =>
            have hold : t.id ∈ (numbers history).toFinset :=
              List.mem_toFinset.2 (isRegistered_of.1 ht)
            exact (Finset.card_insert_of_mem hold).symm
          · next ht =>
            have hnew : t.id ∉ (numbers history).toFinset := fun hnumber ↦
              ht (isRegistered_of.2 (List.mem_toFinset.1 hnumber))
            exact (Finset.card_insert_of_notMem hnew).symm
      | handler t h => rw [types_after_handler, numbers_concat_handler, ih]

/-! ## What the registry answers -/

theorem map_typeOf?_of {α : Type} {f : MessageType → α} {y : α} :
    ((of history).typeOf? id).map f = some y ↔
      ∃ t, (Registered history t ∧ t.id = id) ∧ f t = y := by
  simp only [Option.map_eq_some_iff, typeOf?_of, registered_iff_first]

theorem isRegistered_iff_registered :
    (of history).isRegistered id = true ↔ ∃ t, Registered history t ∧ t.id = id := by
  simp only [isRegistered, Option.isSome_iff_exists, typeOf?_of, registered_iff_first]

theorem registerMessage_eq_error_iff :
    (of history).registerMessage t = .error e ↔
      e = .duplicateMessageId t.id ∧ ∃ u, Registered history u ∧ u.id = t.id := by
  rw [← isRegistered_iff_registered]
  by_cases ht : (of history).isRegistered t.id = true
  · rw [registerMessage_of_taken ht, Except.error.injEq, eq_comm]
    exact (and_iff_left ht).symm
  · rw [registerMessage_of_free ht]
    exact iff_of_false nofun fun hboth ↦ ht hboth.2

theorem registerHandler_eq_ok_iff :
    (∃ r, (of history).registerHandler t h = .ok r) ↔ Registered history t := by
  rw [← mem_types_of]
  constructor
  · rintro ⟨r, hr⟩
    by_contra ht
    rw [registerHandler_of_notMem ht] at hr
    cases hr
  · intro ht
    exact ⟨_, registerHandler_of_mem ht⟩

theorem registerHandler_eq_error_iff :
    (of history).registerHandler t h = .error e ↔
      e = .unregisteredMessageType ∧ ¬ Registered history t := by
  rw [← mem_types_of]
  by_cases ht : t ∈ (of history).types
  · rw [registerHandler_of_mem ht]
    exact iff_of_false nofun fun hboth ↦ hboth.2 ht
  · rw [registerHandler_of_notMem ht, Except.error.injEq, eq_comm]
    exact (and_iff_left ht).symm

theorem types_of_takes {p : Protocol} {b rest : Bytes} {ms : List Message}
    (htakes : p.Takes r b ms rest) :
    (stamps ms.length b).map (r.typeOf? ·.id) = ms.map (some ·.type) := by
  induction htakes with
  | nil b => rfl
  | cons first _ ih =>
      obtain ⟨hknown, version, hstamp⟩ := Protocol.stamp_of_front first
      rw [List.length_cons, Protocol.stamps_cons hstamp, List.map_cons, List.map_cons, ih]
      exact congrArg (· :: _) hknown

/-- A registry as it comes out of a history of attempts. -/
structure Records (history : List Registration) (r : Registry) : Prop where
  registered_iff (t : MessageType) : Registered history t ↔ First history t
  owner_iff (id : UInt16) (t : MessageType) :
    r.typeOf? id = some t ↔ Registered history t ∧ t.id = id
  owner_lasts (id : UInt16) (t : MessageType) (more : List Registration)
    (owner : r.typeOf? id = some t) : (more.foldl after r).typeOf? id = some t
  message_fails_iff (t : MessageType) (e : ProtocolError) :
    r.registerMessage t = .error e ↔
      e = .duplicateMessageId t.id ∧ ∃ u, Registered history u ∧ u.id = t.id
  handler_succeeds_iff (t : MessageType) (h : Handler) :
    (∃ r', r.registerHandler t h = .ok r') ↔ Registered history t
  handler_fails_iff (t : MessageType) (h : Handler) (e : ProtocolError) :
    r.registerHandler t h = .error e ↔
      e = .unregisteredMessageType ∧ ¬ Registered history t
  unchanged (a : Registration) (e : ProtocolError) (failed : r.attempt a = .error e) :
    r.after a = r
  kept_iff (t : MessageType) (kind : EndpointKind) (h : Handler) :
    r.handler? (t, kind) = some h ↔ Kept history t kind h
  handled (t : MessageType) (kind : EndpointKind) (has : r.hasHandler t kind = true) :
    Registered history t
  /-- There are as many types as numbers that were asked for. -/
  count : r.messageCount = (numbers history).toFinset.card
  known_iff (id : UInt16) : r.isRegistered id = true ↔ id ∈ numbers history
  create_known (id : UInt16) : (r.create? id).isSome = r.isRegistered id
  version_known (id : UInt16) : (r.expectedVersion? id).isSome = r.isRegistered id
  name_known (id : UInt16) : (r.typeName? id).isSome = r.isRegistered id
  create_iff (id : UInt16) (m : Message) :
    r.create? id = some m ↔ ∃ t, (Registered history t ∧ t.id = id) ∧ .initial t = m
  /-- Of the messages in a buffer, each is of the type that the number in its frame belongs to. -/
  parsed (p : Protocol) (b rest : Bytes) (ms : List Message)
    (parses : p.parse r b = .ok (ms, rest)) :
    (stamps ms.length b).map (r.typeOf? ·.id) = ms.map (some ·.type)

theorem records_of (history : List Registration) : (of history).Records history where
  registered_iff _ := registered_iff_first
  owner_iff id t := by
    rw [typeOf?_of, registered_iff_first]
  owner_lasts id t more owner := foldl_after_extends _ more id t owner
  message_fails_iff _ _ := registerMessage_eq_error_iff
  handler_succeeds_iff _ _ := registerHandler_eq_ok_iff
  handler_fails_iff _ _ _ := registerHandler_eq_error_iff
  unchanged _ _ failed := after_of_error failed
  kept_iff _ _ _ := handler?_of
  handled t kind has := by
    obtain ⟨h, hkept⟩ := Option.isSome_iff_exists.1 has
    exact (handler?_of.1 hkept).registered
  count := messageCount_of
  known_iff _ := isRegistered_of
  create_known _ := Option.isSome_map
  version_known _ := Option.isSome_map
  name_known _ := Option.isSome_map
  create_iff _ _ := map_typeOf?_of
  parsed _ _ _ _ parses := types_of_takes (Protocol.parse_eq_ok_iff.1 parses).1

end Registry

end MessageEngine
