import MessageEngine.Proofs.Registrations

/-!
# A registry in three tables

A registry keeps one list of types and one of handlers.  Here the types are
kept twice, under their numbers and under themselves, and a handler is kept
together with the type of messages that it was made for.  A registration
changes one table after the other, and it might leave them at odds.  It does
not: whatever is registered in whatever order, each attempt ends as it does
with the lists, and the tables hold what the lists hold.
-/

namespace MessageEngine

instance : Hashable MessageType := ⟨fun t ↦ hash t.id⟩

instance : Hashable EndpointKind := ⟨fun kind ↦ hash kind.name⟩

namespace Registry

variable {r : Registry} {t : MessageType} {h : Handler}

/-- What is kept under a number: a message of its type that nothing was read into, and what the
type says of itself. -/
structure Entry where
  fresh : Message
  version : UInt8
  name : String

def Entry.of (t : MessageType) : Entry := ⟨.initial t, t.registered, t.name⟩

/-- A handler with the type of the messages that it was made for. -/
structure Callee where
  type : MessageType
  handler : Handler

structure Tables where
  entries : Std.HashMap UInt16 Entry := ∅
  numbers : Std.HashMap MessageType UInt16 := ∅
  handlers : Std.HashMap HandlerKey Callee := ∅

namespace Tables

def registerMessage (T : Tables) (t : MessageType) : Tables × Except ProtocolError Unit :=
  if T.entries.contains t.id then (T, .error (.duplicateMessageId t.id))
  else
    let T := { T with entries := T.entries.insert t.id (.of t) }
    let T := { T with numbers := T.numbers.insert t t.id }
    (T, .ok ())

def registerHandler (T : Tables) (t : MessageType) (h : Handler) :
    Tables × Except ProtocolError Unit :=
  if T.numbers.contains t then
    ({ T with handlers := T.handlers.insert (t, h.receiver.kind) ⟨t, h⟩ }, .ok ())
  else (T, .error .unregisteredMessageType)

def attempt (T : Tables) : Registration → Tables × Except ProtocolError Unit
  | .message t => T.registerMessage t
  | .handler t h => T.registerHandler t h

def after (T : Tables) (a : Registration) : Tables := (T.attempt a).1

def isRegistered (T : Tables) (id : UInt16) : Bool := T.entries.contains id

def create? (T : Tables) (id : UInt16) : Option Message := T.entries[id]?.map (·.fresh)

def expectedVersion? (T : Tables) (id : UInt16) : Option UInt8 := T.entries[id]?.map (·.version)

def typeName? (T : Tables) (id : UInt16) : Option String := T.entries[id]?.map (·.name)

def hasHandler (T : Tables) (t : MessageType) (kind : EndpointKind) : Bool :=
  T.handlers.contains (t, kind)

def messageCount (T : Tables) : Nat := T.entries.size

/-- The tables hold what the registry holds, and agree with one another. -/
structure Shows (T : Tables) (r : Registry) : Prop where
  entries : ∀ id, T.entries[id]? = (r.typeOf? id).map Entry.of
  numbers : ∀ t, T.numbers[t]? = if t ∈ r.types then some t.id else none
  handlers : ∀ t kind, T.handlers[(t, kind)]? = (r.handler? (t, kind)).map (Callee.mk t)
  size : T.entries.size = r.messageCount

theorem shows_empty : Shows {} Registry.empty where
  entries id := by simp [Registry.empty, typeOf?]
  numbers t := by simp [Registry.empty]
  handlers t kind := by simp [Registry.empty, handler?]
  size := Std.HashMap.size_empty

variable {T : Tables}

theorem Shows.contains_entries (hT : T.Shows r) (id : UInt16) :
    T.entries.contains id = r.isRegistered id := by
  rw [Std.HashMap.contains_eq_isSome_getElem?, hT.entries, Option.isSome_map]
  rfl

theorem Shows.contains_numbers (hT : T.Shows r) (t : MessageType) :
    T.numbers.contains t = decide (t ∈ r.types) := by
  rw [Std.HashMap.contains_eq_isSome_getElem?, hT.numbers]
  split <;> simp_all

theorem Shows.registerMessage (hT : T.Shows r) (t : MessageType) :
    (T.registerMessage t).1.Shows (r.after (.message t)) ∧
      (T.registerMessage t).2 = (r.registerMessage t).map fun _ ↦ () := by
  rw [Tables.registerMessage, hT.contains_entries]
  by_cases ht : r.isRegistered t.id = true
  · have hfails := registerMessage_of_taken ht
    rw [if_pos ht, after_of_error (a := .message t) hfails, hfails]
    exact ⟨hT, rfl⟩
  · rw [if_neg ht, registerMessage_of_free ht]
    have hnone : r.typeOf? t.id = none := by simpa [Registry.isRegistered] using ht
    refine ⟨?_, rfl⟩
    constructor
    · intro id
      rw [Std.HashMap.getElem?_insert, hT.entries, typeOf?_after_message]
      by_cases hid : t.id = id
      · subst hid
        simp [hnone]
      · simp [hid]
    · intro u
      rw [Std.HashMap.getElem?_insert, hT.numbers, types_after_message, if_neg ht]
      by_cases hu : t = u
      · subst hu
        simp
      · simp [hu, Ne.symm hu]
    · intro u kind
      rw [handler?_after_message]
      exact hT.handlers u kind
    · have hfresh : t.id ∉ T.entries := by
        rw [Std.HashMap.mem_iff_contains, hT.contains_entries]
        exact ht
      rw [Std.HashMap.size_insert, if_neg hfresh, hT.size, Registry.messageCount,
        Registry.messageCount, types_after_message, if_neg ht, List.length_append,
        List.length_singleton]

theorem Shows.registerHandler (hT : T.Shows r) (t : MessageType) (h : Handler) :
    (T.registerHandler t h).1.Shows (r.after (.handler t h)) ∧
      (T.registerHandler t h).2 = (r.registerHandler t h).map fun _ ↦ () := by
  rw [Tables.registerHandler, hT.contains_numbers]
  by_cases ht : t ∈ r.types
  · rw [if_pos (decide_eq_true ht), registerHandler_of_mem ht]
    refine ⟨?_, rfl⟩
    constructor
    · intro id
      rw [typeOf?, types_after_handler]
      exact hT.entries id
    · intro u
      rw [types_after_handler]
      exact hT.numbers u
    · intro u kind
      rw [Std.HashMap.getElem?_insert, hT.handlers, handler?_after_handler]
      by_cases hkey : (u, kind) = (t, h.receiver.kind)
      · obtain ⟨rfl, rfl⟩ := Prod.mk.inj hkey
        simp [ht]
      · rw [if_neg (by simpa using Ne.symm hkey), if_neg fun hboth ↦ hkey hboth.2]
    · rw [Registry.messageCount, types_after_handler]
      exact hT.size
  · have hfails := registerHandler_of_notMem (h := h) ht
    rw [if_neg (by simpa using ht), after_of_error (a := .handler t h) hfails, hfails]
    exact ⟨hT, rfl⟩

theorem Shows.attempt (hT : T.Shows r) (a : Registration) :
    (T.attempt a).1.Shows (r.after a) ∧ (T.attempt a).2 = (r.attempt a).map fun _ ↦ () := by
  cases a with
  | message t => exact hT.registerMessage t
  | handler t h => exact hT.registerHandler t h

theorem attempt_of_error {a : Registration} {e : ProtocolError}
    (ha : (T.attempt a).2 = .error e) : (T.attempt a).1 = T := by
  cases a with
  | message t =>
      rw [attempt, registerMessage] at ha ⊢
      split at ha
      · next ht => rw [if_pos ht]
      · cases ha
  | handler t h =>
      rw [attempt, registerHandler] at ha ⊢
      split at ha
      · cases ha
      · next ht => rw [if_neg ht]

/-- Whoever asks the tables, or registers something in them, is answered as by the registry.
What fails leaves every table as it was. -/
structure Follows (T : Tables) (r : Registry) : Prop where
  isRegistered (id : UInt16) : T.isRegistered id = r.isRegistered id
  create? (id : UInt16) : T.create? id = r.create? id
  expectedVersion? (id : UInt16) : T.expectedVersion? id = r.expectedVersion? id
  typeName? (id : UInt16) : T.typeName? id = r.typeName? id
  hasHandler (t : MessageType) (kind : EndpointKind) : T.hasHandler t kind = r.hasHandler t kind
  messageCount : T.messageCount = r.messageCount
  attempt (a : Registration) : (T.attempt a).2 = (r.attempt a).map fun _ ↦ ()
  unchanged (a : Registration) (e : ProtocolError) (failed : (T.attempt a).2 = .error e) :
    (T.attempt a).1 = T

theorem Shows.follows (hT : T.Shows r) : T.Follows r where
  isRegistered := hT.contains_entries
  create? id := by
    rw [Tables.create?, hT.entries, Option.map_map]
    rfl
  expectedVersion? id := by
    rw [Tables.expectedVersion?, hT.entries, Option.map_map]
    rfl
  typeName? id := by
    rw [Tables.typeName?, hT.entries, Option.map_map]
    rfl
  hasHandler t kind := by
    rw [Tables.hasHandler, Std.HashMap.contains_eq_isSome_getElem?, hT.handlers, Option.isSome_map]
    rfl
  messageCount := hT.size
  attempt a := (hT.attempt a).2
  unchanged _ _ failed := attempt_of_error failed

/-- The tables after a history of attempts. -/
def of (history : List Registration) : Tables := history.foldl after {}

end Tables

theorem shows_of (history : List Registration) : (Tables.of history).Shows (of history) := by
  induction history using List.reverseRecOn with
  | nil => exact Tables.shows_empty
  | append_singleton history a ih =>
      rw [of_concat, Tables.of, List.foldl_concat]
      exact (ih.attempt a).1

/-- Whatever was registered in whatever order, the registry holds what the history says, and its
tables hold the same and agree with one another. -/
theorem history_recorded (history : List Registration) :
    (of history).Records history ∧ (Tables.of history).Shows (of history) ∧
      (Tables.of history).Follows (of history) := by
  have hshows := shows_of history
  exact ⟨records_of history, hshows, hshows.follows⟩

end Registry

end MessageEngine
