import MessageEngine.Node.Basic

/-!
# The book of a server

The book is kept in ascending order of numbers and has one connection for a
number.  What is entered is found, what is struck off is not, and of each
number the subscribers are told in the order in which that was done.
-/

namespace MessageEngine

/-- The number of the connection that an event is about. -/
def ServerEvent.id : ServerEvent → UInt64
  | added id | removed id _ => id

namespace Server

variable {id k : UInt64} {e d : EndpointRef} {book : List (UInt64 × EndpointRef)} {v : Server}

/-! ## Looking up -/

theorem lookup_cons (c : UInt64 × EndpointRef) :
    (c :: book).lookup k = if k = c.1 then some c.2 else book.lookup k := by
  obtain ⟨id, e⟩ := c
  rw [List.lookup_cons]
  by_cases h : k = id
  · rw [if_pos h, beq_iff_eq.2 h]
  · rw [if_neg h, beq_false_of_ne h]

theorem lookup_insertConnection :
    (insertConnection id e book).lookup k = if k = id then some e else book.lookup k := by
  induction book with
  | nil => exact lookup_cons (id, e)
  | cons c rest ih =>
      rw [insertConnection]
      split
      · exact lookup_cons (id, e)
      · split
        · next heq =>
          subst heq
          rw [lookup_cons, lookup_cons]
          split
          · rfl
          · rfl
        · next hne =>
          rw [lookup_cons, ih, lookup_cons]
          by_cases hk : k = c.1
          · have hother : k ≠ id := fun h ↦ hne (h.symm.trans hk)
            rw [if_pos hk, if_neg hother, if_pos hk]
          · rw [if_neg hk, if_neg hk]

theorem lookup_filter :
    (book.filter (·.1 != id)).lookup k = if k = id then none else book.lookup k := by
  induction book with
  | nil => simp
  | cons c rest ih =>
      by_cases hc : c.1 = id
      · rw [List.filter_cons_of_neg (by simp [hc]), ih, lookup_cons]
        by_cases hk : k = id
        · rw [if_pos hk, if_pos hk]
        · rw [if_neg hk, if_neg hk, hc, if_neg hk]
      · rw [List.filter_cons_of_pos (by simp [hc]), lookup_cons, lookup_cons, ih]
        by_cases hk : k = c.1
        · rw [if_pos hk, if_pos hk, hk, if_neg hc]
        · rw [if_neg hk, if_neg hk]

theorem eq_nil_of_lookup (h : ∀ k, book.lookup k = none) : book = [] := by
  cases book with
  | nil => rfl
  | cons c rest =>
      have hfound := h c.1
      rw [lookup_cons, if_pos rfl] at hfound
      cases hfound

/-! ## Order -/

/-- The numbers in the book ascend. -/
def Ascending (book : List (UInt64 × EndpointRef)) : Prop := book.Pairwise fun c d ↦ c.1 < d.1

theorem mem_insertConnection {c : UInt64 × EndpointRef} (h : c ∈ insertConnection id e book) :
    c = (id, e) ∨ c ∈ book := by
  induction book with
  | nil => exact .inl (List.mem_singleton.1 h)
  | cons b rest ih =>
      rw [insertConnection] at h
      split at h
      · exact List.mem_cons.1 h
      · split at h
        · rcases List.mem_cons.1 h with rfl | h
          · exact .inl rfl
          · exact .inr (List.mem_cons_of_mem b h)
        · rcases List.mem_cons.1 h with rfl | h
          · exact .inr List.mem_cons_self
          · exact (ih h).imp_right (List.mem_cons_of_mem b)

theorem Ascending.insertConnection (h : Ascending book) :
    Ascending (insertConnection id e book) := by
  induction book with
  | nil => exact List.pairwise_singleton _ _
  | cons b rest ih =>
      obtain ⟨hhead, hrest⟩ := List.pairwise_cons.1 h
      rw [Server.insertConnection]
      split
      · next hlt =>
        refine List.pairwise_cons.2 ⟨fun c hc ↦ ?_, h⟩
        rcases List.mem_cons.1 hc with rfl | hc
        · exact hlt
        · exact UInt64.lt_trans hlt (hhead c hc)
      · next hnlt =>
        split
        · next heq =>
          subst heq
          exact List.pairwise_cons.2 ⟨hhead, hrest⟩
        · next hne =>
          refine List.pairwise_cons.2 ⟨fun c hc ↦ ?_, ih hrest⟩
          rcases mem_insertConnection hc with rfl | hc
          · have hle : b.1 ≤ id := UInt64.not_lt.1 hnlt
            exact UInt64.lt_of_le_of_ne hle (Ne.symm hne)
          · exact hhead c hc

/-- In an ascending book an entry is what is found under its number. -/
theorem Ascending.mem_iff (h : Ascending book) : (id, e) ∈ book ↔ book.lookup id = some e := by
  induction book with
  | nil => simp
  | cons c rest ih =>
      obtain ⟨hhead, hrest⟩ := List.pairwise_cons.1 h
      rw [lookup_cons, List.mem_cons, ih hrest]
      by_cases hid : id = c.1
      · have hgone : rest.lookup id ≠ some e := by
          intro hfound
          have hlt := hhead _ ((ih hrest).2 hfound)
          rw [← hid] at hlt
          exact UInt64.lt_irrefl id hlt
        rw [if_pos hid, Option.some.injEq]
        constructor
        · rintro (heq | hfound)
          · exact (congrArg Prod.snd heq).symm
          · exact absurd hfound hgone
        · rintro rfl
          exact .inl (Prod.ext hid rfl)
      · rw [if_neg hid]
        constructor
        · rintro (heq | hfound)
          · exact absurd (congrArg Prod.fst heq) hid
          · exact hfound
        · exact .inr

/-! ## Entering and striking off -/

/-- What the subscribers were told of a number. -/
def told (v : Server) (id : UInt64) : List ServerEvent := v.events.filter (·.id == id)

theorem told_publish (event : ServerEvent) :
    (v.publish event).told k = v.told k ++ if event.id = k then [event] else [] := by
  simp [told, events, publish, List.filter_cons]

theorem connection?_enter :
    (v.enter id e).connection? k = if k = id then some e else v.connection? k :=
  lookup_insertConnection

theorem connection?_strike (reason : DisconnectReason) :
    (v.strike id reason).connection? k = if k = id then none else v.connection? k :=
  lookup_filter

theorem told_enter : (v.enter id e).told k = v.told k ++ if id = k then [.added id] else [] :=
  told_publish (.added id)

theorem told_strike (reason : DisconnectReason) :
    (v.strike id reason).told k = v.told k ++ if id = k then [.removed id reason] else [] :=
  told_publish (.removed id reason)

theorem Ascending.strike (h : Ascending v.connections) (reason : DisconnectReason) :
    Ascending (v.strike id reason).connections := h.filter _

/-! ## Striking off what hooks say -/

/-- Strike some connections off the book, one after the other. -/
def strikeAll (v : Server) (ids : List UInt64) (reason : DisconnectReason) : Server :=
  ids.foldl (fun v id ↦ v.strike id reason) v

/-- A server but for its book and what it told of it. -/
def cover (v : Server) : Server := { v with connections := [], notices := [] }

variable {ids : List UInt64} {reason : DisconnectReason}

theorem strikeAll_append (v : Server) (ids ids' : List UInt64) (reason : DisconnectReason) :
    v.strikeAll (ids ++ ids') reason = (v.strikeAll ids reason).strikeAll ids' reason :=
  List.foldl_append

theorem cover_strikeAll : (v.strikeAll ids reason).cover = v.cover := by
  induction ids generalizing v with
  | nil => rfl
  | cons id rest ih => exact ih (v := v.strike id reason)

theorem Ascending.strikeAll (h : Ascending v.connections) :
    Ascending (v.strikeAll ids reason).connections := by
  induction ids generalizing v with
  | nil => exact h
  | cons id rest ih => exact ih (h.strike reason)

theorem connection?_strikeAll :
    (v.strikeAll ids reason).connection? k = if k ∈ ids then none else v.connection? k := by
  induction ids generalizing v with
  | nil => simp [strikeAll]
  | cons id rest ih =>
      have hrest : (v.strikeAll (id :: rest) reason).connection? k =
          if k ∈ rest then none else (v.strike id reason).connection? k := ih
      rw [hrest, connection?_strike]
      by_cases hk : k = id
      · simp [hk]
      · simp [hk]

theorem told_strikeAll_of_notMem (h : k ∉ ids) :
    (v.strikeAll ids reason).told k = v.told k := by
  induction ids generalizing v with
  | nil => rfl
  | cons id rest ih =>
      have hid : ¬id = k := fun heq ↦ h (heq ▸ List.mem_cons_self)
      have hrest : (v.strikeAll (id :: rest) reason).told k = (v.strike id reason).told k :=
        ih fun hk ↦ h (List.mem_cons_of_mem id hk)
      rw [hrest, told_strike, if_neg hid, List.append_nil]

end Server

end MessageEngine
