import MessageEngine.Pool
import Mathlib.Order.Nat

/-!
# The queues of a pool

Which queue a newcomer gets, what is left of the queues as they are by what
happens to slots, and why a worker can be started for every queue of a pool
under whose own name one could be.
-/

namespace MessageEngine

theorem modify_of_getElem? {α : Type} {xs : List α} {i : Nat} {f : α → α}
    (hf : ∀ x, xs[i]? = some x → f x = x) : xs.modify i f = xs := by
  refine List.ext_getElem? fun j ↦ ?_
  rw [List.getElem?_modify]
  by_cases hj : i = j
  · subst hj
    cases hx : xs[i]? with
    | none => rfl
    | some x => simp [hf x hx]
  · simp [hj]

namespace Pool

variable {α : Type}

/-- The earliest of the queues of least load. -/
structure Foremost (p : Pool α) (i : Nat) (q : Queue α) : Prop where
  here : p.queues[i]? = some q
  least : ∀ (j : Nat) (q' : Queue α), p.queues[j]? = some q' → q.load ≤ q'.load
  first : ∀ (j : Nat) (q' : Queue α), p.queues[j]? = some q' → q'.load = q.load → i ≤ j

theorem leastLoaded_eq_none {i : Nat} {queues : List (Queue α)} (h : leastLoaded i queues = none) :
    queues = [] := by
  cases queues with
  | nil => rfl
  | cons q rest =>
      rw [leastLoaded] at h
      cases hrest : leastLoaded (i + 1) rest with
      | none => simp [hrest, lesser] at h
      | some y =>
          simp only [hrest, lesser] at h
          split at h <;> cases h

theorem leastLoaded_eq_some {start i load : Nat} {queues : List (Queue α)}
    (h : leastLoaded start queues = some (i, load)) :
    ∃ k q, i = start + k ∧ queues[k]? = some q ∧ q.load = load ∧
      ∀ (j : Nat) (q' : Queue α), queues[j]? = some q' →
        load ≤ q'.load ∧ (q'.load = load → k ≤ j) := by
  induction queues generalizing start i load with
  | nil => cases h
  | cons q rest ih =>
      rw [leastLoaded] at h
      -- The head is kept unless a later queue has strictly less load.
      have hhead : ∀ {load'}, (∀ q' ∈ rest, q.load ≤ q'.load) → load' = q.load →
          ∀ j q', (q :: rest)[j]? = some q' → load' ≤ q'.load ∧ (q'.load = load' → 0 ≤ j) := by
        intro load' hrest hload j q' hq'
        refine ⟨?_, fun _ ↦ Nat.zero_le j⟩
        rcases List.mem_cons.1 (List.mem_of_getElem? hq') with rfl | hmem
        · exact hload.le
        · exact hload.le.trans (hrest q' hmem)
      cases hrest : leastLoaded (start + 1) rest with
      | none =>
          simp only [hrest, lesser, Option.some.injEq, Prod.mk.injEq] at h
          obtain ⟨rfl, rfl⟩ := h
          refine ⟨0, q, rfl, rfl, rfl, hhead ?_ rfl⟩
          simp [leastLoaded_eq_none hrest]
      | some y =>
          obtain ⟨i', load'⟩ := y
          obtain ⟨k, q', rfl, hq', hload', hleast⟩ := ih hrest
          simp only [hrest, lesser] at h
          split at h
          · next hlt =>
            simp only [Option.some.injEq, Prod.mk.injEq] at h
            obtain ⟨rfl, rfl⟩ := h
            refine ⟨k + 1, q', by omega, hq', hload', ?_⟩
            rintro (_ | j) p hp
            · cases hp
              exact ⟨hlt.le, fun heq ↦ absurd heq (by omega)⟩
            · have hrest := hleast j p hp
              exact ⟨hrest.1, fun heq ↦ Nat.succ_le_succ (hrest.2 heq)⟩
          · next hge =>
            simp only [Option.some.injEq, Prod.mk.injEq] at h
            obtain ⟨rfl, rfl⟩ := h
            refine ⟨0, q, rfl, rfl, rfl, hhead ?_ rfl⟩
            intro p hp
            obtain ⟨j, hj⟩ := List.mem_iff_getElem?.1 hp
            exact (Nat.le_of_not_lt hge).trans (hleast j p hj).1

/-- A newcomer shares the foremost queue if that is below the ceiling.  Otherwise all queues are at
the ceiling and the pool grows by one. -/
theorem acquire_cases (p : Pool α) :
    (∃ i q, p.Foremost i q ∧ q.load < p.ceiling ∧
      p.acquire = (p.modifyQueue i Queue.assign, ⟨i, false⟩)) ∨
    ((∀ q ∈ p.queues, p.ceiling ≤ q.load) ∧
      p.acquire = ({ p with queues := p.queues ++ [Queue.assign { name := p.nextName }] },
        ⟨p.queues.length, false⟩)) := by
  rw [acquire, candidate?]
  cases hleast : leastLoaded 0 p.queues with
  | none =>
      refine .inr ⟨?_, rfl⟩
      simp [leastLoaded_eq_none hleast]
  | some y =>
      obtain ⟨i, load⟩ := y
      obtain ⟨k, q, hk, hq, rfl, hall⟩ := leastLoaded_eq_some hleast
      rw [Nat.zero_add] at hk
      subst hk
      dsimp only
      by_cases hroom : q.load < p.ceiling
      · rw [if_pos hroom]
        refine .inl ⟨i, q, ⟨hq, ?_, ?_⟩, hroom, rfl⟩
        · exact fun j q' hq' ↦ (hall j q' hq').1
        · exact fun j q' hq' ↦ (hall j q' hq').2
      · rw [if_neg hroom]
        refine .inr ⟨?_, rfl⟩
        intro q' hq'
        obtain ⟨j, hj⟩ := List.mem_iff_getElem?.1 hq'
        exact (Nat.le_of_not_lt hroom).trans (hall j q' hj).1

theorem getElem?_modifyQueue {p : Pool α} {i j : Nat} {f : Queue α → Queue α} {q : Queue α} :
    (p.modifyQueue i f).queues[j]? = some q ↔
      ∃ q₀, p.queues[j]? = some q₀ ∧ (if i = j then f q₀ else q₀) = q := by
  rw [modifyQueue, List.getElem?_modify, Option.map_eq_map, Option.map_eq_some_iff]

/-- What a change of a queue leaves as it is. -/
theorem map_modifyQueue {β : Type} (p : Pool α) (i : Nat) (look : Queue α → β)
    {f : Queue α → Queue α} (hf : ∀ q, p.queues[i]? = some q → look (f q) = look q) :
    (p.modifyQueue i f).queues.map look = p.queues.map look := by
  refine List.ext_getElem? fun j ↦ ?_
  simp only [modifyQueue, List.getElem?_map, List.getElem?_modify]
  cases hq : p.queues[j]? with
  | none => rfl
  | some q =>
      by_cases h : i = j
      · subst h
        simp [hf q hq]
      · simp [h]

theorem names_modifyQueue (p : Pool α) (i : Nat) {f : Queue α → Queue α}
    (hf : ∀ q, p.queues[i]? = some q → (f q).name = q.name) :
    (p.modifyQueue i f).queues.map Queue.name = p.queues.map Queue.name :=
  p.map_modifyQueue i Queue.name hf

/-- A slot that is in use is taken off the load of its queue. -/
theorem release_eq (p : Pool α) (slot : Slot) :
    (p.release slot).1 =
      if slot.released then p else p.modifyQueue slot.queue Queue.unassign := by
  rw [release]
  split
  · rfl
  · rfl

theorem slot_release (p : Pool α) (slot : Slot) :
    (p.release slot).2 = { slot with released := true } := by
  rw [release]
  split
  · next hreleased =>
    rw [← hreleased]
  · rfl

theorem names_release (p : Pool α) (slot : Slot) :
    (p.release slot).1.queues.map Queue.name = p.queues.map Queue.name := by
  rw [release_eq]
  split
  · rfl
  · exact p.names_modifyQueue slot.queue fun _ _ ↦ rfl

theorem names_dispose (p : Pool α) :
    p.dispose.queues.map Queue.name = p.queues.map Queue.name := by
  rw [dispose, List.map_map]
  rfl

/-- A queue takes an action without a change of its name and its load. -/
theorem enqueue_eq (p : Pool α) (slot : Slot) (a : α) :
    ∃ f : Queue α → Queue α, (p.enqueue slot a).1 = p.modifyQueue slot.queue f ∧
      ∀ q, p.queues[slot.queue]? = some q → (f q).name = q.name ∧ (f q).load = q.load := by
  cases hq : p.queues[slot.queue]? with
  | none =>
      refine ⟨id, ?_, fun q hq' ↦ nomatch hq'⟩
      rw [enqueue, hq, modifyQueue, List.modify_id]
  | some q =>
      refine ⟨fun _ ↦ (q.enqueue a).1, ?_, ?_⟩
      · rw [enqueue, hq]
      · intro q' hq'
        rw [Option.some.injEq] at hq'
        subst hq'
        rw [Queue.enqueue]
        split <;> exact ⟨rfl, rfl⟩

theorem names_acquire (p : Pool α) :
    p.queues.map Queue.name <+: p.acquire.1.queues.map Queue.name := by
  rcases p.acquire_cases with ⟨i, q, -, -, hacquire⟩ | ⟨-, hacquire⟩
  · rw [hacquire]
    exact (p.names_modifyQueue i (f := Queue.assign) fun _ _ ↦ rfl) ▸ List.prefix_rfl
  · rw [hacquire]
    exact (List.prefix_append _ _).map Queue.name

/-! ## What of a pool changes only as it grows or is disposed -/

def face (p : Pool α) : String × List (String × Bool) :=
  (p.name, p.queues.map fun q ↦ (q.name, q.disposed))

theorem face_modifyQueue (p : Pool α) (i : Nat) {f : Queue α → Queue α}
    (hf : ∀ q, p.queues[i]? = some q → (f q).name = q.name ∧ (f q).disposed = q.disposed) :
    (p.modifyQueue i f).face = p.face := by
  have hqueues := p.map_modifyQueue i (fun q ↦ (q.name, q.disposed)) fun q hq ↦
    Prod.ext (hf q hq).1 (hf q hq).2
  exact Prod.ext rfl hqueues

theorem face_dispose (p : Pool α) :
    p.dispose.face = (p.name, p.face.2.map fun sign ↦ (sign.1, true)) := by
  simp [face, dispose, Queue.dispose]

/-- A slot is on a queue that there was, or the pool has grown by its queue. -/
theorem face_acquire (p : Pool α) :
    (p.acquire.1.face = p.face ∧ ∃ sign, p.face.2[p.acquire.2.queue]? = some sign) ∨
      (p.acquire.1.face = (p.name, p.face.2 ++ [(p.nextName, false)]) ∧
        p.acquire.2.queue = p.face.2.length) := by
  rcases p.acquire_cases with ⟨i, q, hleast, -, hacquire⟩ | ⟨-, hacquire⟩
  · refine .inl ?_
    rw [hacquire]
    refine ⟨p.face_modifyQueue i fun _ _ ↦ ⟨rfl, rfl⟩, (q.name, q.disposed), ?_⟩
    rw [face, List.getElem?_map, hleast.here]
    rfl
  · refine .inr ?_
    rw [hacquire]
    simp [face, Queue.assign]

end Pool

/-! ## Names -/

theorem utf8_append (x y : String) : utf8 (x ++ y) = utf8 x ++ utf8 y := by
  simp [utf8, String.toUTF8, String.toByteArray_append]

theorem utf8_ofList (cs : List Char) :
    utf8 (String.ofList cs) = cs.flatMap String.utf8EncodeChar := by
  simp [utf8, String.toUTF8, List.utf8Encode]

theorem nul_notMem_encode {c : Char} (h : c.isDigit = true) :
    (0 : UInt8) ∉ String.utf8EncodeChar c := by
  have hrange : 48 ≤ c.val.toNat ∧ c.val.toNat ≤ 57 := by
    simpa [Char.isDigit, UInt32.le_iff_toNat_le] using h
  have hshort : String.utf8EncodeChar c = [UInt8.ofNat c.val.toNat] := if_pos (by omega)
  rw [hshort, List.mem_singleton]
  intro hnul
  have hmod : c.val.toNat % 256 = 0 := (congrArg UInt8.toNat hnul).symm
  omega

theorem nul_notMem_utf8_toString (n : Nat) : (0 : UInt8) ∉ utf8 (toString n) := by
  show (0 : UInt8) ∉ utf8 (String.ofList (Nat.toDigits 10 n))
  rw [utf8_ofList, List.mem_flatMap]
  rintro ⟨c, hc, hnul⟩
  have hdigit := Nat.isDigit_of_mem_toDigits (by decide) (by decide) hc
  exact nul_notMem_encode hdigit hnul

theorem Queue.nameRefusal?_eq_none {name : String} :
    nameRefusal? name = none ↔ (0 : UInt8) ∉ utf8 name := by
  rw [nameRefusal?]
  simp

theorem Queue.nameRefusal?_numbered {name : String} (h : nameRefusal? name = none) (i : Nat) :
    nameRefusal? s!"{name}-{i}" = none := by
  rw [Queue.nameRefusal?_eq_none] at h ⊢
  have hname : s!"{name}-{i}" = name ++ "-" ++ toString i := rfl
  have hdash : (0 : UInt8) ∉ utf8 "-" := by decide
  rw [hname, utf8_append, utf8_append, List.mem_append, List.mem_append]
  rintro ((hnul | hnul) | hnul)
  · exact h hnul
  · exact hdash hnul
  · exact nul_notMem_utf8_toString _ hnul

/-- If the name of a pool is not refused, that of its next queue is not. -/
theorem Pool.nameRefusal?_nextName {α : Type} {p : Pool α}
    (h : Queue.nameRefusal? p.name = none) : Queue.nameRefusal? p.nextName = none :=
  Queue.nameRefusal?_numbered h p.queues.length

end MessageEngine
