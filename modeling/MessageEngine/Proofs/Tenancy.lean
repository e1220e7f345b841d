import Mathlib
import MessageEngine.Proofs.PoolQueues

/-!
# The slots that a pool lets

Slots are taken from a pool, given back and dropped in any order.  A queue is
made only when every other one is full, so there are never more queues than
the greatest number of slots in use at a time asks for, and never fewer.
-/

namespace MessageEngine

/-- The slot is in use: it was not given back. -/
def Slot.isLive (slot : Slot) : Bool := !slot.released

/-- The slots of a pool in the order in which they were taken, without those that were dropped. -/
structure Tenancy (α : Type) where
  pool : Pool α
  slots : List (Option Slot) := []
  /-- The most slots that were in use at a time. -/
  peak : Nat := 0

/-- What can happen to a pool and its slots. -/
inductive Letting (α : Type)
  | acquire
  | release (i : Nat)
  | drop (i : Nat)
  | dispose
  /-- An action is handed in through a slot. -/
  | enqueue (i : Nat) (a : α)
  /-- The worker of a queue has executed an action. -/
  | advance (queue : Nat)
  deriving DecidableEq

namespace Tenancy

variable {α : Type}

def new (name : String) (ceiling : Nat) : Tenancy α := { pool := Pool.new name ceiling }

/-- How many slots are in use. -/
def live (t : Tenancy α) : Nat := t.slots.countP (·.any Slot.isLive)

/-- How many slots on a queue are in use. -/
def liveOn (t : Tenancy α) (i : Nat) : Nat :=
  t.slots.countP (·.any fun slot ↦ slot.isLive && slot.queue == i)

/-- The slots that are in use now are counted. -/
def counted (t : Tenancy α) : Tenancy α := { t with peak := max t.peak t.live }

/-- The slot with a number, unless it was dropped or never taken. -/
def slot? (t : Tenancy α) (i : Nat) : Option Slot := t.slots[i]?.join

/-- A slot is given up for what is left of it. -/
def giveUp (t : Tenancy α) (i : Nat) (slot : Slot) (left : Option Slot) : Tenancy α :=
  { t with pool := (t.pool.release slot).1, slots := t.slots.set i left }

/-- What comes of a letting, if it is possible: nothing can be done with a slot that was dropped. -/
def step? (t : Tenancy α) : Letting α → Option (Tenancy α)
  | .acquire =>
    some { t with pool := t.pool.acquire.1, slots := t.slots ++ [some t.pool.acquire.2] }
  | .release i =>
    (t.slot? i).map fun slot ↦ t.giveUp i slot (t.pool.release slot).2
  | .drop i => (t.slot? i).map fun slot ↦ t.giveUp i slot none
  | .dispose => some { t with pool := t.pool.dispose }
  | .enqueue i a => (t.slot? i).map fun slot ↦ { t with pool := (t.pool.enqueue slot a).1 }
  | .advance queue => some { t with pool := t.pool.modifyQueue queue Queue.advance }

def run? (t : Tenancy α) : List (Letting α) → Option (Tenancy α)
  | [] => some t
  | act :: acts => (t.step? act).bind fun t' ↦ t'.counted.run? acts

theorem slot?_eq_some {t : Tenancy α} {i : Nat} {slot : Slot} :
    t.slot? i = some slot ↔ t.slots[i]? = some (some slot) := by
  rw [slot?, Option.join_eq_some_iff]

/-! ## Counting -/

section Counting

variable {t : Tenancy α}

theorem live_eq_sum {n : Nat} (h : ∀ slot, some slot ∈ t.slots → slot.queue < n) :
    t.live = ∑ i ∈ Finset.range n, t.liveOn i := by
  obtain ⟨pool, slots, peak⟩ := t
  simp only [live, liveOn] at h ⊢
  induction slots with
  | nil => simp
  | cons o rest ih =>
      have hrest := ih fun slot hslot ↦ h slot (List.mem_cons_of_mem o hslot)
      simp only [List.countP_cons, Finset.sum_add_distrib, hrest]
      congr 1
      cases o with
      | none => simp
      | some slot =>
          have hqueue : slot.queue < n := h slot List.mem_cons_self
          cases hlive : slot.isLive <;> simp [hlive, Finset.sum_ite_eq, hqueue]

theorem liveOn_take (pool : Pool α) (i j : Nat) :
    ({ t with pool := pool, slots := t.slots ++ [some ⟨i, false⟩] } : Tenancy α).liveOn j =
      t.liveOn j + if i = j then 1 else 0 := by
  simp [liveOn, Slot.isLive]

theorem liveOn_eq_zero {n : Nat} (h : ∀ slot, some slot ∈ t.slots → slot.queue < n) :
    t.liveOn n = 0 := by
  refine List.countP_eq_zero.2 ?_
  rintro (_ | slot) hslot
  · exact Bool.false_ne_true
  · have hne := (h slot hslot).ne
    simp [hne]

theorem live_take (pool : Pool α) (i : Nat) :
    ({ t with pool := pool, slots := t.slots ++ [some ⟨i, false⟩] } : Tenancy α).live =
      t.live + 1 := by
  simp [live, Slot.isLive]

variable {i : Nat} {slot : Slot} {left : Option Slot}

theorem liveOn_giveUp (hslot : t.slot? i = some slot) (hleft : left.any Slot.isLive = false)
    (j : Nat) :
    (t.giveUp i slot left).liveOn j =
      t.liveOn j - if slot.isLive = true ∧ slot.queue = j then 1 else 0 := by
  obtain ⟨hi, hget⟩ := List.getElem?_eq_some_iff.1 (slot?_eq_some.1 hslot)
  have hgone : (left.any fun slot ↦ slot.isLive && slot.queue == j) = false := by
    cases left with
    | none => rfl
    | some slot' => simp_all
  simp [liveOn, giveUp, List.countP_set, hi, hget, hgone]

theorem live_giveUp_le (hslot : t.slot? i = some slot) (hleft : left.any Slot.isLive = false) :
    (t.giveUp i slot left).live ≤ t.live := by
  obtain ⟨hi, -⟩ := List.getElem?_eq_some_iff.1 (slot?_eq_some.1 hslot)
  simp [live, giveUp, List.countP_set, hi, hleft]

end Counting

/-! ## The books of a pool -/

/-- What holds of a pool and its slots from the beginning on. -/
structure Balanced (name : String) (ceiling : Nat) (t : Tenancy α) : Prop where
  called : t.pool.name = name
  limit : t.pool.ceiling = ceiling
  load : ∀ i (q : Queue α), t.pool.queues[i]? = some q → q.load = t.liveOn i
  room : ∀ q ∈ t.pool.queues, q.load ≤ ceiling
  names : t.pool.queues.map Queue.name =
    (List.range t.pool.queues.length).map fun i ↦ s!"{name}-{i}"
  slots : ∀ slot, some slot ∈ t.slots → slot.queue < t.pool.queues.length
  live : t.live ≤ t.peak
  /-- All that were in use at a time had room, and with a queue less they had not. -/
  enough : t.peak ≤ ceiling * t.pool.queues.length
  needed : ceiling * t.pool.queues.length < t.peak + ceiling

section Balanced

variable {name : String} {ceiling : Nat} {t t' : Tenancy α}

theorem Balanced.new (name : String) (ceiling : Nat) :
    (Tenancy.new name ceiling : Tenancy α).Balanced name (max ceiling 1) where
  called := rfl
  limit := rfl
  load i q hq := by simp [Tenancy.new, Pool.new] at hq
  room q hq := by simp [Tenancy.new, Pool.new] at hq
  names := rfl
  slots slot hslot := by simp [Tenancy.new] at hslot
  live := by simp [Tenancy.new, Tenancy.live]
  enough := by simp [Tenancy.new]
  needed := by simp [Tenancy.new, Pool.new]

theorem live_le (hload : ∀ i (q : Queue α), t.pool.queues[i]? = some q → q.load = t.liveOn i)
    (hroom : ∀ q ∈ t.pool.queues, q.load ≤ ceiling)
    (hslots : ∀ slot, some slot ∈ t.slots → slot.queue < t.pool.queues.length) :
    t.live ≤ ceiling * t.pool.queues.length := by
  have heach : ∀ i ∈ Finset.range t.pool.queues.length, t.liveOn i ≤ ceiling := by
    intro i hi
    have hq := List.getElem?_eq_getElem (Finset.mem_range.1 hi)
    rw [← hload i _ hq]
    exact hroom _ (List.mem_of_getElem? hq)
  have hsum := Finset.sum_le_card_nsmul _ _ _ heach
  rwa [← live_eq_sum hslots, Finset.card_range, smul_eq_mul, Nat.mul_comm] at hsum

/-- If all queues are full, as many slots are in use as there can be. -/
theorem Balanced.live_eq (h : t.Balanced name ceiling)
    (hfull : ∀ q ∈ t.pool.queues, ceiling ≤ q.load) :
    t.live = ceiling * t.pool.queues.length := by
  have heach : ∀ i ∈ Finset.range t.pool.queues.length, t.liveOn i = ceiling := by
    intro i hi
    have hq := List.getElem?_eq_getElem (Finset.mem_range.1 hi)
    have hmem := List.mem_of_getElem? hq
    rw [← h.load i _ hq]
    exact (h.room _ hmem).antisymm (hfull _ hmem)
  rw [live_eq_sum h.slots, Finset.sum_congr rfl heach, Finset.sum_const, Finset.card_range,
    smul_eq_mul, Nat.mul_comm]

/-- No slot was taken, and the queues are the same but for their load. -/
theorem Balanced.of_le (h : t.Balanced name ceiling) (hname : t'.pool.name = t.pool.name)
    (hceiling : t'.pool.ceiling = t.pool.ceiling)
    (hnames : t'.pool.queues.map Queue.name = t.pool.queues.map Queue.name)
    (hload : ∀ i (q : Queue α), t'.pool.queues[i]? = some q → q.load = t'.liveOn i)
    (hless : ∀ i, t'.liveOn i ≤ t.liveOn i)
    (hslots : ∀ slot, some slot ∈ t'.slots → slot.queue < t.pool.queues.length)
    (hpeak : t'.peak = t.peak) (hlive : t'.live ≤ t.live) : t'.counted.Balanced name ceiling := by
  have hlength : t'.pool.queues.length = t.pool.queues.length := by
    simpa using congrArg List.length hnames
  have hcounted : t'.counted.peak = t.peak := by
    rw [counted, hpeak]
    exact max_eq_left (hlive.trans h.live)
  refine ⟨hname.trans h.called, hceiling.trans h.limit, hload, ?_, ?_, ?_, ?_, ?_, ?_⟩
  · intro q hq
    obtain ⟨i, hi⟩ := List.mem_iff_getElem?.1 hq
    obtain ⟨q₀, hq₀⟩ : ∃ q₀, t.pool.queues[i]? = some q₀ := by
      obtain ⟨hlt, -⟩ := List.getElem?_eq_some_iff.1 hi
      exact ⟨_, List.getElem?_eq_getElem (hlength ▸ hlt)⟩
    calc
      q.load = t'.liveOn i := hload i q hi
      _ ≤ t.liveOn i := hless i
      _ = q₀.load := (h.load i q₀ hq₀).symm
      _ ≤ ceiling := h.room q₀ (List.mem_of_getElem? hq₀)
  · show t'.pool.queues.map Queue.name = _
    rw [hnames, h.names]
    exact congrArg (fun n ↦ (List.range n).map _) hlength.symm
  · intro slot hslot
    exact (hslots slot hslot).trans_eq hlength.symm
  · rw [hcounted]
    exact hlive.trans h.live
  · rw [hcounted]
    exact h.enough.trans_eq (congrArg (ceiling * ·) hlength.symm)
  · rw [hcounted]
    exact (congrArg (ceiling * ·) hlength).trans_lt h.needed

theorem Balanced.modifyQueue (h : t.Balanced name ceiling) (i : Nat) {f : Queue α → Queue α}
    (hf : ∀ q, t.pool.queues[i]? = some q → (f q).name = q.name ∧ (f q).load = q.load) :
    ({ t with pool := t.pool.modifyQueue i f } : Tenancy α).counted.Balanced name ceiling := by
  have hnames := t.pool.names_modifyQueue i fun q hq ↦ (hf q hq).1
  refine h.of_le rfl rfl hnames ?_ (fun _ ↦ le_rfl) h.slots rfl le_rfl
  intro j q hq
  obtain ⟨q₀, hq₀, rfl⟩ := Pool.getElem?_modifyQueue.1 hq
  refine Eq.trans ?_ (h.load j q₀ hq₀)
  split
  · next hij =>
    subst hij
    exact (hf q₀ hq₀).2
  · rfl

theorem Balanced.giveUp (h : t.Balanced name ceiling) {i : Nat} {slot : Slot} {left : Option Slot}
    (hslot : t.slot? i = some slot) (hleft : left.any Slot.isLive = false)
    (hqueue : ∀ slot' ∈ left, slot'.queue = slot.queue) :
    (t.giveUp i slot left).counted.Balanced name ceiling := by
  have hlet := List.mem_of_getElem? (slot?_eq_some.1 hslot)
  have hcount := liveOn_giveUp hslot hleft
  have hpool : (t.giveUp i slot left).pool =
      if slot.released then t.pool else t.pool.modifyQueue slot.queue Queue.unassign :=
    t.pool.release_eq slot
  refine h.of_le ?_ ?_ ?_ ?_ ?_ ?_ rfl (live_giveUp_le hslot hleft)
  · rw [hpool]
    split <;> rfl
  · rw [hpool]
    split <;> rfl
  · exact t.pool.names_release slot
  · intro j q hq
    rw [hpool] at hq
    rw [hcount, Slot.isLive]
    cases hreleased : slot.released with
    | true =>
        rw [hreleased, if_pos rfl] at hq
        simp [h.load j q hq]
    | false =>
        rw [hreleased, if_neg Bool.false_ne_true] at hq
        obtain ⟨q₀, hq₀, rfl⟩ := Pool.getElem?_modifyQueue.1 hq
        by_cases hj : slot.queue = j <;> simp [hj, Queue.unassign, h.load j q₀ hq₀]
  · intro j
    rw [hcount]
    exact Nat.sub_le _ _
  · intro slot' hslot'
    rcases List.mem_or_eq_of_mem_set hslot' with hmem | heq
    · exact h.slots slot' hmem
    · rw [hqueue slot' heq.symm]
      exact h.slots slot hlet

theorem Balanced.take (h : t.Balanced name ceiling) {pool : Pool α} {i : Nat}
    (hname : pool.name = name) (hceiling : pool.ceiling = ceiling)
    (hload : ∀ j (q : Queue α), pool.queues[j]? = some q →
      q.load = t.liveOn j + if i = j then 1 else 0)
    (hroom : ∀ q ∈ pool.queues, q.load ≤ ceiling)
    (hnames : pool.queues.map Queue.name =
      (List.range pool.queues.length).map fun i ↦ s!"{name}-{i}")
    (hi : i < pool.queues.length) (hmore : t.pool.queues.length ≤ pool.queues.length)
    (hneeded : ceiling * pool.queues.length < max t.peak (t.live + 1) + ceiling) :
    ({ t with pool := pool, slots := t.slots ++ [some ⟨i, false⟩] } :
      Tenancy α).counted.Balanced name ceiling := by
  have hslots : ∀ slot, some slot ∈ t.slots ++ [some ⟨i, false⟩] →
      slot.queue < pool.queues.length := by
    intro slot hslot
    rcases List.mem_append.1 hslot with hold | hnew
    · exact (h.slots slot hold).trans_le hmore
    · rw [List.mem_singleton, Option.some.injEq] at hnew
      exact hnew ▸ hi
  have hloads : ∀ j (q : Queue α), pool.queues[j]? = some q → q.load =
      ({ t with pool := pool, slots := t.slots ++ [some ⟨i, false⟩] } : Tenancy α).liveOn j := by
    intro j q hq
    rw [liveOn_take]
    exact hload j q hq
  have henough : t.live + 1 ≤ ceiling * pool.queues.length := by
    rw [← live_take pool i]
    exact live_le hloads hroom hslots
  -- the old peak had room in fewer queues, and what is in use has: no queue is above the ceiling
  refine ⟨hname, hceiling, hloads, hroom, hnames, hslots, le_max_right _ _, ?_, ?_⟩
  · rw [counted, live_take]
    exact max_le (h.enough.trans (Nat.mul_le_mul_left ceiling hmore)) henough
  · rw [counted, live_take]
    exact hneeded

theorem Balanced.acquire (h : t.Balanced name ceiling) (hceiling : 0 < ceiling) :
    ({ t with pool := t.pool.acquire.1, slots := t.slots ++ [some t.pool.acquire.2] } :
      Tenancy α).counted.Balanced name ceiling := by
  rcases t.pool.acquire_cases with ⟨i, q, hleast, hless, hacquire⟩ | ⟨hfull, hacquire⟩
  · rw [hacquire]
    have hlength : (t.pool.modifyQueue i Queue.assign).queues.length = t.pool.queues.length :=
      List.length_modify ..
    have hnames := t.pool.names_modifyQueue i (f := Queue.assign) fun _ _ ↦ rfl
    obtain ⟨hi, -⟩ := List.getElem?_eq_some_iff.1 hleast.here
    refine h.take h.called h.limit ?_ ?_ ?_ (hlength ▸ hi) hlength.ge ?_
    · intro j q' hq'
      obtain ⟨q₀, hq₀, rfl⟩ := Pool.getElem?_modifyQueue.1 hq'
      by_cases hij : i = j <;> simp [hij, Queue.assign, h.load j q₀ hq₀]
    · intro q' hq'
      obtain ⟨j, hj⟩ := List.mem_iff_getElem?.1 hq'
      obtain ⟨q₀, hq₀, rfl⟩ := Pool.getElem?_modifyQueue.1 hj
      split
      · next hij =>
        subst hij
        rw [hleast.here, Option.some.injEq] at hq₀
        rw [h.limit, hq₀] at hless
        exact hless
      · exact h.room q₀ (List.mem_of_getElem? hq₀)
    · rw [hnames, hlength, h.names]
    · rw [hlength]
      exact h.needed.trans_le (Nat.add_le_add_right (le_max_left _ _) _)
  · rw [hacquire]
    rw [h.limit] at hfull
    -- Every slot there is room for is in use, so one more is a new peak.
    have hlive := h.live_eq hfull
    have hqueues : ∀ j q,
        (t.pool.queues ++ [Queue.assign { name := t.pool.nextName }])[j]? = some q →
          t.pool.queues[j]? = some q ∧ t.pool.queues.length ≠ j ∨
            t.pool.queues.length = j ∧ q = Queue.assign { name := t.pool.nextName } := by
      intro j q hq
      obtain ⟨hlt, hget⟩ := List.getElem?_eq_some_iff.1 hq
      rw [List.length_append, List.length_singleton, Nat.lt_succ_iff_lt_or_eq] at hlt
      rcases hlt with hold | rfl
      · rw [List.getElem?_append_left hold] at hq
        exact .inl ⟨hq, hold.ne'⟩
      · rw [List.getElem?_concat_length, Option.some.injEq] at hq
        exact .inr ⟨rfl, hq.symm⟩
    refine h.take h.called h.limit ?_ ?_ ?_ ?_ ?_ ?_
    · intro j q hq
      rcases hqueues j q hq with ⟨hold, hne⟩ | ⟨rfl, rfl⟩
      · rw [if_neg hne, h.load j q hold, Nat.add_zero]
      · rw [if_pos rfl, liveOn_eq_zero h.slots]
        rfl
    · intro q hq
      rcases List.mem_append.1 hq with hold | hnew
      · exact h.room q hold
      · rw [List.mem_singleton.1 hnew]
        exact hceiling
    · rw [List.map_append, h.names, List.length_append, List.length_singleton, List.range_succ,
        List.map_append]
      simp [Queue.assign, Pool.nextName, h.called]
    · simp
    · simp
    · have hnew : ceiling * (t.pool.queues.length + 1) < (t.live + 1) + ceiling := by
        rw [hlive, Nat.mul_succ]
        omega
      rw [List.length_append, List.length_singleton]
      exact hnew.trans_le (Nat.add_le_add_right (le_max_right _ _) _)

theorem Balanced.step? (h : t.Balanced name ceiling) (hceiling : 0 < ceiling) {act : Letting α}
    (hact : t.step? act = some t') : t'.counted.Balanced name ceiling := by
  cases act with
  | acquire =>
      cases hact
      exact h.acquire hceiling
  | release i =>
      obtain ⟨slot, hslot, rfl⟩ := Option.map_eq_some_iff.1 hact
      rw [t.pool.slot_release]
      refine h.giveUp hslot rfl ?_
      rintro slot' ⟨⟩
      rfl
  | drop i =>
      obtain ⟨slot, hslot, rfl⟩ := Option.map_eq_some_iff.1 hact
      exact h.giveUp hslot rfl fun slot' hslot' ↦ nomatch hslot'
  | dispose =>
      cases hact
      refine h.of_le rfl rfl t.pool.names_dispose ?_ (fun _ ↦ le_rfl) h.slots rfl le_rfl
      intro i q hq
      simp only [Pool.dispose, List.getElem?_map, Option.map_eq_some_iff] at hq
      obtain ⟨q₀, hq₀, rfl⟩ := hq
      exact h.load i q₀ hq₀
  | enqueue i a =>
      obtain ⟨slot, hslot, rfl⟩ := Option.map_eq_some_iff.1 hact
      obtain ⟨f, hf, hkept⟩ := t.pool.enqueue_eq slot a
      rw [hf]
      exact h.modifyQueue slot.queue hkept
  | advance queue =>
      cases hact
      exact h.modifyQueue queue fun _ _ ↦ ⟨rfl, rfl⟩

theorem Balanced.run? (h : t.Balanced name ceiling) (hceiling : 0 < ceiling)
    {acts : List (Letting α)} (hrun : t.run? acts = some t') : t'.Balanced name ceiling := by
  induction acts generalizing t with
  | nil =>
      cases hrun
      exact h
  | cons act acts ih =>
      obtain ⟨t₁, hact, hrest⟩ := Option.bind_eq_some_iff.1 hrun
      exact ih (h.step? hceiling hact) hrest

end Balanced

/-! ## What stays -/

/-- A slot keeps its queue as long as it is there and never comes back, and no queue goes away. -/
structure Keeps (t t' : Tenancy α) : Prop where
  slots : ∀ (i : Nat) (o : Option Slot), t.slots[i]? = some o → ∃ o' : Option Slot,
    t'.slots[i]? = some o' ∧ ∀ slot' ∈ o', ∃ slot ∈ o, Slot.queue slot' = Slot.queue slot
  queues : t.pool.queues.map Queue.name <+: t'.pool.queues.map Queue.name

section Keeps

variable {t t' t'' : Tenancy α}

theorem Keeps.refl (t : Tenancy α) : t.Keeps t where
  slots _ o ho := ⟨o, ho, fun slot hslot ↦ ⟨slot, hslot, rfl⟩⟩
  queues := List.prefix_rfl

theorem Keeps.trans (h : t.Keeps t') (h' : t'.Keeps t'') : t.Keeps t'' where
  slots i o ho := by
    obtain ⟨o', ho', hback⟩ := h.slots i o ho
    obtain ⟨o'', ho'', hback'⟩ := h'.slots i o' ho'
    refine ⟨o'', ho'', fun slot'' hslot'' ↦ ?_⟩
    obtain ⟨slot', hslot', hqueue'⟩ := hback' slot'' hslot''
    obtain ⟨slot, hslot, hqueue⟩ := hback slot' hslot'
    exact ⟨slot, hslot, hqueue'.trans hqueue⟩
  queues := h.queues.trans h'.queues

theorem Keeps.giveUp {i : Nat} {slot : Slot} {left : Option Slot}
    (hslot : t.slot? i = some slot) (hqueue : ∀ slot' ∈ left, Slot.queue slot' = slot.queue) :
    t.Keeps (t.giveUp i slot left) where
  slots j o ho := by
    rw [Tenancy.giveUp, List.getElem?_set]
    by_cases hij : i = j
    · subst hij
      obtain ⟨hi, -⟩ := List.getElem?_eq_some_iff.1 ho
      rw [slot?_eq_some.1 hslot, Option.some.injEq] at ho
      refine ⟨left, by simp [hi], fun slot' hslot' ↦ ⟨slot, ho.symm, hqueue slot' hslot'⟩⟩
    · rw [if_neg hij]
      exact (Keeps.refl t).slots j o ho
  queues := t.pool.names_release slot ▸ List.prefix_rfl

theorem Keeps.step? {act : Letting α} (hact : t.step? act = some t') : t.Keeps t' := by
  cases act with
  | acquire =>
      cases hact
      refine ⟨fun _ o ho ↦ ?_, t.pool.names_acquire⟩
      obtain ⟨hi, -⟩ := List.getElem?_eq_some_iff.1 ho
      refine ⟨o, ?_, fun slot hslot ↦ ⟨slot, hslot, rfl⟩⟩
      exact (List.getElem?_append_left hi).trans ho
  | release i =>
      obtain ⟨slot, hslot, rfl⟩ := Option.map_eq_some_iff.1 hact
      rw [t.pool.slot_release]
      refine .giveUp hslot ?_
      rintro slot' ⟨⟩
      rfl
  | drop i =>
      obtain ⟨slot, hslot, rfl⟩ := Option.map_eq_some_iff.1 hact
      exact .giveUp hslot fun slot' hslot' ↦ nomatch hslot'
  | dispose =>
      cases hact
      exact ⟨(Keeps.refl t).slots, t.pool.names_dispose ▸ List.prefix_rfl⟩
  | enqueue i a =>
      obtain ⟨slot, -, rfl⟩ := Option.map_eq_some_iff.1 hact
      obtain ⟨f, hf, hkept⟩ := t.pool.enqueue_eq slot a
      have hnames := t.pool.names_modifyQueue slot.queue fun q hq ↦ (hkept q hq).1
      refine ⟨(Keeps.refl t).slots, ?_⟩
      rw [hf]
      exact hnames ▸ List.prefix_rfl
  | advance queue =>
      cases hact
      have hnames := t.pool.names_modifyQueue queue (f := Queue.advance) fun _ _ ↦ rfl
      exact ⟨(Keeps.refl t).slots, hnames ▸ List.prefix_rfl⟩

theorem Keeps.run? {acts : List (Letting α)} (hrun : t.run? acts = some t') : t.Keeps t' := by
  induction acts generalizing t with
  | nil =>
      cases hrun
      exact .refl t'
  | cons act acts ih =>
      obtain ⟨t₁, hact, hrest⟩ := Option.bind_eq_some_iff.1 hrun
      have hfirst := Keeps.step? hact
      have hcounted : t.Keeps t₁.counted := ⟨hfirst.slots, hfirst.queues⟩
      exact hcounted.trans (ih hrest)

end Keeps

/-! ## The accounts -/

/-- What the queues of a pool, its slots and the most slots in use at a time have to do with one
another. -/
structure Accounts (name : String) (ceiling : Nat) (t : Tenancy α) : Prop where
  loads : ∀ i (q : Queue α), t.pool.queues[i]? = some q → q.load = t.liveOn i ∧ q.load ≤ ceiling
  names : t.pool.queues.map Queue.name =
    (List.range t.pool.queues.length).map fun i ↦ s!"{name}-{i}"
  distinct : (t.pool.queues.map Queue.name).Nodup
  /-- The next slot is on the foremost queue if that has room, and else on a new queue. -/
  next :
    (∃ i q, t.pool.Foremost i q ∧ q.load < ceiling ∧ t.pool.acquire.2 = ⟨i, false⟩ ∧
      t.pool.acquire.1.queues.map Queue.name = t.pool.queues.map Queue.name) ∨
    ((∀ i q, t.pool.Foremost i q → ceiling ≤ q.load) ∧
      t.pool.acquire.2 = ⟨t.pool.queues.length, false⟩ ∧
      t.pool.acquire.1.queues.map Queue.name =
        t.pool.queues.map Queue.name ++ [s!"{name}-{t.pool.queues.length}"])
  count : t.pool.queues.length = t.peak ⌈/⌉ ceiling

variable {name : String} {ceiling : Nat} {t t' : Tenancy α}

theorem Balanced.accounts (h : t.Balanced name ceiling) (hceiling : 0 < ceiling) :
    t.Accounts name ceiling where
  loads i q hq := ⟨h.load i q hq, h.room q (List.mem_of_getElem? hq)⟩
  names := h.names
  distinct := by
    rw [h.names]
    refine List.nodup_range.map fun i j hij ↦ ?_
    have hdigits : toString i = toString j := by simpa using hij
    exact Nat.repr_inj.1 hdigits
  next := by
    have hlimit := h.limit
    rcases t.pool.acquire_cases with ⟨i, q, hleast, hless, hacquire⟩ | ⟨hfull, hacquire⟩
    · refine .inl ⟨i, q, hleast, hlimit ▸ hless, ?_, ?_⟩
      · rw [hacquire]
      · rw [hacquire]
        exact t.pool.names_modifyQueue i fun _ _ ↦ rfl
    · refine .inr ⟨?_, ?_, ?_⟩
      · intro i q hleast
        exact hlimit ▸ hfull q (List.mem_of_getElem? hleast.here)
      · rw [hacquire]
      · rw [hacquire, List.map_append]
        simp [Queue.assign, Pool.nextName, h.called]
  count := by
    have henough := h.enough
    have hneeded := h.needed
    refine le_antisymm ?_ ((ceilDiv_le_iff_le_mul hceiling).2 henough)
    have hmul : t.peak ≤ ceiling * (t.peak ⌈/⌉ ceiling) :=
      (ceilDiv_le_iff_le_mul hceiling).1 le_rfl
    have hless : ceiling * t.pool.queues.length < ceiling * (t.peak ⌈/⌉ ceiling + 1) := by
      rw [Nat.mul_succ]
      omega
    exact Nat.lt_succ_iff.1 (Nat.lt_of_mul_lt_mul_left hless)

/-- Whatever is done with a pool and its slots, the load of each queue is the number of its slots in
use, and there are as many queues as the most slots in use at a time asked for.  A slot stays on its
queue, whatever comes later. -/
theorem accounts_balance {acts later : List (Letting α)}
    (hrun : (Tenancy.new name ceiling).run? acts = some t) (hlater : t.run? later = some t') :
    t.Accounts name (max ceiling 1) ∧ t.Keeps t' := by
  have hceiling : 0 < max ceiling 1 := Nat.lt_of_lt_of_le Nat.zero_lt_one (le_max_right _ _)
  exact ⟨((Balanced.new name ceiling).run? hceiling hrun).accounts hceiling, .run? hlater⟩

end Tenancy

namespace Specimen

/-- The first slot is given back twice and dropped, and the fourth takes its place. -/
def lettings : List (Letting Nat) :=
  [.acquire, .acquire, .acquire, .release 0, .release 0, .drop 0, .acquire, .enqueue 3 7, .dispose,
    .drop 3, .drop 1]

end Specimen

/-- One slot is left of the three at a time that called for a second queue. -/
theorem Tenancy.accounts_balance_shared :
    ∃ t t' : Tenancy Nat, (Tenancy.new "pool" 2).run? Specimen.lettings = some t ∧
      t.run? [.acquire, .release 4] = some t' ∧ t.pool.loads = [0, 1] ∧ t.peak = 3 ∧
        t.pool.queues.length = 3 ⌈/⌉ 2 ∧ t.Keeps t' := by
  have hsome : ((Tenancy.new "pool" 2).run? Specimen.lettings).isSome = true := by decide
  obtain ⟨t, ht⟩ := Option.isSome_iff_exists.1 hsome
  have hloads : ((Tenancy.new "pool" 2).run? Specimen.lettings).map (·.pool.loads) =
      some [0, 1] := by decide
  have hpeak : ((Tenancy.new "pool" 2).run? Specimen.lettings).map (·.peak) = some 3 := by decide
  have hlater : (((Tenancy.new "pool" 2).run? Specimen.lettings).bind
      (·.run? [.acquire, .release 4])).isSome = true := by decide
  rw [ht, Option.map_some, Option.some.injEq] at hloads hpeak
  rw [ht, Option.bind_some] at hlater
  obtain ⟨t', ht'⟩ := Option.isSome_iff_exists.1 hlater
  obtain ⟨haccounts, hkeeps⟩ := accounts_balance ht ht'
  have hcount : t.pool.queues.length = t.peak ⌈/⌉ 2 := haccounts.count
  rw [hpeak] at hcount
  exact ⟨t, t', ht, ht', hloads, hpeak, hcount, hkeeps⟩

end MessageEngine
