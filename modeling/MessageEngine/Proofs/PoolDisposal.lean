import Mathlib
import MessageEngine.Proofs.Tenancy

/-!
# Disposed pools

To dispose a pool is to dispose the queues that it has.  They take nothing
any more, whoever has a slot on them or gets one later, and get through what
they took before.  The pool itself goes on: when all its queues are full it
grows, and a queue that comes in this way takes actions until the pool is
disposed again.
-/

namespace MessageEngine

variable {α : Type}

namespace Pool

/-- Hand in an action through a slot; the text of the panic, if starting a worker comes to one. -/
def handIn (p : Pool α) (slot : Slot) (a : α) : Pool α × Except String Bool :=
  match (p.queues[slot.queue]?).bind Queue.panic? with
  | some text => (p, .error text)
  | none => ((p.enqueue slot a).1, .ok (p.enqueue slot a).2)

section HandIn

variable {p : Pool α} {slot : Slot} {q : Queue α}

theorem handIn_of_disposed (hq : p.queues[slot.queue]? = some q) (hdisposed : q.disposed = true)
    (a : α) : p.handIn slot a = (p, .ok false) := by
  have hpanic : q.panic? = none := by simp [Queue.panic?, hdisposed]
  have hrefused : q.enqueue a = (q, false) := by simp [Queue.enqueue, hdisposed]
  have hsame : p.modifyQueue slot.queue (fun _ ↦ q) = p := by
    rw [modifyQueue, modify_of_getElem?]
    intro q' hq'
    exact Option.some.inj (hq.symm.trans hq')
  simp [handIn, enqueue, hq, hpanic, hrefused, hsame]

theorem handIn_eq (p : Pool α) (slot : Slot) (a : α) :
    (∃ text, p.handIn slot a = (p, .error text)) ∨
      p.handIn slot a = ((p.enqueue slot a).1, .ok (p.enqueue slot a).2) := by
  rw [handIn]
  split
  · next text _ => exact .inl ⟨text, rfl⟩
  · exact .inr rfl

theorem handIn_of_open (hq : p.queues[slot.queue]? = some q) (hopen : q.disposed = false)
    (hpanic : q.panic? = none) (a : α) : p.handIn slot a =
      (p.modifyQueue slot.queue fun _ ↦ { q with backlog := q.backlog ++ [a], started := true },
        .ok true) := by
  simp [handIn, enqueue, Queue.enqueue, hq, hpanic, hopen]

/-- Unless an open queue takes the action, nothing changes. -/
theorem handIn_cases (p : Pool α) (slot : Slot) (a : α) :
    (∃ answer, p.handIn slot a = (p, answer) ∧ answer ≠ .ok true) ∨
    ∃ q, p.queues[slot.queue]? = some q ∧ q.disposed = false ∧ p.handIn slot a =
      (p.modifyQueue slot.queue fun _ ↦ { q with backlog := q.backlog ++ [a], started := true },
        .ok true) := by
  cases hq : p.queues[slot.queue]? with
  | none =>
      refine .inl ⟨.ok false, ?_, by simp⟩
      simp [handIn, enqueue, hq]
  | some q =>
      cases hpanic : q.panic? with
      | some text =>
          refine .inl ⟨.error text, ?_, by simp⟩
          simp [handIn, hq, hpanic]
      | none =>
          cases hdisposed : q.disposed with
          | true => exact .inl ⟨.ok false, handIn_of_disposed hq hdisposed a, by simp⟩
          | false => exact .inr ⟨q, rfl, hdisposed, handIn_of_open hq hdisposed hpanic a⟩

end HandIn

/-- The actions that wait on each queue, and whether it was disposed. -/
def states (p : Pool α) : List (List α × Bool) := p.queues.map fun q ↦ (q.backlog, q.disposed)

theorem states_modifyQueue {p : Pool α} {i : Nat} {q : Queue α} (hq : p.queues[i]? = some q)
    (f : Queue α → Queue α) :
    (p.modifyQueue i f).states = p.states.set i ((f q).backlog, (f q).disposed) := by
  obtain ⟨hi, rfl⟩ := List.getElem?_eq_some_iff.1 hq
  apply List.ext_getElem?
  intro j
  by_cases hj : i = j
  · subst hj
    simp [states, modifyQueue, hi]
  · simp [states, modifyQueue, hj]

theorem states_acquire (p : Pool α) :
    p.acquire.1.states = p.states ∨ p.acquire.1.states = p.states ++ [([], false)] := by
  rcases p.acquire_cases with ⟨i, q, -, -, hacquire⟩ | ⟨-, hacquire⟩
  · left
    rw [hacquire]
    apply p.map_modifyQueue i
    intro q _
    rfl
  · right
    simp [hacquire, states, Queue.assign]

theorem states_release (p : Pool α) (slot : Slot) : (p.release slot).1.states = p.states := by
  rw [p.release_eq]
  split
  · rfl
  · apply p.map_modifyQueue slot.queue
    intro q _
    rfl

theorem states_dispose (p : Pool α) : p.dispose.states = p.states.map fun s ↦ (s.1, true) := by
  simp [states, dispose, Queue.dispose]

end Pool

namespace Letting

def isDispose : Letting α → Bool
  | .dispose => true
  | _ => false

def isTurnOf (j : Nat) : Letting α → Bool
  | .advance k => k == j
  | _ => false

end Letting

/-- A pool with its slots, and the actions that its queues accepted and executed. -/
structure Worklog (α : Type) where
  tenancy : Tenancy α
  accepted : List (Nat × α) := []
  executed : List (Nat × α) := []

namespace Worklog

def new (name : String) (ceiling : Nat) : Worklog α := { tenancy := .new name ceiling }

abbrev pool (h : Worklog α) : Pool α := h.tenancy.pool

abbrev slot? (h : Worklog α) (i : Nat) : Option Slot := h.tenancy.slot? i

/-- What comes of a letting.  A panic leaves all as it was, and a worker has a turn only if an
action waits for it. -/
def step? (h : Worklog α) : Letting α → Option (Worklog α)
  | .enqueue i a =>
    (h.slot? i).map fun slot ↦
      match h.pool.handIn slot a with
      | (_, .error _) => h
      | (pool, .ok answer) =>
        { tenancy := { h.tenancy with pool := pool }.counted
          accepted := h.accepted ++ if answer then [(slot.queue, a)] else []
          executed := h.executed }
  | .advance j =>
    ((h.pool.queues[j]?).bind (·.backlog.head?)).map fun a ↦
      { tenancy := { h.tenancy with pool := h.pool.modifyQueue j Queue.advance }.counted
        accepted := h.accepted
        executed := h.executed ++ [(j, a)] }
  | act => (h.tenancy.step? act).map fun t ↦ { h with tenancy := t.counted }

def run? (h : Worklog α) : List (Letting α) → Option (Worklog α)
  | [] => some h
  | act :: acts => (h.step? act).bind (·.run? acts)

/-- The actions of one queue. -/
def on (j : Nat) (entries : List (Nat × α)) : List α :=
  (entries.filter (·.1 == j)).map Prod.snd

@[simp] theorem on_nil (j : Nat) : on j ([] : List (Nat × α)) = [] := rfl

@[simp] theorem on_append (j : Nat) (entries more : List (Nat × α)) :
    on j (entries ++ more) = on j entries ++ on j more := by
  simp [on]

@[simp] theorem on_singleton (j k : Nat) (a : α) : on j [(k, a)] = if k = j then [a] else [] := by
  by_cases hk : k = j <;> simp [on, hk]

def acceptedOn (h : Worklog α) (j : Nat) : List α := on j h.accepted

def executedOn (h : Worklog α) (j : Nat) : List α := on j h.executed

/-- The actions that wait on a queue. -/
def waiting (h : Worklog α) (j : Nat) : List α := ((h.pool.states[j]?).map Prod.fst).getD []

/-- Every queue executes what it accepts in order, and what it did not execute yet waits. -/
def Told (h : Worklog α) : Prop := ∀ j, h.acceptedOn j = h.executedOn j ++ h.waiting j

/-- A queue is disposed, and these are the actions that it has accepted. -/
def Sealed (j : Nat) (actions : List α) (h : Worklog α) : Prop :=
  h.acceptedOn j = actions ∧ ∃ rest, h.pool.states[j]? = some (rest, true)

/-- The queues from some number on are not disposed. -/
def OpenFrom (n : Nat) (h : Worklog α) : Prop :=
  ∀ j rest closed, n ≤ j → h.pool.states[j]? = some (rest, closed) → closed = false

/-! ## What a letting can do -/

section Step

variable {h h' : Worklog α} {act : Letting α}

/-- What a letting comes to for the actions. -/
inductive Moves (h : Worklog α) : Letting α → Worklog α → Prop
  /-- A queue that is open accepts an action. -/
  | accept {i : Nat} {a : α} {slot : Slot} {before : List α} {h' : Worklog α}
      (hslot : h.slot? i = some slot) (hopen : h.pool.states[slot.queue]? = some (before, false))
      (states : h'.pool.states = h.pool.states.set slot.queue (before ++ [a], false))
      (accepted : h'.accepted = h.accepted ++ [(slot.queue, a)])
      (executed : h'.executed = h.executed) : Moves h (.enqueue i a) h'
  /-- The worker of a queue executes the action in front. -/
  | turn {j : Nat} {a : α} {rest : List α} {closed : Bool} {h' : Worklog α}
      (hfront : h.pool.states[j]? = some (a :: rest, closed))
      (states : h'.pool.states = h.pool.states.set j (rest, closed))
      (accepted : h'.accepted = h.accepted) (executed : h'.executed = h.executed ++ [(j, a)]) :
      Moves h (.advance j) h'
  | dispose {h' : Worklog α}
      (states : h'.pool.states = h.pool.states.map fun s ↦ (s.1, true))
      (accepted : h'.accepted = h.accepted) (executed : h'.executed = h.executed) :
      Moves h .dispose h'
  /-- Nothing comes of it but perhaps a new queue. -/
  | rest {act : Letting α} {h' : Worklog α} (hdispose : act.isDispose = false)
      (hturn : ∀ j, act.isTurnOf j = false)
      (states : h'.pool.states = h.pool.states ∨ h'.pool.states = h.pool.states ++ [([], false)])
      (accepted : h'.accepted = h.accepted) (executed : h'.executed = h.executed) :
      Moves h act h'

theorem moves_enqueue {i : Nat} {a : α} (hstep : h.step? (.enqueue i a) = some h') :
    h.Moves (.enqueue i a) h' := by
  obtain ⟨slot, hslot, hstep⟩ := Option.map_eq_some_iff.1 hstep
  rcases h.pool.handIn_cases slot a with ⟨answer, hhandIn, hanswer⟩ | ⟨q, hq, hopen, hhandIn⟩
  · rw [hhandIn] at hstep
    subst hstep
    cases answer with
    | error text => exact .rest rfl (fun _ ↦ rfl) (.inl rfl) rfl rfl
    | ok taken =>
        cases taken with
        | false => exact .rest rfl (fun _ ↦ rfl) (.inl rfl) (List.append_nil _) rfl
        | true => exact absurd rfl hanswer
  · rw [hhandIn] at hstep
    subst hstep
    have hstate : h.pool.states[slot.queue]? = some (q.backlog, false) := by
      simp [Pool.states, hq, hopen]
    refine .accept hslot hstate ?_ rfl rfl
    rw [← hopen]
    exact Pool.states_modifyQueue hq _

theorem moves_advance {j : Nat} (hstep : h.step? (.advance j) = some h') :
    h.Moves (.advance j) h' := by
  obtain ⟨a, ha, rfl⟩ := Option.map_eq_some_iff.1 hstep
  obtain ⟨q, hq, hhead⟩ := Option.bind_eq_some_iff.1 ha
  obtain ⟨rest, hrest⟩ := List.head?_eq_some_iff.1 hhead
  have hfront : h.pool.states[j]? = some (a :: rest, q.disposed) := by
    simp [Pool.states, hq, hrest]
  have hstates := Pool.states_modifyQueue hq Queue.advance
  simp only [Queue.advance, hrest, List.tail_cons] at hstates
  exact .turn hfront hstates rfl rfl

theorem moves_of_step? (hstep : h.step? act = some h') : h.Moves act h' := by
  cases act with
  | enqueue i a => exact moves_enqueue hstep
  | advance j => exact moves_advance hstep
  | acquire =>
      cases hstep
      exact .rest rfl (fun _ ↦ rfl) h.pool.states_acquire rfl rfl
  | release i | drop i =>
      obtain ⟨t, ht, rfl⟩ := Option.map_eq_some_iff.1 hstep
      obtain ⟨slot, -, rfl⟩ := Option.map_eq_some_iff.1 ht
      exact .rest rfl (fun _ ↦ rfl) (.inl (h.pool.states_release slot)) rfl rfl
  | dispose =>
      cases hstep
      exact .dispose h.pool.states_dispose rfl rfl

/-! ## Slots and loads -/

theorem exists_lettings (hstep : h.step? act = some h') :
    ∃ acts, h.tenancy.run? acts = some h'.tenancy := by
  cases act with
  | enqueue i a =>
      obtain ⟨slot, hslot, hstep⟩ := Option.map_eq_some_iff.1 hstep
      rcases h.pool.handIn_eq slot a with ⟨text, hhandIn⟩ | hhandIn
      · rw [hhandIn] at hstep
        exact ⟨[], congrArg (some ∘ tenancy) hstep⟩
      · rw [hhandIn] at hstep
        subst hstep
        refine ⟨[.enqueue i a], ?_⟩
        simp [Tenancy.run?, Tenancy.step?, hslot]
  | advance j =>
      obtain ⟨a, -, rfl⟩ := Option.map_eq_some_iff.1 hstep
      exact ⟨[.advance j], rfl⟩
  | acquire =>
      cases hstep
      exact ⟨[.acquire], rfl⟩
  | dispose =>
      cases hstep
      exact ⟨[.dispose], rfl⟩
  | release i =>
      obtain ⟨t, ht, rfl⟩ := Option.map_eq_some_iff.1 hstep
      refine ⟨[.release i], ?_⟩
      simp [Tenancy.run?, ht]
  | drop i =>
      obtain ⟨t, ht, rfl⟩ := Option.map_eq_some_iff.1 hstep
      refine ⟨[.drop i], ?_⟩
      simp [Tenancy.run?, ht]

/-! ## What a letting keeps -/

theorem waiting_set {j : Nat} {rest : List α} {closed : Bool} {s : List α × Bool}
    (hold : h.pool.states[j]? = some s) (hnew : h'.pool.states = h.pool.states.set j (rest, closed))
    (k : Nat) : h'.waiting k = if j = k then rest else h.waiting k := by
  obtain ⟨hj, -⟩ := List.getElem?_eq_some_iff.1 hold
  rw [waiting, hnew, List.getElem?_set]
  by_cases hk : j = k
  · subst hk
    simp [hj]
  · simp [hk, waiting]

theorem waiting_of_states (hstates : h'.pool.states = h.pool.states ∨
    h'.pool.states = h.pool.states ++ [([], false)]) (j : Nat) : h'.waiting j = h.waiting j := by
  rcases hstates with hsame | hgrown
  · rw [waiting, waiting, hsame]
  · rw [waiting, waiting, hgrown]
    rcases lt_trichotomy j h.pool.states.length with hlt | rfl | hgt
    · rw [List.getElem?_append_left hlt]
    · simp
    · rw [List.getElem?_eq_none (by simpa using hgt), List.getElem?_eq_none hgt.le]

theorem Told.moves (htold : h.Told) (hmoves : h.Moves act h') : h'.Told := by
  intro j
  have hj := htold j
  unfold acceptedOn executedOn at hj ⊢
  cases hmoves with
  | @accept i a slot before _ hslot hopen states accepted executed =>
      have hwait : h.waiting slot.queue = before := by simp [waiting, hopen]
      rw [accepted, executed, on_append, on_singleton, waiting_set hopen states, hj]
      by_cases hk : slot.queue = j
      · subst hk
        simp [hwait]
      · simp [hk]
  | @turn k a rest closed _ hfront states accepted executed =>
      have hwait : h.waiting k = a :: rest := by simp [waiting, hfront]
      rw [accepted, executed, on_append, on_singleton, waiting_set hfront states, hj]
      by_cases hk : k = j
      · subst hk
        simp [hwait]
      · simp [hk]
  | dispose states accepted executed =>
      have hwait : h'.waiting j = h.waiting j := by
        simp [waiting, states, Option.map_map, Function.comp_def]
      rw [accepted, executed, hwait, hj]
  | rest _ _ states accepted executed =>
      rw [accepted, executed, waiting_of_states states, hj]

theorem Sealed.moves {j : Nat} {actions : List α} (hsealed : h.Sealed j actions)
    (hmoves : h.Moves act h') : h'.Sealed j actions := by
  obtain ⟨hactions, rest, hj⟩ := hsealed
  unfold Sealed acceptedOn at *
  cases hmoves with
  | @accept i a slot before _ hslot hopen states accepted executed =>
      have hne : slot.queue ≠ j := by
        rintro rfl
        simp [hopen] at hj
      rw [accepted, states, on_append, on_singleton, if_neg hne, List.append_nil,
        List.getElem?_set_ne hne]
      exact ⟨hactions, rest, hj⟩
  | @turn k a left closed _ hfront states accepted executed =>
      rw [accepted, states, List.getElem?_set]
      refine ⟨hactions, ?_⟩
      by_cases hk : k = j
      · subst hk
        obtain ⟨hlt, -⟩ := List.getElem?_eq_some_iff.1 hj
        rw [hj, Option.some.injEq, Prod.mk.injEq] at hfront
        exact ⟨left, by simp [hlt, ← hfront.2]⟩
      · exact ⟨rest, by simp [hk, hj]⟩
  | dispose states accepted executed =>
      rw [accepted, states]
      exact ⟨hactions, rest, by simp [hj]⟩
  | rest _ _ states accepted executed =>
      rw [accepted]
      refine ⟨hactions, rest, ?_⟩
      rcases states with hsame | hgrown
      · rw [hsame, hj]
      · obtain ⟨hlt, -⟩ := List.getElem?_eq_some_iff.1 hj
        rw [hgrown, List.getElem?_append_left hlt, hj]

theorem OpenFrom.moves {n : Nat} (hopen : h.OpenFrom n) (hmoves : h.Moves act h')
    (hact : act.isDispose = false) : h'.OpenFrom n := by
  intro j rest closed hn hj
  cases hmoves with
  | @accept i a slot before _ hslot hbefore states accepted executed =>
      rw [states, List.getElem?_set] at hj
      split at hj
      · split at hj
        · cases hj
          rfl
        · cases hj
      · exact hopen j rest closed hn hj
  | @turn k a left closed' _ hfront states accepted executed =>
      rw [states, List.getElem?_set] at hj
      split at hj
      · next hk =>
        subst hk
        split at hj
        · cases hj
          exact hopen k _ _ hn hfront
        · cases hj
      · exact hopen j rest closed hn hj
  | dispose => cases hact
  | rest _ _ states accepted executed =>
      rcases states with hsame | hgrown
      · rw [hsame] at hj
        exact hopen j rest closed hn hj
      · rw [hgrown, List.getElem?_append] at hj
        split at hj
        · exact hopen j rest closed hn hj
        · rw [List.getElem?_singleton] at hj
          split at hj
          · cases hj
            rfl
          · cases hj

theorem length_executedOn_moves (hmoves : h.Moves act h') (j : Nat) :
    (h'.executedOn j).length = (h.executedOn j).length + if act.isTurnOf j then 1 else 0 := by
  unfold executedOn
  cases hmoves with
  | accept _ _ _ _ executed => simp [executed, Letting.isTurnOf]
  | @turn k a rest closed _ _ _ _ executed =>
      by_cases hk : k = j <;> simp [executed, Letting.isTurnOf, hk]
  | dispose _ _ executed => simp [executed, Letting.isTurnOf]
  | rest _ hturn _ _ executed => simp [executed, hturn]

end Step

/-! ## Whole runs -/

section Run

variable {h h' : Worklog α} {acts : List (Letting α)} {name : String} {ceiling : Nat}

theorem run?_cons {act : Letting α} :
    h.run? (act :: acts) = some h' ↔ ∃ h₁, h.step? act = some h₁ ∧ h₁.run? acts = some h' :=
  Option.bind_eq_some_iff

/-- What each letting of a run keeps is kept by the run. -/
theorem run?_induction {P : Worklog α → Prop}
    (hstep : ∀ act ∈ acts, ∀ h h', h.step? act = some h' → P h → P h')
    (hrun : h.run? acts = some h') (hP : P h) : P h' := by
  induction acts generalizing h with
  | nil =>
      cases hrun
      exact hP
  | cons act acts ih =>
      obtain ⟨h₁, hact, hrest⟩ := run?_cons.1 hrun
      apply ih (fun act' hact' ↦ hstep act' (List.mem_cons_of_mem act hact')) hrest
      exact hstep act List.mem_cons_self h h₁ hact hP

theorem balanced_of_run (hbalanced : h.tenancy.Balanced name ceiling) (hceiling : 0 < ceiling)
    (hrun : h.run? acts = some h') : h'.tenancy.Balanced name ceiling := by
  refine run?_induction (P := fun h ↦ h.tenancy.Balanced name ceiling) ?_ hrun hbalanced
  intro act _ h h' hact hbalanced
  obtain ⟨lettings, hlettings⟩ := exists_lettings hact
  exact hbalanced.run? hceiling hlettings

theorem keeps_of_run (hrun : h.run? acts = some h') : h.tenancy.Keeps h'.tenancy := by
  refine run?_induction (P := fun h' ↦ h.tenancy.Keeps h'.tenancy) ?_ hrun (.refl _)
  intro act _ h₁ h₂ hact hkeeps
  obtain ⟨lettings, hlettings⟩ := exists_lettings hact
  exact hkeeps.trans (.run? hlettings)

theorem Told.run? (htold : h.Told) (hrun : h.run? acts = some h') : h'.Told :=
  run?_induction (fun _ _ _ _ hact htold ↦ htold.moves (moves_of_step? hact)) hrun htold

theorem Sealed.run? {j : Nat} {actions : List α} (hsealed : h.Sealed j actions)
    (hrun : h.run? acts = some h') : h'.Sealed j actions :=
  run?_induction (fun _ _ _ _ hact hsealed ↦ hsealed.moves (moves_of_step? hact)) hrun hsealed

theorem OpenFrom.run? {n : Nat} (hopen : h.OpenFrom n) (hrun : h.run? acts = some h')
    (hacts : ∀ act ∈ acts, act.isDispose = false) : h'.OpenFrom n :=
  run?_induction (fun act hmem _ _ hact hopen ↦ hopen.moves (moves_of_step? hact) (hacts act hmem))
    hrun hopen

theorem length_executedOn_run? (hrun : h.run? acts = some h') (j : Nat) :
    (h'.executedOn j).length = (h.executedOn j).length + acts.countP (Letting.isTurnOf j) := by
  induction acts generalizing h with
  | nil =>
      cases hrun
      rfl
  | cons act acts ih =>
      obtain ⟨h₁, hact, hrest⟩ := run?_cons.1 hrun
      rw [ih hrest, length_executedOn_moves (moves_of_step? hact), List.countP_cons]
      omega

theorem told_new : (new name ceiling : Worklog α).Told := fun _ ↦ rfl

theorem Told.executedOn_eq (htold : h.Told) (j : Nat) :
    h.executedOn j = (h.acceptedOn j).take (h.executedOn j).length := by
  rw [htold j, List.take_left]

theorem Told.isSome_advance (htold : h.Told) {j : Nat}
    (hbehind : h.executedOn j ≠ h.acceptedOn j) : (h.step? (.advance j)).isSome = true := by
  have hwaiting : h.waiting j ≠ [] := by
    intro hnone
    apply hbehind
    rw [htold j, hnone, List.append_nil]
  cases hq : h.pool.queues[j]? with
  | none => simp [waiting, Pool.states, hq] at hwaiting
  | some q =>
      have hbacklog : q.backlog ≠ [] := by simpa [waiting, Pool.states, hq] using hwaiting
      simp [step?, hq, List.isSome_head?, hbacklog]

theorem nameRefusal?_of_balanced (hbalanced : h.tenancy.Balanced name ceiling)
    (hname : Queue.nameRefusal? name = none) {j : Nat} {q : Queue α}
    (hq : h.pool.queues[j]? = some q) : Queue.nameRefusal? q.name = none := by
  have hnames := congrArg (·[j]?) hbalanced.names
  obtain ⟨hj, -⟩ := List.getElem?_eq_some_iff.1 hq
  simp only [List.getElem?_map, hq, Option.map_some, List.getElem?_range hj] at hnames
  rw [Option.some.inj hnames]
  exact Queue.nameRefusal?_numbered hname j

/-- Every slot is on a queue that there is. -/
theorem queue_lt_of_balanced (hbalanced : h.tenancy.Balanced name ceiling) {i : Nat} {slot : Slot}
    (hslot : h.slot? i = some slot) : slot.queue < h.pool.queues.length := by
  apply hbalanced.slots
  exact List.mem_of_getElem? (Tenancy.slot?_eq_some.1 hslot)

theorem exists_slot_of_keeps (hkeeps : h.tenancy.Keeps h'.tenancy) {i : Nat} {slot : Slot}
    (hi : i < h.tenancy.slots.length) (hslot : h'.slot? i = some slot) :
    ∃ slot₀, h.slot? i = some slot₀ ∧ slot.queue = slot₀.queue := by
  obtain ⟨o, ho, hback⟩ := hkeeps.slots i _ (List.getElem?_eq_getElem hi)
  rw [Tenancy.slot?_eq_some.1 hslot, Option.some.injEq] at ho
  obtain ⟨slot₀, hslot₀, hqueue⟩ := hback slot ho.symm
  refine ⟨slot₀, Tenancy.slot?_eq_some.2 ?_, hqueue⟩
  exact (List.getElem?_eq_getElem hi).trans (congrArg some hslot₀)

theorem handIn_of_sealed {slot : Slot} {actions : List α} (hsealed : h.Sealed slot.queue actions)
    (a : α) : h.pool.handIn slot a = (h.pool, .ok false) := by
  obtain ⟨-, rest, hstate⟩ := hsealed
  rw [Pool.states, List.getElem?_map, Option.map_eq_some_iff] at hstate
  obtain ⟨q, hq, hq'⟩ := hstate
  exact Pool.handIn_of_disposed hq (congrArg Prod.snd hq') a

theorem handIn_of_openFrom {n : Nat} (hopen : h.OpenFrom n)
    (hbalanced : h.tenancy.Balanced name ceiling) (hname : Queue.nameRefusal? name = none)
    {i : Nat} {slot : Slot} (hslot : h.slot? i = some slot) (hn : n ≤ slot.queue) (a : α) :
    (h.pool.handIn slot a).2 = .ok true := by
  have hlt := queue_lt_of_balanced hbalanced hslot
  obtain ⟨q, hq⟩ : ∃ q, h.pool.queues[slot.queue]? = some q := ⟨_, List.getElem?_eq_getElem hlt⟩
  have hstate : h.pool.states[slot.queue]? = some (q.backlog, q.disposed) := by
    simp [Pool.states, hq]
  have hpanic : q.panic? = none := by
    simp [Queue.panic?, nameRefusal?_of_balanced hbalanced hname hq]
  rw [Pool.handIn_of_open hq (hopen _ _ _ hn hstate) hpanic]

/-- All queues that there are come to be disposed, and there are no others. -/
theorem sealed_of_dispose {h₁ : Worklog α} (hdispose : h.step? .dispose = some h₁) :
    (∀ j < h.pool.queues.length, h₁.Sealed j (h.acceptedOn j)) ∧
      h₁.OpenFrom h.pool.queues.length := by
  have hlength : h.pool.states.length = h.pool.queues.length := List.length_map ..
  cases moves_of_step? hdispose with
  | rest hact => cases hact
  | dispose states accepted executed =>
      constructor
      · intro j hj
        refine ⟨congrArg (on j) accepted, h.pool.queues[j].backlog, ?_⟩
        rw [states, Pool.states, List.getElem?_map, List.getElem?_map, List.getElem?_eq_getElem hj]
        rfl
      · intro j rest closed hj hstate
        obtain ⟨hlt, -⟩ := List.getElem?_eq_some_iff.1 hstate
        rw [states, List.length_map, hlength] at hlt
        omega

/-- The next slot is on a queue that has room if there is one. -/
theorem queue_acquire (hbalanced : h.tenancy.Balanced name ceiling) :
    ((∃ q ∈ h.pool.queues, q.load < ceiling) ∧
        h.pool.acquire.2.queue < h.pool.queues.length) ∨
      ((∀ q ∈ h.pool.queues, ceiling ≤ q.load) ∧
        h.pool.acquire.2.queue = h.pool.queues.length) := by
  have hlimit := hbalanced.limit
  rcases h.pool.acquire_cases with ⟨i, q, hleast, hless, hacquire⟩ | ⟨hfull, hacquire⟩
  · left
    rw [hacquire]
    obtain ⟨hi, -⟩ := List.getElem?_eq_some_iff.1 hleast.here
    exact ⟨⟨q, List.mem_of_getElem? hleast.here, hlimit ▸ hless⟩, hi⟩
  · right
    rw [hacquire]
    exact ⟨hlimit ▸ hfull, rfl⟩

/-- What is known of a pool, its slots and its queues at any time after it was disposed. -/
structure Final (name : String) (ceiling : Nat) (h : Worklog α) (later : List (Letting α))
    (h' : Worklog α) : Prop where
  /-- The slots that there were then are on queues that there were. -/
  early : ∀ i < h.tenancy.slots.length, ∀ slot, h'.slot? i = some slot →
    slot.queue < h.pool.queues.length
  /-- Through a slot on such a queue, whenever it was taken, nothing can be handed in. -/
  refuses : ∀ i slot, h'.slot? i = some slot → slot.queue < h.pool.queues.length →
    ∀ a, h'.pool.handIn slot a = (h'.pool, .ok false)
  accepted : ∀ j < h.pool.queues.length, h'.acceptedOn j = h.acceptedOn j
  /-- With each turn of its worker a queue executes the next action that it has accepted. -/
  executed : ∀ j, h'.executedOn j = (h'.acceptedOn j).take
    ((h.executedOn j).length + later.countP (Letting.isTurnOf j))
  busy : ∀ j, h'.executedOn j ≠ h'.acceptedOn j → (h'.step? (.advance j)).isSome = true
  /-- The next slot is on a queue that there is, unless they are all full. -/
  next : ((∃ q ∈ h'.pool.queues, q.load < ceiling) ∧
      h'.pool.acquire.2.queue < h'.pool.queues.length) ∨
    ((∀ q ∈ h'.pool.queues, ceiling ≤ q.load) ∧
      h'.pool.acquire.2.queue = h'.pool.queues.length)
  /-- A queue that came later takes actions as long as the pool is not disposed again, unless no
  worker can be started under the name of the pool. -/
  takes : (∀ act ∈ later, act.isDispose = false) → Queue.nameRefusal? name = none →
    ∀ i slot, h'.slot? i = some slot → h.pool.queues.length ≤ slot.queue →
      ∀ a, (h'.pool.handIn slot a).2 = .ok true

/-- After a pool was disposed in whatever condition, the queues that it had take nothing any more
from old slots or new ones, and execute all that they accepted before.  Only a queue by which the
pool grows later, when every other is full, takes actions. -/
theorem disposed_for_good {before later : List (Letting α)}
    (hbefore : (new name ceiling).run? before = some h)
    (hlater : h.run? (.dispose :: later) = some h') : h.Final name (max ceiling 1) later h' := by
  have hpositive : 0 < max ceiling 1 := Nat.lt_of_lt_of_le Nat.zero_lt_one (le_max_right _ _)
  have hbalanced := balanced_of_run (.new name ceiling) hpositive hbefore
  have hbalanced' := balanced_of_run hbalanced hpositive hlater
  have htold : h'.Told := (told_new.run? hbefore).run? hlater
  obtain ⟨h₁, hdispose, hrest⟩ := run?_cons.1 hlater
  obtain ⟨hsealed, hopen⟩ := sealed_of_dispose hdispose
  refine ⟨?_, ?_, ?_, ?_, ?_, ?_, ?_⟩
  · intro i hi slot hslot
    obtain ⟨slot₀, hslot₀, hqueue⟩ := exists_slot_of_keeps (keeps_of_run hlater) hi hslot
    rw [hqueue]
    exact queue_lt_of_balanced hbalanced hslot₀
  · intro i slot hslot hold
    apply handIn_of_sealed
    exact (hsealed slot.queue hold).run? hrest
  · intro j hj
    exact ((hsealed j hj).run? hrest).1
  · intro j
    rw [htold.executedOn_eq j, length_executedOn_run? hlater]
    rfl
  · intro j
    exact htold.isSome_advance
  · exact queue_acquire hbalanced'
  · intro hlast hname i slot
    apply handIn_of_openFrom (hopen.run? hrest hlast) hbalanced' hname

end Run

end Worklog

namespace Specimen

/-- The only slot of a pool has handed in two actions, and one of them was executed. -/
def occupied : List (Letting Nat) := [.acquire, .enqueue 0 5, .enqueue 0 6, .advance 0]

/-- The slot is of no use any more, and is given back.  The next one is on the same queue, and the
one after it on a new queue. -/
def regrown : List (Letting Nat) :=
  [.enqueue 0 7, .release 0, .acquire, .enqueue 1 8, .acquire, .enqueue 2 9, .advance 0, .advance 1]

end Specimen

/-- What was accepted before is executed, and of the rest only what the new queue took. -/
theorem Worklog.disposed_for_good_regrown :
    ∃ h h' : Worklog Nat, (Worklog.new "pool" 1).run? Specimen.occupied = some h ∧
      h.run? (.dispose :: Specimen.regrown) = some h' ∧ h.executed = [(0, 5)] ∧
        h'.executed = [(0, 5), (0, 6), (1, 9)] ∧ h.Final "pool" 1 Specimen.regrown h' := by
  have hsome : (((Worklog.new "pool" 1).run? Specimen.occupied).bind
      (·.run? (.dispose :: Specimen.regrown))).isSome = true := by decide +kernel
  have hbefore : ((Worklog.new "pool" 1).run? Specimen.occupied).map (·.executed) =
      some [(0, 5)] := by decide +kernel
  have hafter : (((Worklog.new "pool" 1).run? Specimen.occupied).bind
      (·.run? (.dispose :: Specimen.regrown))).map (·.executed) =
        some [(0, 5), (0, 6), (1, 9)] := by decide +kernel
  obtain ⟨h, hrun, hexecuted⟩ := Option.map_eq_some_iff.1 hbefore
  rw [hrun, Option.bind_some] at hsome hafter
  obtain ⟨h', hrun', hexecuted'⟩ := Option.map_eq_some_iff.1 hafter
  exact ⟨h, h', hrun, hrun', hexecuted, hexecuted', disposed_for_good hrun hrun'⟩

/-- The only queue of a pool is full when the pool is disposed; the next slot is on a new one. -/
def Specimen.outgrown : List (Letting Nat) := [.acquire, .dispose, .acquire]

/-- The slot that was taken from the disposed pool takes an action, and the action is executed. -/
theorem Worklog.disposed_pool_takes_action :
    ∃ (h : Worklog Nat) (slot : Slot), (Worklog.new "pool" 1).run? Specimen.outgrown = some h ∧
      h.slot? 1 = some slot ∧ (h.pool.handIn slot 7).2 = .ok true ∧
        (h.run? [.enqueue 1 7, .advance 1]).map (·.executed) = some [(1, 7)] := by
  have hslot : ((Worklog.new "pool" 1).run? Specimen.outgrown).map (·.slot? 1) =
      some (some ⟨1, false⟩) := by decide +kernel
  have htaken : ((Worklog.new "pool" 1).run? Specimen.outgrown).map
      (fun h ↦ (h.pool.handIn ⟨1, false⟩ 7).2) = some (.ok true) := by cbv
  have hexecuted : ((Worklog.new "pool" 1).run? Specimen.outgrown).map
      (fun h ↦ (h.run? [.enqueue 1 7, .advance 1]).map (·.executed)) =
        some (some [(1, 7)]) := by decide +kernel
  obtain ⟨h, hrun, hslot⟩ := Option.map_eq_some_iff.1 hslot
  rw [hrun, Option.map_some, Option.some.injEq] at htaken hexecuted
  exact ⟨h, ⟨1, false⟩, hrun, hslot, htaken, hexecuted⟩

end MessageEngine
