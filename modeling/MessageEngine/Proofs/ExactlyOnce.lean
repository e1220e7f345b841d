import Mathlib
import MessageEngine.Proofs.JobHistory

/-!
# Every job is executed once

Callers hand in jobs, workers take steps, queues are disposed and holds
cleared, in any order.  Beside one queue a history is kept of the jobs that
it accepted, those that were executed, and the workers that were started.
-/

namespace MessageEngine

/-- A node and the history of one of its queues. -/
structure History where
  node : Node
  accepted : List Job := []
  executed : List Job := []
  workers : Nat := 0

namespace History

def turn? (r : QueueRef) (h : History) (turn : Turn) : Option History :=
  (h.node.turn? turn).map fun s' ↦
    { node := s'
      accepted := h.accepted ++ Node.accepts r h.node s' turn
      executed := h.executed ++ Node.finishes r h.node turn
      workers := h.workers + Node.starts r h.node s' turn }

def run? (r : QueueRef) (h : History) (turns : List Turn) : Option History :=
  turns.foldlM (turn? r) h

end History

/-! ## The queue beside its history -/

namespace Queue

/-- The queue agrees with its history. -/
structure Tallied (q : Queue Job) (accepted executed : List Job) (workers : Nat) : Prop where
  name : nameRefusal? q.name = none
  fifo : executed ++ q.backlog.map Job.origin = accepted.map Job.origin
  processed : q.processed = executed.length
  workers : workers = if accepted = [] then 0 else 1
  started : q.started = true ↔ accepted ≠ [] ∧ q.disposed = false

namespace Tallied

variable {q q' : Queue Job} {accepted executed jobs : List Job} {workers : Nat}

theorem sound (h : q.Tallied accepted executed workers) : q.Sound := by
  intro hdisposed
  rw [Bool.eq_false_iff]
  intro hstarted
  rw [(h.started.1 hstarted).2] at hdisposed
  exact Bool.false_ne_true hdisposed

/-- The first job that is accepted starts the worker, and no other does. -/
theorem grows (h : q.Tallied accepted executed workers) (hq : q.Grows jobs q') :
    q'.Tallied (accepted ++ jobs) executed
      (workers + if q.started = false ∧ jobs ≠ [] then 1 else 0) where
  name := hq.name ▸ h.name
  fifo := by rw [hq.backlog, List.map_append, List.map_append, ← h.fifo, List.append_assoc]
  processed := hq.processed.trans h.processed
  workers := by
    have hworkers := h.workers
    have hstarted := h.started
    have hclosed := hq.closed
    by_cases hjobs : jobs = []
    · simp [hjobs, hworkers]
    · have hopen : q.disposed = false := by
        cases hdisposed : q.disposed with
        | false => rfl
        | true => exact absurd (hclosed hdisposed).1 hjobs
      by_cases haccepted : accepted = []
      · simp_all
      · simp_all
  started := by
    have hstarted := h.started
    have hclosed := hq.closed
    rw [hq.started]
    by_cases hjobs : jobs = []
    · cases hdisposed : q.disposed <;> cases hdisposed' : q'.disposed <;> simp_all
    · cases hdisposed : q.disposed <;> cases hdisposed' : q'.disposed <;> simp_all

theorem advance (h : q.Tallied accepted executed workers) {j : Job} {rest : List Job}
    (hhead : q.backlog = j :: rest) :
    q.advance.Tallied accepted (executed ++ [j.origin]) workers where
  name := h.name
  fifo := by
    have hfifo := h.fifo
    simp_all [Queue.advance]
  processed := by simp [Queue.advance, h.processed]
  workers := h.workers
  started := h.started

theorem resume (h : q.Tallied accepted executed workers) {j left : Job} {rest : List Job}
    (hhead : q.backlog = j :: rest) (hleft : left.origin = j.origin) :
    (q.resume left).Tallied accepted executed workers where
  name := h.name
  fifo := by
    have hfifo := h.fifo
    simp_all [Queue.resume]
  processed := h.processed
  workers := h.workers
  started := h.started

theorem dispose (h : q.Tallied accepted executed workers) :
    q.dispose.Tallied accepted executed workers where
  name := h.name
  fifo := h.fifo
  processed := h.processed
  workers := h.workers
  started := by simp [Queue.dispose]

end Tallied

end Queue

theorem Node.map_origin_clearFirst (jobs : List Job) :
    (clearFirst jobs).map Job.origin = jobs.map Job.origin := by
  fun_induction clearFirst jobs with
  | case1 => rfl
  | case2 rest => rfl
  | case3 j rest hheld ih => simp [ih]

theorem Queue.Tallied.clear {q : Queue Job} {accepted executed : List Job} {workers : Nat}
    (h : q.Tallied accepted executed workers) :
    ({ q with backlog := Node.clearFirst q.backlog } : Queue Job).Tallied accepted executed
      workers where
  name := h.name
  fifo := by
    rw [Node.map_origin_clearFirst]
    exact h.fifo
  processed := h.processed
  workers := h.workers
  started := h.started

namespace History

open Node

variable {r : QueueRef} {h h' : History}

/-- The queue is there and agrees with its history. -/
structure Faithful (r : QueueRef) (h : History) : Prop where
  panic : h.node.panic = none
  queue : ∃ q, h.node.queue? r = some q ∧ q.Tallied h.accepted h.executed h.workers

theorem turn?_eq_some {turn : Turn} : h.turn? r turn = some h' ↔
    ∃ s', h.node.turn? turn = some s' ∧ h' =
      { node := s'
        accepted := h.accepted ++ accepts r h.node s' turn
        executed := h.executed ++ finishes r h.node turn
        workers := h.workers + starts r h.node s' turn } := by
  rw [turn?, Option.map_eq_some_iff]
  simp only [eq_comm]

theorem Faithful.work (hfaith : h.Faithful r) {q : Queue Job} {j : Job} {rest : List Job}
    (hq : h.node.queue? r = some q) (hhead : q.backlog = j :: rest) (hfree : j ≠ .hold false) :
    ∃ h' q' more, h.turn? r (.act (.work r)) = some h' ∧ h'.Faithful r ∧
      h'.node.queue? r = some q' ∧ (Job.hold false ∈ more → False) ∧
      if h.node.remaining j = [] then
        h'.executed = h.executed ++ [j.origin] ∧ q'.backlog = rest ++ more
      else
        h'.executed = h.executed ∧
          q'.backlog = .handle j.subject (h.node.remaining j) :: rest ++ more := by
  obtain ⟨q₀, hq₀, htally⟩ := hfaith.queue
  cases hq.symm.trans hq₀
  obtain ⟨s', q₁, hwork, hgrows, hq'⟩ :=
    work?_eq hfaith.panic hq htally.sound htally.name hhead hfree
  have hgrown := htally.grows hgrows
  have hhead₁ : q₁.backlog = j :: (rest ++ accepts r h.node s' (.act (.work r))) := by
    rw [hgrows.backlog, hhead, List.cons_append]
  have hopen : Job.hold false ∈ accepts r h.node s' (.act (.work r)) → False := by
    rw [accepts, handedIn, next?_of_queue? hq hhead, hq]
    dsimp only
    rw [resets]
    split <;> [skip; split] <;> simp
  have hstarts : starts r h.node s' (.act (.work r)) =
      if q.started = false ∧ accepts r h.node s' (.act (.work r)) ≠ [] then 1 else 0 := by
    rw [starts, hq]
  refine ⟨_, _, _, turn?_eq_some.2 ⟨s', hwork, rfl⟩, ⟨?_, _, hq', ?_⟩, hq', hopen, ?_⟩
  · exact panic_work? hfaith.panic hwork
  · dsimp only
    rw [hstarts, finishes_work hq hhead]
    -- A job with messages left is still the job that was accepted, as it has the same origin.
    split
    · exact hgrown.advance hhead₁
    · next hleft =>
      rw [List.append_nil]
      exact hgrown.resume hhead₁ (origin_of_remaining hleft _)
  · rw [finishes_work hq hhead]
    split
    · simp [Queue.advance, hhead₁]
    · simp [Queue.resume, hhead₁]

theorem Faithful.turn? {turn : Turn} (hfaith : h.Faithful r) (hturn : h.turn? r turn = some h') :
    h'.Faithful r := by
  obtain ⟨s', hs', rfl⟩ := turn?_eq_some.1 hturn
  obtain ⟨q, hq, htally⟩ := hfaith.queue
  have hpanic := panic_turn? hfaith.panic hs'
  by_cases hwithin : Turn.Within r turn
  · rcases hwithin with rfl | rfl | rfl
    · obtain ⟨q₀, j, rest, hq₀, hhead, -⟩ := work?_eq_some hs'
      cases hq.symm.trans hq₀
      have hfree : j ≠ .hold false := by
        rintro rfl
        have hnone : h.node.work? r = none := by
          rw [work?, hq]
          dsimp only
          rw [hhead]
        cases hnone.symm.trans hs'
      obtain ⟨h', q', more, hturn', hfaith', -⟩ := hfaith.work hq hhead hfree
      cases hturn'.symm.trans hturn
      exact hfaith'
    · cases hs'
      refine ⟨hpanic, q.dispose, by rw [queue?_modifyQueue_self, hq]; rfl, ?_⟩
      simpa [accepts, starts, finishes, finished, standing, handedIn, hq] using htally.dispose
    · cases hs'
      refine ⟨hpanic, _, by rw [clearHolds, queue?_modifyQueue_self, hq]; rfl, ?_⟩
      simpa [accepts, starts, finishes, finished, standing, handedIn, hq] using htally.clear
  · obtain ⟨hnone, q', hq', hgrows⟩ :=
      grows_of_turn? hfaith.panic hs' hwithin hq htally.sound htally.name
    refine ⟨hpanic, q', hq', ?_⟩
    dsimp only
    rw [hnone, List.append_nil, starts, hq]
    exact htally.grows hgrows

theorem run?_cons {turn : Turn} {turns : List Turn} :
    h.run? r (turn :: turns) = some h' ↔
      ∃ h₁, h.turn? r turn = some h₁ ∧ h₁.run? r turns = some h' := foldlM_cons_eq_some

theorem Faithful.run? {turns : List Turn} (hfaith : h.Faithful r)
    (hrun : h.run? r turns = some h') : h'.Faithful r :=
  foldlM_induction hfaith hrun fun _ _ _ hfaith hturn ↦ hfaith.turn? hturn

/-! ## What a run gets done -/

/-- The jobs of a queue that were executed are those that the workers got done at it, and the marks
in the log are those of all jobs that they got done. -/
theorem run?_finishedIn {turns : List Turn} (hrun : h.run? r turns = some h') :
    h'.executed = h.executed ++ standing r (h.node.finishedIn turns) ∧
      h'.node.marks = h.node.marks ++ (h.node.finishedIn turns).filterMap (·.2.mark?) := by
  induction turns generalizing h with
  | nil =>
      cases hrun
      exact ⟨(List.append_nil _).symm, (List.append_nil _).symm⟩
  | cons turn turns ih =>
      obtain ⟨h₁, hturn, hrest⟩ := run?_cons.1 hrun
      obtain ⟨s', hs', rfl⟩ := turn?_eq_some.1 hturn
      obtain ⟨hexecuted, hmarks⟩ := ih hrest
      rw [hexecuted, hmarks, marks_turn? hs', finishedIn, hs']
      refine ⟨?_, ?_⟩
      · rw [finishes, standing, standing, standing, List.filterMap_append, List.append_assoc]
      · rw [List.filterMap_append, List.append_assoc]

/-! ## Behind a disposal -/

/-- The queue has been disposed. -/
def Closed (r : QueueRef) (h : History) : Prop :=
  ∃ q, h.node.queue? r = some q ∧ q.disposed = true

theorem Closed.accepts (hclosed : h.Closed r) (s' : Node) (turn : Turn) :
    Node.accepts r h.node s' turn = [] := by
  obtain ⟨q, hq, hdisposed⟩ := hclosed
  rw [Node.accepts, hq]
  simp [hdisposed]

theorem Closed.turn? {turn : Turn} (hfaith : h.Faithful r) (hclosed : h.Closed r)
    (hturn : h.turn? r turn = some h') :
    h'.Closed r ∧ h'.accepted = h.accepted ∧ h'.workers = h.workers := by
  obtain ⟨s', hs', rfl⟩ := turn?_eq_some.1 hturn
  have hnone := hclosed.accepts s' turn
  obtain ⟨q, hq, hdisposed⟩ := hclosed
  refine ⟨?_, by simp [hnone], by simp [starts, hq, hnone]⟩
  obtain ⟨q₀, hq₀, htally⟩ := hfaith.queue
  cases hq.symm.trans hq₀
  by_cases hwithin : Turn.Within r turn
  · rcases hwithin with rfl | rfl | rfl
    · obtain ⟨q₀, j, rest, hq₀, hhead, rfl⟩ := work?_eq_some hs'
      cases hq.symm.trans hq₀
      obtain ⟨q₁, hq₁, hgrows⟩ :=
        grows_of_passes (.effect hfaith.panic j) hq htally.sound htally.name
      obtain ⟨q', hq', -, -, hdisposed'⟩ := queue?_proceed hq₁ j.subject (h.node.remaining j)
      exact ⟨q', by rw [execute_eq]; exact hq', hdisposed'.trans (hgrows.closed hdisposed).2⟩
    · cases hs'
      exact ⟨q.dispose, by rw [queue?_modifyQueue_self, hq]; rfl, rfl⟩
    · cases hs'
      exact ⟨{ q with backlog := clearFirst q.backlog },
        by rw [clearHolds, queue?_modifyQueue_self, hq]; rfl, hdisposed⟩
  · obtain ⟨-, q', hq', hgrows⟩ :=
      grows_of_turn? hfaith.panic hs' hwithin hq htally.sound htally.name
    exact ⟨q', hq', (hgrows.closed hdisposed).2⟩

theorem Closed.run? {turns : List Turn} (hfaith : h.Faithful r) (hclosed : h.Closed r)
    (hrun : h.run? r turns = some h') :
    h'.Closed r ∧ h'.accepted = h.accepted ∧ h'.workers = h.workers := by
  have hstep : ∀ turn (h₁ h₂ : History),
      (h₁.Faithful r ∧ h₁.Closed r ∧ h₁.accepted = h.accepted ∧ h₁.workers = h.workers) →
      h₁.turn? r turn = some h₂ →
      h₂.Faithful r ∧ h₂.Closed r ∧ h₂.accepted = h.accepted ∧ h₂.workers = h.workers := by
    rintro turn h₁ h₂ ⟨hfaith₁, hclosed₁, haccepted, hworkers⟩ hturn
    obtain ⟨hclosed₂, haccepted', hworkers'⟩ := hclosed₁.turn? hfaith₁ hturn
    exact ⟨hfaith₁.turn? hturn, hclosed₂, haccepted'.trans haccepted, hworkers'.trans hworkers⟩
  exact (foldlM_induction ⟨hfaith, hclosed, rfl, rfl⟩ hrun hstep).2

/-! ## The worker gets through all that was accepted -/

/-- The worker takes steps until it is done with some jobs. -/
def Works (r : QueueRef) (h h' : History) : Prop :=
  ∃ n, h.run? r (List.replicate n (.act (.work r))) = some h'

theorem Works.refl (r : QueueRef) (h : History) : Works r h h := ⟨0, rfl⟩

theorem Works.step {h₁ : History} (hturn : h.turn? r (.act (.work r)) = some h₁)
    (hworks : Works r h₁ h') : Works r h h' := by
  obtain ⟨n, hrun⟩ := hworks
  refine ⟨n + 1, ?_⟩
  rw [List.replicate_succ]
  exact run?_cons.2 ⟨h₁, hturn, hrun⟩

theorem Works.trans {h'' : History} (hworks : Works r h h') (hworks' : Works r h' h'') :
    Works r h h'' := by
  obtain ⟨n, hrun⟩ := hworks
  induction n generalizing h with
  | zero =>
      cases hrun
      exact hworks'
  | succ n ih =>
      rw [List.replicate_succ] at hrun
      obtain ⟨h₁, hturn, hrest⟩ := run?_cons.1 hrun
      exact .step hturn (ih hrest)

/-- The worker is done with the job at the head in the end, with only what is handed in meanwhile
behind the others. -/
def Finishes (r : QueueRef) (h : History) (j : Job) (rest : List Job) : Prop :=
  ∃ h' q' more, Works r h h' ∧ h'.Faithful r ∧ h'.node.queue? r = some q' ∧
    Job.hold false ∉ more ∧ h'.executed = h.executed ++ [j.origin] ∧ q'.backlog = rest ++ more

theorem Faithful.finishes_handle {e : EndpointRef} {messages : List Message} {rest : List Job}
    {q : Queue Job} (hfaith : h.Faithful r) (hq : h.node.queue? r = some q)
    (hhead : q.backlog = .handle e messages :: rest) :
    Finishes r h (.handle e messages) rest := by
  -- Each step takes a message away.  The queue may get a reset from it, so `rest` is not kept.
  induction messages generalizing h q rest with
  | nil =>
      obtain ⟨h₁, q₁, more, hturn, hfaith₁, hq₁, hmore, hstep⟩ :=
        hfaith.work hq hhead Job.noConfusion
      rw [remaining, if_pos rfl] at hstep
      exact ⟨h₁, q₁, more, .step hturn (.refl r h₁), hfaith₁, hq₁, hmore, hstep⟩
  | cons m ms ih =>
      obtain ⟨h₁, q₁, more, hturn, hfaith₁, hq₁, hmore, hstep⟩ :=
        hfaith.work hq hhead Job.noConfusion
      split at hstep
      · exact ⟨h₁, q₁, more, .step hturn (.refl r h₁), hfaith₁, hq₁, hmore, hstep⟩
      · next hleft =>
        have hms : h.node.remaining (.handle e (m :: ms)) = ms := by
          rw [remaining] at hleft ⊢
          split at hleft
          · next hgoes => rw [if_pos hgoes]
          · exact absurd rfl hleft
        obtain ⟨hexecuted, hbacklog⟩ := hstep
        rw [hms, List.cons_append] at hbacklog
        obtain ⟨h', q', more', hworks, hfaith', hq', hmore', hexecuted', hbacklog'⟩ :=
          ih hfaith₁ hq₁ hbacklog
        refine ⟨h', q', more ++ more', .step hturn hworks, hfaith', hq', ?_, ?_, ?_⟩
        · rw [List.mem_append]
          exact fun h ↦ h.elim hmore hmore'
        · rw [hexecuted', hexecuted]
          rfl
        · rw [hbacklog', List.append_assoc]

theorem Faithful.finishes {j : Job} {rest : List Job} {q : Queue Job} (hfaith : h.Faithful r)
    (hq : h.node.queue? r = some q) (hhead : q.backlog = j :: rest) (hfree : j ≠ .hold false) :
    Finishes r h j rest := by
  obtain ⟨h₁, q₁, more, hturn, hfaith₁, hq₁, hmore, hstep⟩ := hfaith.work hq hhead hfree
  split at hstep
  · exact ⟨h₁, q₁, more, .step hturn (.refl r h₁), hfaith₁, hq₁, hmore, hstep⟩
  · next hleft =>
    obtain ⟨hexecuted, hbacklog⟩ := hstep
    rw [List.cons_append] at hbacklog
    obtain ⟨h', q', more', hworks, hfaith', hq', hmore', hexecuted', hbacklog'⟩ :=
      hfaith₁.finishes_handle hq₁ hbacklog
    refine ⟨h', q', more ++ more', .step hturn hworks, hfaith', hq', ?_, ?_, ?_⟩
    · rw [List.mem_append]
      exact fun h ↦ h.elim hmore hmore'
    · rw [hexecuted', hexecuted, origin_of_remaining hleft]
    · rw [hbacklog', List.append_assoc]

/-- If no job is held, the worker gets through all that the queue has accepted. -/
theorem Faithful.drains {q : Queue Job} (hfaith : h.Faithful r) (hq : h.node.queue? r = some q)
    (hfree : Job.hold false ∉ q.backlog) :
    ∃ h', Works r h h' ∧ h.accepted.map Job.origin <+: h'.executed := by
  -- The backlog can grow on the way, so the induction is on the jobs that wait at first alone.
  suffices hall : ∀ (jobs later : List Job) (h : History) (q : Queue Job), h.Faithful r →
      h.node.queue? r = some q → q.backlog = jobs ++ later → Job.hold false ∉ jobs →
      ∃ h', Works r h h' ∧ h.executed ++ jobs.map Job.origin <+: h'.executed by
    obtain ⟨q₀, hq₀, htally⟩ := hfaith.queue
    cases hq.symm.trans hq₀
    rw [← htally.fifo]
    exact hall q.backlog [] h q hfaith hq (List.append_nil _).symm hfree
  intro jobs
  induction jobs with
  | nil =>
      intro later h q _ _ _ _
      exact ⟨h, .refl r h, by simp⟩
  | cons j jobs ih =>
      intro later h q hfaith hq hbacklog hfree
      rw [List.mem_cons, not_or] at hfree
      rw [List.cons_append] at hbacklog
      obtain ⟨h₁, q₁, more, hworks, hfaith₁, hq₁, -, hexecuted, hbacklog₁⟩ :=
        hfaith.finishes hq hbacklog fun hj ↦ hfree.1 hj.symm
      rw [List.append_assoc] at hbacklog₁
      obtain ⟨h', hworks', hprefix⟩ := ih (later ++ more) h₁ q₁ hfaith₁ hq₁ hbacklog₁ hfree.2
      refine ⟨h', hworks.trans hworks', ?_⟩
      rw [hexecuted, List.append_assoc] at hprefix
      exact hprefix

/-! ## What is kept of a queue -/

/-- What is known of a queue and its history at any time. -/
structure ExactlyOnce (r : QueueRef) (h : History) (q : Queue Job) : Prop where
  queue : h.node.queue? r = some q
  /-- The jobs were executed in the order in which they were accepted, each once, and those that
  wait are the others. -/
  order : h.executed ++ q.backlog.map Job.origin = h.accepted.map Job.origin
  processed : q.processed = h.executed.length
  workers : h.workers = if h.accepted = [] then 0 else 1
  answers : ∀ j, (h.node.enqueue r j).2 = !q.disposed
  taken : ∀ j h', h.turn? r (.enqueue r j) = some h' →
    h'.accepted = h.accepted ++ if q.disposed then [] else [j]
  refused : q.disposed = true → ∀ j, h.node.enqueue r j = (h.node, false)
  idempotent : q.disposed = true → h.node.modifyQueue r Queue.dispose = h.node
  /-- A worker does not wait with a job in front of it, whatever came of those before. -/
  busy : ∀ j rest, q.backlog = j :: rest → j ≠ .hold false → (h.node.work? r).isSome = true
  /-- If no job is held, the worker alone gets through all that was accepted. -/
  drains : Job.hold false ∉ q.backlog →
    ∃ h', Works r h h' ∧ h.accepted.map Job.origin <+: h'.executed
  /-- Behind a disposal only what was accepted before is executed, and no worker is started. -/
  closed : q.disposed = true → ∀ turns h', h.run? r turns = some h' →
    h'.accepted = h.accepted ∧ h'.workers = h.workers ∧
      h'.executed <+: h.accepted.map Job.origin ∧
        ∃ q', h'.node.queue? r = some q' ∧ q'.disposed = true

theorem Faithful.exactlyOnce (hfaith : h.Faithful r) : ∃ q, h.ExactlyOnce r q := by
  obtain ⟨q, hq, htally⟩ := hfaith.queue
  have hpanic := Queue.panic?_eq_none htally.name
  have henqueue := fun j ↦ enqueue_of_queue? hq hpanic j
  have hrefused : q.disposed = true → ∀ j, h.node.enqueue r j = (h.node, false) := by
    intro hdisposed j
    have hsame : q.enqueue j = (q, false) := by rw [Queue.enqueue, if_pos hdisposed]
    rw [henqueue j, hsame, modifyQueue_of_queue? hq rfl]
  refine ⟨q, hq, htally.fifo, htally.processed, htally.workers, ?_, ?_, hrefused, ?_, ?_,
    hfaith.drains hq, ?_⟩
  · intro j
    rw [henqueue j, Queue.enqueue]
    split
    · next hdisposed => rw [hdisposed]; rfl
    · next hopen => rw [Bool.eq_false_iff.2 hopen]; rfl
  · intro j h' hturn
    obtain ⟨s', -, rfl⟩ := turn?_eq_some.1 hturn
    simp [accepts, handedIn, hq]
  · intro hdisposed
    refine modifyQueue_of_queue? hq ?_
    have hstopped := htally.sound hdisposed
    obtain ⟨name, backlog, started, disposed, processed, load⟩ := q
    simp_all [Queue.dispose]
  · intro j rest hhead hfree
    obtain ⟨s', -, hwork, -⟩ := work?_eq hfaith.panic hq htally.sound htally.name hhead hfree
    rw [hwork]
    rfl
  · intro hdisposed turns h' hrun
    obtain ⟨hclosed, haccepted, hworkers⟩ := Closed.run? hfaith ⟨q, hq, hdisposed⟩ hrun
    obtain ⟨q', -, htally'⟩ := (hfaith.run? hrun).queue
    refine ⟨haccepted, hworkers, ?_, hclosed⟩
    rw [← haccepted, ← htally'.fifo]
    exact List.prefix_append _ _

/-- Whatever happens to a node, and in whatever order, a queue that is new in it takes jobs until it
is disposed, and one worker executes what it took in order and once, whether jobs panic or not.  No
turn executes more than one job, and what is new among the marks in the log are the marks of the
jobs that were executed, at this queue and the others, in order. -/
theorem exactly_once {s : Node} {q : Queue Job} {turns : List Turn} (hpanic : s.panic = none)
    (hq : s.queue? r = some q) (hnew : q = { name := q.name, load := q.load })
    (hname : Queue.nameRefusal? q.name = none)
    (hrun : History.run? r { node := s } turns = some h) :
    ∃ q', h.ExactlyOnce r q' ∧ q'.processed ≤ turns.length ∧
      h.executed = standing r (s.finishedIn turns) ∧
      h.node.marks = s.marks ++ (s.finishedIn turns).filterMap (·.2.mark?) := by
  have hbegin : History.Faithful r { node := s } := by
    refine ⟨hpanic, q, hq, hname, ?_, ?_, rfl, ?_⟩ <;> rw [hnew]
    · rfl
    · rfl
    · simp
  obtain ⟨hexecuted, hmarks⟩ := run?_finishedIn hrun
  obtain ⟨q', honce⟩ := (hbegin.run? hrun).exactlyOnce
  refine ⟨q', honce, ?_, hexecuted, hmarks⟩
  rw [honce.processed, hexecuted]
  exact (List.length_filterMap_le _ _).trans (length_finishedIn s turns)

end History

namespace Specimen

/-- A connected endpoint with a queue of its own. -/
def workshop : Node where
  endpoints := [{
    type := ⟨.tcpConnection, ""⟩, state := .connected, handle := some (.dedicated 0) }]
  queues := [{ name := "peer" }]

/-- The second job panics, the third is held for a while, and the endpoint is disconnected behind
the parse of what it received.  What is handed in after that is refused. -/
def shift : List Turn :=
  [.enqueue (.dedicated 0) (.mark "a" false), .enqueue (.dedicated 0) (.mark "b" true),
    .act (.work (.dedicated 0)), .enqueue (.dedicated 0) (.hold false),
    .act (.receive 0 [0, 0]), .act (.work (.dedicated 0)), .act (.disconnect 0 .requested),
    .enqueue (.dedicated 0) (.mark "c" false), .clear (.dedicated 0),
    .act (.work (.dedicated 0)), .act (.work (.dedicated 0))]

end Specimen

/-- The reset is still to be done, and nothing comes behind it. -/
theorem History.exactly_once_shift :
    ∃ h q, History.run? (.dedicated 0) { node := Specimen.workshop } Specimen.shift = some h ∧
      h.accepted = [.mark "a" false, .mark "b" true, .hold false, .parse 0, .reset 0] ∧
      h.executed = [.mark "a" false, .mark "b" true, .hold true, .parse 0] ∧
      h.node.marks = ["a", "b"] ∧ h.workers = 1 ∧ q.processed = 4 ∧
      h.ExactlyOnce (.dedicated 0) q := by
  have hsome : ((History.run? (.dedicated 0) { node := Specimen.workshop }
      Specimen.shift)).isSome = true := by decide +kernel
  obtain ⟨h, hrun⟩ := Option.isSome_iff_exists.1 hsome
  have haccepted : (History.run? (.dedicated 0) { node := Specimen.workshop }
      Specimen.shift).map (·.accepted) =
        some [.mark "a" false, .mark "b" true, .hold false, .parse 0, .reset 0] := by
    decide +kernel
  have hexecuted : (History.run? (.dedicated 0) { node := Specimen.workshop }
      Specimen.shift).map (·.executed) =
        some [.mark "a" false, .mark "b" true, .hold true, .parse 0] := by
    decide +kernel
  have hdone : (Specimen.workshop.finishedIn Specimen.shift).filterMap (·.2.mark?) = ["a", "b"] := by
    decide +kernel
  rw [hrun, Option.map_some, Option.some.injEq] at haccepted hexecuted
  obtain ⟨q, honce, -, -, hmarks⟩ :=
    exactly_once (q := { name := "peer" }) rfl rfl rfl (by decide) hrun
  refine ⟨h, q, hrun, haccepted, hexecuted, hmarks.trans hdone, ?_, ?_, honce⟩
  · rw [honce.workers, haccepted]
    rfl
  · rw [honce.processed, hexecuted]
    rfl

end MessageEngine
