import MessageEngine.Node.Worker

/-!
# The one way to the end

Of an endpoint only a few things matter for its end: where it stands, its
reason, whether its hooks were run, those that wait, and what its
subscribers were told.  They change only by calls that concern the end, and
what such a call does to them and answers is a small machine.  On any row of
calls the first disconnect is the only one that ends the endpoint.
-/

namespace MessageEngine

/-- What matters for the end of an endpoint. -/
structure Ending where
  state : Lifecycle := .uninitialized
  reason : Option DisconnectReason := none
  ended : Bool := false
  hooks : List Hook := []
  events : List EndpointEvent := []

def Endpoint.ending (x : Endpoint) : Ending := ⟨x.state, x.reason, x.ended, x.hooks, x.events⟩

/-- The labels that a hook leaves in the log, those of the hooks that it registers among them. -/
def Hook.notes : Hook → List String
  | .done => []
  | .note label next => label :: next.notes
  | .untrack _ next => next.notes
  | .disconnect _ next => next.notes
  | .register hook next => hook.notes ++ next.notes

/-- What is asked of an endpoint that concerns its end, with the answer to it. -/
inductive Ask
  | beginConnect (begins : Bool)
  | abortConnect
  | markConnected (stands : Bool)
  | onDisconnect (hook : Hook)
  /-- The answer tells whether it was the first; the call may come to a panic with a text. -/
  | disconnect (reason : DisconnectReason) (answer : Except String Bool)

/-- The text of the panic that is the answer. -/
def Ask.panic? : Ask → Option String
  | .disconnect _ (.error text) => some text
  | _ => none

/-- A call on an endpoint, with what hooks noted in the log meanwhile. -/
structure Call where
  endpoint : EndpointRef
  ask : Ask
  noted : List (String × DisconnectReason)

/-! ## What a row of calls comes to -/

namespace Call

/-- The calls on one endpoint. -/
def on (e : EndpointRef) (calls : List Call) : List Call := calls.filter (·.endpoint == e)

theorem on_append (e : EndpointRef) (calls others : List Call) :
    on e (calls ++ others) = on e calls ++ on e others :=
  List.filter_append calls others

theorem on_singleton_self (c : Call) : on c.endpoint [c] = [c] := by simp [on]

theorem on_singleton_of_ne {e : EndpointRef} {c : Call} (h : c.endpoint ≠ e) : on e [c] = [] := by
  simp [on, h]

/-- The answer to a disconnect. -/
def answer? (c : Call) : Option (Except String Bool) :=
  match c.ask with
  | .disconnect _ answer => some answer
  | _ => none

/-- The reason of a disconnect that was the first. -/
def reason? (c : Call) : Option DisconnectReason :=
  match c.ask with
  | .disconnect reason (.ok true) => some reason
  | _ => none

/-- The hook that is registered. -/
def hook? (c : Call) : Option Hook :=
  match c.ask with
  | .onDisconnect hook => some hook
  | _ => none

/-- What the subscribers are told of a connection that stands. -/
def mark? (c : Call) : Option EndpointEvent :=
  match c.ask with
  | .markConnected true => some .connected
  | _ => none

def answers (calls : List Call) : List (Except String Bool) := calls.filterMap answer?

def first? (calls : List Call) : Option DisconnectReason := calls.findSome? reason?

def registered (calls : List Call) : List Hook := calls.filterMap hook?

def marks (calls : List Call) : List EndpointEvent := calls.filterMap mark?

def notes (calls : List Call) : List (String × DisconnectReason) := calls.flatMap noted

section Snoc

variable (calls : List Call) (c : Call)

@[simp] theorem answers_snoc : answers (calls ++ [c]) = answers calls ++ c.answer?.toList := by
  rw [answers, List.filterMap_append]
  cases h : c.answer? <;> simp [h, answers]

@[simp] theorem first?_snoc : first? (calls ++ [c]) = (first? calls).or c.reason? := by
  rw [first?, List.findSome?_append]
  cases h : c.reason? <;> simp [h, first?]

@[simp] theorem registered_snoc :
    registered (calls ++ [c]) = registered calls ++ c.hook?.toList := by
  rw [registered, List.filterMap_append]
  cases h : c.hook? <;> simp [h, registered]

@[simp] theorem marks_snoc : marks (calls ++ [c]) = marks calls ++ c.mark?.toList := by
  rw [marks, List.filterMap_append]
  cases h : c.mark? <;> simp [h, marks]

@[simp] theorem notes_snoc : notes (calls ++ [c]) = notes calls ++ c.noted := by
  simp [notes]

end Snoc

end Call

/-! ## The machine -/

namespace Ending

/-- What a call does to what matters for the end, and what it answers and notes. -/
inductive Step (x : Ending) (e : EndpointRef) : Call → Ending → Prop
  | begins (h : x.state = .uninitialized) :
      Step x e ⟨e, .beginConnect true, []⟩ { x with state := .connecting }
  | refused (h : x.state ≠ .uninitialized) : Step x e ⟨e, .beginConnect false, []⟩ x
  | aborted (h : x.state = .connecting) :
      Step x e ⟨e, .abortConnect, []⟩ { x with state := .uninitialized }
  | unaborted (h : x.state ≠ .connecting) : Step x e ⟨e, .abortConnect, []⟩ x
  | marked (h : x.state.isActive = true) :
      Step x e ⟨e, .markConnected true, []⟩
        { x with state := .connected, events := x.events ++ [.connected] }
  | unmarked (h : x.state.isActive = false) : Step x e ⟨e, .markConnected false, []⟩ x
  | waits (h : x.ended = false ∨ x.reason = none) (hook : Hook) :
      Step x e ⟨e, .onDisconnect hook, []⟩ { x with hooks := x.hooks ++ [hook] }
  | runs (h : x.ended = true) {reason : DisconnectReason} (hreason : x.reason = some reason)
      (hook : Hook) : Step x e ⟨e, .onDisconnect hook, hook.notes.map (·, reason)⟩ x
  /-- The first disconnect runs the hooks that wait. -/
  | ends (h : x.reason = none) (reason : DisconnectReason) :
      Step x e ⟨e, .disconnect reason (.ok true), (x.hooks.flatMap Hook.notes).map (·, reason)⟩
        ⟨.disconnected, some reason, true, [], x.events ++ [.disconnected reason]⟩
  /-- It may come to a panic while the queue is let go of. -/
  | sticks (h : x.reason = none) (reason : DisconnectReason) (text : String) :
      Step x e ⟨e, .disconnect reason (.error text), []⟩
        { x with state := .disconnecting, reason := some reason }
  | again (h : x.reason.isSome = true) (reason : DisconnectReason) :
      Step x e ⟨e, .disconnect reason (.ok false), []⟩ x

/-- What a row of calls does. -/
inductive Steps (e : EndpointRef) : Ending → List Call → Ending → Prop
  | nil (x : Ending) : Steps e x [] x
  | cons {x x' x'' : Ending} {c : Call} {calls : List Call} (head : x.Step e c x')
      (tail : Steps e x' calls x'') : Steps e x (c :: calls) x''

theorem Steps.trans {e : EndpointRef} {x x' x'' : Ending} {calls others : List Call}
    (h : Steps e x calls x') (h' : Steps e x' others x'') : Steps e x (calls ++ others) x'' := by
  induction h with
  | nil x => exact h'
  | cons head _ ih => exact .cons head (ih h')

/-- The endpoint was not disconnected by the calls, and all hooks wait. -/
structure Before (calls : List Call) (x : Ending) : Prop where
  active : x.state.isActive = true
  given : x.reason = none
  ended : x.ended = false
  hooks : x.hooks = Call.registered calls
  events : x.events = Call.marks calls
  answers : Call.answers calls = []
  first : Call.first? calls = none
  notes : Call.notes calls = []

/-- The endpoint was disconnected by the calls, and all hooks were run. -/
structure Behind (reason : DisconnectReason) (calls : List Call) (x : Ending) : Prop where
  state : x.state = .disconnected
  given : x.reason = some reason
  ended : x.ended = true
  events : x.events = Call.marks calls ++ [.disconnected reason]
  answers : ∃ n, Call.answers calls = .ok true :: List.replicate n (.ok false)
  first : Call.first? calls = some reason
  notes : Call.notes calls = ((Call.registered calls).flatMap Hook.notes).map (·, reason)

/-- The first disconnect panicked half way, and no hook is ever run. -/
structure Stuck (text : String) (calls : List Call) (x : Ending) : Prop where
  state : x.state = .disconnecting
  given : x.reason.isSome = true
  ended : x.ended = false
  events : x.events = Call.marks calls
  answers : ∃ n, Call.answers calls = .error text :: List.replicate n (.ok false)
  first : Call.first? calls = none
  notes : Call.notes calls = []

section Stages

open Call

variable {e : EndpointRef} {calls : List Call} {c : Call} {reason : DisconnectReason}
  {text : String} {x x' : Ending}

theorem Before.step (h : Before calls x) (hstep : x.Step e c x') :
    Before (calls ++ [c]) x' ∨ (∃ reason, Behind reason (calls ++ [c]) x') ∨
      ∃ text, Stuck text (calls ++ [c]) x' := by
  obtain ⟨hactive, hgiven, hended, hhooks, hevents, hanswers, hfirst, hnotes⟩ := h
  cases hstep with
  | begins hstate | aborted hstate =>
      refine .inl ⟨rfl, hgiven, hended, ?_, ?_, ?_, ?_, ?_⟩ <;>
        simp [*, hook?, mark?, answer?, reason?]
  | refused hstate | unaborted hstate =>
      refine .inl ⟨hactive, hgiven, hended, ?_, ?_, ?_, ?_, ?_⟩ <;>
        simp [*, hook?, mark?, answer?, reason?]
  | marked hstate =>
      refine .inl ⟨rfl, hgiven, hended, ?_, ?_, ?_, ?_, ?_⟩ <;>
        simp [*, hook?, mark?, answer?, reason?]
  | unmarked hstate => exact absurd hactive (ne_true_of_eq_false hstate)
  | waits hwaits hook =>
      refine .inl ⟨hactive, hgiven, hended, ?_, ?_, ?_, ?_, ?_⟩ <;>
        simp [*, hook?, mark?, answer?, reason?]
  | runs hend hreason hook => exact absurd hend (ne_true_of_eq_false hended)
  | ends hnone reason =>
      refine .inr (.inl ⟨reason, rfl, rfl, rfl, ?_, ⟨0, ?_⟩, ?_, ?_⟩) <;>
        simp [*, hook?, mark?, answer?, reason?]
  | sticks hnone reason text =>
      refine .inr (.inr ⟨text, rfl, rfl, hended, ?_, ⟨0, ?_⟩, ?_, ?_⟩) <;>
        simp [*, mark?, answer?, reason?]
  | again hsome reason =>
      rw [hgiven] at hsome
      cases hsome

theorem Behind.step (h : Behind reason calls x) (hstep : x.Step e c x') :
    Behind reason (calls ++ [c]) x' := by
  obtain ⟨hstate, hgiven, hended, hevents, ⟨n, hanswers⟩, hfirst, hnotes⟩ := h
  cases hstep with
  | begins hother | aborted hother =>
      rw [hstate] at hother
      cases hother
  | marked hactive =>
      rw [hstate] at hactive
      cases hactive
  | refused _ | unaborted _ | unmarked _ =>
      refine ⟨hstate, hgiven, hended, ?_, ⟨n, ?_⟩, ?_, ?_⟩ <;>
        simp [*, hook?, mark?, answer?, reason?]
  | waits hwaits hook =>
      rcases hwaits with hnot | hnone
      · rw [hended] at hnot
        cases hnot
      · rw [hgiven] at hnone
        cases hnone
  | runs hend hreason hook =>
      rw [hgiven, Option.some.injEq] at hreason
      subst hreason
      refine ⟨hstate, hgiven, hended, ?_, ⟨n, ?_⟩, ?_, ?_⟩ <;>
        simp [*, hook?, mark?, answer?, reason?]
  | ends hnone | sticks hnone =>
      rw [hgiven] at hnone
      cases hnone
  | again hsome other =>
      refine ⟨hstate, hgiven, hended, ?_, ⟨n + 1, ?_⟩, ?_, ?_⟩ <;>
        simp [*, hook?, mark?, answer?, reason?, List.replicate_succ']

theorem Stuck.step (h : Stuck text calls x) (hstep : x.Step e c x') :
    Stuck text (calls ++ [c]) x' := by
  obtain ⟨hstate, hgiven, hended, hevents, ⟨n, hanswers⟩, hfirst, hnotes⟩ := h
  cases hstep with
  | begins hother | aborted hother =>
      rw [hstate] at hother
      cases hother
  | marked hactive =>
      rw [hstate] at hactive
      cases hactive
  | refused _ | unaborted _ | unmarked _ | waits _ _ =>
      refine ⟨hstate, hgiven, hended, ?_, ⟨n, ?_⟩, ?_, ?_⟩ <;>
        simp [*, mark?, answer?, reason?]
  | runs hend hreason hook => exact absurd hend (ne_true_of_eq_false hended)
  | ends hnone | sticks hnone =>
      rw [hnone] at hgiven
      cases hgiven
  | again hsome other =>
      refine ⟨hstate, hgiven, hended, ?_, ⟨n + 1, ?_⟩, ?_, ?_⟩ <;>
        simp [*, mark?, answer?, reason?, List.replicate_succ']

/-- On any row of calls on a new endpoint the first disconnect is the only one that ends it. -/
theorem Steps.stage {others : List Call} (h : Steps e x others x')
    (hstage : Before calls x ∨ (∃ reason, Behind reason calls x) ∨ ∃ text, Stuck text calls x) :
    Before (calls ++ others) x' ∨ (∃ reason, Behind reason (calls ++ others) x') ∨
      ∃ text, Stuck text (calls ++ others) x' := by
  induction h generalizing calls with
  | nil x =>
      rw [List.append_nil]
      exact hstage
  | cons head _ ih =>
      rw [List.append_cons]
      refine ih ?_
      rcases hstage with hbefore | ⟨reason, hbehind⟩ | ⟨text, hstuck⟩
      · exact hbefore.step head
      · exact .inr (.inl ⟨reason, hbehind.step head⟩)
      · exact .inr (.inr ⟨text, hstuck.step head⟩)

theorem Before.new : Before [] {} := ⟨rfl, rfl, rfl, rfl, rfl, rfl, rfl, rfl⟩

end Stages

end Ending

end MessageEngine
