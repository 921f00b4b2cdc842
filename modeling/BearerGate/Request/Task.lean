import BearerGate.Holder

/-!
Tasks: requests that are served in steps, on one machine and in any order. A task carries the slots
of its scopes, one for each scope that is open in another. Each poll puts these slots in place, one
after the other, takes one step, and puts back what was there before. Main statement: what a poll
does to the task is settled by the task alone, and to the slot around it a poll does nothing.
-/

set_option autoImplicit false
set_option relaxedAutoImplicit false

namespace BearerGate.Request

/-- The slots of scopes that are open in each other. -/
structure Scopes where
  /-- The slot of the innermost scope. -/
  slot : Slot
  /-- The slots of the scopes around it, the inner ones first. -/
  around : List Slot

namespace Scopes

def opened : Scopes := ⟨some none, []⟩

def enter (s : Scopes) : Scopes := ⟨some none, s.slot :: s.around⟩

def leave (s : Scopes) : Scopes :=
  match s.around with
  | [] => s
  | slot :: around => ⟨slot, around⟩

/-- Run a computation with slots in place, each in that of the scope around it, the outermost first:
its result, and the slots as they are afterwards. -/
def installed {α : Type} (body : Held α) : List Slot → Slot → Held (α × List Slot × Slot)
  | [], slot => do
    let outer ← Holder.exchange slot
    let result ← body
    let slot ← Holder.exchange outer
    return (result, [], slot)
  | next :: inner, slot => do
    let outer ← Holder.exchange next
    let (result, inner, slot) ← installed body inner slot
    let next ← Holder.exchange outer
    return (result, next :: inner, slot)

def within {α : Type} (s : Scopes) (body : Held α) : Held (α × Scopes) := do
  let (result, inner, slot) ← installed body s.around.reverse s.slot
  return (result, ⟨slot, inner.reverse⟩)

theorem installed_apply {α : Type} (body : Held α) (inner : List Slot) (slot outer : Slot) :
    installed body inner slot outer = (((body slot).1, inner, (body slot).2), outer) := by
  induction inner generalizing outer with
  | nil => rfl
  | cons next rest ih =>
    change (let ended := installed body rest slot next
      ((ended.1.1, ended.2 :: ended.1.2.1, ended.1.2.2), outer)) = _
    rw [ih]

/-- The computation changes the slot of the innermost scope and no other. -/
theorem within_apply {α : Type} (s : Scopes) (body : Held α) (outer : Slot) :
    s.within body outer =
      (((body s.slot).1, { s with slot := (body s.slot).2 }), outer) := by
  change (let ended := installed body s.around.reverse s.slot outer
    ((ended.1.1, (⟨ended.1.2.2, ended.1.2.1.reverse⟩ : Scopes)), ended.2)) = _
  rw [installed_apply]
  simp only [List.reverse_reverse]

end Scopes

inductive Move (α : Type)
  /-- It uses the slot that is there. -/
  | act (step : Held α)
  /-- It opens a scope in which it can be suspended. -/
  | enter
  /-- It leaves the innermost of these scopes. -/
  | leave

def Move.isAct {α : Type} : Move α → Bool
  | .act _ => true
  | _ => false

/-- A request that is served in steps, each with a result. -/
structure Task (α : Type) where
  scopes : Scopes
  remaining : List (Move α)
  results : List α

namespace Task

variable {α : Type}

def new (moves : List (Move α)) : Task α := ⟨Scopes.opened, moves, []⟩

def pending (t : Task α) : Nat := t.remaining.countP Move.isAct

def isFinished (t : Task α) : Bool := t.pending == 0

/-- Take the next step with the slots of the task in place, opening and leaving scopes on the way. -/
def pollFrom (scopes : Scopes) (results : List α) : List (Move α) → Held (Task α)
  | [] => pure ⟨scopes, [], results⟩
  | .act step :: rest => do
    let (result, scopes) ← scopes.within step
    return ⟨scopes, rest, results ++ [result]⟩
  | .enter :: rest => pollFrom scopes.enter results rest
  | .leave :: rest => pollFrom scopes.leave results rest

def poll (t : Task α) : Held (Task α) := pollFrom t.scopes t.results t.remaining

/-- Give a task up before its end. What is left of it goes while its slots are in place. -/
def abandon (t : Task α) : Held (Task α) := do
  let ((), scopes) ← t.scopes.within (pure ())
  return ⟨scopes, [], t.results⟩

def pollTimes : Nat → Task α → Held (Task α)
  | 0, t => pure t
  | n + 1, t => do pollTimes n (← t.poll)

theorem pollFrom_apply (scopes : Scopes) (results : List α) (moves : List (Move α)) (outer : Slot) :
    pollFrom scopes results moves outer = ((pollFrom scopes results moves none).1, outer) := by
  induction moves generalizing scopes with
  | nil => rfl
  | cons move rest ih =>
    cases move with
    | act step =>
      simp only [pollFrom, bind, StateT.bind, Scopes.within_apply]
      rfl
    | enter => exact ih scopes.enter
    | leave => exact ih scopes.leave

/-- The slot around a poll has no influence on the task, and the poll none on the slot. -/
theorem poll_apply (t : Task α) (outer : Slot) : t.poll outer = ((t.poll none).1, outer) :=
  pollFrom_apply t.scopes t.results t.remaining outer

theorem abandon_apply (t : Task α) (outer : Slot) :
    t.abandon outer = (⟨t.scopes, [], t.results⟩, outer) := by
  simp only [abandon, bind, StateT.bind, Scopes.within_apply]
  rfl

theorem pollTimes_apply (n : Nat) (t : Task α) (outer : Slot) :
    pollTimes n t outer = ((pollTimes n t none).1, outer) := by
  induction n generalizing t with
  | zero => rfl
  | succ n ih =>
    have untouched (slot : Slot) : pollTimes (n + 1) t slot = pollTimes n (t.poll none).1 slot := by
      simp only [pollTimes, bind, StateT.bind, t.poll_apply slot]
    rw [untouched, untouched, ih]

end Task

inductive Event
  /-- The task at a place is polled. -/
  | poll (place : Nat)
  /-- The task at a place is given up. -/
  | drop (place : Nat)
  /-- Other surroundings take over, in which there is a slot of their own. -/
  | surround (slot : Slot)

def changeAt {α : Type} (change : Task α → Held (Task α)) :
    Nat → List (Task α) → Held (List (Task α))
  | _, [] => pure []
  | 0, t :: rest => do return (← change t) :: rest
  | i + 1, t :: rest => do return t :: (← changeAt change i rest)

def Event.apply {α : Type} : Event → List (Task α) → Held (List (Task α))
  | .poll place, tasks => changeAt Task.poll place tasks
  | .drop place, tasks => changeAt Task.abandon place tasks
  | .surround slot, tasks => do
    let _ ← Holder.exchange slot
    return tasks

def runEvents {α : Type} : List Event → List (Task α) → Held (List (Task α))
  | [], tasks => pure tasks
  | event :: rest, tasks => do runEvents rest (← event.apply tasks)

/-- The places of the tasks that still have steps, when each of them has had `round` polls. -/
def turn (lengths : List Nat) (round : Nat) : List Nat :=
  (List.range lengths.length).filter fun i => round < lengths.getD i 0

/-- The order that gives each unfinished task one poll after the other. -/
def roundRobin (lengths : List Nat) : List Nat :=
  (List.range (lengths.foldl max 0)).flatMap (turn lengths)

def resultsInOrder {α : Type} (order : List Nat) (results : List (List α)) : List (Nat × α) :=
  match order with
  | [] => []
  | i :: rest =>
    let tail := resultsInOrder rest
      (results.modify i List.tail)
    match (results.getD i []).head? with
    | some a => (i, a) :: tail
    | none => tail

end BearerGate.Request
