import BearerGate.Request.Script

/-!
Isolation of tasks: what a task observes in the slot of its scope, while other tasks are polled in
between, tasks are given up, and the surroundings change. The results still to come are a function
of the moves and the slots of the task alone, and each poll delivers the next of them. Main
statement: under every order of events a task observes a beginning of what its steps observe when
nothing comes between them, and the slot around it is never touched.
-/

set_option autoImplicit false
set_option relaxedAutoImplicit false

namespace BearerGate.Request

def taskOf (steps : List Step) : Task Outcome := Task.new (moves steps)

def observed : List Step → Held (List Outcome)
  | [] => pure []
  | .stepwiseScope _ steps :: rest => do
    let inner ← Holder.scope (observed steps)
    return inner ++ (← observed rest)
  | step :: rest => do
    let result ← step.run
    return result :: (← observed rest)

/-- What steps observe in a scope of their own outside of all others. -/
def observedAlone (steps : List Step) : List Outcome := (Holder.scope (observed steps) none).1

def pollsOf (place : Nat) : List Event → Nat
  | [] => 0
  | .poll i :: rest => if i = place then pollsOf place rest + 1 else pollsOf place rest
  | .drop i :: rest => if i = place then 0 else pollsOf place rest
  | .surround _ :: rest => pollsOf place rest

/-- The slot of the surroundings that are there in the end. -/
def slotAround (slot : Slot) : List Event → Slot
  | [] => slot
  | .surround next :: rest => slotAround next rest
  | _ :: rest => slotAround slot rest

section Results

variable {α : Type}

def Scopes.results (s : Scopes) : List (Move α) → List α
  | [] => []
  | .act step :: rest => (step s.slot).1 :: results { s with slot := (step s.slot).2 } rest
  | .enter :: rest => results s.enter rest
  | .leave :: rest => results s.leave rest

def Task.future (t : Task α) : List α := t.scopes.results t.remaining

private theorem pollFrom_delivers (scopes : Scopes) (delivered : List α) (moves : List (Move α)) :
    (Task.pollFrom scopes delivered moves none).1.results =
        delivered ++ (scopes.results moves).take 1 ∧
      (Task.pollFrom scopes delivered moves none).1.future = (scopes.results moves).drop 1 := by
  induction moves generalizing scopes with
  | nil => exact ⟨(List.append_nil delivered).symm, rfl⟩
  | cons move rest ih =>
    cases move with
    | act step =>
      simp only [Task.pollFrom, bind, StateT.bind, Scopes.within_apply]
      exact ⟨rfl, rfl⟩
    | enter => exact ih scopes.enter
    | leave => exact ih scopes.leave

/-- A poll delivers the next result, if there is one. -/
theorem Task.poll_delivers (t : Task α) :
    (t.poll none).1.results = t.results ++ t.future.take 1 ∧
      (t.poll none).1.future = t.future.drop 1 :=
  pollFrom_delivers t.scopes t.results t.remaining

theorem changeAt_apply {change : Task α → Held (Task α)} {changed : Task α → Task α}
    (undisturbed : ∀ t slot, change t slot = (changed t, slot)) (place : Nat)
    (tasks : List (Task α)) (slot : Slot) :
    changeAt change place tasks slot = (tasks.modify place changed, slot) := by
  induction tasks generalizing place with
  | nil => cases place <;> rfl
  | cons t rest ih =>
    cases place with
    | zero =>
      simp only [changeAt, bind, StateT.bind, undisturbed]
      rfl
    | succ place =>
      simp only [changeAt, bind, StateT.bind, ih]
      rfl

def Event.effect : Event → List (Task α) → List (Task α)
  | .poll place, tasks => tasks.modify place fun t => (t.poll none).1
  | .drop place, tasks => tasks.modify place fun t => ⟨t.scopes, [], t.results⟩
  | .surround _, tasks => tasks

theorem Event.apply_eq (event : Event) (tasks : List (Task α)) (slot : Slot) :
    event.apply tasks slot = (event.effect tasks, slotAround slot [event]) := by
  cases event with
  | poll place => exact changeAt_apply Task.poll_apply place tasks slot
  | drop place => exact changeAt_apply Task.abandon_apply place tasks slot
  | surround next => rfl

theorem runEvents_cons (event : Event) (events : List Event) (tasks : List (Task α)) (slot : Slot) :
    runEvents (event :: events) tasks slot =
      runEvents events (event.effect tasks) (slotAround slot [event]) := by
  simp only [runEvents, bind, StateT.bind, Event.apply_eq]

/-- The slot around the tasks has no influence on them, and only the surroundings change it. -/
theorem runEvents_apply (events : List Event) (tasks : List (Task α)) (slot : Slot) :
    runEvents events tasks slot =
      ((runEvents events tasks none).1, slotAround slot events) := by
  induction events generalizing tasks slot with
  | nil => rfl
  | cons event rest ih =>
    rw [runEvents_cons, runEvents_cons, ih, ih _ (slotAround none [event])]
    cases event <;> rfl

private def takenWith (place n : Nat) : Event → Nat
  | .poll i => if i = place then n + 1 else n
  | .drop i => if i = place then 0 else n
  | .surround _ => n

private theorem modify_delivers (change : Task α → Task α) (i place n m : Nat)
    (tasks : List (Task α))
    (delivers : i = place → ∀ t, (change t).results ++ (change t).future.take n =
      t.results ++ t.future.take m)
    (elsewhere : i ≠ place → m = n) :
    (((tasks.modify i change)[place]?).map fun t => t.results ++ t.future.take n) =
      tasks[place]?.map fun t => t.results ++ t.future.take m := by
  rw [List.getElem?_modify]
  cases tasks[place]? with
  | none => rfl
  | some t =>
    by_cases here : i = place
    · simp only [here, if_true, Option.map_some]
      exact congrArg some (delivers here t)
    · simp only [here, if_false, elsewhere here]
      rfl

private theorem effect_delivers (event : Event) (tasks : List (Task α)) (place n : Nat) :
    ((event.effect tasks)[place]?.map fun t => t.results ++ t.future.take n) =
      tasks[place]?.map fun t => t.results ++ t.future.take (takenWith place n event) := by
  cases event with
  | poll i =>
    -- The poll delivers one result, and `n` of those after it are still taken.
    refine modify_delivers _ i place n _ tasks (fun here t => ?_) (fun there => if_neg there)
    obtain ⟨results, future⟩ := t.poll_delivers
    have next : t.future.take 1 ++ (t.future.drop 1).take n = t.future.take (n + 1) := by
      rw [Nat.add_comm n 1, List.take_add]
    rw [results, future, List.append_assoc, next, takenWith, if_pos here]
  | drop i =>
    -- Nothing is left to deliver, so that later polls of the task count for nothing.
    refine modify_delivers _ i place n _ tasks (fun here t => ?_) (fun there => if_neg there)
    rw [takenWith, if_pos here, List.take_zero]
    have nothing : (⟨t.scopes, [], t.results⟩ : Task α).future = [] := rfl
    rw [nothing, List.take_nil]
  | surround _ => rfl

private theorem pollsOf_cons (place : Nat) (event : Event) (rest : List Event) :
    pollsOf place (event :: rest) = takenWith place (pollsOf place rest) event := by
  cases event <;> rfl

/-- In every run a task delivers a beginning of what it had to deliver, as long as its polls go. -/
theorem runEvents_results (events : List Event) (tasks : List (Task α)) (slot : Slot)
    (place : Nat) :
    (runEvents events tasks slot).1[place]?.map Task.results =
      tasks[place]?.map fun t => t.results ++ t.future.take (pollsOf place events) := by
  induction events generalizing tasks slot with
  | nil =>
    simp only [runEvents, pollsOf, List.take_zero, List.append_nil]
    rfl
  | cons event rest ih =>
    rw [runEvents_cons, ih, effect_delivers, pollsOf_cons]

end Results

private theorem moves_cons {step : Step} (steps : List Step)
    (plain : ∀ fails inner, step ≠ .stepwiseScope fails inner) :
    moves (step :: steps) = .act step.run :: moves steps := by
  rw [moves]
  exact fun fails inner same => plain fails inner same

private theorem results_moves (steps : List Step) (s : Scopes) (rest : List (Move Outcome)) :
    s.results (moves steps ++ rest) =
      (observed steps s.slot).1 ++
        Scopes.results { s with slot := (observed steps s.slot).2 } rest := by
  -- The scopes and the moves that follow are general: both change where a scope is entered.
  fun_induction observed steps generalizing s rest with
  | case1 =>
    rw [moves]
    rfl
  | case2 fails inner outer ihInner ihOuter =>
    -- The slot of the scope that is entered is forgotten, the one around it comes back.
    have left (slot : Slot) : ({ s.enter with slot := slot } : Scopes).leave = s := rfl
    have entered : s.enter.slot = some none := rfl
    have alone : observedAlone inner = (observed inner (some none)).1 := rfl
    calc s.results (moves (.stepwiseScope fails inner :: outer) ++ rest)
        = s.enter.results (moves inner ++ .leave :: (moves outer ++ rest)) := by
          rw [moves, List.cons_append, List.append_assoc, List.cons_append, Scopes.results]
      _ = observedAlone inner ++ s.results (moves outer ++ rest) := by
          rw [ihInner, Scopes.results, left, entered, alone]
      _ = _ := by
          rw [ihOuter, ← List.append_assoc]
          rfl
  | case3 step outer plain ih =>
    calc s.results (moves (step :: outer) ++ rest)
        = (step.run s.slot).1 ::
            Scopes.results { s with slot := (step.run s.slot).2 } (moves outer ++ rest) := by
          rw [moves_cons outer plain, List.cons_append, Scopes.results]
      _ = _ := by
          rw [ih, ← List.cons_append]
          rfl

theorem taskOf_future (steps : List Step) : (taskOf steps).future = observedAlone steps := by
  have delivered := results_moves steps Scopes.opened []
  rw [List.append_nil, Scopes.results, List.append_nil] at delivered
  exact delivered

private theorem slotAround_polls (slot : Slot) (order : List Nat) :
    slotAround slot (order.map .poll) = slot := by
  induction order with
  | nil => rfl
  | cons _ _ ih => exact ih

inductive Step.OpensScopes : Step → Prop
  | scope (steps) : OpensScopes (.scope steps)
  | failingScope (steps) : OpensScopes (.failingScope steps)
  | stepwiseScope (fails steps) : OpensScopes (.stepwiseScope fails steps)
  | abandonedScope (polls steps) : OpensScopes (.abandonedScope polls steps)
  | interleaved (tasks) : OpensScopes (.interleaved tasks)

/-- However its scopes end, such a step has no influence on the slot around it, nor that on it. -/
theorem Step.run_apply {step : Step} (opens : step.OpensScopes) (slot : Slot) :
    step.run slot = ((step.run none).1, slot) := by
  cases opens with
  | scope steps => rw [Step.run]; rfl
  | failingScope steps => rw [Step.run]; rfl
  | stepwiseScope fails steps => rw [Step.run]; rfl
  | abandonedScope polls steps =>
    rw [Step.run]
    simp only [bind, StateT.bind]
    rw [Task.pollTimes_apply]
    simp only [Task.abandon_apply]
    rfl
  | interleaved tasks =>
    rw [Step.run]
    simp only [bind, StateT.bind]
    rw [runEvents_apply, slotAround_polls]
    rfl

/-- Under every order of polls, of tasks that are given up, and of surroundings that take over from
each other, each task observes a beginning of what its steps observe alone, as long as its polls
go. The slot around the tasks is that of the surroundings. So it is for every step that opens
scopes, in whatever way they end: it observes what it observes alone, and leaves the slot alone. -/
theorem tasks_isolated :
    (∀ (scripts : List (List Step)) (events : List Event) (outer : Slot),
      (runEvents events (scripts.map taskOf) outer).2 = slotAround outer events ∧
      ∀ place : Nat, (runEvents events (scripts.map taskOf) outer).1[place]?.map Task.results =
        scripts[place]?.map fun steps => (observedAlone steps).take (pollsOf place events)) ∧
    ∀ (step : Step) (slot : Slot), step.OpensScopes → step.run slot = ((step.run none).1, slot) := by
  refine ⟨fun scripts events outer => ⟨?_, fun place => ?_⟩,
    fun step slot opens => Step.run_apply opens slot⟩
  · rw [runEvents_apply]
  · rw [runEvents_results, List.getElem?_map, Option.map_map]
    refine congrArg (Option.map · scripts[place]?) (funext fun steps => ?_)
    have fresh : (taskOf steps).results = [] := rfl
    simp only [Function.comp, fresh, List.nil_append, taskOf_future]

/-- Two requests in turn, one of them given up inside of a scope of its own: each sees its own
token or none, and the token of the scope around them stays. -/
theorem abandoned_request_unseen :
    let mine := Token.ofPayload "mine" .empty
    let other := Token.ofPayload "other" .empty
    let script token := [Step.publish token, .stepwiseScope true [.current], .current]
    let events := [Event.poll 0, .poll 1, .poll 0, .drop 0, .poll 1, .poll 0, .poll 1]
    let ended := runEvents events ([script other, script mine].map taskOf) (some (some other))
    ended.2 = some (some other) ∧
      ended.1[0]?.map Task.results = some [.published (.ok ()), .current none] ∧
      ended.1[1]?.map Task.results =
        some [.published (.ok ()), .current none, .current (some mine)] ∧
      (Step.run (.interleaved [script other, script mine]) (some (some other))).2 =
        some (some other) := by
  intro mine other script events ended
  obtain ⟨around, results⟩ :=
    tasks_isolated.1 [script other, script mine] events (some (some other))
  have alone (token : Token) : observedAlone (script token) =
      [.published (.ok ()), .current none, .current (some token)] := by
    simp only [observedAlone, script, observed, Step.run]
    rfl
  refine ⟨around, (results 0).trans ?_, (results 1).trans ?_, ?_⟩
  · exact congrArg (fun seen => some (seen.take 2)) (alone other)
  · exact congrArg (fun seen => some (seen.take 3)) (alone mine)
  · rw [tasks_isolated.2 _ _ (.interleaved _)]

end BearerGate.Request
