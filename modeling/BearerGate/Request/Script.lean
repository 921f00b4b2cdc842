import BearerGate.Injection.Injected
import BearerGate.Request.Task

/-!
Scripts: what a request does with the token holder, step by step, scopes within scopes included.
-/

set_option autoImplicit false
set_option relaxedAutoImplicit false

namespace BearerGate.Request

open Injection (Provider Injected)

inductive Step
  | inScope
  | current
  | clear
  | publish (token : Token)
  | get (provider : Provider)
  /-- Steps in a scope of their own, up to their end. -/
  | scope (steps : List Step)
  /-- Steps in a scope of their own, after which the scope is left by a failure. -/
  | failingScope (steps : List Step)
  /-- Steps in a scope of their own, between which a task is suspended. In the end the scope is left
  by a failure, if it fails. -/
  | stepwiseScope (fails : Bool) (steps : List Step)
  /-- Steps of a task of its own that is abandoned after a number of polls. -/
  | abandonedScope (polls : Nat) (steps : List Step)
  /-- Tasks that are polled in turn until all are finished. -/
  | interleaved (tasks : List (List Step))

inductive Outcome
  | inScope (answer : Bool)
  | current (token : Option Token)
  | cleared
  | published (result : Except HolderError Unit)
  | got (value : Injected)
  | scope (results : List Outcome)
  | failed (results : List Outcome)
  | abandoned (finished : Bool) (results : List Outcome)
  | interleaved (results : List (Nat × Outcome))

mutual

def Step.run : Step → Held Outcome
  | .inScope => do return .inScope (← Holder.inScope)
  | .current => do return .current (← Holder.current)
  | .clear => do
    Holder.clear
    return .cleared
  | .publish token => do return .published (← Holder.publish token)
  | .get provider => do return .got (← provider.get)
  | .scope steps => do return .scope (← Holder.scope (runAll steps))
  | .failingScope steps => do return .failed (← Holder.scope (runAll steps))
  | .stepwiseScope fails steps => do
    let results ← Holder.scope (runAll steps)
    return if fails then .failed results else .scope results
  | .abandonedScope polls steps => do
    let task ← (Task.new (moves steps)).pollTimes polls
    let _ ← task.abandon
    return .abandoned (task.isFinished && 0 < polls) task.results
  | .interleaved tasks => do
    let started := (movesOfAll tasks).map Task.new
    let order := roundRobin (started.map Task.pending)
    let ended ← runEvents (order.map .poll) started
    return .interleaved (resultsInOrder order (ended.map Task.results))

def runAll : List Step → Held (List Outcome)
  | [] => pure []
  | step :: rest => do
    let result ← step.run
    return result :: (← runAll rest)

/-- What a task does to run steps. -/
def moves : List Step → List (Move Outcome)
  | [] => []
  | .stepwiseScope _ steps :: rest => .enter :: (moves steps ++ .leave :: moves rest)
  | step :: rest => .act step.run :: moves rest

def movesOfAll : List (List Step) → List (List (Move Outcome))
  | [] => []
  | steps :: rest => moves steps :: movesOfAll rest

end

end BearerGate.Request
