import BearerGate.Token

/-!
The token holder: the slot for the token of the request that is being served. The slot exists only
inside a request scope. A scope puts an empty slot in place, and when it ends, in whatever way, it
puts back the one that was there before. Main statement: what a scope does to the slot around it.
-/

set_option autoImplicit false
set_option relaxedAutoImplicit false

namespace BearerGate

/-- The slot of the innermost scope, or none outside of all scopes. -/
abbrev Slot := Option (Option Token)

/-- A computation that can use the slot. -/
abbrev Held (α : Type) := StateM Slot α

/-- A computation on the slot among others with further effects. -/
def Held.lift {m : Type → Type} [Monad m] {α : Type} (body : Held α) : StateT Slot m α :=
  fun slot => pure (body slot)

inductive HolderError
  | noRequestScope
  deriving DecidableEq, Repr

def HolderError.message : HolderError → String
  | .noRequestScope => "no request scope is active"

namespace Holder

def inScope : Held Bool := fun slot => (slot.isSome, slot)

def current : Held (Option Token) := fun slot => (slot.join, slot)

def publish (t : Token) : Held (Except HolderError Unit) := fun slot =>
  match slot with
  | some _ => (.ok (), some (some t))
  | none => (.error .noRequestScope, none)

def clear : Held Unit := fun slot => ((), slot.map fun _ => none)

/-- Put a slot in place; the result is the one that was there. -/
def exchange {m : Type → Type} [Monad m] (next : Slot) : StateT Slot m Slot :=
  fun slot => pure (slot, next)

/-- Run a computation, which may have effects besides those on the slot, in a scope of its own. -/
def scope {m : Type → Type} [Monad m] {α : Type} (body : StateT Slot m α) : StateT Slot m α := do
  let outer ← exchange (some none)
  let result ← body
  let _ ← exchange outer
  return result

@[simp] theorem scope_apply {m : Type → Type} [Monad m] [LawfulMonad m] {α : Type}
    (body : StateT Slot m α) (slot : Slot) :
    scope body slot = (fun ended => (ended.1, slot)) <$> body (some none) := by
  simp only [scope, exchange, bind, StateT.bind]
  rw [pure_bind, map_eq_pure_bind]
  refine bind_congr fun ended => ?_
  rw [pure_bind]
  rfl

end Holder

end BearerGate
