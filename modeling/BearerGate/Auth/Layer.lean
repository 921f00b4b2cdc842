import BearerGate.Auth.Mechanism
import BearerGate.Auth.Policy
import BearerGate.Injection.Registry

/-!
The layer in front of the handlers: it opens a scope for each request, authenticates it, and passes
it on, or else answers with a challenge. A handler finds what the layer knows in the extensions of
the request.
-/

set_option autoImplicit false
set_option relaxedAutoImplicit false

namespace BearerGate

open Http (Request Response)

structure Extensions where
  registry : Option Injection.Registry
  token : Option Token
  context : Option SecurityContext

def Extensions.bare : Extensions := ⟨none, none, none⟩

/-- What answers requests and may have effects besides those on the slot. -/
abbrev ServiceIn (m : Type → Type) := Request → Extensions → StateT Slot m Response

abbrev Service := ServiceIn Id

structure Layer where
  mechanism : Mechanism
  policy : Policy
  registry : Option Injection.Registry

inductive Admission
  | forward (extensions : Extensions)
  | challenge

def isPreflight (r : Request) : Bool :=
  r.method == "OPTIONS" && r.headers.has "origin" &&
    r.headers.has "access-control-request-method"

namespace Layer

def attachRegistry (l : Layer) (e : Extensions) : Extensions :=
  match l.registry with
  | some registry => { e with registry := some registry }
  | none => e

def settle (l : Layer) (path : String) (e : Extensions) : AuthOutcome → Admission
  | .authenticated context =>
    .forward { e with token := some context.token, context := some context }
  | _ => if l.policy.resolve path = .required then .challenge else .forward e

def screen (l : Layer) (r : Request) (e : Extensions) : Held Admission :=
  if isPreflight r then pure (.forward (l.attachRegistry e))
  else do
    return l.settle r.path (l.attachRegistry e) (← l.mechanism.authenticate r.headers)

def protect {m : Type → Type} [Monad m] (l : Layer) (inner : ServiceIn m) : ServiceIn m :=
  fun r e => Holder.scope do
    match ← Held.lift (l.screen r e) with
    | .forward e => inner r e
    | .challenge => return challengeResponse

end Layer

end BearerGate
