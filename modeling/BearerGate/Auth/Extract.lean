import BearerGate.Auth.Layer

/-!
What handlers ask for: the caller, a caller with a role, the token, or the injection of claims. A
handler that does not get it refuses the request.
-/

set_option autoImplicit false
set_option relaxedAutoImplicit false

namespace BearerGate

structure Injector where
  registry : Injection.Registry
  token : Option Token

namespace Injector

def inject (i : Injector) (location : String) : Except Injection.InjectError Injection.Injected :=
  i.registry.injectFrom location i.token

def injectAs (i : Injector) (α : Type) [Injection.Injectable α] (location : String) :
    Except Injection.InjectError α :=
  (i.inject location).bind Injection.ofInjected

end Injector

namespace Extensions

def caller (e : Extensions) : Except Refusal SecurityContext :=
  match e.context with
  | some context => .ok context
  | none => .error .unauthenticated

def callerInRole (role : String) (e : Extensions) : Except Refusal SecurityContext := do
  let context ← e.caller
  if context.isCallerInRole role then return context else throw (.forbidden role)

def injector (e : Extensions) : Except Refusal Injector :=
  match e.registry with
  | some registry => .ok ⟨registry, e.token⟩
  | none => .error (.notConfigured "claim injection")

end Extensions

end BearerGate
