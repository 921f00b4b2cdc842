import BearerGate.Auth.Problem
import BearerGate.Holder
import BearerGate.Identity
import BearerGate.Jwt.Validator

/-!
The authentication mechanism: it takes the bearer token from the headers of a request, has it
validated, and publishes it for the rest of the request. Only the first header value with the bearer
scheme counts. Main statement: what authenticating comes to does not depend on the slot, and only an
accepted token changes the slot.
-/

set_option autoImplicit false
set_option relaxedAutoImplicit false

namespace BearerGate

inductive AuthOutcome
  | authenticated (context : SecurityContext)
  | notAuthenticated
  | notAttempted

def AuthOutcome.token? : AuthOutcome → Option Token
  | .authenticated context => some context.token
  | _ => none

structure Mechanism where
  context : AuthContext
  validator : Validator
  mapping : RoleMapping

namespace Bearer

def lowerByte (b : UInt8) : UInt8 := if 65 ≤ b ∧ b ≤ 90 then b + 32 else b

/-- What follows a scheme at the beginning of a header value; the scheme is given in lower case. -/
def afterScheme? : List UInt8 → List UInt8 → Option (List UInt8)
  | [], value => some value
  | _ :: _, [] => none
  | s :: scheme, b :: value => if lowerByte b = s then afterScheme? scheme value else none

def mark : List UInt8 := Text.utf8 "bearer "

/-- The bytes of the first bearer token among the values of the authorization header. -/
def bytes? (values : List (List UInt8)) : Option (List UInt8) :=
  values.findSome? (afterScheme? mark)

def text? (bytes : List UInt8) : Option String := (Text.ofUtf8? bytes).map Text.trim

end Bearer

namespace Mechanism

def ofSettings (files : Files) (validator : Validator) (s : Settings) :
    Except SettingsError Mechanism :=
  (AuthContext.ofSettings files s).map (⟨·, validator, ⟨s.roleMappings⟩⟩)

def tokenOf? (m : Mechanism) (bytes : List UInt8) : Option Token :=
  (Bearer.text? bytes).bind fun text => (m.validator m.context text).toOption

def contextOf (m : Mechanism) (t : Token) : SecurityContext :=
  SecurityContext.ofToken t m.mapping SecurityContext.bearerScheme

/-- Authenticate a request by its headers. An accepted token is published, if a scope is open. -/
def authenticate (m : Mechanism) (headers : Http.Headers) : Held AuthOutcome :=
  match Bearer.bytes? (headers.values "authorization") with
  | none => pure .notAttempted
  | some bytes => match m.tokenOf? bytes with
    | none => pure .notAuthenticated
    | some t => do
      let _ ← Holder.publish t
      return .authenticated (m.contextOf t)

/-- What authenticating a request comes to, taken outside of all scopes. -/
def outcome (m : Mechanism) (headers : Http.Headers) : AuthOutcome :=
  (m.authenticate headers none).1

theorem authenticate_apply (m : Mechanism) (headers : Http.Headers) (slot : Slot) :
    m.authenticate headers slot =
      (m.outcome headers,
        (m.outcome headers).token?.elim slot fun t => slot.map fun _ => some t) := by
  unfold outcome authenticate
  cases Bearer.bytes? (headers.values "authorization") with
  | none => rfl
  | some bytes =>
    dsimp only
    cases m.tokenOf? bytes with
    | none => rfl
    | some t => cases slot <;> rfl

def inspect (m : Mechanism) : String :=
  "JwtAuthMechanism \x7b ctx: " ++ m.context.inspect ++ ", role_mapping: " ++
    m.mapping.inspect ++ ", .. \x7d"

end Mechanism

end BearerGate
