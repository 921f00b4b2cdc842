import BearerGate.Endpoint.Router

/-!
The roles endpoint: echoes for callers with a role, a report on the caller, and the comparison of
injected claims with the values that a query expects.
-/

set_option autoImplicit false
set_option relaxedAutoImplicit false

namespace BearerGate.Endpoint

open Http (Query Request Response)
open Injection (Binding DeclaredType Injectable Named Point Provider Registry)

namespace Site

def ofField (field : String) : String := "RolesEndpoint::" ++ field

def rawToken : String := ofField "raw_token"

def issuer : String := ofField "issuer"

def id : String := ofField "jti"

def idProvider : String := ofField "provider_jti"

def optionalId : String := ofField "opt_jti"

def anyId : String := ofField "obj_jti"

def audience : String := ofField "aud"

def groups : String := ofField "groups"

def issuedAt : String := ofField "issued_at"

def issuedAtAgain : String := ofField "dup_issued_at"

def issuedAtProvider : String := ofField "provider_iat"

def subject : String := ofField "opt_subject"

def authTime : String := ofField "auth_time"

def custom : String := ofField "custom"

end Site

/-- A declaration of the endpoint, which lives as long as the application. -/
def declare (location : String) (binding : Binding) (type : DeclaredType) : Point :=
  ⟨location, binding, type, .application⟩

def standard (claim : Claim.Standard) : Binding := ⟨some claim, ""⟩

def named (claim : String) : Binding := ⟨none, claim⟩

def points : List Point :=
  [declare Site.rawToken (standard .rawToken) (.claimValue (.value .string)),
    declare Site.issuer (standard .iss) (.claimValue (.value .string)),
    declare Site.id (standard .jti) (.claimValue (.value .string)),
    declare Site.idProvider (standard .jti) (.provider (.value .string)),
    declare Site.optionalId (named "jti") (.claimValue (.optional (.value .string))),
    declare Site.anyId (named "jti") (.claimValue (.value .any)),
    declare Site.audience (named "aud") (.claimValue (.value .stringSet)),
    declare Site.groups (named "groups") (.claimValue (.value .stringSet)),
    declare Site.issuedAt (named "iat") (.claimValue (.value .long)),
    declare Site.issuedAtAgain (named "iat") (.claimValue (.value .long)),
    declare Site.issuedAtProvider (standard .iat) (.provider (.value .long)),
    declare Site.subject (named "sub") (.claimValue (.optional (.value .string))),
    declare Site.authTime (named "auth_time") (.claimValue (.optional (.value .long))),
    declare Site.custom (named "custom-missing") (.claimValue (.optional (.value .long)))]

structure Roles where
  id : Provider
  issuedAt : Provider

def providerAt (registry : Registry) (location : String) :
    Except Injection.InjectError Provider :=
  (registry.injectFrom location none).bind Injection.ofInjected

def Roles.ofRegistry (registry : Registry) : Except Injection.InjectError Roles := do
  return ⟨← providerAt registry Site.idProvider, ← providerAt registry Site.issuedAtProvider⟩

/-- The value of a named claim, if it is there and of the type. -/
def valueAt (injector : Injector) (α : Type) [Injectable α] (location : String) : Option α :=
  match injector.injectAs (Named (Option α)) location with
  | .ok claim => claim.value
  | .error _ => none

/-- The value of a kept provider, if it is there and of the type. -/
def valueOf (provider : Provider) (α : Type) [Injectable α] : Held (Option α) := do
  match ← provider.getAs (Option α) with
  | .ok value => return value
  | .error _ => return none

inductive Verdict
  | pass | fail | missing
  deriving DecidableEq, Repr

def Verdict.name : Verdict → String
  | .pass => "PASS"
  | .fail => "FAIL"
  | .missing => "MISSING"

def Verdict.of {α : Type} [DecidableEq α] (actual expected : Option α) : Verdict :=
  match actual with
  | none => .missing
  | some a => if expected = some a then .pass else .fail

def Verdict.ofMember (actual : Option TextSet) (expected : Option String) : Verdict :=
  match actual with
  | none => .missing
  | some set => if expected.any set.contains then .pass else .fail

/-- Check that a claim without value is injected as such. -/
def Verdict.ofAbsence {α ε : Type} : Except ε (Named (Option α)) → Verdict
  | .ok claim => if claim.value.isNone then .pass else .fail
  | .error _ => .missing

structure Expected where
  issuer : Option String
  rawToken : Option String
  id : Option String
  audience : Option String
  issuedAt : Option Int64
  subject : Option String
  authTime : Option Int64

def Expected.ofQuery (q : Query) : Except Query.Malformed Expected := do
  return ⟨← q.text? "iss", ← q.text? "raw_token", ← q.text? "jti", ← q.text? "aud",
    ← q.integer? "iat", ← q.text? "sub", ← q.integer? "auth_time"⟩

structure Report where
  issuer : Verdict
  rawToken : Verdict
  id : Verdict
  optionalId : Verdict
  anyId : Verdict
  idProvider : Verdict
  audience : Verdict
  issuedAt : Verdict
  issuedAtAgain : Verdict
  issuedAtProvider : Verdict
  subject : Verdict
  authTime : Verdict
  custom : Verdict
  groups : TextSet

def Report.toJson (r : Report) : Json :=
  let verdict := fun (name : String) (v : Verdict) => (name, Json.string v.name)
  .object [verdict "aud" r.audience, verdict "auth_time" r.authTime,
    verdict "custom-missing" r.custom, ("groups", Identity.textsToJson r.groups),
    verdict "iat" r.issuedAt, verdict "iat-Dupe" r.issuedAtAgain,
    verdict "iat-Provider" r.issuedAtProvider, verdict "iss" r.issuer, verdict "jti" r.id,
    verdict "jti-Object" r.anyId, verdict "jti-Optional" r.optionalId,
    verdict "jti-Provider" r.idProvider, verdict "raw_token" r.rawToken,
    verdict "sub-Optional" r.subject]

namespace Roles

def report (roles : Roles) (injector : Injector) (expected : Expected) : Held Report := do
  let id ← valueOf roles.id String
  let issuedAt ← valueOf roles.issuedAt Int64
  return {
    issuer := .of (valueAt injector String Site.issuer) expected.issuer
    rawToken := .of (valueAt injector String Site.rawToken) expected.rawToken
    id := .of (valueAt injector String Site.id) expected.id
    optionalId := .of (valueAt injector String Site.optionalId) expected.id
    anyId := .of (valueAt injector String Site.anyId) expected.id
    idProvider := .of id expected.id
    audience := .ofMember (valueAt injector TextSet Site.audience) expected.audience
    issuedAt := .of (valueAt injector Int64 Site.issuedAt) expected.issuedAt
    issuedAtAgain := .of (valueAt injector Int64 Site.issuedAtAgain) expected.issuedAt
    issuedAtProvider := .of issuedAt expected.issuedAt
    subject := .of (valueAt injector String Site.subject) expected.subject
    authTime := .of (valueAt injector Int64 Site.authTime) expected.authTime
    custom := .ofAbsence (injector.injectAs (Named (Option Int64)) Site.custom)
    groups := (valueAt injector TextSet Site.groups).getD TextSet.empty }

def echo (role : String) : Service := fun r e =>
  unlessRefused (e.callerInRole role) fun caller =>
    unlessMalformed ((Query.ofRequest r).text? "input") fun input =>
      return Response.text 200 (input.getD "" ++ ", user=" ++ caller.principalName)

def nameCaller (role : String) : Service := fun _ e =>
  unlessRefused (e.callerInRole role) fun caller =>
    return Response.text 200 caller.principalName

def whoAmI : Service := fun _ e =>
  unlessRefused e.caller fun caller =>
    let identity := caller.identity
    return Response.json (Json.object [("groups", Identity.textsToJson identity.groups),
      ("name", .string identity.name),
      ("principals", .array (Principal.listToJson identity.principals)),
      ("roles", Identity.textsToJson identity.roles),
      ("scheme", .string caller.scheme)]).ordered

def compareIssuer (actual expected : Option String) : Bool × String :=
  match actual with
  | none => (false, "iss value is null or empty")
  | some issuer =>
    if expected = some issuer then (true, "iss PASS")
    else (false, "iss: " ++ issuer ++ " != " ++ expected.getD "")

def verifyIssuer : Service := fun r e =>
  unlessRefused e.injector fun injector =>
    unlessMalformed ((Query.ofRequest r).text? "iss") fun expected =>
      let (pass, message) := compareIssuer (valueAt injector String Site.issuer) expected
      return Response.json (.object [("msg", .string message), ("pass", .bool pass)])

def verifyClaims (roles : Roles) : Service := fun r e =>
  unlessRefused e.injector fun injector =>
    unlessMalformed (Expected.ofQuery (Query.ofRequest r)) fun expected => do
      return Response.json (← roles.report injector expected).toJson

def health : Service := fun _ _ => return Response.json (.object [("status", .string "UP")])

def router (roles : Roles) : Router
  | "/endp/echo" => some (echo "Echoer")
  | "/endp/echo2" => some (echo "NoSuchUser")
  | "/endp/needsGroup1Mapping" => some (nameCaller "Group1MappedRole")
  | "/endp/whoami" => some whoAmI
  | "/endp/verifyInjectedIssuer" => some verifyIssuer
  | "/endp/verifyInjectedClaims" => some roles.verifyClaims
  | "/endp/health" => some health
  | _ => none

end Roles

end BearerGate.Endpoint
