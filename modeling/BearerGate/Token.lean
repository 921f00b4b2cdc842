import BearerGate.Claim.Inspect
import BearerGate.Claim.Lift

/-!
Tokens: the claims of a validated bearer token, and the text in which it was received. That text is
the claim `raw_token`, whatever the payload gives under this name. Main statements: what each
look-up finds.
-/

set_option autoImplicit false
set_option relaxedAutoImplicit false

namespace BearerGate

open Claim (Standard Data)

structure Token where
  raw : String
  claims : TextMap Data
  rawNotClaimed : claims.find? Standard.rawToken.name = none

namespace Token

def ofClaims (raw : String) (claims : TextMap Data) : Token where
  raw := raw
  claims := claims.erase Standard.rawToken.name
  rawNotClaimed := by simp

/-- The claims of a payload: each member lifted as the standard claim of its name wants it. -/
def claimsOfPayload (payload : TextMap Json) : TextMap Data :=
  payload.filterMap fun name value =>
    Data.ofJson ((Standard.ofName? name).map Standard.kind) value

def ofPayload (raw : String) (payload : TextMap Json) : Token :=
  ofClaims raw (claimsOfPayload payload)

def payloadOfMembers (members : List (String × Json)) : TextMap Json :=
  TextMap.ofList (members.map fun m => (m.1, m.2.ordered))

def payloadClaim? (t : Token) (name : String) : Option Data := t.claims.find? name

/-- A claim of the token; its own text is always one. -/
def claim? (t : Token) (name : String) : Option Data :=
  if name = Standard.rawToken.name then some (.string t.raw) else t.payloadClaim? name

def hasClaim (t : Token) (name : String) : Bool :=
  name == Standard.rawToken.name || t.claims.contains name

def claimNames (t : Token) : TextSet := t.claims.keySet.insert Standard.rawToken.name

def textClaim? (t : Token) (c : Standard) : Option String :=
  (t.payloadClaim? c.name).bind Data.string?

def longClaim? (t : Token) (c : Standard) : Option Int64 := (t.payloadClaim? c.name).bind Data.long?

/-- The texts of a claim that is a set of texts or can be read as one; otherwise none. -/
def textsOf (t : Token) (name : String) : TextSet :=
  ((t.payloadClaim? name).bind Data.textSet?).getD TextSet.empty

/-- The claims that can name the caller, the most specific first. -/
def nameClaims : List Standard := [.upn, .preferredUsername, .sub]

def name (t : Token) : String := (nameClaims.findSome? t.textClaim?).getD ""

def issuer? (t : Token) : Option String := t.textClaim? .iss

def subject? (t : Token) : Option String := t.textClaim? .sub

def id? (t : Token) : Option String := t.textClaim? .jti

def audience (t : Token) : TextSet := t.textsOf Standard.aud.name

def expiration? (t : Token) : Option Int64 := t.longClaim? .exp

def issuedAt? (t : Token) : Option Int64 := t.longClaim? .iat

def groups (t : Token) : TextSet := t.textsOf Standard.groups.name

def rolesClaim : String := "roles"

/-- The roles of the caller: those of the roles claim, and every group. -/
def roles (t : Token) : TextSet := (t.textsOf rolesClaim).union t.groups

/-- The inspection text of a token, which does not show the text it was received in. -/
def inspect (t : Token) : String :=
  "JsonWebToken \x7b name: " ++ Text.quoted t.name ++ ", claims: \x7b" ++
    Data.commaSeparated (Data.inspectFields t.claims.entries) ++
    "\x7d, raw_token: SecretBox<str>([REDACTED]) \x7d"

theorem payloadClaim?_rawToken (t : Token) : t.payloadClaim? Standard.rawToken.name = none :=
  t.rawNotClaimed

theorem payloadClaim?_ofPayload (raw : String) (payload : TextMap Json) {name : String}
    (ne : name ≠ Standard.rawToken.name) :
    (ofPayload raw payload).payloadClaim? name =
      (payload.find? name).bind (Data.ofJson ((Standard.ofName? name).map Standard.kind)) := by
  simp [payloadClaim?, ofPayload, ofClaims, claimsOfPayload, Ne.symm ne]

theorem claim?_of_ne (t : Token) {name : String} (ne : name ≠ Standard.rawToken.name) :
    t.claim? name = t.payloadClaim? name := by simp [claim?, ne]

end Token

end BearerGate
