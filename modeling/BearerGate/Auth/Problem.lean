import BearerGate.Http.Message

/-!
Problems: what a response tells about a request that was not served, as a JSON object with a type, a
title, the status and a detail. Refusals are the problems that authentication gives rise to.
-/

set_option autoImplicit false
set_option relaxedAutoImplicit false

namespace BearerGate

open Http (Response)

structure Problem where
  type : String
  title : String
  status : UInt16
  detail : String
  deriving DecidableEq, Repr

namespace Problem

def new (status : UInt16) (title detail : String) : Problem :=
  ⟨"about:blank", title, status, detail⟩

def unauthorized : Problem := new 401 "Unauthorized" "A valid bearer token is required"

def forbidden (role : String) : Problem :=
  new 403 "Forbidden" ("Caller is not in role '" ++ role ++ "'")

def notConfigured (what : String) : Problem :=
  new 500 "Internal Server Error" (what ++ " not configured")

def statusToJson (status : UInt16) : Json :=
  .int ⟨status.toNat, by omega, by have := UInt16.toNat_lt status; omega⟩

def toJson (p : Problem) : Json :=
  .object [("type", .string p.type), ("title", .string p.title), ("status", statusToJson p.status),
    ("detail", .string p.detail)]

/-- The status of the response to a problem; a number that is no status counts as an error of the
server. -/
def responseStatus (p : Problem) : UInt16 :=
  if 100 ≤ p.status ∧ p.status < 1000 then p.status else 500

def response (p : Problem) : Response :=
  ⟨p.responseStatus, [("content-type", "application/problem+json")], p.toJson.compact⟩

end Problem

def challengeHeader : String × String := ("www-authenticate", "Bearer \x7btoken\x7d")

def addChallenge (r : Response) : Response := { r with headers := r.headers ++ [challengeHeader] }

/-- The challenge added to headers, and the status that goes with them. -/
def sendChallenge (headers : List (String × String)) : UInt16 × List (String × String) :=
  (401, headers ++ [challengeHeader])

/-- The response to a caller who has to be authenticated and is not. -/
def challengeResponse : Response :=
  let problem := Problem.unauthorized.response
  let (status, headers) := sendChallenge problem.headers
  { problem with status, headers }

inductive Refusal
  | unauthenticated
  | forbidden (role : String)
  | notConfigured (what : String)
  deriving DecidableEq, Repr

namespace Refusal

def message : Refusal → String
  | .unauthenticated => "no authenticated caller"
  | .forbidden role => "caller is not in role '" ++ role ++ "'"
  | .notConfigured what => what ++ " not configured"

def response : Refusal → Response
  | .unauthenticated => addChallenge Problem.unauthorized.response
  | .forbidden role => (Problem.forbidden role).response
  | .notConfigured what => (Problem.notConfigured what).response

end Refusal

end BearerGate
