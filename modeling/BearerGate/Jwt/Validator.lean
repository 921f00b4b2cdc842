import BearerGate.Auth.Context
import BearerGate.Jwt.Header
import BearerGate.Key.Rsa
import BearerGate.Token

/-!
Validating compact tokens. The signature is checked first, over the text as it was received; only
then do the claims count: a token needs an expiry and an issuer, must be valid now within the grace
period, and be issued by the expected issuer. Main statement: when a token is accepted.
-/

set_option autoImplicit false
set_option relaxedAutoImplicit false

namespace BearerGate

inductive Fault
  | malformed
  | badSignature
  | expired
  | notYetValid
  | issuerMismatch
  | unsupportedAlgorithm
  | missingClaim (name : String)
  | other
  deriving DecidableEq, Repr

def Fault.message : Fault → String
  | .malformed => "token is malformed"
  | .badSignature => "token signature does not verify"
  | .expired => "token has expired"
  | .notYetValid => "token is not valid yet"
  | .issuerMismatch => "token issuer does not match"
  | .unsupportedAlgorithm => "token algorithm is not supported"
  | .missingClaim name => "token is missing required claim '" ++ name ++ "'"
  | .other => "token validation failed"

/-- Why there is no token: it is refused, or the validator breaks off. -/
inductive Rejection
  | fault (cause : Fault)
  | crash
  deriving DecidableEq, Repr

abbrev Validator := AuthContext → String → Except Rejection Token

namespace Jwt

inductive Reading (α : Type)
  | absent
  | unreadable
  | value (a : α)
  deriving DecidableEq, Repr

/-- A date in seconds: a number that is not below zero and fits in 64 bits, rounded. -/
def seconds? : Json → Option Nat
  | .int n => if 0 ≤ n.value then some n.value.toNat else none
  | .double d =>
    if (d.value.isNegative = false ∨ d.value.magnitude = 0) ∧
        d.value.magnitude < 2 ^ 64 * 2 ^ 1074 then
      some d.value.roundHalfUp
    else none
  | _ => none

/-- The issuers that a claim names: one, or each of a list. -/
def issuers? : Json → Option (List String)
  | .string s => some [s]
  | .array items => items.mapM Json.string?
  | _ => none

def readClaim {α : Type} (read : Json → Option α) (name : String)
    (members : List (String × Json)) : Reading α :=
  match members.lookup name with
  | none => .absent
  | some value => match read value with
    | some a => .value a
    | none => .unreadable

/-- The claims that the validator reads; each may stand in a payload once. -/
def readNames : List String := ["exp", "nbf", "iss", "sub", "aud"]

def isFilled : Json → Bool
  | .array items => !items.isEmpty
  | .object members => !members.isEmpty
  | _ => false

/-- Whether a member breaks off the reading of the payload: a filled container for a date, or any
container for a subject. -/
def breaksOff (m : String × Json) : Bool :=
  ((m.1 == "exp" || m.1 == "nbf") && isFilled m.2) ||
    (m.1 == "sub" && (m.2.isArray || m.2.isObject))

def isReadable (members : List (String × Json)) : Bool :=
  readNames.all (atMostOnce · members) && !members.any breaksOff

def refuse {α : Type} (cause : Fault) : Except Rejection α := .error (.fault cause)

def orRefuse {α : Type} (cause : Fault) : Option α → Except Rejection α
  | some a => .ok a
  | none => refuse cause

/-- The members of the payload of a token whose signature verifies under a key. -/
def signedMembers (key : List UInt8) (token : List Char) :
    Except Rejection (List (String × Json)) := do
  let parts ← orRefuse .malformed (Parts.ofToken? token)
  let algorithm ← orRefuse .malformed ((partMembers? parts.header).bind headerAlgorithm?)
  if algorithm ≠ .rs256 then refuse .unsupportedAlgorithm
  let signature ← orRefuse .malformed (decodePart? parts.signature)
  if !Key.Rsa.verifies key (Text.Utf8.encode parts.signed) signature then refuse .badSignature
  let members ← orRefuse .malformed (partMembers? parts.payload)
  if isReadable members then return members else refuse .malformed

def needed {α : Type} (name : String) : Reading α → Except Rejection α
  | .value a => .ok a
  | _ => refuse (.missingClaim name)

/-- Check an expiry at a time. The grace period is taken off the time, which must not go below
zero. -/
def checkExpiry (now grace : UInt64) (expiry : Nat) : Except Rejection Unit :=
  if now < grace then .error .crash
  else if expiry < now.toNat - grace.toNat then refuse .expired
  else .ok ()

/-- Check the time before which a token is not valid. The grace period is added to the time, which
must fit in 64 bits. -/
def checkNotBefore (now grace : UInt64) : Reading Nat → Except Rejection Unit
  | .value start =>
    if 2 ^ 64 ≤ now.toNat + grace.toNat then .error .crash
    else if now.toNat + grace.toNat < start then refuse .notYetValid
    else .ok ()
  | _ => .ok ()

def checkClaims (now : UInt64) (context : AuthContext) (members : List (String × Json)) :
    Except Rejection Unit := do
  let expiry ← needed "exp" (readClaim seconds? "exp" members)
  let issuers ← needed "iss" (readClaim issuers? "iss" members)
  let start := readClaim seconds? "nbf" members
  if start = .unreadable then refuse .other
  checkExpiry now context.grace expiry
  checkNotBefore now context.grace start
  if issuers.contains context.issuer then return () else refuse .issuerMismatch

/-- The validator of tokens that are signed with RSA and SHA-256, at a time in seconds. -/
def rs256 (now : UInt64) : Validator := fun context token => do
  let members ← signedMembers context.key token.toList
  checkClaims now context members
  return Token.ofPayload token (Token.payloadOfMembers members)

theorem bind_eq_ok_iff {α β : Type} {x : Except Rejection α} {f : α → Except Rejection β} {b : β} :
    x >>= f = .ok b ↔ ∃ a, x = .ok a ∧ f a = .ok b := by
  cases x with
  | error cause =>
    constructor
    · nofun
    · rintro ⟨_, ⟨⟩, _⟩
  | ok a =>
    constructor
    · intro done
      exact ⟨a, rfl, done⟩
    · rintro ⟨_, ⟨⟩, done⟩
      exact done

theorem toOption_eq_some_iff {α : Type} {x : Except Rejection α} {a : α} :
    x.toOption = some a ↔ x = .ok a := by
  cases x <;> simp [Except.toOption]

theorem orRefuse_eq_ok_iff {α : Type} {cause : Fault} {x : Option α} {a : α} :
    orRefuse cause x = .ok a ↔ x = some a := by
  cases x <;> simp [orRefuse, refuse]

theorem refuse_if_eq_ok_iff {α : Type} {p : Prop} [Decidable p] {cause : Fault}
    {next : Except Rejection α} {a : α} :
    (if p then (refuse cause : Except Rejection PUnit) >>= fun _ => next else next) = .ok a ↔
      ¬ p ∧ next = .ok a := by
  by_cases holds : p
  · simp [holds, refuse, bind, Except.bind]
  · simp [holds]

theorem pure_if_eq_ok_iff {α : Type} {p : Prop} [Decidable p] {cause : Fault} {a b : α} :
    (if p then pure a else refuse cause : Except Rejection α) = .ok b ↔ p ∧ a = b := by
  by_cases holds : p <;> simp [holds, refuse, pure, Except.pure]

theorem bind_eq_error_iff {α β : Type} {x : Except Rejection α} {f : α → Except Rejection β}
    {rejection : Rejection} :
    x >>= f = .error rejection ↔
      x = .error rejection ∨ ∃ a, x = .ok a ∧ f a = .error rejection := by
  cases x with
  | error cause =>
    constructor
    · rintro ⟨⟩
      exact .inl rfl
    · rintro (⟨⟨⟩⟩ | ⟨_, ⟨⟩, _⟩)
      rfl
  | ok a =>
    constructor
    · intro failed
      exact .inr ⟨a, rfl, failed⟩
    · rintro (⟨⟨⟩⟩ | ⟨_, ⟨⟩, failed⟩)
      exact failed

theorem orRefuse_eq_error_iff {α : Type} {cause : Fault} {x : Option α} {rejection : Rejection} :
    orRefuse cause x = .error rejection ↔ x = none ∧ rejection = .fault cause := by
  cases x <;> simp [orRefuse, refuse, eq_comm]

theorem refuse_if_eq_error_iff {α : Type} {p : Prop} [Decidable p] {cause : Fault}
    {next : Except Rejection α} {rejection : Rejection} :
    (if p then (refuse cause : Except Rejection PUnit) >>= fun _ => next else next) =
        .error rejection ↔
      p ∧ rejection = .fault cause ∨ ¬ p ∧ next = .error rejection := by
  by_cases holds : p
  · simp [holds, refuse, bind, Except.bind, eq_comm]
  · simp [holds]

theorem pure_if_eq_error_iff {α : Type} {p : Prop} [Decidable p] {cause : Fault} {a : α}
    {rejection : Rejection} :
    (if p then pure a else refuse cause : Except Rejection α) = .error rejection ↔
      ¬ p ∧ rejection = .fault cause := by
  by_cases holds : p <;> simp [holds, refuse, pure, Except.pure, eq_comm]

theorem readClaim_eq_value_iff {α : Type} {read : Json → Option α} {name : String}
    {members : List (String × Json)} {a : α} :
    readClaim read name members = .value a ↔
      ∃ value, members.lookup name = some value ∧ read value = some a := by
  unfold readClaim
  cases members.lookup name with
  | none => simp
  | some value => cases got : read value <;> simp [got]

theorem needed_eq_ok_iff {α : Type} {name : String} {reading : Reading α} {a : α} :
    needed name reading = .ok a ↔ reading = .value a := by
  cases reading <;> simp [needed, refuse]

theorem checkExpiry_eq_ok_iff {now grace : UInt64} {expiry : Nat} :
    checkExpiry now grace expiry = .ok () ↔
      grace ≤ now ∧ now.toNat ≤ expiry + grace.toNat := by
  rw [checkExpiry, UInt64.le_iff_toNat_le]
  split
  · rename_i early
    rw [UInt64.lt_iff_toNat_lt] at early
    exact ⟨nofun, fun ⟨late, _⟩ => absurd early (Nat.not_lt.mpr late)⟩
  · rename_i late
    rw [UInt64.lt_iff_toNat_lt] at late
    split
    · rename_i expired
      refine ⟨nofun, fun ⟨_, inTime⟩ => ?_⟩
      omega
    · rename_i inTime
      refine ⟨fun _ => ?_, fun _ => rfl⟩
      omega

theorem checkClaims_eq_ok_iff {now : UInt64} {context : AuthContext}
    {members : List (String × Json)} :
    checkClaims now context members = .ok () ↔ ∃ expiry issuers,
      readClaim seconds? "exp" members = .value expiry ∧
      readClaim issuers? "iss" members = .value issuers ∧
      readClaim seconds? "nbf" members ≠ .unreadable ∧
      checkExpiry now context.grace expiry = .ok () ∧
      checkNotBefore now context.grace (readClaim seconds? "nbf" members) = .ok () ∧
      context.issuer ∈ issuers := by
  simp only [checkClaims, bind_eq_ok_iff, needed_eq_ok_iff, refuse_if_eq_ok_iff, pure_if_eq_ok_iff,
    List.contains_iff_mem]
  constructor
  · rintro ⟨expiry, dated, issuers, named, readable, _, inTime, _, begun, issued, _⟩
    exact ⟨expiry, issuers, dated, named, readable, inTime, begun, issued⟩
  · rintro ⟨expiry, issuers, dated, named, readable, inTime, begun, issued⟩
    exact ⟨expiry, dated, issuers, named, readable, (), inTime, (), begun, issued, trivial⟩

theorem signedMembers_eq_ok_iff {key : List UInt8} {token : List Char}
    {members : List (String × Json)} :
    signedMembers key token = .ok members ↔ ∃ parts signature,
      Parts.ofToken? token = some parts ∧
      (partMembers? parts.header).bind headerAlgorithm? = some .rs256 ∧
      decodePart? parts.signature = some signature ∧
      Key.Rsa.verifies key (Text.Utf8.encode parts.signed) signature = true ∧
      partMembers? parts.payload = some members ∧ isReadable members = true := by
  simp only [signedMembers, bind_eq_ok_iff, orRefuse_eq_ok_iff, refuse_if_eq_ok_iff,
    pure_if_eq_ok_iff]
  constructor
  · rintro ⟨parts, cut, algorithm, named, isRs256, signature, decoded, verified, _, read,
      readable, rfl⟩
    have same : algorithm = .rs256 := Decidable.not_not.mp isRs256
    exact ⟨parts, signature, cut, same ▸ named, decoded, by simpa using verified, read, readable⟩
  · rintro ⟨parts, signature, cut, named, decoded, verified, read, readable⟩
    exact ⟨parts, cut, .rs256, named, fun differs => differs rfl, signature, decoded,
      by simpa using verified, members, read, readable, rfl⟩

theorem atMostOnce_of_signed {key : List UInt8} {token : List Char}
    {members : List (String × Json)} (signed : signedMembers key token = .ok members)
    {name : String} (read : name ∈ readNames) : atMostOnce name members = true := by
  obtain ⟨_, _, _, _, _, _, _, readable⟩ := signedMembers_eq_ok_iff.mp signed
  rw [isReadable, Bool.and_eq_true, List.all_eq_true] at readable
  exact readable.1 name read

/-- A token is accepted if it is signed, and its claims are as they have to be. -/
theorem rs256_eq_ok_iff {now : UInt64} {context : AuthContext} {token : String} {t : Token} :
    rs256 now context token = .ok t ↔ ∃ members,
      signedMembers context.key token.toList = .ok members ∧
      checkClaims now context members = .ok () ∧
      t = Token.ofPayload token (Token.payloadOfMembers members) := by
  simp only [rs256, bind_eq_ok_iff]
  constructor
  · rintro ⟨members, signed, _, checked, ⟨⟩⟩
    exact ⟨members, signed, checked, rfl⟩
  · rintro ⟨members, signed, checked, rfl⟩
    exact ⟨members, signed, (), checked, rfl⟩

end Jwt

end BearerGate
