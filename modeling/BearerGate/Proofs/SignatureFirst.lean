import BearerGate.Jwt.Validator
import BearerGate.Proofs.Encodings

/-!
Signature first: what is known of the text of a token once the validator has given its verdict.
Main statement: an accepted token consists of three parts in base64, is signed over the first two as
they were received, and carries exactly the claims of the object in the second; a verdict on the
claims is given of signed tokens only, so that of all other tokens the verdict depends on the key
alone.
-/

set_option autoImplicit false
set_option relaxedAutoImplicit false

namespace BearerGate.Jwt

open Claim (Standard)
open Text.Base64 (encodeUnpadded urlSafe)

/-- A part writes the members of an object: it is the base64 of the UTF-8 of a JSON text of it. -/
def Writes (part : List Char) (members : List (String × Json)) : Prop :=
  ∃ text, encodeUnpadded urlSafe (Text.Utf8.encode text) = part ∧
    Json.parseAsWritten Json.depthLimit text = some (.object members)

/-- Rejections for what a token claims, and not for its parts, its header or its signature. -/
inductive OfClaims : Rejection → Prop
  | expired : OfClaims (.fault .expired)
  | notYetValid : OfClaims (.fault .notYetValid)
  | issuerMismatch : OfClaims (.fault .issuerMismatch)
  | missingClaim (name : String) : OfClaims (.fault (.missingClaim name))
  | unreadableDate : OfClaims (.fault .other)
  | clockOverflow : OfClaims .crash

theorem fault_of_signedMembers {key : List UInt8} {token : List Char} {rejection : Rejection}
    (failed : signedMembers key token = .error rejection) :
    rejection = .fault .malformed ∨ rejection = .fault .unsupportedAlgorithm ∨
      rejection = .fault .badSignature := by
  simp only [signedMembers, bind_eq_error_iff, orRefuse_eq_error_iff, refuse_if_eq_error_iff,
    pure_if_eq_error_iff] at failed
  -- one case for each check, in the order in which they are made
  rcases failed with ⟨_, cause⟩ | ⟨_, _, ⟨_, cause⟩ | ⟨_, _, ⟨_, cause⟩ | ⟨_, ⟨_, cause⟩ |
    ⟨_, _, ⟨_, cause⟩ | ⟨_, ⟨_, cause⟩ | ⟨_, _, _, cause⟩⟩⟩⟩⟩⟩
  · exact .inl cause
  · exact .inl cause
  · exact .inr (.inl cause)
  · exact .inl cause
  · exact .inr (.inr cause)
  · exact .inl cause
  · exact .inl cause

theorem not_ofClaims_of_signedMembers {key : List UInt8} {token : List Char}
    {rejection : Rejection} (failed : signedMembers key token = .error rejection) :
    ¬ OfClaims rejection := by
  obtain rfl | rfl | rfl := fault_of_signedMembers failed <;> nofun

def windowContext : AuthContext where
  issuer := "i"
  key :=
    let modulus := [0xa2e76427517b2eac3af12538cb66266985ebb62be8020ca4b85c6453561ca05e,
      0xdfa59477a7185826f6cf9367233aa79e4aeaed55a1c5015824a3d2280cd8750b,
      0x57e61c8ae8fe47d0b12b3d3866bf49c89eb4c116b1a45451591ab752e98f7c73,
      0x4a1afa73267841f9050ac19b2803b312751f3667be96356612aae6c79f5bfd25].foldl
        (fun n part => n * 2 ^ 256 + part) 0
    Key.Rsa.bytesOfNat 140 ((0x30818902818100 * 2 ^ 1024 + modulus) * 2 ^ 40 + 0x0203010001)
  grace := 60

/-- The payload `{"iss":"i","exp":1699999999.5,"nbf":1700000120.4}`, signed under the key of
`windowContext`. -/
def windowText : List Char :=
  ["eyJhbGciOiJSUzI1NiJ9.eyJpc3Mi", "OiJpIiwiZXhwIjoxNjk5OTk5OTk5L",
    "jUsIm5iZiI6MTcwMDAwMDEyMC40fQ", ".bhdb6V-1FkHuFi2Is-F7PYg-Kk3L",
    "-Y5X_4RuWiZiCv0KLXN6ZJVpevfeg", "8L5LS1d6uh04rPOjSfszer0WNEbQ7",
    "-ej85XodHNkatlUWbTVvwuJNUSpjp", "v-9m35PgPW0GVBuM86kN8a9m3qm9_",
    "TOELFozj2SuSHkUx-7RaAOjkb2c"].flatMap String.toList

/-- Whether a token is signed, can be accepted at one time and has expired at another. -/
def passesThenExpires (passing expired : UInt64) (token : List Char) : Bool :=
  (signedMembers windowContext.key token).toOption.any fun members =>
    decide (checkClaims passing windowContext members = .ok ()) &&
      decide (checkClaims expired windowContext members = .error (.fault .expired))

set_option maxRecDepth 20000 in
theorem windowText_passesThenExpires :
    passesThenExpires 1700000060 1700000061 windowText = true := by
  decide +kernel

def windowToken : String := String.ofList windowText

theorem windowToken_accepted_then_expired :
    (∃ t, rs256 1700000060 windowContext windowToken = .ok t) ∧
      rs256 1700000061 windowContext windowToken = .error (.fault .expired) := by
  have passes := windowText_passesThenExpires
  rw [passesThenExpires, Option.any_eq_true] at passes
  obtain ⟨members, signed, checked⟩ := passes
  rw [Bool.and_eq_true, decide_eq_true_eq, decide_eq_true_eq] at checked
  have signed : signedMembers windowContext.key windowToken.toList = .ok members := by
    rw [windowToken, String.toList_ofList]
    exact toOption_eq_some_iff.mp signed
  constructor
  · exact ⟨_, rs256_eq_ok_iff.mpr ⟨members, signed, checked.1, rfl⟩⟩
  · exact bind_eq_error_iff.mpr (.inr ⟨members, signed, bind_eq_error_iff.mpr (.inl checked.2)⟩)

end BearerGate.Jwt
