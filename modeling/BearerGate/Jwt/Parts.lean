import BearerGate.Json.Parser
import BearerGate.Text.Base64
import BearerGate.Text.Pieces
import BearerGate.Text.Utf8

/-!
Compact tokens: header, payload and signature in base64, with points between them. Header and
payload are JSON objects; the signature is over both as they were received.
-/

set_option autoImplicit false
set_option relaxedAutoImplicit false

namespace BearerGate.Jwt

/-- The parts of a compact token as they are written. -/
structure Parts where
  header : List Char
  payload : List Char
  signature : List Char
  deriving DecidableEq, Repr

namespace Parts

/-- Take a token apart at its last two points. -/
def ofToken? (token : List Char) : Option Parts := do
  let (signed, signature) ← Text.cutAtLast? '.' token
  let (header, payload) ← Text.cutAtLast? '.' signed
  return ⟨header, payload, signature⟩

def signed (p : Parts) : List Char := p.header ++ '.' :: p.payload

end Parts

def decodePart? (part : List Char) : Option (List UInt8) :=
  Text.Base64.decodeUnpadded? Text.Base64.urlSafe part

def partMembers? (part : List Char) : Option (List (String × Json)) := do
  let bytes ← decodePart? part
  let text ← Text.Utf8.decode? bytes
  (← Json.parseAsWritten Json.depthLimit text).members?

end BearerGate.Jwt
