import BearerGate.Jwt.Parts

/-!
Headers of compact tokens. The header names the algorithm of the signature. Its further members have
to be well formed, and a member that has a meaning of its own stands in it once.
-/

set_option autoImplicit false
set_option relaxedAutoImplicit false

namespace BearerGate.Jwt

inductive Algorithm
  | hs256 | hs384 | hs512 | es256 | es384 | rs256 | rs384 | rs512 | ps256 | ps384 | ps512 | edDsa
  deriving DecidableEq, Repr

def Algorithm.ofName? : String → Option Algorithm
  | "HS256" => some .hs256
  | "HS384" => some .hs384
  | "HS512" => some .hs512
  | "ES256" => some .es256
  | "ES384" => some .es384
  | "RS256" => some .rs256
  | "RS384" => some .rs384
  | "RS512" => some .rs512
  | "PS256" => some .ps256
  | "PS384" => some .ps384
  | "PS512" => some .ps512
  | "EdDSA" => some .edDsa
  | _ => none

/-- The only value that members give to a name. -/
def onlyMember? (name : String) (members : List (String × Json)) : Option Json :=
  match members.filter fun m => m.1 == name with
  | [m] => some m.2
  | _ => none

def atMostOnce (name : String) (members : List (String × Json)) : Bool :=
  (members.filter fun m => m.1 == name).length ≤ 1

def isTextOrNull : Json → Bool
  | .string _ => true
  | .null => true
  | _ => false

def isTextsOrNull : Json → Bool
  | .array items => items.all Json.isString
  | .null => true
  | _ => false

namespace KeyMember

def textNames : List String := ["use", "alg", "kid", "x5u", "x5t", "x5t#S256"]

def listNames : List String := ["key_ops", "x5c"]

def curves : List String := ["P-256", "P-384", "P-521", "Ed25519"]

/-- The members that a key of a kind consists of. -/
def partsOfKind : String → Option (List String)
  | "EC" => some ["crv", "x", "y"]
  | "RSA" => some ["n", "e"]
  | "oct" => some ["k"]
  | "OKP" => some ["crv", "x"]
  | _ => none

/-- Whether members have one text under a name, and it is a curve if the name is that of a curve. -/
def hasPart (members : List (String × Json)) (name : String) : Bool :=
  match onlyMember? name members with
  | some (.string text) => name != "crv" || curves.contains text
  | _ => false

def isKey (members : List (String × Json)) : Bool :=
  (textNames ++ listNames).all (atMostOnce · members) &&
    members.all (fun m =>
      (!textNames.contains m.1 || isTextOrNull m.2) &&
        (!listNames.contains m.1 || isTextsOrNull m.2)) &&
    match onlyMember? "kty" members with
    | some (.string kind) => match partsOfKind kind with
      | some parts => parts.all (hasPart members)
      | none => false
    | _ => false

end KeyMember

def headerTexts : List String :=
  ["typ", "cty", "jku", "kid", "x5u", "x5t", "x5t#S256", "enc", "zip", "url", "nonce"]

def headerLists : List String := ["x5c", "crit"]

/-- The members of a header that have a meaning of their own. -/
def headerNames : List String := headerTexts ++ headerLists ++ ["jwk", "alg"]

def isHeaderMember (name : String) (value : Json) : Bool :=
  if headerTexts.contains name then isTextOrNull value
  else if headerLists.contains name then isTextsOrNull value
  else if name = "jwk" then match value with
    | .null => true
    | .object members => KeyMember.isKey members
    | _ => false
  else value.isString

def headerAlgorithm? (members : List (String × Json)) : Option Algorithm :=
  if headerNames.all (atMostOnce · members) && members.all fun m => isHeaderMember m.1 m.2 then
    ((onlyMember? "alg" members).bind Json.string?).bind Algorithm.ofName?
  else none

end BearerGate.Jwt
