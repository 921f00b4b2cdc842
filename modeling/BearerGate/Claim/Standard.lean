/-!
Standard claims: the names that the bearer-token profile knows, each with the one kind of value that
it carries. Main statement: a name finds the claim that bears it.
-/

set_option autoImplicit false
set_option relaxedAutoImplicit false

namespace BearerGate.Claim

inductive Kind
  | string | long | boolean | stringSet | jsonObject
  deriving DecidableEq, Repr

namespace Kind

def all : List Kind := [.string, .long, .boolean, .stringSet, .jsonObject]

def label : Kind → String
  | .string => "String"
  | .long => "Long"
  | .boolean => "Boolean"
  | .stringSet => "StringSet"
  | .jsonObject => "JsonObject"

end Kind

/-- A claim that can be selected without giving its name. -/
inductive Standard
  | iss | sub | aud | exp | iat | jti | upn | groups | rawToken | nbf | authTime | updatedAt
  | azp | nonce | atHash | cHash | fullName | familyName | middleName | nickname | givenName
  | preferredUsername | email | emailVerified | gender | birthdate | zoneinfo | locale
  | phoneNumber | phoneNumberVerified | address | acr | amr | subJwk | cnf | sipFromTag | sipDate
  | sipCallid | sipCseqNum | sipViaBranch | orig | dest | mky | jwk | jwe | kid | jku
  deriving DecidableEq, Repr

namespace Standard

structure Entry where
  name : String
  kind : Kind
  description : String

/-- All standard claims in the order of the profile. -/
def all : List Standard :=
  [.iss, .sub, .aud, .exp, .iat, .jti, .upn, .groups, .rawToken, .nbf, .authTime, .updatedAt,
    .azp, .nonce, .atHash, .cHash, .fullName, .familyName, .middleName, .nickname, .givenName,
    .preferredUsername, .email, .emailVerified, .gender, .birthdate, .zoneinfo, .locale,
    .phoneNumber, .phoneNumberVerified, .address, .acr, .amr, .subJwk, .cnf, .sipFromTag,
    .sipDate, .sipCallid, .sipCseqNum, .sipViaBranch, .orig, .dest, .mky, .jwk, .jwe, .kid, .jku]

def entry : Standard → Entry
  | .iss => ⟨"iss", .string, "Issuer"⟩
  | .sub => ⟨"sub", .string, "Subject"⟩
  | .aud => ⟨"aud", .stringSet, "Audience"⟩
  | .exp => ⟨"exp", .long, "Expiration time"⟩
  | .iat => ⟨"iat", .long, "Issued at time"⟩
  | .jti => ⟨"jti", .string, "JWT ID"⟩
  | .upn => ⟨"upn", .string, "MP-JWT specific unique principal name"⟩
  | .groups => ⟨"groups", .stringSet, "MP-JWT specific groups permission grant"⟩
  | .rawToken => ⟨"raw_token", .string, "MP-JWT specific original bearer token"⟩
  | .nbf => ⟨"nbf", .long, "Not before"⟩
  | .authTime => ⟨"auth_time", .long, "Time when the authentication occurred"⟩
  | .updatedAt => ⟨"updated_at", .long, "Time the information was last updated"⟩
  | .azp => ⟨"azp", .string, "Authorized party - the party to which the ID Token was issued"⟩
  | .nonce => ⟨"nonce", .string, "Value used to associate a client session with an ID Token"⟩
  | .atHash => ⟨"at_hash", .long, "Access Token hash value"⟩
  | .cHash => ⟨"c_hash", .long, "Code hash value"⟩
  | .fullName => ⟨"full_name", .string, "Full name"⟩
  | .familyName => ⟨"family_name", .string, "Surname(s) or last name(s)"⟩
  | .middleName => ⟨"middle_name", .string, "Middle name(s)"⟩
  | .nickname => ⟨"nickname", .string, "Casual name"⟩
  | .givenName => ⟨"given_name", .string, "Given name(s) or first name(s)"⟩
  | .preferredUsername =>
    ⟨"preferred_username", .string,
      "Shorthand name by which the End-User wishes to be referred to"⟩
  | .email => ⟨"email", .string, "Preferred e-mail address"⟩
  | .emailVerified => ⟨"email_verified", .boolean, "True if the e-mail address has been verified"⟩
  | .gender => ⟨"gender", .string, "Gender"⟩
  | .birthdate => ⟨"birthdate", .string, "Birthday"⟩
  | .zoneinfo => ⟨"zoneinfo", .string, "Time zone"⟩
  | .locale => ⟨"locale", .string, "Locale"⟩
  | .phoneNumber => ⟨"phone_number", .string, "Preferred telephone number"⟩
  | .phoneNumberVerified =>
    ⟨"phone_number_verified", .boolean,
      "True if the phone number has been verified"⟩
  | .address => ⟨"address", .jsonObject, "Preferred postal address"⟩
  | .acr => ⟨"acr", .string, "Authentication Context Class Reference"⟩
  | .amr => ⟨"amr", .string, "Authentication Methods References"⟩
  | .subJwk => ⟨"sub_jwk", .jsonObject, "Public key used to check the signature of an ID Token"⟩
  | .cnf => ⟨"cnf", .string, "Confirmation"⟩
  | .sipFromTag => ⟨"sip_from_tag", .string, "SIP From tag header field parameter value"⟩
  | .sipDate => ⟨"sip_date", .string, "SIP Date header field value"⟩
  | .sipCallid => ⟨"sip_callid", .string, "SIP Call-Id header field value"⟩
  | .sipCseqNum => ⟨"sip_cseq_num", .string, "SIP CSeq numeric header field parameter value"⟩
  | .sipViaBranch => ⟨"sip_via_branch", .string, "SIP Via branch header field parameter value"⟩
  | .orig => ⟨"orig", .string, "Originating Identity String"⟩
  | .dest => ⟨"dest", .string, "Destination Identity String"⟩
  | .mky => ⟨"mky", .string, "Media Key Fingerprint String"⟩
  | .jwk => ⟨"jwk", .jsonObject, "JSON Web Key Representing Public Key"⟩
  | .jwe => ⟨"jwe", .string, "Encrypted JSON Web Key"⟩
  | .kid => ⟨"kid", .string, "Key identifier"⟩
  | .jku => ⟨"jku", .string, "JWK Set URL"⟩

def name (c : Standard) : String := c.entry.name

def kind (c : Standard) : Kind := c.entry.kind

def description (c : Standard) : String := c.entry.description

def ofName? (name : String) : Option Standard := all.find? (·.name == name)

theorem ofName?_name (c : Standard) : ofName? c.name = some c := by cases c <;> decide

end Standard

structure UnknownName where
  name : String
  deriving DecidableEq, Repr

def UnknownName.message (e : UnknownName) : String :=
  "'" ++ e.name ++ "' is not a standard claim name"

def Standard.parse (name : String) : Except UnknownName Standard :=
  match ofName? name with
  | some c => .ok c
  | none => .error ⟨name⟩

end BearerGate.Claim
