import BearerGate.Injection.Injected
import BearerGate.Jwt.Validator
import BearerGate.Proofs.Encodings
import BearerGate.Proofs.RoleDerivation

/-!
Claims of accepted tokens: the validator reads the payload in one way, the application through the
claims of the token in another. Main statement: of an accepted token the application reads the
issuer that was checked if the payload gives one text, and the expiry that was checked if the
payload gives an integer that fits in a long. A list of issuers is no text, though each of them is
in the set that is read of it, and a number of another form is no long.
-/

set_option autoImplicit false
set_option relaxedAutoImplicit false

namespace BearerGate

open Claim (Standard Kind Data)
open Injection (Injected produce produce_value coerce)

namespace Json

theorem string?_eq_some_iff (j : Json) (text : String) :
    j.string? = some text ↔ j = .string text := by
  cases j <;> simp [string?]

end Json

namespace Token

private theorem lookup_map_ordered (name : String) (members : List (String × Json)) :
    (members.map fun m => (m.1, m.2.ordered)).lookup name =
      (members.lookup name).map Json.ordered := by
  induction members with
  | nil => rfl
  | cons member rest ih =>
    rw [List.map_cons, TextMap.lookup_cons, TextMap.lookup_cons, ih]
    by_cases here : member.1 = name
    · rw [if_pos here, if_pos here, Option.map_some]
    · rw [if_neg here, if_neg here]

theorem find?_payloadOfMembers {name : String} {members : List (String × Json)}
    (once : Jwt.atMostOnce name members = true) :
    (payloadOfMembers members).find? name = (members.lookup name).map Json.ordered := by
  have orderedOnce : ((members.map fun m => (m.1, m.2.ordered)).filter fun m =>
      m.1 == name).length ≤ 1 := by
    rw [List.filter_map, List.length_map]
    exact of_decide_eq_true once
  rw [payloadOfMembers, TextMap.find?_ofList orderedOnce, lookup_map_ordered]

theorem payloadClaim?_payloadOfMembers (raw : String) {c : Standard}
    {members : List (String × Json)} {value : Json} (ne : c.name ≠ Standard.rawToken.name)
    (noSet : c.kind ≠ .stringSet) (once : Jwt.atMostOnce c.name members = true)
    (given : members.lookup c.name = some value) :
    (ofPayload raw (payloadOfMembers members)).payloadClaim? c.name = Data.lift value.ordered := by
  have plain : (Standard.ofName? c.name).map Standard.kind ≠ some .stringSet := by
    rw [Standard.ofName?_name]
    exact fun same => noSet (Option.some.inj same)
  rw [payloadClaim?_ofPayload _ _ ne, find?_payloadOfMembers once, given]
  exact Data.ofJson_of_ne plain

end Token

namespace Jwt

/-- What an application reads of the issuer that was checked, by the value that gives it. -/
inductive IssuerRead (t : Token) (issuer : String) : Json → Prop
  | text (accessor : t.issuer? = some issuer)
      (injected : produce "iss" (some t) (.value .string) = .claim (.string issuer)) :
      IssuerRead t issuer (.string issuer)
  | list {items : List Json} (listed : .string issuer ∈ items) (accessor : t.issuer? = none)
      (injected : produce "iss" (some t) (.value .string) = .null) :
      IssuerRead t issuer (.array items)

/-- What an application reads of the expiry that was checked, by the value that gives it. -/
inductive ExpiryRead (t : Token) (expiry : Nat) : Json → Prop
  | long {n : WordInt} {word : Int64} (same : word.toInt = expiry)
      (accessor : t.expiration? = some word)
      (injected : produce "exp" (some t) (.value .long) = .claim (.long word)) :
      ExpiryRead t expiry (.int n)
  | beyond {n : WordInt} (great : 2 ^ 63 ≤ expiry) (accessor : t.expiration? = none)
      (injected : produce "exp" (some t) (.value .long) = .null) :
      ExpiryRead t expiry (.int n)
  | double {d : FiniteDouble} (accessor : t.expiration? = none)
      (injected : produce "exp" (some t) (.value .long) = .null) :
      ExpiryRead t expiry (.double d)

private theorem names_ordered_iff {value : Json} {issuers : List String}
    (read : issuers? value = some issuers) (text : String) :
    value.ordered.Names text ↔ text ∈ issuers := by
  cases value with
  | string s =>
    cases read
    rw [Json.ordered, Json.names_string_iff, List.mem_singleton]
    all_goals
      intro _ isContainer
      cases isContainer
  | array items =>
    have texts : items = issuers.map .string :=
      (Text.mapM_eq_some_iff_eq_map Json.string?_eq_some_iff).mp read
    rw [Json.ordered, texts, Json.orderedItems_map_string, Json.names_array_iff]
    simp [Json.isString]
  | null | bool _ | int _ | double _ | object _ => cases read

theorem issuerRead_of_checked {t : Token} {issuer : String} {issuers : List String} {value : Json}
    (claimed : t.payloadClaim? "iss" = Data.lift value.ordered)
    (read : issuers? value = some issuers) (checked : issuer ∈ issuers) :
    IssuerRead t issuer value := by
  have ne : "iss" ≠ Standard.rawToken.name := by decide
  have accessor : t.issuer? = (t.payloadClaim? "iss").bind Data.string? := rfl
  have injected := produce_value t ne .string
  rw [claimed] at accessor injected
  cases value with
  | string s =>
    cases read
    cases List.mem_singleton.mp checked
    exact .text (by simpa [Json.ordered, Data.lift, Data.string?] using accessor)
      (by simpa [Json.ordered, Data.lift, coerce] using injected)
  | array items =>
    have texts : items = issuers.map .string :=
      (Text.mapM_eq_some_iff_eq_map Json.string?_eq_some_iff).mp read
    exact .list (texts ▸ List.mem_map_of_mem checked)
      (by simpa [Json.ordered, Data.lift, Data.string?] using accessor)
      (by simpa [Json.ordered, Data.lift, coerce] using injected)
  | null | bool _ | int _ | double _ | object _ => cases read

theorem expiryRead_of_checked {t : Token} {expiry : Nat} {value : Json}
    (claimed : t.payloadClaim? "exp" = Data.lift value.ordered)
    (read : seconds? value = some expiry) : ExpiryRead t expiry value := by
  have ne : "exp" ≠ Standard.rawToken.name := by decide
  have accessor : t.expiration? = (t.payloadClaim? "exp").bind Data.long? := rfl
  have injected := produce_value t ne .long
  rw [claimed] at accessor injected
  cases value with
  | int n =>
    simp only [Json.ordered, Data.lift, WordInt.toInt64?, Option.bind_some] at accessor injected
    obtain ⟨notNegative, same⟩ : 0 ≤ n.value ∧ n.value.toNat = expiry := by
      rw [seconds?] at read
      split at read
      · rename_i notNegative
        exact ⟨notNegative, Option.some.inj read⟩
      · cases read
    by_cases fits : n.value < 2 ^ 63
    · rw [if_pos fits] at accessor injected
      refine .long ?_ accessor injected
      rw [Int64.toInt_ofInt_of_le (by omega) fits]
      omega
    · rw [if_neg fits] at accessor injected
      exact .beyond (by omega) accessor injected
  | double d =>
    exact .double (by simpa [Json.ordered, Data.lift, Data.long?] using accessor)
      (by simpa [Json.ordered, Data.lift, coerce] using injected)
  | null | bool _ | string _ | array _ | object _ => cases read

/-- Of an accepted token the application reads what was checked: the issuer, as far as the payload
gives one text, and the expiry, as far as it is an integer that fits in a long. All issuers of a
list are read as a set. -/
theorem claims_read_of_accepted (now : UInt64) (context : AuthContext) (token : String) (t : Token)
    (accepted : rs256 now context token = .ok t) :
    ∃ members issuer issuers exp expiry,
      signedMembers context.key token.toList = .ok members ∧
      members.lookup "iss" = some issuer ∧ issuers? issuer = some issuers ∧
      context.issuer ∈ issuers ∧ IssuerRead t context.issuer issuer ∧
      (∀ text, text ∈ t.textsOf "iss" ↔ text ∈ issuers) ∧
      members.lookup "exp" = some exp ∧ seconds? exp = some expiry ∧
      now.toNat ≤ expiry + context.grace.toNat ∧ ExpiryRead t expiry exp := by
  obtain ⟨members, signed, checked, rfl⟩ := rs256_eq_ok_iff.mp accepted
  obtain ⟨expiry, issuers, dated, named, _, inTime, _, issued⟩ := checkClaims_eq_ok_iff.mp checked
  obtain ⟨exp, givenExp, readExp⟩ := readClaim_eq_value_iff.mp dated
  obtain ⟨issuer, givenIss, readIss⟩ := readClaim_eq_value_iff.mp named
  have issOnce : atMostOnce "iss" members = true := atMostOnce_of_signed signed (by decide)
  have expOnce : atMostOnce "exp" members = true := atMostOnce_of_signed signed (by decide)
  have issClaim := Token.payloadClaim?_payloadOfMembers (c := .iss) token (by decide) (by decide)
    issOnce givenIss
  have expClaim := Token.payloadClaim?_payloadOfMembers (c := .exp) token (by decide) (by decide)
    expOnce givenExp
  have texts (text : String) :
      text ∈ (Token.ofPayload token (Token.payloadOfMembers members)).textsOf "iss" ↔
        text ∈ issuers := by
    rw [Token.mem_textsOf_ofPayload (by decide), TextMap.Names,
      Token.find?_payloadOfMembers issOnce, givenIss, ← names_ordered_iff readIss]
    simp
  exact ⟨members, issuer, issuers, exp, expiry, signed, givenIss, readIss, issued,
    issuerRead_of_checked issClaim readIss issued, texts, givenExp, readExp,
    (checkExpiry_eq_ok_iff.mp inTime).2, expiryRead_of_checked expClaim readExp⟩

private def modulusParts : List Nat :=
  [0xdf8772976d373e19ac610be84af7b030e4f4370345a5fff2cb72177132555e1a,
    0x596ee537dfefb24049ad3fe449bf5d7f5933c6b3316d6d7de5959e062ed68a5a,
    0x4fc7a4c1ba8887a2b0be44ec4342fef99006fe3971b5fa9c6b50a086becdd373,
    0x7dc01f939b6325dff775114e3307757185bbe60c4778e222a445f8cd8b65b276,
    0x70657c8c238e012e849927634400b2b2d0a198dac8fa182ddb52a1c19e88e986,
    0x93b4ba6771d327a43113ad24600b3c8ef714d21db2400b4790d6908a526bdd8c,
    0x77bdb5506748eb9a6c698f40ef964848df93c6ef17c220af0a850427d8f2d0eb,
    0xf64c1674508a154eb103eba15391e22799df4df364fd043649fe692e5c7dadd9]

private def signerContext : AuthContext where
  issuer := "i"
  key :=
    let modulus := modulusParts.foldl (fun n part => n * 2 ^ 256 + part) 0
    Key.Rsa.bytesOfNat 270 ((0x3082010a0282010100 * 2 ^ 2048 + modulus) * 2 ^ 40 + 0x0203010001)
  grace := 0

private def textOf (pieces : List String) : String := String.ofList (pieces.flatMap String.toList)

/-- The signer signed the payload `{"iss":"i","exp":4102444800}`. -/
private def plainToken : String :=
  textOf
    ["eyJhbGciOiJSUzI1NiJ9.eyJpc3", "MiOiJpIiwiZXhwIjo0MTAyNDQ0O", "DAwfQ.cDckVcPHR7daNgK5VuO3I",
      "kftOScYLLVi_sReDb15vii-EXMu", "X8K4hCEVXnvkLozxfkcPBPNyAXE", "jYNcFDYNtvhP-GBUZu4ugXQ5cbL",
      "h8Z-pv5q_IJ6LuAe0genIh8N1vM", "2W3hdhFsv41PhxUCmTW61O2_lHu", "-ZhSjgFgEDGL_7tUAlzkSeEhY3D",
      "s0bD5N5Nlq--8dBmgdeUsw9SIZZ", "G7ohTGmvmX3-hlFJsk0RiReSkCB", "T3UGaQY8HiVGq5DUcfLM_ZyIHTW",
      "SH-xSw7xXGv5a8lrmuUT9dfuhOD", "Rn7o9TMHHHAbvfodSNLDjdktEuz", "OeUjz5NVG0S0WRivK9fRaPFA"]

/-- The signer signed the payload `{"iss":["i"],"exp":1e10}`. -/
private def listToken : String :=
  textOf
    ["eyJhbGciOiJSUzI1NiJ9.eyJpc3", "MiOlsiaSJdLCJleHAiOjFlMTB9.", "UM-ewm0egkOBvBe3GKVqW5rU1nx",
      "R2CPgIwbmwjmWmz7haYstXelLGx", "EAtBFOoyMywXu2x35NHt9T37xBt", "mpksE39DLw3e-yFf-GgqcbTAgvi",
      "SbeOs8bEOr3JXFJRr8gSo2NVDh2", "7jeXVyeA-CmhmhdzE1pyZpiq9gx", "4J063iCHJSnSS8g76HUwCu9D0wN",
      "r23OxZVZ1XnRu46psktEzjNLloa", "ge0QTTiUIjoBYyBdark3NI-1aPQ", "tLUO3WEg4skzmErgm8Emg_STj6f",
      "LwBSQ1y3HlMePYkleTqsHOA5v0l", "VaxBsXEvHUZfT5L2S35IQUttQ8R", "6WkitAAHArNYVcZvDQ"]

private def acceptsWith (property : Token → Bool) (token : List Char) : Bool :=
  (signedMembers signerContext.key token).toOption.any fun members =>
    (checkClaims 1700000000 signerContext members).toOption.isSome &&
      property (Token.ofPayload "" (Token.payloadOfMembers members))

private theorem exists_of_acceptsWith {property : Token → Bool} {token : String}
    (accepted : acceptsWith property token.toList = true)
    (rawIrrelevant : ∀ raw payload, property (Token.ofPayload raw payload) =
      property (Token.ofPayload "" payload)) :
    ∃ t, rs256 1700000000 signerContext token = .ok t ∧ property t = true := by
  rw [acceptsWith, Option.any_eq_true] at accepted
  obtain ⟨members, signed, checked⟩ := accepted
  rw [Bool.and_eq_true, Option.isSome_iff_exists] at checked
  obtain ⟨⟨_, inTime⟩, holds⟩ := checked
  refine ⟨_, rs256_eq_ok_iff.mpr ⟨members, toOption_eq_some_iff.mp signed,
    toOption_eq_some_iff.mp inTime, rfl⟩, ?_⟩
  rw [rawIrrelevant]
  exact holds

set_option maxRecDepth 20000 in
private theorem plainToken_accepted : acceptsWith (fun t =>
    t.issuer? = some "i" && t.expiration? = some 4102444800) plainToken.toList = true := by
  rw [plainToken, textOf, String.toList_ofList]
  decide +kernel

set_option maxRecDepth 20000 in
private theorem listToken_accepted : acceptsWith (fun t =>
    (t.issuer?.isNone && (produce "iss" (some t) (.value .string)).isNull) &&
      (t.expiration?.isNone && (produce "exp" (some t) (.value .long)).isNull))
    listToken.toList = true := by
  rw [listToken, textOf, String.toList_ofList]
  decide +kernel

theorem plainToken_claims_read : ∃ t, rs256 1700000000 signerContext plainToken = .ok t ∧
    t.issuer? = some signerContext.issuer ∧ t.expiration? = some 4102444800 ∧
    signerContext.issuer ∈ t.textsOf "iss" := by
  obtain ⟨t, accepted, read⟩ := exists_of_acceptsWith plainToken_accepted fun _ _ => rfl
  simp only [Bool.and_eq_true, decide_eq_true_eq] at read
  obtain ⟨_, _, issuers, _, _, _, _, _, issued, _, texts, _⟩ :=
    claims_read_of_accepted 1700000000 signerContext plainToken t accepted
  exact ⟨t, accepted, read.1, read.2, (texts _).mpr issued⟩

/-- A token is accepted whose issuer and expiry the application cannot read as a text and a long. -/
theorem listToken_accepted_unread : ∃ t, rs256 1700000000 signerContext listToken = .ok t ∧
    t.issuer? = none ∧ produce "iss" (some t) (.value .string) = .null ∧
    t.expiration? = none ∧ produce "exp" (some t) (.value .long) = .null := by
  obtain ⟨t, accepted, read⟩ := exists_of_acceptsWith listToken_accepted fun _ _ => rfl
  simp only [Bool.and_eq_true, Option.isNone_iff_eq_none, Injected.isNull_iff] at read
  exact ⟨t, accepted, read.1.1, read.1.2, read.2.1, read.2.2⟩

end Jwt

end BearerGate
