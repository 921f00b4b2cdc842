import BearerGate.Endpoint.Roles
import BearerGate.Proofs.BearerSelection
import BearerGate.Proofs.Bootstrap
import BearerGate.Proofs.JsonTexts
import BearerGate.Proofs.OneToken
import BearerGate.Proofs.QueryTexts

/-!
The report on injected claims. The same claim is read at sites of different types, of the token that
comes with the request or of the one in the slot. Main statement: all sites of a claim agree, and
what the report says about a claim is what the token of the caller and the query say.
-/

set_option autoImplicit false
set_option relaxedAutoImplicit false

namespace BearerGate.Endpoint

open Claim (Data)
open Http (Query Request Response)
open Injection (Bootstrapped DeclaredType InjectError Injectable Injected Named Point Provider
  Registry ValueType bootstrap claimData coerce ofInjected plainOf produce produce_value_eq_elim)

/-- Values of a type are read from claim data in one way, wherever they are injected. -/
def ReadBy (α : Type) [Injectable α] (read : Data → Option α) : Prop :=
  ∃ expected, ∀ v : Injected, (ofInjected v : Except InjectError α) = plainOf expected read v

theorem readBy_string : ReadBy String Data.string? := ⟨"String", fun _ => rfl⟩

theorem readBy_long : ReadBy Int64 Data.long? := ⟨"Long", fun _ => rfl⟩

theorem readBy_textSet : ReadBy TextSet Data.textSet? := ⟨"Set<String>", fun _ => rfl⟩

def Keeps {α : Type} (type : ValueType) (read : Data → Option α) : Prop :=
  ∀ data, (coerce data type).bind read = read data

theorem keeps_string : Keeps .string Data.string? := by
  intro data
  cases data <;> rfl

theorem keeps_any {α : Type} (read : Data → Option α) : Keeps .any read := fun _ => rfl

theorem keeps_long : Keeps .long Data.long? := by
  intro data
  cases data <;> rfl

theorem keeps_textSet : Keeps .stringSet Data.textSet? := by
  intro data
  change (data.textSet?.map Data.stringSet).bind Data.textSet? = data.textSet?
  cases data.textSet? <;> rfl

section Sites

variable {α : Type} [Injectable α] {read : Data → Option α} {type : ValueType}

def found (injected : Except InjectError (Option α)) : Option α :=
  match injected with
  | .ok value => value
  | .error _ => none

theorem found_claim (readBy : ReadBy α read) (data : Data) :
    found ((ofInjected (.claim data) : Except InjectError α).map some) = read data := by
  obtain ⟨expected, reads⟩ := readBy
  rw [reads, plainOf, claimData, Except.bind]
  cases read data <;> rfl

/-- A site for a plain type finds what is read from the claim, optional or not. -/
theorem found_produce (readBy : ReadBy α read) (keeps : Keeps type read) {declared : DeclaredType}
    (site : declared = .value type ∨ declared = .optional (.value type)) (name : String)
    (token : Option Token) :
    found (ofInjected (produce name token declared) : Except InjectError (Option α)) =
      (token.bind (·.claim? name)).bind read := by
  have kept : (token.bind (·.claim? name)).bind read =
      ((token.bind (·.claim? name)).bind (coerce · type)).bind read := by
    cases token.bind (·.claim? name) with
    | none => rfl
    | some data => exact (keeps data).symm
  have plain := produce_value_eq_elim name token type
  rw [kept]
  generalize (token.bind (·.claim? name)).bind (coerce · type) = value at plain
  cases value with
  | none =>
    rcases site with rfl | rfl
    · rw [plain]
      rfl
    · rw [produce, plain]
      rfl
  | some data =>
    rw [Option.bind_some, ← found_claim readBy data]
    rcases site with rfl | rfl
    · rw [plain]
      rfl
    · rw [produce, plain]
      rfl

theorem valueAt_eq (readBy : ReadBy α read) (keeps : Keeps type read) {declared : DeclaredType}
    (site : declared = .value type ∨ declared = .optional (.value type)) {injector : Injector}
    {location name : String}
    (given : injector.registry.injectFrom location injector.token =
      .ok (produce name injector.token (.claimValue declared))) :
    valueAt injector α location = (injector.token.bind (·.claim? name)).bind read := by
  have injected : injector.injectAs (Named (Option α)) location =
      (ofInjected (produce name injector.token declared) :
        Except InjectError (Option α)).map (Named.mk name) := by
    rw [Injector.injectAs, Injector.inject, given]
    rfl
  rw [← found_produce readBy keeps site, valueAt, injected]
  cases (ofInjected (produce name injector.token declared) : Except InjectError (Option α)) <;> rfl

theorem valueOf_apply (readBy : ReadBy α read) (keeps : Keeps type read) (name : String)
    (held : Slot) :
    valueOf ⟨name, .value type⟩ α held =
      ((held.join.bind (·.claim? name)).bind read, held) := by
  have asked : Provider.getAs ⟨name, .value type⟩ (Option α) held =
      (ofInjected (produce name held.join (.value type)), held) := rfl
  rw [← found_produce readBy keeps (.inl rfl)]
  simp only [valueOf, bind, StateT.bind, asked]
  cases (ofInjected (produce name held.join (.value type)) : Except InjectError (Option α)) <;> rfl

end Sites

theorem ofInjected_produce_long (name : String) (token : Option Token) :
    (ofInjected (produce name token (.optional (.value .long))) :
      Except InjectError (Option Int64)) =
      .ok ((token.bind (·.claim? name)).bind Data.long?) := by
  cases given : token.bind (·.claim? name) with
  | none => simp only [produce, given]; rfl
  | some data => cases data <;> simp only [produce, given] <;> rfl

theorem injectFrom_of_mem {registry : Registry} (done : bootstrap points = .ok registry)
    {p : Point} (member : p ∈ points) {name : String} (named : p.binding.claimName? = some name)
    (token : Option Token) :
    registry.injectFrom p.location token = .ok (produce name token p.type) := by
  obtain ⟨_, bootstrapped⟩ := Injection.bootstrapped_of_bootstrap done
  obtain ⟨claim, same, given⟩ := bootstrapped.injectFrom_of_mem member token
  obtain rfl := Option.some.inj (named.symm.trans same)
  exact given

theorem exists_registry : ∃ registry, bootstrap points = .ok registry :=
  Injection.exists_bootstrap_iff.mpr ⟨_, rfl⟩

theorem ofRegistry_eq_ok {registry : Registry} (done : bootstrap points = .ok registry) :
    Roles.ofRegistry registry = .ok ⟨⟨"jti", .value .string⟩, ⟨"iat", .value .long⟩⟩ := by
  have id : providerAt registry Site.idProvider = .ok ⟨"jti", .value .string⟩ := by
    have given := injectFrom_of_mem done
      (p := declare Site.idProvider (standard .jti) (.provider (.value .string)))
      (by decide) rfl none
    rw [providerAt, show registry.injectFrom Site.idProvider none = _ from given]
    rfl
  have issuedAt : providerAt registry Site.issuedAtProvider = .ok ⟨"iat", .value .long⟩ := by
    have given := injectFrom_of_mem done
      (p := declare Site.issuedAtProvider (standard .iat) (.provider (.value .long)))
      (by decide) rfl none
    rw [providerAt, show registry.injectFrom Site.issuedAtProvider none = _ from given]
    rfl
  rw [Roles.ofRegistry, id, issuedAt]
  rfl

theorem valueAt_declared {α : Type} [Injectable α] {read : Data → Option α} {type : ValueType}
    {registry : Registry} (done : bootstrap points = .ok registry) (readBy : ReadBy α read)
    (keeps : Keeps type read) (t : Token) {location name : String} {declared : DeclaredType}
    (binding : Injection.Binding) (named : binding.claimName? = some name)
    (site : declared = .value type ∨ declared = .optional (.value type))
    (member : declare location binding (.claimValue declared) ∈ points) :
    valueAt ⟨registry, some t⟩ α location = (t.claim? name).bind read :=
  valueAt_eq readBy keeps site (injectFrom_of_mem done member named (some t))

def reportOn (t : Token) (expected : Expected) : Report :=
  let text (name : String) : Option String := (t.claim? name).bind Data.string?
  let long (name : String) : Option Int64 := (t.claim? name).bind Data.long?
  let texts (name : String) : Option TextSet := (t.claim? name).bind Data.textSet?
  { issuer := .of (text "iss") expected.issuer
    rawToken := .of (text "raw_token") expected.rawToken
    id := .of (text "jti") expected.id
    optionalId := .of (text "jti") expected.id
    anyId := .of (text "jti") expected.id
    idProvider := .of (text "jti") expected.id
    audience := .ofMember (texts "aud") expected.audience
    issuedAt := .of (long "iat") expected.issuedAt
    issuedAtAgain := .of (long "iat") expected.issuedAt
    issuedAtProvider := .of (long "iat") expected.issuedAt
    subject := .of (text "sub") expected.subject
    authTime := .of (long "auth_time") expected.authTime
    custom := if (long "custom-missing").isNone then .pass else .fail
    groups := (texts "groups").getD TextSet.empty }

theorem report_apply {registry : Registry} {roles : Roles}
    (done : bootstrap points = .ok registry) (built : Roles.ofRegistry registry = .ok roles)
    (t : Token) (expected : Expected) :
    roles.report ⟨registry, some t⟩ expected (some (some t)) =
      (reportOn t expected, some (some t)) := by
  obtain rfl := Except.ok.inj (built.symm.trans (ofRegistry_eq_ok done))
  have issuer : valueAt ⟨registry, some t⟩ String Site.issuer =
      (t.claim? "iss").bind Data.string? :=
    valueAt_declared done readBy_string keeps_string t (standard .iss) rfl (.inl rfl) (by decide)
  have rawToken : valueAt ⟨registry, some t⟩ String Site.rawToken =
      (t.claim? "raw_token").bind Data.string? :=
    valueAt_declared done readBy_string keeps_string t (standard .rawToken) rfl (.inl rfl) (by decide)
  have id : valueAt ⟨registry, some t⟩ String Site.id =
      (t.claim? "jti").bind Data.string? :=
    valueAt_declared done readBy_string keeps_string t (standard .jti) rfl (.inl rfl) (by decide)
  have optionalId : valueAt ⟨registry, some t⟩ String Site.optionalId =
      (t.claim? "jti").bind Data.string? :=
    valueAt_declared done readBy_string keeps_string t (named "jti") rfl (.inr rfl) (by decide)
  have anyId : valueAt ⟨registry, some t⟩ String Site.anyId =
      (t.claim? "jti").bind Data.string? :=
    valueAt_declared done readBy_string (keeps_any _) t (named "jti") rfl (.inl rfl) (by decide)
  have audience : valueAt ⟨registry, some t⟩ TextSet Site.audience =
      (t.claim? "aud").bind Data.textSet? :=
    valueAt_declared done readBy_textSet keeps_textSet t (named "aud") rfl (.inl rfl) (by decide)
  have groups : valueAt ⟨registry, some t⟩ TextSet Site.groups =
      (t.claim? "groups").bind Data.textSet? :=
    valueAt_declared done readBy_textSet keeps_textSet t (named "groups") rfl (.inl rfl) (by decide)
  have issuedAt : valueAt ⟨registry, some t⟩ Int64 Site.issuedAt =
      (t.claim? "iat").bind Data.long? :=
    valueAt_declared done readBy_long keeps_long t (named "iat") rfl (.inl rfl) (by decide)
  have issuedAtAgain : valueAt ⟨registry, some t⟩ Int64 Site.issuedAtAgain =
      (t.claim? "iat").bind Data.long? :=
    valueAt_declared done readBy_long keeps_long t (named "iat") rfl (.inl rfl) (by decide)
  have subject : valueAt ⟨registry, some t⟩ String Site.subject =
      (t.claim? "sub").bind Data.string? :=
    valueAt_declared done readBy_string keeps_string t (named "sub") rfl (.inr rfl) (by decide)
  have authTime : valueAt ⟨registry, some t⟩ Int64 Site.authTime =
      (t.claim? "auth_time").bind Data.long? :=
    valueAt_declared done readBy_long keeps_long t (named "auth_time") rfl (.inr rfl) (by decide)
  -- No token makes this site fail: what is no long counts as none.
  have custom : Injector.injectAs ⟨registry, some t⟩ (Named (Option Int64)) Site.custom =
      .ok ⟨"custom-missing", (t.claim? "custom-missing").bind Data.long?⟩ := by
    have given := injectFrom_of_mem done
      (p := declare Site.custom (named "custom-missing") (.claimValue (.optional (.value .long))))
      (by decide) rfl (some t)
    have long := ofInjected_produce_long "custom-missing" (some t)
    rw [Injector.injectAs, Injector.inject,
      show registry.injectFrom Site.custom (some t) = _ from given]
    change (ofInjected (produce "custom-missing" (some t) (.optional (.value .long))) :
      Except InjectError (Option Int64)).map (Named.mk "custom-missing") = _
    rw [long]
    rfl
  have idOfProvider := valueOf_apply readBy_string keeps_string "jti" (some (some t))
  have issuedAtOfProvider := valueOf_apply readBy_long keeps_long "iat" (some (some t))
  simp only [Roles.report, bind, StateT.bind, idOfProvider, issuedAtOfProvider, issuer, rawToken,
    id, optionalId, anyId, audience, groups, issuedAt, issuedAtAgain, subject, authTime, custom]
  rfl

/-- The verdict that a report shows under a name. -/
def verdictAt (body : Json) (name : String) : Option String := (body.member? name).bind Json.string?

/-- A verdict says what becomes of comparing a claim, which has to be of one kind, with the value
that is expected of it. -/
structure Judges {α : Type} (verdict : Option String) (claim : Option Data) (kind : α → Data)
    (expected : Option α) : Prop where
  missing : verdict = some "MISSING" ↔ ∀ a, claim ≠ some (kind a)
  pass : verdict = some "PASS" ↔ ∃ a, claim = some (kind a) ∧ expected = some a
  fail : verdict = some "FAIL" ↔ ∃ a, claim = some (kind a) ∧ expected ≠ some a

theorem Verdict.of_eq_missing_iff {α : Type} [DecidableEq α] {actual expected : Option α} :
    Verdict.of actual expected = .missing ↔ actual = none := by
  cases actual with
  | none => exact ⟨fun _ => rfl, fun _ => rfl⟩
  | some a =>
    rw [Verdict.of]
    split <;> exact ⟨nofun, nofun⟩

theorem Verdict.of_eq_pass_iff {α : Type} [DecidableEq α] {actual expected : Option α} :
    Verdict.of actual expected = .pass ↔ ∃ a, actual = some a ∧ expected = some a := by
  cases actual with
  | none => exact ⟨nofun, nofun⟩
  | some a => by_cases same : expected = some a <;> simp [Verdict.of, same]

theorem Verdict.of_eq_fail_iff {α : Type} [DecidableEq α] {actual expected : Option α} :
    Verdict.of actual expected = .fail ↔ ∃ a, actual = some a ∧ expected ≠ some a := by
  cases actual with
  | none => exact ⟨nofun, nofun⟩
  | some a => by_cases same : expected = some a <;> simp [Verdict.of, same]

theorem Verdict.ofMember_eq_pass_iff {actual : Option TextSet} {expected : Option String} :
    Verdict.ofMember actual expected = .pass ↔
      ∃ a, expected = some a ∧ a ∈ actual.getD TextSet.empty := by
  cases actual with
  | none => exact ⟨nofun, nofun⟩
  | some set => cases expected <;> simp [Verdict.ofMember]

theorem Verdict.some_name_eq_iff (v w : Verdict) : some v.name = some w.name ↔ v = w := by
  cases v <;> cases w <;> decide

theorem judges_of {α : Type} [DecidableEq α] {read : Data → Option α} {kind : α → Data}
    (reads : ∀ data a, read data = some a ↔ data = kind a) (claim : Option Data)
    (expected : Option α) :
    Judges (some (Verdict.of (claim.bind read) expected).name) claim kind expected := by
  have value (a : α) : claim.bind read = some a ↔ claim = some (kind a) := by
    rw [Option.bind_eq_some_iff]
    simp only [reads, exists_eq_right]
  have named := (Verdict.of (claim.bind read) expected).some_name_eq_iff
  refine ⟨(named .missing).trans ?_, (named .pass).trans ?_, (named .fail).trans ?_⟩
  · rw [Verdict.of_eq_missing_iff, Option.eq_none_iff_forall_ne_some]
    exact forall_congr' fun a => not_congr (value a)
  · simp only [Verdict.of_eq_pass_iff, value]
  · simp only [Verdict.of_eq_fail_iff, value]

/-- What a report shows is what the token of a caller and the expected values say. All sites of one
claim show the same. -/
structure Verifies (body : Json) (c : SecurityContext) (expected : Expected) : Prop where
  issuer : Judges (verdictAt body "iss") (c.token.claim? "iss") Data.string expected.issuer
  rawToken : Judges (verdictAt body "raw_token") (c.token.claim? "raw_token") Data.string
    expected.rawToken
  id : Judges (verdictAt body "jti") (c.token.claim? "jti") Data.string expected.id
  sameId : ∀ name ∈ ["jti-Optional", "jti-Object", "jti-Provider"],
    verdictAt body name = verdictAt body "jti"
  issuedAt : Judges (verdictAt body "iat") (c.token.claim? "iat") Data.long expected.issuedAt
  sameIssuedAt : ∀ name ∈ ["iat-Dupe", "iat-Provider"],
    verdictAt body name = verdictAt body "iat"
  subject : Judges (verdictAt body "sub-Optional") (c.token.claim? "sub") Data.string
    expected.subject
  authTime : Judges (verdictAt body "auth_time") (c.token.claim? "auth_time") Data.long
    expected.authTime
  audience : verdictAt body "aud" = some "PASS" ↔
    ∃ a, expected.audience = some a ∧ a ∈ c.token.audience
  custom : verdictAt body "custom-missing" = some "PASS" ∨
    verdictAt body "custom-missing" = some "FAIL"
  groups : body.member? "groups" = some (.array (c.identity.groups.toList.map .string))

theorem string?_eq_some_iff (data : Data) (text : String) :
    data.string? = some text ↔ data = .string text := by
  cases data <;> simp [Data.string?]

theorem long?_eq_some_iff (data : Data) (n : Int64) : data.long? = some n ↔ data = .long n := by
  cases data <;> simp [Data.long?]

theorem textsOf_eq (t : Token) {name : String} (ne : name ≠ Claim.Standard.rawToken.name) :
    t.textsOf name = ((t.claim? name).bind Data.textSet?).getD TextSet.empty := by
  rw [Token.textsOf, t.claim?_of_ne ne]

theorem verifies_reportOn {c : SecurityContext} (groups : c.identity.groups = c.token.groups)
    (expected : Expected) : Verifies (reportOn c.token expected).toJson c expected where
  issuer := judges_of string?_eq_some_iff _ _
  rawToken := judges_of string?_eq_some_iff (c.token.claim? "raw_token") _
  id := judges_of string?_eq_some_iff _ _
  sameId := by
    rw [List.forall_mem_cons, List.forall_mem_cons, List.forall_mem_singleton]
    exact ⟨rfl, rfl, rfl⟩
  issuedAt := judges_of long?_eq_some_iff _ _
  sameIssuedAt := by
    rw [List.forall_mem_cons, List.forall_mem_singleton]
    exact ⟨rfl, rfl⟩
  subject := judges_of string?_eq_some_iff _ _
  authTime := judges_of long?_eq_some_iff _ _
  audience := by
    have shown : verdictAt (reportOn c.token expected).toJson "aud" = some (Verdict.ofMember
        ((c.token.claim? "aud").bind Data.textSet?) expected.audience).name := rfl
    have member : Verdict.ofMember ((c.token.claim? "aud").bind Data.textSet?) expected.audience =
        .pass ↔ ∃ a, expected.audience = some a ∧ a ∈ c.token.audience := by
      rw [Token.audience, textsOf_eq c.token (by decide)]
      exact Verdict.ofMember_eq_pass_iff
    rw [shown]
    exact (Verdict.some_name_eq_iff _ .pass).trans member
  custom := by
    have shown : verdictAt (reportOn c.token expected).toJson "custom-missing" = some (if
        ((c.token.claim? "custom-missing").bind Data.long?).isNone then Verdict.pass else
        Verdict.fail).name := rfl
    rw [shown]
    split
    · exact .inl rfl
    · exact .inr rfl
  groups := by
    rw [groups, Token.groups, textsOf_eq c.token (by decide)]
    rfl

/-- The values that a query asks to compare claims with, each under the name of its claim. -/
structure Asks (q : Query) (expected : Expected) : Prop where
  issuer : q.Gives "iss" expected.issuer
  rawToken : q.Gives "raw_token" expected.rawToken
  id : q.Gives "jti" expected.id
  audience : q.Gives "aud" expected.audience
  issuedAt : q.GivesInteger "iat" expected.issuedAt
  subject : q.Gives "sub" expected.subject
  authTime : q.GivesInteger "auth_time" expected.authTime

theorem ofQuery_of_asks {q : Query} {expected : Expected} (asks : Asks q expected) :
    Expected.ofQuery q = .ok expected := by
  simp only [Expected.ofQuery, Query.text?_eq_ok_iff.mpr asks.issuer,
    Query.text?_eq_ok_iff.mpr asks.rawToken, Query.text?_eq_ok_iff.mpr asks.id,
    Query.text?_eq_ok_iff.mpr asks.audience, Query.integer?_eq_ok_iff.mpr asks.issuedAt,
    Query.text?_eq_ok_iff.mpr asks.subject, Query.integer?_eq_ok_iff.mpr asks.authTime]
  rfl

theorem parse?_report (report : Report) :
    Json.parse? report.toJson.compact = some report.toJson := by
  have texts (depth : Nat) : Json.Within (depth + 1) (Identity.textsToJson report.groups) := by
    refine .array fun item member => ?_
    obtain ⟨text, _, rfl⟩ := List.mem_map.mp member
    exact .string depth text
  have within : Json.Within Json.depthLimit report.toJson := by
    refine .object ?_
    simp only [List.forall_mem_cons]
    refine ⟨?_, ?_, ?_, texts _, ?_, ?_, ?_, ?_, ?_, ?_, ?_, ?_, ?_, ?_, nofun⟩
    all_goals exact .string _ _
  have ordered : report.toJson.ordered = report.toJson := by
    refine congrArg Json.object (Json.orderedMembers_of_ascending ?_ ?_ nofun)
    · simp only [List.forall_mem_cons]
      refine ⟨rfl, rfl, rfl, ?_, rfl, rfl, rfl, rfl, rfl, rfl, rfl, rfl, rfl, rfl, nofun⟩
      exact congrArg Json.array (Json.orderedItems_map_string _)
    · change List.Pairwise (· < ·) ["aud", "auth_time", "custom-missing", "groups", "iat",
        "iat-Dupe", "iat-Provider", "iss", "jti", "jti-Object", "jti-Optional", "jti-Provider",
        "raw_token", "sub-Optional"]
      decide
  rw [Json.parse?_compact within, ordered]

section Behind

variable {registry : Registry} {roles : Roles} {l : Layer} {r : Request} {c : SecurityContext}
  {expected : Expected}

theorem verifyClaims_apply (done : bootstrap points = .ok registry)
    (built : Roles.ofRegistry registry = .ok roles) {given : Extensions}
    (injector : given.injector = .ok ⟨registry, some c.token⟩)
    (readable : Expected.ofQuery (Query.ofRequest r) = .ok expected) :
    roles.verifyClaims r given (some (some c.token)) =
      (Response.json (reportOn c.token expected).toJson, some (some c.token)) := by
  have reported := report_apply done built c.token expected
  simp only [Roles.verifyClaims, injector, readable, unlessRefused, unlessMalformed, bind,
    StateT.bind, reported]
  rfl

theorem application_apply (done : bootstrap points = .ok registry)
    (built : Roles.ofRegistry registry = .ok roles) (attached : l.registry = some registry)
    (method : r.method = "GET") (path : r.path = "/endp/verifyInjectedClaims")
    (authenticated : l.mechanism.outcome r.headers = .authenticated c)
    (readable : Expected.ofQuery (Query.ofRequest r) = .ok expected) (e : Extensions)
    (outer : Slot) :
    l.application roles.router r e outer =
      (⟨200, [("content-type", "application/json"), ("content-length",
        toString (reportOn c.token expected).toJson.compact.utf8ByteSize)],
        (reportOn c.token expected).toJson.compact⟩, outer) := by
  have noPreflight : ¬ Preflight r := by
    rintro ⟨options, _⟩
    rw [method] at options
    exact absurd options (by decide)
  have caller : l.caller? r = some c := (l.caller?_eq_some_iff r c).mpr ⟨noPreflight, authenticated⟩
  have calls := Layer.calls_of_admits (.inr (.inr ⟨c, authenticated⟩)) e
  have injector : (l.extended r e).injector = .ok ⟨registry, some c.token⟩ := by
    have token : (l.extended r e).token = some c.token := by
      rw [Layer.extended, caller]
    rw [Extensions.injector, l.registry_extended, attached, token]
    rfl
  have routed : roles.router.responder r = ⟨roles.verifyClaims, none⟩ := by
    have known : roles.router "/endp/verifyInjectedClaims" = some roles.verifyClaims := rfl
    have reads : readsOnly "GET" = true := rfl
    simp only [Router.responder, path, known, method, reads, if_true]
  have served : roles.verifyClaims r (l.extended r e) (l.held r) =
      (Response.json (reportOn c.token expected).toJson, l.held r) := by
    simp only [Layer.held, caller, Option.map_some]
    exact verifyClaims_apply done built injector readable
  have answered := calls Id roles.verifyClaims outer
  rw [served] at answered
  have noHead : ¬ "GET" = "HEAD" := by decide
  simp only [Layer.application, routed, bind, StateT.bind, answered, Responder.release, method,
    if_neg noHead]
  rfl

end Behind

theorem identity_of_authenticated {m : Mechanism} {headers : Http.Headers} {c : SecurityContext}
    (authenticated : m.outcome headers = .authenticated c) :
    c.identity = Identity.ofToken c.token m.mapping := by
  cases first : Bearer.bytes? (headers.values "authorization") with
  | none =>
    have noAttempt : m.outcome headers = .notAttempted :=
      Mechanism.outcome_eq_notAttempted_iff.mpr (Bearer.bytes?_eq_none_iff.mp first)
    rw [noAttempt] at authenticated
    cases authenticated
  | some bytes =>
    exact (((Mechanism.judges_outcome first).authenticated c).mp authenticated).2.1

/-- With the registry of its declarations the endpoint can be built. Behind the layer it answers an
authenticated caller, whose query writes values of claims, with a report that is right about every
claim. -/
theorem exists_verifying_endpoint :
    ∃ registry roles, bootstrap points = .ok registry ∧ Roles.ofRegistry registry = .ok roles ∧
      ∀ (l : Layer) (r : Request) (c : SecurityContext) (q : Query) (expected : Expected),
        l.registry = some registry → r.method = "GET" →
        r.path = "/endp/verifyInjectedClaims" →
        l.mechanism.outcome r.headers = .authenticated c →
        Query.Writes (r.query.getD "") q → Asks q expected →
        ∀ e outer, ∃ response body, l.application roles.router r e outer = (response, outer) ∧
          response.status = 200 ∧
          response.headers = [("content-type", "application/json"),
            ("content-length", toString response.body.utf8ByteSize)] ∧
          Json.parse? response.body = some body ∧ Verifies body c expected := by
  obtain ⟨registry, done⟩ := exists_registry
  have built := ofRegistry_eq_ok done
  refine ⟨registry, _, done, built, ?_⟩
  intro l r c q expected attached method path authenticated written asks e outer
  have groups : c.identity.groups = c.token.groups := by
    rw [identity_of_authenticated authenticated]
    rfl
  have readable : Expected.ofQuery (Query.ofRequest r) = .ok expected := by
    rw [Query.ofRequest, Query.ofText_eq_iff.mpr written]
    exact ofQuery_of_asks asks
  exact ⟨_, _, application_apply done built attached method path authenticated readable e outer,
    rfl, rfl, parse?_report _, verifies_reportOn groups expected⟩

private def numbered : Token :=
  Token.ofPayload "t" (TextMap.ofList [("iss", .string "i"),
    ("jti", .int (WordInt.ofInt64 7)), ("iat", .int (WordInt.ofInt64 2)),
    ("aud", .array [.string "a", .string "b&"]), ("groups", .string "g")])

private def withRegistry (registry : Registry) : Layer where
  mechanism :=
    { context := ⟨"issuer", [], 60⟩
      validator := fun _ text => if text = "t" then .ok numbered else .error (.fault .badSignature)
      mapping := RoleMapping.empty }
  policy := ⟨true, Route.Table.empty⟩
  registry := some registry

private def verifying : Request :=
  ⟨"GET", "/endp/verifyInjectedClaims", some "iss=i&jti=7&&%61ud=b%26&iat=%2B1",
    [("Authorization", Text.utf8 "Bearer t")]⟩

private def verifyingPairs : Query := [("iss", "i"), ("jti", "7"), ("aud", "b&"), ("iat", "+1")]

private theorem verifying_asks :
    Asks verifyingPairs ⟨some "i", none, some "7", some "b&", some 1, none, none⟩ where
  issuer := @Query.Gives.once _ _ [] _ _ rfl (by decide)
  rawToken := .absent (by decide)
  id := @Query.Gives.once _ _ [("iss", "i")] _ _ rfl (by decide)
  audience := @Query.Gives.once _ _ [("iss", "i"), ("jti", "7")] _ _ rfl (by decide)
  issuedAt := .once (@Query.Gives.once _ _ (verifyingPairs.take 3) _ "+1" rfl (by decide))
    (@Query.Literal.plus ['1'] (by decide) (List.forall_mem_singleton.mpr rfl))
  subject := .absent (by decide)
  authTime := .absent (.absent (by decide))

theorem numbered_verified :
    ∃ registry roles response body, bootstrap points = .ok registry ∧
      Roles.ofRegistry registry = .ok roles ∧
      (withRegistry registry).application roles.router verifying Extensions.bare none =
        (response, none) ∧ response.status = 200 ∧ Json.parse? response.body = some body ∧
      verdictAt body "iss" = some "PASS" ∧ verdictAt body "jti-Provider" = some "MISSING" ∧
      verdictAt body "iat-Dupe" = some "FAIL" ∧ verdictAt body "aud" = some "PASS" ∧
      body.member? "groups" = some (.array [.string "g"]) := by
  obtain ⟨registry, roles, done, built, verifies⟩ := exists_verifying_endpoint
  let caller := (withRegistry registry).mechanism.contextOf numbered
  obtain ⟨response, body, answered, status, _, parsed, right⟩ := verifies (withRegistry registry)
    verifying caller verifyingPairs _ rfl rfl rfl rfl (Query.ofText_eq_iff.mp rfl) verifying_asks
    Extensions.bare none
  have noText : ∀ text, numbered.claim? "jti" ≠ some (.string text) := by
    intro text same
    have long : numbered.claim? "jti" = some (.long 7) := rfl
    rw [long] at same
    cases same
  have inAudience : "b&" ∈ numbered.audience := by decide
  refine ⟨registry, roles, response, body, done, built, answered, status, parsed, ?_, ?_, ?_, ?_,
    right.groups⟩
  · exact right.issuer.pass.mpr ⟨"i", rfl, rfl⟩
  · exact (right.sameId _ (by simp)).trans (right.id.missing.mpr noText)
  · exact (right.sameIssuedAt _ (by simp)).trans (right.issuedAt.fail.mpr ⟨2, rfl, by decide⟩)
  · exact right.audience.mpr ⟨"b&", rfl, inAudience⟩

end BearerGate.Endpoint
