import BearerGate.Endpoint.Roles
import BearerGate.Proofs.Admission
import BearerGate.Proofs.BearerSelection

/-!
What a challenge tells. Authentication fails for one of a few reasons, each of which stands in the
headers or in what the validator makes of them. Main statements: a layer has one response, the same
for every reason, every layer, path and method and every service behind it, and handlers that ask
for a caller give it too when there is none; through a router it only tells besides whether the
request could have read what is there.
-/

set_option autoImplicit false
set_option relaxedAutoImplicit false

namespace BearerGate

open Bearer (FirstBears IsBearer)
open Http (Headers Request Response)

namespace Mechanism

/-- Why the caller of a request is not authenticated. -/
inductive Fails (m : Mechanism) (headers : Headers) : Prop
  | noHeader (none : headers.values "authorization" = [])
  | otherScheme (given : headers.values "authorization" ≠ [])
    (noBearer : ∀ value ∈ headers.values "authorization", ¬ IsBearer value)
  | noText {bytes : List UInt8} (first : FirstBears (headers.values "authorization") bytes)
    (noText : ∀ text, Text.utf8 text ≠ bytes)
  | invalid {text : String} {fault : Fault}
    (first : FirstBears (headers.values "authorization") (Text.utf8 text))
    (refused : m.validator m.context (Text.trim text) = .error (.fault fault))
  | crashed {text : String}
    (first : FirstBears (headers.values "authorization") (Text.utf8 text))
    (crash : m.validator m.context (Text.trim text) = .error .crash)

variable {m : Mechanism} {headers : Headers}

/-- The caller is not authenticated for one of these reasons, and for each of them. -/
theorem fails_iff : m.Fails headers ↔ ∀ c, m.outcome headers ≠ .authenticated c := by
  constructor
  · intro fails c authenticated
    have noBearer (none : ∀ value ∈ headers.values "authorization", ¬ IsBearer value) : False := by
      rw [outcome_eq_notAttempted_iff.mpr none] at authenticated
      cases authenticated
    have bears {bytes : List UInt8} (first : FirstBears (headers.values "authorization") bytes) :
        ∃ text, Text.utf8 text = bytes ∧
          m.validator m.context (Text.trim text) = .ok c.token := by
      have judged := judges_outcome (m := m) (Bearer.bytes?_eq_some_iff.mpr first)
      exact ((judged.authenticated c).mp authenticated).1
    cases fails with
    | noHeader none => exact noBearer (by rw [none]; nofun)
    | otherScheme _ none => exact noBearer none
    | noText first noText =>
      obtain ⟨text, encoded, _⟩ := bears first
      exact noText text encoded
    -- The bytes have one text, so the one that was refused is the one that would be accepted.
    | invalid first refused | crashed first refused =>
      obtain ⟨text, encoded, accepted⟩ := bears first
      obtain rfl := Text.utf8_injective encoded
      rw [refused] at accepted
      cases accepted
  · intro noCaller
    cases found : Bearer.bytes? (headers.values "authorization") with
    | none =>
      have noBearer := Bearer.bytes?_eq_none_iff.mp found
      by_cases none : headers.values "authorization" = []
      · exact .noHeader none
      · exact .otherScheme none noBearer
    | some bytes =>
      have first := Bearer.bytes?_eq_some_iff.mp found
      cases decoded : Text.ofUtf8? bytes with
      | none =>
        refine .noText first fun text encoded => ?_
        rw [Text.ofUtf8?_eq_some_iff.mpr encoded] at decoded
        cases decoded
      | some text =>
        obtain rfl := Text.ofUtf8?_eq_some_iff.mp decoded
        cases verdict : m.validator m.context (Text.trim text) with
        | ok t =>
          have judged := judges_outcome (m := m) found
          have accepted := (judged.authenticated (m.contextOf t)).mpr
          exact absurd (accepted ⟨⟨text, rfl, verdict⟩, rfl, rfl⟩) (noCaller _)
        | error rejection =>
          cases rejection with
          | fault => exact .invalid first verdict
          | crash => exact .crashed first verdict

end Mechanism

namespace Layer

/-- A request is not let through: it is no preflight, its path needs a caller, and there is none. -/
structure Denies (l : Layer) (r : Request) : Prop where
  noPreflight : ¬ Preflight r
  required : l.policy.resolve r.path = .required
  fails : l.mechanism.Fails r.headers

/-- Whatever the service is and does, it is not called, and this is the answer; the slot outside is
left as it is. -/
def Answers (l : Layer) (r : Request) (e : Extensions) (answer : Response) : Prop :=
  ∀ (m : Type → Type) [Monad m] [LawfulMonad m] (inner : ServiceIn m) (outer : Slot),
    l.protect inner r e outer = pure (answer, outer)

theorem denies_iff {l : Layer} {r : Request} : l.Denies r ↔ ¬ l.Admits r := by
  have required : l.policy.resolve r.path = .required ↔ ¬ l.policy.resolve r.path = .none := by
    cases l.policy.resolve r.path <;> decide
  rw [Admits, not_or, not_or, not_exists, ← required, ← Mechanism.fails_iff]
  constructor
  · intro denied
    exact ⟨denied.noPreflight, denied.required, denied.fails⟩
  · rintro ⟨noPreflight, required, fails⟩
    exact ⟨noPreflight, required, fails⟩

theorem answers_of_denies {l : Layer} {r : Request} (denied : l.Denies r) (e : Extensions) :
    l.Answers r e challengeResponse :=
  challenges_of_not_admits (denies_iff.mp denied) e

theorem Answers.application {l : Layer} {r : Request} {e : Extensions} {answer : Response}
    (answers : l.Answers r e answer) (router : Router) (outer : Slot) :
    l.application router r e outer =
      ((router.responder r).release r.method answer, outer) := by
  have answered := answers Id (router.responder r).service outer
  simp only [Layer.application, bind, StateT.bind, answered]
  rfl

end Layer

namespace Extensions

/-- Handlers that ask for a caller, in a role or not, give this answer without one. -/
def Refuses (given : Extensions) (answer : Response) : Prop :=
  ∀ (serve : SecurityContext → Held Response) (slot : Slot),
    unlessRefused given.caller serve slot = (answer, slot) ∧
    ∀ role, unlessRefused (given.callerInRole role) serve slot = (answer, slot)

theorem refuses_of_no_context {given : Extensions} (none : given.context = none) :
    given.Refuses Refusal.unauthenticated.response := by
  intro serve slot
  have noCaller : given.caller = .error .unauthenticated := by
    rw [caller, none]
  refine ⟨by rw [noCaller]; rfl, fun role => ?_⟩
  rw [callerInRole_eq_unauthenticated_iff.mpr none]
  rfl

end Extensions

/-- A request for a path that the router knows, with a method that it does not serve there. -/
structure Misdirected (router : Router) (r : Request) : Prop where
  known : (router r.path).isSome = true
  noGet : r.method ≠ "GET"
  noHead : r.method ≠ "HEAD"

instance (router : Router) (r : Request) : Decidable (Misdirected router r) :=
  decidable_of_iff ((router r.path).isSome = true ∧ r.method ≠ "GET" ∧ r.method ≠ "HEAD")
    ⟨fun ⟨known, noGet, noHead⟩ => ⟨known, noGet, noHead⟩,
      fun ⟨known, noGet, noHead⟩ => ⟨known, noGet, noHead⟩⟩

theorem allow_responder (router : Router) (r : Request) : (router.responder r).allow =
    if Misdirected router r then some "GET,HEAD" else none := by
  rw [Router.responder]
  cases known : router r.path with
  | none =>
    rw [if_neg]
    intro misdirected
    have isKnown := misdirected.known
    rw [known] at isKnown
    cases isKnown
  | some service =>
    dsimp only
    cases reads : readsOnly r.method with
    | true =>
      rw [if_pos rfl, if_neg]
      intro misdirected
      rw [readsOnly, Bool.or_eq_true, beq_iff_eq, beq_iff_eq] at reads
      exact reads.elim misdirected.noGet misdirected.noHead
    | false =>
      rw [readsOnly, Bool.or_eq_false_iff, beq_eq_false_iff_ne, beq_eq_false_iff_ne] at reads
      rw [if_neg Bool.false_ne_true, if_pos]
      exact ⟨by rw [known]; rfl, reads.1, reads.2⟩

namespace Layer

theorem release_challenge (router : Router) (r : Request) :
    (router.responder r).release r.method challengeResponse =
      ⟨challengeResponse.status,
        challengeResponse.headers ++
          (if Misdirected router r then [("allow", "GET,HEAD")] else []) ++
            [("content-length", "102")],
        if r.method = "HEAD" then "" else challengeResponse.body⟩ := by
  rw [Responder.release, allow_responder]
  by_cases misdirected : Misdirected router r
  · rw [if_pos misdirected, if_pos misdirected, if_neg misdirected.noHead,
      if_neg misdirected.noHead]
    decide +kernel
  · rw [if_neg misdirected, if_neg misdirected]
    by_cases head : r.method = "HEAD"
    · rw [if_pos head, if_pos head]
      decide +kernel
    · rw [if_neg head, if_neg head]
      decide +kernel

private theorem ite_eq_ite_iff {α : Type} {a b : α} (ne : a ≠ b) {p q : Prop} [Decidable p]
    [Decidable q] : (if p then a else b) = (if q then a else b) ↔ (p ↔ q) := by
  by_cases isP : p <;> by_cases isQ : q <;> simp [isP, isQ, ne, ne.symm]

theorem release_challenge_eq_iff {router router' : Router} {r r' : Request} :
    (router.responder r).release r.method challengeResponse =
        (router'.responder r').release r'.method challengeResponse ↔
      (r.method = "HEAD" ↔ r'.method = "HEAD") ∧
        (Misdirected router r ↔ Misdirected router' r') := by
  have hasBody : "" ≠ challengeResponse.body := by decide +kernel
  rw [release_challenge, release_challenge, Response.mk.injEq, List.append_left_inj,
    List.append_right_inj, ite_eq_ite_iff (List.cons_ne_nil _ _), ite_eq_ite_iff hasBody,
    and_iff_right rfl]
  exact And.comm

/-- There is one answer of layers to all requests that they deny, and handlers give the same to
requests without a caller. Through a router it goes out with its length, without its body to a
request for the head, and with the methods to use to a request that is misdirected, so that a client
sees two answers alike exactly if the requests are alike in this. -/
theorem one_answer_without_caller :
    (∀ (m : Mechanism) headers, m.Fails headers ↔ ∀ c, m.outcome headers ≠ .authenticated c) ∧
    ∃ answer : Response,
      answer.status = 401 ∧
      answer.headers = [("content-type", "application/problem+json"),
        ("www-authenticate", "Bearer \x7btoken\x7d")] ∧
      answer.body = "\x7b\"type\":\"about:blank\",\"title\":\"Unauthorized\",\"status\":401," ++
        "\"detail\":\"A valid bearer token is required\"\x7d" ∧
      (∀ (l : Layer) (r : Request) (e : Extensions), l.Denies r → l.Answers r e answer ∧
        ∀ router outer, l.application router r e outer =
          (⟨answer.status,
            answer.headers ++ (if Misdirected router r then [("allow", "GET,HEAD")] else []) ++
              [("content-length", "102")],
            if r.method = "HEAD" then "" else answer.body⟩, outer)) ∧
      (∀ (l l' : Layer) (r r' : Request) (e e' : Extensions) (router router' : Router) outer,
        l.Denies r → l'.Denies r' →
        (l.application router r e outer = l'.application router' r' e' outer ↔
          (r.method = "HEAD" ↔ r'.method = "HEAD") ∧
            (Misdirected router r ↔ Misdirected router' r'))) ∧
      ∀ given : Extensions, given.context = none → given.Refuses answer := by
  have sameAnswer : Refusal.unauthenticated.response = challengeResponse := rfl
  refine ⟨fun m headers => Mechanism.fails_iff, challengeResponse, by decide +kernel,
    by decide +kernel, by decide +kernel, fun l r e denied => ?_,
    fun l l' r r' e e' router router' outer denied denied' => ?_, fun given none => ?_⟩
  · have answers := answers_of_denies denied e
    refine ⟨answers, fun router outer => ?_⟩
    rw [answers.application, release_challenge]
  · rw [(answers_of_denies denied e).application, (answers_of_denies denied' e').application,
      Prod.mk.injEq, and_iff_left rfl]
    exact release_challenge_eq_iff
  · rw [← sameAnswer]
    exact Extensions.refuses_of_no_context none

private def withValidator (validator : Validator) : Layer :=
  ⟨⟨⟨"issuer", [], 60⟩, validator, RoleMapping.empty⟩, ⟨true, Route.Table.empty⟩, none⟩

private def welcoming : Layer :=
  withValidator fun _ text => .ok (Token.ofPayload text TextMap.empty)

private def breakingOff : Layer := withValidator fun _ _ => .error .crash

private def asking (method path : String) : Request := ⟨method, path, none, []⟩

private def posting : Request :=
  ⟨"POST", "/nowhere", some "q", [("Authorization", Text.utf8 "Bearer t")]⟩

private theorem asking_denied {method path : String} (noOptions : method ≠ "OPTIONS")
    (required : welcoming.policy.resolve path = .required) :
    welcoming.Denies (asking method path) where
  noPreflight := fun preflight => noOptions preflight.1
  required := required
  fails := .noHeader rfl

private theorem anonymous_denied : welcoming.Denies (asking "GET" "/endp/echo") :=
  asking_denied (by decide) (by decide +kernel)

private theorem posting_denied : breakingOff.Denies posting where
  noPreflight := by
    rw [← isPreflight_iff]
    decide +kernel
  required := by decide +kernel
  fails := .crashed (Bearer.bytes?_eq_some_iff.mp (by decide +kernel) :
    FirstBears (posting.headers.values "authorization") (Text.utf8 "t")) rfl

private def roles : Endpoint.Roles := ⟨⟨"jti", .value .string⟩, ⟨"iat", .value .long⟩⟩

theorem anonymous_and_posting_answered_alike :
    welcoming.Denies (asking "GET" "/endp/echo") ∧ breakingOff.Denies posting ∧
    (∀ (inner inner' : Service) e e' outer,
      welcoming.protect inner (asking "GET" "/endp/echo") e outer =
        breakingOff.protect inner' posting e' outer) ∧
    (∀ e e' outer, welcoming.application roles.router (asking "GET" "/endp/echo") e outer =
      breakingOff.application roles.router posting e' outer) ∧
    ∃ answer, breakingOff.Answers posting Extensions.bare answer ∧
      Extensions.bare.Refuses answer := by
  obtain ⟨_, answer, _, _, _, alike, seen, refuses⟩ := one_answer_without_caller
  refine ⟨anonymous_denied, posting_denied, fun inner inner' e e' outer => ?_,
    fun e e' outer => ?_, answer, (alike _ _ _ posting_denied).1, refuses _ rfl⟩
  · have first := (alike welcoming (asking "GET" "/endp/echo") e anonymous_denied).1 Id inner outer
    have second := (alike breakingOff posting e' posting_denied).1 Id inner' outer
    exact first.trans second.symm
  · exact (seen _ _ _ _ e e' _ _ outer anonymous_denied posting_denied).mpr
      ⟨by decide, by decide⟩

/-- A client can tell a known path from an unknown one by a method that neither serves, and a request
for the head from another. -/
theorem denied_methods_answered_apart :
    welcoming.Denies (asking "GET" "/endp/echo") ∧ welcoming.Denies (asking "HEAD" "/endp/echo") ∧
    welcoming.Denies (asking "POST" "/endp/echo") ∧ welcoming.Denies (asking "POST" "/nowhere") ∧
    welcoming.application roles.router (asking "HEAD" "/endp/echo") Extensions.bare none ≠
      welcoming.application roles.router (asking "GET" "/endp/echo") Extensions.bare none ∧
    welcoming.application roles.router (asking "POST" "/endp/echo") Extensions.bare none ≠
      welcoming.application roles.router (asking "POST" "/nowhere") Extensions.bare none := by
  have required : welcoming.policy.resolve "/endp/echo" = .required := by decide +kernel
  have required' : welcoming.policy.resolve "/nowhere" = .required := by decide +kernel
  refine ⟨anonymous_denied, asking_denied (by decide) required, asking_denied (by decide) required,
    asking_denied (by decide) required', fun same => ?_, fun same => ?_⟩
  · have bodies := congrArg (·.1.body) same
    revert bodies
    decide +kernel
  · have headers := congrArg (·.1.headers) same
    revert headers
    decide +kernel

end Layer

end BearerGate
