import BearerGate.Proofs.Admission

/-!
One token for each request: behind the layer a handler can read the token of its caller in the slot,
in the extensions of the request, and through whatever resolves claims against one of these. Main
statement: all of these hold the token of the authenticated caller, or none, so that a handler that
does not write the slot comes to what it comes to when it is answered for this one token.
-/

set_option autoImplicit false
set_option relaxedAutoImplicit false

namespace BearerGate

open Http (Request Response)
open Injection (InjectError Injected Provider Registry produce)

namespace Http

def Request.withoutAuthorization (r : Request) : Request :=
  { r with headers := r.headers.filter fun h => Text.lowerAscii h.1 != "authorization" }

theorem Request.values_withoutAuthorization (r : Request) :
    r.withoutAuthorization.headers.values "authorization" = [] := by
  simp [withoutAuthorization, Headers.values, List.filter_filter]

end Http

theorem Mechanism.outcome_of_values_eq_nil (m : Mechanism) {headers : Http.Headers}
    (noValue : headers.values "authorization" = []) : m.outcome headers = .notAttempted := by
  rw [outcome, authenticate, noValue]
  rfl

/-- All that a handler finds of a token, in the slot and with the request, is one and the same. -/
structure Extensions.Carries (given : Extensions) (held : Slot) (t : Option Token) : Prop where
  current : (Holder.current held).1 = t
  token : given.token = t
  context : given.context.map (·.token) = t

inductive Inquiry
  /-- The token in the slot. -/
  | current
  /-- The token that comes with the request. -/
  | attached
  /-- The token of the caller. -/
  | ofCaller
  /-- The claim of a place, injected with the token that comes with the request. -/
  | injected (location : String)
  /-- The claim of a place, injected with the token in the slot. -/
  | injectedCurrent (location : String)
  /-- The claim of a provider. -/
  | provided (provider : Provider)

inductive Answer
  | token (token : Option Token)
  | value (value : Except InjectError Injected)
  | refused (refusal : Refusal)

namespace Inquiry

/-- The answer as a handler finds it, in the slot or with its request. -/
def ask (registry : Registry) (given : Extensions) : Inquiry → Held Answer
  | .current => do return .token (← Holder.current)
  | .attached => return .token given.token
  | .ofCaller => return .token (given.context.map (·.token))
  | .injected location => return match given.injector with
    | .ok injector => .value (injector.inject location)
    | .error refusal => .refused refusal
  | .injectedCurrent location => do return .value (← registry.inject location)
  | .provided provider => do return .value (.ok (← provider.get))

def answer (registry : Registry) (t : Option Token) : Inquiry → Answer
  | .current => .token t
  | .attached => .token t
  | .ofCaller => .token t
  | .injected location => .value (registry.injectFrom location t)
  | .injectedCurrent location => .value (registry.injectFrom location t)
  | .provided provider => .value (.ok (produce provider.claim t provider.type))

theorem ask_apply {given : Extensions} {held : Slot} {t : Option Token} {registry : Registry}
    (carries : given.Carries held t) (attached : given.registry = some registry)
    (inquiry : Inquiry) : inquiry.ask registry given held = (inquiry.answer registry t, held) := by
  obtain ⟨rfl, token, context⟩ := carries
  cases inquiry with
  | current => rfl
  | attached => exact congrArg (fun t => (Answer.token t, held)) token
  | ofCaller => exact congrArg (fun t => (Answer.token t, held)) context
  | injected location =>
    have injector : given.injector = .ok ⟨registry, (Holder.current held).1⟩ := by
      rw [Extensions.injector, attached, token]
    rw [ask, injector]
    rfl
  | injectedCurrent location => rfl
  | provided provider => rfl

end Inquiry

/-- A handler that does not write the slot: it asks and has other effects, and goes on by what it
has learnt, until it answers. -/
inductive Handler (m : Type → Type) : Type 1
  | respond (response : Response)
  | perform {α : Type} (effect : m α) (next : α → Handler m)
  | inquire (inquiry : Inquiry) (next : Answer → Handler m)

namespace Handler

variable {m : Type → Type} [Monad m]

def serve (registry : Registry) (given : Extensions) : Handler m → StateT Slot m Response
  | .respond response => pure response
  | .perform effect next => do serve registry given (next (← StateT.lift effect))
  | .inquire inquiry next => do
    serve registry given (next (← Held.lift (inquiry.ask registry given)))

def answered (registry : Registry) (t : Option Token) : Handler m → m Response
  | .respond response => pure response
  | .perform effect next => do answered registry t (next (← effect))
  | .inquire inquiry next => answered registry t (next (inquiry.answer registry t))

/-- Where all that is found is one token, a handler comes to what it comes to for this token. -/
theorem serve_apply [LawfulMonad m] {given : Extensions} {held : Slot} {t : Option Token}
    {registry : Registry} (carries : given.Carries held t)
    (attached : given.registry = some registry) (handler : Handler m) :
    handler.serve registry given held = (·, held) <$> handler.answered registry t := by
  -- No step writes the slot, so what is carried at first is carried to the end.
  induction handler with
  | respond response =>
    rw [answered, map_pure]
    rfl
  | perform effect next ih =>
    change (do let a ← effect; pure (a, held)) >>= _ = _
    rw [bind_assoc, answered, map_bind]
    refine bind_congr fun a => ?_
    rw [pure_bind]
    exact ih a
  | inquire inquiry next ih =>
    simp only [serve, answered, bind, StateT.bind, Held.lift]
    rw [pure_bind, inquiry.ask_apply carries attached]
    exact ih _

end Handler

namespace Layer

theorem registry_extended (l : Layer) (r : Request) (e : Extensions) :
    (l.extended r e).registry = l.registry.or e.registry := by
  unfold extended attachRegistry
  cases l.caller? r <;> cases l.registry <;> rfl

theorem token_attachRegistry (l : Layer) (e : Extensions) :
    (l.attachRegistry e).token = e.token := by
  unfold attachRegistry
  split <;> rfl

/-- A request that arrives without a caller is passed on with the one that is established, if any,
and its token. -/
theorem carries_extended (l : Layer) (r : Request) {e : Extensions} (noToken : e.token = none)
    (noContext : e.context = none) :
    (l.extended r e).Carries (l.held r) ((l.caller? r).map (·.token)) := by
  refine ⟨rfl, ?_, ?_⟩
  · unfold extended
    cases l.caller? r with
    | some c => rfl
    | none => exact (l.token_attachRegistry e).trans noToken
  · rw [context_extended, noContext, Option.or_none]

theorem extended_of_caller?_eq_none {l : Layer} {r : Request} (noCaller : l.caller? r = none)
    (e : Extensions) : l.extended r e = l.attachRegistry e ∧ l.held r = some none := by
  rw [extended, held, noCaller]
  exact ⟨rfl, rfl⟩

theorem calls_withoutAuthorization {l : Layer} {r : Request} {e given : Extensions} {held : Slot}
    (calls : l.Calls r e given held) (isPublic : l.policy.resolve r.path = .none)
    (rejected : l.mechanism.outcome r.headers = .notAuthenticated) :
    l.Calls r.withoutAuthorization e given held := by
  have noCaller : l.caller? r = none :=
    (l.caller?_eq_none_iff r).mpr (.inr fun c => by rw [rejected]; nofun)
  have noCaller' : l.caller? r.withoutAuthorization = none := by
    refine (l.caller?_eq_none_iff _).mpr (.inr fun c => ?_)
    rw [l.mechanism.outcome_of_values_eq_nil r.values_withoutAuthorization]
    nofun
  have admitted : l.Admits r.withoutAuthorization := .inr (.inl isPublic)
  have calls' := calls_of_admits admitted e
  obtain ⟨same, sameSlot⟩ := calls.unique (calls_of_admits (admits_of_calls calls) e)
  obtain ⟨bare, empty⟩ := extended_of_caller?_eq_none noCaller e
  obtain ⟨bare', empty'⟩ := extended_of_caller?_eq_none noCaller' e
  rw [bare', empty'] at calls'
  rwa [same, sameSlot, bare, empty]

/-- Behind the layer the slot, the extensions and the caller hold one token, that of the caller who
was authenticated, or all hold none. A token that was rejected on a public path leaves no trace. A
handler that does not write the slot comes to what it comes to for this one token, wherever it looks
for it. -/
theorem one_token_behind {l : Layer} {r : Request} {e given : Extensions} {held : Slot}
    (calls : l.Calls r e given held) (noToken : e.token = none) (noContext : e.context = none) :
    ∃ t : Option Token, given.Carries held t ∧
      (∀ token, t = some token ↔ ∃ c, ¬ Preflight r ∧
        l.mechanism.outcome r.headers = .authenticated c ∧ c.token = token) ∧
      (l.mechanism.outcome r.headers = .notAuthenticated → l.policy.resolve r.path = .none →
        l.Calls r.withoutAuthorization e given held) ∧
      ∀ registry, l.registry = some registry →
        (∀ inquiry : Inquiry, inquiry.ask registry given held = (inquiry.answer registry t, held)) ∧
        ∀ (m : Type → Type) [Monad m] [LawfulMonad m] (handler : Handler m) (outer : Slot),
          l.protect (fun _ given => handler.serve registry given) r e outer =
            (·, outer) <$> handler.answered registry t := by
  obtain ⟨rfl, rfl⟩ := calls.unique (calls_of_admits (admits_of_calls calls) e)
  have carries := l.carries_extended r noToken noContext
  refine ⟨_, carries, fun token => ?_, fun rejected isPublic =>
    calls_withoutAuthorization calls isPublic rejected, fun registry attached => ?_⟩
  · simp only [Option.map_eq_some_iff, caller?_eq_some_iff, and_assoc]
  · have given : (l.extended r e).registry = some registry := by
      rw [registry_extended, attached]
      rfl
    refine ⟨Inquiry.ask_apply carries given, ?_⟩
    intro m _ _ handler outer
    rw [calls m _ outer, handler.serve_apply carries given, Functor.map_map]

private def siteKey : Injection.Key := ⟨"sub", .provider, .provider (.value .string)⟩

private def subjectRegistry : Registry := ⟨[⟨0, siteKey⟩], [("A", siteKey)]⟩

private def user : Token := Token.ofPayload "t" (TextMap.ofList [("sub", .string "u")])

private def forUser : Layer where
  mechanism :=
    { context := ⟨"issuer", [], 60⟩
      validator := fun _ text => if text = "t" then .ok user else .error (.fault .badSignature)
      mapping := RoleMapping.empty }
  policy := ⟨false, Route.Table.empty⟩
  registry := some subjectRegistry

private def bearing (token : String) : Request :=
  ⟨"GET", "/", none, [("Authorization", Text.utf8 ("Bearer " ++ token))]⟩

private def nameSubject : Handler Id :=
  .inquire (.injected "A") fun
    | .value (.ok (.provider p)) => .inquire (.provided p) fun
      | .value (.ok (.claim (.string subject))) => .respond (Response.text 200 subject)
      | _ => .respond (Response.bare 404)
    | _ => .respond (Response.bare 500)

private theorem outcome_user : forUser.mechanism.outcome (bearing "t").headers =
    .authenticated (forUser.mechanism.contextOf user) := by
  rfl

private theorem outcome_stranger :
    forUser.mechanism.outcome (bearing "x").headers = .notAuthenticated := by
  rfl

/-- The subject of a user is found in all ways and named by the handler, and a stranger is served
as if without a token. -/
theorem subject_of_user_named_stranger_unseen :
    Extensions.bare.token = none ∧ Extensions.bare.context = none ∧
    (∃ given held, forUser.Calls (bearing "t") Extensions.bare given held ∧
      given.Carries held (some user) ∧
      forUser.protect (fun _ given => nameSubject.serve subjectRegistry given) (bearing "t")
        Extensions.bare none = (Response.text 200 "u", none)) ∧
    ∃ given held, forUser.Calls (bearing "x") Extensions.bare given held ∧
      given.Carries held none ∧
      forUser.Calls (bearing "x").withoutAuthorization Extensions.bare given held := by
  have noPreflight : ¬ Preflight (bearing "t") := by
    rw [← isPreflight_iff]
    decide +kernel
  refine ⟨rfl, rfl, ?_, ?_⟩
  · have calls := calls_of_admits (.inr (.inl rfl) : forUser.Admits (bearing "t"))
      Extensions.bare
    obtain ⟨t, carries, isCaller, _, answers⟩ := one_token_behind calls rfl rfl
    obtain rfl := (isCaller user).mpr ⟨_, noPreflight, outcome_user, rfl⟩
    exact ⟨_, _, calls, carries, (answers subjectRegistry rfl).2 Id nameSubject none⟩
  · have calls := calls_of_admits (.inr (.inl rfl) : forUser.Admits (bearing "x")) Extensions.bare
    obtain ⟨t, carries, isCaller, unseen, _⟩ := one_token_behind calls rfl rfl
    have noToken : t = none := by
      refine Option.eq_none_iff_forall_ne_some.mpr fun token given => ?_
      obtain ⟨c, _, outcome, _⟩ := (isCaller token).mp given
      rw [outcome_stranger] at outcome
      cases outcome
    exact ⟨_, _, calls, noToken ▸ carries, unseen outcome_stranger rfl⟩

end Layer

end BearerGate
