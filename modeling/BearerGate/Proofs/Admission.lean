import BearerGate.Auth.Extract

/-!
Admission: which requests the layer lets through to the service behind it, and what a handler there
can ask for. A call is observed by what it does in an arbitrary monad, so that a service that is
called twice, or called for nothing, would be seen. Main statement: the service is called exactly
for preflights, for public paths and for authenticated callers; all other requests are challenged;
and a role is granted exactly to an authenticated caller who has it.
-/

set_option autoImplicit false
set_option relaxedAutoImplicit false

namespace BearerGate

open Http (Request Response)

/-- A request by which a browser asks which requests from another site are allowed. -/
def Preflight (r : Request) : Prop :=
  r.method = "OPTIONS" ∧ (∃ h ∈ r.headers, Text.lowerAscii h.1 = "origin") ∧
    ∃ h ∈ r.headers, Text.lowerAscii h.1 = "access-control-request-method"

theorem isPreflight_iff (r : Request) : isPreflight r = true ↔ Preflight r := by
  simp [isPreflight, Preflight, Http.Headers.has, and_assoc]

namespace Layer

/-- Whatever the service is and does, it is called once, with the given extensions and in a scope
with the given slot, and its answer is the answer; the slot outside is left as it is. -/
def Calls (l : Layer) (r : Request) (e given : Extensions) (held : Slot) : Prop :=
  ∀ (m : Type → Type) [Monad m] [LawfulMonad m] (inner : ServiceIn m) (outer : Slot),
    l.protect inner r e outer = (fun answer => (answer.1, outer)) <$> inner r given held

/-- Whatever the service is, it is not called, and the answer is a challenge. -/
def Challenges (l : Layer) (r : Request) (e : Extensions) : Prop :=
  ∀ (m : Type → Type) [Monad m] [LawfulMonad m] (inner : ServiceIn m) (outer : Slot),
    l.protect inner r e outer = pure (challengeResponse, outer)

def Admits (l : Layer) (r : Request) : Prop :=
  Preflight r ∨ l.policy.resolve r.path = .none ∨
    ∃ c, l.mechanism.outcome r.headers = .authenticated c

def caller? (l : Layer) (r : Request) : Option SecurityContext :=
  if isPreflight r then none
  else match l.mechanism.outcome r.headers with
    | .authenticated c => some c
    | _ => none

def extended (l : Layer) (r : Request) (e : Extensions) : Extensions :=
  match l.caller? r with
  | some c => { l.attachRegistry e with token := some c.token, context := some c }
  | none => l.attachRegistry e

def held (l : Layer) (r : Request) : Slot := some ((l.caller? r).map (·.token))

theorem caller?_eq_some_iff (l : Layer) (r : Request) (c : SecurityContext) :
    l.caller? r = some c ↔ ¬ Preflight r ∧ l.mechanism.outcome r.headers = .authenticated c := by
  rw [← isPreflight_iff, caller?]
  cases isPreflight r <;> cases l.mechanism.outcome r.headers <;> simp

theorem caller?_eq_none_iff (l : Layer) (r : Request) :
    l.caller? r = none ↔ Preflight r ∨ ∀ c, l.mechanism.outcome r.headers ≠ .authenticated c := by
  rw [← isPreflight_iff, caller?]
  cases isPreflight r <;> cases l.mechanism.outcome r.headers <;> simp

theorem context_attachRegistry (l : Layer) (e : Extensions) :
    (l.attachRegistry e).context = e.context := by
  unfold attachRegistry
  split <;> rfl

theorem context_extended (l : Layer) (r : Request) (e : Extensions) :
    (l.extended r e).context = (l.caller? r).or e.context := by
  unfold extended
  cases l.caller? r with
  | some c => rfl
  | none => exact context_attachRegistry l e

theorem screen_opened (l : Layer) (r : Request) (e : Extensions) :
    l.screen r e (some none) =
      if isPreflight r then (.forward (l.attachRegistry e), some none)
      else (l.settle r.path (l.attachRegistry e) (l.mechanism.outcome r.headers),
        some (l.mechanism.outcome r.headers).token?) := by
  unfold screen
  cases isPreflight r with
  | true => rfl
  | false =>
    simp only [Bool.false_eq_true, if_false, bind, StateT.bind, l.mechanism.authenticate_apply]
    cases l.mechanism.outcome r.headers <;> rfl

theorem protect_apply {m : Type → Type} [Monad m] [LawfulMonad m] (l : Layer) (inner : ServiceIn m)
    (r : Request) (e : Extensions) (outer : Slot) :
    l.protect inner r e outer =
      match l.screen r e (some none) with
      | (.forward given, held) => (fun answer => (answer.1, outer)) <$> inner r given held
      | (.challenge, _) => pure (challengeResponse, outer) := by
  rw [protect, Holder.scope_apply]
  simp only [bind, StateT.bind, Held.lift]
  rw [pure_bind]
  obtain ⟨admission, held⟩ := l.screen r e (some none)
  cases admission with
  | forward given => rfl
  | challenge =>
    change (fun ended => (ended.1, outer)) <$> pure (challengeResponse, held) = _
    rw [map_pure]

theorem screen_of_admits {l : Layer} {r : Request} (admitted : l.Admits r) (e : Extensions) :
    l.screen r e (some none) = (.forward (l.extended r e), l.held r) := by
  rw [Admits, ← isPreflight_iff] at admitted
  rw [screen_opened, extended, held, caller?]
  cases preflight : isPreflight r with
  | true => rfl
  | false =>
    cases outcome : l.mechanism.outcome r.headers with
    | authenticated c => rfl
    | notAuthenticated | notAttempted =>
      have isPublic : l.policy.resolve r.path = .none := by
        simpa [preflight, outcome] using admitted
      simp [settle, isPublic, AuthOutcome.token?]

theorem calls_of_admits {l : Layer} {r : Request} (admitted : l.Admits r) (e : Extensions) :
    l.Calls r e (l.extended r e) (l.held r) := by
  intro m _ _ inner outer
  rw [protect_apply, screen_of_admits admitted]

theorem challenges_of_not_admits {l : Layer} {r : Request} (refused : ¬ l.Admits r)
    (e : Extensions) : l.Challenges r e := by
  intro m _ _ inner outer
  rw [Admits, ← isPreflight_iff] at refused
  obtain ⟨preflight, notPublic, noCaller⟩ := by simpa only [not_or] using refused
  have required : l.policy.resolve r.path = .required := by
    cases requirement : l.policy.resolve r.path with
    | none => exact absurd requirement notPublic
    | required => rfl
  rw [protect_apply, screen_opened, if_neg preflight]
  cases outcome : l.mechanism.outcome r.headers with
  | authenticated c => exact absurd ⟨c, outcome⟩ noCaller
  | notAuthenticated | notAttempted => simp [settle, required]

/-- A service that records how it is called. -/
private def recorder : ServiceIn (StateM (Option (Extensions × Slot))) :=
  fun _ given held _ => ((Response.bare 200, held), some (given, held))

private theorem recorded {l : Layer} {r : Request} {e given : Extensions} {held : Slot}
    (calls : l.Calls r e given held) : (l.protect recorder r e none none).2 = some (given, held) :=
  congrArg Prod.snd (congrFun (calls _ recorder none) none)

theorem Calls.unique {l : Layer} {r : Request} {e given given' : Extensions} {held held' : Slot}
    (calls : l.Calls r e given held) (calls' : l.Calls r e given' held') :
    given = given' ∧ held = held' := by
  have same := (recorded calls).symm.trans (recorded calls')
  simpa using same

theorem Calls.not_challenges {l : Layer} {r : Request} {e given : Extensions} {held : Slot}
    (calls : l.Calls r e given held) : ¬ l.Challenges r e := by
  intro challenges
  have nothing : (l.protect recorder r e none none).2 = none :=
    congrArg Prod.snd (congrFun (challenges _ recorder none) none)
  rw [recorded calls] at nothing
  cases nothing

theorem admits_of_calls {l : Layer} {r : Request} {e given : Extensions} {held : Slot}
    (calls : l.Calls r e given held) : l.Admits r :=
  Classical.byContradiction fun refused => calls.not_challenges (challenges_of_not_admits refused e)

end Layer

namespace Extensions

theorem callerInRole_eq (role : String) (e : Extensions) :
    e.callerInRole role =
      match e.context with
      | some c => if c.isCallerInRole role then .ok c else .error (.forbidden role)
      | none => .error .unauthenticated := by
  unfold callerInRole caller
  cases e.context with
  | none => rfl
  | some c => cases inRole : c.isCallerInRole role <;> simp [inRole, bind, Except.bind] <;> rfl

theorem callerInRole_eq_ok_iff {role : String} {e : Extensions} {c : SecurityContext} :
    e.callerInRole role = .ok c ↔ e.context = some c ∧ c.isCallerInRole role = true := by
  rw [callerInRole_eq]
  cases e.context with
  | none => simp
  | some c' =>
    dsimp only
    split
    · rename_i inRole
      constructor
      · intro same
        cases same
        exact ⟨rfl, inRole⟩
      · rintro ⟨same, _⟩
        cases same
        rfl
    · rename_i notInRole
      constructor
      · intro same
        cases same
      · rintro ⟨same, inRole⟩
        cases same
        exact absurd inRole notInRole

theorem callerInRole_eq_forbidden_iff {role : String} {e : Extensions} :
    e.callerInRole role = .error (.forbidden role) ↔
      ∃ c, e.context = some c ∧ c.isCallerInRole role = false := by
  rw [callerInRole_eq]
  cases e.context with
  | none => simp
  | some c => cases inRole : c.isCallerInRole role <;> simp [inRole]

theorem callerInRole_eq_unauthenticated_iff {role : String} {e : Extensions} :
    e.callerInRole role = .error .unauthenticated ↔ e.context = none := by
  rw [callerInRole_eq]
  cases e.context with
  | none => simp
  | some c => cases inRole : c.isCallerInRole role <;> simp [inRole]

end Extensions

namespace Layer

/-- With the given extensions, a handler that requires a role serves exactly the authenticated
callers who have it, refuses exactly those who lack it, and asks everyone else to authenticate. -/
structure GuardsRole (l : Layer) (r : Request) (given : Extensions) (role : String) : Prop where
  serves : ∀ c, given.callerInRole role = .ok c ↔
    ¬ Preflight r ∧ l.mechanism.outcome r.headers = .authenticated c ∧
      c.isCallerInRole role = true
  forbids : given.callerInRole role = .error (.forbidden role) ↔
    ¬ Preflight r ∧ ∃ c, l.mechanism.outcome r.headers = .authenticated c ∧
      c.isCallerInRole role = false
  challenges : given.callerInRole role = .error .unauthenticated ↔
    Preflight r ∨ ∀ c, l.mechanism.outcome r.headers ≠ .authenticated c

theorem guardsRole_extended (l : Layer) (r : Request) {e : Extensions} (arrives : e.context = none)
    (role : String) : l.GuardsRole r (l.extended r e) role := by
  have context : (l.extended r e).context = l.caller? r := by
    rw [context_extended, arrives, Option.or_none]
  refine ⟨fun c => ?_, ?_, ?_⟩
  · rw [Extensions.callerInRole_eq_ok_iff, context, caller?_eq_some_iff, and_assoc]
  · simp only [Extensions.callerInRole_eq_forbidden_iff, context, caller?_eq_some_iff, and_assoc,
      exists_and_left]
  · rw [Extensions.callerInRole_eq_unauthenticated_iff, context, caller?_eq_none_iff]

/-- The service behind the layer is called exactly on the requests that are to be let through, all
others get the challenge with status 401, and behind the layer a role is required in earnest. -/
theorem calls_iff_admits_and_guards (l : Layer) (r : Request) (e : Extensions) :
    ((∃ given held, l.Calls r e given held) ↔ l.Admits r) ∧
    (¬ l.Admits r → l.Challenges r e) ∧
    (∀ given held, l.Calls r e given held → e.context = none →
      ∀ role, l.GuardsRole r given role) ∧
    challengeResponse.status = 401 ∧
    challengeResponse.values "www-authenticate" = ["Bearer \x7btoken\x7d"] ∧
    Refusal.unauthenticated.response = challengeResponse ∧
    ∀ role, (Refusal.forbidden role).response.status = 403 := by
  refine ⟨⟨?_, fun admitted => ⟨_, _, calls_of_admits admitted e⟩⟩,
    fun refused => challenges_of_not_admits refused e, ?_, by decide, by decide, rfl, fun _ => rfl⟩
  · rintro ⟨given, held, calls⟩
    exact admits_of_calls calls
  · intro given held calls arrives role
    have same := calls.unique (calls_of_admits (admits_of_calls calls) e)
    rw [same.1]
    exact guardsRole_extended l r arrives role

private def forTesters : Layer where
  mechanism :=
    { context := ⟨"issuer", [], 60⟩
      validator := fun _ text =>
        if text = "t" then
          .ok (Token.ofPayload text (TextMap.ofList [("groups", .array [.string "Tester"])]))
        else .error (.fault .badSignature)
      mapping := RoleMapping.empty }
  policy := ⟨true, Route.Table.empty⟩
  registry := none

private def requestWith (authorization : String) : Request :=
  ⟨"GET", "/endp/echo", none, [("Authorization", Text.utf8 authorization)]⟩

private theorem tester_outcome :
    ((forTesters.caller? (requestWith "bEARER  t ")).map fun c =>
      (c.isCallerInRole "Tester", c.isCallerInRole "Admin")) = some (true, false) := by
  decide +kernel

private theorem stranger_refused : ¬ forTesters.Admits (requestWith "Bearer x") := by
  have noPreflight : ¬ Preflight (requestWith "Bearer x") := by
    rw [← isPreflight_iff]
    decide +kernel
  have notPublic : forTesters.policy.resolve (requestWith "Bearer x").path = .required := by
    decide +kernel
  have noCaller : (forTesters.caller? (requestWith "Bearer x")).isNone = true := by
    decide +kernel
  rw [Admits, notPublic]
  rintro (preflight | none | ⟨c, outcome⟩)
  · exact noPreflight preflight
  · cases none
  · rw [(caller?_eq_some_iff _ _ _).mpr ⟨noPreflight, outcome⟩] at noCaller
    cases noCaller

theorem tester_admitted_and_stranger_challenged :
    (∃ given held, forTesters.Calls (requestWith "bEARER  t ") Extensions.bare given held ∧
      Extensions.bare.context = none ∧
      (∃ c, given.callerInRole "Tester" = .ok c) ∧
      given.callerInRole "Admin" = .error (.forbidden "Admin")) ∧
    ¬ forTesters.Admits (requestWith "Bearer x") ∧
    forTesters.Challenges (requestWith "Bearer x") Extensions.bare := by
  obtain ⟨c, caller, roles⟩ := Option.map_eq_some_iff.mp tester_outcome
  obtain ⟨isTester, notAdmin⟩ := Prod.mk.inj roles
  have established := (caller?_eq_some_iff _ _ _).mp caller
  obtain ⟨calledIff, refused, guarded, _⟩ :=
    calls_iff_admits_and_guards forTesters (requestWith "bEARER  t ") Extensions.bare
  obtain ⟨given, held, calls⟩ := calledIff.mpr (Or.inr (Or.inr ⟨c, established.2⟩))
  refine ⟨⟨given, held, calls, rfl, ⟨c, ?_⟩, ?_⟩, stranger_refused,
    (calls_iff_admits_and_guards forTesters _ _).2.1 stranger_refused⟩
  · exact ((guarded given held calls rfl "Tester").serves c).mpr
      ⟨established.1, established.2, isTester⟩
  · exact (guarded given held calls rfl "Admin").forbids.mpr
      ⟨established.1, c, established.2, notAdmin⟩

end Layer

end BearerGate
