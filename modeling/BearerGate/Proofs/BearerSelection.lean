import BearerGate.Auth.Mechanism
import BearerGate.Proofs.Encodings
import Mathlib.Data.List.Forall2

/-!
Bearer selection: which value of the authorization header counts, and what comes of it, for any
validator. Main statement: only the first value with the bearer scheme matters, whatever stands
before and after it; the caller is authenticated exactly if what follows the scheme is a text that
the validator accepts without the blanks around it; and the slot is written exactly then, with the
token of the caller.
-/

set_option autoImplicit false
set_option relaxedAutoImplicit false

namespace BearerGate

open Http (Headers)

namespace Bearer

/-- Whether a byte is another one, or the capital of the letter that this is. -/
inductive FoldsTo : UInt8 → UInt8 → Prop
  | same (b : UInt8) : FoldsTo b b
  | capital {b : UInt8} (first : 65 ≤ b) (last : b ≤ 90) : FoldsTo b (b + 32)

/-- A value begins with the bearer scheme, in capitals or not, and goes on with the rest. -/
def Bears (value rest : List UInt8) : Prop :=
  ∃ scheme, List.Forall₂ FoldsTo scheme mark ∧ value = scheme ++ rest

def IsBearer (value : List UInt8) : Prop := ∃ rest, Bears value rest

/-- What follows the scheme in the first value that has it. -/
def FirstBears (values : List (List UInt8)) (rest : List UInt8) : Prop :=
  ∃ earlier value later, values = earlier ++ value :: later ∧ Bears value rest ∧
    ∀ v ∈ earlier, ¬ IsBearer v

theorem lowerByte_eq_iff {b s : UInt8} (noCapital : ¬ (65 ≤ s ∧ s ≤ 90)) :
    lowerByte b = s ↔ FoldsTo b s := by
  unfold lowerByte
  split
  · rename_i capital
    constructor
    · rintro rfl
      exact .capital capital.1 capital.2
    · rintro (_ | _)
      · exact absurd capital noCapital
      · rfl
  · rename_i other
    constructor
    · rintro rfl
      exact .same b
    · rintro (_ | ⟨first, last⟩)
      · rfl
      · exact absurd ⟨first, last⟩ other

theorem afterScheme?_eq_some_iff {scheme value rest : List UInt8}
    (noCapital : ∀ s ∈ scheme, ¬ (65 ≤ s ∧ s ≤ 90)) :
    afterScheme? scheme value = some rest ↔
      ∃ start, List.Forall₂ FoldsTo start scheme ∧ value = start ++ rest := by
  induction scheme generalizing value with
  | nil => simp [afterScheme?]
  | cons s scheme ih =>
    obtain ⟨here, others⟩ := List.forall_mem_cons.mp noCapital
    cases value with
    | nil =>
      constructor
      · nofun
      · rintro ⟨start, folds, same⟩
        cases folds with
        | cons _ _ => cases same
    | cons b value =>
      rw [afterScheme?, Option.ite_none_right_eq_some, lowerByte_eq_iff here, ih others]
      constructor
      · rintro ⟨fold, start, folds, rfl⟩
        exact ⟨b :: start, .cons fold folds, rfl⟩
      · rintro ⟨start, folds, same⟩
        cases folds with
        | cons fold folds =>
          obtain ⟨rfl, tails⟩ := List.cons.inj same
          exact ⟨fold, _, folds, tails⟩

private theorem mark_noCapital : ∀ s ∈ mark, ¬ (65 ≤ s ∧ s ≤ 90) := by
  decide +kernel

theorem afterMark?_eq_some_iff {value rest : List UInt8} :
    afterScheme? mark value = some rest ↔ Bears value rest :=
  afterScheme?_eq_some_iff mark_noCapital

theorem afterMark?_eq_none_iff {value : List UInt8} :
    afterScheme? mark value = none ↔ ¬ IsBearer value := by
  rw [IsBearer, not_exists, Option.eq_none_iff_forall_ne_some]
  exact forall_congr' fun rest => afterMark?_eq_some_iff.not

theorem bytes?_eq_none_iff {values : List (List UInt8)} :
    bytes? values = none ↔ ∀ value ∈ values, ¬ IsBearer value := by
  simp only [bytes?, List.findSome?_eq_none_iff, afterMark?_eq_none_iff]

theorem bytes?_eq_some_iff {values : List (List UInt8)} {rest : List UInt8} :
    bytes? values = some rest ↔ FirstBears values rest := by
  simp only [bytes?, List.findSome?_eq_some_iff, afterMark?_eq_some_iff, afterMark?_eq_none_iff,
    FirstBears]

end Bearer

namespace Mechanism

open Bearer (FirstBears IsBearer bytes?_eq_none_iff bytes?_eq_some_iff)

/-- The bytes of a bearer token are accepted if they are a text of which the validator accepts what
is left without the blanks around it. -/
theorem tokenOf?_eq_some_iff {m : Mechanism} {bytes : List UInt8} {t : Token} :
    m.tokenOf? bytes = some t ↔
      ∃ text, Text.utf8 text = bytes ∧ m.validator m.context (Text.trim text) = .ok t := by
  simp only [tokenOf?, Bearer.text?, Option.bind_eq_some_iff, Option.map_eq_some_iff,
    Text.ofUtf8?_eq_some_iff, Jwt.toOption_eq_some_iff]
  constructor
  · rintro ⟨_, ⟨text, encoded, rfl⟩, accepted⟩
    exact ⟨text, encoded, accepted⟩
  · rintro ⟨text, encoded, accepted⟩
    exact ⟨_, ⟨text, encoded, rfl⟩, accepted⟩

/-- What comes of a bearer token: the caller is authenticated, with the identity that token and
mapping give, if the validator accepts the token; and in all other cases, that the validator breaks
off included, the caller is not authenticated. -/
structure Judges (m : Mechanism) (bytes : List UInt8) (outcome : AuthOutcome) : Prop where
  authenticated : ∀ c, outcome = .authenticated c ↔
    (∃ text, Text.utf8 text = bytes ∧ m.validator m.context (Text.trim text) = .ok c.token) ∧
      c.identity = Identity.ofToken c.token m.mapping ∧ c.scheme = SecurityContext.bearerScheme
  notAuthenticated : outcome = .notAuthenticated ↔
    ∀ text, Text.utf8 text = bytes → ∀ t, m.validator m.context (Text.trim text) ≠ .ok t

theorem outcome_of_some {m : Mechanism} {headers : Headers} {bytes : List UInt8}
    (first : Bearer.bytes? (headers.values "authorization") = some bytes) :
    m.outcome headers =
      (m.tokenOf? bytes).elim .notAuthenticated fun t => .authenticated (m.contextOf t) := by
  rw [outcome, authenticate, first]
  dsimp only
  cases m.tokenOf? bytes <;> rfl

theorem outcome_eq_notAttempted_iff {m : Mechanism} {headers : Headers} :
    m.outcome headers = .notAttempted ↔
      ∀ value ∈ headers.values "authorization", ¬ IsBearer value := by
  rw [← bytes?_eq_none_iff]
  cases found : Bearer.bytes? (headers.values "authorization") with
  | none =>
    rw [outcome, authenticate, found]
    exact ⟨fun _ => rfl, fun _ => rfl⟩
  | some bytes =>
    rw [outcome_of_some found]
    cases m.tokenOf? bytes with
    | none => exact ⟨nofun, nofun⟩
    | some t => exact ⟨nofun, nofun⟩

theorem judges_outcome {m : Mechanism} {headers : Headers} {bytes : List UInt8}
    (first : Bearer.bytes? (headers.values "authorization") = some bytes) :
    m.Judges bytes (m.outcome headers) := by
  rw [outcome_of_some first]
  cases accepted : m.tokenOf? bytes with
  | none =>
    have refused (text : String) (encoded : Text.utf8 text = bytes) (t : Token) :
        m.validator m.context (Text.trim text) ≠ .ok t := by
      intro valid
      rw [tokenOf?_eq_some_iff.mpr ⟨text, encoded, valid⟩] at accepted
      cases accepted
    refine ⟨fun c => ⟨nofun, ?_⟩, fun _ => refused, fun _ => rfl⟩
    rintro ⟨⟨text, encoded, valid⟩, _⟩
    exact absurd valid (refused text encoded c.token)
  | some t =>
    have valid := tokenOf?_eq_some_iff.mp accepted
    refine ⟨fun c => ⟨?_, ?_⟩, nofun, ?_⟩
    · intro same
      cases same
      exact ⟨valid, rfl, rfl⟩
    · rintro ⟨valid', identity, scheme⟩
      rw [tokenOf?_eq_some_iff.mpr valid'] at accepted
      obtain rfl := Option.some.inj accepted
      have same : m.contextOf c.token = c := by
        rw [contextOf, SecurityContext.ofToken, ← identity, ← scheme]
      exact congrArg AuthOutcome.authenticated same
    · intro refused
      obtain ⟨text, encoded, valid⟩ := valid
      exact absurd valid (refused text encoded t)

/-- Authenticating is attempted exactly if some value has the bearer scheme. Then what follows the
scheme in the first such value decides alone about outcome and slot, and it decides by the validator.
The slot of a scope holds the token of an authenticated caller afterwards; in all other cases, and
outside of all scopes, it is left as it is. -/
theorem first_bearer_decides (m : Mechanism) (headers : Headers) (slot : Slot) :
    ((m.authenticate headers slot).1 = .notAttempted ↔
      ∀ value ∈ headers.values "authorization", ¬ IsBearer value) ∧
    ((∃ value ∈ headers.values "authorization", IsBearer value) →
      ∃ rest, FirstBears (headers.values "authorization") rest) ∧
    (∀ rest, FirstBears (headers.values "authorization") rest →
      m.Judges rest (m.authenticate headers slot).1 ∧
      ∀ headers' : Headers, FirstBears (headers'.values "authorization") rest →
        m.authenticate headers' slot = m.authenticate headers slot) ∧
    (∀ c, (m.authenticate headers slot).1 = .authenticated c → slot ≠ none →
      (m.authenticate headers slot).2 = some (some c.token)) ∧
    ((slot = none ∨ ∀ c, (m.authenticate headers slot).1 ≠ .authenticated c) →
      (m.authenticate headers slot).2 = slot) := by
  have alone (headers' : Headers) : (m.authenticate headers' slot).1 = m.outcome headers' := by
    rw [m.authenticate_apply]
  have written : (m.authenticate headers slot).2 =
      (m.outcome headers).token?.elim slot fun t => slot.map fun _ => some t := by
    rw [m.authenticate_apply]
  simp only [alone]
  refine ⟨outcome_eq_notAttempted_iff, ?_, fun rest first => ⟨?_, ?_⟩, ?_, ?_⟩
  · rintro ⟨value, member, isBearer⟩
    cases found : Bearer.bytes? (headers.values "authorization") with
    | none => exact absurd isBearer (bytes?_eq_none_iff.mp found value member)
    | some rest => exact ⟨rest, bytes?_eq_some_iff.mp found⟩
  · exact judges_outcome (bytes?_eq_some_iff.mpr first)
  · intro headers' first'
    have same : m.outcome headers' = m.outcome headers := by
      rw [outcome_of_some (bytes?_eq_some_iff.mpr first'),
        outcome_of_some (bytes?_eq_some_iff.mpr first)]
    rw [m.authenticate_apply, m.authenticate_apply, same]
  · intro c authenticated inScope
    obtain ⟨held, rfl⟩ := Option.ne_none_iff_exists'.mp inScope
    rw [written, authenticated]
    rfl
  · rintro (rfl | notAuthenticated)
    · rw [written]
      cases (m.outcome headers).token? <;> rfl
    · rw [written]
      cases outcome : m.outcome headers with
      | authenticated c => exact absurd outcome (notAuthenticated c)
      | notAuthenticated | notAttempted => rfl

private def forOne : Mechanism where
  context := ⟨"issuer", [], 60⟩
  validator := fun _ text =>
    if text = "t" then .ok (Token.ofPayload text .empty)
    else if text = "boom" then .error .crash
    else .error (.fault .badSignature)
  mapping := RoleMapping.empty

private def spaced : List UInt8 := [0x20, 0x74, 0x20]

private def boom : List UInt8 := [0x62, 0x6F, 0x6F, 0x6D]

private def amongOthers : Headers :=
  [("Authorization", [0x42, 0xFF]), ("AUTHORIZATION", Text.utf8 "bEARER  t "),
    ("authorization", Text.utf8 "Bearer boom")]

private def alone : Headers := [("authorization", Text.utf8 "Bearer  t ")]

private def behindBoom : Headers :=
  [("authorization", Text.utf8 "Bearer boom"), ("authorization", Text.utf8 "Bearer t")]

private theorem amongOthers_first : FirstBears (amongOthers.values "authorization") spaced :=
  bytes?_eq_some_iff.mp (by decide +kernel)

private theorem alone_first : FirstBears (alone.values "authorization") spaced :=
  bytes?_eq_some_iff.mp (by decide +kernel)

private theorem behindBoom_first : FirstBears (behindBoom.values "authorization") boom :=
  bytes?_eq_some_iff.mp (by decide +kernel)

/-- A token is found between values that do not count, and none behind one at which the validator
breaks off. -/
theorem token_among_others_and_none_behind_boom :
    FirstBears (amongOthers.values "authorization") spaced ∧
    (∃ c, (forOne.authenticate amongOthers (some none)).1 = .authenticated c ∧
      (forOne.authenticate amongOthers (some none)).2 = some (some c.token)) ∧
    FirstBears (alone.values "authorization") spaced ∧
    forOne.authenticate alone (some none) = forOne.authenticate amongOthers (some none) ∧
    FirstBears (behindBoom.values "authorization") boom ∧
    (forOne.authenticate behindBoom (some none)).1 = .notAuthenticated ∧
    (forOne.authenticate behindBoom (some none)).2 = some none := by
  obtain ⟨_, _, decides, published, _⟩ := first_bearer_decides forOne amongOthers (some none)
  obtain ⟨_, _, decides', _, unchanged⟩ := first_bearer_decides forOne behindBoom (some none)
  obtain ⟨judged, same⟩ := decides spaced amongOthers_first
  have judged' := (decides' boom behindBoom_first).1
  have accepted : (forOne.authenticate amongOthers (some none)).1 =
      .authenticated (forOne.contextOf (Token.ofPayload "t" .empty)) :=
    (judged.authenticated _).mpr ⟨⟨" t ", by decide +kernel, by rfl⟩, rfl, rfl⟩
  have noToken : (forOne.tokenOf? boom).isNone = true := by decide +kernel
  have refused : (forOne.authenticate behindBoom (some none)).1 = .notAuthenticated := by
    refine judged'.notAuthenticated.mpr fun text encoded t valid => ?_
    rw [tokenOf?_eq_some_iff.mpr ⟨text, encoded, valid⟩] at noToken
    cases noToken
  refine ⟨amongOthers_first, ⟨_, accepted, published _ accepted nofun⟩, alone_first,
    same alone alone_first, behindBoom_first, refused, unchanged (.inr fun c => ?_)⟩
  rw [refused]
  nofun

end Mechanism

end BearerGate
