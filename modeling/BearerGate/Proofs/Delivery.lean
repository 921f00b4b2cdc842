import BearerGate.Injection.Injected
import Mathlib.Logic.Basic

/-!
Delivery of accepted declarations: a declared type is checked against the kind of a standard claim
before anything is served, and in each request the claim is produced from what the payload gives.
Main statement: a type that was accepted is given a value whenever the claim of the token conforms
to its kind, and one for plain claim data is given a value in no other case.
-/

set_option autoImplicit false
set_option relaxedAutoImplicit false

namespace BearerGate

open Claim (Standard Kind Data)

namespace Claim.Data

theorem string?_of_ofJson_stringSet {value : Json} {data : Data}
    (lifted : ofJson (some .stringSet) value = some data) : data.string? = none := by
  cases value with
  | null => cases lifted
  | array items =>
    rw [ofJson] at lifted
    split at lifted <;> cases lifted <;> rfl
  | int n =>
    -- Numbers are lifted alike for all kinds, as longs if they fit.
    change lift (.int n) = some data at lifted
    rw [lift] at lifted
    cases lifted
    cases n.toInt64? <;> rfl
  | string _ | bool _ | double _ | object _ =>
    cases lifted
    rfl

theorem exists_lower_of_conforms {kind : Kind} {data : Data}
    (conforms : data.conforms kind = true) : ∃ value, data.lower = some value := by
  cases data with
  | double d => cases kind <;> cases conforms
  | string _ | long _ | boolean _ | stringSet _ | list _ | object _ => exact ⟨_, rfl⟩

end Claim.Data

namespace Token

/-- A standard claim of a token is there and conforms to the kind that it carries. -/
def Conforms (t : Token) (c : Standard) : Prop :=
  ∃ data, t.claim? c.name = some data ∧ data.conforms c.kind = true

theorem string?_of_claim?_ofPayload {raw : String} {payload : TextMap Json} {c : Standard}
    {data : Data} (isSet : c.kind = .stringSet)
    (given : (ofPayload raw payload).claim? c.name = some data) : data.string? = none := by
  have ne : c.name ≠ Standard.rawToken.name := by
    intro same
    have isRaw : c = .rawToken := by
      simpa only [Standard.ofName?_name, Option.some.injEq] using congrArg Standard.ofName? same
    rw [isRaw] at isSet
    cases isSet
  rw [claim?_of_ne _ ne, payloadClaim?_ofPayload _ _ ne, Standard.ofName?_name, Option.map_some,
    isSet] at given
  obtain ⟨value, _, lifted⟩ := Option.bind_eq_some_iff.mp given
  exact Data.string?_of_ofJson_stringSet lifted

end Token

namespace Injection

/-- Data is coerced to the type of a kind exactly if it conforms to the kind. -/
theorem isSome_coerce_ofKind (kind : Kind) (data : Data) :
    (coerce data (.ofKind kind)).isSome = data.conforms kind := by
  cases kind with
  | stringSet => simp [ValueType.ofKind, coerce, Data.conforms]
  | string | long | boolean | jsonObject => cases data <;> rfl

theorem eq_any_or_eq_ofKind_of_accepts {type : ValueType} {kind : Kind}
    (accepted : (DeclaredType.value type).accepts kind = true) :
    type = .any ∨ type = .ofKind kind := by
  cases type with
  | any => exact .inl rfl
  | string | long | double | boolean | stringSet | jsonObject => exact .inr (eq_of_beq accepted)

/-- A JSON type that was accepted for a kind admits the data that conforms to it, unless this is a
single text for a set of texts. -/
theorem exists_admits_of_accepts {type : JsonType} {kind : Kind} {data : Data}
    (accepted : (DeclaredType.json type).accepts kind = true)
    (conforms : data.conforms kind = true) (noText : kind = .stringSet → data.string? = none) :
    ∃ value, data.lower = some value ∧ type.admits value = true := by
  cases type with
  | value =>
    obtain ⟨value, lowered⟩ := Data.exists_lower_of_conforms conforms
    exact ⟨value, lowered, rfl⟩
  | string =>
    cases kind <;> cases accepted
    cases data <;> cases conforms
    exact ⟨_, rfl, rfl⟩
  | number =>
    cases kind <;> cases accepted
    cases data <;> cases conforms
    exact ⟨_, rfl, rfl⟩
  | object =>
    cases kind <;> cases accepted
    cases data <;> cases conforms
    exact ⟨_, rfl, rfl⟩
  | array =>
    cases kind <;> cases accepted
    cases data with
    | string s => cases noText rfl
    | stringSet _ | list _ => exact ⟨_, rfl, rfl⟩
    | long _ | double _ | boolean _ | object _ => cases conforms

theorem produce_value_ne_null_iff {t : Token} {name : String} {type : ValueType} :
    produce name (some t) (.value type) ≠ .null ↔
      ∃ data, t.claim? name = some data ∧ (coerce data type).isSome = true := by
  rw [produce_value_eq_elim, Option.bind_some]
  cases t.claim? name with
  | none => simp
  | some data => cases coerced : coerce data type <;> simp [coerced]

theorem produce_json_ne_null_iff {t : Token} {name : String} {type : JsonType} :
    produce name (some t) (.json type) ≠ .null ↔
      ∃ data, t.claim? name = some data ∧
        ∃ value, data.lower = some value ∧ type.admits value = true := by
  rw [produce_json_eq_elim, Option.bind_some]
  cases t.claim? name with
  | none => simp
  | some data =>
    cases lowered : data.lower with
    | none => simp [lowered]
    | some value => cases admits : type.admits value <;> simp [lowered, admits, Option.filter]

/-- Of whatever token, a standard claim is delivered as data of its kind exactly if it conforms. -/
theorem produce_ofKind_ne_null_iff {t : Token} {c : Standard} :
    produce c.name (some t) (.value (.ofKind c.kind)) ≠ .null ↔ t.Conforms c := by
  rw [produce_value_ne_null_iff, Token.Conforms]
  simp only [isSome_coerce_ofKind]

/-- A type that was accepted for a standard claim, whatever its wrappers, is given a value of each
payload whose claim conforms. If it asks for data of a kind, it is given one exactly then. -/
theorem delivered_of_accepted (raw : String) (payload : TextMap Json) (c : Standard)
    {declared : DeclaredType} (accepted : declared.accepts c.kind = true) :
    ((Token.ofPayload raw payload).Conforms c →
      produce c.name (some (Token.ofPayload raw payload)) declared.leaf ≠ .null) ∧
    ∀ type, declared.leaf = .value type → type ≠ .any →
      ¬ (Token.ofPayload raw payload).Conforms c →
        produce c.name (some (Token.ofPayload raw payload)) declared.leaf = .null := by
  rw [← DeclaredType.accepts_leaf] at accepted
  have isPlain := declared.isPlain_leaf
  cases leaf : declared.leaf with
  | optional _ | claimValue _ | provider _ =>
    rw [leaf] at isPlain
    cases isPlain
  | value type =>
    rw [leaf] at accepted
    rcases eq_any_or_eq_ofKind_of_accepts accepted with rfl | rfl
    · refine ⟨?_, ?_⟩
      · rintro ⟨data, given, _⟩
        exact produce_value_ne_null_iff.mpr ⟨data, given, rfl⟩
      · intro type same notAny
        cases same
        exact absurd rfl notAny
    · exact ⟨produce_ofKind_ne_null_iff.mpr,
        fun _ _ _ nonconforming => not_not.mp (produce_ofKind_ne_null_iff.not.mpr nonconforming)⟩
  | json type =>
    -- A single text conforms to a set of texts and is no JSON array; no payload gives one there.
    rw [leaf] at accepted
    refine ⟨?_, nofun⟩
    rintro ⟨data, given, conforms⟩
    exact produce_json_ne_null_iff.mpr ⟨data, given, exists_admits_of_accepts accepted conforms
      fun isSet => Token.string?_of_claim?_ofPayload isSet given⟩

private def mixedAudience : Token :=
  Token.ofPayload "t" (TextMap.ofList [("aud", .string "a"), ("groups", .array [.bool true])])

/-- A list is accepted for the audience and delivered of a single text; groups that are not all
texts are not delivered as a set. -/
theorem audience_delivered_groups_withheld :
    (DeclaredType.provider (.claimValue (.json .array))).accepts Standard.aud.kind = true ∧
    mixedAudience.Conforms .aud ∧
    produce Standard.aud.name (some mixedAudience) (.json .array) ≠ .null ∧
    (DeclaredType.optional (.value .stringSet)).accepts Standard.groups.kind = true ∧
    ¬ mixedAudience.Conforms .groups ∧
    produce Standard.groups.name (some mixedAudience) (.value .stringSet) = .null := by
  have conforms : mixedAudience.Conforms .aud := ⟨.stringSet (.singleton "a"), rfl, rfl⟩
  have nonconforming : ¬ mixedAudience.Conforms .groups := by
    rintro ⟨data, given, conforms⟩
    have given' : data = .list [.boolean true] := (Option.some.inj given).symm
    rw [given'] at conforms
    cases conforms
  have list : (DeclaredType.provider (.claimValue (.json .array))).accepts Standard.aud.kind =
      true := rfl
  have set : (DeclaredType.optional (.value .stringSet)).accepts Standard.groups.kind = true := rfl
  exact ⟨list, conforms, (delivered_of_accepted "t" _ .aud list).1 conforms, set, nonconforming,
    (delivered_of_accepted "t" _ .groups set).2 .stringSet rfl nofun nonconforming⟩

end Injection

end BearerGate
