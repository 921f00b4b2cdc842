import BearerGate.Injection.Injected
import BearerGate.Proofs.KindHints

/-!
Look-ups in a token: whether a claim is there, which claims there are, what a claim is, and the
claims without the text of the token, which is the claim `raw_token`. A payload can have a member
of this name as well. Main statement: all look-ups agree, for every name, and what the payload
gives under the name of the text is seen by none of them, nor by what is injected.
-/

set_option autoImplicit false
set_option relaxedAutoImplicit false

namespace BearerGate

open Claim (Standard Kind Data)
open Injection (produce produce_value_eq_elim produce_json_eq_elim DeclaredType)

namespace Claim

/-- The kind of values that a name promises: that of the standard claim that bears it, if one
does. -/
inductive Promises : String → Option Kind → Prop
  | standard (c : Standard) : Promises c.name (some c.kind)
  | unknown {name : String} (noStandard : ∀ c : Standard, c.name ≠ name) : Promises name none

theorem promises_iff {name : String} {hint : Option Kind} :
    Promises name hint ↔ (Standard.ofName? name).map Standard.kind = hint := by
  constructor
  · rintro (c | noStandard)
    · rw [Standard.ofName?_name, Option.map_some]
    · rw [Option.map_eq_none_iff, Standard.ofName?, List.find?_eq_none]
      exact fun c _ same => noStandard c (beq_iff_eq.mp same)
  · rintro rfl
    cases found : Standard.ofName? name with
    | some c =>
      have bears := List.find?_some (p := fun c : Standard => c.name == name) found
      obtain rfl : c.name = name := beq_iff_eq.mp bears
      exact .standard c
    | none =>
      refine .unknown fun c same => ?_
      rw [← same, Standard.ofName?_name] at found
      cases found

namespace Data

theorem ofJson_eq_none_iff_null {hint : Option Kind} {v : Json} :
    ofJson hint v = none ↔ v = .null := by
  cases hint with
  | some kind => exact ofJson_eq_none_iff
  | none =>
    have unhinted : ofJson none v = lift v := ofJson_of_ne (Option.some_ne_none _).symm
    rw [unhinted]
    exact lift_eq_none_iff

end Data

end Claim

namespace Token

/-- The look-ups in a token agree on which claims there are and what they are, and its text is the
one given. -/
structure LookupsAgree (t : Token) (raw : String) : Prop where
  present : ∀ name, t.hasClaim name = true ↔ (t.claim? name).isSome = true
  listed : ∀ name, name ∈ t.claimNames ↔ (t.claim? name).isSome = true
  rawText : t.claim? "raw_token" = some (.string raw)
  rawUnclaimed : t.payloadClaim? "raw_token" = none
  others : ∀ name, name ≠ "raw_token" → t.payloadClaim? name = t.claim? name

theorem claim?_rawToken (t : Token) : t.claim? Standard.rawToken.name = some (.string t.raw) :=
  if_pos rfl

theorem isSome_claim?_iff {t : Token} {name : String} : (t.claim? name).isSome = true ↔
    name = Standard.rawToken.name ∨ (t.payloadClaim? name).isSome = true := by
  by_cases isRaw : name = Standard.rawToken.name
  · rw [isRaw, claim?_rawToken]
    exact iff_of_true rfl (.inl rfl)
  · rw [claim?_of_ne t isRaw, or_iff_right isRaw]

theorem lookupsAgree (t : Token) : t.LookupsAgree t.raw where
  present name := by
    rw [isSome_claim?_iff, hasClaim, Bool.or_eq_true, beq_iff_eq]
    rfl
  listed name := by
    rw [isSome_claim?_iff, claimNames, TextSet.mem_insert]
    exact or_congr_right TextMap.mem_keys_iff
  rawText := t.claim?_rawToken
  rawUnclaimed := t.payloadClaim?_rawToken
  others name ne := (t.claim?_of_ne ne).symm

theorem claim?_ofClaims (raw : String) (claims : TextMap Data) {name : String}
    (ne : name ≠ Standard.rawToken.name) :
    (ofClaims raw claims).claim? name = claims.find? name := by
  rw [claim?_of_ne _ ne, payloadClaim?, ofClaims, TextMap.find?_erase, if_neg ne.symm]

theorem claim?_ofPayload {raw name : String} {payload : TextMap Json} {hint : Option Kind}
    (ne : name ≠ Standard.rawToken.name) (promises : Claim.Promises name hint) :
    (ofPayload raw payload).claim? name = (payload.find? name).bind (Data.ofJson hint) := by
  rw [claim?_of_ne _ ne, payloadClaim?_ofPayload raw payload ne, Claim.promises_iff.mp promises]

theorem hasClaim_ofPayload_iff {raw name : String} {payload : TextMap Json}
    (ne : name ≠ Standard.rawToken.name) : (ofPayload raw payload).hasClaim name = true ↔
      ∃ value, payload.find? name = some value ∧ value ≠ .null := by
  rw [(lookupsAgree _).present, claim?_ofPayload ne (Claim.promises_iff.mpr rfl)]
  cases payload.find? name with
  | none => simp
  | some value =>
    rw [Option.bind_some, Option.isSome_iff_ne_none, ne_eq, Data.ofJson_eq_none_iff_null]
    simp

end Token

namespace Injection

/-- What is produced of a token depends on the one claim alone that is asked for. -/
theorem produce_of_claim?_eq {name : String} {t t' : Token}
    (same : t.claim? name = t'.claim? name) (declared : DeclaredType) :
    produce name (some t) declared = produce name (some t') declared := by
  induction declared with
  | value type =>
    rw [produce_value_eq_elim, produce_value_eq_elim, Option.bind_some, Option.bind_some, same]
  | json type =>
    rw [produce_json_eq_elim, produce_json_eq_elim, Option.bind_some, Option.bind_some, same]
  | optional inner ih => simp only [produce, ih]
  | claimValue inner ih => simp only [produce, ih]
  | provider inner => rfl

theorem produce_rawToken_of_raw_eq {t t' : Token} (same : t.raw = t'.raw)
    (declared : DeclaredType) :
    produce "raw_token" (some t) declared = produce "raw_token" (some t') declared := by
  apply produce_of_claim?_eq
  rw [(Token.lookupsAgree t).rawText, (Token.lookupsAgree t').rawText, same]

end Injection

namespace Token

/-- The look-ups in a token agree, whether it is made of claims or of a payload. Besides its text
it has exactly the claims it is made of, or those members of the payload that are not null, lifted
as their names want it; and what is produced of its text is the same for all claims and payloads. -/
theorem lookups_agree (raw : String) :
    (∀ claims : TextMap Data, (ofClaims raw claims).LookupsAgree raw ∧
      ∀ name, name ≠ "raw_token" → (ofClaims raw claims).claim? name = claims.find? name) ∧
    (∀ payload : TextMap Json, (ofPayload raw payload).LookupsAgree raw ∧
      ∀ name, name ≠ "raw_token" →
        ((ofPayload raw payload).hasClaim name = true ↔
          ∃ value, payload.find? name = some value ∧ value ≠ .null) ∧
        ∀ hint value, Claim.Promises name hint → payload.find? name = some value →
          (ofPayload raw payload).claim? name = Data.ofJson hint value) ∧
    ∀ declared : DeclaredType,
      (∀ claims, produce "raw_token" (some (ofClaims raw claims)) declared =
        produce "raw_token" (some (ofClaims raw TextMap.empty)) declared) ∧
      ∀ payload, produce "raw_token" (some (ofPayload raw payload)) declared =
        produce "raw_token" (some (ofClaims raw TextMap.empty)) declared := by
  refine ⟨fun claims => ⟨lookupsAgree _, fun name ne => claim?_ofClaims raw claims ne⟩,
    fun payload => ⟨lookupsAgree _, fun name ne => ⟨hasClaim_ofPayload_iff ne, ?_⟩⟩,
    fun declared => ⟨fun claims => Injection.produce_rawToken_of_raw_eq (by rfl) declared,
      fun payload => Injection.produce_rawToken_of_raw_eq (by rfl) declared⟩⟩
  intro hint value promises given
  rw [claim?_ofPayload ne promises, given, Option.bind_some]

private def forgedPayload : TextMap Json :=
  TextMap.ofList [("raw_token", .object [("a", .bool true)]), ("aud", .string "x"), ("sub", .null),
    ("mine", .string "x")]

private def forgedClaims : TextMap Data :=
  TextMap.ofList [("raw_token", .long 1), ("mine", .long 2)]

/-- The forged text is seen by no look-up; one text is lifted in two ways. -/
theorem forged_text_unseen :
    "mine" ≠ "raw_token" ∧ (ofClaims "t" forgedClaims).claim? "mine" = some (.long 2) ∧
    Claim.Promises "mine" none ∧
    (ofPayload "t" forgedPayload).claim? "mine" = some (.string "x") ∧
    Claim.Promises "aud" (some .stringSet) ∧
    (ofPayload "t" forgedPayload).claim? "aud" = some (.stringSet (TextSet.singleton "x")) ∧
    ¬ (ofPayload "t" forgedPayload).hasClaim "sub" = true ∧
    (ofPayload "t" forgedPayload).payloadClaim? "mine" = some (.string "x") ∧
    produce "raw_token" (some (ofPayload "t" forgedPayload)) (.optional (.json .value)) =
      .present (.json (.string "t")) := by
  obtain ⟨ofClaims, ofPayload, produced⟩ := lookups_agree "t"
  obtain ⟨agree, others⟩ := ofPayload forgedPayload
  have notRaw : "mine" ≠ "raw_token" := by decide
  have mine : Claim.Promises "mine" none := Claim.promises_iff.mpr (by decide +kernel)
  have aud : Claim.Promises "aud" (some .stringSet) := .standard .aud
  have mineRead := (others "mine" notRaw).2 none (.string "x") mine rfl
  refine ⟨notRaw, (ofClaims forgedClaims).2 "mine" notRaw, mine, mineRead, aud,
    (others "aud" (by decide)).2 _ (.string "x") aud rfl, ?_,
    (agree.others "mine" notRaw).trans mineRead, ?_⟩
  · rw [(others "sub" (by decide)).1]
    rintro ⟨value, given, notNull⟩
    cases given
    exact notNull rfl
  · exact (produced (.optional (.json .value))).2 forgedPayload

end Token

end BearerGate
