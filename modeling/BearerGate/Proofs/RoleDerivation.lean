import BearerGate.Identity
import Mathlib.Logic.Basic

/-!
Role derivation: what the payload of a token says about the roles and groups of its bearer. The
claims `roles` and `groups` are lifted in different ways, one as a standard claim that carries a set
of texts and one as any other claim, and read alike. Main statement: roles and groups are exactly
the texts that these two members of the payload name, and what the mapping grants to the groups.
-/

set_option autoImplicit false
set_option relaxedAutoImplicit false

namespace BearerGate

open Claim (Standard Kind Data)

/-- The texts that a value names: a text names itself, and a list of texts, among which nulls may
stand, names each of its texts. No other value names any. -/
inductive Json.Names : Json → String → Prop
  | text (s : String) : Names (.string s) s
  | list {items : List Json} {s : String}
      (texts : ∀ item ∈ items, item = .null ∨ item.isString = true)
      (member : .string s ∈ items) : Names (.array items) s

def TextMap.Names (payload : TextMap Json) (name text : String) : Prop :=
  ∃ value, payload.find? name = some value ∧ value.Names text

theorem Json.names_string_iff {s text : String} : (Json.string s).Names text ↔ text = s := by
  constructor
  · rintro ⟨⟩
    rfl
  · rintro rfl
    exact .text text

theorem Json.names_array_iff {items : List Json} {text : String} :
    (Json.array items).Names text ↔
      (∀ item ∈ items, item = .null ∨ item.isString = true) ∧ .string text ∈ items := by
  constructor
  · rintro ⟨⟩
    exact ⟨‹_›, ‹_›⟩
  · rintro ⟨texts, member⟩
    exact .list texts member

theorem Json.mem_filterMap_string? {items : List Json} {text : String} :
    text ∈ items.filterMap Json.string? ↔ .string text ∈ items := by
  rw [List.mem_filterMap]
  constructor
  · rintro ⟨item, member, named⟩
    cases item <;> simp [Json.string?] at named
    exact named ▸ member
  · intro member
    exact ⟨_, member, rfl⟩

namespace Claim.Data

def texts (d : Option Data) : TextSet := (d.bind textSet?).getD TextSet.empty

private theorem exists_lift_of_not_text {value : Json} (notNull : value ≠ .null)
    (notText : value.isString = false) : ∃ d, lift value = some d ∧ d.string? = none := by
  cases value with
  | null => exact absurd rfl notNull
  | string s => cases notText
  | bool b => exact ⟨.boolean b, rfl, rfl⟩
  | double d => exact ⟨.double d.value, rfl, rfl⟩
  | array items => exact ⟨.list (liftItems items), rfl, rfl⟩
  | object members => exact ⟨.object (liftMembers members), rfl, rfl⟩
  | int n =>
    rw [lift]
    cases n.toInt64? with
    | some word => exact ⟨.long word, rfl, rfl⟩
    | none => exact ⟨.double (Double.ofInt n.value), rfl, rfl⟩

private theorem mapM_eq_none_of_mem {ds : List Data} {d : Data} (member : d ∈ ds)
    (noText : d.string? = none) : ds.mapM string? = none := by
  induction ds with
  | nil => cases member
  | cons head rest ih =>
    rw [List.mapM_cons]
    rcases List.mem_cons.mp member with rfl | member
    · rw [noText]
      rfl
    · rw [ih member]
      cases head.string? <;> rfl

theorem mapM_string?_liftItems {items : List Json}
    (allTexts : ∀ item ∈ items, item = .null ∨ item.isString = true) :
    (liftItems items).mapM string? = some (items.filterMap Json.string?) := by
  induction items with
  | nil => rfl
  | cons item rest ih =>
    have tail := ih fun other member => allTexts other (List.mem_cons_of_mem item member)
    cases item with
    | null => exact tail
    | string s => simp [liftItems, lift, string?, Json.string?, tail]
    | _ => simpa [Json.isString] using allTexts _ List.mem_cons_self

theorem mapM_string?_liftItems_eq_none {items : List Json} {item : Json}
    (member : item ∈ items) (notNull : item ≠ .null) (notText : item.isString = false) :
    (liftItems items).mapM string? = none := by
  obtain ⟨d, lifted, noText⟩ := exists_lift_of_not_text notNull notText
  refine mapM_eq_none_of_mem (d := d) ?_ noText
  rw [liftItems_eq_filterMap]
  exact List.mem_filterMap.mpr ⟨item, member, lifted⟩

theorem mem_texts_list_iff {items : List Json} {text : String} :
    text ∈ texts (some (.list (liftItems items))) ↔ (Json.array items).Names text := by
  rw [Json.names_array_iff, texts, Option.bind_some, textSet?]
  by_cases allTexts : ∀ item ∈ items, item = .null ∨ item.isString = true
  · rw [mapM_string?_liftItems allTexts, Option.map_some, Option.getD_some, TextSet.mem_ofList,
      Json.mem_filterMap_string?]
    exact (and_iff_right allTexts).symm
  · have failing := allTexts
    simp only [not_forall, not_or] at failing
    obtain ⟨item, member, notNull, notText⟩ := failing
    rw [mapM_string?_liftItems_eq_none member notNull (Bool.eq_false_iff.mpr notText)]
    simp [allTexts]

/-- A value is read alike, whatever kind of value its claim is known to carry. -/
theorem mem_texts_ofJson_iff {hint : Option Kind} {value : Json} {text : String} :
    text ∈ texts (ofJson hint value) ↔ value.Names text := by
  have nothing {d : Option Data} (unreadable : d.bind textSet? = none)
      (noName : ¬ value.Names text) : text ∈ texts d ↔ value.Names text := by
    simp [texts, unreadable, noName]
  have lifted : text ∈ texts (lift value) ↔ value.Names text := by
    cases value with
    | string s => simp [texts, lift, textSet?, Json.names_string_iff]
    | array items => exact mem_texts_list_iff
    | int n => exact nothing (by rw [lift]; cases n.toInt64? <;> rfl) (by rintro ⟨⟩)
    | null | bool _ | double _ | object _ => exact nothing rfl (by rintro ⟨⟩)
  by_cases isSet : hint = some .stringSet
  · cases value with
    | string s => simp [isSet, texts, ofJson, textSet?, Json.names_string_iff]
    | array items =>
      rw [isSet, ofJson]
      split
      · rename_i allStrings
        have allTexts : ∀ item ∈ items, item = .null ∨ item.isString = true :=
          fun item member => .inr (List.all_eq_true.mp allStrings item member)
        rw [texts, Option.bind_some, textSet?, Option.getD_some, TextSet.mem_ofList,
          Json.mem_filterMap_string?, Json.names_array_iff]
        exact (and_iff_right allTexts).symm
      · exact lifted
    | _ => exact isSet ▸ lifted
  · rw [ofJson_of_ne isSet]
    exact lifted

end Claim.Data

namespace Token

theorem mem_textsOf_ofPayload {raw : String} {payload : TextMap Json} {name text : String}
    (ne : name ≠ Standard.rawToken.name) :
    text ∈ (ofPayload raw payload).textsOf name ↔ payload.Names name text := by
  rw [textsOf, payloadClaim?_ofPayload raw payload ne, TextMap.Names]
  cases payload.find? name with
  | none => simp
  | some value =>
    change text ∈ Data.texts (Data.ofJson _ value) ↔ _
    simp [Data.mem_texts_ofJson_iff]

theorem mem_groups_ofPayload {raw : String} {payload : TextMap Json} {group : String} :
    group ∈ (ofPayload raw payload).groups ↔ payload.Names "groups" group :=
  mem_textsOf_ofPayload (by decide)

theorem mem_roles_ofPayload {raw : String} {payload : TextMap Json} {role : String} :
    role ∈ (ofPayload raw payload).roles ↔
      payload.Names "roles" role ∨ payload.Names "groups" role := by
  rw [roles, TextSet.mem_union, mem_groups_ofPayload]
  exact or_congr_left (mem_textsOf_ofPayload (by decide))

end Token

namespace SecurityContext

theorem isCallerInRole_ofPayload_iff (raw : String) (payload : TextMap Json)
    (mapping : RoleMapping) (scheme role : String) :
    (ofToken (Token.ofPayload raw payload) mapping scheme).isCallerInRole role = true ↔
      payload.Names "roles" role ∨ payload.Names "groups" role ∨
        ∃ group, payload.Names "groups" group ∧ role ∈ mapping.rolesOf group := by
  change (Identity.rolesWith mapping (Token.ofPayload raw payload)).contains role = true ↔ _
  rw [TextSet.contains_iff, Identity.mem_rolesWith, Token.mem_roles_ofPayload, or_assoc]
  simp only [Token.mem_groups_ofPayload]

/-- The roles of a bearer are what the members `roles` and `groups` of the payload name and what
the mapping grants to those groups, the groups are what `groups` names, and nothing else in a
payload has a part in either. -/
theorem roles_and_groups_of_payload (raw : String) (payload : TextMap Json)
    (mapping : RoleMapping) (scheme : String) :
    (∀ role, (ofToken (Token.ofPayload raw payload) mapping scheme).isCallerInRole role = true ↔
      payload.Names "roles" role ∨ payload.Names "groups" role ∨
        ∃ group, payload.Names "groups" group ∧ role ∈ mapping.rolesOf group) ∧
    (∀ group, group ∈ (ofToken (Token.ofPayload raw payload) mapping scheme).identity.groups ↔
      payload.Names "groups" group) ∧
    ∀ raw' scheme' (payload' : TextMap Json), payload'.find? "roles" = payload.find? "roles" →
      payload'.find? "groups" = payload.find? "groups" →
      (ofToken (Token.ofPayload raw' payload') mapping scheme').identity.roles =
          (ofToken (Token.ofPayload raw payload) mapping scheme).identity.roles ∧
        (ofToken (Token.ofPayload raw' payload') mapping scheme').identity.groups =
          (ofToken (Token.ofPayload raw payload) mapping scheme).identity.groups := by
  refine ⟨isCallerInRole_ofPayload_iff raw payload mapping scheme,
    fun group => Token.mem_groups_ofPayload, ?_⟩
  intro raw' scheme' payload' sameRoles sameGroups
  have names (text : String) : (payload'.Names "roles" text ↔ payload.Names "roles" text) ∧
      (payload'.Names "groups" text ↔ payload.Names "groups" text) := by
    simp only [TextMap.Names, sameRoles, sameGroups, and_self]
  constructor
  · refine TextSet.ext fun role => ?_
    rw [← TextSet.contains_iff, ← TextSet.contains_iff]
    refine (isCallerInRole_ofPayload_iff raw' payload' mapping scheme' role).trans
      (Iff.trans ?_ (isCallerInRole_ofPayload_iff raw payload mapping scheme role).symm)
    simp only [names]
  · refine TextSet.ext fun group => ?_
    exact Token.mem_groups_ofPayload.trans
      ((names group).2.trans Token.mem_groups_ofPayload.symm)

private def mixedPayload : TextMap Json :=
  TextMap.ofList [("roles", .string "admin"), ("groups", .array [.string "staff", .null])]

private def mixedMapping : RoleMapping :=
  ⟨TextMap.ofList [("staff", ["reader"]), ("reader", ["x"]), ("admin", ["y"])]⟩

theorem roles_of_mixed_payload :
    (mixedPayload.insert "sub" (.string "u")).find? "roles" = mixedPayload.find? "roles" ∧
    (mixedPayload.insert "sub" (.string "u")).find? "groups" = mixedPayload.find? "groups" ∧
    (ofToken (Token.ofPayload "b" (mixedPayload.insert "sub" (.string "u"))) mixedMapping
        "s").identity.roles =
      (ofToken (Token.ofPayload "a" mixedPayload) mixedMapping "s").identity.roles ∧
    (ofToken (Token.ofPayload "a" mixedPayload) mixedMapping "s").identity.roles.toList =
      ["admin", "reader", "staff"] := by
  have roles : (mixedPayload.insert "sub" (.string "u")).find? "roles" =
      mixedPayload.find? "roles" := by simp
  have groups : (mixedPayload.insert "sub" (.string "u")).find? "groups" =
      mixedPayload.find? "groups" := by simp
  obtain ⟨_, _, onlyThese⟩ := roles_and_groups_of_payload "a" mixedPayload mixedMapping "s"
  exact ⟨roles, groups, (onlyThese "b" "s" _ roles groups).1, by decide +kernel⟩

end SecurityContext

end BearerGate
