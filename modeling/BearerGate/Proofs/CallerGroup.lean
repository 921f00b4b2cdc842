import BearerGate.Proofs.RoleGroup

/-!
The group of the caller: among the principals of an identity stands one group `CallerPrincipal`,
which says who the caller is. A token can name such a group itself, and its roles can be named like
it. Main statement: whatever the names are, there is exactly one such group and it is found, and it
holds the caller, unless the token names it and so leaves it empty; the caller bears the first name
that the token gives as a text.
-/

set_option autoImplicit false
set_option relaxedAutoImplicit false

namespace BearerGate

open Claim (Standard Data)

namespace Token

/-- The first of some claims that is a text, or else the empty text. -/
inductive FirstText (t : Token) : List String → String → Prop
  | nothing : FirstText t [] ""
  | given {name text : String} {others : List String}
    (isText : t.claim? name = some (.string text)) : FirstText t (name :: others) text
  | passed {name text : String} {others : List String}
    (noText : ∀ other, t.claim? name ≠ some (.string other)) (later : FirstText t others text) :
    FirstText t (name :: others) text

theorem textClaim?_eq_some_iff {t : Token} {c : Standard} {text : String}
    (ne : c.name ≠ Standard.rawToken.name) :
    t.textClaim? c = some text ↔ t.claim? c.name = some (.string text) := by
  rw [textClaim?, claim?_of_ne t ne, Option.bind_eq_some_iff]
  constructor
  · rintro ⟨d, found, isText⟩
    cases d <;> cases isText
    exact found
  · intro found
    exact ⟨_, found, rfl⟩

theorem firstText_iff {t : Token} {claims : List Standard} {text : String}
    (notRaw : ∀ c ∈ claims, c.name ≠ Standard.rawToken.name) :
    t.FirstText (claims.map Standard.name) text ↔
      text = (claims.findSome? t.textClaim?).getD "" := by
  induction claims with
  | nil =>
    constructor
    · rintro ⟨⟩
      rfl
    · rintro rfl
      exact .nothing
  | cons c claims ih =>
    obtain ⟨here, later⟩ := List.forall_mem_cons.mp notRaw
    rw [List.map_cons, List.findSome?_cons]
    cases read : t.textClaim? c with
    | some name =>
      have isText := (textClaim?_eq_some_iff here).mp read
      constructor
      · rintro (_ | isText' | noText)
        · rw [isText] at isText'
          cases isText'
          rfl
        · exact absurd isText (noText name)
      · rintro rfl
        exact .given isText
    | none =>
      have noText (other : String) : t.claim? c.name ≠ some (.string other) := by
        intro isText
        rw [(textClaim?_eq_some_iff here).mpr isText] at read
        cases read
      refine Iff.trans ?_ (ih later)
      constructor
      · rintro (_ | isText | ⟨_, first⟩)
        · exact absurd isText (noText text)
        · exact first
      · exact .passed noText

theorem firstText_name_iff {t : Token} {text : String} :
    t.FirstText ["upn", "preferred_username", "sub"] text ↔ text = t.name := by
  have notRaw : ∀ c ∈ nameClaims, c.name ≠ Standard.rawToken.name := by decide
  exact firstText_iff notRaw

end Token

namespace Identity

open Principal (groupsNamed groupsNamed_append groupsNamed_group)

theorem isGroup_iff_groupsNamed {name : String} {principals : List Principal} :
    principals.any (·.isGroupNamed name) = true ↔ groupsNamed name principals ≠ [] := by
  rw [groupsNamed, ne_eq, List.filter_eq_nil_iff, List.any_eq_true]
  simp

/-- Marking the caller leaves a group of the caller that is there, and otherwise adds one. -/
theorem groupsNamed_withCaller_self (caller : Principal) (principals : List Principal) :
    groupsNamed callerGroup (withCaller caller principals) =
      if groupsNamed callerGroup principals = [] then [.group callerGroup [caller]]
      else groupsNamed callerGroup principals := by
  unfold withCaller
  by_cases none : groupsNamed callerGroup principals = []
  · rw [if_pos none, if_neg (mt isGroup_iff_groupsNamed.mp (not_not_intro none)),
      groupsNamed_append, none, groupsNamed_group, if_pos rfl, List.nil_append]
  · rw [if_neg none, if_pos (isGroup_iff_groupsNamed.mpr none)]

/-- The members of the group of the caller: none, if the token names the group. -/
def callerMembers (t : Token) : List Principal :=
  if callerGroup ∈ t.groups then [] else [.token t.name]

theorem groupsNamed_caller (t : Token) (mapping : RoleMapping) :
    groupsNamed callerGroup (ofToken t mapping).principals =
      [.group callerGroup (callerMembers t)] := by
  have ne : rolesGroup ≠ callerGroup := by decide
  rw [ofToken, groupsNamed_withCaller_self, groupsNamed_granted, if_neg ne, List.append_nil,
    callerMembers]
  by_cases named : callerGroup ∈ t.groups
  · simp only [if_pos named, List.cons_ne_nil, if_false]
  · simp only [if_neg named, if_true]

theorem groupsNamed_of_ne {name : String} (notRoles : name ≠ rolesGroup)
    (notCaller : name ≠ callerGroup) (t : Token) (mapping : RoleMapping) :
    groupsNamed name (ofToken t mapping).principals =
      if name ∈ t.groups then [.group name []] else [] := by
  rw [ofToken, groupsNamed_withCaller notCaller.symm, groupsNamed_granted, if_neg notRoles.symm,
    List.append_nil]

theorem head?_principals (t : Token) (mapping : RoleMapping) :
    (ofToken t mapping).principals.head? = some (.token t.name) := by
  rw [ofToken]
  unfold withCaller
  split <;> rfl

/-- Whatever a token and a mapping name, the groups of the caller are one group, which is found. It
holds the principal of the token, or nothing if the token names the group. That principal comes
first, and is named as the identity is: by the first of `upn`, `preferred_username` and `sub` that
is a text. Any other group of the token stands once among the principals. -/
theorem one_caller_group (t : Token) (mapping : RoleMapping) (scheme : String) :
    (groupsNamed callerGroup (ofToken t mapping).principals =
        [.group callerGroup (callerMembers t)] ∧
      (ofToken t mapping).callerGroup? = some (.group callerGroup (callerMembers t)) ∧
      (callerGroup ∉ t.groups → callerMembers t = [.token t.name]) ∧
      (callerGroup ∈ t.groups → callerMembers t = [])) ∧
    ((ofToken t mapping).principals.head? = some (.token t.name) ∧
      (ofToken t mapping).name = t.name ∧
      (SecurityContext.ofToken t mapping scheme).principalName = t.name ∧
      ∀ name, t.FirstText ["upn", "preferred_username", "sub"] name ↔ name = t.name) ∧
    ∀ group ∈ t.groups, group ≠ rolesGroup → group ≠ callerGroup →
      groupsNamed group (ofToken t mapping).principals = [.group group []] := by
  refine ⟨⟨groupsNamed_caller t mapping, ?_, fun notNamed => if_neg notNamed,
    fun named => if_pos named⟩,
    ⟨head?_principals t mapping, rfl, rfl, fun name => Token.firstText_name_iff⟩, ?_⟩
  · rw [callerGroup?, group?_eq_head?, groupsNamed_caller]
    rfl
  · intro group isGroup notRoles notCaller
    rw [groupsNamed_of_ne notRoles notCaller, if_pos isGroup]

private def roleToken : Token :=
  Token.ofPayload "t" (TextMap.ofList
    [("upn", .bool true), ("sub", .string "u"), ("roles", .string "CallerPrincipal"),
      ("groups", .string "staff")])

private def groupToken : Token :=
  Token.ofPayload "t" (TextMap.ofList [("sub", .string "u"), ("groups", .string "CallerPrincipal")])

private def callerMapping : RoleMapping := ⟨TextMap.ofList [("staff", ["CallerPrincipal"])]⟩

theorem caller_held_unless_named :
    (callerGroup ∉ roleToken.groups ∧
      (ofToken roleToken callerMapping).isInRole callerGroup = true ∧
      (ofToken roleToken callerMapping).callerGroup? =
        some (.group "CallerPrincipal" [.token "u"]) ∧
      groupsNamed "staff" (ofToken roleToken callerMapping).principals = [.group "staff" []]) ∧
    callerGroup ∈ groupToken.groups ∧
      (ofToken groupToken callerMapping).callerGroup? = some (.group "CallerPrincipal" []) := by
  obtain ⟨⟨_, found, held, _⟩, _, once⟩ := one_caller_group roleToken callerMapping "s"
  obtain ⟨⟨_, found', _, empty⟩, _⟩ := one_caller_group groupToken callerMapping "s"
  have notGroup : callerGroup ∉ roleToken.groups := by decide +kernel
  have isGroup : callerGroup ∈ groupToken.groups := by decide +kernel
  have isName : roleToken.name = "u" := by decide +kernel
  rw [held notGroup, isName] at found
  rw [empty isGroup] at found'
  exact ⟨⟨notGroup, by decide +kernel, found,
    once "staff" (by decide +kernel) (by decide) (by decide)⟩, isGroup, found'⟩

end Identity

end BearerGate
