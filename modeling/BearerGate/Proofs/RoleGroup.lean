import BearerGate.Identity
import Mathlib.Data.List.Nodup

/-!
The group of the roles: an identity gives the roles of the caller twice, as a set that is asked
whether a role is in it, and as the members of the group `Roles` among the principals, which is
found by its name. Main statement: which groups of this name there are, and that the set and the
group that is found say the same exactly if no group of the token has this name.
-/

set_option autoImplicit false
set_option relaxedAutoImplicit false

namespace BearerGate

namespace Principal

def members : Principal → List Principal
  | .group _ members => members
  | _ => []

def groupsNamed (name : String) (principals : List Principal) : List Principal :=
  principals.filter (·.isGroupNamed name)

theorem groupsNamed_append (name : String) (ps qs : List Principal) :
    groupsNamed name (ps ++ qs) = groupsNamed name ps ++ groupsNamed name qs :=
  List.filter_append ps qs

theorem groupsNamed_group (name other : String) (members : List Principal) :
    groupsNamed name [.group other members] =
      if other = name then [.group other members] else [] := by
  simp [groupsNamed, isGroupNamed, List.filter_cons]

theorem groupsNamed_ofSet (name : String) (groups : TextSet) :
    groupsNamed name (groups.toList.map (.group · [])) =
      if name ∈ groups then [.group name []] else [] := by
  have once : groups.toList.Nodup := groups.sorted.imp fun less => String.ne_of_lt less
  have named : groups.toList.filter (· == name) = if name ∈ groups then [name] else [] := by
    rw [List.filter_beq, once.count]
    by_cases isGroup : name ∈ groups
    · rw [if_pos isGroup, if_pos (TextSet.mem_def.mp isGroup)]
      rfl
    · rw [if_neg isGroup, if_neg (TextSet.mem_def.not.mp isGroup)]
      rfl
  rw [groupsNamed, List.filter_map]
  -- A group that was made of a name is asked for by this name.
  change (groups.toList.filter (· == name)).map _ = _
  rw [named]
  split <;> rfl

end Principal

namespace Identity

open Principal (groupsNamed groupsNamed_append groupsNamed_group groupsNamed_ofSet)

theorem group?_eq_head? (i : Identity) (name : String) :
    i.group? name = (groupsNamed name i.principals).head? :=
  List.head?_filter.symm

def groupOfRoles (roles : TextSet) : Principal := .group rolesGroup (roles.toList.map .simple)

theorem groupsNamed_granted (name : String) (t : Token) (roles : TextSet) :
    groupsNamed name (grantedPrincipals t roles) =
      (if name ∈ t.groups then [.group name []] else []) ++
        if rolesGroup = name then [groupOfRoles roles] else [] := by
  have self : groupsNamed name [.token t.name] = [] := rfl
  rw [grantedPrincipals, ← List.singleton_append, List.append_assoc, groupsNamed_append, self,
    List.nil_append, groupsNamed_append, groupsNamed_ofSet, groupsNamed_group]
  rfl

theorem groupsNamed_withCaller {name : String} (ne : callerGroup ≠ name) (caller : Principal)
    (principals : List Principal) :
    groupsNamed name (withCaller caller principals) = groupsNamed name principals := by
  unfold withCaller
  split
  · rfl
  · rw [groupsNamed_append, groupsNamed_group, if_neg ne, List.append_nil]

theorem groupsNamed_roles (t : Token) (mapping : RoleMapping) :
    groupsNamed rolesGroup (ofToken t mapping).principals =
      (if rolesGroup ∈ t.groups then [.group rolesGroup []] else []) ++
        [groupOfRoles (ofToken t mapping).roles] := by
  have ne : callerGroup ≠ rolesGroup := by decide
  rw [ofToken, groupsNamed_withCaller ne, groupsNamed_granted, if_pos rfl]

theorem mem_names_groupOfRoles {roles : TextSet} {role : String} :
    role ∈ (groupOfRoles roles).members.map Principal.name ↔ role ∈ roles := by
  simp [groupOfRoles, Principal.members, Principal.name, TextSet.mem_def]

/-- The group that is found for the roles is the first one: one of the token, if it names such. -/
theorem roleGroup?_ofToken (t : Token) (mapping : RoleMapping) :
    (ofToken t mapping).roleGroup? =
      some (if rolesGroup ∈ t.groups then .group rolesGroup []
        else groupOfRoles (ofToken t mapping).roles) := by
  rw [roleGroup?, group?_eq_head?, groupsNamed_roles]
  split <;> rfl

/-- There is one group of the roles, it is found, and its members are named as the roles are that
the caller is in. -/
def RolesAgree (i : Identity) : Prop :=
  ∃ group, groupsNamed rolesGroup i.principals = [group] ∧ i.roleGroup? = some group ∧
    ∀ role, (role ∈ group.members.map Principal.name ↔ i.isInRole role = true) ∧
      (i.isInRole role = true ↔ role ∈ i.roles)

theorem rolesAgree_of_not_mem {t : Token} (noGroup : rolesGroup ∉ t.groups)
    (mapping : RoleMapping) : (ofToken t mapping).RolesAgree := by
  refine ⟨groupOfRoles (ofToken t mapping).roles, ?_, ?_, fun role =>
    ⟨mem_names_groupOfRoles.trans TextSet.contains_iff.symm, TextSet.contains_iff⟩⟩
  · rw [groupsNamed_roles, if_neg noGroup, List.nil_append]
  · rw [roleGroup?_ofToken, if_neg noGroup]

theorem not_rolesAgree_of_mem {t : Token} (isGroup : rolesGroup ∈ t.groups)
    (mapping : RoleMapping) : ¬ (ofToken t mapping).RolesAgree := by
  rintro ⟨group, unique, _⟩
  rw [groupsNamed_roles, if_pos isGroup] at unique
  cases unique

/-- The groups `Roles` of an identity are the one with its roles and before it, if the token names
such a group, an empty one, which is then the one that is found. So group and set of roles say the
same exactly if the token names no group `Roles`. -/
theorem rolesAgree_iff (t : Token) (mapping : RoleMapping) :
    ((ofToken t mapping).RolesAgree ↔ rolesGroup ∉ t.groups) ∧
    groupsNamed rolesGroup (ofToken t mapping).principals =
      (if rolesGroup ∈ t.groups then [.group rolesGroup []] else []) ++
        [groupOfRoles (ofToken t mapping).roles] ∧
    (ofToken t mapping).roleGroup? =
      some (if rolesGroup ∈ t.groups then .group rolesGroup []
        else groupOfRoles (ofToken t mapping).roles) ∧
    ∀ role, role ∈ (groupOfRoles (ofToken t mapping).roles).members.map Principal.name ↔
      (ofToken t mapping).isInRole role = true := by
  refine ⟨⟨?_, fun noGroup => rolesAgree_of_not_mem noGroup mapping⟩,
    groupsNamed_roles t mapping, roleGroup?_ofToken t mapping,
    fun role => mem_names_groupOfRoles.trans TextSet.contains_iff.symm⟩
  intro agree isGroup
  exact not_rolesAgree_of_mem isGroup mapping agree

/-- The caller is in the role `Roles` as a member of the group of this name, and the group that is
found for the roles has no members. -/
theorem rolesGroup_of_token_found :
    let t := Token.ofPayload "t" (TextMap.ofList [("groups", .array [.string "Roles"])])
    ¬ (ofToken t RoleMapping.empty).RolesAgree ∧
      (ofToken t RoleMapping.empty).isInRole "Roles" = true ∧
      (ofToken t RoleMapping.empty).roleGroup? = some (.group "Roles" []) ∧
      (groupsNamed "Roles" (ofToken t RoleMapping.empty).principals).length = 2 := by
  intro t
  have isGroup : rolesGroup ∈ t.groups := by decide +kernel
  refine ⟨not_rolesAgree_of_mem isGroup _, by decide +kernel, ?_, ?_⟩
  · rw [roleGroup?_ofToken, if_pos isGroup]
    rfl
  · -- The roles are not computed: whatever they are, their group is one of two.
    change (groupsNamed rolesGroup _).length = 2
    rw [groupsNamed_roles, if_pos isGroup]
    rfl

end Identity

end BearerGate
