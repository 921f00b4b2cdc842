import BearerGate.Json.Printer
import BearerGate.Token

/-!
Identities: who the caller of a request is, as a set of principals, and which roles and groups the
caller has. A mapping can grant further roles to the members of a group. Main statement: which roles
a token and a mapping give together.
-/

set_option autoImplicit false
set_option relaxedAutoImplicit false

namespace BearerGate

inductive Principal
  | token (name : String)
  | simple (name : String)
  | group (name : String) (members : List Principal)
  deriving BEq, Repr

namespace Principal

def name : Principal → String
  | .token name => name
  | .simple name => name
  | .group name _ => name

def isGroupNamed (wanted : String) : Principal → Bool
  | .group name _ => name == wanted
  | _ => false

mutual

def toJson : Principal → Json
  | .token name => .object [("kind", .string "token"), ("name", .string name)]
  | .simple name => .object [("kind", .string "simple"), ("name", .string name)]
  | .group name members =>
    .object [("kind", .string "group"), ("name", .string name),
      ("members", .array (listToJson members))]

def listToJson : List Principal → List Json
  | [] => []
  | p :: rest => toJson p :: listToJson rest

end

end Principal

/-- Roles that the members of a group have besides those in their tokens. -/
structure RoleMapping where
  table : TextMap (List String)

namespace RoleMapping

def empty : RoleMapping := ⟨TextMap.empty⟩

def isEmpty (m : RoleMapping) : Bool := m.table.entries.isEmpty

def inspect (m : RoleMapping) : String :=
  let entry := fun (e : String × List String) =>
    Text.quoted e.1 ++ ": [" ++ ", ".intercalate (e.2.map Text.quoted) ++ "]"
  "RoleMapping \x7b mappings: \x7b" ++ ", ".intercalate (m.table.entries.map entry) ++
    "\x7d \x7d"

def rolesOf (m : RoleMapping) (group : String) : List String := (m.table.find? group).getD []

end RoleMapping

/-- The name of the group whose members are the roles of the caller. -/
def rolesGroup : String := "Roles"

/-- The name of the group whose member is the caller. -/
def callerGroup : String := "CallerPrincipal"

structure Identity where
  name : String
  principals : List Principal
  roles : TextSet
  groups : TextSet

namespace Identity

def group? (i : Identity) (name : String) : Option Principal :=
  i.principals.find? (·.isGroupNamed name)

def roleGroup? (i : Identity) : Option Principal := i.group? rolesGroup

def callerGroup? (i : Identity) : Option Principal := i.group? callerGroup

def isInRole (i : Identity) (role : String) : Bool := i.roles.contains role

/-- The roles of a token together with those that its groups are granted. -/
def rolesWith (mapping : RoleMapping) (t : Token) : TextSet :=
  t.groups.toList.foldl (fun roles group => (mapping.rolesOf group).foldl TextSet.insert roles)
    t.roles

private theorem mem_foldl_grant {mapping : RoleMapping} {role : String} (groups : List String)
    (roles : TextSet) :
    role ∈ groups.foldl (fun roles group => (mapping.rolesOf group).foldl TextSet.insert roles)
        roles ↔ role ∈ roles ∨ ∃ group ∈ groups, role ∈ mapping.rolesOf group := by
  induction groups generalizing roles with
  | nil => simp
  | cons group rest ih =>
    rw [List.foldl_cons, ih, TextSet.mem_foldl_insert]
    simp only [List.mem_cons, exists_eq_or_imp, or_assoc]
    exact or_left_comm

theorem mem_rolesWith {mapping : RoleMapping} {t : Token} {role : String} :
    role ∈ rolesWith mapping t ↔
      role ∈ t.roles ∨ ∃ group ∈ t.groups, role ∈ mapping.rolesOf group :=
  mem_foldl_grant t.groups.toList t.roles

/-- The principals of a token before the caller is marked: itself, its groups, and its roles. -/
def grantedPrincipals (t : Token) (roles : TextSet) : List Principal :=
  .token t.name :: t.groups.toList.map (.group · []) ++
    [.group rolesGroup (roles.toList.map .simple)]

/-- Mark the caller, unless a group of the name is there already. -/
def withCaller (caller : Principal) (principals : List Principal) : List Principal :=
  if principals.any (·.isGroupNamed callerGroup) then principals
  else principals ++ [.group callerGroup [caller]]

def ofToken (t : Token) (mapping : RoleMapping) : Identity where
  name := t.name
  principals := withCaller (.token t.name) (grantedPrincipals t (rolesWith mapping t))
  roles := rolesWith mapping t
  groups := t.groups

def textsToJson (s : TextSet) : Json := .array (s.toList.map .string)

def toJson (i : Identity) : Json :=
  .object [("name", .string i.name), ("principals", .array (Principal.listToJson i.principals)),
    ("roles", textsToJson i.roles), ("groups", textsToJson i.groups)]

end Identity

structure SecurityContext where
  identity : Identity
  token : Token
  scheme : String

namespace SecurityContext

def bearerScheme : String := "MP-JWT"

def ofToken (t : Token) (mapping : RoleMapping) (scheme : String) : SecurityContext :=
  ⟨Identity.ofToken t mapping, t, scheme⟩

def principalName (c : SecurityContext) : String := c.identity.name

def isCallerInRole (c : SecurityContext) (role : String) : Bool := c.identity.isInRole role

end SecurityContext

end BearerGate
