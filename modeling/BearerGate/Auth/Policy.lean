import BearerGate.Route.Table
import BearerGate.Settings.Basic

/-!
Policies: which paths need an authenticated caller. Unless nothing needs one, everything does but
the public routes.
-/

set_option autoImplicit false
set_option relaxedAutoImplicit false

namespace BearerGate

inductive Requirement
  | none
  | required
  deriving DecidableEq, Repr

structure Policy where
  requireAuth : Bool
  publicRoutes : Route.Table

namespace Policy

def addRoute (table : Route.Table) (text : String) : Except SettingsError Route.Table :=
  match (Route.Pattern.ofText? text).bind table.insert? with
  | some table => .ok table
  | none => .error (.invalidRoute text)

def ofRoutes (requireAuth : Bool) (routes : List String) : Except SettingsError Policy :=
  (routes.foldlM addRoute Route.Table.empty).map (⟨requireAuth, ·⟩)

def ofSettings (s : Settings) : Except SettingsError Policy :=
  ofRoutes s.requireAuth s.publicRoutes

def isPublic (p : Policy) (path : String) : Bool := p.publicRoutes.matchesPath path.toList

def resolve (p : Policy) (path : String) : Requirement :=
  if p.requireAuth && !p.isPublic path then .required else .none

/-- The inspection text of a policy, which does not show the routes. -/
def inspect (p : Policy) : String :=
  "RoutePolicy \x7b require_auth_by_default: " ++ (if p.requireAuth then "true" else "false") ++
    ", .. \x7d"

end Policy

end BearerGate
