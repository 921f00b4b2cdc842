import BearerGate.Injection.Attempt
import BearerGate.Injection.Shape
import BearerGate.Text.TextSet

/-!
Collecting declarations before anything is served. Declarations with the same claim, shape and type
share one site; a declaration that could not be served is refused and leaves no trace.
-/

set_option autoImplicit false
set_option relaxedAutoImplicit false

namespace BearerGate.Injection

open Claim (Standard Kind)

inductive DeclarationError
  | missingClaimName (location : String)
  | unsupportedType (location : String) (declared : DeclaredType)
  | typeMismatch (location claim : String) (expected : Kind) (declared : DeclaredType)
  | scopeViolation (location claim : String) (scope : Scope) (declared : DeclaredType)
  | duplicateSite (location : String)
  | duplicateProducer (claim : String) (declared : DeclaredType)
  deriving DecidableEq, Repr

def DeclarationError.message : DeclarationError → String
  | .missingClaimName location => "claim binding at '" ++ location ++ "' names no claim"
  | .unsupportedType location declared =>
    "'" ++ location ++ "' declares unsupported injection type " ++ declared.display
  | .typeMismatch location claim expected declared =>
    "'" ++ location ++ "' declares " ++ declared.display ++ " for claim '" ++ claim ++
      "' of type " ++ expected.label
  | .scopeViolation location claim scope declared =>
    "'" ++ location ++ "' injects claim '" ++ claim ++ "' as " ++ declared.display ++ " into a " ++
      scope.display ++ "-scoped component; use ClaimValue or Provider"
  | .duplicateSite location =>
    "injection point '" ++ location ++ "' is declared more than once"
  | .duplicateProducer claim declared =>
    "a producer for claim '" ++ claim ++ "' as " ++ declared.display ++ " is already registered"

/-- What the declarations of one site have in common. -/
structure Key where
  claim : String
  shape : Shape
  type : DeclaredType
  deriving DecidableEq, Repr

/-- Keys are ordered by claim, then shape, then type. -/
def Key.before (a b : Key) : Bool :=
  a.claim < b.claim ||
    (a.claim == b.claim && (a.shape.rank < b.shape.rank ||
      (a.shape == b.shape && a.type.code < b.type.code)))

/-- Declarations with one key, in the order in which they were observed. -/
structure Site where
  key : Key
  standard : Option Standard
  points : List Point
  deriving DecidableEq, Repr

def Site.locations (s : Site) : List String := s.points.map (·.location)

/-- The sites observed so far, in the order of their keys, and the locations that are taken. -/
structure Collector where
  sites : List Site
  locations : TextSet

namespace Collector

def empty : Collector := ⟨[], .empty⟩

/-- Take a location; the answer is whether it was free. -/
def reserve (location : String) : StateM Collector Bool := fun c =>
  (!c.locations.contains location, { c with locations := c.locations.insert location })

def place (key : Key) (standard : Option Standard) (point : Point) : List Site → List Site
  | [] => [⟨key, standard, [point]⟩]
  | s :: rest =>
    if s.key = key then { s with points := s.points ++ [point] } :: rest
    else if key.before s.key then ⟨key, standard, [point]⟩ :: s :: rest
    else s :: place key standard point rest

end Collector

/-- The kind of the standard claim that a declaration is bound to, if its type cannot carry it. -/
def Point.misfit? (p : Point) : Option Kind :=
  (p.binding.standardClaim?.map Standard.kind).filter fun kind => !p.type.accepts kind

/-- The key of a declaration, if it can be served: it names a claim, its type has a shape and fits
the claim, and a component that outlives the request takes no snapshot. -/
def Point.check (p : Point) : Except DeclarationError Key :=
  match p.binding.claimName? with
  | none => .error (.missingClaimName p.location)
  | some claim => match p.type.classify with
    | none => .error (.unsupportedType p.location p.type)
    | some classified =>
      match p.misfit? with
      | some kind => .error (.typeMismatch p.location claim kind p.type)
      | none =>
        if classified.shape.isSnapshot && p.scope.outlivesRequest then
          .error (.scopeViolation p.location claim p.scope p.type)
        else .ok ⟨claim, classified.shape, p.type⟩

namespace Collector

def record (p : Point) : Attempt DeclarationError Collector Unit := do
  let key ← p.check
  if ← reserve p.location then
    modify fun c => { c with sites := place key p.binding.standardClaim? p c.sites }
  else
    throw (.duplicateSite p.location)

theorem reserve_apply (location : String) (c : Collector) :
    reserve location c =
      if location ∈ c.locations then (false, c)
      else (true, { c with locations := c.locations.insert location }) := by
  unfold reserve
  split
  · rename_i taken
    rw [TextSet.contains_iff.mpr taken, TextSet.insert_of_mem taken]
    rfl
  · rename_i free
    rw [Bool.eq_false_iff.mpr (mt TextSet.contains_iff.mp free)]
    rfl

/-- What recording a declaration answers and leaves: only one that is accepted leaves a trace. -/
theorem record_perform (p : Point) (c : Collector) :
    (record p).perform c = match p.check with
      | .error e => (.error e, c)
      | .ok key =>
        if p.location ∈ c.locations then (.error (.duplicateSite p.location), c)
        else (.ok (), ⟨place key p.binding.standardClaim? p c.sites,
          c.locations.insert p.location⟩) := by
  cases checked : p.check with
  | error e =>
    rw [Attempt.perform, record, checked]
    rfl
  | ok key =>
    rw [record, checked, Attempt.perform_bind]
    change (ite ((reserve p.location c).1 = true) _ _ : Attempt _ _ _).perform
      (reserve p.location c).2 = _
    rw [reserve_apply]
    by_cases taken : p.location ∈ c.locations
    · simp only [if_pos taken]
      rfl
    · simp only [if_neg taken]
      rfl

def observe (c : Collector) (p : Point) : Except DeclarationError Collector :=
  ((record p).settle c).map (·.2)

/-- Observe all declarations, up to the first that is refused. -/
def observeAll (c : Collector) (points : List Point) : Except DeclarationError Collector :=
  points.foldlM observe c

end Collector

def collect (points : List Point) : Except DeclarationError (List Site) :=
  (Collector.empty.observeAll points).map (·.sites)

end BearerGate.Injection
