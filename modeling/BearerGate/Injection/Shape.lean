import BearerGate.Injection.Declaration

/-!
Shapes: how a claim is delivered to a place that declares a type. A type has a shape if it is plain,
an optional plain type, a named value of one of these, or a provider of any of them.
-/

set_option autoImplicit false
set_option relaxedAutoImplicit false

namespace BearerGate.Injection

open Claim (Kind)

inductive Shape
  | raw | optional | claimValue | optionalClaimValue | json | provider
  deriving DecidableEq, Repr

namespace Shape

def label : Shape → String
  | .raw => "Raw"
  | .optional => "Optional"
  | .claimValue => "ClaimValue"
  | .optionalClaimValue => "OptionalClaimValue"
  | .json => "Json"
  | .provider => "Provider"

def rank : Shape → Nat
  | .raw => 0
  | .optional => 1
  | .claimValue => 2
  | .optionalClaimValue => 3
  | .json => 4
  | .provider => 5

/-- Whether the delivered value holds the claim of one request without naming it, so that a
component that outlives the request must not keep it. -/
def isSnapshot : Shape → Bool
  | .raw => true
  | .optional => true
  | .json => true
  | _ => false

end Shape

structure Classified where
  shape : Shape
  valueType : DeclaredType
  deriving DecidableEq, Repr

namespace DeclaredType

def classifyBase : DeclaredType → Option Classified
  | .value type => some ⟨.raw, .value type⟩
  | .json type => some ⟨.json, .json type⟩
  | .optional inner => if inner.isPlain then some ⟨.optional, inner⟩ else none
  | .claimValue (.optional inner) =>
    if inner.isPlain then some ⟨.optionalClaimValue, inner⟩ else none
  | .claimValue inner => if inner.isPlain then some ⟨.claimValue, inner⟩ else none
  | .provider _ => none

/-- The shape of a type; none for wrappers that make no sense in each other. -/
def classify : DeclaredType → Option Classified
  | .provider inner => (classifyBase inner).map fun _ => ⟨.provider, inner⟩
  | base => classifyBase base

/-- Whether a place that declares the type can be given a claim of a kind. -/
def accepts (declared : DeclaredType) (kind : Kind) : Bool :=
  match declared.leaf with
  | .value .any => true
  | .value type => type == ValueType.ofKind kind
  | .json .value => true
  | .json .string => kind == .string
  | .json .number => kind == .long
  | .json .array => kind == .stringSet
  | .json .object => kind == .jsonObject
  | _ => false

/-- Wrappers have no part in what a type can be given. -/
theorem accepts_leaf (declared : DeclaredType) (kind : Kind) :
    declared.leaf.accepts kind = declared.accepts kind := by
  unfold accepts
  rw [leaf_of_isPlain declared.isPlain_leaf]

end DeclaredType

end BearerGate.Injection
