import BearerGate.Claim.Standard
import BearerGate.Json.Basic

/-!
Declarations: what a component says about a claim that it wants to be given. A declaration has a
place, a binding to a claim, a type and the lifetime of the component that makes it.
-/

set_option autoImplicit false
set_option relaxedAutoImplicit false

namespace BearerGate.Injection

open Claim (Standard Kind)

inductive ValueType
  | string | long | double | boolean | stringSet | jsonObject | any
  deriving DecidableEq, Repr

namespace ValueType

def ofKind : Kind → ValueType
  | .string => .string
  | .long => .long
  | .boolean => .boolean
  | .stringSet => .stringSet
  | .jsonObject => .jsonObject

def display : ValueType → String
  | .string => "String"
  | .long => "Long"
  | .double => "Double"
  | .boolean => "Boolean"
  | .stringSet => "Set<String>"
  | .jsonObject => "JsonObject"
  | .any => "Object"

def rank : ValueType → Nat
  | .string => 0
  | .long => 1
  | .double => 2
  | .boolean => 3
  | .stringSet => 4
  | .jsonObject => 5
  | .any => 6

end ValueType

inductive JsonType
  | value | string | number | array | object
  deriving DecidableEq, Repr

namespace JsonType

def all : List JsonType := [.value, .string, .number, .array, .object]

def display : JsonType → String
  | .value => "JsonValue"
  | .string => "JsonString"
  | .number => "JsonNumber"
  | .array => "JsonArray"
  | .object => "JsonObject"

def rank : JsonType → Nat
  | .value => 0
  | .string => 1
  | .number => 2
  | .array => 3
  | .object => 4

def admits : JsonType → Json → Bool
  | .value, _ => true
  | .string, v => v.isString
  | .number, v => v.isNumber
  | .array, v => v.isArray
  | .object, v => v.isObject

end JsonType

/-- The type of a declaration: a plain type, or one wrapped in optional values, named values or
providers. -/
inductive DeclaredType
  | value (type : ValueType)
  | json (type : JsonType)
  | optional (inner : DeclaredType)
  | claimValue (inner : DeclaredType)
  | provider (inner : DeclaredType)
  deriving DecidableEq, Repr

namespace DeclaredType

def leaf : DeclaredType → DeclaredType
  | .optional inner => inner.leaf
  | .claimValue inner => inner.leaf
  | .provider inner => inner.leaf
  | plain => plain

def isPlain : DeclaredType → Bool
  | .value _ => true
  | .json _ => true
  | _ => false

theorem isPlain_leaf (declared : DeclaredType) : declared.leaf.isPlain = true := by
  induction declared with
  | value type => rfl
  | json type => rfl
  | optional inner ih => exact ih
  | claimValue inner ih => exact ih
  | provider inner ih => exact ih

theorem leaf_of_isPlain {plain : DeclaredType} (isPlain : plain.isPlain = true) :
    plain.leaf = plain := by
  cases plain with
  | value type => rfl
  | json type => rfl
  | optional _ | claimValue _ | provider _ => cases isPlain

def display : DeclaredType → String
  | .value type => type.display
  | .json type => type.display
  | .optional inner => "Optional<" ++ inner.display ++ ">"
  | .claimValue inner => "ClaimValue<" ++ inner.display ++ ">"
  | .provider inner => "Provider<" ++ inner.display ++ ">"

/-- The type in numbers, wrapper by wrapper; types are ordered as these lists are. -/
def code : DeclaredType → List Nat
  | .value type => [0, type.rank]
  | .json type => [1, type.rank]
  | .optional inner => 2 :: inner.code
  | .claimValue inner => 3 :: inner.code
  | .provider inner => 4 :: inner.code

end DeclaredType

/-- The claim that a declaration is bound to: a standard claim, or else the one with a given name.
The empty name stands for none. -/
structure Binding where
  standard : Option Standard
  literal : String
  deriving DecidableEq, Repr

namespace Binding

def claimName? (b : Binding) : Option String :=
  match b.standard with
  | some c => some c.name
  | none => if b.literal = "" then none else some b.literal

/-- The standard claim that is bound, selected as such or by its name. -/
def standardClaim? (b : Binding) : Option Standard :=
  b.standard.or (Standard.ofName? b.literal)

end Binding

inductive Scope
  | request | dependent | session | application
  deriving DecidableEq, Repr

namespace Scope

def outlivesRequest : Scope → Bool
  | .session => true
  | .application => true
  | _ => false

def display : Scope → String
  | .request => "request"
  | .dependent => "dependent"
  | .session => "session"
  | .application => "application"

end Scope

/-- A place at which a component declares that it wants a claim. -/
structure Point where
  location : String
  binding : Binding
  type : DeclaredType
  scope : Scope
  deriving DecidableEq, Repr

end BearerGate.Injection
