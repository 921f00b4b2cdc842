import BearerGate.Holder
import BearerGate.Injection.Shape

/-!
Injected values: what a place is given for its declaration. A provider names its claim and is asked
in each request anew; all other values are fixed when they are produced.
-/

set_option autoImplicit false
set_option relaxedAutoImplicit false

namespace BearerGate.Injection

open Claim (Data Standard)

/-- A handle on a claim of whatever request is being served. -/
structure Provider where
  claim : String
  type : DeclaredType
  deriving DecidableEq, Repr

structure Named (α : Type) where
  name : String
  value : α
  deriving DecidableEq, Repr

inductive Injected
  | null
  | claim (data : Data)
  | json (value : Json)
  | empty
  | present (inner : Injected)
  | claimValue (name : String) (inner : Injected)
  | provider (provider : Provider)
  deriving BEq

namespace Injected

def isNull : Injected → Bool
  | .null => true
  | _ => false

def describe : Injected → String
  | .null => "null"
  | .claim (.string _) => "String"
  | .claim (.long _) => "Long"
  | .claim (.double _) => "Double"
  | .claim (.boolean _) => "Boolean"
  | .claim (.stringSet _) => "Set<String>"
  | .claim (.list _) => "List"
  | .claim (.object _) => "JsonObject"
  | .json _ => "JsonValue"
  | .empty => "Optional"
  | .present _ => "Optional"
  | .claimValue _ _ => "ClaimValue"
  | .provider _ => "Provider"

end Injected

/-- The greatest magnitude up to which every integer is a double. -/
def exactLimit : Nat := 2 ^ 53

/-- A long as the double that is the same number, within the range where each long has one. -/
def exactDouble? (n : Int64) : Option Double :=
  if n.toInt.natAbs ≤ exactLimit then some (Double.ofInt n.toInt) else none

def coerce (data : Data) (type : ValueType) : Option Data :=
  match type, data with
  | .any, data => some data
  | .string, .string s => some (.string s)
  | .long, .long n => some (.long n)
  | .double, .double d => some (.double d)
  | .double, .long n => (exactDouble? n).map .double
  | .boolean, .boolean b => some (.boolean b)
  | .stringSet, data => data.textSet?.map .stringSet
  | .jsonObject, .object fields => some (.object fields)
  | _, _ => none

def produce (name : String) (token : Option Token) : DeclaredType → Injected
  | .value type =>
    match (token.bind (·.claim? name)).bind (coerce · type) with
    | some data => .claim data
    | none => .null
  | .json type =>
    match (token.bind (·.claim? name)).bind Data.lower with
    | some value => if type.admits value then .json value else .null
    | none => .null
  | .optional inner => match produce name token inner with
    | .null => .empty
    | value => .present value
  | .claimValue inner => .claimValue name (produce name token inner)
  | .provider inner => .provider ⟨name, inner⟩

theorem Injected.isNull_iff {v : Injected} : v.isNull = true ↔ v = .null := by
  cases v <;> simp [isNull]

theorem produce_value_eq_elim (name : String) (token : Option Token) (type : ValueType) :
    produce name token (.value type) =
      ((token.bind (·.claim? name)).bind (coerce · type)).elim .null .claim := by
  rw [produce]
  cases (token.bind (·.claim? name)).bind (coerce · type) <;> rfl

theorem produce_json_eq_elim (name : String) (token : Option Token) (type : JsonType) :
    produce name token (.json type) =
      (((token.bind (·.claim? name)).bind Data.lower).filter type.admits).elim .null .json := by
  rw [produce]
  cases (token.bind (·.claim? name)).bind Data.lower with
  | none => rfl
  | some value => cases admits : type.admits value <;> simp [Option.filter, admits]

theorem produce_value (t : Token) {name : String} (ne : name ≠ Standard.rawToken.name)
    (type : ValueType) :
    produce name (some t) (.value type) =
      ((t.payloadClaim? name).bind (coerce · type)).elim .null .claim := by
  rw [produce_value_eq_elim, Option.bind_some, t.claim?_of_ne ne]

def Provider.get (p : Provider) : Held Injected := do
  return produce p.claim (← Holder.current) p.type

end BearerGate.Injection
