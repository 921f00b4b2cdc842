import BearerGate.Claim.Standard
import BearerGate.Number.Double
import BearerGate.Text.TextMap

/-!
Claim data: the value of a claim once it has been taken out of the payload of a token.
-/

set_option autoImplicit false
set_option relaxedAutoImplicit false

namespace BearerGate.Claim

inductive Data
  | string (value : String)
  | long (value : Int64)
  | double (value : Double)
  | boolean (value : Bool)
  | stringSet (value : TextSet)
  | list (items : List Data)
  | object (fields : List (String × Data))
  deriving BEq, Inhabited

namespace Data

def string? : Data → Option String
  | .string s => some s
  | _ => none

def long? : Data → Option Int64
  | .long n => some n
  | _ => none

def double? : Data → Option Double
  | .double d => some d
  | _ => none

def boolean? : Data → Option Bool
  | .boolean b => some b
  | _ => none

def fields? : Data → Option (List (String × Data))
  | .object fields => some fields
  | _ => none

/-- The value as a set of texts: a set, a single text, or a list of texts alone. -/
def textSet? : Data → Option TextSet
  | .stringSet s => some s
  | .string s => some (TextSet.singleton s)
  | .list items => (items.mapM string?).map TextSet.ofList
  | _ => none

/-- Whether the value can stand where a standard claim of a kind is expected. -/
def conforms (kind : Kind) (d : Data) : Bool :=
  match kind, d with
  | .string, .string _ => true
  | .long, .long _ => true
  | .boolean, .boolean _ => true
  | .stringSet, d => d.textSet?.isSome
  | .jsonObject, .object _ => true
  | _, _ => false

mutual

def hasDouble : Data → Bool
  | .double _ => true
  | .list items => itemsHaveDouble items
  | .object fields => fieldsHaveDouble fields
  | _ => false

def itemsHaveDouble : List Data → Bool
  | [] => false
  | item :: rest => hasDouble item || itemsHaveDouble rest

def fieldsHaveDouble : List (String × Data) → Bool
  | [] => false
  | (_, value) :: rest => hasDouble value || fieldsHaveDouble rest

end

mutual

/-- Each object in the value has its fields in the order of their names, no name twice. -/
def Ordered : Data → Prop
  | .list items => ItemsOrdered items
  | .object fields => (fields.map (·.1)).Pairwise (· < ·) ∧ FieldsOrdered fields
  | _ => True

def ItemsOrdered : List Data → Prop
  | [] => True
  | item :: rest => Ordered item ∧ ItemsOrdered rest

def FieldsOrdered : List (String × Data) → Prop
  | [] => True
  | (_, value) :: rest => Ordered value ∧ FieldsOrdered rest

end

end Data

end BearerGate.Claim
