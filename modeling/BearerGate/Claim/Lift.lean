import BearerGate.Claim.Data
import BearerGate.Json.Basic

/-!
Lifting JSON values to claim data and lowering claim data to JSON values. Nulls are absent claims
and vanish when lifted; doubles that are no numbers have no JSON form and vanish when lowered. A
standard claim that carries a set of texts is lifted to one, also from a single text.
-/

set_option autoImplicit false
set_option relaxedAutoImplicit false

namespace BearerGate.Claim.Data

mutual

/-- The claim data of a JSON value; none for null. An integer beyond the signed 64 bits becomes the
nearest double. -/
def lift : Json → Option Data
  | .null => none
  | .bool b => some (.boolean b)
  | .int n => some (match n.toInt64? with
    | some word => .long word
    | none => .double (Double.ofInt n.value))
  | .double d => some (.double d.value)
  | .string s => some (.string s)
  | .array items => some (.list (liftItems items))
  | .object members => some (.object (liftMembers members))

def liftItems : List Json → List Data
  | [] => []
  | item :: rest => match lift item with
    | some d => d :: liftItems rest
    | none => liftItems rest

def liftMembers : List (String × Json) → List (String × Data)
  | [] => []
  | (name, value) :: rest => match lift value with
    | some d => (name, d) :: liftMembers rest
    | none => liftMembers rest

end

/-- The claim data of a JSON value, where the claim is known to carry values of a kind. -/
def ofJson (hint : Option Kind) (value : Json) : Option Data :=
  match hint, value with
  | some .stringSet, .string s => some (.stringSet (TextSet.singleton s))
  | some .stringSet, .array items =>
    if items.all Json.isString then
      some (.stringSet (TextSet.ofList (items.filterMap Json.string?)))
    else lift value
  | _, _ => lift value

mutual

/-- The JSON value of claim data; none for a double that is no number. -/
def lower : Data → Option Json
  | .string s => some (.string s)
  | .long n => some (.int (WordInt.ofInt64 n))
  | .double d => (FiniteDouble.ofDouble? d).map .double
  | .boolean b => some (.bool b)
  | .stringSet s => some (.array (s.toList.map .string))
  | .list items => some (.array (lowerItems items))
  | .object fields => some (.object (lowerFields fields))

def lowerItems : List Data → List Json
  | [] => []
  | item :: rest => match lower item with
    | some v => v :: lowerItems rest
    | none => lowerItems rest

def lowerFields : List (String × Data) → List (String × Json)
  | [] => []
  | (name, value) :: rest => match lower value with
    | some v => (name, v) :: lowerFields rest
    | none => lowerFields rest

end

theorem liftItems_eq_filterMap (items : List Json) : liftItems items = items.filterMap lift := by
  induction items with
  | nil => rfl
  | cons item rest ih => cases h : lift item <;> simp [liftItems, h, ih]

theorem ofJson_of_ne {hint : Option Kind} {value : Json} (ne : hint ≠ some .stringSet) :
    ofJson hint value = lift value := by
  unfold ofJson
  split
  · exact absurd rfl ne
  · exact absurd rfl ne
  · rfl

end BearerGate.Claim.Data
