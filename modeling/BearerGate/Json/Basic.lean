import BearerGate.Number.Double
import BearerGate.Text.TextMap

/-!
JSON values. The members of an object stand in the order in which they were written, repeated names
included; `ordered` gives each object its members in the order of their names, the last one of a
name counting. Numbers are integers of 64 bits, with or without sign, or finite doubles.
-/

set_option autoImplicit false
set_option relaxedAutoImplicit false

namespace BearerGate

/-- An integer that fits in 64 bits, with or without sign. -/
structure WordInt where
  value : Int
  lower : -2 ^ 63 ≤ value := by omega
  upper : value < 2 ^ 64 := by omega
  deriving DecidableEq, Repr

/-- A double that is neither infinite nor undefined. -/
structure FiniteDouble where
  value : Double
  finite : value.isFinite = true
  deriving DecidableEq, Repr

inductive Json
  | null
  | bool (value : Bool)
  | int (value : WordInt)
  | double (value : FiniteDouble)
  | string (value : String)
  | array (items : List Json)
  | object (members : List (String × Json))
  deriving Repr, BEq, Inhabited

namespace WordInt

def ofInt? (n : Int) : Option WordInt :=
  if h : -2 ^ 63 ≤ n ∧ n < 2 ^ 64 then some ⟨n, h.1, h.2⟩ else none

def ofInt64 (n : Int64) : WordInt where
  value := n.toInt
  lower := Int64.le_toInt n
  upper := by
    have := Int64.toInt_lt n
    omega

def toInt64? (n : WordInt) : Option Int64 :=
  if n.value < 2 ^ 63 then some (Int64.ofInt n.value) else none

end WordInt

def FiniteDouble.ofDouble? (d : Double) : Option FiniteDouble :=
  if h : d.isFinite = true then some ⟨d, h⟩ else none

namespace Json

mutual

/-- The value with the members of every object in the order of their names; of members with one
name the last one counts. -/
def ordered : Json → Json
  | .array items => .array (orderedItems items)
  | .object members => .object (orderedMembers members [])
  | value => value

def orderedItems : List Json → List Json
  | [] => []
  | item :: rest => ordered item :: orderedItems rest

def orderedMembers : List (String × Json) → List (String × Json) → List (String × Json)
  | [], done => done
  | (name, value) :: rest, done => orderedMembers rest (TextMap.place name (ordered value) done)

end

theorem orderedItems_map_string (texts : List String) :
    orderedItems (texts.map .string) = texts.map .string := by
  induction texts with
  | nil => rfl
  | cons text rest ih => simp [orderedItems, ordered, ih]

/-- Members that stand in order, behind those that stand before them, stay as they are. -/
theorem orderedMembers_of_ascending {members done : List (String × Json)}
    (each : ∀ m ∈ members, m.2.ordered = m.2)
    (ascending : (members.map (·.1)).Pairwise (· < ·))
    (before : ∀ m ∈ members, ∀ e ∈ done, e.1 < m.1) :
    orderedMembers members done = done ++ members := by
  induction members generalizing done with
  | nil => exact (List.append_nil done).symm
  | cons m rest ih =>
    obtain ⟨name, value⟩ := m
    obtain ⟨here, further⟩ := List.forall_mem_cons.mp each
    obtain ⟨first, others⟩ := List.pairwise_cons.mp ascending
    obtain ⟨behind, restBehind⟩ := List.forall_mem_cons.mp before
    have next : ∀ m ∈ rest, ∀ e ∈ done ++ [(name, value)], e.1 < m.1 := by
      intro m member e placed
      rcases List.mem_append.mp placed with earlier | last
      · exact restBehind m member e earlier
      · rw [List.mem_singleton.mp last]
        exact first m.1 (List.mem_map_of_mem member)
    rw [orderedMembers, here, TextMap.place_last value behind, ih further others next,
      List.append_assoc, List.singleton_append]

def members? : Json → Option (List (String × Json))
  | .object members => some members
  | _ => none

def string? : Json → Option String
  | .string s => some s
  | _ => none

def isString : Json → Bool
  | .string _ => true
  | _ => false

def isNumber : Json → Bool
  | .int _ => true
  | .double _ => true
  | _ => false

def isArray : Json → Bool
  | .array _ => true
  | _ => false

def isObject : Json → Bool
  | .object _ => true
  | _ => false

def member? (name : String) (value : Json) : Option Json :=
  value.members?.bind (List.lookup name)

end Json

end BearerGate
