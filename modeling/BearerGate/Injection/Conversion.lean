import BearerGate.Injection.Injected

/-!
Conversion of injected values to the types of the places that receive them. A plain type refuses a
missing value; an optional type accepts it.
-/

set_option autoImplicit false
set_option relaxedAutoImplicit false

namespace BearerGate.Injection

open Claim (Data)

inductive InjectError
  | unknownSite (location : String)
  | absent
  | typeMismatch (expected found : String)
  deriving DecidableEq, Repr

def InjectError.message : InjectError → String
  | .unknownSite location => "no claim binding is registered for '" ++ location ++ "'"
  | .absent => "injected claim value is absent"
  | .typeMismatch expected found => "expected " ++ expected ++ ", found " ++ found

class Injectable (α : Type) where
  ofInjected : Injected → Except InjectError α

export Injectable (ofInjected)

def mismatch {α : Type} (expected : String) (found : Injected) : Except InjectError α :=
  .error (.typeMismatch expected found.describe)

/-- The claim data of a value, under any number of optional wrappers. -/
def claimData (expected : String) : Injected → Except InjectError Data
  | .claim data => .ok data
  | .null => .error .absent
  | .empty => .error .absent
  | .present inner => claimData expected inner
  | other => mismatch expected other

/-- The claim data of a value, read in the way of one plain type. -/
def plainOf {α : Type} (expected : String) (read : Data → Option α) (v : Injected) :
    Except InjectError α :=
  (claimData expected v).bind fun data => match read data with
    | some a => .ok a
    | none => mismatch expected (.claim data)

/-- The JSON value of an injected value, under any number of optional wrappers. -/
def jsonValue : Injected → Except InjectError Json
  | .json value => .ok value
  | .present inner => jsonValue inner
  | other => (claimData "JsonValue" other).bind fun data => match data.lower with
    | some value => .ok value
    | none => .error .absent

instance : Injectable Injected := ⟨.ok⟩

instance : Injectable Data := ⟨claimData "claim"⟩

instance : Injectable String := ⟨plainOf "String" Data.string?⟩

instance : Injectable Int64 := ⟨plainOf "Long" Data.long?⟩

instance : Injectable Double := ⟨plainOf "Double" Data.double?⟩

instance : Injectable Bool := ⟨plainOf "Boolean" Data.boolean?⟩

instance : Injectable TextSet := ⟨plainOf "Set<String>" Data.textSet?⟩

/-- Conversion to another kind of set, collected from the texts of the set. -/
@[reducible] def Injectable.collecting {σ : Type} (collect : List String → σ) : Injectable σ where
  ofInjected v := (ofInjected v).map fun texts : TextSet => collect texts.toList

instance : Injectable Json := ⟨jsonValue⟩

instance {α : Type} [Injectable α] : Injectable (Option α) where
  ofInjected
    | .null => .ok none
    | .empty => .ok none
    | .present inner => (ofInjected inner).map some
    | other => (ofInjected other).map some

instance {α : Type} [Injectable α] : Injectable (Named α) where
  ofInjected
    | .claimValue name inner => (ofInjected inner).map (⟨name, ·⟩)
    | other => mismatch "ClaimValue" other

instance : Injectable Provider where
  ofInjected
    | .provider p => .ok p
    | other => mismatch "Provider" other

def Provider.getAs (p : Provider) (α : Type) [Injectable α] : Held (Except InjectError α) := do
  return ofInjected (← p.get)

end BearerGate.Injection
