import BearerGate.Proofs.InjectionTypes
import Mathlib.Logic.Relation

/-!
Delivery in different shapes: one claim is delivered under optional values, named values and
providers, the last of which are asked later, in whatever slot there is then. Main statement: taken
out of its wrappers, what is produced for a declared type is what is produced for the plain type in
it, of the token in the slot, and all names met on the way are that of the claim.
-/

set_option autoImplicit false
set_option relaxedAutoImplicit false

namespace BearerGate.Injection

def DeclaredType.wrappers : DeclaredType → Nat
  | .optional inner => inner.wrappers + 1
  | .claimValue inner => inner.wrappers + 1
  | .provider inner => inner.wrappers + 1
  | _ => 0

def DeclaredType.isDeferred : DeclaredType → Bool
  | .optional inner => inner.isDeferred
  | .claimValue inner => inner.isDeferred
  | .provider _ => true
  | _ => false

namespace Injected

/-- A bound on the wrappers around the plain value, those included that providers still give. -/
def depth : Injected → Nat
  | .present inner => inner.depth + 1
  | .claimValue _ inner => inner.depth + 1
  | .provider p => p.type.wrappers + 1
  | _ => 0

end Injected

theorem Delivers.depth_eq {plain : DeclaredType} {v : Injected} (delivers : Delivers plain v) :
    v.depth = 0 := by
  cases delivers <;> rfl

theorem depth_produce_le (name : String) (token : Option Token) (declared : DeclaredType) :
    (produce name token declared).depth ≤ declared.wrappers := by
  induction declared with
  | value type => exact Nat.le_of_eq (delivers_produce rfl name token).depth_eq
  | json type => exact Nat.le_of_eq (delivers_produce rfl name token).depth_eq
  | optional inner ih =>
    rw [produce]
    split
    · exact Nat.zero_le _
    · exact Nat.succ_le_succ ih
  | claimValue inner ih => exact Nat.succ_le_succ ih
  | provider inner => exact Nat.le_refl _

namespace Injected

/-- The plain value in a value, providers being asked in a slot; a missing one is null. -/
def strip (slot : Slot) : Injected → Injected
  | .empty => .null
  | .present inner => inner.strip slot
  | .claimValue _ inner => inner.strip slot
  | .provider p => (p.get slot).1.strip slot
  | .null => .null
  | .claim data => .claim data
  | .json value => .json value
termination_by v => v.depth
decreasing_by
  · exact Nat.lt_succ_self _
  · exact Nat.lt_succ_self _
  · exact Nat.lt_succ_of_le (depth_produce_le p.claim slot.join p.type)

/-- One wrapper is taken off, a provider by asking it in a slot. -/
inductive Unwraps (slot : Slot) : Injected → Injected → Prop
  | present (inner : Injected) : Unwraps slot (.present inner) inner
  | claimValue (name : String) (inner : Injected) : Unwraps slot (.claimValue name inner) inner
  | provider (p : Provider) : Unwraps slot (.provider p) (p.get slot).1

def carriedName? : Injected → Option String
  | .claimValue name _ => some name
  | .provider p => some p.claim
  | _ => none

theorem strip_of_unwraps {slot : Slot} {v w : Injected} (step : Unwraps slot v w) :
    v.strip slot = w.strip slot := by
  cases step with
  | present inner => rw [strip]
  | claimValue name inner => rw [strip]
  | provider p => rw [strip]

end Injected

open Injected (Unwraps strip_of_unwraps)

namespace Delivers

variable {plain : DeclaredType} {v : Injected}

theorem strip_eq (delivers : Delivers plain v) (slot : Slot) : v.strip slot = v := by
  cases delivers <;> rw [Injected.strip]

theorem not_unwraps (delivers : Delivers plain v) (slot : Slot) (w : Injected) :
    ¬ Unwraps slot v w := by
  intro step
  cases delivers <;> cases step

theorem carriedName?_eq (delivers : Delivers plain v) : v.carriedName? = none := by
  cases delivers <;> rfl

end Delivers

theorem strip_produce_optional (slot : Slot) (name : String) (token : Option Token)
    (inner : DeclaredType) :
    (produce name token (.optional inner)).strip slot = (produce name token inner).strip slot := by
  rw [produce]
  split
  · rename_i missing
    rw [missing, Injected.strip, Injected.strip]
  · exact strip_of_unwraps (.present _)

/-- The plain value of a claim is that of the token it was produced of, unless it comes from a
provider: then it is that of the token in the slot. -/
theorem strip_produce (slot : Slot) (name : String) (token : Option Token)
    (declared : DeclaredType) :
    (produce name token declared).strip slot =
      produce name (if declared.isDeferred then slot.join else token) declared.leaf := by
  induction declared generalizing token with
  | value type => exact (delivers_produce rfl name token).strip_eq slot
  | json type => exact (delivers_produce rfl name token).strip_eq slot
  | optional inner ih => exact (strip_produce_optional slot name token inner).trans (ih token)
  | claimValue inner ih => exact (strip_of_unwraps (.claimValue name _)).trans (ih token)
  | provider inner ih =>
    -- The token at hand is forgotten; what is asked later is produced of the one in the slot.
    have asked := ih slot.join
    rw [ite_self] at asked
    exact (strip_of_unwraps (.provider ⟨name, inner⟩)).trans asked

/-- A value that is produced for the claim, of whatever token and for whatever type. -/
def IsProduced (name : String) (v : Injected) : Prop :=
  ∃ token declared, v = produce name token declared

theorem isProduced_of_unwraps {slot : Slot} {name : String} {v w : Injected}
    (produced : IsProduced name v) (step : Unwraps slot v w) : IsProduced name w := by
  obtain ⟨token, declared, rfl⟩ := produced
  cases declared with
  | value type => exact absurd step ((delivers_produce rfl name token).not_unwraps slot w)
  | json type => exact absurd step ((delivers_produce rfl name token).not_unwraps slot w)
  | optional inner =>
    rw [produce] at step
    split at step
    · cases step
    · cases step
      exact ⟨token, inner, rfl⟩
  | claimValue inner =>
    cases step
    exact ⟨token, inner, rfl⟩
  | provider inner =>
    cases step
    exact ⟨slot.join, inner, rfl⟩

theorem isProduced_of_reaches {slot : Slot} {name : String} {v w : Injected}
    (produced : IsProduced name v) (reaches : Relation.ReflTransGen (Unwraps slot) v w) :
    IsProduced name w := by
  induction reaches with
  | refl => exact produced
  | tail _ step ih => exact isProduced_of_unwraps ih step

theorem carriedName?_of_isProduced {name carried : String} {v : Injected}
    (produced : IsProduced name v) (carries : v.carriedName? = some carried) : carried = name := by
  obtain ⟨token, declared, rfl⟩ := produced
  cases declared with
  | value type =>
    rw [(delivers_produce rfl name token).carriedName?_eq] at carries
    cases carries
  | json type =>
    rw [(delivers_produce rfl name token).carriedName?_eq] at carries
    cases carries
  | optional inner =>
    rw [produce] at carries
    split at carries <;> cases carries
  | claimValue inner =>
    cases carries
    rfl
  | provider inner =>
    cases carries
    rfl

/-- Whatever wrappers there are around a plain type, with or without a shape: what is produced of the
token in the slot strips to what is produced for the plain type, so that types with one plain type
never disagree, and every name on the way is that of the claim. A provider that was kept from
another request gives what is produced of the token of this one. -/
theorem shapes_agree (name : String) (declared : DeclaredType) (slot : Slot) :
    (produce name (Holder.current slot).1 declared).strip slot =
      produce name (Holder.current slot).1 declared.leaf ∧
    (∀ v, Relation.ReflTransGen (Unwraps slot) (produce name (Holder.current slot).1 declared) v →
      ∀ carried, v.carriedName? = some carried → carried = name) ∧
    (∀ other : DeclaredType, other.leaf = declared.leaf →
      (produce name (Holder.current slot).1 other).strip slot =
        (produce name (Holder.current slot).1 declared).strip slot) ∧
    ∀ kept : Option Token, ∃ p, produce name kept (.provider declared) = .provider p ∧
      p.claim = name ∧ p.get slot = (produce name (Holder.current slot).1 declared, slot) ∧
      (Injected.provider p).strip slot = produce name (Holder.current slot).1 declared.leaf := by
  have stripped (other : DeclaredType) : (produce name (Holder.current slot).1 other).strip slot =
      produce name (Holder.current slot).1 other.leaf := by
    have law := strip_produce slot name slot.join other
    rw [ite_self] at law
    exact law
  refine ⟨stripped declared, ?_, ?_, ?_⟩
  · intro v reaches carried carries
    have produced : IsProduced name (produce name (Holder.current slot).1 declared) :=
      ⟨_, _, rfl⟩
    exact carriedName?_of_isProduced (isProduced_of_reaches produced reaches) carries
  · intro other sameLeaf
    rw [stripped other, stripped declared, sameLeaf]
  · intro kept
    refine ⟨⟨name, declared⟩, rfl, rfl, rfl, ?_⟩
    exact strip_produce slot name kept (.provider declared)

private def deepLong : DeclaredType :=
  .optional (.claimValue (.provider (.optional (.optional (.claimValue (.value .long))))))

private def counting (n : WordInt) : Token := Token.ofPayload "t" (TextMap.ofList [("n", .int n)])

private def sevenHeld : Slot := some (some (counting (WordInt.ofInt64 7)))

/-- Under wrappers that have no shape together, a kept provider of another token included, the long
is that of the token in the slot, and all names are that of the claim. -/
theorem deep_long_of_slot :
    (produce "n" (Holder.current sevenHeld).1 deepLong).strip sevenHeld = .claim (.long 7) ∧
    (produce "n" (Holder.current sevenHeld).1 (.value .long)).strip sevenHeld =
      (produce "n" (Holder.current sevenHeld).1 deepLong).strip sevenHeld ∧
    (∀ v, Relation.ReflTransGen (Unwraps sevenHeld)
      (produce "n" (Holder.current sevenHeld).1 deepLong) v →
        ∀ carried, v.carriedName? = some carried → carried = "n") ∧
    ∃ p, produce "n" (some (counting (WordInt.ofInt64 8))) (.provider deepLong) = .provider p ∧
      (Injected.provider p).strip sevenHeld = .claim (.long 7) := by
  have long : produce "n" (Holder.current sevenHeld).1 (.value .long) = .claim (.long 7) := by rfl
  obtain ⟨stripped, named, agree, keeps⟩ := shapes_agree "n" deepLong sevenHeld
  obtain ⟨p, kept, _, _, later⟩ := keeps (some (counting (WordInt.ofInt64 8)))
  exact ⟨stripped.trans long, agree (.value .long) rfl, named, p, kept, later.trans long⟩

end BearerGate.Injection
