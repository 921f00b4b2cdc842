import BearerGate.Proofs.DeliveryShapes
import BearerGate.Proofs.IntegerDoubles

/-!
Longs where doubles are wanted. A long of at most 53 bits, or 2^53 itself with either sign, is a
double, and is delivered as that; any other one is withheld. Main statement: a widened long is the
same number or none, under all wrappers, so that two longs never become one double.
-/

set_option autoImplicit false
set_option relaxedAutoImplicit false

namespace BearerGate

namespace Double

/-- Up to the bound no bit of an integer lies beyond the leading ones, or only a zero does. -/
theorem roundRatio_of_le {a : Nat} (small : a ≤ 2 ^ 53) :
    roundRatio a (2 ^ (a.log2 - 52)) * 2 ^ (a.log2 - 52) = a := by
  by_cases bound : a = 2 ^ 53
  · subst bound
    decide +kernel
  · have bits : a.log2 - 52 = 0 := by
      by_cases zero : a = 0
      · subst zero
        rfl
      · have := (Nat.log2_lt zero).mpr (show a < 2 ^ 53 by omega)
        omega
    rw [bits, Nat.pow_zero, roundRatio_one, Nat.mul_one]

theorem denotes_ofInt_of_le {n : Int} (small : n.natAbs ≤ 2 ^ 53) : (ofInt n).Denotes n := by
  by_cases zero : n = 0
  · subst zero
    exact ⟨by decide +kernel, by decide +kernel, by decide +kernel⟩
  · have exponent : n.natAbs.log2 < 1023 := by
      have := (Nat.log2_lt (k := 54) (Int.natAbs_ne_zero.mpr zero)).mpr (by omega)
      omega
    exact denotes_ofInt zero exponent Iff.rfl (roundRatio_of_le small).symm

theorem Denotes.unique {d : Double} {n m : Int} (denotes : d.Denotes n) (denotes' : d.Denotes m) :
    n = m := by
  obtain ⟨_, magnitude, sign⟩ := denotes
  obtain ⟨_, magnitude', sign'⟩ := denotes'
  have size : n.natAbs = m.natAbs :=
    Nat.eq_of_mul_eq_mul_right (Nat.two_pow_pos 1074) (magnitude.symm.trans magnitude')
  have sides : n < 0 ↔ m < 0 := sign.symm.trans sign'
  omega

end Double

namespace Injection

open Claim (Data)

def Widens (n : Int64) : Option Double → Prop
  | some d => n.toInt.natAbs ≤ 2 ^ 53 ∧ d.Denotes n.toInt
  | none => 2 ^ 53 < n.toInt.natAbs

theorem widens_exactDouble? (n : Int64) : Widens n (exactDouble? n) := by
  rw [exactDouble?, exactLimit]
  split
  · rename_i small
    exact ⟨small, Double.denotes_ofInt_of_le small⟩
  · rename_i great
    exact Nat.lt_of_not_le great

/-- A value that is produced of a long claim for a type with the plain type of doubles. If there is
a provider in the type, it is asked in a slot that holds the token of the claim. -/
inductive Widened (n : Int64) (slot : Slot) : Injected → Prop
  | produced {name : String} {token : Token} {declared : DeclaredType}
    (long : token.claim? name = some (.long n)) (double : declared.leaf = .value .double)
    (held : declared.isDeferred = true → slot.join = some token) :
    Widened n slot (produce name (some token) declared)

theorem produce_double_of_long {name : String} {token : Token} {n : Int64}
    (long : token.claim? name = some (.long n)) :
    produce name (some token) (.value .double) =
      (exactDouble? n).elim .null fun d => .claim (.double d) := by
  rw [produce_value_eq_elim, Option.bind_some, long, Option.bind_some, coerce]
  cases exactDouble? n <;> rfl

section

variable {n : Int64} {slot : Slot} {v : Injected}

theorem Widened.strip_eq (widened : Widened n slot v) :
    v.strip slot = (exactDouble? n).elim .null fun d => .claim (.double d) := by
  obtain @⟨name, token, declared, long, double, held⟩ := widened
  have asked : (if declared.isDeferred then slot.join else some token) = some token := by
    split
    · rename_i deferred
      exact held deferred
    · rfl
  rw [strip_produce, asked, double, produce_double_of_long long]

/-- A long claim that is produced as a double is withheld exactly if its magnitude is beyond 2^53,
and otherwise the double is the same integer, whatever wrappers there are. So no other long is ever
delivered as that double. -/
theorem widened_exact_or_withheld (widened : Widened n slot v) :
    (v.strip slot = .null ↔ 2 ^ 53 < n.toInt.natAbs) ∧
    (v.strip slot ≠ .null → ∃ d, v.strip slot = .claim (.double d) ∧ d.Denotes n.toInt ∧
      ∀ m slot' w, Widened m slot' w → w.strip slot' = .claim (.double d) → m = n) := by
  have widens := widens_exactDouble? n
  rw [widened.strip_eq]
  cases exact : exactDouble? n with
  | none =>
    rw [exact] at widens
    exact ⟨iff_of_true rfl widens, fun delivered => absurd rfl delivered⟩
  | some d =>
    rw [exact] at widens
    obtain ⟨small, denotes⟩ := widens
    refine ⟨iff_of_false nofun (Nat.not_lt.mpr small), fun _ => ⟨d, rfl, denotes, ?_⟩⟩
    intro m slot' w widened' same
    have widens' := widens_exactDouble? m
    rw [widened'.strip_eq] at same
    cases exact' : exactDouble? m with
    | none =>
      rw [exact'] at same
      cases same
    | some d' =>
      rw [exact'] at same widens'
      cases same
      exact Int64.toInt_inj.mp (widens'.2.unique denotes)

end

private def amount (n : Int) : Token :=
  Token.ofPayload "t" (TextMap.ofList [("n", .int (WordInt.ofInt64 (Int64.ofInt n)))])

private def namedDouble : DeclaredType := .provider (.claimValue (.optional (.value .double)))

/-- The bound itself is delivered with either sign, by a provider as well as plain; the next integer
and the least long are withheld. -/
theorem longs_about_the_bound :
    (∃ d, (produce "n" (some (amount (2 ^ 53))) namedDouble).strip (some (some (amount (2 ^ 53)))) =
      .claim (.double d) ∧ d.Denotes (2 ^ 53)) ∧
    (∃ d, (produce "n" (some (amount (-2 ^ 53))) (.value .double)).strip none =
      .claim (.double d) ∧ d.Denotes (-2 ^ 53)) ∧
    (produce "n" (some (amount (2 ^ 53 + 1))) (.optional (.value .double))).strip none = .null ∧
    (produce "n" (some (amount (-2 ^ 63))) (.value .double)).strip none = .null := by
  have deferred : Widened (Int64.ofInt (2 ^ 53)) (some (some (amount (2 ^ 53))))
      (produce "n" (some (amount (2 ^ 53))) namedDouble) :=
    .produced (by rfl) rfl fun _ => rfl
  have below : Widened (Int64.ofInt (-2 ^ 53)) none
      (produce "n" (some (amount (-2 ^ 53))) (.value .double)) :=
    .produced (by rfl) rfl nofun
  have beyond : Widened (Int64.ofInt (2 ^ 53 + 1)) none
      (produce "n" (some (amount (2 ^ 53 + 1))) (.optional (.value .double))) :=
    .produced (by rfl) rfl nofun
  have least : Widened (Int64.ofInt (-2 ^ 63)) none
      (produce "n" (some (amount (-2 ^ 63))) (.value .double)) :=
    .produced (by rfl) rfl nofun
  refine ⟨?_, ?_, ?_, ?_⟩
  · obtain ⟨withheld, delivered⟩ := widened_exact_or_withheld deferred
    obtain ⟨d, same, denotes, _⟩ := delivered (mt withheld.mp (by decide))
    exact ⟨d, same, denotes⟩
  · obtain ⟨withheld, delivered⟩ := widened_exact_or_withheld below
    obtain ⟨d, same, denotes, _⟩ := delivered (mt withheld.mp (by decide))
    exact ⟨d, same, denotes⟩
  · exact (widened_exact_or_withheld beyond).1.mpr (by decide)
  · exact (widened_exact_or_withheld least).1.mpr (by decide)

end Injection

end BearerGate
