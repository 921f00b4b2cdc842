import Mathlib.Algebra.Group.Nat.Defs
import BearerGate.Json.Basic

/-!
Doubles of integers. The pattern of a double counts its exponent and the 53 leading bits of its
magnitude together, so that a round-up into the next power of two needs no case of its own. Main
statement: the double of an integer is the nearest one that keeps 53 leading bits, a tie going to an
even last bit, and it is finite for all integers of 64 bits.
-/

set_option autoImplicit false
set_option relaxedAutoImplicit false

namespace BearerGate.Double

/-- No natural number is nearer to a ratio, and in a tie the number is even. -/
structure IsNearest (num den r : Nat) : Prop where
  notBelow : 2 * num ≤ (2 * r + 1) * den
  notAbove : 2 * r * den ≤ 2 * num + den
  tie : 2 * num = (2 * r + 1) * den ∨ 2 * r * den = 2 * num + den → r % 2 = 0

theorem isNearest_roundRatio (num : Nat) {den : Nat} (pos : 0 < den) :
    IsNearest num den (roundRatio num den) := by
  have whole : den * (num / den) + num % den = num := Nat.div_add_mod num den
  have less : num % den < den := Nat.mod_lt num pos
  unfold roundRatio
  generalize num / den = q at whole
  generalize num % den = r at whole less
  have below : (2 * q + 1) * den = 2 * (den * q) + den := by
    rw [Nat.add_mul, Nat.one_mul, Nat.mul_assoc, Nat.mul_comm q]
  have twice : 2 * q * den = 2 * (den * q) := by
    rw [Nat.mul_assoc, Nat.mul_comm q]
  have above : (2 * (q + 1) + 1) * den = 2 * (den * q) + 3 * den := by
    rw [Nat.mul_add, Nat.add_assoc, Nat.add_mul, twice]
  have next : 2 * (q + 1) * den = 2 * (den * q) + 2 * den := by
    rw [Nat.mul_add, Nat.add_mul, twice]
  dsimp only
  split
  · exact ⟨by omega, by omega, by omega⟩
  · split
    · exact ⟨by omega, by omega, by omega⟩
    · split
      · exact ⟨by omega, by omega, by omega⟩
      · exact ⟨by omega, by omega, by omega⟩

theorem roundRatio_mul_right (num den : Nat) {c : Nat} (pos : 0 < c) :
    roundRatio (num * c) (den * c) = roundRatio num den := by
  have scaled (r : Nat) : 2 * (r * c) = (2 * r) * c := (Nat.mul_assoc ..).symm
  simp only [roundRatio, Nat.mul_div_mul_right _ _ pos, Nat.mul_mod_mul_right, scaled,
    Nat.mul_lt_mul_right pos]

theorem roundRatio_one (n : Nat) : roundRatio n 1 = n := by
  simp [roundRatio, Nat.mod_one]

theorem roundRatio_cases (num den : Nat) :
    roundRatio num den = num / den ∨ roundRatio num den = num / den + 1 := by
  unfold roundRatio
  dsimp only
  split
  · exact .inl rfl
  · split
    · exact .inr rfl
    · split
      · exact .inl rfl
      · exact .inr rfl

theorem le_roundRatio {low num den : Nat} (pos : 0 < den) (le : low * den ≤ num) :
    low ≤ roundRatio num den := by
  have least : low ≤ num / den := (Nat.le_div_iff_mul_le pos).mpr le
  rcases roundRatio_cases num den with same | same <;> omega

theorem roundRatio_le {high num den : Nat} (pos : 0 < den) (less : num < high * den) :
    roundRatio num den ≤ high := by
  have most : num / den < high := (Nat.div_lt_iff_lt_mul pos).mpr less
  rcases roundRatio_cases num den with same | same <;> omega

theorem toNat_ofPattern (negative : Bool) {pattern : Nat} (small : pattern < 2 ^ 63) :
    (ofPattern negative pattern).bits.toNat = (if negative then 2 ^ 63 else 0) + pattern := by
  rw [ofPattern, UInt64.toNat_ofNat_of_lt']
  change _ < 2 ^ 64
  split <;> omega

theorem unsigned_ofPattern (negative : Bool) {pattern : Nat} (small : pattern < 2 ^ 63) :
    (ofPattern negative pattern).unsigned = pattern := by
  rw [unsigned, toNat_ofPattern negative small]
  split <;> omega

theorem isNegative_ofPattern (negative : Bool) {pattern : Nat} (small : pattern < 2 ^ 63) :
    (ofPattern negative pattern).isNegative = negative := by
  rw [isNegative, toNat_ofPattern negative small]
  cases negative
  · exact decide_eq_false (by rw [if_neg Bool.false_ne_true]; omega)
  · exact decide_eq_true (by rw [if_pos rfl]; omega)

/-- The number of a pattern that counts an exponent and the leading bits together, which may be a
power of two that has one more of them. -/
theorem magnitude_of_unsigned {d : Double} {shift leading : Nat}
    (pattern : d.unsigned = shift * 2 ^ 52 + leading) (low : 2 ^ 52 ≤ leading)
    (high : leading ≤ 2 ^ 53) : d.magnitude = leading * 2 ^ shift := by
  rw [magnitude, pattern]
  -- With a carry the exponent counts one more and the fraction is zero.
  by_cases carry : leading = 2 ^ 53
  · have exponent : (shift * 2 ^ 52 + leading) / 2 ^ 52 = shift + 2 := by omega
    have fraction : (shift * 2 ^ 52 + leading) % 2 ^ 52 = 0 := by omega
    rw [exponent, fraction, if_neg (by omega), Nat.shiftLeft_eq, carry, Nat.add_zero,
      show shift + 2 - 1 = 1 + shift by omega, Nat.pow_add 2 1 shift, ← Nat.mul_assoc]
  · have exponent : (shift * 2 ^ 52 + leading) / 2 ^ 52 = shift + 1 := by omega
    have fraction : 2 ^ 52 + (shift * 2 ^ 52 + leading) % 2 ^ 52 = leading := by omega
    rw [exponent, if_neg (by omega), fraction, Nat.shiftLeft_eq, Nat.add_sub_cancel]

theorem log2_mul_two_pow {n : Nat} (ne : n ≠ 0) (k : Nat) : (n * 2 ^ k).log2 = n.log2 + k := by
  have low := Nat.mul_le_mul_right (2 ^ k) (Nat.log2_self_le ne)
  have high := Nat.mul_lt_mul_of_pos_right (Nat.lt_log2_self (n := n)) (Nat.two_pow_pos k)
  rw [← Nat.pow_add] at low high
  have above : n.log2 + 1 + k = n.log2 + k + 1 := by omega
  have positive := Nat.mul_ne_zero ne (Nat.ne_of_gt (Nat.two_pow_pos k))
  exact (Nat.log2_eq_iff positive).mpr ⟨low, above ▸ high⟩

section OfNat

variable {a : Nat}

/-- The leading bits of an integer, with one more where rounding carries. -/
def leading (a : Nat) : Nat := roundRatio (a * 2 ^ 1074) (2 ^ (a.log2 + 1022))

theorem patternOfRatio_integer (ne : a ≠ 0) :
    patternOfRatio (a * 2 ^ 1074) 1 = (a.log2 + 1022) * 2 ^ 52 + leading a := by
  have bits : (a * 2 ^ 1074).log2 = a.log2 + 1074 := by simp only [log2_mul_two_pow ne]
  have shift : a.log2 + 1074 - 52 = a.log2 + 1022 := by omega
  rw [patternOfRatio, Nat.div_one, bits, shift, Nat.one_shiftLeft, leading]

theorem le_leading (ne : a ≠ 0) : 2 ^ 52 ≤ leading a := by
  refine le_roundRatio (Nat.two_pow_pos _) ?_
  have low : 2 ^ a.log2 * 2 ^ 1074 ≤ a * 2 ^ 1074 :=
    Nat.mul_le_mul_right _ (Nat.log2_self_le ne)
  have same : 52 + (a.log2 + 1022) = a.log2 + 1074 := by omega
  rwa [← Nat.pow_add 2 52, same, Nat.pow_add 2 a.log2]

theorem leading_le (a : Nat) : leading a ≤ 2 ^ 53 := by
  refine roundRatio_le (Nat.two_pow_pos _) ?_
  have high := Nat.mul_lt_mul_of_pos_right (Nat.lt_log2_self (n := a)) (Nat.two_pow_pos 1074)
  have same : 53 + (a.log2 + 1022) = a.log2 + 1 + 1074 := by omega
  rwa [← Nat.pow_add 2 53, same, Nat.pow_add 2 (a.log2 + 1)]

theorem leading_mul (a : Nat) : leading a * 2 ^ (a.log2 + 1022) =
    roundRatio a (2 ^ (a.log2 - 52)) * 2 ^ (a.log2 - 52) * 2 ^ 1074 := by
  rw [leading]
  -- An integer of at most 53 bits is a multiple of the last place, and nothing is rounded.
  by_cases long : 52 ≤ a.log2
  · have split : a.log2 + 1022 = a.log2 - 52 + 1074 := by omega
    rw [split, Nat.pow_add 2 (a.log2 - 52), roundRatio_mul_right _ _ (Nat.two_pow_pos 1074),
      Nat.mul_assoc]
  · have split : 1074 = 52 - a.log2 + (a.log2 + 1022) := by omega
    have whole : a * 2 ^ 1074 = a * 2 ^ (52 - a.log2) * 2 ^ (a.log2 + 1022) := by
      rw [Nat.mul_assoc, ← Nat.pow_add, ← split]
    have scaled := roundRatio_mul_right (a * 2 ^ (52 - a.log2)) 1 (Nat.two_pow_pos (a.log2 + 1022))
    rw [Nat.one_mul, roundRatio_one] at scaled
    have none : a.log2 - 52 = 0 := by omega
    rw [whole, scaled, ← whole, none, Nat.pow_zero, roundRatio_one, Nat.mul_one]

end OfNat

theorem unsigned_ofInt {n : Int} (ne : n ≠ 0) (exponent : n.natAbs.log2 < 1023) :
    (ofInt n).unsigned = (n.natAbs.log2 + 1022) * 2 ^ 52 + leading n.natAbs ∧
      (ofInt n).unsigned < infinityPattern ∧ (ofInt n).isNegative = decide (n < 0) := by
  have positive : n.natAbs ≠ 0 := Int.natAbs_ne_zero.mpr ne
  have high := leading_le n.natAbs
  have finite : (n.natAbs.log2 + 1022) * 2 ^ 52 + leading n.natAbs < infinityPattern := by
    rw [infinityPattern]
    omega
  have number : ofInt n =
      ofPattern (n < 0) ((n.natAbs.log2 + 1022) * 2 ^ 52 + leading n.natAbs) := by
    rw [ofInt, ofRatio, patternOfRatio_integer positive, Nat.min_eq_left (Nat.le_of_lt finite)]
  have below : (n.natAbs.log2 + 1022) * 2 ^ 52 + leading n.natAbs < 2 ^ 63 :=
    Nat.lt_trans finite (by decide)
  rw [number, unsigned_ofPattern _ below, isNegative_ofPattern _ below]
  exact ⟨rfl, finite, rfl⟩

/-- The double of an integer is the nearest one that keeps the leading bits. -/
theorem denotes_ofInt {n m : Int} (ne : n ≠ 0) (exponent : n.natAbs.log2 < 1023)
    (sameSign : m < 0 ↔ n < 0)
    (rounded : m.natAbs = roundRatio n.natAbs (2 ^ (n.natAbs.log2 - 52)) *
      2 ^ (n.natAbs.log2 - 52)) : (ofInt n).Denotes m := by
  obtain ⟨pattern, finite, sign⟩ := unsigned_ofInt ne exponent
  have low := le_leading (Int.natAbs_ne_zero.mpr ne)
  refine ⟨decide_eq_true finite, ?_, ?_⟩
  · rw [magnitude_of_unsigned pattern low (leading_le _), leading_mul, rounded]
  · rw [sign, decide_eq_true_iff, sameSign]

theorem isFinite_ofInt {n : Int} (exponent : n.natAbs.log2 < 1023) :
    (ofInt n).isFinite = true := by
  by_cases zero : n = 0
  · subst zero
    decide +kernel
  · exact decide_eq_true (unsigned_ofInt zero exponent).2.1

theorem exists_denotes_wide {n : WordInt} (wide : 2 ^ 63 ≤ n.value) :
    ∃ k, IsNearest n.value.natAbs 2048 k ∧ (ofInt n.value).Denotes ((2048 * k : Nat) : Int) := by
  have upper := n.upper
  have log : n.value.natAbs.log2 = 63 := (Nat.log2_eq_iff (by omega)).mpr ⟨by omega, by omega⟩
  refine ⟨_, isNearest_roundRatio _ (by decide), denotes_ofInt (by omega) (by omega) (by omega)
    ?_⟩
  have width : 2 ^ (n.value.natAbs.log2 - 52) = 2048 :=
    (congrArg (fun k => 2 ^ (k - 52)) log).trans (by decide)
  rw [width, Int.natAbs_natCast, Nat.mul_comm]

end BearerGate.Double
