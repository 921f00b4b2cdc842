import BearerGate.Number.Power

/-!
Binary numbers of 64 bits, as bit patterns. The magnitude of a finite number is counted in units of
2^-1074, the distance between the smallest ones, so that every operation here is exact arithmetic on
natural numbers; ratios round to the nearest number, a tie to the one with an even pattern.
-/

set_option autoImplicit false
set_option relaxedAutoImplicit false

namespace BearerGate

structure Double where
  bits : UInt64
  deriving DecidableEq, Repr

namespace Double

def isNegative (d : Double) : Bool := 2 ^ 63 ≤ d.bits.toNat

def unsigned (d : Double) : Nat := d.bits.toNat % 2 ^ 63

/-- The pattern of infinity; greater ones are no numbers. -/
def infinityPattern : Nat := 0x7FF * 2 ^ 52

def isFinite (d : Double) : Bool := d.unsigned < infinityPattern

/-- The magnitude of a finite number in units of 2^-1074. -/
def magnitude (d : Double) : Nat :=
  let exponent := d.unsigned / 2 ^ 52
  let fraction := d.unsigned % 2 ^ 52
  if exponent = 0 then fraction else (2 ^ 52 + fraction) <<< (exponent - 1)

def ofPattern (negative : Bool) (pattern : Nat) : Double :=
  ⟨UInt64.ofNat ((if negative then 2 ^ 63 else 0) + pattern)⟩

/-- The nearest natural number to a ratio, a tie going to the even one. -/
def roundRatio (num den : Nat) : Nat :=
  let q := num / den
  let r := num % den
  if 2 * r < den then q
  else if den < 2 * r then q + 1
  else if q % 2 = 0 then q else q + 1

/-- The pattern of the number nearest to `num / den` units of 2^-1074. A ratio of at least 2^53
units keeps its 53 leading bits. -/
def patternOfRatio (num den : Nat) : Nat :=
  let whole := num / den
  let shift := whole.log2 - 52
  shift * 2 ^ 52 + roundRatio num (den <<< shift)

def ofRatio (negative : Bool) (num den : Nat) : Double :=
  ofPattern negative (min (patternOfRatio (num * 2 ^ 1074) den) infinityPattern)

def ofInt (n : Int) : Double := ofRatio (n < 0) n.natAbs 1

def withSign (negative : Bool) (d : Double) : Double := ofPattern negative d.unsigned

/-- The number nearest to the product of two finite numbers that are not below zero. -/
def product (a b : Double) : Double := ofRatio false (a.magnitude * b.magnitude) (2 ^ 2148)

/-- The number nearest to the quotient of two finite numbers above zero, or of zero and one. -/
def quotient (a b : Double) : Double := ofRatio false a.magnitude b.magnitude

def powerOfTen (n : Nat) : Double := ofRatio false (Nat.pow 10 n) 1

/-- The nearest natural number to a finite number that is not below zero, a half going up. -/
def roundHalfUp (d : Double) : Nat := (d.magnitude + 2 ^ 1073) / 2 ^ 1074

/-- A finite number that is the same as an integer. -/
def Denotes (d : Double) (n : Int) : Prop :=
  d.isFinite = true ∧ d.magnitude = n.natAbs * 2 ^ 1074 ∧ (d.isNegative = true ↔ n < 0)

def hex (d : Double) : String :=
  let digits := Nat.toDigits 16 d.bits.toNat
  String.ofList (List.replicate (16 - digits.length) '0' ++ digits)

end Double

end BearerGate
