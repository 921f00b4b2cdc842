import BearerGate.Number.Double

/-!
Shortest decimal texts: the decimal number with the fewest digits that reads back as a given double,
and of those the nearest one.
-/

set_option autoImplicit false
set_option relaxedAutoImplicit false

namespace BearerGate.Double

structure Decimal where
  digits : Nat
  exponent : Int
  deriving DecidableEq, Repr

/-- The numbers that round to a double, counted in units of 2^-1075: a middle and two ends, which
belong to the range if the pattern is even. -/
structure Rounding where
  lower : Nat
  middle : Nat
  upper : Nat
  closed : Bool

def rounding (d : Double) : Rounding :=
  let field := d.unsigned / 2 ^ 52
  let gap := 1 <<< (field - 1)
  let below := if 1 < field ∧ d.unsigned % 2 ^ 52 = 0 then gap / 2 else gap
  ⟨2 * d.magnitude - below, 2 * d.magnitude, 2 * d.magnitude + gap, d.unsigned % 2 = 0⟩

/-- Whether `c · unit` lies in a range, where `middle · factor` and `c · unit` count the same. -/
def Rounding.admits (r : Rounding) (factor unit c : Nat) : Bool :=
  if r.closed then r.lower * factor ≤ c * unit && c * unit ≤ r.upper * factor
  else r.lower * factor < c * unit && c * unit < r.upper * factor

/-- The decimal number in a range that is nearest to its middle, among those with a power of ten. -/
def Rounding.onGrid (r : Rounding) (exponent : Int) : Option Decimal :=
  let factor := if exponent < 0 then Nat.pow 10 (-exponent).toNat else 1
  let unit := 2 ^ 1075 * (if exponent < 0 then 1 else Nat.pow 10 exponent.toNat)
  let value := r.middle * factor
  let q := value / unit
  match r.admits factor unit q, r.admits factor unit (q + 1) with
  | true, true =>
    if value - q * unit < (q + 1) * unit - value then some ⟨q, exponent⟩
    else some ⟨q + 1, exponent⟩
  | true, false => some ⟨q, exponent⟩
  | false, true => some ⟨q + 1, exponent⟩
  | false, false => none

def shortest (d : Double) : Decimal :=
  let r := d.rounding
  let scale : Int := (Nat.toDigits 10 (r.middle * 10 ^ 400 / 2 ^ 1075)).length - 400
  ((List.range 17).findSome? fun (n : Nat) => r.onGrid (scale - n - 1)).getD ⟨0, 0⟩

def Decimal.trimmed (x : Decimal) : List Char × Int :=
  let digits := Nat.toDigits 10 x.digits
  let kept := (digits.reverse.dropWhile (· == '0')).reverse
  (kept, x.exponent + (digits.length - kept.length : Nat))

def positional (digits : List Char) (exponent : Int) : List Char :=
  if 0 ≤ exponent then digits ++ List.replicate exponent.toNat '0' ++ ['.', '0']
  else
    let places := (-exponent).toNat
    let filled := List.replicate (places + 1 - digits.length) '0' ++ digits
    filled.take (filled.length - places) ++ '.' :: filled.drop (filled.length - places)

def scientific (digits : List Char) (exponent : Int) : List Char :=
  let power : Int := exponent + digits.length - 1
  digits.take 1 ++ (if digits.length ≤ 1 then [] else '.' :: digits.drop 1) ++
    'e' :: (toString power).toList

/-- The shortest text of a double: positional from 10^-4 and below 10^16. -/
def display (d : Double) : String :=
  let sign := if d.isNegative then "-" else ""
  if d.unsigned > infinityPattern then "NaN"
  else if d.unsigned = infinityPattern then sign ++ "inf"
  else if d.unsigned = 0 then sign ++ "0.0"
  else
    let (digits, exponent) := d.shortest.trimmed
    let size := exponent + digits.length
    sign ++ String.ofList
      (if -4 < size ∧ size ≤ 16 then positional digits exponent else scientific digits exponent)

end BearerGate.Double
