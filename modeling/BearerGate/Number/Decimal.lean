import BearerGate.Json.Number
import BearerGate.Json.Printer

/-!
Decimal numbers with an optional sign, fraction and exponent, as settings write them. At least one
digit stands before or after the point.
-/

set_option autoImplicit false
set_option relaxedAutoImplicit false

namespace BearerGate

structure Decimal where
  negative : Bool
  digits : Nat
  exponent : Int
  deriving DecidableEq, Repr

namespace Decimal

def fractionDigits : List Char → List Char × List Char
  | '.' :: rest => Json.spanDigits rest
  | cs => ([], cs)

def ofChars? (cs : List Char) : Option Decimal :=
  let (negative, cs) := Json.readSign cs
  let (whole, rest) := Json.spanDigits cs
  let (fraction, rest) := fractionDigits rest
  if whole.isEmpty && fraction.isEmpty then none
  else match Json.readExponent rest with
    | some (exponent, []) =>
      some ⟨negative, Json.digitsValue (whole ++ fraction), exponent.getD 0 - fraction.length⟩
    | _ => none

/-- The least magnitude that rounds to an infinite double. -/
def infinityBound : Nat := 2 ^ 1024 - 2 ^ 970

/-- Whether the nearest double is finite. Numbers with more than 309 digits before the point are
too great, so that no greater power of ten is ever computed. -/
def isFinite (d : Decimal) : Bool :=
  let places : Int := (Json.printNat d.digits).length + d.exponent
  d.digits == 0 || places < 309 ||
    (places == 309 &&
      if 0 ≤ d.exponent then d.digits * Nat.pow 10 d.exponent.toNat < infinityBound
      else d.digits < infinityBound * Nat.pow 10 (-d.exponent).toNat)

end Decimal

end BearerGate
