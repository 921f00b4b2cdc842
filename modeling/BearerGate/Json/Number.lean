import BearerGate.Json.Basic

/-!
Numbers in JSON texts. Only as many leading digits count as fit in 64 bits. A number with a fraction
or an exponent, or one that is too long for an integer, is the double of these digits times or
divided by the double of a power of ten, each step rounded by itself.
-/

set_option autoImplicit false
set_option relaxedAutoImplicit false

namespace BearerGate.Json

/-- A reader of the first part of a text. -/
abbrev Reader (α : Type) := List Char → Option (α × List Char)

def digitValue (c : Char) : Nat := c.toNat - '0'.toNat

def spanDigits (cs : List Char) : List Char × List Char :=
  (cs.takeWhile Char.isDigit, cs.dropWhile Char.isDigit)

/-- Append digits to a number as long as it fits in 64 bits: the number, and how many digits were
appended. -/
def appendDigits : Nat → List Char → Nat × Nat
  | n, [] => (n, 0)
  | n, c :: rest =>
    let next := n * 10 + digitValue c
    if next < 2 ^ 64 then
      let (value, count) := appendDigits next rest
      (value, count + 1)
    else (n, 0)

def digitsValue (cs : List Char) : Nat := cs.foldl (fun n c => n * 10 + digitValue c) 0

/-- The digits of the whole part of a number: a zero, or digits that begin with another one. -/
def readWhole : Reader (List Char)
  | '0' :: rest => some (['0'], rest)
  | cs => match spanDigits cs with
    | ([], _) => none
    | (digits, rest) => some (digits, rest)

def readFraction : Reader (Option (List Char))
  | '.' :: rest => match spanDigits rest with
    | ([], _) => none
    | (digits, rest) => some (some digits, rest)
  | cs => some (none, cs)

/-- The sign before the digits of an exponent; true stands for minus. -/
def readSign : List Char → Bool × List Char
  | '+' :: rest => (false, rest)
  | '-' :: rest => (true, rest)
  | cs => (false, cs)

def readExponent : Reader (Option Int)
  | 'e' :: rest => exponent rest
  | 'E' :: rest => exponent rest
  | cs => some (none, cs)
where
  exponent (cs : List Char) : Option (Option Int × List Char) :=
    match spanDigits (readSign cs).2 with
    | ([], _) => none
    | (digits, rest) =>
      let n : Int := digitsValue digits
      some (some (if (readSign cs).1 then -n else n), rest)

/-- A number that fits in 64 bits times a power of ten. Powers below 10^-308 are divided by in two
steps, and below 10^-616 nothing is left; above 10^308 only zero has a double. -/
def scaled (digits : Nat) (exponent : Int) : Double :=
  let d := Double.ofInt digits
  if exponent < -616 then Double.ofInt 0
  else if exponent < -308 then
    (d.quotient (Double.powerOfTen 308)).quotient (Double.powerOfTen (-exponent - 308).toNat)
  else if exponent < 0 then d.quotient (Double.powerOfTen (-exponent).toNat)
  else if exponent ≤ 308 then d.product (Double.powerOfTen exponent.toNat)
  else if digits = 0 then Double.ofInt 0
  else Double.ofPattern false Double.infinityPattern

/-- The number with the given parts; none if it is too great for a double. Without fraction and
exponent it is an integer if it fits in 64 bits, but minus zero is a double. -/
def numberOfParts (negative : Bool) (whole : List Char) (fraction : Option (List Char))
    (exponent : Option Int) : Option Json :=
  let leading := appendDigits 0 whole
  let all := appendDigits leading.1 (fraction.getD [])
  let power : Int := (whole.length : Int) - leading.2 - all.2 + exponent.getD 0
  let double := (FiniteDouble.ofDouble? ((scaled all.1 power).withSign negative)).map Json.double
  if fraction.isSome || exponent.isSome || leading.2 != whole.length ||
      (negative && leading.1 == 0) then double
  else match WordInt.ofInt? (if negative then -leading.1 else leading.1) with
    | some n => some (.int n)
    | none => double

def readNumber : Reader Json := fun cs => do
  let (negative, cs) := match cs with
    | '-' :: rest => (true, rest)
    | _ => (false, cs)
  let (whole, cs) ← readWhole cs
  let (fraction, cs) ← readFraction cs
  let (exponent, cs) ← readExponent cs
  let number ← numberOfParts negative whole fraction exponent
  return (number, cs)

end BearerGate.Json
