/-!
Base64: four digits for three bytes. A last group of two or three digits stands for one or two
bytes, and the bits that it has to spare must be zero, so each byte list has one written form.
-/

set_option autoImplicit false
set_option relaxedAutoImplicit false

namespace BearerGate.Text.Base64

/-- The two digits in which the alphabets differ. -/
structure Alphabet where
  digit62 : Char
  digit63 : Char

def standard : Alphabet := ⟨'+', '/'⟩

def urlSafe : Alphabet := ⟨'-', '_'⟩

def Alphabet.value? (a : Alphabet) (c : Char) : Option Nat :=
  if 'A' ≤ c ∧ c ≤ 'Z' then some (c.toNat - 'A'.toNat)
  else if 'a' ≤ c ∧ c ≤ 'z' then some (c.toNat - 'a'.toNat + 26)
  else if '0' ≤ c ∧ c ≤ '9' then some (c.toNat - '0'.toNat + 52)
  else if c = a.digit62 then some 62
  else if c = a.digit63 then some 63
  else none

def bytesOfValues : List Nat → Option (List UInt8)
  | [] => some []
  | [_] => none
  | [a, b] => if b % 16 = 0 then some [UInt8.ofNat (a * 4 + b / 16)] else none
  | [a, b, c] =>
    if c % 4 = 0 then
      some [UInt8.ofNat (a * 4 + b / 16), UInt8.ofNat (b % 16 * 16 + c / 4)]
    else none
  | a :: b :: c :: d :: rest =>
    (bytesOfValues rest).map fun bytes =>
      UInt8.ofNat (a * 4 + b / 16) :: UInt8.ofNat (b % 16 * 16 + c / 4) ::
        UInt8.ofNat (c % 4 * 64 + d) :: bytes

def decodeUnpadded? (a : Alphabet) (cs : List Char) : Option (List UInt8) :=
  (cs.mapM a.value?).bind bytesOfValues

/-- The bytes of a text whose last group is filled up to four characters with equals signs. -/
def decodePadded? (a : Alphabet) (cs : List Char) : Option (List UInt8) :=
  let digits := (cs.reverse.dropWhile (· == '=')).reverse
  if cs.length % 4 = 0 ∧ cs.length - digits.length ≤ 2 then decodeUnpadded? a digits else none

end BearerGate.Text.Base64
