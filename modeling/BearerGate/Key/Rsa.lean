import BearerGate.Key.Sha256
import BearerGate.Number.Power

/-!
Signatures by RSA over a SHA-256 digest, with the padding that fills a block with ones. A key is
read from its canonical bytes alone, and a signature must be as long as the modulus.
-/

set_option autoImplicit false
set_option relaxedAutoImplicit false

namespace BearerGate.Key.Rsa

structure PublicKey where
  modulus : Nat
  exponent : Nat
  deriving DecidableEq, Repr

def natOfBytes (bytes : List UInt8) : Nat := bytes.foldl (fun n b => n * 256 + b.toNat) 0

def bytesOfNat : Nat → Nat → List UInt8
  | 0, _ => []
  | count + 1, n => bytesOfNat count (n / 256) ++ [UInt8.ofNat n]

def byteSize (n : Nat) : Nat := if n = 0 then 0 else n.log2 / 8 + 1

def readLength : List UInt8 → Option (Nat × List UInt8)
  | [] => none
  | b :: rest =>
    if b.toNat < 128 then some (b.toNat, rest)
    else
      let count := b.toNat - 128
      let size := natOfBytes (rest.take count)
      if 1 ≤ count ∧ count ≤ 4 ∧ count ≤ rest.length ∧ 128 ≤ size ∧ byteSize size = count then
        some (size, rest.drop count)
      else none

def readTagged (tag : UInt8) : List UInt8 → Option (List UInt8 × List UInt8)
  | [] => none
  | b :: rest =>
    if b = tag then do
      let (size, rest) ← readLength rest
      if rest.length < size then none else some (rest.take size, rest.drop size)
    else none

/-- The number of the shortest bytes that write it without looking negative. -/
def unsignedOf : List UInt8 → Option Nat
  | [] => none
  | [b] => if b.toNat < 128 then some b.toNat else none
  | a :: b :: rest =>
    if 128 ≤ a.toNat ∨ (a = 0 ∧ b.toNat < 128) then none else some (natOfBytes (a :: b :: rest))

/-- The key that bytes write: a sequence of modulus and exponent, and nothing else. -/
def parse? (bytes : List UInt8) : Option PublicKey := do
  let (body, rest) ← readTagged 0x30 bytes
  let (modulus, body) ← readTagged 0x02 body
  let (exponent, body) ← readTagged 0x02 body
  if rest = [] ∧ body = [] then return ⟨← unsignedOf modulus, ← unsignedOf exponent⟩ else none

/-- Whether a key can be used: an odd modulus of at most 4096 bits, and a smaller odd exponent above
one and below 2^33. -/
def PublicKey.isUsable (k : PublicKey) : Bool :=
  k.modulus % 2 == 1 && k.modulus < 2 ^ 4096 && k.exponent % 2 == 1 && 2 ≤ k.exponent &&
    k.exponent < 2 ^ 33 && k.exponent < k.modulus

/-- The remainder of a power, by repeated squaring; `fuel` bounds the bits of the exponent. -/
def powMod (modulus : Nat) : Nat → Nat → Nat → Nat
  | 0, _, _ => 1 % modulus
  | fuel + 1, base, exponent =>
    if exponent = 0 then 1 % modulus
    else
      let rest := powMod modulus fuel (base * base % modulus) (exponent / 2)
      if exponent % 2 = 1 then base * rest % modulus else rest

def digestHeader : List UInt8 :=
  [0x30, 0x31, 0x30, 0x0d, 0x06, 0x09, 0x60, 0x86, 0x48, 0x01, 0x65, 0x03, 0x04, 0x02, 0x01, 0x05,
    0x00, 0x04, 0x20]

def signedBlock (size : Nat) (message : List UInt8) : Option (List UInt8) :=
  let tail := digestHeader ++ Sha256.digest message
  if size < tail.length + 11 then none
  else some ([0, 1] ++ List.replicate (size - tail.length - 3) 0xff ++ 0 :: tail)

def PublicKey.verifies (k : PublicKey) (message signature : List UInt8) : Bool :=
  let size := byteSize k.modulus
  k.isUsable && signature.length == size && natOfBytes signature < k.modulus &&
    signedBlock size message ==
      some (bytesOfNat size (powMod k.modulus 40 (natOfBytes signature) k.exponent))

/-- Whether bytes are the signature of a message under the key that other bytes write. -/
def verifies (key message signature : List UInt8) : Bool :=
  match parse? key with
  | some k => k.verifies message signature
  | none => false

end BearerGate.Key.Rsa
