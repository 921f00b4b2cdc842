/-!
UTF-8: the bytes of a text, and the text of bytes. A byte that begins no character, and a
character that breaks off, are one fault each; strict reading refuses a fault and lenient reading
writes U+FFFD for it.
-/

set_option autoImplicit false
set_option relaxedAutoImplicit false

namespace BearerGate.Text.Utf8

private def byte (n : Nat) : UInt8 := UInt8.ofNat n

def encodeChar (c : Char) : List UInt8 :=
  let n := c.toNat
  if n < 0x80 then [byte n]
  else if n < 0x800 then [byte (0xC0 + n / 64), byte (0x80 + n % 64)]
  else if n < 0x10000 then
    [byte (0xE0 + n / 4096), byte (0x80 + n / 64 % 64), byte (0x80 + n % 64)]
  else
    [byte (0xF0 + n / 262144), byte (0x80 + n / 4096 % 64), byte (0x80 + n / 64 % 64),
      byte (0x80 + n % 64)]

def encode (cs : List Char) : List UInt8 := cs.flatMap encodeChar

/-- How many bytes follow a first byte, and which values the second byte may have. -/
def leading (b : Nat) : Option (Nat × Nat × Nat) :=
  if b < 0xC2 then none
  else if b < 0xE0 then some (1, 0x80, 0xBF)
  else if b = 0xE0 then some (2, 0xA0, 0xBF)
  else if b = 0xED then some (2, 0x80, 0x9F)
  else if b < 0xF0 then some (2, 0x80, 0xBF)
  else if b = 0xF0 then some (3, 0x90, 0xBF)
  else if b < 0xF4 then some (3, 0x80, 0xBF)
  else if b = 0xF4 then some (3, 0x80, 0x8F)
  else none

/-- Read `missing` further bytes, the first of them between `low` and `high`, onto the bits read so
far: the value if all are there, and how many fitted. -/
def further : Nat → Nat → Nat → Nat → List UInt8 → Option Nat × Nat
  | 0, _, _, bits, _ => (some bits, 0)
  | _ + 1, _, _, _, [] => (none, 0)
  | missing + 1, low, high, bits, b :: rest =>
    if low ≤ b.toNat ∧ b.toNat ≤ high then
      let (value, count) := further missing 0x80 0xBF (bits * 64 + b.toNat % 64) rest
      (value, count + 1)
    else (none, 0)

/-- The character that begins with a byte, if it is whole, and how many of the following bytes
belong to it or to the fault. -/
def first (b : UInt8) (rest : List UInt8) : Option Char × Nat :=
  if b.toNat < 0x80 then (some (Char.ofNat b.toNat), 0)
  else match leading b.toNat with
    | none => (none, 0)
    | some (missing, low, high) =>
      let (value, count) := further missing low high (b.toNat % (1 <<< (6 - missing))) rest
      (value.map Char.ofNat, count)

/-- The characters and faults of a byte list, from the byte after the next `skip` bytes. -/
def scan : Nat → List UInt8 → List (Option Char)
  | _, [] => []
  | skip + 1, _ :: rest => scan skip rest
  | 0, b :: rest => (first b rest).1 :: scan (first b rest).2 rest

def decode? (bytes : List UInt8) : Option (List Char) := (scan 0 bytes).mapM id

/-- The text of a byte list, with U+FFFD for each fault. -/
def decodeLenient (bytes : List UInt8) : List Char := (scan 0 bytes).map (·.getD '\ufffd')

end BearerGate.Text.Utf8

namespace BearerGate.Text

def utf8 (s : String) : List UInt8 := Utf8.encode s.toList

def ofUtf8? (bytes : List UInt8) : Option String := (Utf8.decode? bytes).map String.ofList

end BearerGate.Text
