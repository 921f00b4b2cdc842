import BearerGate.Text.Utf8

/-!
Structured key data: values with a tag and a length, some of which hold others. Only the parts in
which a key is searched keep their content; all others are checked and passed over.
-/

set_option autoImplicit false
set_option relaxedAutoImplicit false

namespace BearerGate.Key

inductive Der
  | sequence (items : List Der)
  | objectId (arcs : List Nat)
  | bits (bytes : List UInt8)
  | octets (bytes : List UInt8)
  | other
  deriving BEq, Repr

namespace Der

/-- A number in groups of seven bits, all but the last of which are marked. -/
def readGroups : Nat → List UInt8 → Option (Nat × List UInt8)
  | _, [] => none
  | n, b :: rest =>
    let next := n * 128 + b.toNat % 128
    if b.toNat < 128 then some (next, rest) else readGroups next rest

def readArcs : Nat → List UInt8 → Option (List Nat)
  | _, [] => some []
  | 0, _ => none
  | fuel + 1, bytes => do
    let (n, rest) ← readGroups 0 bytes
    return n :: (← readArcs fuel rest)

/-- An object identifier; its first byte holds its first two arcs. -/
def objectIdOf : List UInt8 → Option Der
  | [] => none
  | b :: rest =>
    let n := b.toNat
    let two := if n < 40 then [0, n] else if n < 80 then [1, n - 40] else [2, n - 80]
    (readArcs rest.length rest).map fun arcs => .objectId (two ++ arcs)

def readTag : List UInt8 → Option ((Bool × Nat) × List UInt8)
  | [] => none
  | b :: rest =>
    let universal := b.toNat < 64
    let number := b.toNat % 32
    if number = 31 then (readGroups 0 rest).map fun (n, rest) => ((universal, n), rest)
    else some ((universal, number), rest)

/-- A length: small ones in one byte, others in up to eight bytes after a byte that counts them. -/
def readLength : List UInt8 → Option (Nat × List UInt8)
  | [] => none
  | b :: rest =>
    if b.toNat < 128 then some (b.toNat, rest)
    else
      let count := b.toNat - 128
      if 8 < count ∨ rest.length < count then none
      else some ((rest.take count).foldl (fun n b => n * 256 + b.toNat) 0, rest.drop count)

def daysOfMonth (year month : Nat) : Nat :=
  if month = 2 then
    if year % 4 = 0 ∧ (year % 100 ≠ 0 ∨ year % 400 = 0) then 29 else 28
  else if month = 4 ∨ month = 6 ∨ month = 9 ∨ month = 11 then 30
  else 31

def isMoment (digits : List Nat) : Bool :=
  match digits with
  | [y1, y2, y3, y4, m1, m2, d1, d2, h1, h2, n1, n2, s1, s2] =>
    let year := ((y1 * 10 + y2) * 10 + y3) * 10 + y4
    let month := m1 * 10 + m2
    let day := d1 * 10 + d2
    digits.all (· < 10) && 1 ≤ month && month ≤ 12 && 1 ≤ day && day ≤ daysOfMonth year month &&
      h1 * 10 + h2 < 24 && n1 * 10 + n2 < 60 && s1 * 10 + s2 < 60
  | _ => false

def digitValues (bytes : List UInt8) : List Nat :=
  bytes.map fun b => if 48 ≤ b.toNat then b.toNat - 48 else 10

def isShortTime (bytes : List UInt8) : Bool :=
  let digits := digitValues (bytes.take 12)
  let century := if digits.getD 0 10 < 5 then [2, 0] else [1, 9]
  bytes.length == 13 && bytes.getLast? == some 90 && isMoment (century ++ digits)

def isLongTime (bytes : List UInt8) : Bool :=
  let tail := bytes.drop 14
  let places := (if tail.head? == some 46 then tail.drop 1 else tail).dropLast
  15 ≤ bytes.length && bytes.getLast? == some 90 && isMoment (digitValues (bytes.take 14)) &&
    places.length ≤ 9 && (digitValues places).all (· < 10)

def isPrintable (b : UInt8) : Bool :=
  let c := Char.ofNat b.toNat
  c.isAlphanum || " '()+,-./:=?".toList.contains c

/-- A value of the universal class that holds no others, if its content is in order. -/
def leafOf (tag : Nat) (body : List UInt8) : Option Der :=
  let checked := fun (ok : Bool) => if ok then some other else none
  match tag with
  | 1 => checked (body.length == 1)
  | 3 => match body with
    | [] => some (.bits [])
    | unused :: bytes => if unused.toNat ≤ bytes.length * 8 then some (.bits bytes) else none
  | 4 => some (.octets body)
  | 6 => objectIdOf body
  | 12 => checked (Text.Utf8.decode? body).isSome
  | 19 => checked (body.all isPrintable)
  | 20 => checked (Text.Utf8.decode? body).isSome
  | 22 => checked (body.all (·.toNat < 128))
  | 23 => checked (isShortTime body)
  | 24 => checked (isLongTime body)
  | 28 => checked (Text.Utf8.decode? body).isSome
  | 30 => checked (Text.Utf8.decode? body).isSome
  | _ => some other

def readAll : Nat → List UInt8 → Option (List Der)
  | _, [] => some []
  | 0, _ => none
  | fuel + 1, bytes => do
    let ((universal, tag), rest) ← readTag bytes
    let (size, rest) ← readLength rest
    if rest.length < size then none
    else
      let body := rest.take size
      let items := fun (_ : Unit) => if body = [] then none else readAll fuel body
      let value ←
        if !universal then some other
        else if tag = 16 then (items ()).map sequence
        else if tag = 17 then (items ()).map fun _ => other
        else leafOf tag body
      return value :: (← readAll fuel (rest.drop size))

def parse? (bytes : List UInt8) : Option (List Der) :=
  if bytes = [] then none else readAll bytes.length bytes

mutual

/-- The first object identifier, in the values or in sequences among them, that is in a list. -/
def findId (ids : List (List Nat)) : Der → Option (List Nat)
  | .sequence items => findIdIn ids items
  | .objectId arcs => if ids.contains arcs then some arcs else none
  | _ => none

def findIdIn (ids : List (List Nat)) : List Der → Option (List Nat)
  | [] => none
  | v :: rest => (findId ids v).or (findIdIn ids rest)

end

mutual

/-- The first string of bits or octets, in the values or in sequences among them. -/
def findBytes : Der → Option (List UInt8)
  | .sequence items => findBytesIn items
  | .bits bytes => some bytes
  | .octets bytes => some bytes
  | _ => none

def findBytesIn : List Der → Option (List UInt8)
  | [] => none
  | v :: rest => (findBytes v).or (findBytesIn rest)

end

end Der

end BearerGate.Key
