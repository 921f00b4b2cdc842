import BearerGate.Json.Parser
import BearerGate.Text.Pieces

/-!
Socket addresses: an internet address and a port. The text of an address of version 6 shortens its
longest run of zeros, if that is longer than one group.
-/

set_option autoImplicit false
set_option relaxedAutoImplicit false

namespace BearerGate.Server

inductive Host
  | v4 (bytes : List UInt8)
  | v6 (groups : List UInt16) (zone : UInt32)
  deriving DecidableEq, Repr

structure Address where
  host : Host
  port : UInt16
  deriving DecidableEq, Repr

namespace Address

def number? (limit : Nat) (cs : List Char) : Option Nat :=
  if cs.isEmpty || !cs.all Char.isDigit then none
  else if Json.digitsValue cs ≤ limit then some (Json.digitsValue cs) else none

def byte? (cs : List Char) : Option UInt8 :=
  if 3 < cs.length || (1 < cs.length && cs.head? == some '0') then none
  else (number? 255 cs).map UInt8.ofNat

def bytes? (cs : List Char) : Option (List UInt8) :=
  let parts := Text.splitOnChar '.' cs
  if parts.length = 4 then parts.mapM byte? else none

def group? (cs : List Char) : Option UInt16 :=
  if cs.isEmpty || 4 < cs.length then none
  else (cs.foldlM (fun n c => (Json.hexDigit? c).map (n * 16 + ·)) 0).map UInt16.ofNat

/-- Two groups in the form of an address of version 4. -/
def groupsOfBytes : List UInt8 → List UInt16
  | a :: b :: rest => (a.toUInt16 * 256 + b.toUInt16) :: groupsOfBytes rest
  | _ => []

/-- Groups between colons; the last two may be in the form of an address of version 4. -/
def groups? : List (List Char) → Option (List UInt16)
  | [] => some []
  | [last] => if last.contains '.' then (bytes? last).map groupsOfBytes else (group? last).map ([·])
  | part :: rest => do return (← group? part) :: (← groups? rest)

def groupsOf? (cs : List Char) : Option (List UInt16) :=
  if cs.isEmpty then some [] else groups? (Text.splitOnChar ':' cs)

def splitAtColons : List Char → Option (List Char × List Char)
  | ':' :: ':' :: rest => some ([], rest)
  | c :: rest => (splitAtColons rest).map fun r => (c :: r.1, r.2)
  | [] => none

/-- The eight groups of an address of version 6; two colons stand for zeros, at least one group of
them, and no address of version 4 stands before them. -/
def eightGroups? (cs : List Char) : Option (List UInt16) :=
  match splitAtColons cs with
  | none => (groupsOf? cs).filter (·.length = 8)
  | some (front, back) => do
    if front.contains '.' then none
    else
      let front ← groupsOf? front
      let back ← groupsOf? back
      if front.length + back.length < 8 then
        return front ++ List.replicate (8 - front.length - back.length) 0 ++ back
      else none

def zoned? (cs : List Char) : Option Host :=
  match Text.cutAt '%' cs with
  | (groups, none) => (eightGroups? groups).map (.v6 · 0)
  | (groups, some zone) => do
    return .v6 (← eightGroups? groups) (UInt32.ofNat (← number? (2 ^ 32 - 1) zone))

/-- The address that a text writes: one of version 4, or one of version 6 in brackets, and a port
after a colon. -/
def ofText? (text : String) : Option Address := do
  let (host, port) ← Text.cutAtLast? ':' text.toList
  let port ← number? 65535 port
  let host ← match host with
    | '[' :: rest => (Text.dropClosing? [']'] rest).bind zoned?
    | _ => (bytes? host).map .v4
  return ⟨host, UInt16.ofNat port⟩

def textOfBytes (bytes : List UInt8) : String :=
  ".".intercalate (bytes.map fun b => toString b.toNat)

def textOfGroup (group : UInt16) : String := String.ofList (Nat.toDigits 16 group.toNat)

def leadingZeros (groups : List UInt16) : Nat := (groups.takeWhile (· == 0)).length

/-- Where the longest run of zeros begins, and how long it is; of equal ones the first. -/
def longestZeros : Nat → List UInt16 → Nat × Nat
  | start, [] => (start, 0)
  | start, group :: rest =>
    let here := leadingZeros (group :: rest)
    let later := longestZeros (start + 1) rest
    if later.2 ≤ here then (start, here) else later

def textOfGroups (groups : List UInt16) : String := ":".intercalate (groups.map textOfGroup)

def textOfEight (groups : List UInt16) : String :=
  match groups with
  | [0, 0, 0, 0, 0, 0xffff, a, b] =>
    "::ffff:" ++ textOfBytes [(a / 256).toUInt8, a.toUInt8, (b / 256).toUInt8, b.toUInt8]
  | _ =>
    let (start, length) := longestZeros 0 groups
    if 1 < length then
      textOfGroups (groups.take start) ++ "::" ++ textOfGroups (groups.drop (start + length))
    else textOfGroups groups

def display (a : Address) : String :=
  let host := match a.host with
    | .v4 bytes => textOfBytes bytes
    | .v6 groups zone =>
      "[" ++ textOfEight groups ++ (if zone = 0 then "" else "%" ++ toString zone.toNat) ++ "]"
  host ++ ":" ++ toString a.port.toNat

end Address

end BearerGate.Server
