import BearerGate.Json.Number

/-!
Reading JSON texts. Each reader takes the characters that are left and gives what it read and what
is left after it. A container may hold others up to a given depth, which bounds the recursion.
-/

set_option autoImplicit false
set_option relaxedAutoImplicit false

namespace BearerGate.Json

def isGap (c : Char) : Bool := c == ' ' || c == '\t' || c == '\n' || c == '\r'

def skipGap (cs : List Char) : List Char := cs.dropWhile isGap

def hexDigit? (c : Char) : Option Nat :=
  if '0' ≤ c ∧ c ≤ '9' then some (c.toNat - '0'.toNat)
  else if 'a' ≤ c ∧ c ≤ 'f' then some (c.toNat - 'a'.toNat + 10)
  else if 'A' ≤ c ∧ c ≤ 'F' then some (c.toNat - 'A'.toNat + 10)
  else none

def hexUnit? (a b c d : Char) : Option Nat := do
  return (((← hexDigit? a) * 16 + (← hexDigit? b)) * 16 + (← hexDigit? c)) * 16 + (← hexDigit? d)

def shortEscape? (c : Char) : Option Char :=
  if c = '"' ∨ c = '\\' ∨ c = '/' then some c
  else if c = 'b' then some '\x08'
  else if c = 'f' then some '\x0c'
  else if c = 'n' then some '\n'
  else if c = 'r' then some '\r'
  else if c = 't' then some '\t'
  else none

/-- The rest of a string after its opening quote. Characters outside the basic plane may be written
as a pair of surrogates; a surrogate outside such a pair is refused, and so is a bare control
character. -/
def readString : Reader String := fun cs => (go cs.length cs).map fun r => (String.ofList r.1, r.2)
where
  go : Nat → Reader (List Char)
    | 0, _ => none
    | _ + 1, [] => none
    | _ + 1, '"' :: rest => some ([], rest)
    | fuel + 1, '\\' :: 'u' :: a :: b :: c :: d :: rest => do
      let unit ← hexUnit? a b c d
      if 0xD800 ≤ unit ∧ unit < 0xDC00 then
        match rest with
        | '\\' :: 'u' :: e :: f :: g :: h :: rest =>
          let low ← hexUnit? e f g h
          if 0xDC00 ≤ low ∧ low < 0xE000 then
            let (text, rest) ← go fuel rest
            return (Char.ofNat (0x10000 + (unit - 0xD800) * 0x400 + (low - 0xDC00)) :: text, rest)
          else none
        | _ => none
      else if 0xDC00 ≤ unit ∧ unit < 0xE000 then none
      else
        let (text, rest) ← go fuel rest
        return (Char.ofNat unit :: text, rest)
    | fuel + 1, '\\' :: c :: rest => do
      let char ← shortEscape? c
      let (text, rest) ← go fuel rest
      return (char :: text, rest)
    | fuel + 1, c :: rest =>
      if c.toNat < 0x20 ∨ c = '\\' then none
      else do
        let (text, rest) ← go fuel rest
        return (c :: text, rest)

def readScalar : Reader Json
  | 'n' :: 'u' :: 'l' :: 'l' :: rest => some (.null, rest)
  | 't' :: 'r' :: 'u' :: 'e' :: rest => some (.bool true, rest)
  | 'f' :: 'a' :: 'l' :: 's' :: 'e' :: rest => some (.bool false, rest)
  | '"' :: rest => (readString rest).map fun r => (.string r.1, r.2)
  | cs => readNumber cs

/-- Elements separated by commas, up to the closing bracket; at least one. -/
def readElements {α : Type} (element : Reader α) (closing : Char) : Nat → Reader (List α)
  | 0, _ => none
  | fuel + 1, cs => do
    let (x, rest) ← element (skipGap cs)
    match skipGap rest with
    | [] => none
    | c :: rest =>
      if c = ',' then
        let (xs, rest) ← readElements element closing fuel rest
        return (x :: xs, rest)
      else if c = closing then some ([x], rest)
      else none

def readContainer {α : Type} (element : Reader α) (closing : Char) : Reader (List α) := fun cs =>
  match skipGap cs with
  | [] => none
  | c :: rest =>
    if c = closing then some ([], rest) else readElements element closing rest.length (c :: rest)

def readMember (value : Reader Json) : Reader (String × Json)
  | '"' :: rest => do
    let (name, rest) ← readString rest
    match skipGap rest with
    | ':' :: rest =>
      let (v, rest) ← value (skipGap rest)
      return ((name, v), rest)
    | _ => none
  | _ => none

/-- A value that begins at once; containers stand at most `depth` deep in each other. -/
def readValue : Nat → Reader Json
  | 0, '[' :: _ => none
  | 0, '{' :: _ => none
  | 0, cs => readScalar cs
  | depth + 1, '[' :: rest =>
    (readContainer (readValue depth) ']' rest).map fun r => (.array r.1, r.2)
  | depth + 1, '{' :: rest =>
    (readContainer (readMember (readValue depth)) '}' rest).map fun r => (.object r.1, r.2)
  | _ + 1, cs => readScalar cs

/-- The depth to which containers may stand in each other in a text from outside. -/
def depthLimit : Nat := 127

/-- The value of a whole text, objects as they are written. -/
def parseAsWritten (depth : Nat) (cs : List Char) : Option Json :=
  match readValue depth (skipGap cs) with
  | some (value, rest) => if skipGap rest = [] then some value else none
  | none => none

def parse? (text : String) : Option Json :=
  (parseAsWritten depthLimit text.toList).map ordered

end BearerGate.Json
