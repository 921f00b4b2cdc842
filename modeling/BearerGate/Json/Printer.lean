import BearerGate.Json.Basic

/-!
Compact JSON texts: no blank characters between the tokens, and only those characters escaped that
have to be. A double is written as the decimal number that it is, digit for digit.
-/

set_option autoImplicit false
set_option relaxedAutoImplicit false

namespace BearerGate.Json

def hexChar (n : Nat) : Char := Nat.digitChar (n % 16)

/-- A character inside a string: quote, backslash and control characters are escaped. -/
def escapeChar (c : Char) : List Char :=
  if c = '"' then ['\\', '"']
  else if c = '\\' then ['\\', '\\']
  else if c = '\x08' then ['\\', 'b']
  else if c = '\x0c' then ['\\', 'f']
  else if c = '\n' then ['\\', 'n']
  else if c = '\r' then ['\\', 'r']
  else if c = '\t' then ['\\', 't']
  else if c.toNat < 0x20 then ['\\', 'u', '0', '0', hexChar (c.toNat / 16), hexChar c.toNat]
  else [c]

def printString (s : String) : List Char := '"' :: s.toList.flatMap escapeChar ++ ['"']

def printNat (n : Nat) : List Char := Nat.toDigits 10 n

def printInt (n : Int) : List Char :=
  if n < 0 then '-' :: printNat n.natAbs else printNat n.natAbs

/-- The exact decimal text of a finite double, with at least one place. -/
def printDouble (d : Double) : List Char :=
  let digits := printNat (d.magnitude * 5 ^ 1074)
  let filled := List.replicate (1075 - digits.length) '0' ++ digits
  let places := filled.drop (filled.length - 1074)
  let kept := (places.reverse.dropWhile (· == '0')).reverse
  (if d.isNegative then ['-'] else []) ++ filled.take (filled.length - 1074) ++
    '.' :: (if kept = [] then ['0'] else kept)

mutual

def print : Json → List Char
  | .null => ['n', 'u', 'l', 'l']
  | .bool true => ['t', 'r', 'u', 'e']
  | .bool false => ['f', 'a', 'l', 's', 'e']
  | .int n => printInt n.value
  | .double d => printDouble d.value
  | .string s => printString s
  | .array [] => ['[', ']']
  | .array (item :: rest) => '[' :: print item ++ printItems rest
  | .object [] => ['{', '}']
  | .object ((name, value) :: rest) =>
    '{' :: printString name ++ ':' :: print value ++ printMembers rest

/-- The further items of an array, and its closing bracket. -/
def printItems : List Json → List Char
  | [] => [']']
  | item :: rest => ',' :: print item ++ printItems rest

def printMembers : List (String × Json) → List Char
  | [] => ['}']
  | (name, value) :: rest => ',' :: printString name ++ ':' :: print value ++ printMembers rest

end

def compact (value : Json) : String := String.ofList value.print

end BearerGate.Json
