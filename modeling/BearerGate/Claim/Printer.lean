import BearerGate.Claim.Data
import BearerGate.Json.Printer

/-!
Compact JSON texts of claim data. A set is written as the array of its members in order; a double
that is no number is written as null.
-/

set_option autoImplicit false
set_option relaxedAutoImplicit false

namespace BearerGate.Claim.Data

/-- The further texts of an array, and its closing bracket. -/
def printTexts : List String → List Char
  | [] => [']']
  | s :: rest => ',' :: Json.printString s ++ printTexts rest

mutual

def print : Data → List Char
  | .string s => Json.printString s
  | .long n => Json.printInt n.toInt
  | .double d => if d.isFinite then Json.printDouble d else ['n', 'u', 'l', 'l']
  | .boolean true => ['t', 'r', 'u', 'e']
  | .boolean false => ['f', 'a', 'l', 's', 'e']
  | .stringSet s => match s.toList with
    | [] => ['[', ']']
    | a :: rest => '[' :: Json.printString a ++ printTexts rest
  | .list [] => ['[', ']']
  | .list (item :: rest) => '[' :: print item ++ printItems rest
  | .object [] => ['{', '}']
  | .object ((name, value) :: rest) =>
    '{' :: Json.printString name ++ ':' :: print value ++ printFields rest

def printItems : List Data → List Char
  | [] => [']']
  | item :: rest => ',' :: print item ++ printItems rest

def printFields : List (String × Data) → List Char
  | [] => ['}']
  | (name, value) :: rest =>
    ',' :: Json.printString name ++ ':' :: print value ++ printFields rest

end

/-- The compact text of claim data without doubles. -/
def compact? (d : Data) : Option String :=
  if d.hasDouble then none else some (String.ofList d.print)

end BearerGate.Claim.Data
