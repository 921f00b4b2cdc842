import BearerGate.Json.Parser
import BearerGate.Number.Decimal
import BearerGate.Settings.Tree

/-!
Plain scalars of YAML documents, by the core schema: a word for null or for a truth value, an
integer in one of four bases, a number with a fraction or an exponent, or else a text. Digits after
a leading zero are a text. A tag may name the kind of a scalar instead.
-/

set_option autoImplicit false
set_option relaxedAutoImplicit false

namespace BearerGate.Settings.Yaml

def digitsInBase? (base : Nat) (cs : List Char) : Option Nat :=
  if cs.isEmpty then none
  else cs.foldlM (fun n c => match Json.hexDigit? c with
    | some d => if d < base then some (n * base + d) else none
    | none => none) 0

def hasLeadingZero : List Char → Bool
  | '0' :: c :: rest => (c :: rest).all Char.isDigit
  | _ => false

def natural? : List Char → Option Nat
  | '0' :: 'x' :: rest => digitsInBase? 16 rest
  | '0' :: 'o' :: rest => digitsInBase? 8 rest
  | '0' :: 'b' :: rest => digitsInBase? 2 rest
  | cs => if hasLeadingZero cs then none else digitsInBase? 10 cs

def integer? : List Char → Option Int
  | '-' :: rest => ((natural? rest).filter (· ≤ 2 ^ 127)).map fun n => -(n : Int)
  | '+' :: rest => ((natural? rest).filter (· < 2 ^ 128)).map Int.ofNat
  | cs => ((natural? cs).filter (· < 2 ^ 128)).map Int.ofNat

def infinityWords : List (List Char) := [".inf".toList, ".Inf".toList, ".INF".toList]

def noNumberWords : List (List Char) := [".nan".toList, ".NaN".toList, ".NAN".toList]

def dropSign : List Char → List Char
  | '+' :: rest => rest
  | '-' :: rest => rest
  | cs => cs

def isNumber (cs : List Char) : Bool :=
  infinityWords.contains (dropSign cs) || noNumberWords.contains cs ||
    (Decimal.ofChars? cs).any Decimal.isFinite

def nullWords : List (List Char) :=
  ["~".toList, "null".toList, "Null".toList, "NULL".toList]

def trueWords : List (List Char) := ["true".toList, "True".toList, "TRUE".toList]

def falseWords : List (List Char) := ["false".toList, "False".toList, "FALSE".toList]

def truth? (cs : List Char) : Option Bool :=
  if trueWords.contains cs then some true
  else if falseWords.contains cs then some false
  else none

def ofPlain (cs : List Char) : Tree :=
  if cs.isEmpty || nullWords.contains cs then .null
  else match truth? cs, integer? cs with
    | some b, _ => .bool b
    | none, some n => .integer n
    | none, none =>
      if !hasLeadingZero (dropSign cs) && isNumber cs then .fraction
      else .text (String.ofList cs)

/-- What a text stands for as a scalar of a kind, if it can be of that kind. What is of any other
kind is a text. -/
def ofKind? (kind : String) (cs : List Char) : Option Tree :=
  match kind with
  | "null" => if nullWords.contains cs then some .null else none
  | "bool" => (truth? cs).map .bool
  | "int" => (integer? cs).map .integer
  | "float" => if isNumber cs then some .fraction else none
  | _ => some (.text (String.ofList cs))

end BearerGate.Settings.Yaml
