import BearerGate.Json.Parser
import BearerGate.Number.Decimal
import BearerGate.Settings.Tree
import BearerGate.Text.Blank
import BearerGate.Text.Pieces

/-!
Settings in environment variables. The name of a variable is a path into the table of settings,
after a mark that all of them share and with doubled underscores between its parts. The value is a
truth value, a number, a quoted text, a list, a table, or else a text.
-/

set_option autoImplicit false
set_option relaxedAutoImplicit false

namespace BearerGate.Settings

/-- Names and values of environment variables, as a process finds them listed. -/
abbrev Environment := List (String × String)

namespace Variable

def mark : List Char := "mpjwt_".toList

/-- A text with a point for every two underscores, from the left. -/
def pointed : List Char → List Char
  | '_' :: '_' :: rest => '.' :: pointed rest
  | c :: rest => c :: pointed rest
  | [] => []

/-- The path that a name gives, unless the name is none of a setting or a part of the path is
empty. -/
def path? (name : String) : Option (List String) :=
  match Text.dropLeading? mark ((Text.trimChars name.toList).map Char.toLower) with
  | none => none
  | some rest =>
    let parts := Text.splitOnChar '.' (pointed (Text.trimChars rest))
    if parts.any List.isEmpty then none else some (parts.map String.ofList)

def skipBlank (cs : List Char) : List Char := cs.dropWhile Text.isAsciiBlank

def isBare (c : Char) : Bool :=
  !(c == ',' || c == '{' || c == '}' || c == '[' || c == ']')

def isNameChar (c : Char) : Bool := c.isAlphanum || c == '_' || c == '-'

def word? (digits : List Char) : Option Nat :=
  if digits.isEmpty || !digits.all Char.isDigit then none
  else if Json.digitsValue digits < 2 ^ 64 then some (Json.digitsValue digits) else none

def integer? : List Char → Option Int
  | '+' :: digits => (word? digits).map Int.ofNat
  | '-' :: digits => ((word? digits).filter (· ≤ 2 ^ 63)).map fun n => -(n : Int)
  | digits => (word? digits).map Int.ofNat

def ofBare (cs : List Char) : Tree :=
  if cs.contains '.' && (Decimal.ofChars? cs).isSome then .fraction
  else match integer? cs with
    | some n => .integer n
    | none => .text (String.ofList cs)

def escape? : Char → Option Char
  | '"' => some '"'
  | '\\' => some '\\'
  | 'b' => some '\x08'
  | 'f' => some '\x0c'
  | 'n' => some '\n'
  | 'r' => some '\r'
  | 't' => some '\t'
  | _ => none

def escapeDigits? : Char → Option Nat
  | 'u' => some 4
  | 'U' => some 8
  | _ => none

def isControl (c : Char) : Bool := (c.toNat < 0x20 && c != '\t') || c.toNat == 0x7f

def readQuoted : Nat → List Char → Option (List Char × List Char)
  | 0, _ => none
  | _ + 1, [] => none
  | _ + 1, '"' :: rest => some ([], rest)
  | fuel + 1, '\\' :: c :: rest => do
    match escapeDigits? c with
    | some count =>
      let digits := rest.take count
      let n ← digits.foldlM (fun n d => (Json.hexDigit? d).map (n * 16 + ·)) 0
      if digits.length < count ∨ ¬ n.isValidChar then none
      else
        let (text, rest) ← readQuoted fuel (rest.drop count)
        return (Char.ofNat n :: text, rest)
    | none =>
      let char ← escape? c
      let (text, rest) ← readQuoted fuel rest
      return (char :: text, rest)
  | fuel + 1, c :: rest => do
    if c = '\\' ∨ isControl c then none
    else
      let (text, rest) ← readQuoted fuel rest
      return (c :: text, rest)

def readName (cs : List Char) : Option (String × List Char) :=
  match cs with
  | '"' :: rest => (readQuoted (rest.length + 1) rest).map fun r => (String.ofList r.1, r.2)
  | _ =>
    if (cs.takeWhile isNameChar).isEmpty then none
    else some (String.ofList (cs.takeWhile isNameChar), cs.dropWhile isNameChar)

mutual

def readValue : Nat → List Char → Option (Tree × List Char)
  | 0, _ => none
  | fuel + 1, cs => (readToken fuel (skipBlank cs)).map fun r => (r.1, skipBlank r.2)

def readToken : Nat → List Char → Option (Tree × List Char)
  | 0, _ => none
  | _ + 1, 't' :: 'r' :: 'u' :: 'e' :: rest => some (.bool true, rest)
  | _ + 1, 'f' :: 'a' :: 'l' :: 's' :: 'e' :: rest => some (.bool false, rest)
  | fuel + 1, '{' :: rest => (readEntries fuel rest).map fun r => (Tree.ofEntries r.1, r.2)
  | fuel + 1, '[' :: rest => (readItems fuel rest).map fun r => (.list r.1, r.2)
  | _ + 1, '"' :: rest =>
    (readQuoted (rest.length + 1) rest).map fun r => (.text (String.ofList r.1), r.2)
  | _ + 1, '\'' :: c :: '\'' :: rest => some (.text (String.singleton c), rest)
  | _ + 1, '\'' :: _ => none
  | _ + 1, cs => some (ofBare (Text.trimChars (cs.takeWhile isBare)), cs.dropWhile isBare)

/-- The items of a list after the opening bracket or a comma. -/
def readItems : Nat → List Char → Option (List Tree × List Char)
  | 0, _ => none
  | _ + 1, ']' :: rest => some ([], rest)
  | fuel + 1, cs => do
    let (item, rest) ← readValue fuel cs
    match rest with
    | ',' :: rest =>
      let (items, rest) ← readItems fuel rest
      return (item :: items, rest)
    | ']' :: rest => return ([item], rest)
    | _ => none

def readEntries : Nat → List Char → Option (List (String × Tree) × List Char)
  | 0, _ => none
  | _ + 1, '}' :: rest => some ([], rest)
  | fuel + 1, cs => do
    let (name, rest) ← readName (skipBlank cs)
    match skipBlank rest with
    | '=' :: rest =>
      let (value, rest) ← readValue fuel rest
      match rest with
      | ',' :: rest =>
        let (entries, rest) ← readEntries fuel rest
        return ((name, value) :: entries, rest)
      | '}' :: rest => return ([(name, value)], rest)
      | _ => none
    | _ => none

end

/-- What the value of a variable stands for. A text that is none of the other forms stands for
itself as a whole. -/
def value (text : String) : Tree :=
  match readValue (3 * text.length + 3) text.toList with
  | some (tree, []) => tree
  | _ => .text text

/-- The table with one value at the end of a path. -/
def nest (value : Tree) : List String → Tree
  | [] => value
  | name :: path => .table [(name, nest value path)]

end Variable

/-- What environment variables say. They are merged as the environment lists them. -/
def Tree.ofEnvironment (environment : Environment) : Tree :=
  environment.foldl (fun tree v =>
    match Variable.path? v.1 with
    | some path => tree.merge (Variable.nest (Variable.value v.2) path)
    | none => tree) (.table [])

end BearerGate.Settings
