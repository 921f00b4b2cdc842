import BearerGate.Http.Message
import BearerGate.Json.Number
import BearerGate.Text.Utf8
import BearerGate.Json.Parser

/-!
Queries: pairs of a name and a value between ampersands. A plus sign stands for a blank, and a
percent sign with two hexadecimal digits for a byte; a percent sign without them stands for itself.
-/

set_option autoImplicit false
set_option relaxedAutoImplicit false

namespace BearerGate.Http

abbrev Query := List (String × String)

namespace Query

def hexByte? (high low : UInt8) : Option UInt8 := do
  let h ← Json.hexDigit? (Char.ofNat high.toNat)
  let l ← Json.hexDigit? (Char.ofNat low.toNat)
  return UInt8.ofNat (h * 16 + l)

/-- The bytes that a percent-encoded list of bytes stands for. -/
def decodePercent : List UInt8 → List UInt8
  | [] => []
  | b :: high :: low :: rest =>
    if b = 0x25 then match hexByte? high low with
      | some byte => byte :: decodePercent rest
      | none => b :: decodePercent (high :: low :: rest)
    else if b = 0x2b then 0x20 :: decodePercent (high :: low :: rest)
    else b :: decodePercent (high :: low :: rest)
  | b :: rest => (if b = 0x2b then 0x20 else b) :: decodePercent rest

/-- The text of a name or a value. Bytes that are no text are replaced. -/
def decode (cs : List Char) : String :=
  String.ofList (Text.Utf8.decodeLenient (decodePercent (Text.Utf8.encode cs)))

/-- A name and a value; without an equals sign, the value is empty. -/
def pair (cs : List Char) : String × String :=
  (decode (Text.cutAt '=' cs).1, decode ((Text.cutAt '=' cs).2.getD []))

/-- The pairs of a query; empty ones do not count. -/
def ofText (text : String) : Query :=
  ((Text.splitOnChar '&' text.toList).filter (!·.isEmpty)).map pair

def ofRequest (r : Request) : Query := ofText (r.query.getD "")

inductive Malformed
  | repeated (name : String)
  | noInteger (name : String)
  deriving DecidableEq, Repr

/-- The value of a name that may stand in a query once. -/
def text? (q : Query) (name : String) : Except Malformed (Option String) :=
  match q.filter fun p => p.1 == name with
  | [] => .ok none
  | [p] => .ok (some p.2)
  | _ => .error (.repeated name)

/-- The integer that a sign and decimal digits write, if it fits. -/
def integerOf? (cs : List Char) : Option Int64 :=
  let digits := (Json.readSign cs).2
  if digits.isEmpty || !digits.all Char.isDigit then none
  else
    let magnitude : Int := Json.digitsValue digits
    let n := if (Json.readSign cs).1 then -magnitude else magnitude
    if -2 ^ 63 ≤ n ∧ n < 2 ^ 63 then some (Int64.ofInt n) else none

def integer? (q : Query) (name : String) : Except Malformed (Option Int64) := do
  match ← q.text? name with
  | none => return none
  | some value => match integerOf? value.toList with
    | some n => return some n
    | none => throw (.noInteger name)

end Query

def Query.Malformed.message : Query.Malformed → String
  | .repeated name => "query names '" ++ name ++ "' more than once"
  | .noInteger name => "query gives no integer for '" ++ name ++ "'"

end BearerGate.Http
