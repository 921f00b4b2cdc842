import BearerGate.Key.Der
import BearerGate.Text.Base64
import BearerGate.Text.Blank
import BearerGate.Text.Pieces

/-!
Armored keys: key data in base64 between two lines that bear a label. `normalize` brings an armored
key, or the bare body of one, to a fixed form, which `Armor.parse?` takes apart again.
-/

set_option autoImplicit false
set_option relaxedAutoImplicit false

namespace BearerGate.Key

def beginMark : List Char := "-----BEGIN ".toList

def endMark : List Char := "-----END ".toList

def dashes : List Char := "-----".toList

def defaultLabel : List Char := "PUBLIC KEY".toList

def labelOf? (line : List Char) : Option (List Char) :=
  (Text.dropLeading? beginMark (Text.trimChars line)).bind (Text.dropClosing? dashes)

def isEndLine (line : List Char) : Bool :=
  (Text.dropLeading? endMark (line.dropWhile Text.isBlank)).isSome

/-- The label of the last opening line, or else the default one. -/
def labelOfLines (lines : List (List Char)) : List Char :=
  (lines.filterMap labelOf?).getLast?.getD defaultLabel

/-- The lines between the opening and closing ones, without carriage returns at their ends. -/
def bodyOfLines (lines : List (List Char)) : List Char :=
  (lines.filter fun line => (labelOf? line).isNone && !isEndLine line).flatMap
    (Text.dropLastWhile (· == '\r'))

/-- A body with its plus signs back where spaces have taken their place, and without blanks. -/
def restoreBody (cs : List Char) : List Char :=
  ((Text.trimChars cs).map fun c => if c = ' ' then '+' else c).filter fun c => !Text.isBlank c

/-- Lines of 64 bytes; a character that such a line would cut is no character of a key, and each of
its pieces is replaced. -/
def bodyLines (body : List Char) : List (List Char) :=
  (Text.chunks 64 (Text.Utf8.encode body)).map Text.Utf8.decodeLenient

def armor (label : List Char) (lines : List (List Char)) : List Char :=
  beginMark ++ label ++ dashes ++ '\n' :: lines.flatMap (· ++ ['\n']) ++
    (endMark ++ label ++ dashes ++ ['\n'])

/-- The fixed form of a key that is given armored or as a bare body. -/
def normalizeChars (cs : List Char) : List Char :=
  let lines := Text.lines cs
  armor (labelOfLines lines) (bodyLines (restoreBody (bodyOfLines lines)))

def normalize (key : String) : String := String.ofList (normalizeChars key.toList)

structure Armor where
  label : List Char
  content : List UInt8

namespace Armor

/-- What stands before the first occurrence of a mark, and what stands after it. -/
def splitAtMark (mark : List Char) : List Char → Option (List Char × List Char)
  | [] => if mark = [] then some ([], []) else none
  | c :: rest => match Text.dropLeading? mark (c :: rest) with
    | some after => some ([], after)
    | none => (splitAtMark mark rest).map fun (before, after) => (c :: before, after)

def isFiller (c : Char) : Bool := c == ' ' || c == '\t' || c == '\n' || c == '\r'

/-- The first armored part of a text. Both its lines must bear the same label, not an empty one. -/
def parse? (cs : List Char) : Option Armor := do
  let (_, rest) ← splitAtMark beginMark cs
  let (label, rest) ← splitAtMark dashes rest
  let (body, rest) ← splitAtMark endMark (rest.dropWhile isFiller)
  let (closing, _) ← splitAtMark dashes rest
  let content ← Text.Base64.decodePadded? Text.Base64.standard
    ((Text.lines body).flatMap (Text.dropLastWhile Text.isBlank))
  if label ≠ [] ∧ label = closing then some ⟨label, content⟩ else none

end Armor

def ellipticId : List Nat := [1, 2, 840, 10045, 2, 1]

def rsaId : List Nat := [1, 2, 840, 113549, 1, 1, 1]

def edwardsId : List Nat := [1, 3, 101, 112]

def wrappedLabels : List (List Char) :=
  ["PRIVATE KEY".toList, "PUBLIC KEY".toList, "CERTIFICATE".toList]

def bareLabels : List (List Char) := ["RSA PRIVATE KEY".toList, "RSA PUBLIC KEY".toList]

def rsaBytes? (a : Armor) : Option (List UInt8) := do
  let values ← Der.parse? a.content
  if bareLabels.contains a.label then some a.content
  else if wrappedLabels.contains a.label then
    if Der.findIdIn [ellipticId, rsaId, edwardsId] values = some rsaId then
      Der.findBytesIn values
    else none
  else none

/-- The bytes of the RSA key that a configuration gives, armored or as a bare body. -/
def rsaKey? (key : String) : Option (List UInt8) :=
  (Armor.parse? (normalizeChars key.toList)).bind rsaBytes?

end BearerGate.Key
