import BearerGate.Claim.Data
import BearerGate.Number.Shortest
import BearerGate.Text.Quoted

/-!
Inspection texts of claim data: each value with the name of its kind, as a log shows it.
-/

set_option autoImplicit false
set_option relaxedAutoImplicit false

namespace BearerGate.Claim.Data

def commaSeparated (parts : List String) : String := ", ".intercalate parts

mutual

def inspect : Data → String
  | .string s => "String(" ++ Text.quoted s ++ ")"
  | .long n => "Long(" ++ toString n.toInt ++ ")"
  | .double d => "Double(" ++ d.display ++ ")"
  | .boolean b => "Boolean(" ++ (if b then "true" else "false") ++ ")"
  | .stringSet s => "StringSet(\x7b" ++ commaSeparated (s.toList.map Text.quoted) ++ "\x7d)"
  | .list items => "List([" ++ commaSeparated (inspectItems items) ++ "])"
  | .object fields => "Object(\x7b" ++ commaSeparated (inspectFields fields) ++ "\x7d)"

def inspectItems : List Data → List String
  | [] => []
  | item :: rest => inspect item :: inspectItems rest

def inspectFields : List (String × Data) → List String
  | [] => []
  | (name, value) :: rest => (Text.quoted name ++ ": " ++ inspect value) :: inspectFields rest

end

end BearerGate.Claim.Data
