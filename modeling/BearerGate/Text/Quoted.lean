import BearerGate.Text.Hidden

/-!
Quoted texts, as they stand in the inspection text of a value: between quotes, with quotes,
backslashes and hidden characters escaped.
-/

set_option autoImplicit false
set_option relaxedAutoImplicit false

namespace BearerGate.Text

def quoteChar (c : Char) : List Char :=
  if c = '"' then ['\\', '"']
  else if c = '\\' then ['\\', '\\']
  else if c = '\n' then ['\\', 'n']
  else if c = '\r' then ['\\', 'r']
  else if c = '\t' then ['\\', 't']
  else if c.toNat = 0 then ['\\', '0']
  else if isHidden c then ['\\', 'u', '{'] ++ Nat.toDigits 16 c.toNat ++ ['}']
  else [c]

def quoted (s : String) : String :=
  String.ofList ('"' :: s.toList.flatMap quoteChar ++ ['"'])

end BearerGate.Text
