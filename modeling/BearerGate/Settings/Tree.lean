import BearerGate.Json.Basic
import BearerGate.Settings.Basic

/-!
Trees of values: what a source of settings says, before it is known to be about settings. Tables of
two sources merge entry by entry; of anything else the later source counts. Main statements: which
settings a tree gives.
-/

set_option autoImplicit false
set_option relaxedAutoImplicit false

namespace BearerGate.Settings

/-- A value in a source of settings. No setting is a number with a fraction, so the value of one is
not kept. -/
inductive Tree
  | null
  | bool (value : Bool)
  | integer (value : Int)
  | fraction
  | text (value : String)
  | list (items : List Tree)
  | table (entries : List (String × Tree))
  deriving Repr, Inhabited

namespace Tree

mutual

def ofJson : Json → Tree
  | .null => .null
  | .bool b => .bool b
  | .int n => .integer n.value
  | .double _ => .fraction
  | .string s => .text s
  | .array items => .list (ofJsonItems items)
  | .object members => .table (ofJsonMembers members)

def ofJsonItems : List Json → List Tree
  | [] => []
  | item :: rest => ofJson item :: ofJsonItems rest

def ofJsonMembers : List (String × Json) → List (String × Tree)
  | [] => []
  | (name, value) :: rest => (name, ofJson value) :: ofJsonMembers rest

end

mutual

def merge : Tree → Tree → Tree
  | .table earlier, .table later => .table (mergeEntries earlier later)
  | _, later => later

/-- The entries of two tables together; of one name in both, the values merge. -/
def mergeEntries : List (String × Tree) → List (String × Tree) → List (String × Tree)
  | [], later => later
  | (name, value) :: rest, later =>
    match later.lookup name with
    | some other =>
      (name, merge value other) :: mergeEntries rest (later.filter fun e => e.1 != name)
    | none => (name, value) :: mergeEntries rest later

end

/-- The table of a list of entries; of entries with one name the last one counts. -/
def ofEntries (entries : List (String × Tree)) : Tree :=
  .table (TextMap.ofList entries).entries

end Tree

def textSetting : Tree → Option (Option String)
  | .null => some none
  | .text s => some (some s)
  | _ => none

def secondsSetting : Tree → Option UInt64
  | .integer n => if 0 ≤ n ∧ n < 2 ^ 64 then some (UInt64.ofNat n.toNat) else none
  | _ => none

def boolSetting : Tree → Option Bool
  | .bool b => some b
  | _ => none

def plainText : Tree → Option String
  | .text s => some s
  | _ => none

def textsSetting : Tree → Option (List String)
  | .list items => items.mapM plainText
  | _ => none

def tableSetting : Tree → Option (TextMap (List String))
  | .table entries =>
    (entries.mapM fun e => (textsSetting e.2).map (e.1, ·)).map TextMap.ofList
  | _ => none

def apply (s : Settings) (name : String) (value : Tree) : Option Settings :=
  match name with
  | "issuer" => (textSetting value).map ({ s with issuer := · })
  | "issuer_file" => (textSetting value).map ({ s with issuerFile := · })
  | "signer_public_key" => (textSetting value).map ({ s with signerKey := · })
  | "signer_public_key_file" => (textSetting value).map ({ s with signerKeyFile := · })
  | "exp_grace_period_secs" => (secondsSetting value).map ({ s with grace := · })
  | "require_auth_by_default" => (boolSetting value).map ({ s with requireAuth := · })
  | "public_routes" => (textsSetting value).map ({ s with publicRoutes := · })
  | "role_mappings" => (tableSetting value).map ({ s with roleMappings := · })
  | _ => none

/-- The settings that a tree gives: a table in which every entry is a setting. -/
def ofTree? : Tree → Option Settings
  | .table entries => entries.foldlM (fun s e => s.apply e.1 e.2) Settings.default
  | _ => none

end BearerGate.Settings
