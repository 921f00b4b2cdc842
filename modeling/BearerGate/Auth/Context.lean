import BearerGate.Key.Armor
import BearerGate.Settings.Basic
import BearerGate.Text.Quoted

/-!
What tokens are checked against: the issuer, the key of the signer, and the grace period. Inline
values come before files, the issuer before the key, and a value that is blank counts as not given.
-/

set_option autoImplicit false
set_option relaxedAutoImplicit false

namespace BearerGate

structure AuthContext where
  issuer : String
  /-- The bytes of the RSA key of the signer. -/
  key : List UInt8
  /-- In seconds. -/
  grace : UInt64

namespace Settings

/-- A text without the blanks around it, unless nothing is left. -/
def nonBlank? (text : String) : Option String :=
  if Text.trim text = "" then none else some (Text.trim text)

def readText (files : Files) (path : String) : Except SettingsError String :=
  match (files path).bind Text.ofUtf8? with
  | some text => .ok text
  | none => .error (.unreadable path)

def resolveValue (files : Files) (inline file : Option String) :
    Except SettingsError (Option String) :=
  match inline.bind nonBlank? with
  | some value => .ok (some value)
  | none => match file with
    | none => .ok none
    | some path => (readText files path).map nonBlank?

def requireValue (missing : SettingsError) : Option String → Except SettingsError String
  | some value => .ok value
  | none => .error missing

end Settings

namespace AuthContext

open Settings (requireValue resolveValue)

/-- The context of an issuer and an armored key or the bare body of one. -/
def ofKey (issuer key : String) (grace : UInt64) : Except SettingsError AuthContext :=
  match Key.rsaKey? key with
  | some bytes => .ok ⟨issuer, bytes, grace⟩
  | none => .error .invalidSignerKey

def ofSettings (files : Files) (s : Settings) : Except SettingsError AuthContext := do
  let issuer ← requireValue .missingIssuer (← resolveValue files s.issuer s.issuerFile)
  let key ← requireValue .missingSignerKey (← resolveValue files s.signerKey s.signerKeyFile)
  ofKey issuer key s.grace

/-- The inspection text of a context, which does not show the key. -/
def inspect (c : AuthContext) : String :=
  "AuthContext \x7b issuer: " ++ Text.quoted c.issuer ++ ", exp_grace_period_secs: " ++
    toString c.grace.toNat ++ ", .. \x7d"

end AuthContext

end BearerGate
