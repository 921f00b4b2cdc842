import BearerGate.Text.TextMap

/-!
Settings: what a deployment says about the tokens it accepts and the routes it protects. The issuer
and the key of the signer are given inline or as the name of a file.
-/

set_option autoImplicit false
set_option relaxedAutoImplicit false

namespace BearerGate

/-- The content of the regular files, by path. -/
abbrev Files := String → Option (List UInt8)

structure Settings where
  issuer : Option String
  issuerFile : Option String
  signerKey : Option String
  signerKeyFile : Option String
  /-- By how many seconds the clocks of issuer and server may differ. -/
  grace : UInt64
  requireAuth : Bool
  publicRoutes : List String
  roleMappings : TextMap (List String)
  deriving DecidableEq

def Settings.default : Settings where
  issuer := none
  issuerFile := none
  signerKey := none
  signerKeyFile := none
  grace := 60
  requireAuth := true
  publicRoutes := []
  roleMappings := TextMap.empty

inductive SettingsError
  | missingIssuer
  | missingSignerKey
  | invalidSignerKey
  | invalidRoute (pattern : String)
  | missingFile (path : String)
  | unreadable (path : String)
  | malformed
  deriving DecidableEq, Repr

def SettingsError.message : SettingsError → String
  | .missingIssuer => "no issuer configured: set `issuer` or `issuer_file`"
  | .missingSignerKey =>
    "no signer public key configured: set `signer_public_key` or `signer_public_key_file`"
  | .invalidSignerKey => "signer public key is not a valid RSA public key"
  | .invalidRoute pattern => "invalid public route '" ++ pattern ++ "'"
  | .missingFile path => "configuration file not found: " ++ path
  | .unreadable path => "failed to read " ++ path
  | .malformed => "failed to load configuration"

end BearerGate
