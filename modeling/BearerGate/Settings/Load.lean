import BearerGate.Settings.Variable
import BearerGate.Settings.Yaml.Document
import BearerGate.Text.Utf8

/-!
Loading settings: defaults first, then a file, then environment variables; what comes later counts.
-/

set_option autoImplicit false
set_option relaxedAutoImplicit false

namespace BearerGate.Settings

/-- What the file at a path says, or an empty table if no path is given. -/
def fileTree (files : Files) : Option String → Except SettingsError Tree
  | none => .ok (.table [])
  | some path => match files path with
    | none => .error (.missingFile path)
    | some content => match (Text.ofUtf8? content).bind Yaml.parse? with
      | some tree => .ok tree
      | none => .error .malformed

def load (files : Files) (path : Option String) (environment : Environment) :
    Except SettingsError Settings := do
  let tree ← fileTree files path
  match ofTree? (tree.merge (Tree.ofEnvironment environment)) with
  | some settings => return settings
  | none => throw .malformed

end BearerGate.Settings
