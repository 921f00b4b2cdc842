import BearerGate.Server.CommandLine

/-!
The program: it reads the arguments, the environment and the files that they name, and ends where
listening to requests would begin.
-/

set_option autoImplicit false
set_option relaxedAutoImplicit false

namespace BearerGate.Server

def readFile (path : String) : IO (Option (List UInt8)) := do
  try
    return some (← IO.FS.readBinFile path).toList
  catch _ =>
    return none

/-- The variable that a text gives, a name and a value with an equals sign between them. -/
def variableOf? (entry : List Char) : Option (String × String) :=
  match Text.cutAt '=' entry with
  | (name, some value) => some (String.ofList name, String.ofList value)
  | (_, none) => none

def readEnvironment : IO Settings.Environment := do
  let content ← readFile "/proc/self/environ"
  let text := Text.Utf8.decodeLenient (content.getD [])
  return (Text.splitOnChar '\x00' text).filterMap variableOf?

def machineWith (environment : Settings.Environment) (paths : List String) : IO Machine := do
  let contents ← paths.mapM fun path => do
    return (path, ← readFile path)
  return ⟨fun path => (contents.lookup path).join, environment, fun _ => true⟩

end BearerGate.Server

open BearerGate.Server in
def main (args : List String) : IO UInt32 := do
  let environment ← readEnvironment
  let bare ← machineWith environment []
  let withConfig ← machineWith environment (filesOf bare args)
  let machine ← machineWith environment (filesOf withConfig args)
  let outcome := run machine args
  match outcome with
  | .informed text => IO.println text
  | .misused => IO.eprintln "error: invalid arguments\n\nFor more information, try '--help'."
  | .failed _ => IO.eprintln (outcome.errorLine?.getD "")
  | .serving address _ => IO.eprintln ("Ready to listen on " ++ address.display)
  return outcome.exitCode.toUInt32
