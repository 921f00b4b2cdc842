import BearerGate.Endpoint.Roles
import BearerGate.Server.Address
import BearerGate.Settings.Load

/-!
The command line of the server: what the arguments ask for, and what happens before the first
request is served. Arguments are read in their order, and the first one that asks for help, or that
cannot be read, decides.
-/

set_option autoImplicit false
set_option relaxedAutoImplicit false

namespace BearerGate.Server

inductive LogFormat
  | text | json
  deriving DecidableEq, Repr

structure Options where
  config : Option String
  bind : Address
  logFormat : LogFormat

inductive Invocation
  | help
  | version
  | serve (options : Options)

inductive OptionName
  | config | bind | logFormat
  deriving DecidableEq, Repr

structure Given where
  config : Option String
  bind : Option Address
  logFormat : Option LogFormat

namespace CommandLine

def longOption? : String → Option OptionName
  | "config" => some .config
  | "bind" => some .bind
  | "log-format" => some .logFormat
  | _ => none

def shortOption? : Char → Option OptionName
  | 'c' => some .config
  | 'b' => some .bind
  | _ => none

def logFormat? : String → Option LogFormat
  | "text" => some .text
  | "json" => some .json
  | _ => none

def set (given : Given) (name : OptionName) (value : String) : Option Given :=
  match name with
  | .config =>
    if given.config.isSome || value.isEmpty then none else some { given with config := some value }
  | .bind =>
    if given.bind.isSome then none
    else (Address.ofText? value).map fun address => { given with bind := some address }
  | .logFormat =>
    if given.logFormat.isSome then none
    else (logFormat? value).map fun format => { given with logFormat := some format }

/-- Where the server listens if nothing else is said: port 8080 of all its addresses. -/
def defaultAddress : Address := ⟨.v4 [0, 0, 0, 0], 8080⟩

def finish (given : Given) : Options :=
  ⟨given.config, given.bind.getD defaultAddress, given.logFormat.getD .text⟩

inductive Argument
  | help
  | version
  /-- An option whose value is the next argument. -/
  | opening (name : OptionName)
  | assignment (name : OptionName) (value : String)
  /-- The mark that only other arguments follow. -/
  | last
  | unknown

def readLong (cs : List Char) : Argument :=
  match Text.cutAt '=' cs with
  | (name, none) =>
    if name = [] then .last
    else if name = "help".toList then .help
    else if name = "version".toList then .version
    else match longOption? (String.ofList name) with
      | some option => .opening option
      | none => .unknown
  | (name, some value) => match longOption? (String.ofList name) with
    | some option => .assignment option (String.ofList value)
    | none => .unknown

/-- An option of one letter, after the dash. The value may follow at once or after an equals sign.
-/
def readShort : List Char → Argument
  | 'h' :: _ => .help
  | 'V' :: _ => .version
  | c :: rest => match shortOption? c with
    | none => .unknown
    | some option => match rest with
      | [] => .opening option
      | '=' :: value => .assignment option (String.ofList value)
      | value => .assignment option (String.ofList value)
  | [] => .unknown

def readArgument (arg : String) : Argument :=
  match arg.toList with
  | '-' :: '-' :: rest => readLong rest
  | '-' :: rest => readShort rest
  | _ => .unknown

/-- Whether an argument can be the value of the option before it. -/
def isValue (arg : String) : Bool := arg == "-" || arg.toList.head? != some '-'

/-- What arguments ask for, after those that have been read; nothing if they cannot be read. -/
def read (given : Given) : List String → Option Invocation
  | [] => some (.serve (finish given))
  | arg :: rest => match readArgument arg with
    | .help => some .help
    | .version => some .version
    | .assignment name value => match set given name value with
      | some given => read given rest
      | none => none
    | .opening name => match rest with
      | [] => none
      | value :: rest =>
        if isValue value then match set given name value with
          | some given => read given rest
          | none => none
        else none
    | .last => if rest.isEmpty then some (.serve (finish given)) else none
    | .unknown => none

def parse? (args : List String) : Option Invocation := read ⟨none, none, none⟩ args

end CommandLine

/-- What the server needs to know of the machine it runs on. -/
structure Machine where
  files : Files
  environment : Settings.Environment
  canBind : Address → Bool

/-- How the program ends, or that it starts to serve. A service depends on the time in seconds. -/
inductive Outcome
  | informed (text : String)
  | misused
  | failed (context : String)
  | serving (address : Address) (service : UInt64 → Service)

namespace Outcome

def exitCode : Outcome → UInt8
  | .informed _ => 0
  | .misused => 2
  | .failed _ => 1
  | .serving _ _ => 0

def errorLine? : Outcome → Option String
  | .failed context => some ("Error: " ++ context)
  | _ => none

end Outcome

def orFail {ε α : Type} (context : String) : Except ε α → Except String α
  | .ok a => .ok a
  | .error _ => .error context

def serviceOf (files : Files) (settings : Settings) : Except String (UInt64 → Service) := do
  let registry ← orFail "invalid claim injection points" (Injection.bootstrap Endpoint.points)
  let context ← orFail "invalid authentication settings" (AuthContext.ofSettings files settings)
  let policy ← orFail "invalid public routes" (Policy.ofSettings settings)
  let roles ← orFail "failed to build the roles endpoint" (Endpoint.Roles.ofRegistry registry)
  return fun now =>
    let mechanism : Mechanism := ⟨context, Jwt.rs256 now, ⟨settings.roleMappings⟩⟩
    (Layer.mk mechanism policy (some registry)).application roles.router

def start (machine : Machine) (options : Options) : Except String (UInt64 → Service) := do
  let settings ← orFail "failed to load configuration"
    (Settings.load machine.files options.config machine.environment)
  let service ← serviceOf machine.files settings
  if machine.canBind options.bind then return service
  else throw ("failed to bind " ++ options.bind.display)

def helpText : String :=
  "MP-JWT bearer authentication demo server\n\nUsage: mpjwt-server [OPTIONS]\n\nOptions:\n" ++
    "  -c, --config <CONFIG>          YAML configuration file\n" ++
    "  -b, --bind <BIND>              Address to listen on\n" ++
    "      --log-format <LOG_FORMAT>  Log output format\n" ++
    "  -h, --help                     Print help\n" ++
    "  -V, --version                  Print version"

def versionText : String := "mpjwt-server 0.1.0"

def run (machine : Machine) (args : List String) : Outcome :=
  match CommandLine.parse? args with
  | none => .misused
  | some .help => .informed helpText
  | some .version => .informed versionText
  | some (.serve options) => match start machine options with
    | .ok service => .serving options.bind service
    | .error context => .failed context

/-- The files that a run looks at, as far as those that are known tell. -/
def filesOf (machine : Machine) (args : List String) : List String :=
  match CommandLine.parse? args with
  | some (.serve options) =>
    let named := match Settings.load machine.files options.config machine.environment with
      | .ok settings => settings.issuerFile.toList ++ settings.signerKeyFile.toList
      | .error _ => []
    options.config.toList ++ named
  | _ => []

end BearerGate.Server
