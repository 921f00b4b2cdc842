import BearerGate.Json.Printer
import BearerGate.Text.Pieces

/-!
Requests and responses, as far as authentication looks at them. Names of headers are compared
without regard to the case of ASCII letters.
-/

set_option autoImplicit false
set_option relaxedAutoImplicit false

namespace BearerGate.Http

/-- The headers of a request in their order; values need not be text. -/
abbrev Headers := List (String × List UInt8)

/-- The values of the headers of a name; the name is given in lower case. -/
def Headers.values (headers : Headers) (name : String) : List (List UInt8) :=
  (headers.filter fun h => Text.lowerAscii h.1 == name).map (·.2)

def Headers.has (headers : Headers) (name : String) : Bool :=
  headers.any fun h => Text.lowerAscii h.1 == name

structure Request where
  method : String
  path : String
  query : Option String
  headers : Headers

structure Target where
  path : String
  query : Option String
  deriving DecidableEq, Repr

namespace Target

def ofPathAndQuery (cs : List Char) : Target where
  path := String.ofList (Text.cutAt '?' cs).1
  query := (Text.cutAt '?' cs).2.map String.ofList

def orRoot (t : Target) : Target := if t.path = "" then { t with path := "/" } else t

def afterScheme? : List Char → Option (List Char)
  | ':' :: '/' :: '/' :: rest => some rest
  | _ :: rest => afterScheme? rest
  | [] => none

/-- What an address asks for. Of one with a scheme, only what follows the host counts. -/
def ofAddress (address : String) : Target :=
  let cs := (Text.cutAt '#' address.toList).1
  if cs.head? = some '/' then ofPathAndQuery cs
  else match afterScheme? cs with
    | some rest => (ofPathAndQuery (rest.dropWhile fun c => c != '/' && c != '?')).orRoot
    | none => ofPathAndQuery cs

end Target

structure Response where
  status : UInt16
  headers : List (String × String)
  body : String
  deriving DecidableEq, Repr

namespace Response

def values (r : Response) (name : String) : List String :=
  (r.headers.filter fun h => h.1 == name).map (·.2)

def bare (status : UInt16) : Response := ⟨status, [], ""⟩

def text (status : UInt16) (body : String) : Response :=
  ⟨status, [("content-type", "text/plain; charset=utf-8")], body⟩

def json (value : Json) : Response :=
  ⟨200, [("content-type", "application/json")], value.compact⟩

def withoutBody (r : Response) : Response := { r with body := "" }

/-- Add a header, unless there is one of its name already. -/
def withHeader (r : Response) (name value : String) : Response :=
  if (r.values name).isEmpty then { r with headers := r.headers ++ [(name, value)] } else r

end Response

end BearerGate.Http
