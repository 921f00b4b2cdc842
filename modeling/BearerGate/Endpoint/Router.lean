import BearerGate.Auth.Extract
import BearerGate.Http.Query

/-!
Routers: which service answers for which path, and what becomes of a response on its way out. A
request for another path, or with a method other than those that read, has a service of its own
that answers without content; a layer is put around that one too.
-/

set_option autoImplicit false
set_option relaxedAutoImplicit false

namespace BearerGate

open Http (Query Request Response)

abbrev Router := String → Option Service

def readsOnly (method : String) : Bool := method == "GET" || method == "HEAD"

/-- What serves a request, and the methods that it is told to use instead. -/
structure Responder where
  service : Service
  allow : Option String

def Router.responder (router : Router) (r : Request) : Responder :=
  match router r.path with
  | none => ⟨fun _ _ => return Response.bare 404, none⟩
  | some service =>
    if readsOnly r.method then ⟨service, none⟩
    else ⟨fun _ _ => return Response.bare 405, some "GET,HEAD"⟩

/-- A response on its way out of the router: it says which methods to use and how long it is, and it
has no body if only its head was asked for. -/
def Responder.release (responder : Responder) (method : String) (response : Response) : Response :=
  let allowing := match responder.allow with
    | some methods => response.withHeader "allow" methods
    | none => response
  let measured := allowing.withHeader "content-length" (toString response.body.utf8ByteSize)
  -- A success to `CONNECT` would go out as it is, but only methods that read have one.
  if method = "HEAD" then measured.withoutBody else measured

/-- The layer stands around the service of each path and method, not around the router. -/
def Layer.application (l : Layer) (router : Router) : Service := fun r e => do
  let response ← l.protect (router.responder r).service r e
  return (router.responder r).release r.method response

/-- Serve a request with what an extractor gives, unless it refuses. -/
def unlessRefused {α : Type} (extracted : Except Refusal α) (serve : α → Held Response) :
    Held Response :=
  match extracted with
  | .ok a => serve a
  | .error refusal => return refusal.response

def unlessMalformed {α : Type} (value : Except Query.Malformed α) (serve : α → Held Response) :
    Held Response :=
  match value with
  | .ok a => serve a
  | .error fault => return Response.text 400 fault.message

end BearerGate
