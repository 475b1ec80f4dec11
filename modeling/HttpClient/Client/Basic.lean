/-
# Clients

A client is a configuration: where exchanges go, how they authenticate, which
redirects are followed, which header fields every request gets, and who looks on.
What its calls share and change is the session: the cookie jar, the remembered
digest challenges, the connections to proxies and the journal.

The outside parties are functions that may look at the journal.  The clock is one
of them: it shows a time for everything that has happened so far.
-/
import HttpClient.Auth.Flow
import HttpClient.Cookie.Jar
import HttpClient.Redirect.Chain
import HttpClient.Routing.Router

namespace HttpClient

/-- Performs exchanges: hands over requests and brings back responses. -/
structure Transport where
  /-- What the journal calls the transport. -/
  name : String
  /-- The transport reads the request body before it answers. -/
  readsBody : Bool
  /-- How many milliseconds pass before a request is handed over. -/
  delay : RequestHead → Option Nat
  /-- The answer to a request with this body. -/
  respond : Journal → RequestHead → Body → Except Error Response

/-- Is shown something on its way, and may change or refuse it. -/
abbrev Hook (α : Type) := Journal → α → Except Error α

/-- Is shown every request before it is sent. -/
abbrev RequestHook := Hook Request

/-- Is shown every response after it was received. -/
abbrev ResponseHook := Hook Response

/-- How calls are made. -/
structure Client where
  router : Router Transport
  auth : Option Auth
  followRedirects : Bool
  maxRedirects : Nat
  defaultHeaders : Headers
  /-- What the urls of calls are resolved against. -/
  baseUrl : Option Url
  requestHooks : List RequestHook
  responseHooks : List ResponseHook
  clock : Journal → Instant

/-- What the calls of a client share and change. -/
structure Session where
  jar : Jar := .empty
  digests : Auth.Digest.Store := .empty
  connections : Connections Transport := .empty
  journal : Journal := []

instance : Inhabited Session := ⟨{}⟩

/-- What a client is made from. -/
structure Settings where
  /-- The transport of exchanges that go nowhere else. -/
  transport : Transport
  mounts : List (String × Transport) := []
  auth : Option Auth := none
  followRedirects : Bool := true
  maxRedirects : Nat := Redirect.defaultMax
  trustEnvironment : Bool := true
  environment : Environment := fun _ => none
  connector : Option (Connector Transport) := none
  defaultHeaders : List (String × Bytes) := []
  baseUrl : Option String := none
  requestHooks : List RequestHook := []
  responseHooks : List ResponseHook := []
  clock : Journal → Instant := fun _ => .epoch

namespace Settings

/-- The header fields that these names and values are, unless one of them is none. -/
def headers (fields : List (String × Bytes)) : Except Error Headers :=
  (fields.mapM fun (name, value) => Request.field name value).map Headers.mk

/-- The router with these transports mounted, unless a pattern is none. -/
def mountAll (r : Router Transport) (mounts : List (String × Transport)) :
    Except Error (Router Transport) :=
  mounts.foldlM (fun r (pattern, t) => r.mount pattern t) r

/-- The client. What is wrong with the header fields is reported first, then what is wrong with the
base url, then what is wrong with the mounts. -/
def build (s : Settings) : Except Error Client := do
  let defaultHeaders ← headers s.defaultHeaders
  let baseUrl ← match s.baseUrl with
    | none => .ok none
    | some text => ((Url.parse text).mapError Error.ofUrl).map some
  let router ← mountAll
    { default := s.transport
      trustEnvironment := s.trustEnvironment
      environment := s.environment
      connector := s.connector }
    s.mounts
  return {
    router
    auth := s.auth
    followRedirects := s.followRedirects
    maxRedirects := s.maxRedirects
    defaultHeaders
    baseUrl
    requestHooks := s.requestHooks
    responseHooks := s.responseHooks
    clock := s.clock }

end Settings

namespace Client

def describe (c : Client) : String := Text.openRecord "Client" [("router", c.router.describe)]

/-- A client whose callers await, in a description, with so many permits free. -/
def describeAsync (c : Client) (permits : Nat) : String :=
  Text.openRecord "AsyncClient"
    [("router", c.router.describe), ("available_permits", toString permits)]

end Client

end HttpClient
