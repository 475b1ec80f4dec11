/-
# Drafts

A draft is a call that is still being put together: a method, a url that may be
relative to the base url of the client, header fields, a body, and what the call
sets for itself.  The first thing that is wrong with it is kept until it is sent,
and what is added after that does not count.
-/
import HttpClient.Client.Prepare

namespace HttpClient

/-- A call that is being put together. -/
structure Draft where
  request : Except Error Request
  options : Options := {}

namespace Client

/-- The url of a call. A url without scheme or host that there is no base for is one that calls
cannot be made to. -/
def callUrl (c : Client) (text : String) : Except Error Url :=
  let parsed := match c.baseUrl with
    | some base => Url.resolve base text
    | none => Url.parse text
  match parsed with
  | .ok url => .ok url
  | .error e =>
    if e = .relativeWithoutBase || e = .emptyHost then
      .error (.unsupportedProtocol (e.message ++ ": " ++ text))
    else .error (.ofUrl e)

def draft (c : Client) (method : Method) (url : String) : Draft :=
  { request := (c.callUrl url).map fun url => { method, url } }

end Client

namespace Draft

/-- The draft with one more value of a name. -/
def header (d : Draft) (name : String) (value : Bytes) : Draft :=
  { d with request := d.request.bind (·.appendHeader name value) }

def body (d : Draft) (body : Body) : Draft :=
  { d with request := d.request.map ({ · with body }) }

/-- The draft with authentication for this call. -/
def auth (d : Draft) (auth : Auth) : Draft :=
  { d with options := { d.options with auth := some auth } }

/-- The draft following redirects or not. -/
def followRedirects (d : Draft) (follow : Bool) : Draft :=
  { d with options := { d.options with followRedirects := some follow } }

def describe (d : Draft) : String :=
  let request := match d.request with
    | .ok r => Text.item "Ok" [r.describe]
    | .error e => Text.item "Err" [e.describe]
  Text.openRecord "RequestBuilder" [("request", request)]

end Draft

end HttpClient
