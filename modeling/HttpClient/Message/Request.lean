/-
# Requests

A request owns its method, url, header fields and body.  It also remembers
whether its `Cookie` field was written from the cookie jar: such a field follows
the jar, while one that somebody else wrote is left alone.
-/
import HttpClient.Message.Body
import HttpClient.Message.Header
import HttpClient.Message.Token
import HttpClient.Url.Parser

namespace HttpClient

/-- The method, url and header fields of a request: what a response refers back to. -/
structure RequestHead where
  method : Method
  url : Url
  headers : Headers
deriving DecidableEq

structure Request where
  method : Method
  url : Url
  headers : Headers := .empty
  body : Body := .empty
  /-- The `Cookie` field was written from the jar. -/
  cookieFromJar : Bool := false
deriving DecidableEq

namespace Request

/-- The request for the url that a text names. -/
def parse (method : Method) (url : String) : Except Error Request :=
  match Url.parse url with
  | .ok u => .ok { method, url := u }
  | .error e => .error (.ofUrl e)

def head (r : Request) : RequestHead := ⟨r.method, r.url, r.headers⟩

/-- A name and a value, checked in this order. -/
def field (name : String) (value : Bytes) : Except Error (HeaderName × HeaderValue) := do
  let n ← HeaderName.parse name
  let v ← HeaderValue.parse value
  return (n, v)

/-- The request with one value in place of all those of a name. -/
def setHeader (r : Request) (name : String) (value : Bytes) : Except Error Request := do
  let (n, v) ← field name value
  return { r with headers := r.headers.set n v }

/-- The request with one more value of a name. -/
def appendHeader (r : Request) (name : String) (value : Bytes) : Except Error Request := do
  let (n, v) ← field name value
  return { r with headers := r.headers.append n v }

/-- The request with these parts, which are looked at in this order. -/
def ofParts (method url : String) (fields : List (String × Bytes)) (body : Body) :
    Except Error Request := do
  let m ← Method.parse method
  let r ← parse m url
  let r ← fields.foldlM (fun r (name, value) => r.appendHeader name value) r
  return { r with body }

/-- The request with the given `Authorization` value. -/
def withAuthorization (r : Request) (value : String) : Except Error Request := do
  let v ← HeaderValue.ofText value
  return { r with headers := r.headers.set .authorization v }

/-- The request with its `Cookie` field following the jar, which renders as given. A field that
somebody else wrote stays as it is. -/
def applyJarCookie (r : Request) (rendered : Option String) : Except Error Request :=
  if r.headers.contains .cookie && !r.cookieFromJar then .ok r
  else
    match rendered with
    | some s => do
      let v ← HeaderValue.ofText s
      return { r with headers := r.headers.set .cookie v, cookieFromJar := true }
    | none => .ok { r with headers := r.headers.erase .cookie, cookieFromJar := false }

/-- The request without a `Cookie` field, whoever wrote it. -/
def clearCookie (r : Request) : Request :=
  { r with headers := r.headers.erase .cookie, cookieFromJar := false }

def describe (r : Request) : String :=
  Text.record "Request"
    [("method", r.method.text), ("url", Text.quoted r.url.text), ("headers", r.headers.quoted),
      ("body", r.body.describe)]

end Request

end HttpClient
