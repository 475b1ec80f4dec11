/-
# Responses

A response is what one exchange brought back.  An answer is what a whole call
brought back: the response of its last exchange, the responses of the exchanges
before it, oldest first, and, where redirects are not followed, the request that
would have followed the last one.
-/
import HttpClient.Message.Request

namespace HttpClient

/-- What one exchange brought back. -/
structure Response where
  status : Status
  version : Version := .http11
  headers : Headers := .empty
  body : Body := .empty
  url : Url
  /-- The head of the request that was answered, once the exchange is done. -/
  request : Option RequestHead := none
deriving DecidableEq

namespace Response

/-- The response with these parts, which are looked at in this order. -/
def ofParts (status : Nat) (url : String) (version : Version) (fields : List (String × Bytes))
    (body : Body) : Except Error Response := do
  let status ← Status.parse status
  let url ← (Url.parse url).mapError Error.ofUrl
  let headers ← fields.mapM fun (name, value) => Request.field name value
  return { status, version, headers := ⟨headers⟩, body, url }

/-- A redirect that names a location. -/
def isRedirect (r : Response) : Bool := r.status.isRedirect && r.headers.contains .location

/-- The bytes of the body, and the response with its body in memory. If reading fails, the body is
as the failure left it. -/
def read (mode : Mode) (r : Response) : Except Error Bytes × Response :=
  match r.body.readAll mode with
  | (.ok bytes, _) => (.ok bytes, { r with body := .full bytes })
  | (.error e, body) => (.error e, { r with body })

/-- The body as a text, if it is in memory. -/
def text? (r : Response) : Option String := r.body.bytes?.map Text.decodeLossy

def close (r : Response) : Response := { r with body := r.body.close }

def describe (r : Response) (history : Nat) : String :=
  Text.record "Response"
    [("status", toString r.status.code), ("url", Text.quoted r.url.text),
      ("history", toString history), ("body", r.body.describe)]

end Response

/-- What a whole call brought back. -/
structure Answer where
  /-- The response of the last exchange. -/
  response : Response
  /-- The responses of the exchanges before, oldest first. -/
  history : List Response
  /-- The request that a redirect asked for and that was not sent. -/
  next : Option Request
deriving DecidableEq

end HttpClient
