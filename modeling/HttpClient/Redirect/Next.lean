/-
# The request behind a redirect

A redirect leads from the request that was answered to the next one.  The statuses
that do not keep the method turn every method but GET and HEAD into GET, and then
neither the body nor the fields that describe it go along.  `Host` and the cookies
are made anew for each request.  `Authorization` goes along only to the same host,
and there only if the scheme stays or becomes https.  A fragment stays until a
location names another one.
-/
import HttpClient.Message.Response
import HttpClient.Redirect.Location

namespace HttpClient.Redirect

/-- The schemes that redirects are followed to. -/
def isFollowedScheme (scheme : String) : Bool := scheme = "http" || scheme = "https"

/-- The credentials that were sent to one url may be sent to another. -/
def keepsAuthorization (previous next : Url) : Bool :=
  previous.sameHost next && (previous.scheme = next.scheme || next.scheme = "https")

/-- The redirect turns the request into a GET without a body. -/
def downgrades (status : Status) (method : Method) : Bool :=
  !status.keepsMethod && !method.isGetOrHead

/-- The url that a redirect response leads to from the url of its request. -/
def target (previous : Url) (response : Response) : Except Error Url :=
  match response.headers.firstText? .location with
  | none =>
    .error (.remoteProtocol ("invalid redirect location header from " ++ response.url.text))
  | some location =>
    match resolve previous location with
    | .error e => .error e
    | .ok url =>
      if isFollowedScheme url.scheme then
        .ok { url with fragment := url.fragment.or previous.fragment }
      else
        .error (.unsupportedProtocol
          ("redirect from " ++ response.url.text ++ " to scheme: " ++ url.scheme))

/-- The header fields that go along to the next url. -/
def headers (previous : Request) (status : Status) (url : Url) : Headers :=
  let described :=
    if downgrades status previous.method then
      (previous.headers.erase .contentLength).erase .transferEncoding
    else previous.headers
  let hostless := described.erase .host
  if keepsAuthorization previous.url url then hostless else hostless.erase .authorization

/-- The body that goes along. Where `lenient`, a source with nothing left goes along too, and the
failure comes when the request is sent. -/
def body (previous : Request) (status : Status) (lenient : Bool) : Except Error Body :=
  if downgrades status previous.method then .ok .empty
  else if lenient then .ok previous.body
  else previous.body.forResend

/-- The request that a redirect response leads to. -/
def next (previous : Request) (response : Response) (lenient : Bool) : Except Error Request := do
  let url ← target previous.url response
  let body ← body previous response.status lenient
  let moved : Request := {
    method := if downgrades response.status previous.method then .get else previous.method
    url
    headers := headers previous response.status url
    body }
  return moved.clearCookie

end HttpClient.Redirect
