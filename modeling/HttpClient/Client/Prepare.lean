/-
# Preparing a call

Before anything is sent, the request is checked and completed.  Its url needs a
scheme of the web and a host.  A login in the url is taken out of it, so that it
is never sent as part of a url; it serves as basic authentication if neither the
call nor the client has any.  The client's default header fields are added name
by name: where the request has a name, none of its default values are used.
-/
import HttpClient.Client.Basic
import HttpClient.Encoding.Percent

namespace HttpClient

open Auth

/-- What a call sets for itself. -/
structure Options where
  auth : Option Auth := none
  followRedirects : Option Bool := none

/-- A call that is ready to start. -/
structure Prepared where
  request : Request
  flow : Flow
  follow : Bool

namespace Prepared

/-- A url that a call can be made to, or the failure that it is none. -/
def checkUrl (u : Url) : Except Error Unit :=
  if !Redirect.isFollowedScheme u.scheme then
    .error (.unsupportedProtocol ("request url scheme: " ++ u.scheme))
  else if u.hostText = "" then
    .error (.unsupportedProtocol ("request url without host: " ++ u.text))
  else .ok ()

/-- A part of a login in a url, read back from percent coding. -/
def decodeLogin (part : String) : Except Error String :=
  let bytes := Percent.decode part.toList
  match Text.decode? bytes with
  | some s => .ok s
  | none =>
    let report := ((Text.fault? bytes).map Text.Utf8Fault.message).getD ""
    .error (.invalidUrl ("url userinfo: " ++ report))

/-- The login in a url. -/
def login? (u : Url) : Except Error (Option Login) :=
  if u.username = "" && u.password?.isNone then .ok none
  else do
    let username ← decodeLogin u.username
    let password ← decodeLogin (u.password?.getD "")
    return some ⟨username, password⟩

end Prepared

/-- Checks and completes a request. -/
def Client.prepare (c : Client) (r : Request) (options : Options) : Except Error Prepared := do
  Prepared.checkUrl r.url
  let login ← Prepared.login? r.url
  return {
    request := {
      r with
      url := r.url.withoutLogin
      headers := r.headers.withDefaults c.defaultHeaders }
    flow := .ofAuth (options.auth.or (c.auth.or (login.map .basic)))
    follow := options.followRedirects.getD c.followRedirects }

end HttpClient
