/-
# Basic authentication

User name and password are sent in every request, joined by a colon and written
in Base64.  Nothing is encrypted, and nothing but the base url's scheme decides
whether that is wise.
-/
import HttpClient.Encoding.Base64
import HttpClient.Message.Request

namespace HttpClient.Auth

structure Login where
  username : String
  password : String
deriving DecidableEq, Repr

namespace Login

/-- The `Authorization` value. -/
def basic (l : Login) : String :=
  "Basic " ++ Base64.encode (Text.utf8 (l.username ++ ":" ++ l.password))

def apply (l : Login) (r : Request) : Except Error Request := r.withAuthorization l.basic

def describe (name : String) (username : String) : String :=
  Text.openRecord name [("username", Text.quoted username)]

end Login

end HttpClient.Auth
