/-
# Methods, statuses and versions

A method is a token and keeps its case.  A status is a number of three digits.
The statuses 301, 302, 303, 307 and 308 are redirects; the last two ask for the
same request again, the others turn all but GET and HEAD into GET.
-/
import HttpClient.Error
import HttpClient.Text.Decimal

namespace HttpClient

/-- A request method: a token, its case kept. -/
structure Method where
  text : String
  isToken : text ≠ "" ∧ text.toList.all Text.isTokenChar = true
deriving DecidableEq

namespace Method

def ofString? (s : String) : Option Method :=
  if h : s ≠ "" ∧ s.toList.all Text.isTokenChar = true then some ⟨s, h⟩ else none

/-- The method that a text names, or the failure that it names none. -/
def parse (s : String) : Except Error Method :=
  (ofString? s).elim (.error (.badHeader "invalid HTTP method")) .ok

def get : Method := ⟨"GET", by decide⟩
def head : Method := ⟨"HEAD", by decide⟩
def post : Method := ⟨"POST", by decide⟩

instance : Inhabited Method := ⟨get⟩

/-- The method that only fetches, which a redirect never changes. -/
def isGetOrHead (m : Method) : Bool := m = get || m = head

end Method

/-- A response status: three digits, the first not zero. -/
structure Status where
  code : Nat
  inRange : 100 ≤ code ∧ code ≤ 999
deriving DecidableEq

namespace Status

def ofNat? (n : Nat) : Option Status :=
  if h : 100 ≤ n ∧ n ≤ 999 then some ⟨n, h⟩ else none

/-- The status with a number, or the failure that there is none. -/
def parse (n : Nat) : Except Error Status :=
  (ofNat? n).elim (.error (.badHeader "invalid status code")) .ok

def ofString? (s : String) : Option Status := (Text.fixedDigits? 3 s.toList).bind ofNat?

/-- The request lacks an answer to a challenge. -/
def unauthorized : Status := ⟨401, by decide⟩

/-- The status of a redirect that is followed when the response names a location. -/
def isRedirect (s : Status) : Bool := [301, 302, 303, 307, 308].contains s.code

/-- The redirect asks for the same method and body. -/
def keepsMethod (s : Status) : Bool := s.code = 307 || s.code = 308

end Status

/-- The version of the protocol that a response speaks. -/
inductive Version where
  | http10
  | http11
deriving DecidableEq, Repr

def Version.text : Version → String
  | .http10 => "HTTP/1.0"
  | .http11 => "HTTP/1.1"

end HttpClient
