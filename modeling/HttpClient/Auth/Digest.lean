/-
# Digest authentication

An answer to a challenge proves that the sender knows the password without
sending it.  `Answer` holds the fields of an answer; `response` is a hash of the
login, the challenge and the request, made with the algorithm that the challenge
names.

The challenges that servers sent are remembered per account and authority (host,
with the port unless it is the default one), so that later requests can answer
without being asked.  Each answer takes the next nonce count of its challenge.
The count starts again at 1 when the nonce changes and goes on when a challenge
with the same nonce is stored again; it wraps around at 32 bits.  Storing a
challenge and taking a count are two separate steps.
-/
import HttpClient.Auth.Basic
import HttpClient.Auth.Challenge
import HttpClient.Encoding.Hex
import HttpClient.Hash.Md5
import HttpClient.Hash.Sha1
import HttpClient.Hash.Sha256
import HttpClient.Hash.Sha512
import HttpClient.Message.Request

namespace HttpClient.Auth

/-! ## Algorithms -/

inductive HashFunction where
  | md5
  | sha1
  | sha256
  | sha512
deriving DecidableEq, Repr

def HashFunction.digest : HashFunction → Bytes → Bytes
  | .md5 => Hash.Md5.digest
  | .sha1 => Hash.Sha1.digest
  | .sha256 => Hash.Sha256.digest
  | .sha512 => Hash.Sha512.digest

/-- A hash function, and whether the login is hashed once more with the nonces of the session. -/
structure Algorithm where
  function : HashFunction
  session : Bool
deriving DecidableEq, Repr

namespace Algorithm

def names : List (String × Algorithm) :=
  [("MD5", ⟨.md5, false⟩), ("MD5-SESS", ⟨.md5, true⟩),
    ("SHA", ⟨.sha1, false⟩), ("SHA-SESS", ⟨.sha1, true⟩),
    ("SHA-256", ⟨.sha256, false⟩), ("SHA-256-SESS", ⟨.sha256, true⟩),
    ("SHA-512", ⟨.sha512, false⟩), ("SHA-512-SESS", ⟨.sha512, true⟩)]

/-- The algorithm that a text names, letters in any case. -/
def parse (s : String) : Except ChallengeFault Algorithm :=
  match names.find? (·.1 = Text.upper s) with
  | some (_, a) => .ok a
  | none => .error (.unknownAlgorithm s)

def hashBytes (a : Algorithm) (bytes : Bytes) : String := Hex.encode (a.function.digest bytes)

/-- The hash of texts joined by colons. -/
def hash (a : Algorithm) (parts : List String) : String :=
  a.hashBytes (Text.utf8 (Text.join ":" parts))

end Algorithm

/-! ## Answers -/

namespace Digest

/-- The part of an answer that is there when the quality `auth` is used. -/
structure Counted where
  /-- The nonce count in eight hexadecimal digits. -/
  count : String
  clientNonce : String
deriving DecidableEq, Repr

structure Answer where
  username : String
  realm : String
  nonce : String
  uri : String
  response : String
  algorithm : String
  opaqueText : Option String
  counted : Option Counted
deriving DecidableEq, Repr

namespace Answer

def quotedField (name value : String) : String := name ++ "=\"" ++ value ++ "\""

def fields (a : Answer) : List String :=
  [quotedField "username" a.username, quotedField "realm" a.realm, quotedField "nonce" a.nonce,
    quotedField "uri" a.uri, quotedField "response" a.response, "algorithm=" ++ a.algorithm]
  ++ (match a.opaqueText with
    | some o => [quotedField "opaque" o]
    | none => [])
  ++ (match a.counted with
    | some c => ["qop=auth", "nc=" ++ c.count, quotedField "cnonce" c.clientNonce]
    | none => [])

def text (a : Answer) : String := "Digest " ++ Text.join ", " a.fields

end Answer

/-- The hash of the login, with the nonces of the session if the algorithm asks for it. -/
def loginHash (a : Algorithm) (c : Challenge) (login : Login) (clientNonce : String) : String :=
  let plain := a.hash [login.username, c.realm, login.password]
  if a.session then a.hash [plain, c.nonce, clientNonce] else plain

/-- The answer to a challenge for one request. -/
def answer (login : Login) (c : Challenge) (method uri : String) (count : UInt32)
    (clientNonce : String) : Except ChallengeFault Answer := do
  let a ← Algorithm.parse c.algorithm
  let usesAuth ← c.usesAuth
  let nc := Hex.padded 8 count.toNat
  let first := loginHash a c login clientNonce
  let second := a.hash [method, uri]
  let response :=
    if usesAuth then a.hash [first, c.nonce, nc, clientNonce, "auth", second]
    else a.hash [first, c.nonce, second]
  return {
    username := login.username
    realm := c.realm
    nonce := c.nonce
    uri
    response
    algorithm := c.algorithm
    opaqueText := c.opaqueText
    counted := if usesAuth then some ⟨nc, clientNonce⟩ else none }

/-! ## Remembered challenges -/

/-- A remembered challenge and the nonce count of the next answer to it. -/
structure Remembered where
  challenge : Challenge
  count : UInt32
deriving DecidableEq, Repr

/-- What a challenge is remembered under: the account, and the authority that sent it. -/
structure Key where
  account : String
  authority : String
deriving DecidableEq, Repr

/-- The remembered challenges. -/
structure Store where
  entries : List (Key × Remembered)
deriving DecidableEq, Repr

namespace Store

def empty : Store := ⟨[]⟩

instance : Inhabited Store := ⟨empty⟩

def find? (s : Store) (k : Key) : Option Remembered := (s.entries.find? (·.1 = k)).map (·.2)

def put (s : Store) (k : Key) (r : Remembered) : Store :=
  ⟨(k, r) :: s.entries.filter (·.1 ≠ k)⟩

/-- Remembers a challenge. The count goes on if the nonce is the one remembered. -/
def store (s : Store) (k : Key) (c : Challenge) : Store :=
  match s.find? k with
  | some r => s.put k ⟨c, if r.challenge.nonce = c.nonce then r.count else 1⟩
  | none => s.put k ⟨c, 1⟩

/-- Takes the next count of the challenge remembered under a key. -/
def take (s : Store) (k : Key) : Option Remembered × Store :=
  match s.find? k with
  | some r => (some r, s.put k ⟨r.challenge, r.count + 1⟩)
  | none => (none, s)

theorem find?_put (s : Store) (k j : Key) (r : Remembered) :
    (s.put k r).find? j = if j = k then some r else s.find? j := by
  by_cases h : j = k
  · subst h; simp [find?, put]
  · have h' : ¬ k = j := fun x => h x.symm
    simp only [find?, put, h, if_false]
    congr 1
    rw [List.find?_cons_of_neg (by simpa using h')]
    rw [List.find?_filter]
    congr 1
    funext e
    by_cases he : e.1 = j
    · simp [he, h]
    · simp [he]

end Store

/-! ## Accounts -/

/-- A login for digest authentication. Accounts of one name share what they remember. -/
structure Account where
  /-- What the account's challenges are remembered under. -/
  name : String
  login : Login
  /-- The client nonce for a nonce count and a server nonce. -/
  clientNonce : UInt32 → String → String

namespace Account

/-- The key under which a challenge from the authority of a url is remembered. -/
def key (a : Account) (u : Url) : Key := ⟨a.name, u.hostAndPort⟩

/-- Puts the answer to a remembered challenge into a request: whether there was one to answer, the
request, and the store with the count taken. -/
def authorize (a : Account) (r : Request) (s : Store) : Except Error (Option Request) × Store :=
  match s.take (a.key r.url) with
  | (none, s) => (.ok none, s)
  | (some m, s) =>
    let result :=
      match answer a.login m.challenge r.method.text r.url.pathAndQuery m.count
          (a.clientNonce m.count m.challenge.nonce) with
      | .ok answer => (r.withAuthorization answer.text).map some
      | .error f => .error f.error
    (result, s)

/-- A client nonce made from the count and the server nonce: the first sixteen digits of a hash. -/
def hashedNonce (count : UInt32) (nonce : String) : String :=
  String.ofList
    ((Hex.encode (Hash.Sha1.digest (Text.utf8 (toString count.toNat ++ nonce)))).toList.take 16)

end Account

/-- The value of a response that carries a digest challenge: the first one that begins with the word
`Digest` and a space, letters in any case. -/
def offered? (headers : Headers) : Option String :=
  (headers.texts .wwwAuthenticate).find? fun s =>
    Text.sameLetters (String.ofList (s.toList.take 7)) "digest "

end Digest

end HttpClient.Auth
