/-
# Urls

A url is a scheme, an authority if it has one, a path, and perhaps a query and a
fragment.  The parts are held in their written form, that is with percent coding,
so printing only puts the parts together.  A port is held only where it differs
from the default port of the scheme, and a password only where it is not empty.

A url without an authority whose path does not begin with a slash (`mailto:x`)
has an opaque path: nothing can be resolved against it.
-/
import HttpClient.Text.Ascii
import HttpClient.Url.Address

namespace HttpClient

inductive Host where
  /-- A name, in the form in which it is looked up. -/
  | domain (name : String)
  /-- The 32-bit number of an IPv4 address. -/
  | ipv4 (address : Nat)
  /-- The eight 16-bit pieces of an IPv6 address. -/
  | ipv6 (pieces : List Nat)
deriving DecidableEq, Repr

def Host.text : Host → String
  | .domain name => name
  | .ipv4 n => Url.ipv4Text n
  | .ipv6 ps => "[" ++ Url.ipv6Text ps ++ "]"

structure Authority where
  username : String
  password : Option String
  host : Option Host
  port : Option Nat
deriving DecidableEq, Repr

def Authority.text (a : Authority) : String :=
  let login := match a.username, a.password with
    | "", none => ""
    | name, none => name ++ "@"
    | name, some word => name ++ ":" ++ word ++ "@"
  let host := (a.host.map Host.text).getD ""
  match a.port with
  | some p => login ++ host ++ ":" ++ toString p
  | none => login ++ host

/-- A url, its parts in their written form. -/
structure Url where
  scheme : String
  authority : Option Authority
  path : String
  query : Option String
  fragment : Option String
deriving DecidableEq, Repr

namespace Url

/-- The ways in which a text can fail to be a url. -/
inductive ParseError where
  | emptyHost
  | badDomain
  | badPort
  | badIpv4
  | badIpv6
  | badHostCharacter
  | relativeWithoutBase
  | relativeToOpaque
deriving DecidableEq, Repr

def ParseError.message : ParseError → String
  | .emptyHost => "empty host"
  | .badDomain => "invalid international domain name"
  | .badPort => "invalid port number"
  | .badIpv4 => "invalid IPv4 address"
  | .badIpv6 => "invalid IPv6 address"
  | .badHostCharacter => "invalid domain character"
  | .relativeWithoutBase => "relative URL without a base"
  | .relativeToOpaque => "relative URL with a cannot-be-a-base base"

/-- How much of the grammar a scheme fixes. -/
inductive Kind where
  /-- Files: the host may be empty, and drive letters are paths of their own. -/
  | file
  /-- The schemes of the web: a host is required. -/
  | web
  /-- All other schemes. -/
  | other
deriving DecidableEq, Repr

def Kind.of (scheme : String) : Kind :=
  if scheme = "file" then .file
  else if ["http", "https", "ws", "wss", "ftp"].contains scheme then .web
  else .other

/-- The schemes in whose urls a backslash is a slash. -/
def Kind.isSpecial (k : Kind) : Bool := k ≠ .other

/-- The port that a scheme uses when the url names none. -/
def defaultPort? (scheme : String) : Option Nat :=
  if scheme = "http" || scheme = "ws" then some 80
  else if scheme = "https" || scheme = "wss" then some 443
  else if scheme = "ftp" then some 21
  else none

def host? (u : Url) : Option Host := u.authority.bind (·.host)

def hostText? (u : Url) : Option String := u.host?.map Host.text

def hostText (u : Url) : String := u.hostText?.getD ""

def port? (u : Url) : Option Nat := u.authority.bind (·.port)

/-- The port to connect to: the named one, else the default of the scheme. -/
def effectivePort? (u : Url) : Option Nat := u.port?.or (defaultPort? u.scheme)

def username (u : Url) : String := (u.authority.map (·.username)).getD ""

def password? (u : Url) : Option String := u.authority.bind (·.password)

/-- Nothing can be resolved against the url. -/
def isOpaque (u : Url) : Bool := u.authority.isNone && u.path.toList.head? ≠ some '/'

/-- The host, with the port behind a colon if the url names one. -/
def hostAndPort (u : Url) : String :=
  match u.port? with
  | some p => u.hostText ++ ":" ++ toString p
  | none => u.hostText

/-- The path with the query: what a request asks for. -/
def pathAndQuery (u : Url) : String :=
  match u.query with
  | some q => u.path ++ "?" ++ q
  | none => u.path

/-- The url up to and without its fragment. Without an authority, a path that begins with two
slashes is kept apart from the scheme by `/.`, since it would otherwise read as an authority. -/
def textBeforeFragment (u : Url) : String :=
  let front := match u.authority with
    | some a => "//" ++ a.text
    | none => if "//".toList.isPrefixOf u.path.toList then "/." else ""
  u.scheme ++ ":" ++ front ++ u.pathAndQuery

def text (u : Url) : String :=
  match u.fragment with
  | some f => u.textBeforeFragment ++ "#" ++ f
  | none => u.textBeforeFragment

/-- Two urls have a host and it is the same up to the case of letters. -/
def sameHost (u v : Url) : Bool :=
  match u.hostText?, v.hostText? with
  | some a, some b => Text.sameLetters a b
  | _, _ => false

def withoutLogin (u : Url) : Url :=
  { u with authority := u.authority.map fun a => { a with username := "", password := none } }

end Url

end HttpClient
