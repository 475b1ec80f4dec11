/-
# Proxies from the environment

The environment names a proxy for each scheme and one for all schemes, and a list
of targets that are reached without a proxy.  Each variable has a spelling in
upper case and one in lower case; the upper one wins if it is there, and a blank
value counts as none.

An entry of the list is a star, a mount pattern, a name behind `*.` or `.` (the
hosts below that name), or a plain name (that host and the hosts below it).  An
entry that looks like a mount pattern and is none excludes nothing.
-/
import HttpClient.Routing.MountPattern
import HttpClient.Text.Blank
import HttpClient.Url.Parser

namespace HttpClient

open Text

/-- The values of variables by name. -/
abbrev Environment := String → Option String

namespace Environment

def isBlankText (s : String) : Bool := s.toList.all isBlank

/-- The value of a variable in either spelling. -/
def lookup (env : Environment) (name : String) : Option String :=
  ((env (upper name)).or (env (lower name))).filter (!isBlankText ·)

end Environment

structure Proxy where
  url : Url
  hasHost : url.host?.isSome = true
deriving DecidableEq

namespace Proxy

/-- The proxy that a text names, as a url or as a host with an optional port. -/
def parse (s : String) : Except Error Proxy :=
  let text := String.ofList (trim s.toList)
  let full := if (cutWord "://".toList text.toList).isSome then text else "http://" ++ text
  match Url.parse full with
  | .error e => .error (.proxy ("invalid proxy url: " ++ e.message))
  | .ok url =>
    if h : url.host?.isSome = true then .ok ⟨url, h⟩
    else .error (.proxy "proxy url without host")

/-- What the connections to a proxy are shared under: its scheme, host and port. -/
def key (p : Proxy) : String :=
  p.url.scheme ++ "://" ++ p.url.hostText ++ ":" ++ toString (p.url.effectivePort?.getD 0)

/-- The proxy in a description, which leaves the login out. -/
def describe (p : Proxy) : String := "Proxy(" ++ p.url.scheme ++ "://" ++ p.url.hostText ++ ")"

end Proxy

/-- An entry in a list of targets that are reached without a proxy. -/
inductive Exclusion where
  /-- Everything. -/
  | everything
  /-- The urls that a pattern admits. -/
  | mount (pattern : MountPattern)
  /-- The hosts below a name. -/
  | below (name : List Char)
  /-- A host and the hosts below it. -/
  | within (name : List Char)
  /-- Nothing. -/
  | nothing
deriving DecidableEq, Repr

namespace Exclusion

/-- The entry that a text spells, which is trimmed and in lower case. -/
def read (entry : List Char) : Exclusion :=
  if entry = [] then .nothing
  else if entry = ['*'] then .everything
  else if (cutWord "://".toList entry).isSome then
    match MountPattern.parse? (String.ofList entry) with
    | some p => .mount p
    | none => .nothing
  else
    match entry with
    | '*' :: '.' :: name => .below name
    | '.' :: name => .below name
    | name => .within name

/-- The entry excludes a url with this host in lower case. -/
def excludes (e : Exclusion) (u : Url) (host : List Char) : Bool :=
  match e with
  | .everything => true
  | .mount p => p.admits u
  | .below name => ('.' :: name).isSuffixOf host
  | .within name => host == name || ('.' :: name).isSuffixOf host
  | .nothing => false

end Exclusion

/-- The entries of a list of targets that are reached without a proxy. -/
def exclusions (list : String) : List Exclusion :=
  (pieces ',' list.toList).map fun piece => .read ((trim piece).map Char.toLower)

/-- The list excludes the url. -/
def excludes (list : String) (u : Url) : Bool :=
  (exclusions list).any (·.excludes u (lower u.hostText).toList)

namespace Environment

/-- The variable with the proxy of a scheme. -/
def schemeVariable? (scheme : String) : Option String :=
  if scheme = "https" then some "https_proxy"
  else if scheme = "http" then some "http_proxy"
  else none

/-- The text that names the proxy for a url, if the environment sends it through one. -/
def proxyText? (env : Environment) (u : Url) : Option String :=
  if (env.lookup "no_proxy").any (excludes · u) then none
  else ((schemeVariable? u.scheme).bind env.lookup).or (env.lookup "all_proxy")

/-- The proxy for a url, if the environment sends it through one. -/
def proxy (env : Environment) (u : Url) : Except Error (Option Proxy) :=
  match env.proxyText? u with
  | none => .ok none
  | some text => (Proxy.parse text).map some

end Environment

end HttpClient
