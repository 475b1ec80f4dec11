/-
# Mount patterns

A mount pattern `scheme://host:port` says for which urls a transport is meant.
The scheme `all` stands for every scheme and a missing port for every port.  The
host has four forms: any host, the hosts below a name, a name with the hosts
below it, and a single name.  A url that a pattern admits gives it a score, which
is the greater the more the pattern says: a port counts four, a host form two and
a scheme one, so that a port outweighs the other two together.
-/
import HttpClient.Error
import HttpClient.Text.Decimal

namespace HttpClient

open Text

def Text.endsWith (s word : String) : Bool := word.toList.isSuffixOf s.toList

/-- Which hosts a pattern admits. -/
inductive HostForm where
  /-- All hosts, and the lack of one. -/
  | any
  /-- The hosts below a name. -/
  | below (name : String)
  /-- A name and the hosts below it. -/
  | within (name : String)
  /-- A name. -/
  | only (name : String)
deriving DecidableEq, Repr

namespace HostForm

/-- The form that a text in lower case spells. -/
def read : List Char → HostForm
  | [] => .any
  | ['*'] => .any
  | '*' :: '.' :: name => .below (String.ofList name)
  | '*' :: name => .within (String.ofList name)
  | name => .only (String.ofList name)

def admits : HostForm → String → Bool
  | .any, _ => true
  | .below name, host => endsWith host ("." ++ name)
  | .within name, host => host == name || endsWith host ("." ++ name)
  | .only name, host => host == name

end HostForm

structure MountPattern where
  /-- The pattern as it was given. -/
  text : String
  /-- The scheme in lower case, `none` for every scheme. -/
  scheme : Option String
  host : HostForm
  /-- The port, `none` for every port. -/
  port : Option Nat
deriving DecidableEq, Repr

namespace MountPattern

/-- The host and the port that the text behind the slashes names, if its port is one. An IPv6
address without a port is all host, though it has colons. -/
def hostAndPort? (rest : List Char) : Option (List Char × Option Nat) :=
  match cutLast ':' rest with
  | none => some (rest, none)
  | some (host, port) =>
    if host.head? = some '[' && host.getLast? ≠ some ']' then some (rest, none)
    else (natUpTo? 65535 port).map fun p => (host, some p)

/-- The pattern that a text spells. -/
def parse? (s : String) : Option MountPattern := do
  let (before, behind) ← cutWord "://".toList s.toList
  let scheme := before.map Char.toLower
  if scheme = [] then none
  else
    let (host, port) ← hostAndPort? (dropEnd (· == '/') behind)
    return {
      text := s
      scheme := if scheme = "all".toList then none else some (String.ofList scheme)
      host := .read (host.map Char.toLower)
      port }

/-- The pattern that a text spells, or the failure that it spells none. -/
def parse (s : String) : Except Error MountPattern :=
  (parse? s).elim (.error (.invalidMountPattern s)) .ok

def admits (p : MountPattern) (u : Url) : Bool :=
  p.scheme.all (· == u.scheme) && p.host.admits (lower u.hostText)
    && p.port.all (u.effectivePort? == some ·)

/-- How much the pattern says. -/
def weight (p : MountPattern) : Nat :=
  (if p.scheme.isSome then 1 else 0) + 2 + (if p.port.isSome then 4 else 0)

def score? (p : MountPattern) (u : Url) : Option Nat := if p.admits u then some p.weight else none

def describe (p : MountPattern) : String := "MountPattern(" ++ p.text ++ ")"

end MountPattern

end HttpClient
