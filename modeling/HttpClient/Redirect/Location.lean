/-
# Locations

A redirect names its target by a text that is resolved against the url of the
request that was answered.  Servers sometimes write a scheme and two slashes and
then leave the host out; such a location keeps the host and port of the request.
-/
import HttpClient.Error
import HttpClient.Text.Blank
import HttpClient.Url.Parser

namespace HttpClient.Redirect

open Text

/-- The text is a scheme: a letter, and then letters, digits, `+`, `-` and `.`. -/
def isScheme : List Char → Bool
  | [] => false
  | c :: cs => c.isAlpha && cs.all fun c => c.isAlphanum || c = '+' || c = '-' || c = '.'

def endsAuthority (c : Char) : Bool := c = '/' || c = '?' || c = '#'

/-- A location that begins with a scheme and two slashes. -/
structure Absolute where
  scheme : List Char
  authority : List Char
  /-- What stands behind the authority. -/
  rest : List Char

namespace Absolute

/-- The parts of a location of this form. -/
def split? (location : List Char) : Option Absolute :=
  match cutWord "://".toList location with
  | none => none
  | some (scheme, behind) =>
    if isScheme scheme then
      some ⟨scheme, behind.takeWhile (!endsAuthority ·), behind.dropWhile (!endsAuthority ·)⟩
    else none

/-- The authority behind the login. -/
def host (a : Absolute) : List Char := ((cutLast '@' a.authority).map (·.2)).getD a.authority

/-- The location with another authority. -/
def withAuthority (a : Absolute) (authority : String) : List Char :=
  a.scheme ++ "://".toList ++ authority.toList ++ a.rest

end Absolute

/-- The location, with the host and port of the base where it has a scheme and lacks a host. A host
that is not ASCII is refused. -/
def complete (base : Url) (location : List Char) : Except Error (List Char) :=
  match Absolute.split? location with
  | none => .ok location
  | some a =>
    if a.host.all (·.toNat < 128) then
      .ok (if a.host = [] then a.withAuthority base.hostAndPort else location)
    else
      .error (.remoteProtocol ("invalid redirect location from " ++ base.text
        ++ ", non-ascii host: " ++ String.ofList location))

/-- The url that a location names, seen from a url. -/
def resolve (base : Url) (location : String) : Except Error Url :=
  match complete base (trim location.toList) with
  | .error e => .error e
  | .ok target =>
    match Url.resolve base (String.ofList target) with
    | .ok url => .ok url
    | .error e =>
      .error (.remoteProtocol ("invalid redirect location from " ++ base.text ++ " "
        ++ String.ofList target ++ ": " ++ e.message))

end HttpClient.Redirect
