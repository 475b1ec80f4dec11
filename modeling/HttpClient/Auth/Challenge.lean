/-
# Digest challenges

A challenge is the word `Digest` and a list of parameters separated by commas.  A
parameter value may stand between quotes; inside them a comma does not separate
and a backslash protects the character behind it.  The list is cut by a scan with
three states: outside quotes, inside them, and inside behind a backslash.  A list
that ends inside quotes is malformed.
-/
import HttpClient.Error
import HttpClient.Text.Blank

namespace HttpClient.Auth

open Text

/-! ## Lists with quoted strings -/

/-- Where a scan stands. -/
inductive Quoting where
  | outside
  | inside
  /-- Inside, behind a backslash. -/
  | escaped
deriving DecidableEq, Repr

/-- Where a scan stands behind one more character. -/
def Quoting.step (q : Quoting) (c : Char) : Quoting :=
  match q with
  | .outside => if c = '"' then .inside else .outside
  | .inside => if c = '\\' then .escaped else if c = '"' then .outside else .inside
  | .escaped => .inside

/-- The pieces between the commas outside quotes, unless the text ends inside quotes. -/
def scanList (q : Quoting) : List Char → Option (List (List Char))
  | [] => if q = .outside then some [[]] else none
  | c :: cs =>
    if q = .outside && c = ',' then (scanList .outside cs).map ([] :: ·)
    else
      (scanList (q.step c) cs).map fun
        | [] => [[c]]
        | p :: ps => (c :: p) :: ps

/-- The items of a list, trimmed, blank ones dropped, unless the text ends inside quotes. -/
def splitList (cs : List Char) : Option (List (List Char)) :=
  (scanList .outside cs).map fun ps => (ps.map trim).filter (· ≠ [])

/-- The text without the backslashes that protect a character. -/
def unescape : List Char → List Char
  | [] => []
  | '\\' :: [] => []
  | '\\' :: c :: cs => c :: unescape cs
  | c :: cs => c :: unescape cs

/-- The inside of a text that stands between quotes. -/
def betweenQuotes? (cs : List Char) : Option (List Char) :=
  match cs with
  | '"' :: rest => if rest.getLast? = some '"' then some rest.dropLast else none
  | _ => none

/-- A parameter value without its quotes and protecting backslashes. -/
def unquote (cs : List Char) : List Char :=
  let text := trim cs
  match betweenQuotes? text with
  | some inner => unescape inner
  | none => text

/-! ## Challenges -/

/-- What a server asks of an answer. -/
structure Challenge where
  realm : String
  nonce : String
  opaqueText : Option String
  /-- The qualities of protection on offer, as sent. -/
  qop : Option String
  /-- The name of the algorithm, as sent. -/
  algorithm : String
deriving DecidableEq, Repr

/-- What is wrong with a challenge, or with an answer to it. -/
inductive ChallengeFault where
  | otherScheme (scheme : String)
  | unbalancedQuotes
  | noValue (item : String)
  | noRealmOrNonce
  | unknownAlgorithm (name : String)
  | unknownQop (qop : String)
  /-- Only the protection of bodies is on offer. -/
  | bodiesOnly
deriving DecidableEq, Repr

/-- The failure of the call that met the fault. -/
def ChallengeFault.error : ChallengeFault → Error
  | .otherScheme s => .protocol ("not a digest challenge: " ++ s)
  | .unbalancedQuotes => .protocol "malformed digest challenge: unbalanced quotes"
  | .noValue item => .protocol ("malformed digest challenge field: " ++ item)
  | .noRealmOrNonce => .protocol "malformed digest challenge: missing realm or nonce"
  | .unknownAlgorithm name => .protocol ("unsupported digest algorithm: " ++ name)
  | .unknownQop qop => .protocol ("unexpected qop value in digest challenge: " ++ qop)
  | .bodiesOnly => .unimplemented "digest qop auth-int"

namespace Challenge

/-- A parameter: its name in lower case and its value. -/
abbrev Parameter := String × String

/-- The parameter that an item spells. -/
def parameter (item : List Char) : Except ChallengeFault Parameter :=
  match cut '=' item with
  | none => .error (.noValue (String.ofList item))
  | some (key, value) =>
    .ok (lower (String.ofList (trim key)), String.ofList (unquote value))

/-- The last value of a parameter. -/
def last? (name : String) (ps : List Parameter) : Option String :=
  ((ps.filter (·.1 = name)).map (·.2)).getLast?

/-- The challenge with these parameters; others are ignored. -/
def ofParameters (ps : List Parameter) : Except ChallengeFault Challenge :=
  match last? "realm" ps, last? "nonce" ps with
  | some realm, some nonce =>
    .ok ⟨realm, nonce, last? "opaque" ps, last? "qop" ps, (last? "algorithm" ps).getD "MD5"⟩
  | _, _ => .error .noRealmOrNonce

/-- The challenge that a text spells. -/
def parse (s : String) : Except ChallengeFault Challenge :=
  let text := trim s.toList
  let (scheme, fields) := (cut ' ' text).getD (text, [])
  if sameLetters (String.ofList scheme) "digest" then
    match splitList fields with
    | none => .error .unbalancedQuotes
    | some items => (items.mapM parameter).bind ofParameters
  else .error (.otherScheme (String.ofList scheme))

/-- Whether the answer is to use the quality `auth`: not if nothing is on offer, and a fault if only
other qualities are. -/
def usesAuth (c : Challenge) : Except ChallengeFault Bool :=
  match c.qop with
  | none => .ok false
  | some qop =>
    let offers := (pieces ',' qop.toList).map trim
    if offers.contains "auth".toList then .ok true
    else if offers = ["auth-int".toList] then .error .bodiesOnly
    else .error (.unknownQop qop)

end Challenge

end HttpClient.Auth
