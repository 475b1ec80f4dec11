/-
# Setting a cookie

A `Set-Cookie` value is a name and a value followed by attributes, of which two
matter: `Expires` with a date and `Max-Age` with a number of seconds.  Of several
attributes of one kind the last that can be read counts, and a `Max-Age` wins
over an `Expires`.  A lifetime of zero or less means that the cookie has expired
at the epoch; a positive lifetime ends that many seconds from now, and never if
the clock cannot show that time.
-/
import HttpClient.Text.Blank
import HttpClient.Time.HttpDate

namespace HttpClient

/-- What a response asks of the cookie jar. -/
structure SetCookie where
  name : String
  value : String
  /-- When the cookie expires, if it does. -/
  expires : Option Instant
deriving DecidableEq, Repr

namespace SetCookie

open Text

abbrev Attribute := List Char × List Char

/-- The attribute that a segment spells. -/
def readAttribute (segment : List Char) : Attribute :=
  match cut '=' segment with
  | some (key, value) => (trim key, trim value)
  | none => (trim segment, [])

/-- The attribute has this name, letters in any case. -/
def Attribute.isNamed (a : Attribute) (name : String) : Bool :=
  sameLetters (String.ofList a.1) name

/-- The last date among the `Expires` attributes. -/
def expiresOf (attributes : List Attribute) : Option Instant :=
  ((attributes.filter (·.isNamed "expires")).filterMap fun a => HttpDate.parse? a.2).getLast?

/-- The last number of seconds among the `Max-Age` attributes. -/
def maxAgeOf (attributes : List Attribute) : Option Int :=
  ((attributes.filter (·.isNamed "max-age")).filterMap fun a => int64? a.2).getLast?

/-- When a cookie with these attributes expires, if it does. -/
def expiry (attributes : List Attribute) (now : Instant) : Option Instant :=
  match maxAgeOf attributes with
  | some seconds => if seconds ≤ 0 then some .epoch else now.later? seconds.toNat
  | none => expiresOf attributes

/-- The name and value of the first segment. The name may not be empty; quotes around the value do
not belong to it. -/
def nameAndValue? (segment : List Char) : Option (String × String) :=
  match cut '=' segment with
  | none => none
  | some (name, value) =>
    if trim name = [] then none
    else some (String.ofList (trim name), String.ofList (strip (· = '"') (trim value)))

/-- What a `Set-Cookie` value asks for at a time, if it is well formed. -/
def parse? (s : String) (now : Instant) : Option SetCookie :=
  match pieces ';' s.toList with
  | [] => none
  | first :: segments =>
    (nameAndValue? first).map fun (name, value) =>
      ⟨name, value, expiry (segments.map readAttribute) now⟩

end SetCookie

end HttpClient
