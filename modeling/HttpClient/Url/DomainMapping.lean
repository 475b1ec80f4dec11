/-
# The mapping of characters in domain names

Before a domain name is compared or looked up, its characters are mapped: letters
to lower case, and compatibility forms to the characters they stand for.  Some
characters are dropped, and some are refused.  What is left is brought into
composed form, so that a name is one text however its marks were written.
-/
import HttpClient.Text.Composition
import HttpClient.Url.DomainMapping.Table

namespace HttpClient.Url.Domain

open Text

/-- What a character maps to: nothing at all if it is refused. -/
def mapChar? (c : Char) : Option (List Char) :=
  if c.toNat < 0x80 then some [c.toLower]
  else
    match replaced.get? c with
    | some text => some text
    | none =>
      if dropped.contains c then some [] else if refused.contains c then none else some [c]

/-- The mapped text, unless a character is refused. -/
def mapText? (cs : List Char) : Option (List Char) :=
  (cs.mapM mapChar?).map fun parts => composed parts.flatten

end HttpClient.Url.Domain
