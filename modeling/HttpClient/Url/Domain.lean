/-
# Domain names

A domain name is brought into the ASCII form in which it is looked up: letters in
lower case, and each label with characters outside ASCII in Punycode behind
`xn--`.  A name is refused if, so mapped, it contains a character that no host
may contain, a label behind `xn--` that is not the Punycode of a mapped label, or a
label that begins with a mark, has joiners out of place, is too long, or mixes the
directions of writing.
-/
import HttpClient.Text.Mark
import HttpClient.Url.Direction
import HttpClient.Url.DomainMapping
import HttpClient.Url.Joining
import HttpClient.Url.Punycode

namespace HttpClient.Url.Domain

open Text

/-- The ASCII characters that no domain name may contain. -/
def isForbidden (c : Char) : Bool :=
  c.toNat ≤ 0x20 || c.toNat = 0x7F || "%#/:<>?@[\\]^|".toList.contains c

def isForeign (c : Char) : Bool := 0x80 ≤ c.toNat

/-- The word before the Punycode of a label. -/
def ace : List Char := "xn--".toList

/-- The characters that a mapped label stands for, in composed form. -/
def readLabel? (label : List Char) : Option (List Char) :=
  if ace.isPrefixOf label then do
    if 2000 < label.length - 4 then none
    let characters ← Punycode.decode? (label.drop 4)
    let mapped ← mapText? characters
    if characters.any isForeign && mapped = characters then some characters else none
  else some label

/-- The characters of a label may be looked up together. -/
def isLabel (characters : List Char) : Bool :=
  !characters.head?.any isMark && joinersFit [] characters
    && (characters.length ≤ 1000 || !characters.any isForeign)

def labelToAscii (label : List Char) : List Char :=
  if label.any isForeign then ace ++ Punycode.encode label else label

def toAscii? (name : List Char) : Option (List Char) := do
  let mapped ← mapText? name
  if mapped.any isForbidden then none
  let labels := pieces '.' mapped
  let read ← labels.mapM readLabel?
  if read.all isLabel && keepDirections read then
    some (['.'].intercalate (labels.map labelToAscii))
  else none

end HttpClient.Url.Domain
