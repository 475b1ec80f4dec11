/-
# Composed characters

A letter with marks on it can be written in several ways: as one composed
character, as the letter and its marks one after the other, and with marks in
another order where the order does not matter.  The composed form of a text is the
one way among them that takes whatever there is a composed character for.  It is
found in three steps: composed characters are taken apart, the marks behind a
letter are put in the order of their classes, and letters and marks are put
together again.

A syllable of the Korean script is composed of a leading consonant, a vowel and
perhaps a trailing consonant, and its code point is counted from them.
-/
import HttpClient.Text.Composition.Table

namespace HttpClient.Text

/-- The class of a mark, and zero for a character that is no mark of that kind. -/
def combiningClass (c : Char) : Nat :=
  if c.toNat < 0x300 then 0 else (combiningClasses.get? c).getD 0

def isAmong (first count n : Nat) : Bool := first ≤ n && n < first + count

def firstSyllable : Nat := 0xAC00

/-- The parts of a Korean syllable. -/
def syllableParts (c : Char) : List Char :=
  let n := c.toNat - firstSyllable
  let opened := [Char.ofNat (0x1100 + n / 588), Char.ofNat (0x1161 + n % 588 / 28)]
  if n % 28 = 0 then opened else opened ++ [Char.ofNat (0x11A7 + n % 28)]

/-- The Korean syllable of two parts: a consonant and a vowel, or a syllable and a consonant that
closes it. -/
def syllable? (a b : Char) : Option Char :=
  if isAmong 0x1100 19 a.toNat && isAmong 0x1161 21 b.toNat then
    some (Char.ofNat (firstSyllable + ((a.toNat - 0x1100) * 21 + (b.toNat - 0x1161)) * 28))
  else if isAmong firstSyllable 11172 a.toNat && (a.toNat - firstSyllable) % 28 = 0
      && isAmong 0x11A8 27 b.toNat then
    some (Char.ofNat (a.toNat + (b.toNat - 0x11A7)))
  else none

/-- The letter and the marks of a composed character. -/
def decompose (c : Char) : List Char :=
  if c.toNat < 0xC0 then [c]
  else if isAmong firstSyllable 11172 c.toNat then syllableParts c
  else (decompositions.get? c).getD [c]

/-- The text with a character in front, behind the marks of a lower class. -/
def placeMark (c : Char) : List Char → List Char
  | [] => [c]
  | d :: ds =>
    if 0 < combiningClass d && combiningClass d < combiningClass c then d :: placeMark c ds
    else c :: d :: ds

/-- The text with the marks behind each letter in the order of their classes; marks of one class
keep their order. -/
def sortMarks (cs : List Char) : List Char := cs.foldr placeMark []

/-- The character that two characters make. -/
def compose? (a b : Char) : Option Char :=
  if a.toNat < 0x80 && b.toNat < 0x300 then none
  else (syllable? a b).orElse fun _ => compositions.at? (CharTable.pair a b)

/-- The text with letters and marks put together, behind the letter `a` and the marks `between`
that did not go together with it. A mark behind one of its own class or a higher one is out of
reach. -/
def composeFrom (a : Char) (between : List Char) : List Char → List Char
  | [] => a :: between
  | c :: cs =>
    let reached := between.all fun m => combiningClass m < combiningClass c
    match if reached then compose? a c else none with
    | some b => composeFrom b between cs
    | none =>
      if combiningClass c = 0 then a :: between ++ composeFrom c [] cs
      else composeFrom a (between ++ [c]) cs

/-- The text with letters and marks put together. -/
def composeMarks : List Char → List Char
  | [] => []
  | c :: cs => if combiningClass c = 0 then composeFrom c [] cs else c :: composeMarks cs

/-- The composed form of a text. -/
def composed (cs : List Char) : List Char :=
  composeMarks (sortMarks (cs.flatMap decompose))

end HttpClient.Text
