/-
# Punycode

A label with characters outside ASCII is written as its ASCII characters, a
hyphen, and the other characters as a sequence of steps: each step says how far
to advance through the pairs of a code point and a place in the label, code
point first.  The length of a step is written in base 36 with digits whose
weights adapt to the steps before, so that labels of one script stay short.
-/
import HttpClient.Text.Ascii

namespace HttpClient.Url.Punycode

/-- The digit for a value below 36: letters first. -/
def digit (n : Nat) : Char := if n < 26 then Char.ofNat (97 + n) else Char.ofNat (22 + n)

/-- The value of a digit in either case. -/
def value? (c : Char) : Option Nat :=
  if c.isLower then some (c.toNat - 97)
  else if c.isUpper then some (c.toNat - 65)
  else if c.isDigit then some (c.toNat - 22)
  else none

/-- The threshold of the digit at a place, places counting in steps of 36. -/
def threshold (bias place : Nat) : Nat :=
  if place ≤ bias then 1 else if bias + 26 ≤ place then 26 else place - bias

/-- The number of places by which large steps move the thresholds; the fuel bounds the halvings. -/
def scaled : Nat → Nat → Nat → Nat
  | 0, delta, k => k + 36 * delta / (delta + 38)
  | fuel + 1, delta, k =>
    if 455 < delta then scaled fuel (delta / 35) (k + 36) else k + 36 * delta / (delta + 38)

/-- The bias after a step, the label then having so many characters. -/
def adapt (delta size : Nat) (first : Bool) : Nat :=
  let d := if first then delta / 700 else delta / 2
  scaled (d + d / size) (d + d / size) 0

/-- The digits of a step; the fuel is at least the number of digits. -/
def stepDigits (bias : Nat) : Nat → Nat → Nat → List Char
  | 0, _, _ => []
  | fuel + 1, place, q =>
    let t := threshold bias place
    if q < t then [digit q]
    else digit (t + (q - t) % (36 - t)) :: stepDigits bias fuel (place + 36) ((q - t) / (36 - t))

/-- Where the encoder stands: the next code point, the length of the step under way, the bias, how
many characters are written, and the digits. -/
structure Encoder where
  next : Nat
  delta : Nat
  bias : Nat
  written : Nat
  digits : List Char

/-- One character of the label, while the characters with code point `point` are being written. -/
def Encoder.visit (basic point : Nat) (e : Encoder) (c : Char) : Encoder :=
  if c.toNat < point then { e with delta := e.delta + 1 }
  else if c.toNat = point then
    { next := e.next
      delta := 0
      bias := adapt e.delta (e.written + 1) (e.written = basic)
      written := e.written + 1
      digits := e.digits ++ stepDigits e.bias (e.delta + 1) 36 e.delta }
  else e

/-- Writes the characters with one code point. -/
def Encoder.point (label : List Char) (basic : Nat) (e : Encoder) (point : Nat) : Encoder :=
  let e := { e with delta := e.delta + (point - e.next) * (e.written + 1) }
  let e := label.foldl (Encoder.visit basic point) e
  { e with delta := e.delta + 1, next := point + 1 }

/-- The code points outside ASCII of a label, in ascending order, each once. -/
def foreignPoints (label : List Char) : List Nat :=
  (((label.map Char.toNat).filter (0x80 ≤ ·)).eraseDups).mergeSort (· ≤ ·)

def encode (label : List Char) : List Char :=
  let basic := label.filter (·.toNat < 0x80)
  let start : Encoder := ⟨0x80, 0, 72, basic.length, []⟩
  let done := (foreignPoints label).foldl (Encoder.point label basic.length) start
  (if basic = [] then [] else basic ++ ['-']) ++ done.digits

/-- The step at the head of a text and the text behind it: `sum` and `weight` belong to the digits
read so far. The weight of a digit has at most 32 bits. -/
def readStep (bias : Nat) (place sum weight : Nat) : List Char → Option (Nat × List Char)
  | [] => none
  | c :: cs => (value? c).bind fun d =>
    let t := threshold bias place
    if d < t then some (sum + d * weight, cs)
    else if UInt32.size ≤ weight * (36 - t) then none
    else readStep bias (place + 36) (sum + d * weight) (weight * (36 - t)) cs

/-- Reads steps until the text ends, `place` being where the last one arrived; the fuel is the length
of the text. -/
def readSteps (point place bias : Nat) (label : List Char) : Nat → List Char → Option (List Char)
  | _, [] => some label
  | 0, _ => none
  | fuel + 1, cs => do
    let (delta, rest) ← readStep bias 36 0 1 cs
    let size := label.length + 1
    let next := point + (place + delta) / size
    let arrived := (place + delta) % size
    if next < 0xD800 || (0xE000 ≤ next && next < 0x110000) then
      readSteps next (arrived + 1) (adapt delta size (place = 0))
        (label.insertIdx arrived (Char.ofNat next)) fuel rest
    else none

/-- The label that a text is the written form of. A hyphen at its beginning divides nothing, and it
is no digit either. -/
def decode? (text : List Char) : Option (List Char) :=
  let (basic, digits) := ((Text.cutLast '-' text).filter (·.1 ≠ [])).getD ([], text)
  if basic.all (·.toNat < 0x80) then readSteps 0x80 0 72 basic digits.length digits else none

end HttpClient.Url.Punycode
