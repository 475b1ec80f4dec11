/-
# Tables of characters

What the Unicode standard says about single characters is data, and it is given as
a table: a row of stretches of code points, in ascending order, with one value for
each stretch.  A character is looked up by halving the row.

A table is written as a text of words.  A word is a stretch and its value with a
colon between them; a stretch is a number, or two numbers with a hyphen between
them; numbers are hexadecimal.  Tables that give a text for each character write
the texts of neighbours behind one colon, with commas between them.
-/
import HttpClient.Encoding.Hex
import HttpClient.Text.Blank

namespace HttpClient.Text

/-- The numbers from `first` to `last`, and what they stand for. -/
structure Stretch (α : Type) where
  first : Nat
  last : Nat
  value : α

/-- A row of stretches in ascending order. -/
structure CharTable (α : Type) where
  stretches : Array (Stretch α)

namespace CharTable

variable {α : Type}

/-- The place of the first stretch from `lo` on that does not end before `n`, if `hi` is not before
it. -/
def seek (t : CharTable α) (n lo hi : Nat) : Nat :=
  if lo < hi then
    let mid := (lo + hi) / 2
    if t.stretches[mid]?.any (·.last < n) then t.seek n (mid + 1) hi else t.seek n lo mid
  else lo
termination_by hi - lo

/-- What a number stands for. -/
def at? (t : CharTable α) (n : Nat) : Option α :=
  (t.stretches[t.seek n 0 t.stretches.size]?.filter (·.first ≤ n)).map (·.value)

def get? (t : CharTable α) (c : Char) : Option α := t.at? c.toNat

def contains (t : CharTable α) (c : Char) : Bool := (t.get? c).isSome

/-! ## Reading -/

/-- The two parts of a text at a character, the second one like the first if it is not there. -/
def halves (c : Char) (cs : List Char) : List Char × List Char := (cut c cs).getD (cs, cs)

/-- A stretch with its value. -/
def stretch (value : List Char → α) (word : List Char) : Stretch α :=
  let (place, text) := halves ':' word
  let (first, last) := halves '-' place
  ⟨Hex.number first, Hex.number last, value text⟩

/-- A text, its characters written as numbers with plus signs between them. -/
def characters (cs : List Char) : List Char :=
  (pieces '+' cs).map fun digits => Char.ofNat (Hex.number digits)

/-- The table of words that each give one value to one stretch. -/
def read (value : List Char → α) (text : String) : CharTable α :=
  ⟨((words text.toList).map (stretch value)).toArray⟩

def readSet (text : String) : CharTable Unit := read (fun _ => ()) text

/-- The table of words that give texts to neighbours. -/
def readTexts (text : String) : CharTable (List Char) :=
  ⟨((words text.toList).flatMap fun word =>
    let (first, texts) := halves ':' word
    (pieces ',' texts).mapIdx fun i text =>
      let n := Hex.number first + i
      ⟨n, n, characters text⟩).toArray⟩

/-- The number that stands for two characters in order. -/
def pair (a b : Char) : Nat := a.toNat * 0x110000 + b.toNat

/-- The table of words that give one character to two, with an equals sign between them. -/
def readPairs (text : String) : CharTable Char :=
  ⟨((words text.toList).map fun word =>
    let (two, one) := halves '=' word
    let (a, b) := halves '+' two
    let n := Hex.number a * 0x110000 + Hex.number b
    ⟨n, n, Char.ofNat (Hex.number one)⟩).toArray⟩

end CharTable

end HttpClient.Text
