/-
# Whole numbers in decimal

A number is one or more digits.  The readers of bounded numbers also take one
sign: a plus sign anywhere, a minus sign where negative numbers are meant.  A
number past the bound is no number, so a reader fails on it like on any other
text.
-/
namespace HttpClient.Text

def digit? (c : Char) : Option Nat := if c.isDigit then some (c.toNat - '0'.toNat) else none

/-- The number that the digits continue, `n` being the value of the digits before them. -/
def digitsFrom (n : Nat) : List Char → Option Nat
  | [] => some n
  | c :: cs => (digit? c).bind fun d => digitsFrom (10 * n + d) cs

/-- The value of a text of one or more digits. -/
def digits? : List Char → Option Nat
  | [] => none
  | cs => digitsFrom 0 cs

/-- A number from 0 to `max`, with an optional plus sign. -/
def natUpTo? (max : Nat) (cs : List Char) : Option Nat :=
  let body := match cs with
    | '+' :: ds => ds
    | ds => ds
  (digits? body).filter (· ≤ max)

/-- A number that fits in 64 bits with sign, with an optional sign. -/
def int64? (cs : List Char) : Option Int :=
  match cs with
  | '-' :: ds => ((digits? ds).filter (· ≤ 0x8000000000000000)).map fun n => -(n : Int)
  | '+' :: ds => ((digits? ds).filter (· < 0x8000000000000000)).map Int.ofNat
  | ds => ((digits? ds).filter (· < 0x8000000000000000)).map Int.ofNat

/-- A number of exactly so many digits at the head of a list of bytes or characters. -/
def fixedDigits? (n : Nat) (cs : List Char) : Option Nat :=
  if cs.length = n then digits? cs else none

end HttpClient.Text
