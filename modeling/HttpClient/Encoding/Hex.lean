/-
# Hexadecimal

Digests are written with two lower case hexadecimal digits for each byte; percent
coding writes and reads upper case ones and takes either case.
-/
import HttpClient.Text.Utf8

namespace HttpClient.Hex

def digit (n : Nat) : Char := if n < 10 then Char.ofNat (48 + n) else Char.ofNat (87 + n)

def upperDigit (n : Nat) : Char := if n < 10 then Char.ofNat (48 + n) else Char.ofNat (55 + n)

/-- The value of a digit in either case. -/
def value? (c : Char) : Option Nat :=
  if c.isDigit then some (c.toNat - 48)
  else if 'a' ≤ c && c ≤ 'f' then some (c.toNat - 87)
  else if 'A' ≤ c && c ≤ 'F' then some (c.toNat - 55)
  else none

/-- Two lower case digits for each byte. -/
def encode (bytes : Bytes) : String :=
  String.ofList (bytes.flatMap fun b => [digit (b.toNat / 16), digit (b.toNat % 16)])

/-- The bytes that pairs of digits stand for. -/
def decode? : List Char → Option Bytes
  | [] => some []
  | [_] => none
  | a :: b :: cs => do
    let hi ← value? a
    let lo ← value? b
    let rest ← decode? cs
    return UInt8.ofNat (hi * 16 + lo) :: rest

/-- The number that digits write; another character counts as the digit zero. -/
def number (cs : List Char) : Nat := cs.foldl (fun n c => 16 * n + (value? c).getD 0) 0

def ofNat (n : Nat) : String := String.ofList (Nat.toDigits 16 n)

/-- The digits of a number in base sixteen, padded with zeros to a width. -/
def padded (width n : Nat) : String :=
  let digits := Nat.toDigits 16 n
  String.ofList (List.replicate (width - digits.length) '0' ++ digits)

end HttpClient.Hex
