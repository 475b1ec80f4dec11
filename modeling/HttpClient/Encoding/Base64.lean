/-
# Base64

The standard alphabet with padding: three bytes become four characters of six
bits each, and a last group of one or two bytes is filled up with `=`.  The
decoder takes the written form and nothing else, so `decode?` is the inverse of
`encode` and not a tolerant reader.
-/
import HttpClient.Text.Utf8

namespace HttpClient.Base64

/-- The character for six bits. -/
def digit (n : Nat) : Char :=
  if n < 26 then Char.ofNat (65 + n)
  else if n < 52 then Char.ofNat (71 + n)
  else if n < 62 then Char.ofNat (n - 4)
  else if n = 62 then '+'
  else '/'

/-- The six bits of a character of the alphabet. -/
def value? (c : Char) : Option Nat :=
  if c.isUpper then some (c.toNat - 65)
  else if c.isLower then some (c.toNat - 71)
  else if c.isDigit then some (c.toNat + 4)
  else if c = '+' then some 62
  else if c = '/' then some 63
  else none

/-- The written form of a byte string. -/
def encodeChars : Bytes → List Char
  | [] => []
  | [a] =>
    let n := a.toNat * 16
    [digit (n / 64), digit (n % 64), '=', '=']
  | [a, b] =>
    let n := (a.toNat * 256 + b.toNat) * 4
    [digit (n / 4096), digit (n / 64 % 64), digit (n % 64), '=']
  | a :: b :: c :: rest =>
    let n := (a.toNat * 256 + b.toNat) * 256 + c.toNat
    digit (n / 262144) :: digit (n / 4096 % 64) :: digit (n / 64 % 64) :: digit (n % 64)
      :: encodeChars rest

def encode (bytes : Bytes) : String := String.ofList (encodeChars bytes)

/-- The byte string that a text is the written form of. -/
def decodeChars? : List Char → Option Bytes
  | [] => some []
  | [p, q, '=', '='] => do
    let n := (← value? p) * 64 + (← value? q)
    if n % 16 = 0 then some [UInt8.ofNat (n / 16)] else none
  | [p, q, r, '='] => do
    let n := ((← value? p) * 64 + (← value? q)) * 64 + (← value? r)
    if n % 4 = 0 then some [UInt8.ofNat (n / 1024), UInt8.ofNat (n / 4 % 256)] else none
  | p :: q :: r :: s :: rest => do
    let n := (((← value? p) * 64 + (← value? q)) * 64 + (← value? r)) * 64 + (← value? s)
    let bytes ← decodeChars? rest
    return UInt8.ofNat (n / 65536) :: UInt8.ofNat (n / 256 % 256) :: UInt8.ofNat (n % 256) :: bytes
  | _ => none

def decode? (s : String) : Option Bytes := decodeChars? s.toList

end HttpClient.Base64
