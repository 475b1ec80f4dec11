/-
# Percent coding

A byte is written as `%` and two upper case hexadecimal digits.  The parts of a
url differ only in which ASCII characters they write that way; a character
outside ASCII is always written so, byte by byte.  Decoding takes digits of
either case and leaves a `%` that two digits do not follow as it is.
-/
import HttpClient.Encoding.Hex

namespace HttpClient.Percent

/-- The ASCII characters that a part of a url writes in percent coding. -/
abbrev Set := Char → Bool

def controls : Set := fun c => c.toNat < 0x20 || c.toNat = 0x7F

def fragmentSet : Set := fun c => controls c || " \"<>`".toList.contains c

def querySet : Set := fun c => controls c || " \"#<>".toList.contains c

/-- Queries of the schemes whose grammar the standard spells out. -/
def specialQuerySet : Set := fun c => querySet c || c = '\''

def pathSet : Set := fun c => fragmentSet c || "#?\x7b\x7d".toList.contains c

def userinfoSet : Set := fun c => pathSet c || "/:;=@[\\]^|".toList.contains c

def encodeByte (b : UInt8) : List Char :=
  ['%', Hex.upperDigit (b.toNat / 16), Hex.upperDigit (b.toNat % 16)]

/-- A character as a part of a url writes it. -/
def encodeChar (set : Set) (c : Char) : List Char :=
  if c.toNat < 0x80 && !set c then [c] else (String.utf8EncodeChar c).flatMap encodeByte

def encode (set : Set) (cs : List Char) : List Char := cs.flatMap (encodeChar set)

/-- The bytes of a text whose coded bytes are decoded. -/
def decode : List Char → Bytes
  | [] => []
  | '%' :: a :: b :: cs =>
    match Hex.value? a, Hex.value? b with
    | some hi, some lo => UInt8.ofNat (hi * 16 + lo) :: decode cs
    | _, _ => '%'.toNat.toUInt8 :: decode (a :: b :: cs)
  | c :: cs => String.utf8EncodeChar c ++ decode cs

end HttpClient.Percent
