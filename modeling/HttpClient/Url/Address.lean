/-
# Numeric hosts

A host whose last label is a number is an IPv4 address or an error; a host in
brackets is an IPv6 address or an error.  Each IPv4 part may be decimal, octal
(leading `0`) or hexadecimal (leading `0x`), and the last part fills all bytes
that the parts before it leave.  An IPv6 address may leave out one run of zero
pieces and may write its last two pieces as an IPv4 address; it is printed with
the first longest run of two or more zero pieces left out.
-/
import HttpClient.Encoding.Hex
import HttpClient.Text.Ascii
import HttpClient.Text.Decimal

namespace HttpClient.Url

open Text

/-! ## IPv4 -/

/-- The value of a text of digits in a base. -/
def digitsIn? (base : Nat) (cs : List Char) : Option Nat :=
  cs.foldl
    (fun n c => n.bind fun n => ((Hex.value? c).filter (· < base)).map fun d => n * base + d)
    (some 0)

/-- The number that one part of an IPv4 address denotes. -/
def ipv4Number? : List Char → Option Nat
  | [] => none
  | '0' :: 'x' :: ds => digitsIn? 16 ds
  | '0' :: 'X' :: ds => digitsIn? 16 ds
  | ['0'] => some 0
  | '0' :: ds => digitsIn? 8 ds
  | ds => digitsIn? 10 ds

/-- The last label that is not the empty one behind a final dot is a number. -/
def endsInNumber (domain : List Char) : Bool :=
  let labels := pieces '.' domain
  let last := match labels.reverse with
    | [] :: l :: _ => some l
    | [[]] => none
    | l :: _ => some l
    | [] => none
  match last with
  | none => false
  | some l => (l ≠ [] && l.all Char.isDigit) || (ipv4Number? l).isSome

/-- The 32-bit number of an address whose parts have these values: every part but the last is one
byte, and the last fills the rest. -/
def ipv4OfParts? (parts : List Nat) : Option Nat :=
  match parts.reverse with
  | [] => none
  | last :: front =>
    let front := front.reverse
    if front.length < 4 && last < 1 <<< (8 * (4 - front.length)) && front.all (· ≤ 255) then
      some (front.foldl (fun n b => n * 256 + b) 0 <<< (8 * (4 - front.length)) + last)
    else none

def ipv4? (domain : List Char) : Option Nat :=
  let labels := match (pieces '.' domain).reverse with
    | [] :: rest => rest.reverse
    | all => all.reverse
  if 4 < labels.length then none
  else (labels.mapM ipv4Number?).bind ipv4OfParts?

/-- The four decimal bytes of an address. -/
def ipv4Text (n : Nat) : String :=
  s!"{n / 16777216 % 256}.{n / 65536 % 256}.{n / 256 % 256}.{n % 256}"

/-! ## IPv6 -/

/-- An IPv6 address while it is read: its pieces so far, and how many of them stand before the run
of zero pieces that is left out. -/
structure Ipv6Draft where
  pieces : List Nat
  gap : Option Nat

/-- The eight pieces, with the zeros of the gap put in. -/
def Ipv6Draft.close (d : Ipv6Draft) : Option (List Nat) :=
  match d.gap with
  | some g => some (d.pieces.take g ++ List.replicate (8 - d.pieces.length) 0 ++ d.pieces.drop g)
  | none => if d.pieces.length = 8 then some d.pieces else none

/-- One byte of an IPv4 address at the end of an IPv6 address: no leading zero, at most 255. -/
def ipv4Byte? (cs : List Char) : Option Nat :=
  match cs with
  | '0' :: _ :: _ => none
  | ds => (digits? ds).filter (· ≤ 255)

/-- The IPv4 address at the end of an IPv6 address, as two pieces. -/
def Ipv6Draft.closeIpv4 (d : Ipv6Draft) (cs : List Char) : Option (List Nat) :=
  if 6 < d.pieces.length then none
  else
    match (Text.pieces '.' cs).mapM ipv4Byte? with
    | some [a, b, c, e] => Ipv6Draft.close ⟨d.pieces ++ [a * 256 + b, c * 256 + e], d.gap⟩
    | _ => none

/-- Reads pieces until the text ends; the fuel is the length of the text. -/
def Ipv6Draft.read (d : Ipv6Draft) : Nat → List Char → Option (List Nat)
  | _, [] => d.close
  | 0, _ => none
  | fuel + 1, c :: cs =>
    if d.pieces.length = 8 then none
    else if c = ':' then
      if d.gap.isSome then none
      else Ipv6Draft.read ⟨d.pieces ++ [0], some (d.pieces.length + 1)⟩ fuel cs
    else
      let isHex := fun c => (Hex.value? c).isSome
      let digits := ((c :: cs).take 4).takeWhile isHex
      let rest := (c :: cs).drop digits.length
      let more : Ipv6Draft :=
        ⟨d.pieces ++ [digits.foldl (fun n c => n * 16 + (Hex.value? c).getD 0) 0], d.gap⟩
      match rest with
      | [] => more.close
      | '.' :: _ => if digits = [] then none else d.closeIpv4 (c :: cs)
      | [':'] => none
      | ':' :: rest => more.read fuel rest
      | _ => none

/-- The eight pieces of the IPv6 address that the text between the brackets denotes. -/
def ipv6? (cs : List Char) : Option (List Nat) :=
  match behind "::".toList cs with
  | some rest => Ipv6Draft.read ⟨[0], some 1⟩ rest.length rest
  | none =>
    if cs.head? = some ':' || cs.length < 2 then none
    else Ipv6Draft.read ⟨[], none⟩ cs.length cs

/-- How many pieces at the head of a list are zero. -/
def leadingZeros : List Nat → Nat
  | 0 :: ps => leadingZeros ps + 1
  | _ => 0

/-- The place and length of the first longest run of zero pieces. -/
def longestZeros (ps : List Nat) : Nat × Nat :=
  (List.range ps.length).foldl
    (fun best i =>
      let n := leadingZeros (ps.drop i)
      if best.2 < n then (i, n) else best)
    (0, 0)

def ipv6Pieces (ps : List Nat) : String := Text.join ":" (ps.map Hex.ofNat)

/-- The printed address, without the brackets. -/
def ipv6Text (ps : List Nat) : String :=
  let (start, length) := longestZeros ps
  if length < 2 then ipv6Pieces ps
  else ipv6Pieces (ps.take start) ++ "::" ++ ipv6Pieces (ps.drop (start + length))

end HttpClient.Url
