/-
# Bytes and their reading as text

Bodies, header values and the results of percent decoding are byte strings.
`scan` reads a byte string as UTF-8 from the left and says, piece by piece, what
it found: a character, a run of bytes that no character starts with, or a
character that the end of the string cuts off.  A run ends before the first byte
that could not have continued it, so the strict reading (`decode?`), its failure
report (`fault?`) and the lossy reading (`decodeLossy`) are three views of one
scan.
-/
namespace HttpClient

abbrev Bytes := List UInt8

namespace Text

/-- The UTF-8 form of a text. -/
def utf8 (s : String) : Bytes := s.toList.flatMap String.utf8EncodeChar

/-- What a scan of a byte string found at one place. -/
inductive Utf8Piece where
  /-- A character in its shortest form. -/
  | char (c : Char)
  /-- So many bytes that are the beginning of no character, or break off before its end. -/
  | invalid (length : Nat)
  /-- So many bytes of a character whose last bytes are missing at the end of the string. -/
  | truncated (length : Nat)
deriving DecidableEq, Repr

/-- How many bytes a character with this first byte has, and the range of its second byte. -/
def Utf8Piece.lead (a : UInt8) : Option (Nat × UInt8 × UInt8) :=
  if a < 0xC2 then none
  else if a < 0xE0 then some (2, 0x80, 0xBF)
  else if a = 0xE0 then some (3, 0xA0, 0xBF)
  else if a = 0xED then some (3, 0x80, 0x9F)
  else if a < 0xF0 then some (3, 0x80, 0xBF)
  else if a = 0xF0 then some (4, 0x90, 0xBF)
  else if a < 0xF4 then some (4, 0x80, 0xBF)
  else if a = 0xF4 then some (4, 0x80, 0x8F)
  else none

/-- A byte that may stand in third or fourth place. -/
def Utf8Piece.continues (b : UInt8) : Bool := 0x80 ≤ b && b ≤ 0xBF

/-- The character whose number has the given leading bits and then six bits from each byte. -/
def Utf8Piece.ofBits (leading : Nat) (rest : Bytes) : Utf8Piece :=
  .char (Char.ofNat (rest.foldl (fun n b => n * 64 + b.toNat % 64) leading))

/-- The pieces of a byte string, from the left. -/
def scanUtf8 : Bytes → List Utf8Piece
  | [] => []
  | a :: s =>
    if a < 0x80 then .char (Char.ofNat a.toNat) :: scanUtf8 s
    else
      match Utf8Piece.lead a with
      | none => .invalid 1 :: scanUtf8 s
      | some (n, lo, hi) =>
        match s with
        | [] => [.truncated 1]
        | b :: t =>
          if b < lo || hi < b then .invalid 1 :: scanUtf8 (b :: t)
          else if n = 2 then .ofBits (a.toNat % 32) [b] :: scanUtf8 t
          else
            match t with
            | [] => [.truncated 2]
            | c :: u =>
              if !Utf8Piece.continues c then .invalid 2 :: scanUtf8 (c :: u)
              else if n = 3 then .ofBits (a.toNat % 16) [b, c] :: scanUtf8 u
              else
                match u with
                | [] => [.truncated 3]
                | d :: v =>
                  if !Utf8Piece.continues d then .invalid 3 :: scanUtf8 (d :: v)
                  else .ofBits (a.toNat % 8) [b, c, d] :: scanUtf8 v

/-- The character that a piece is, if it is one. -/
def Utf8Piece.char? : Utf8Piece → Option Char
  | .char c => some c
  | _ => none

/-- The text that the bytes spell, if they are UTF-8 throughout. -/
def decode? (bytes : Bytes) : Option String :=
  ((scanUtf8 bytes).mapM Utf8Piece.char?).map String.ofList

/-- The text that the bytes spell, with one U+FFFD for each piece that is no character. -/
def decodeLossy (bytes : Bytes) : String :=
  String.ofList ((scanUtf8 bytes).map fun piece => piece.char?.getD '\uFFFD')

/-- Where a strict reading stops: how many bytes it has read by then, and how many bytes are at
fault, none when the string only ends too early. -/
structure Utf8Fault where
  index : Nat
  length : Option Nat
deriving DecidableEq, Repr

/-- The first fault among the pieces, the pieces before it being `index` bytes long. -/
def Utf8Fault.first (index : Nat) : List Utf8Piece → Option Utf8Fault
  | [] => none
  | .char c :: ps => first (index + c.utf8Size) ps
  | .invalid n :: _ => some ⟨index, some n⟩
  | .truncated _ :: _ => some ⟨index, none⟩

def fault? (bytes : Bytes) : Option Utf8Fault := Utf8Fault.first 0 (scanUtf8 bytes)

def Utf8Fault.message : Utf8Fault → String
  | ⟨index, some n⟩ => s!"invalid utf-8 sequence of {n} bytes from index {index}"
  | ⟨index, none⟩ => s!"incomplete utf-8 byte sequence from index {index}"

end Text

end HttpClient
