/-
# SHA-1

A state of five 32-bit words; each block is extended to eighty words, one for
each step, and the steps run in four rounds of twenty.
-/
import HttpClient.Hash.Blocks

namespace HttpClient.Hash.Sha1

structure State where
  a : UInt32
  b : UInt32
  c : UInt32
  d : UInt32
  e : UInt32
deriving DecidableEq, Repr

def initial : State := ⟨0x67452301, 0xefcdab89, 0x98badcfe, 0x10325476, 0xc3d2e1f0⟩

def rotate (x n : UInt32) : UInt32 := (x <<< n) ||| (x >>> (32 - n))

/-- The words of a block followed by the words made from them. -/
def schedule (block : Bytes) : Array UInt32 :=
  (List.range 64).foldl
    (fun w i =>
      w.push (rotate (w.getD (i + 13) 0 ^^^ w.getD (i + 8) 0 ^^^ w.getD (i + 2) 0 ^^^ w.getD i 0) 1))
    ((parts 4 block).map fun w => UInt32.ofNat (bigEndian w)).toArray

/-- The mixing function of a step and its additive constant. -/
def mix (i : Nat) (b c d : UInt32) : UInt32 × UInt32 :=
  if i < 20 then ((b &&& c) ||| (~~~b &&& d), 0x5a827999)
  else if i < 40 then (b ^^^ c ^^^ d, 0x6ed9eba1)
  else if i < 60 then ((b &&& c) ||| (b &&& d) ||| (c &&& d), 0x8f1bbcdc)
  else (b ^^^ c ^^^ d, 0xca62c1d6)

def step (words : Array UInt32) (s : State) (i : Nat) : State :=
  let (f, k) := mix i s.b s.c s.d
  ⟨rotate s.a 5 + f + s.e + k + words.getD i 0, s.a, rotate s.b 30, s.c, s.d⟩

/-- The state after one more block. -/
def compress (s : State) (block : Bytes) : State :=
  let t := (List.range 80).foldl (step (schedule block)) s
  ⟨s.a + t.a, s.b + t.b, s.c + t.c, s.d + t.d, s.e + t.e⟩

def digest (message : Bytes) : Bytes :=
  let s := (parts 64 (padded 64 (highBytes 8 (8 * message.length)) message)).foldl compress initial
  [s.a, s.b, s.c, s.d, s.e].flatMap fun w => highBytes 4 w.toNat

end HttpClient.Hash.Sha1
