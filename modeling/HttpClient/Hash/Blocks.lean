/-
# Messages in blocks

The four hash functions here cut a message into blocks and fold a compression
function over them.  The message is first padded: a byte 0x80, zeros, and the
length of the message in bits as the last bytes of the last block.  They differ
in the size of the block, the width of the length, and the order of bytes in a
word, so padding and word reading take these as parameters.
-/
import HttpClient.Text.Utf8

namespace HttpClient.Hash

/-- The low bytes of a number, the lowest first. -/
def lowBytes (count n : Nat) : Bytes := (List.range count).map fun i => UInt8.ofNat (n >>> (8 * i))

/-- The low bytes of a number, the lowest last. -/
def highBytes (count n : Nat) : Bytes := (lowBytes count n).reverse

/-- The message with its padding: a multiple of `block` bytes whose last bytes are `length`. -/
def padded (block : Nat) (length : Bytes) (message : Bytes) : Bytes :=
  let used := (message.length + 1 + length.length) % block
  message ++ 0x80 :: List.replicate ((block - used) % block) 0 ++ length

/-- The consecutive parts of a list, each `n` long but perhaps the last. -/
def parts {α : Type} (n : Nat) (xs : List α) : List (List α) :=
  (List.range ((xs.length + n - 1) / n)).map fun i => (xs.drop (i * n)).take n

/-- The number whose bytes stand highest first. -/
def bigEndian (bytes : Bytes) : Nat := bytes.foldl (fun n b => n * 256 + b.toNat) 0

/-- The number whose bytes stand lowest first. -/
def littleEndian (bytes : Bytes) : Nat := bigEndian bytes.reverse

end HttpClient.Hash
