/-
# Blanks

A blank is a character with the Unicode property `White_Space`: the tab, the
line ends, the space, and the spaces and separators outside ASCII.  Trimming and
the splitting of a text into words go by this class.
-/
import HttpClient.Text.Ascii

namespace HttpClient.Text

/-- The characters with the property `White_Space`. -/
def isBlank (c : Char) : Bool :=
  let n := c.toNat
  (9 ≤ n && n ≤ 13) || n = 0x20 || n = 0x85 || n = 0xA0 || n = 0x1680
    || (0x2000 ≤ n && n ≤ 0x200A) || n = 0x2028 || n = 0x2029 || n = 0x202F
    || n = 0x205F || n = 0x3000

def trim (cs : List Char) : List Char := strip isBlank cs

/-- The words of a text: its maximal runs of characters that are not blank. -/
def words (cs : List Char) : List (List Char) := (piecesBy isBlank cs).filter (· ≠ [])

end HttpClient.Text
