/-
# Durations

A duration is a number of nanoseconds.  Its text is a decimal number in the
greatest unit of which there is at least one: seconds, milliseconds, microseconds
or nanoseconds.  The places behind the point are those that are needed.
-/
import HttpClient.Text.Ascii

namespace HttpClient

structure Duration where
  nanos : Nat
deriving DecidableEq, Repr, Inhabited

namespace Duration

def ofMicros (n : Nat) : Duration := ⟨n * 1000⟩

def ofSeconds (n : Nat) : Duration := ⟨n * 1000000000⟩

/-- Milliseconds, a begun one counted as a whole. -/
def millis (d : Duration) : Nat := (d.nanos + 999999) / 1000000

/-- The places behind the point of `n / 10 ^ places`, without zeros at the end. -/
def fraction (n places : Nat) : List Char :=
  let digits := (toString (n % Nat.pow 10 places)).toList
  Text.dropEnd (· == '0') (List.replicate (places - digits.length) '0' ++ digits)

/-- The number `n / 10 ^ places` in decimal. -/
def decimal (n places : Nat) : String :=
  let whole := toString (n / Nat.pow 10 places)
  match fraction n places with
  | [] => whole
  | ds => whole ++ "." ++ String.ofList ds

def text (d : Duration) : String :=
  if 1000000000 ≤ d.nanos then decimal d.nanos 9 ++ "s"
  else if 1000000 ≤ d.nanos then decimal d.nanos 6 ++ "ms"
  else if 1000 ≤ d.nanos then decimal d.nanos 3 ++ "µs"
  else decimal d.nanos 0 ++ "ns"

end Duration

end HttpClient
