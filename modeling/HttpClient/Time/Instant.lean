/-
# Instants

An instant is a number of nanoseconds before or after the epoch, and the clock
shows instants whose whole seconds fit in 64 bits with sign.  Adding seconds can
leave that range; what happens then is for the caller to say.
-/
namespace HttpClient

/-- A point in time, counted in nanoseconds from the epoch. -/
structure Instant where
  nanos : Int
deriving DecidableEq, Repr, Inhabited

namespace Instant

def perSecond : Int := 1000000000

/-- The instant so many seconds and nanoseconds from the epoch. -/
def ofSeconds (seconds : Int) (nanos : Nat) : Instant := ⟨seconds * perSecond + nanos⟩

def epoch : Instant := ⟨0⟩

/-- Whole seconds from the epoch, rounded down. -/
def seconds (t : Instant) : Int := t.nanos / perSecond

def subsecond (t : Instant) : Nat := (t.nanos % perSecond).toNat

/-- The clock can show the instant: its seconds fit in 64 bits with sign. -/
def inRange (t : Instant) : Bool :=
  -0x8000000000000000 ≤ t.seconds && t.seconds < 0x8000000000000000

/-- The instant so many seconds later, if the clock can show it. -/
def later? (t : Instant) (seconds : Nat) : Option Instant :=
  let sum : Instant := ⟨t.nanos + seconds * perSecond⟩
  if sum.inRange then some sum else none

instance : LE Instant := ⟨fun a b => a.nanos ≤ b.nanos⟩
instance : LT Instant := ⟨fun a b => a.nanos < b.nanos⟩
instance (a b : Instant) : Decidable (a ≤ b) := inferInstanceAs (Decidable (a.nanos ≤ b.nanos))
instance (a b : Instant) : Decidable (a < b) := inferInstanceAs (Decidable (a.nanos < b.nanos))

end Instant

end HttpClient
