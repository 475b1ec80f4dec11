/-
# Members of a crowd

A crowd is a number of activities that share a state and a number of permits.  A
member of it asks for a permit, waits for it if there is none, runs with it, or has
ended.  Time is counted in milliseconds, and it passes only while everybody waits.
What happens within one millisecond is ordered by rank, so a moment is a time and a
rank.
-/
import HttpClient.Activity

namespace HttpClient

structure Moment where
  millis : Nat
  rank : Nat := 0
deriving DecidableEq, Repr

namespace Moment

def before (a b : Moment) : Bool :=
  a.millis < b.millis || (a.millis = b.millis && a.rank < b.rank)

def earlier (a b : Moment) : Moment := if b.before a then b else a

end Moment

inductive Member (σ α : Type) where
  /-- It has come to a result before it asked for a permit. -/
  | early (result : α)
  /-- It is going to ask for a permit, and would wait for it until a time. -/
  | queued (deadline : Nat) (activity : Activity σ α)
  /-- It has asked for a permit in vain, and waits for it until a moment. -/
  | waiting (deadline : Moment) (activity : Activity σ α)
  /-- It holds a permit, and goes on at a moment. -/
  | running (due : Moment) (rest : Activity σ α)
  /-- It has come to a result and holds no permit. -/
  | finished (result : α)
  /-- It was given up before it came to a result, and holds no permit. -/
  | cancelled

namespace Member

variable {σ α : Type}

/-- The member whose activity has stopped; `behind` says when a pause that begins now is over. -/
def ofStop (behind : Pause → Moment) : Activity.Stop σ α → Member σ α
  | .done a => .finished a
  | .wait pause rest => .running (behind pause) rest

def isWaiting : Member σ α → Bool
  | .waiting _ _ => true
  | _ => false

/-- The member holds a permit. -/
def isRunning : Member σ α → Bool
  | .running _ _ => true
  | _ => false

def result? : Member σ α → Option α
  | .finished a => some a
  | _ => none

def isOver : Member σ α → Bool
  | .finished _ | .cancelled => true
  | _ => false

/-- When the member moves next, if it does. `permit` says since when there has been a permit for it,
if there is one. -/
def due? (now : Moment) (permit : Option Moment) : Member σ α → Option Moment
  | .early _ | .queued _ _ => some now
  | .waiting deadline _ => some (permit.elim deadline deadline.earlier)
  | .running due _ => some due
  | .finished _ | .cancelled => none

end Member

end HttpClient
