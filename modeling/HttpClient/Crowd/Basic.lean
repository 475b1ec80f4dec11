/-
# Crowds

A member of a crowd starts when it is admitted, and it holds a permit from then
until its result.  Permits are given in the order in which members asked: one that
finds no permit beyond those for the members waiting before it waits as well.  A
member that waits past its deadline is turned away without ever starting.

A small crowd moves in rounds, each in the order of the list.  In a larger one the
members move in the order in which they became able to.  `start`, `expire`, `wait`,
`goOn` and `cancel` are the single moves; `run` makes the one that is due first
until none is left, and nobody is cancelled there.
-/
import HttpClient.Crowd.Moved

namespace HttpClient

/-- How the members that can move in the same millisecond take turns. -/
inductive Turns where
  /-- In rounds, each in the order of the list. -/
  | rounds
  /-- In the order in which they became able to move. -/
  | arrivals
deriving DecidableEq, Repr

/-- Up to thirty members move in rounds. -/
def Turns.ofSize (n : Nat) : Turns := if n ≤ 30 then .rounds else .arrivals

/-- Activities that share a state and a number of permits. -/
structure Crowd (σ α : Type) where
  turns : Turns
  free : Nat
  state : σ
  members : List (Member σ α)
  now : Moment := ⟨0, 0⟩
  /-- How many moves were made. -/
  moves : Nat := 0
  /-- When the free permits were given back for which somebody may be waiting, in order. -/
  returned : List Moment := []
  /-- The members that have come to a result, in the order in which they did. -/
  order : List Nat := []

namespace Crowd

variable {σ α : Type}

/-- There is a permit for a member with these members before it. -/
def hasPermit (c : Crowd σ α) (before : List (Member σ α)) : Bool :=
  before.countP (·.isWaiting) < c.free

/-- Since when there has been a permit for a member with these members before it. -/
def permit? (c : Crowd σ α) (before : List (Member σ α)) : Option Moment :=
  if c.hasPermit before then some (c.returned[before.countP (·.isWaiting)]?.getD c.now) else none

/-- A later time, for one who begins to wait for it now. -/
def reach (c : Crowd σ α) (millis : Nat) : Moment :=
  match c.turns with
  | .rounds => ⟨millis, 0⟩
  | .arrivals => ⟨millis, c.moves + 1⟩

/-- When a member moves that was woken by a move now. -/
def woken (c : Crowd σ α) : Moment :=
  match c.turns with
  | .rounds => c.now
  | .arrivals => ⟨c.now.millis, c.moves + 1⟩

/-- When a pause that begins now is over. -/
def behind (c : Crowd σ α) : Pause → Moment
  | .sleep ms => if ms = 0 then c.now else c.reach (c.now.millis + ms)
  | .turn =>
    match c.turns with
    | .rounds => ⟨c.now.millis, c.now.rank + 1⟩
    | .arrivals => c.woken

/-- The crowd with a member in another form. A result is noted. -/
def update (c : Crowd σ α) (i : Nat) (m : Member σ α) : Crowd σ α :=
  { c with
    members := c.members.set i m
    moves := c.moves + 1
    order := if m.result?.isSome then c.order ++ [i] else c.order }

def giveBack (c : Crowd σ α) : Crowd σ α :=
  { c with free := c.free + 1, returned := c.returned ++ [c.woken] }

/-- A member goes on from where it stopped, holding a permit; it gives the permit back with its
result. -/
def goOn (c : Crowd σ α) (i : Nat) (p : Activity σ α) : Crowd σ α :=
  let (stop, state) := p.advance c.state
  let m := Member.ofStop c.behind stop
  { (if m.isRunning then c else c.giveBack).update i m with state }

/-- A member is given a permit and starts. -/
def start (c : Crowd σ α) (i : Nat) (p : Activity σ α) : Crowd σ α :=
  { c with free := c.free - 1, returned := c.returned.drop 1 }.goOn i p

def expire (c : Crowd σ α) (i : Nat) (refusal : α) : Crowd σ α := c.update i (.finished refusal)

/-- A member begins to wait for a permit. -/
def wait (c : Crowd σ α) (i : Nat) (deadline : Nat) (p : Activity σ α) : Crowd σ α :=
  c.update i (.waiting (c.reach deadline) p)

/-- A member is given up: it goes no further, and gives back the permit that it holds. -/
def cancel (c : Crowd σ α) (i : Nat) : Crowd σ α :=
  match c.members[i]? with
  | none => c
  | some m =>
    if m.isOver then c else (if m.isRunning then c.giveBack else c).update i .cancelled

/-- The move of a member, which is due. -/
def move (c : Crowd σ α) (refusal : α) (i : Nat) : Member σ α → Crowd σ α
  | .early a => c.update i (.finished a)
  | .queued deadline p =>
    if c.hasPermit (c.members.take i) then c.start i p
    else if deadline ≤ c.now.millis then c.expire i refusal
    else c.wait i deadline p
  | .waiting _ p => if c.hasPermit (c.members.take i) then c.start i p else c.expire i refusal
  | .running _ p => c.goOn i p
  | .finished _ | .cancelled => c

/-- When each member moves next. -/
def dues (c : Crowd σ α) : List (Nat × Moment) :=
  c.members.zipIdx.filterMap fun (m, i) =>
    (m.due? c.now (c.permit? (c.members.take i))).map (i, ·)

/-- The first of the earliest moments. -/
def earliest : List (Nat × Moment) → Option (Nat × Moment)
  | [] => none
  | d :: ds =>
    match earliest ds with
    | none => some d
    | some e => if e.2.before d.2 then some e else some d

/-- The crowd after the move that is due first, unless nobody moves any more. -/
def step? (c : Crowd σ α) (refusal : α) : Option (Crowd σ α) :=
  match earliest c.dues with
  | none => none
  | some (i, due) =>
    match c.members[i]? with
    | none => none
    | some m =>
      if m.isOver then none else some ({ c with now := due }.move refusal i m)

theorem members_goOn (c : Crowd σ α) (i : Nat) (p : Activity σ α) :
    (c.goOn i p).members =
      c.members.set i (.ofStop c.behind (p.advance c.state).1) := by
  simp only [goOn]
  split <;> rfl

theorem oneMoved_step {c d : Crowd σ α} {refusal : α} (h : c.step? refusal = some d) :
    OneMoved Member.Moved d.members c.members := by
  unfold step? at h
  split at h
  · simp at h
  · rename_i i due _
    split at h
    · simp at h
    · rename_i m found
      split at h
      · simp at h
      · rename_i unfinished
        rw [← Option.some.inj h]
        cases m with
        | early a => exact .of_set found (.reported a)
        | queued deadline p =>
          simp only [move]
          split
          · rw [start, members_goOn]
            exact .of_set found (.admitted _ deadline p c.state)
          · split
            · exact .of_set found (.refused deadline p refusal)
            · exact .of_set found (.asked deadline _ p)
        | waiting deadline p =>
          simp only [move]
          split
          · rw [start, members_goOn]
            exact .of_set found (.called _ deadline p c.state)
          · exact .of_set found (.expired deadline p refusal)
        | running _ p =>
          simp only [move, members_goOn]
          exact .of_set found (.advanced _ _ p c.state)
        | finished a => exact absurd rfl unfinished
        | cancelled => exact absurd rfl unfinished

instance : WellFoundedRelation (List (Member σ α)) :=
  ⟨OneMoved Member.Moved, OneMoved.wellFounded Member.acc⟩

/-- Makes moves until nobody moves any more. -/
def run (refusal : α) (c : Crowd σ α) : Crowd σ α :=
  match _ : c.step? refusal with
  | none => c
  | some d => run refusal d
termination_by c.members
decreasing_by exact oneMoved_step ‹_›

end Crowd

end HttpClient
