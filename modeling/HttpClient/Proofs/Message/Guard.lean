/-
# A producer is read once

A producer is asked for its next chunk, iterated over, read to its end, or given up, in any
order and as often as one likes (`Use`).  The first uses take its chunks one by one.  One
use, if any, is the last that gets something: it gives the producer up, or it reports the
end or the first failure.  All later ones find nothing.

What the callers hold is a guard.  It keeps its source apart from the mark that nothing is
left, and it polls the source (`Guard`).  The two are in step whatever is done: the mark is
set exactly when the source is gone.  So a guard does what its producer does, and behind
that last use the source is not polled any more.
-/
import HttpClient.Message.Body

namespace HttpClient

namespace ProducerItem

def chunk? : ProducerItem → Option Bytes
  | .chunk bytes => some bytes
  | _ => none

def failure? : ProducerItem → Option String
  | .failure detail => some detail
  | _ => none

end ProducerItem

namespace Producer

/-! ## What a producer has to give -/

/-- The chunks before the first failure. -/
def chunksOf (items : List ProducerItem) : List Bytes :=
  (items.takeWhile (·.failure?.isNone)).filterMap (·.chunk?)

def failureOf? (items : List ProducerItem) : Option String := items.findSome? (·.failure?)

variable {items rest : List ProducerItem}

@[simp] theorem chunksOf_nil : chunksOf [] = [] := rfl

@[simp] theorem chunksOf_chunk (b : Bytes) : chunksOf (.chunk b :: rest) = b :: chunksOf rest := rfl

@[simp] theorem chunksOf_failure (d : String) : chunksOf (.failure d :: rest) = [] := rfl

@[simp] theorem chunksOf_pause : chunksOf (.pause :: rest) = chunksOf rest := rfl

@[simp] theorem failureOf?_nil : failureOf? [] = none := rfl

@[simp] theorem failureOf?_chunk (b : Bytes) :
    failureOf? (.chunk b :: rest) = failureOf? rest := rfl

@[simp] theorem failureOf?_failure (d : String) : failureOf? (.failure d :: rest) = some d := rfl

@[simp] theorem failureOf?_pause : failureOf? (.pause :: rest) = failureOf? rest := rfl

/-- What is read where no chunk is left: the failure, or the end. -/
def lastOf (failure : Option String) : Except Error (Option Bytes) :=
  failure.elim (.ok none) fun d => .error (.read d)

theorem nextOf_cases (items : List ProducerItem) :
    (∃ b rest, chunksOf items = b :: chunksOf rest ∧ failureOf? rest = failureOf? items ∧
      nextOf items = (.ok (some b), .live rest)) ∨
    (chunksOf items = [] ∧ nextOf items = (lastOf (failureOf? items), .drained)) := by
  induction items with
  | nil => exact .inr ⟨rfl, rfl⟩
  | cons item rest ih =>
      cases item with
      | chunk b => exact .inl ⟨b, rest, rfl, rfl, rfl⟩
      | failure d => exact .inr ⟨rfl, rfl⟩
      | pause => simpa [nextOf] using ih

theorem bytesOf_eq (items : List ProducerItem) :
    bytesOf items =
      (failureOf? items).elim (.ok (chunksOf items).flatten) fun d => .error (.read d) := by
  induction items with
  | nil => rfl
  | cons item rest ih =>
      cases item with
      | chunk b =>
          rw [bytesOf, ih, failureOf?_chunk, chunksOf_chunk]
          cases failureOf? rest with
          | none => rfl
          | some d => rfl
      | failure d => rfl
      | pause => exact ih

/-- A read as an item of an iteration, which has none at the end. -/
def itemOf : Except Error (Option Bytes) → Option (Except Error Bytes)
  | .ok (some b) => some (.ok b)
  | .ok none => none
  | .error e => some (.error e)

def iterate (p : Producer) : Option (Except Error Bytes) × Producer := (itemOf p.next.1, p.next.2)

/-! ## Uses -/

/-- A use of a producer. -/
inductive Use where
  /-- Its next chunk is asked for. -/
  | next
  /-- It is iterated over, by one item. -/
  | iterate
  /-- It is read to its end. -/
  | readAll
  /-- It is given up. -/
  | release
deriving DecidableEq, Repr

inductive Outcome where
  | chunk (bytes : Bytes)
  /-- The end is reported. -/
  | ended
  /-- All bytes that were left, and with them the end. -/
  | whole (bytes : Bytes)
  | failed (failure : Error)
  | released
deriving DecidableEq, Repr

namespace Outcome

/-- What comes of asking for the next chunk. -/
def ofNext : Except Error (Option Bytes) → Outcome
  | .ok (some b) => chunk b
  | .ok none => ended
  | .error e => failed e

/-- What comes of an item of an iteration. -/
def ofItem : Option (Except Error Bytes) → Outcome
  | some (.ok b) => chunk b
  | some (.error e) => failed e
  | none => ended

/-- What comes of reading to the end. -/
def ofAll : Except Error Bytes → Outcome
  | .ok b => whole b
  | .error e => failed e

theorem ofItem_itemOf (read : Except Error (Option Bytes)) : ofItem (itemOf read) = ofNext read := by
  rcases read with e | _ | b <;> rfl

end Outcome

namespace Use

/-- The use asks for one chunk. -/
def isSingle : Use → Bool
  | next | iterate => true
  | readAll | release => false

/-- The use of a producer: what comes of it, and the producer as it is left. -/
def on : Use → Producer → Outcome × Producer
  | next, p => (.ofNext p.next.1, p.next.2)
  | iterate, p => (.ofItem p.iterate.1, p.iterate.2)
  | readAll, p => (.ofAll p.readAll.1, p.readAll.2)
  | release, p => (.released, p.release)

/-- What comes of the use where nothing is left. -/
def refused : Use → Outcome
  | release => .released
  | _ => .failed .streamConsumed

/-- What comes of the last use that gets something, with so many chunks left before the failure or
the end. -/
def closes (left : List Bytes) (failure : Option String) : Use → Outcome
  | next | iterate => .ofNext (lastOf failure)
  | readAll => .ofAll (failure.elim (.ok left.flatten) fun d => .error (.read d))
  | release => .released

theorem on_single {u : Use} (single : u.isSingle = true) (p : Producer) :
    u.on p = (.ofNext p.next.1, p.next.2) := by
  cases u with
  | next => rfl
  | iterate => exact Prod.ext (Outcome.ofItem_itemOf p.next.1) rfl
  | readAll | release => cases single

theorem closes_single {u : Use} (single : u.isSingle = true) (left : List Bytes)
    (failure : Option String) : u.closes left failure = .ofNext (lastOf failure) := by
  cases u with
  | next | iterate => rfl
  | readAll | release => cases single

theorem on_drained (u : Use) : u.on .drained = (u.refused, .drained) := by
  cases u <;> rfl

theorem on_live (u : Use) (items : List ProducerItem) :
    (u.isSingle = true ∧ ∃ b rest, chunksOf items = b :: chunksOf rest ∧
      failureOf? rest = failureOf? items ∧ u.on (.live items) = (.chunk b, .live rest)) ∨
    ((u.isSingle = true → chunksOf items = []) ∧
      u.on (.live items) = (u.closes (chunksOf items) (failureOf? items), .drained)) := by
  by_cases single : u.isSingle = true
  · have read : u.on (.live items) = (.ofNext (nextOf items).1, (nextOf items).2) :=
      on_single single _
    rw [read, closes_single single]
    obtain ⟨b, rest, first, same, gives⟩ | ⟨hnone, ends⟩ := nextOf_cases items
    · exact .inl ⟨single, b, rest, first, same, by rw [gives]; rfl⟩
    · exact .inr ⟨fun _ => hnone, by rw [ends]⟩
  · refine .inr ⟨fun h => absurd h single, ?_⟩
    cases u with
    | next | iterate => exact absurd rfl single
    | readAll =>
        show (Outcome.ofAll (bytesOf items), drained) = _
        rw [bytesOf_eq]
        rfl
    | release => rfl

end Use

/-! ## Sequences of uses -/

def behindUses (p : Producer) (uses : List Use) : Producer := uses.foldl (fun p u => (u.on p).2) p

/-- What comes of these uses, one after the other. -/
def outcomes (p : Producer) : List Use → List Outcome
  | [] => []
  | u :: uses => (u.on p).1 :: outcomes (u.on p).2 uses

/-- What comes of the last use that gets something and of those behind it. -/
def closing (left : List Bytes) (failure : Option String) : List Use → List Outcome
  | [] => []
  | last :: later => last.closes left failure :: later.map (·.refused)

theorem uses_of_drained (uses : List Use) :
    outcomes .drained uses = uses.map (·.refused) ∧ behindUses .drained uses = .drained := by
  induction uses with
  | nil => exact ⟨rfl, rfl⟩
  | cons u uses ih =>
      obtain ⟨outcomes, state⟩ := ih
      simp only [Producer.outcomes, List.map_cons, Use.on_drained, outcomes, true_and]
      rw [behindUses, List.foldl_cons, Use.on_drained]
      exact state

/-- However a producer is used: the first uses take its chunks, one closes it, and the later ones
find nothing. -/
theorem outcomes_live (items : List ProducerItem) (uses : List Use) :
    ∃ singles rest, uses = singles ++ rest ∧ (∀ u ∈ singles, u.isSingle = true) ∧
      singles.length ≤ (chunksOf items).length ∧
      (∀ last ∈ rest.head?, last.isSingle = true → singles.length = (chunksOf items).length) ∧
      outcomes (.live items) uses = ((chunksOf items).take singles.length).map .chunk ++
        closing ((chunksOf items).drop singles.length) (failureOf? items) rest ∧
      ∀ n ≤ uses.length,
        (behindUses (.live items) (uses.take n)).isDrained = decide (singles.length < n) := by
  induction uses generalizing items with
  | nil =>
      refine ⟨[], [], rfl, by simp, Nat.zero_le _, by simp, rfl, fun n within => ?_⟩
      obtain rfl : n = 0 := Nat.le_zero.mp within
      rfl
  | cons u uses ih =>
      obtain ⟨single, b, left, first, failure, on⟩ | ⟨hnone, on⟩ := u.on_live items
      · -- a chunk, and then what comes of the rest
        obtain ⟨singles, rest, split, all, within, last, come, drained⟩ := ih left
        refine ⟨u :: singles, rest, by rw [split]; rfl, List.forall_mem_cons.mpr ⟨single, all⟩,
          by rw [first]; exact Nat.succ_le_succ within,
          fun last' there single' => by rw [first]; exact congrArg (· + 1) (last last' there single'),
          ?_, fun n within => ?_⟩
        · rw [outcomes, on, come, first, failure]
          rfl
        · cases n with
          | zero => rfl
          | succ n =>
              rw [List.take_succ_cons, behindUses, List.foldl_cons, on]
              have further := drained n (Nat.le_of_succ_le_succ within)
              rw [behindUses] at further
              simp only [further, List.length_cons, Nat.succ_lt_succ_iff]
      · obtain ⟨nothing, -⟩ := uses_of_drained uses
        refine ⟨[], u :: uses, rfl, by simp, Nat.zero_le _, ?_, ?_, fun n within => ?_⟩
        · intro last there single
          cases there
          rw [hnone single]
          rfl
        · rw [outcomes, on, nothing]
          rfl
        · cases n with
          | zero => rfl
          | succ n =>
              rw [List.take_succ_cons, behindUses, List.foldl_cons, on]
              obtain ⟨-, state⟩ := uses_of_drained (uses.take n)
              rw [behindUses] at state
              rw [state]
              rfl

end Producer

/-! ## Guards -/

/-- What holds a source: the source, unless it was given up, and the mark that nothing is left. -/
structure Guard where
  source : Option (List ProducerItem)
  isDrained : Bool
  /-- How often the source was polled. -/
  polls : Nat
deriving DecidableEq, Repr

namespace Guard

open Producer

def new (items : List ProducerItem) : Guard := ⟨some items, false, 0⟩

/-- The source is polled, and it has these items left. -/
def polled (g : Guard) (rest : List ProducerItem) : Guard :=
  { g with source := some rest, polls := g.polls + 1 }

def release (g : Guard) : Guard := { g with source := none, isDrained := true }

/-- Polls a source with these items until it has something ready. -/
def take (g : Guard) : List ProducerItem → Except Error (Option Bytes) × Guard
  | [] => (.ok none, (g.polled []).release)
  | .chunk b :: rest => (.ok (some b), g.polled rest)
  | .failure d :: rest => (.error (.read d), (g.polled rest).release)
  | .pause :: rest => (g.polled rest).take rest

/-- Polls a source with these items until it ends or fails, with so many bytes read already. -/
def collect (g : Guard) (bytes : Bytes) : List ProducerItem → Except Error Bytes × Guard
  | [] => (.ok bytes, (g.polled []).release)
  | .chunk b :: rest => (g.polled rest).collect (bytes ++ b) rest
  | .failure d :: rest => (.error (.read d), (g.polled rest).release)
  | .pause :: rest => (g.polled rest).collect bytes rest

/-- Reads from the source, if it is still there. -/
def reads {α : Type} (g : Guard) (read : List ProducerItem → Except Error α × Guard) :
    Except Error α × Guard :=
  if g.isDrained then (.error .streamConsumed, g)
  else
    match g.source with
    | none => (.error .streamConsumed, g)
    | some items => read items

def next (g : Guard) : Except Error (Option Bytes) × Guard := g.reads g.take

def readAll (g : Guard) : Except Error Bytes × Guard := g.reads (g.collect [])

/-- The use of a guard: what comes of it, and the guard as it is left. -/
def use (g : Guard) : Use → Outcome × Guard
  | .next => (.ofNext g.next.1, g.next.2)
  | .iterate => (.ofItem (itemOf g.next.1), g.next.2)
  | .readAll => (.ofAll g.readAll.1, g.readAll.2)
  | .release => (.released, g.release)

def behindUses (g : Guard) (uses : List Use) : Guard := uses.foldl (fun g u => (g.use u).2) g

def outcomes (g : Guard) : List Use → List Outcome
  | [] => []
  | u :: uses => (g.use u).1 :: outcomes (g.use u).2 uses

/-- The producer that the guard holds. -/
def producer (g : Guard) : Producer :=
  match g.source with
  | some items => .live items
  | none => .drained

theorem producer_of_none {g : Guard} (h : g.source = none) : g.producer = .drained := by
  rw [producer, h]

theorem producer_of_some {g : Guard} {items : List ProducerItem} (h : g.source = some items) :
    g.producer = .live items := by
  rw [producer, h]

/-- The mark is set exactly if the source is gone. -/
def InStep (g : Guard) : Prop := g.isDrained = g.source.isNone

variable {g : Guard} {items : List ProducerItem}

theorem InStep.isDrained_producer (h : g.InStep) : g.producer.isDrained = g.isDrained := by
  rw [h]
  cases held : g.source with
  | none => rw [producer_of_none held]; rfl
  | some items => rw [producer_of_some held]; rfl

theorem InStep.polled (h : g.InStep) (held : g.source.isSome = true) (rest : List ProducerItem) :
    (g.polled rest).InStep ∧ (g.polled rest).source.isSome = true := by
  refine ⟨?_, rfl⟩
  show g.isDrained = false
  rw [h]
  cases there : g.source with
  | none =>
      rw [there] at held
      cases held
  | some _ => rfl

theorem take_eq (h : g.InStep) (held : g.source.isSome = true) (items : List ProducerItem) :
    (g.take items).1 = (nextOf items).1 ∧ (g.take items).2.producer = (nextOf items).2 ∧
      (g.take items).2.InStep := by
  induction items generalizing g with
  | nil => exact ⟨rfl, rfl, rfl⟩
  | cons item rest ih =>
      cases item with
      | chunk b => exact ⟨rfl, rfl, (h.polled held rest).1⟩
      | failure d => exact ⟨rfl, rfl, rfl⟩
      | pause =>
          obtain ⟨step, still⟩ := h.polled held rest
          exact ih step still

theorem collect_eq (g : Guard) (bytes : Bytes) (items : List ProducerItem) :
    (g.collect bytes items).1 = (bytesOf items).map (bytes ++ ·) ∧
      (g.collect bytes items).2.producer = .drained ∧ (g.collect bytes items).2.InStep := by
  induction items generalizing g bytes with
  | nil => exact ⟨by simp [collect, bytesOf, Except.map], rfl, rfl⟩
  | cons item rest ih =>
      cases item with
      | chunk b =>
          obtain ⟨read, gone, step⟩ := ih (g.polled rest) (bytes ++ b)
          refine ⟨?_, gone, step⟩
          rw [collect, read, bytesOf]
          cases bytesOf rest with
          | ok more => simp [Except.map]
          | error e => rfl
      | failure d => exact ⟨rfl, rfl, rfl⟩
      | pause => exact ih (g.polled rest) bytes

theorem reads_eq {α : Type} {read : List ProducerItem → Except Error α × Guard}
    (readOf : List ProducerItem → Except Error α × Producer) (h : g.InStep)
    (same : g.source.isSome = true → ∀ items, (read items).1 = (readOf items).1 ∧
      (read items).2.producer = (readOf items).2 ∧ (read items).2.InStep) :
    (g.source = none ∧ g.reads read = (.error .streamConsumed, g)) ∨
    ∃ items, g.source = some items ∧ (g.reads read).1 = (readOf items).1 ∧
      (g.reads read).2.producer = (readOf items).2 ∧ (g.reads read).2.InStep := by
  unfold reads
  cases held : g.source with
  | none => exact .inl ⟨rfl, if_pos (h.trans (by rw [held]; rfl))⟩
  | some items =>
      have unmarked : ¬ g.isDrained = true := by
        rw [h, held]
        exact Bool.false_ne_true
      rw [if_neg unmarked]
      exact .inr ⟨items, rfl, same (by rw [held]; rfl) items⟩

theorem next_eq (h : g.InStep) :
    g.next.1 = g.producer.next.1 ∧ g.next.2.producer = g.producer.next.2 ∧ g.next.2.InStep := by
  unfold Guard.next
  obtain ⟨hnone, unread⟩ | ⟨items, held, read⟩ := reads_eq nextOf h (take_eq h)
  · rw [unread, producer_of_none hnone]
    exact ⟨rfl, rfl, h⟩
  · rw [producer_of_some held]
    exact read

theorem readAll_eq (h : g.InStep) :
    g.readAll.1 = g.producer.readAll.1 ∧ g.readAll.2.producer = g.producer.readAll.2 ∧
      g.readAll.2.InStep := by
  have whole (items : List ProducerItem) : (g.collect [] items).1 = bytesOf items ∧
      (g.collect [] items).2.producer = .drained ∧ (g.collect [] items).2.InStep := by
    obtain ⟨read, gone, step⟩ := collect_eq g [] items
    refine ⟨read.trans ?_, gone, step⟩
    cases bytesOf items <;> rfl
  unfold readAll
  obtain ⟨hnone, unread⟩ | ⟨items, held, read⟩ :=
    reads_eq (fun items => (bytesOf items, .drained)) h fun _ => whole
  · rw [unread, producer_of_none hnone]
    exact ⟨rfl, rfl, h⟩
  · rw [producer_of_some held]
    exact read

/-- A guard does what its producer does, and its mark stays in step with its source. -/
theorem use_eq (h : g.InStep) (u : Use) :
    (g.use u).1 = (u.on g.producer).1 ∧ (g.use u).2.producer = (u.on g.producer).2 ∧
      (g.use u).2.InStep := by
  cases u with
  | next =>
      obtain ⟨read, state⟩ := next_eq h
      exact ⟨congrArg Outcome.ofNext read, state⟩
  | iterate =>
      obtain ⟨read, state⟩ := next_eq h
      exact ⟨congrArg (fun read => Outcome.ofItem (itemOf read)) read, state⟩
  | readAll =>
      obtain ⟨read, state⟩ := readAll_eq h
      exact ⟨congrArg Outcome.ofAll read, state⟩
  | release => exact ⟨rfl, rfl, rfl⟩

theorem use_drained (h : g.isDrained = true) (u : Use) : (g.use u).2.polls = g.polls := by
  have unread {α : Type} (read : List ProducerItem → Except Error α × Guard) :
      (g.reads read).2 = g := by
    rw [reads, if_pos h]
  cases u with
  | next | iterate => exact congrArg polls (unread g.take)
  | readAll => exact congrArg polls (unread (g.collect []))
  | release => rfl

theorem behindUses_eq (h : g.InStep) (uses : List Use) :
    g.outcomes uses = g.producer.outcomes uses ∧
      (g.behindUses uses).producer = g.producer.behindUses uses ∧ (g.behindUses uses).InStep := by
  induction uses generalizing g with
  | nil => exact ⟨rfl, rfl, h⟩
  | cons u uses ih =>
      obtain ⟨come, left, step⟩ := use_eq h u
      obtain ⟨comes, state, last⟩ := ih step
      refine ⟨?_, ?_, last⟩
      · rw [outcomes, Producer.outcomes, come, comes, left]
      · rw [left] at state
        exact state

theorem polls_of_drained (h : g.InStep) (gone : g.isDrained = true) (uses : List Use) :
    (g.behindUses uses).polls = g.polls := by
  induction uses generalizing g with
  | nil => rfl
  | cons u uses ih =>
      obtain ⟨-, left, step⟩ := use_eq h u
      have still : (g.use u).2.isDrained = true := by
        rw [← step.isDrained_producer, left]
        have hnone : g.producer = .drained := by
          have marked := h.isDrained_producer.trans gone
          cases held : g.producer with
          | drained => rfl
          | live items =>
              rw [held] at marked
              cases marked
        rw [hnone, Use.on_drained]
        rfl
      exact (ih step still).trans (use_drained gone u)

end Guard

/-! ## The whole -/

open Producer in
/-- However a guard around a source is used.

The first uses ask for one chunk each and get the chunks before the first failure, one after the
other.  If there is a use behind these, it is the last that gets something.  Where it asks for a
chunk, all of them have been taken, and it reports the failure, or the end if there is none; where
it reads to the end, it gets all that is left, or the failure; or it gives the source up.  All uses
behind it find nothing.  The mark is set by this use and stays; it says that the source is gone, and
the source is polled no more. -/
theorem chunks_once_in_order (items : List ProducerItem) (uses : List Use) :
    ∃ singles rest, uses = singles ++ rest ∧ (∀ u ∈ singles, u.isSingle = true) ∧
      singles.length ≤ (chunksOf items).length ∧
      (∀ last ∈ rest.head?, last.isSingle = true → singles.length = (chunksOf items).length) ∧
      outcomes (.live items) uses = ((chunksOf items).take singles.length).map .chunk ++
        closing ((chunksOf items).drop singles.length) (failureOf? items) rest ∧
      (∀ n ≤ uses.length,
        (behindUses (.live items) (uses.take n)).isDrained = decide (singles.length < n)) ∧
      (Guard.new items).outcomes uses = outcomes (.live items) uses ∧
      ∀ n ≤ uses.length,
        ((Guard.new items).behindUses (uses.take n)).isDrained = decide (singles.length < n) ∧
        ((Guard.new items).behindUses (uses.take n)).source.isNone = decide (singles.length < n) ∧
        (singles.length < n → ((Guard.new items).behindUses (uses.take n)).polls =
          ((Guard.new items).behindUses (uses.take (singles.length + 1))).polls) := by
  obtain ⟨singles, rest, split, all, within, last, come, drained⟩ := outcomes_live items uses
  have fresh : (Guard.new items).InStep := rfl
  have marked (n : Nat) (here : n ≤ uses.length) :
      ((Guard.new items).behindUses (uses.take n)).InStep ∧
        ((Guard.new items).behindUses (uses.take n)).isDrained = decide (singles.length < n) := by
    obtain ⟨-, state, step⟩ := Guard.behindUses_eq fresh (uses.take n)
    refine ⟨step, ?_⟩
    rw [← step.isDrained_producer, state]
    exact drained n here
  refine ⟨singles, rest, split, all, within, last, come, drained,
    (Guard.behindUses_eq fresh uses).1, fun n here => ?_⟩
  obtain ⟨step, mark⟩ := marked n here
  refine ⟨mark, step.symm.trans mark, fun closed => ?_⟩
  -- from the use that closes the source on, nothing is polled
  obtain ⟨step, mark⟩ := marked (singles.length + 1) (by omega)
  have later : uses.take n = uses.take (singles.length + 1) ++
      (uses.drop (singles.length + 1)).take (n - (singles.length + 1)) := by
    rw [← List.take_add, Nat.add_sub_cancel' closed]
  rw [later, Guard.behindUses, List.foldl_append]
  exact Guard.polls_of_drained step (mark.trans (decide_eq_true (Nat.lt_succ_self _))) _

end HttpClient
