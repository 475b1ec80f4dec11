/-
# Activities

An activity takes place in a state that it shares with other activities.  It looks
at the state, changes it, waits, and comes to a result.  What it does between two
waits happens at one moment; while it waits, others may change the state.

An activity that has the state to itself can be run in one go (`run`), and then
its waits do not matter.  Otherwise it is taken from wait to wait (`advance`).
Every activity ends: it is a well-founded tree.
-/
namespace HttpClient

/-- What an activity waits for. -/
inductive Pause where
  /-- So many milliseconds. -/
  | sleep (milliseconds : Nat)
  /-- Everybody else's turn. -/
  | turn
deriving DecidableEq, Repr

/-- Something that takes place in a shared state and comes to a result. -/
inductive Activity (σ α : Type) where
  /-- It has come to its result. -/
  | done (result : α)
  /-- It goes on as the state makes it. -/
  | look (next : σ → Activity σ α)
  /-- It changes the state and goes on. -/
  | change (update : σ → σ) (next : Activity σ α)
  /-- It waits and goes on. -/
  | wait (pause : Pause) (next : Activity σ α)

namespace Activity

variable {σ α β γ : Type}

/-- One activity, and then another one that depends on its result. -/
def bind : Activity σ α → (α → Activity σ β) → Activity σ β
  | done a, f => f a
  | look next, f => look fun s => (next s).bind f
  | change update next, f => change update (next.bind f)
  | wait pause next, f => wait pause (next.bind f)

instance : Monad (Activity σ) where
  pure := done
  bind := bind

/-- Does something at one moment. -/
def act (f : σ → α × σ) : Activity σ α :=
  look fun s => change (fun _ => (f s).2) (done (f s).1)

/-- Waits for everybody else's turn, so many times. -/
def turns : Nat → Activity σ Unit
  | 0 => done ()
  | n + 1 => wait .turn (turns n)

/-- Sleeps, if there is a time to sleep. -/
def sleep : Option Nat → Activity σ Unit
  | none => done ()
  | some ms => wait (.sleep ms) (done ())

/-- The result of the activity, and the state that it leaves, when it has the state to itself. -/
def run : Activity σ α → σ → α × σ
  | done a, s => (a, s)
  | look next, s => (next s).run s
  | change update next, s => next.run (update s)
  | wait _ next, s => next.run s

/-- Where an activity has to stop. -/
inductive Stop (σ α : Type) where
  | done (result : α)
  | wait (pause : Pause) (next : Activity σ α)

/-- What the activity does at one moment: up to its next wait or its result. -/
def advance : Activity σ α → σ → Stop σ α × σ
  | done a, s => (.done a, s)
  | look next, s => (next s).advance s
  | change update next, s => next.advance (update s)
  | wait pause next, s => (.wait pause next, s)

/-! ## Laws -/

theorem bind_done (p : Activity σ α) : p.bind done = p := by
  induction p with
  | done a => rfl
  | look next ih => simp only [bind, ih]
  | change update next ih => simp only [bind, ih]
  | wait pause next ih => simp only [bind, ih]

theorem bind_bind (p : Activity σ α) (f : α → Activity σ β) (g : β → Activity σ γ) :
    (p.bind f).bind g = p.bind fun a => (f a).bind g := by
  induction p with
  | done a => rfl
  | look next ih => simp only [bind, ih]
  | change update next ih => simp only [bind, ih]
  | wait pause next ih => simp only [bind, ih]

instance : LawfulMonad (Activity σ) := LawfulMonad.mk' _
  (fun p => bind_done p)
  (fun _ _ => rfl)
  (fun p f g => bind_bind p f g)

theorem run_bind (p : Activity σ α) (f : α → Activity σ β) (s : σ) :
    (p >>= f).run s = (f (p.run s).1).run (p.run s).2 := by
  show (p.bind f).run s = _
  induction p generalizing s with
  | done a => rfl
  | look next ih => exact ih s s
  | change update next ih => exact ih (update s)
  | wait pause next ih => exact ih s

theorem run_turns (n : Nat) (s : σ) : (turns n).run s = ((), s) := by
  induction n with
  | zero => rfl
  | succ n ih => exact ih

theorem run_sleep (time : Option Nat) (s : σ) : (sleep time).run s = ((), s) := by
  cases time <;> rfl

end Activity

end HttpClient
