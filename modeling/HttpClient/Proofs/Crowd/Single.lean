/-
# A crowd of one

A member that has the crowd to itself moves whenever it can, and nobody else moves
between.  So it comes to the result, and leaves the state, that its activity comes to
when it is run in one go; and the permit that it took is free again.  The waits of the
activity do not matter: they move the time of the crowd, which nothing looks at.

The proof goes by induction on the activity.  What the crowd does behind a wait is what
another crowd of one does from the start, whose time has moved.
-/
import HttpClient.Crowd.Basic

namespace HttpClient.Crowd

variable {σ α : Type} {refusal : α}

/-- The crowd has one member, which has come to a result. -/
structure Ended (c : Crowd σ α) (result : α) (state : σ) (free : Nat) : Prop where
  members : c.members = [.finished result]
  state : c.state = state
  free : c.free = free

theorem run_of_ended {c : Crowd σ α} {a : α} (h : c.members = [.finished a]) :
    c.run refusal = c := by
  have still : c.step? refusal = none := by
    simp [step?, dues, h, Member.due?, earliest]
  rw [run]
  split
  · rfl
  · rename_i moved
    rw [still] at moved
    cases moved

theorem run_of_due {c : Crowd σ α} {m : Member σ α} {due : Moment} (h : c.members = [m])
    (there : m.due? c.now (c.permit? []) = some due) (unfinished : m.isOver = false) :
    c.run refusal = (({ c with now := due } : Crowd σ α).move refusal 0 m).run refusal := by
  have moves : c.step? refusal = some (({ c with now := due } : Crowd σ α).move refusal 0 m) := by
    simp [step?, dues, h, there, earliest, unfinished]
  rw [run]
  split
  · rename_i still
    rw [moves] at still
    cases still
  · rename_i moved
    rw [moves] at moved
    cases moved
    rfl

/-- A member has stopped, and has left a state behind. -/
def stopped (c : Crowd σ α) (i : Nat) (m : Member σ α) (state : σ) : Crowd σ α :=
  { (if m.isRunning then c else c.giveBack).update i m with state }

theorem goOn_eq (c : Crowd σ α) (i : Nat) (p : Activity σ α) :
    c.goOn i p = c.stopped i (.ofStop c.behind (p.advance c.state).1) (p.advance c.state).2 := rfl

theorem goOn_change (c : Crowd σ α) (i : Nat) (update : σ → σ) (next : Activity σ α) :
    c.goOn i (.change update next) =
      ({ c with state := update c.state } : Crowd σ α).goOn i next := by
  have behind : ({ c with state := update c.state } : Crowd σ α).behind = c.behind :=
    funext fun pause => by cases pause <;> rfl
  rw [goOn_eq, goOn_eq, behind]
  show c.stopped i (.ofStop c.behind (next.advance (update c.state)).1) _ = _
  cases Member.ofStop c.behind (next.advance (update c.state)).1 with
  | running | early | queued | waiting | finished | cancelled => rfl

theorem ended_goOn (p : Activity σ α) {c : Crowd σ α} {m : Member σ α} (h : c.members = [m]) :
    ((c.goOn 0 p).run refusal).Ended (p.run c.state).1 (p.run c.state).2 (c.free + 1) := by
  induction p generalizing c m with
  | done a =>
      have ended : (c.goOn 0 (.done a)).members = [.finished a] := by
        rw [members_goOn, h]
        rfl
      rw [run_of_ended ended]
      exact ⟨ended, rfl, rfl⟩
  | look next ih => exact ih c.state h
  | change update next ih =>
      have moved : ({ c with state := update c.state } : Crowd σ α).members = [m] := h
      rw [goOn_change]
      exact ih moved
  | wait pause next ih =>
      have waits : (c.goOn 0 (.wait pause next)).members = [.running (c.behind pause) next] := by
        rw [members_goOn, h]
        rfl
      rw [run_of_due waits rfl rfl]
      exact ih waits

/-- A member that finds a permit free runs as if it had the state to itself. -/
theorem ended_queued (p : Activity σ α) {c : Crowd σ α} {deadline : Nat} (permit : 0 < c.free)
    (h : c.members = [.queued deadline p]) :
    (c.run refusal).Ended (p.run c.state).1 (p.run c.state).2 c.free := by
  have starts : ({ c with now := c.now } : Crowd σ α).move refusal 0 (.queued deadline p) =
      c.start 0 p := if_pos (decide_eq_true permit)
  have back : c.free - 1 + 1 = c.free := by omega
  rw [run_of_due h rfl rfl, starts, ← back]
  exact ended_goOn p h

theorem ended_early {c : Crowd σ α} {a : α} (h : c.members = [.early a]) :
    (c.run refusal).Ended a c.state c.free := by
  have reported : (({ c with now := c.now } : Crowd σ α).move refusal 0 (.early a)).members =
      [.finished a] := by
    show c.members.set 0 _ = _
    rw [h]
    rfl
  rw [run_of_due h rfl rfl, run_of_ended reported]
  exact ⟨reported, rfl, rfl⟩

end HttpClient.Crowd
