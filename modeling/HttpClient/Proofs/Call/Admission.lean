/-
# Calls that are admitted

Calls that are awaited are members of a crowd whose state is the session.  A call is under way from
its admission to its result, and holds a permit all the time.  The ways in which calls come and go
are the runs of a crowd that only calls join, and what holds in all runs holds for them: permits are
neither lost nor gained, only calls under way do anything, and a call that is refused its permit has
done nothing (`permits_together`).
-/
import HttpClient.Client.Admission
import HttpClient.Proofs.Call.Alone
import HttpClient.Proofs.Crowd.Permits

namespace HttpClient

namespace Admission

open Crowd

variable {a : Admission} {c : Client}

theorem member_idle (a : Admission) (c : Client) (d : Draft) :
    (a.member c d).isRunning = false := by
  unfold member
  split <;> rfl

/-- Calls that come and go in any way: they begin when they like, and each may be admitted while a
permit is free, go on, be held up, be refused its permit, or be given up at any moment.  At every
moment the free permits and the calls under way are together as many as may be in flight.  Only a
call under way does anything, and what it does is what comes next on its way.  A call that is
refused fails by waiting for the pool; it has done nothing to the session and to the permits, and
will not.  Where no call is under way all permits are free, and so it is behind calls that start
together and have the client to themselves, for these come and go in one such way. -/
theorem permits_together {start now : Crowd Session (Except Error Answer)}
    {trace : List (Deed Session (Except Error Answer))}
    (fresh : start.free = a.maxInFlight) (unstarted : ∀ m ∈ start.members, ∃ d, m = a.member c d)
    (run : Run (.error a.refusal) (fun m => ∃ d, m = a.member c d) start trace now) :
    (now.free + now.members.countP (·.isRunning) = a.maxInFlight ∧
      ∀ i before behind, (i, (before, behind)) ∈ trace →
        before.permits = a.maxInFlight ∧ behind.permits = a.maxInFlight) ∧
    (∀ i before behind, (i, (before, behind)) ∈ trace → behind.state ≠ before.state →
      ∃ due p, before.members[i]? = some (.running due p) ∧
        (behind.state = (p.advance before.state).2 ∨
          behind.state = (p.turn before.state).state)) ∧
    (∀ i before behind m r, (i, (before, behind)) ∈ trace → before.members[i]? = some m →
      m.asking?.isSome = true → behind.members[i]? = some (.finished r) →
      r = .error (.timeout .pool ("no permit within " ++ a.patience.text)) ∧
      now.members[i]? = some (.finished r) ∧
      ∀ before' behind', (i, (before', behind')) ∈ trace →
        behind'.state = before'.state ∧ behind'.free = before'.free) ∧
    ((∀ m ∈ now.members, m.isRunning = false) → now.free = a.maxInFlight) ∧
    ∀ drafts s,
      (∃ t, Run (.error a.refusal) (fun m => ∃ d, m = a.member c d) (a.crowd c drafts s) t
        (c.sendTogether a drafts s)) ∧
      (∀ m ∈ (c.sendTogether a drafts s).members, m.isOver = true) ∧
      (c.sendTogether a drafts s).free = a.maxInFlight := by
  have idle : ∀ m, (∃ d, m = a.member c d) → m.isRunning = false := by
    rintro m ⟨d, rfl⟩
    exact a.member_idle c d
  have all : start.permits = a.maxInFlight :=
    (permits_of_idle fun m among => idle m (unstarted m among)).trans fresh
  obtain ⟨last, between⟩ := run.permits idle
  rw [all] at last between
  refine ⟨⟨last, fun i before behind among => between _ among⟩,
    fun i before behind among => run.state _ among, ?_, ?_, ?_⟩
  · intro i before behind m r among there asking ended
    obtain ⟨refused, stays, -, quiet⟩ := run.turned before behind m among there asking ended
    exact ⟨refused, stays, quiet⟩
  · intro still
    rw [← last, permits_of_idle still]
  · intro drafts s
    obtain ⟨⟨t, goes⟩, settled⟩ := run_schedule (.error a.refusal) (fun m => ∃ d, m = a.member c d)
      (a.crowd c drafts s)
    have unstarted : ∀ m ∈ (a.crowd c drafts s).members, m.isRunning = false := by
      intro m among
      obtain ⟨d, -, rfl⟩ := List.mem_map.mp among
      exact a.member_idle c d
    have still := permits_of_idle fun m among => isRunning_of_isOver (settled m among)
    exact ⟨⟨t, goes⟩, settled,
      still.symm.trans ((goes.permits idle).1.trans (permits_of_idle unstarted))⟩

/-- Two calls and one permit: the first one is held up on its way, the second one is refused, and
then the first one is given up. -/
theorem permits_together_of_busy :
    ∃ (a : Admission) (c : Client) (trace : List (Deed Session (Except Error Answer)))
      (now : Crowd Session (Except Error Answer)), a.maxInFlight = 1 ∧
      Run (.error a.refusal) (fun m => ∃ d, m = a.member c d) (a.crowd c [] {}) trace now ∧
      now.members[1]? = some (.finished (.error (.timeout .pool "no permit within 5s"))) ∧
      now.free = 1 := by
  let a : Admission := { maxInFlight := 1 }
  let c : Client := Sample.client [Sample.fine] none 0
  let d : Draft := ⟨.ok { method := .get, url := Sample.place "/" }, {}⟩
  let p := (c.call .async { method := .get, url := Sample.place "/" } {}).run
  have run := (.step (.joins ⟨d, rfl⟩) <| .step (.joins ⟨d, rfl⟩) <|
    .step (.admitted (i := 0) (p := p) rfl rfl Nat.one_pos) <| .step (.partly (i := 0) rfl) <|
    .step (.asks (i := 1) rfl) <| .passes ⟨5000, 0⟩ <| .step (.refused (i := 1) rfl rfl) <|
    .step (.cancelled 0) (.stop _) :
      Run (.error a.refusal) (fun m => ∃ d, m = a.member c d) (a.crowd c [] {}) _ _)
  obtain ⟨-, -, refused, still, -⟩ :=
    permits_together rfl (fun _ among => absurd among List.not_mem_nil) run
  obtain ⟨refused, stays, -⟩ := refused 1 _ _ _ _
    (.tail _ <| .tail _ <| .tail _ <| .tail _ <| .tail _ <| .head _) rfl rfl rfl
  have text : "no permit within " ++ a.patience.text = "no permit within 5s" := by
    decide +kernel
  refine ⟨a, c, _, _, rfl, run, by rw [stays, refused, text], still ?_⟩
  show ∀ m ∈ [Member.cancelled, .finished _], _
  exact List.forall_mem_cons.mpr ⟨rfl, List.forall_mem_singleton.mpr rfl⟩

end Admission

end HttpClient
