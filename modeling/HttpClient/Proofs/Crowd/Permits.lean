/-
# Permits

What may happen in a crowd, whoever decides on it: somebody joins it, asks, is admitted while a
permit is free, goes on, is held up on the way, is turned away, or is given up at any moment
(`Happens`).  A run is any sequence of that, and time may pass in between (`Run`); the crowd's own
schedule is one of them (`run_schedule`).  The trace of a run tells who did what to the crowd.

Three things are read off the single happenings.  The permits that are free and the members that
run are always as many together (`Happens.permits`).  Only who runs, and so holds a permit, changes
the state (`Happens.state`).  And a member's way through a crowd is one way: who has ended stays as
it is, and who is turned away has never been admitted (`Run.turned`).
-/
import HttpClient.Proofs.Activity.Together
import HttpClient.Proofs.Crowd.Single

namespace HttpClient

variable {σ α : Type}

/-- What a member asks a permit for. -/
def Member.asking? : Member σ α → Option (Activity σ α)
  | .queued _ p | .waiting _ p => some p
  | _ => none

namespace Crowd

/-! ## What happens -/

/-- A member is given a permit, and has not gone any further. -/
def letIn (c : Crowd σ α) (i : Nat) (p : Activity σ α) : Crowd σ α :=
  { c with
    free := c.free - 1
    returned := c.returned.drop 1
    members := c.members.set i (.running c.now p) }

/-- A member goes a part of its way. -/
def partly (c : Crowd σ α) (i : Nat) (due : Moment) (p : Activity σ α) : Crowd σ α :=
  { c with
    members := c.members.set i (.running due (p.turn c.state).rest)
    state := (p.turn c.state).state }

/-- What may happen in a crowd, and to which member. -/
inductive Happens (refusal : α) (New : Member σ α → Prop) (c : Crowd σ α) :
    Nat → Crowd σ α → Prop
  | joins {m : Member σ α} (new : New m) :
      Happens refusal New c c.members.length { c with members := c.members ++ [m] }
  | reports {i : Nat} {a : α} (there : c.members[i]? = some (.early a)) :
      Happens refusal New c i (c.update i (.finished a))
  | asks {i deadline : Nat} {p : Activity σ α} (there : c.members[i]? = some (.queued deadline p)) :
      Happens refusal New c i (c.wait i deadline p)
  | admitted {i : Nat} {m : Member σ α} {p : Activity σ α} (there : c.members[i]? = some m)
      (asking : m.asking? = some p) (free : 0 < c.free) : Happens refusal New c i (c.letIn i p)
  | goes {i : Nat} {due : Moment} {p : Activity σ α}
      (there : c.members[i]? = some (.running due p)) : Happens refusal New c i (c.goOn i p)
  | partly {i : Nat} {due : Moment} {p : Activity σ α}
      (there : c.members[i]? = some (.running due p)) :
      Happens refusal New c i (c.partly i due p)
  | refused {i : Nat} {m : Member σ α} {p : Activity σ α} (there : c.members[i]? = some m)
      (asking : m.asking? = some p) : Happens refusal New c i (c.expire i refusal)
  | cancelled (i : Nat) : Happens refusal New c i (c.cancel i)

/-- Who did something, and the crowd before and behind it. -/
abbrev Deed (σ α : Type) := Nat × (Crowd σ α × Crowd σ α)

/-- One thing happens after the other. -/
inductive Run (refusal : α) (New : Member σ α → Prop) :
    Crowd σ α → List (Deed σ α) → Crowd σ α → Prop
  | stop (c : Crowd σ α) : Run refusal New c [] c
  | passes {c d : Crowd σ α} {trace : List (Deed σ α)} (now : Moment)
      (rest : Run refusal New { c with now } trace d) : Run refusal New c trace d
  | step {c c' d : Crowd σ α} {trace : List (Deed σ α)} {i : Nat}
      (h : Happens refusal New c i c') (rest : Run refusal New c' trace d) :
      Run refusal New c ((i, (c, c')) :: trace) d

variable {refusal : α} {New : Member σ α → Prop} {c c' d : Crowd σ α} {i : Nat}
  {trace : List (Deed σ α)} {m : Member σ α} {p : Activity σ α}

/-! ## Permits -/

/-- The permits that are free and those that are held. -/
def permits (c : Crowd σ α) : Nat := c.free + c.members.countP (·.isRunning)

theorem running_set {members : List (Member σ α)} (there : members[i]? = some m)
    (m' : Member σ α) : (members.set i m').countP (·.isRunning) + m.isRunning.toNat =
      members.countP (·.isRunning) + m'.isRunning.toNat := by
  have one (b : Bool) : (if b = true then 1 else 0) = b.toNat := by
    cases b <;> rfl
  induction members generalizing i with
  | nil => cases there
  | cons first rest ih =>
      cases i with
      | zero =>
          cases there
          simp only [List.set_cons_zero, List.countP_cons, one]
          omega
      | succ i =>
          have later := ih there
          simp only [List.set_cons_succ, List.countP_cons, one]
          omega

theorem permits_update (there : c.members[i]? = some m) (m' : Member σ α)
    (idle : m.isRunning = false) (idle' : m'.isRunning = false) :
    (c.update i m').permits = c.permits := by
  have count := running_set there m'
  rw [idle, idle'] at count
  exact congrArg (c.free + ·) count

theorem permits_stopped (there : c.members[i]? = some m) (runs : m.isRunning = true)
    (m' : Member σ α) (s : σ) : (c.stopped i m' s).permits = c.permits := by
  have count := running_set there m'
  rw [runs] at count
  unfold stopped permits
  cases runs' : m'.isRunning with
  | true =>
      rw [runs'] at count
      exact congrArg (c.free + ·) (Nat.add_right_cancel count)
  | false =>
      rw [runs'] at count
      show c.free + 1 + (c.members.set i m').countP (·.isRunning) = _
      simp only [Bool.toNat_true, Bool.toNat_false] at count
      omega

theorem asking_idle (asking : m.asking? = some p) : m.isRunning = false := by
  cases m with
  | queued | waiting => rfl
  | early | running | finished | cancelled => cases asking

/-- Whatever happens, no permit is lost and none is gained. -/
theorem Happens.permits (h : Happens refusal New c i c') (idle : ∀ m, New m → m.isRunning = false) :
    c'.permits = c.permits := by
  cases h with
  | @joins m new =>
      show c.free + (c.members ++ [m]).countP (·.isRunning) = _
      rw [List.countP_append, List.countP_singleton, idle m new]
      rfl
  | reports there => exact permits_update there _ rfl rfl
  | asks there => exact permits_update there _ rfl rfl
  | @admitted _ _ p there asking free =>
      have count := running_set there (.running c.now p)
      rw [asking_idle asking] at count
      have one : (Member.running c.now p).isRunning.toNat = 1 := rfl
      show c.free - 1 + (c.members.set i (.running c.now p)).countP (·.isRunning) =
        c.free + c.members.countP (·.isRunning)
      rw [Bool.toNat_false, Nat.add_zero] at count
      rw [count, one]
      omega
  | goes there => exact permits_stopped there rfl _ _
  | @partly _ due p there =>
      have count := running_set there (.running due (p.turn c.state).rest)
      exact congrArg (c.free + ·) (Nat.add_right_cancel count)
  | refused there asking => exact permits_update there _ (asking_idle asking) rfl
  | cancelled =>
      unfold cancel
      cases there : c.members[i]? with
      | none => rfl
      | some m =>
          dsimp only
          split
          · rfl
          · cases runs : m.isRunning with
            | true => exact permits_stopped there runs .cancelled c.state
            | false => exact permits_update there .cancelled runs rfl

theorem Run.permits (h : Run refusal New c trace d) (idle : ∀ m, New m → m.isRunning = false) :
    d.permits = c.permits ∧ ∀ x ∈ trace, x.2.1.permits = c.permits ∧ x.2.2.permits = c.permits := by
  induction h with
  | stop => exact ⟨rfl, fun _ among => absurd among List.not_mem_nil⟩
  | passes now _ ih => exact ih
  | step h _ ih =>
      obtain ⟨last, between⟩ := ih
      rw [h.permits idle] at last between
      exact ⟨last, List.forall_mem_cons.mpr ⟨⟨rfl, h.permits idle⟩, between⟩⟩

/-! ## The state -/

theorem Happens.state (h : Happens refusal New c i c') (changed : c'.state ≠ c.state) :
    ∃ due p, c.members[i]? = some (.running due p) ∧
      (c'.state = (p.advance c.state).2 ∨ c'.state = (p.turn c.state).state) := by
  cases h with
  | goes there => exact ⟨_, _, there, .inl rfl⟩
  | partly there => exact ⟨_, _, there, .inr rfl⟩
  | joins | reports | asks | admitted | refused => exact absurd rfl changed
  | cancelled =>
      unfold cancel at changed
      cases there : c.members[i]? with
      | none =>
          rw [there] at changed
          exact absurd rfl changed
      | some m =>
          rw [there] at changed
          dsimp only at changed
          split at changed
          · exact absurd rfl changed
          · split at changed <;> exact absurd rfl changed

theorem Run.state (h : Run refusal New c trace d) :
    ∀ x ∈ trace, x.2.2.state ≠ x.2.1.state →
      ∃ due p, x.2.1.members[x.1]? = some (.running due p) ∧
        (x.2.2.state = (p.advance x.2.1.state).2 ∨ x.2.2.state = (p.turn x.2.1.state).state) := by
  induction h with
  | stop => exact fun _ among => absurd among List.not_mem_nil
  | passes now _ ih => exact ih
  | step h _ ih => exact List.forall_mem_cons.mpr ⟨h.state, ih⟩

/-! ## The way of a member -/

/-- The member has not been admitted, and has no result: it asks, or it has not joined. -/
def Outside (c : Crowd σ α) (i : Nat) : Prop :=
  ∀ m, c.members[i]? = some m → m.asking?.isSome = true

theorem Happens.others (h : Happens refusal New c i c') {j : Nat} (other : i ≠ j) :
    c'.members[j]? = c.members[j]? := by
  cases h with
  | joins new =>
      show (c.members ++ [_])[j]? = _
      rcases Nat.lt_or_ge j c.members.length with earlier | later
      · exact List.getElem?_append_left earlier
      · rw [List.getElem?_append_right later, List.getElem?_eq_none later]
        have gap : 1 ≤ j - c.members.length := by omega
        exact List.getElem?_eq_none gap
  | reports | asks | admitted | partly | refused => exact List.getElem?_set_ne other
  | goes =>
      rw [members_goOn]
      exact List.getElem?_set_ne other
  | cancelled =>
      unfold cancel
      cases c.members[i]? with
      | none => rfl
      | some m =>
          dsimp only
          split
          · rfl
          · split <;> exact List.getElem?_set_ne other

theorem cancel_cases (c : Crowd σ α) (i : Nat) :
    c.cancel i = c ∨ (c.cancel i).members[i]? = some .cancelled := by
  unfold cancel
  cases there : c.members[i]? with
  | none => exact .inl rfl
  | some m =>
      have inside := (List.getElem?_eq_some_iff.mp there).1
      dsimp only
      split
      · exact .inl rfl
      · right
        split <;> exact List.getElem?_set_self inside

theorem Happens.outside (h : Happens refusal New c i c') (outside : c'.Outside i) :
    c.Outside i ∧ c'.state = c.state ∧ c'.free = c.free := by
  have ends {m m' : Member σ α} (there : c.members[i]? = some m)
      (becomes : c'.members = c.members.set i m') (not : m'.asking? = none) : False := by
    have inside := (List.getElem?_eq_some_iff.mp there).1
    have asking := outside m' (by rw [becomes, List.getElem?_set_self inside])
    rw [not] at asking
    cases asking
  cases h with
  | joins new => exact ⟨fun m there => by simp at there, rfl, rfl⟩
  | asks there =>
      refine ⟨fun m found => ?_, rfl, rfl⟩
      cases there.symm.trans found
      rfl
  | reports there => exact (ends there rfl rfl).elim
  | admitted there => exact (ends there rfl rfl).elim
  | @goes _ _ p there =>
      refine (ends there (members_goOn c i p) ?_).elim
      cases (p.advance c.state).1 <;> rfl
  | partly there => exact (ends there rfl rfl).elim
  | refused there => exact (ends there rfl rfl).elim
  | cancelled =>
      rcases c.cancel_cases i with nothing | gone
      · rw [nothing] at outside ⊢
        exact ⟨outside, rfl, rfl⟩
      · cases outside _ gone

theorem asking_of_isOver (settled : m.isOver = true) : m.asking? = none := by
  cases m with
  | finished | cancelled => rfl
  | early | queued | waiting | running => cases settled

theorem Happens.of_isOver (h : Happens refusal New c i c') (there : c.members[i]? = some m)
    (settled : m.isOver = true) : c' = c := by
  have same {m' : Member σ α} (found : c.members[i]? = some m') : m'.isOver = true := by
    cases there.symm.trans found
    exact settled
  cases h with
  | joins new => simp at there
  | reports found => cases same found
  | asks found => cases same found
  | goes found => cases same found
  | partly found => cases same found
  | admitted found asking | refused found asking =>
      cases (asking_of_isOver (same found)).symm.trans asking
  | cancelled =>
      unfold cancel
      rw [there]
      exact if_pos settled

theorem Happens.turned {r : α} (h : Happens refusal New c i c') (there : c.members[i]? = some m)
    (asking : m.asking?.isSome = true) (ended : c'.members[i]? = some (.finished r)) :
    r = refusal ∧ c'.state = c.state ∧ c'.free = c.free := by
  have inside := (List.getElem?_eq_some_iff.mp there).1
  have becomes {m' : Member σ α} (set : c'.members = c.members.set i m') : m' = .finished r := by
    rw [set, List.getElem?_set_self inside] at ended
    exact Option.some.inj ended
  cases h with
  | joins new => simp at there
  | refused => exact ⟨(Member.finished.inj (becomes rfl)).symm, rfl, rfl⟩
  | asks | admitted | partly => cases becomes rfl
  | reports found | goes found =>
      cases there.symm.trans found
      cases asking
  | cancelled =>
      rcases c.cancel_cases i with nothing | gone
      · rw [nothing, there] at ended
        cases ended
        cases asking
      · cases gone.symm.trans ended

theorem Run.of_isOver (h : Run refusal New c trace d) : c.members[i]? = some m → m.isOver = true →
    d.members[i]? = some m ∧ ∀ b e, (i, (b, e)) ∈ trace → e = b := by
  induction h with
  | stop => exact fun there _ => ⟨there, fun _ _ among => absurd among List.not_mem_nil⟩
  | passes now _ ih => exact ih
  | @step c c' d trace j h _ ih =>
      intro there settled
      by_cases mine : j = i
      · subst mine
        have nothing := h.of_isOver there settled
        subst nothing
        obtain ⟨last, later⟩ := ih there settled
        refine ⟨last, fun b e among => ?_⟩
        rcases List.mem_cons.mp among with same | among
        · cases same
          rfl
        · exact later b e among
      · obtain ⟨last, later⟩ := ih ((h.others mine).trans there) settled
        refine ⟨last, fun b e among => ?_⟩
        rcases List.mem_cons.mp among with same | among
        · cases same
          exact absurd rfl mine
        · exact later b e among

/-- Who is turned away has waited for nothing: it was outside all the time, nothing that happened to
it changed the state or the permits, and it stays with the refusal. By induction on the run: what
happened before the refusal left it outside, and nothing happens to it afterwards. -/
theorem Run.turned {r : α} (h : Run refusal New c trace d) : ∀ b e m, (i, (b, e)) ∈ trace →
    b.members[i]? = some m → m.asking?.isSome = true → e.members[i]? = some (.finished r) →
    r = refusal ∧ d.members[i]? = some (.finished r) ∧ c.Outside i ∧
      ∀ b' e', (i, (b', e')) ∈ trace → e'.state = b'.state ∧ e'.free = b'.free := by
  induction h with
  | stop => exact fun _ _ _ among => absurd among List.not_mem_nil
  | passes now _ ih => exact ih
  | @step c c' d trace j h rest ih =>
      intro b e m among there asking ended
      rcases List.mem_cons.mp among with now | later
      · cases now
        obtain ⟨refused, state, free⟩ := h.turned there asking ended
        obtain ⟨last, nothing⟩ := rest.of_isOver ended rfl
        refine ⟨refused, last, fun m' found => ?_, fun b' e' among' => ?_⟩
        · cases there.symm.trans found
          exact asking
        · rcases List.mem_cons.mp among' with same | behind
          · cases same
            exact ⟨state, free⟩
          · rw [nothing b' e' behind]
            exact ⟨rfl, rfl⟩
      · obtain ⟨refused, last, outside, quiet⟩ := ih b e m later there asking ended
        by_cases mine : j = i
        · subst mine
          obtain ⟨outside', state, free⟩ := h.outside outside
          refine ⟨refused, last, outside', fun b' e' among' => ?_⟩
          rcases List.mem_cons.mp among' with same | behind
          · cases same
            exact ⟨state, free⟩
          · exact quiet b' e' behind
        · refine ⟨refused, last, fun m' found => ?_, fun b' e' among' => ?_⟩
          · exact outside m' ((h.others mine).trans found)
          · rcases List.mem_cons.mp among' with same | behind
            · cases same
              exact absurd rfl mine
            · exact quiet b' e' behind

/-! ## The crowd's own schedule -/

theorem Run.append {t : List (Deed σ α)} {e : Crowd σ α} (h : Run refusal New c trace d)
    (rest : Run refusal New d t e) : Run refusal New c (trace ++ t) e := by
  induction h with
  | stop => exact rest
  | passes now _ ih => exact .passes now (ih rest)
  | step h _ ih => exact .step h (ih rest)

theorem stopped_set (c : Crowd σ α) (i : Nat) (m m' : Member σ α) (s : σ) :
    ({ c with members := c.members.set i m } : Crowd σ α).stopped i m' s = c.stopped i m' s := by
  unfold stopped
  cases m'.isRunning with
  | true => simp only [if_true, update, List.set_set]
  | false => simp only [Bool.false_eq_true, if_false, update, giveBack, woken, List.set_set]

theorem start_eq (c : Crowd σ α) (i : Nat) (p : Activity σ α) :
    c.start i p = (c.letIn i p).goOn i p := by
  have behind : (c.letIn i p).behind =
      ({ c with free := c.free - 1, returned := c.returned.drop 1 } : Crowd σ α).behind :=
    funext fun pause => by cases pause <;> rfl
  rw [start, goOn_eq, goOn_eq, behind]
  exact (stopped_set _ i (.running c.now p) _ _).symm

theorem run_start (there : c.members[i]? = some m) (asking : m.asking? = some p)
    (free : 0 < c.free) : ∃ trace, Run refusal New c trace (c.start i p) := by
  have inside := (List.getElem?_eq_some_iff.mp there).1
  rw [start_eq]
  exact ⟨_, .step (.admitted there asking free)
    (.step (.goes (List.getElem?_set_self inside)) (.stop _))⟩

theorem free_of_hasPermit {before : List (Member σ α)} (h : c.hasPermit before = true) :
    0 < c.free := Nat.zero_lt_of_lt (of_decide_eq_true h)

theorem run_move (there : c.members[i]? = some m) :
    ∃ trace, Run refusal New c trace (c.move refusal i m) := by
  cases m with
  | early a => exact ⟨_, .step (.reports there) (.stop _)⟩
  | queued deadline p =>
      simp only [move]
      split
      · rename_i permit
        exact run_start there rfl (free_of_hasPermit permit)
      · split
        · exact ⟨_, .step (.refused there rfl) (.stop _)⟩
        · exact ⟨_, .step (.asks there) (.stop _)⟩
  | waiting deadline p =>
      simp only [move]
      split
      · rename_i permit
        exact run_start there rfl (free_of_hasPermit permit)
      · exact ⟨_, .step (.refused there rfl) (.stop _)⟩
  | running due p => exact ⟨_, .step (.goes there) (.stop _)⟩
  | finished | cancelled => exact ⟨[], .stop c⟩

theorem run_step (h : c.step? refusal = some d) : ∃ trace, Run refusal New c trace d := by
  unfold step? at h
  split at h
  · cases h
  · rename_i i due _
    split at h
    · cases h
    · rename_i m there
      split at h
      · cases h
      · cases h
        obtain ⟨trace, moves⟩ := run_move (c := { c with now := due }) there
        exact ⟨trace, .passes due moves⟩

theorem earliest_eq_none {dues : List (Nat × Moment)} (h : earliest dues = none) : dues = [] := by
  cases dues with
  | nil => rfl
  | cons d ds =>
      unfold earliest at h
      split at h
      · cases h
      · split at h <;> cases h

theorem earliest_mem {dues : List (Nat × Moment)} {d : Nat × Moment} (h : earliest dues = some d) :
    d ∈ dues := by
  induction dues with
  | nil => cases h
  | cons first rest ih =>
      unfold earliest at h
      split at h
      · cases h
        exact List.mem_cons_self
      · rename_i e found
        split at h
        · cases h
          exact List.mem_cons_of_mem first (ih found)
        · cases h
          exact List.mem_cons_self

theorem due?_eq_none_iff {now : Moment} {permit : Option Moment} :
    m.due? now permit = none ↔ m.isOver = true := by
  cases m <;> simp [Member.due?, Member.isOver]

theorem mem_dues {due : Moment} (h : (i, due) ∈ c.dues) :
    ∃ m, c.members[i]? = some m ∧ m.isOver = false := by
  obtain ⟨⟨m, j⟩, among, found⟩ := List.mem_filterMap.mp h
  obtain ⟨due', there, same⟩ := Option.map_eq_some_iff.mp found
  cases same
  refine ⟨m, List.mem_zipIdx_iff_getElem?.mp among, ?_⟩
  rw [← Bool.not_eq_true, ← due?_eq_none_iff, there]
  exact nofun

theorem over_of_step_eq_none (h : c.step? refusal = none) : ∀ m ∈ c.members, m.isOver = true := by
  unfold step? at h
  split at h
  · rename_i hnone
    intro m among
    obtain ⟨i, there⟩ := List.mem_iff_getElem?.mp among
    have idle := List.filterMap_eq_nil_iff.mp (earliest_eq_none hnone) (m, i)
      (List.mem_zipIdx_iff_getElem?.mpr there)
    exact due?_eq_none_iff.mp (Option.map_eq_none_iff.mp idle)
  · rename_i i due first
    obtain ⟨m, there, unfinished⟩ := mem_dues (earliest_mem first)
    rw [there] at h
    simp only [unfinished, Bool.false_eq_true, if_false] at h
    cases h

theorem run_of_still (still : c.step? refusal = none) : c.run refusal = c := by
  rw [run]
  split
  · rfl
  · rename_i moved
    rw [still] at moved
    cases moved

theorem run_of_moved (moved : c.step? refusal = some d) : c.run refusal = d.run refusal := by
  rw [run]
  split
  · rename_i still
    rw [moved] at still
    cases still
  · rename_i moved'
    rw [moved] at moved'
    cases moved'
    rfl

/-- What the crowd does on its own may happen, until everybody has ended. -/
theorem run_schedule (refusal : α) (New : Member σ α → Prop) (c : Crowd σ α) :
    (∃ trace, Run refusal New c trace (c.run refusal)) ∧
      ∀ m ∈ (c.run refusal).members, m.isOver = true := by
  induction c using run.induct refusal with
  | case1 c still =>
      rw [run_of_still still]
      exact ⟨⟨[], .stop c⟩, over_of_step_eq_none still⟩
  | case2 c d moved ih =>
      rw [run_of_moved moved]
      obtain ⟨⟨later, on⟩, settled⟩ := ih
      obtain ⟨trace, step⟩ := run_step moved
      exact ⟨⟨trace ++ later, step.append on⟩, settled⟩

theorem isRunning_of_isOver (settled : m.isOver = true) : m.isRunning = false := by
  cases m with
  | finished | cancelled => rfl
  | early | queued | waiting | running => cases settled

theorem permits_of_idle (idle : ∀ m ∈ c.members, m.isRunning = false) : c.permits = c.free := by
  have hzero : c.members.countP (·.isRunning) = 0 :=
    List.countP_eq_zero.mpr fun m among => ne_true_of_eq_false (idle m among)
  rw [permits, hzero]
  rfl

end Crowd

end HttpClient
