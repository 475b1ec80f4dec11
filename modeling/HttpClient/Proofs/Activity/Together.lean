/-
# Activities together

Activities that share a state take turns.  A turn begins where an activity looks at the state, or
where its wait is over, and goes as far as the activity gets without looking or waiting again
(`turn`); so what it changes upon one look, it changes at one moment.  Which of them has the next
turn is open, and one that has none any more was given up on its way (`Together`).  The trace
lists the changes in the order in which they are made, each with the one who made it.

What one of them does here it might as well do in any company (`Together.goes`).  So whatever holds
of the changes that `Goes` allows, holds of the changes in a trace.
-/
import HttpClient.Proofs.Activity.Amid

namespace HttpClient.Activity

variable {σ α β : Type}

/-! ## Turns -/

/-- What an activity does in a turn. -/
structure Stretch (σ α : Type) where
  /-- Its changes, each with the state before it and the state behind it. -/
  own : List (σ × σ)
  /-- What is left of the activity. -/
  rest : Activity σ α
  /-- The state behind the turn. -/
  state : σ

/-- What an activity does before it looks at the state or waits. -/
def onward : Activity σ α → σ → Stretch σ α
  | change update next, s =>
    { next.onward (update s) with own := (s, update s) :: (next.onward (update s)).own }
  | p, s => ⟨[], p, s⟩

/-- What an activity does when it is its turn. -/
def turn : Activity σ α → σ → Stretch σ α
  | look next, s => (next s).onward s
  | wait _ next, s => next.onward s
  | p, s => p.onward s

/-- Changes in the order in which they are made, each with the one who makes it. -/
abbrev Trace (σ : Type) := List (Nat × (σ × σ))

def Trace.owned (i : Nat) (trace : Trace σ) : List (σ × σ) := (trace.filter (·.1 = i)).map (·.2)

/-- Activities share a state and take turns, in any order. -/
inductive Together :
    List (Activity σ α) → σ → Trace σ → List (Activity σ α) → σ → Prop
  | stop (pool : List (Activity σ α)) (s : σ) : Together pool s [] pool s
  | turn {pool pool' : List (Activity σ α)} {s s' : σ} {p : Activity σ α} {later : Trace σ}
      (i : Nat) (there : pool[i]? = some p)
      (rest : Together (pool.set i (p.turn s).rest) (p.turn s).state later pool' s') :
      Together pool s ((p.turn s).own.map (i, ·) ++ later) pool' s'

/-- What they do when they have their turns in this order. -/
def played : List Nat → List (Activity σ α) → σ → Trace σ × List (Activity σ α) × σ
  | [], pool, s => ([], pool, s)
  | i :: order, pool, s =>
    match pool[i]? with
    | none => played order pool s
    | some p =>
      let behind := played order (pool.set i (p.turn s).rest) (p.turn s).state
      ((p.turn s).own.map (i, ·) ++ behind.1, behind.2)

theorem together_played (order : List Nat) (pool : List (Activity σ α)) (s : σ) :
    Together pool s (played order pool s).1 (played order pool s).2.1
      (played order pool s).2.2 := by
  induction order generalizing pool s with
  | nil => exact .stop pool s
  | cons i order ih =>
      unfold played
      cases there : pool[i]? with
      | none => exact ih pool s
      | some p => exact .turn i there (ih _ _)

theorem played_of_not_mem {i : Nat} {order : List Nat} (h : i ∉ order)
    (pool : List (Activity σ α)) (s : σ) : (played order pool s).2.1[i]? = pool[i]? := by
  induction order generalizing pool s with
  | nil => rfl
  | cons j order ih =>
      obtain ⟨other, rest⟩ := not_or.mp (mt List.mem_cons.mpr h)
      unfold played
      cases pool[j]? with
      | none => exact ih rest pool s
      | some p => exact (ih rest _ _).trans (List.getElem?_set_ne (Ne.symm other))

def result? : Activity σ α → Option α
  | done a => some a
  | _ => none

theorem result?_eq_some {p : Activity σ α} {a : α} : p.result? = some a ↔ p = .done a := by
  cases p <;> simp [result?]

theorem ended {pool : List (Activity σ α)} {i : Nat} {a : α}
    (h : pool[i]?.bind result? = some a) : pool[i]? = some (.done a) := by
  obtain ⟨p, there, came⟩ := Option.bind_eq_some_iff.mp h
  rw [there, result?_eq_some.mp came]

/-! ## What a single turn is -/

section Single

variable {p : Activity σ α} {s t s' : σ} {own : List (σ × σ)} {a : α}

theorem goes_of_onward (h : Goes (fun _ _ => True) (p.onward s).rest t own a s') :
    ∃ s'', Goes (fun _ _ => True) p s ((p.onward s).own ++ own) a s'' := by
  induction p generalizing s with
  | done b =>
      obtain ⟨rfl, rfl, rfl⟩ := goes_done.mp h
      exact ⟨s, .done a s⟩
  | look next ih =>
      cases h with
      | look before on => exact ⟨s', .look trivial on⟩
  | change update next ih =>
      obtain ⟨s'', goes⟩ := ih h
      exact ⟨s'', .change goes⟩
  | wait pause next ih =>
      cases h with
      | wait meanwhile on => exact ⟨s', .wait trivial on⟩

theorem goes_of_turn (h : Goes (fun _ _ => True) (p.turn s).rest t own a s') :
    ∃ s'', Goes (fun _ _ => True) p s ((p.turn s).own ++ own) a s'' := by
  cases p with
  | done b => exact goes_of_onward (p := .done b) h
  | look next =>
      obtain ⟨s'', goes⟩ := goes_of_onward (p := next s) h
      exact ⟨s'', .look trivial goes⟩
  | change update next => exact goes_of_onward (p := .change update next) h
  | wait pause next =>
      obtain ⟨s'', goes⟩ := goes_of_onward (p := next) h
      exact ⟨s'', .wait trivial goes⟩

variable {f : σ → β} {update : β → σ × σ → β}

theorem onward_tracks
    (updates : ∀ change ∈ (p.onward s).own, f change.2 = update (f change.1) change) :
    f (p.onward s).state = (p.onward s).own.foldl update (f s) := by
  induction p generalizing s with
  | done b => rfl
  | look next ih => rfl
  | change step next ih =>
      obtain ⟨first, rest⟩ := List.forall_mem_cons.mp updates
      have first : f (step s) = update (f s) (s, step s) := first
      show f (next.onward (step s)).state = (next.onward (step s)).own.foldl update (update (f s) _)
      rw [ih rest, first]
  | wait pause next ih => rfl

theorem turn_tracks
    (updates : ∀ change ∈ (p.turn s).own, f change.2 = update (f change.1) change) :
    f (p.turn s).state = (p.turn s).own.foldl update (f s) := by
  cases p with
  | done b => rfl
  | look next => exact onward_tracks (p := next s) updates
  | change step next => exact onward_tracks (p := .change step next) updates
  | wait pause next => exact onward_tracks (p := next) updates

end Single

/-! ## What they do together -/

namespace Together

variable {pool pool' : List (Activity σ α)} {s s' : σ} {trace : Trace σ}

theorem owned_append (i : Nat) (trace later : Trace σ) :
    (trace ++ later).owned i = trace.owned i ++ later.owned i := by
  unfold Trace.owned
  rw [List.filter_append, List.map_append]

theorem owned_map (i j : Nat) (own : List (σ × σ)) :
    Trace.owned i (own.map (j, ·)) = if j = i then own else [] := by
  unfold Trace.owned
  rw [List.filter_map, List.map_map]
  by_cases same : j = i <;> simp [Function.comp_def, same]

/-- What each change updates in its way is at last what the changes of all have made of it. -/
theorem tracks {f : σ → β} {update : β → σ × σ → β} (h : Together pool s trace pool' s') :
    (∀ x ∈ trace, f x.2.2 = update (f x.2.1) x.2) →
      f s' = (trace.map (·.2)).foldl update (f s) := by
  induction h with
  | stop => exact fun _ => rfl
  | @turn pool pool' s s' p later i there rest ih =>
      intro updates
      obtain ⟨now, then_⟩ := List.forall_mem_append.mp updates
      have behind : f (p.turn s).state = (p.turn s).own.foldl update (f s) :=
        turn_tracks fun change among => now (i, change) (List.mem_map.mpr ⟨change, among, rfl⟩)
      have changes : ((p.turn s).own.map (i, ·)).map (·.2) = (p.turn s).own := by
        rw [List.map_map]
        exact List.map_id _
      rw [ih then_, List.map_append, List.foldl_append, changes, behind]

theorem append {middle : List (Activity σ α)} {t : σ} {later : Trace σ}
    (h : Together pool s trace middle t) (rest : Together middle t later pool' s') :
    Together pool s (trace ++ later) pool' s' := by
  induction h with
  | stop => exact rest
  | turn i there _ ih =>
      rw [List.append_assoc]
      exact .turn i there (ih rest)

/-- What each keeps up in its own turns, and what the turns of the others leave to it. By induction
on the turns: each one takes the state on in `R`, and so does the whole. -/
theorem keeps {I : Nat → Activity σ α → σ → Prop} {R : σ → σ → Prop}
    (h : Together pool s trace pool' s') (refl : ∀ s, R s s)
    (trans : ∀ {s t u}, R s t → R t u → R s u) (mono : ∀ {i p s t}, I i p s → R s t → I i p t)
    (turn : ∀ {i p s}, I i p s → R s (p.turn s).state ∧ I i (p.turn s).rest (p.turn s).state) :
    (∀ i p, pool[i]? = some p → I i p s) → R s s' ∧ ∀ i p, pool'[i]? = some p → I i p s' := by
  induction h with
  | stop pool s => exact fun holds => ⟨refl s, holds⟩
  | @turn pool _ s _ q _ j found _ ih =>
      intro holds
      obtain ⟨on, own⟩ := turn (holds j q found)
      have holds' (i : Nat) (p : Activity σ α)
          (there : (pool.set j (q.turn s).rest)[i]? = some p) : I i p (q.turn s).state := by
        by_cases same : j = i
        · subst same
          rw [List.getElem?_set_self (List.getElem?_eq_some_iff.mp found).1] at there
          cases there
          exact own
        · rw [List.getElem?_set_ne same] at there
          exact mono (holds i p there) on
      obtain ⟨later, last⟩ := ih holds'
      exact ⟨trans on later, last⟩

/-- Each change is made in somebody's turn, and others come before that turn and behind it. -/
theorem moment {i : Nat} {change : σ × σ} (h : Together pool s trace pool' s') :
    (i, change) ∈ trace → ∃ before pool₁ s₁ p later, Together pool s before pool₁ s₁ ∧
      pool₁[i]? = some p ∧ change ∈ (p.turn s₁).own ∧
      Together (pool₁.set i (p.turn s₁).rest) (p.turn s₁).state later pool' s' := by
  induction h with
  | stop => exact fun among => absurd among List.not_mem_nil
  | @turn pool _ s _ p later j there rest ih =>
      intro among
      rcases List.mem_append.mp among with now | behind
      · obtain ⟨change', own, same⟩ := List.mem_map.mp now
        cases same
        exact ⟨[], pool, s, p, later, .stop pool s, there, own, rest⟩
      · obtain ⟨before, pool₁, s₁, q, later', first, found, own, last⟩ := ih behind
        exact ⟨_, pool₁, s₁, q, later', .turn j there first, found, own, last⟩

theorem settled {i : Nat} {a : α} (h : Together pool s trace pool' s') :
    pool[i]? = some (.done a) → pool'[i]? = some (.done a) ∧ trace.owned i = [] := by
  induction h with
  | stop => exact fun there => ⟨there, rfl⟩
  | @turn pool _ s _ q _ j found rest ih =>
      intro there
      by_cases same : j = i
      · subst same
        rw [found] at there
        cases there
        have inside : j < pool.length := (List.getElem?_eq_some_iff.mp found).1
        obtain ⟨last, quiet⟩ := ih (List.getElem?_set_self inside)
        exact ⟨last, by rw [owned_append, owned_map, if_pos rfl, quiet]; rfl⟩
      · obtain ⟨last, quiet⟩ := ih (by rw [List.getElem?_set_ne same, there])
        exact ⟨last, by rw [owned_append, owned_map, if_neg same, quiet]; rfl⟩

theorem came {i : Nat} {p : Activity σ α} {a : α} (h : Together pool s trace pool' s') :
    pool[i]? = some p → pool'[i]? = some (.done a) →
      ∃ start last, Goes (fun _ _ => True) p start (trace.owned i) a last := by
  induction h generalizing p with
  | stop pool s =>
      intro there ended
      rw [there] at ended
      cases ended
      exact ⟨s, s, .done a s⟩
  | @turn pool pool' s s' q later j found rest ih =>
      intro there ended
      by_cases same : j = i
      · subst same
        rw [found] at there
        cases there
        have inside : j < pool.length := (List.getElem?_eq_some_iff.mp found).1
        obtain ⟨start, last, on⟩ := ih (List.getElem?_set_self inside) ended
        obtain ⟨last', goes⟩ := goes_of_turn on
        refine ⟨s, last', ?_⟩
        rw [owned_append, owned_map, if_pos rfl]
        exact goes
      · obtain ⟨start, last, goes⟩ := ih (by rw [List.getElem?_set_ne same, there]) ended
        refine ⟨start, last, ?_⟩
        rw [owned_append, owned_map, if_neg same]
        exact goes

/-- Each of them goes as it may go in company: the changes that it makes are those that such a way
begins with. By induction on the turns; what has no further turn is thought to be run at last. -/
theorem goes {i : Nat} {p : Activity σ α} (h : Together pool s trace pool' s')
    (there : pool[i]? = some p) :
    ∃ start more a last, Goes (fun _ _ => True) p start (trace.owned i ++ more) a last := by
  induction h generalizing p with
  | stop pool s => exact ⟨s, p.changes s, _, _, goes_run (fun _ => trivial) p s⟩
  | @turn pool pool' s s' q later j found rest ih =>
      by_cases same : j = i
      · subst same
        rw [found] at there
        cases there
        have inside : j < pool.length := (List.getElem?_eq_some_iff.mp found).1
        obtain ⟨start, more, a, last, on⟩ := ih (p := (q.turn s).rest) (by simp [inside])
        obtain ⟨last', goes⟩ := goes_of_turn on
        refine ⟨s, more, a, last', ?_⟩
        rw [owned_append, owned_map, if_pos rfl, List.append_assoc]
        exact goes
      · obtain ⟨start, more, a, last, goes⟩ := ih (p := p) (by simp [same, there])
        refine ⟨start, more, a, last, ?_⟩
        rw [owned_append, owned_map, if_neg same, List.nil_append]
        exact goes

theorem mem_owned {i : Nat} {change : σ × σ} : change ∈ trace.owned i ↔ (i, change) ∈ trace := by
  unfold Trace.owned
  rw [List.mem_map]
  constructor
  · rintro ⟨⟨j, change'⟩, among, rfl⟩
    obtain ⟨there, mine⟩ := List.mem_filter.mp among
    have mine : j = i := of_decide_eq_true mine
    subst mine
    exact there
  · intro among
    exact ⟨(i, change), List.mem_filter.mpr ⟨among, decide_eq_true rfl⟩, rfl⟩

theorem owner {x : Nat × (σ × σ)} (h : Together pool s trace pool' s') (among : x ∈ trace) :
    ∃ p, pool[x.1]? = some p := by
  induction h with
  | stop => exact absurd among List.not_mem_nil
  | @turn pool _ s _ p _ i there rest ih =>
      rcases List.mem_append.mp among with now | later
      · obtain ⟨change, -, rfl⟩ := List.mem_map.mp now
        exact ⟨p, there⟩
      · obtain ⟨q, found⟩ := ih later
        have inside : x.1 < pool.length := by
          simpa using (List.getElem?_eq_some_iff.mp found).1
        exact ⟨pool[x.1], List.getElem?_eq_getElem inside⟩

/-- What all changes do that one of them can make in any company, each change in the trace does. -/
theorem each {R : σ → σ → Prop} (h : Together pool s trace pool' s')
    (does : ∀ p ∈ pool, ∀ start own a last, Goes (fun _ _ => True) p start own a last →
      ∀ change ∈ own, R change.1 change.2) :
    ∀ x ∈ trace, R x.2.1 x.2.2 := by
  intro x among
  obtain ⟨p, there⟩ := h.owner among
  obtain ⟨start, more, a, last, goes⟩ := h.goes there
  exact does p (List.mem_of_getElem? there) start _ a last goes x.2
    (List.mem_append_left more (mem_owned.mpr among))

end Together

end HttpClient.Activity
