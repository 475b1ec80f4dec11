/-
# Activities among others

`Goes rely p s own a s'` says that activity `p`, begun in state `s`, may come to the
result `a` and leave the state `s'`, while others change the state.  What the others
do between two moments of `p` is any step of `rely`; with equality for `rely` the
activity has the state to itself.  `own` lists the changes that `p` made itself, each
as the state before it and the state behind it.

The relation has one rule for each way to build an activity, and one lemma for each
way to compose activities (`goes_bind`, `goes_act`, …) takes it apart again.  What is
proved about `own` for every `rely` holds in any company, whichever way the moves of
the others fall between those of `p`.
-/
import HttpClient.Activity
import Mathlib.Logic.Relation

namespace HttpClient.Activity

variable {σ α β : Type} {rely : σ → σ → Prop}

/-- How an activity can go while others change the state. -/
inductive Goes (rely : σ → σ → Prop) : Activity σ α → σ → List (σ × σ) → α → σ → Prop
  | done (a : α) (s : σ) : Goes rely (.done a) s [] a s
  | look {next : σ → Activity σ α} {s t : σ} {own : List (σ × σ)} {a : α} {s' : σ} :
      rely s t → Goes rely (next t) t own a s' → Goes rely (.look next) s own a s'
  | change {update : σ → σ} {next : Activity σ α} {s : σ} {own : List (σ × σ)} {a : α} {s' : σ} :
      Goes rely next (update s) own a s' →
        Goes rely (.change update next) s ((s, update s) :: own) a s'
  | wait {pause : Pause} {next : Activity σ α} {s t : σ} {own : List (σ × σ)} {a : α} {s' : σ} :
      rely s t → Goes rely next t own a s' → Goes rely (.wait pause next) s own a s'

/-! ## Taking activities apart -/

theorem goes_done {a b : α} {s s' : σ} {own : List (σ × σ)} :
    Goes rely (.done a) s own b s' ↔ own = [] ∧ b = a ∧ s' = s := by
  constructor
  · intro h
    cases h
    exact ⟨rfl, rfl, rfl⟩
  · rintro ⟨rfl, rfl, rfl⟩
    exact .done b s'

theorem goes_bind {p : Activity σ α} {f : α → Activity σ β} {s s' : σ} {own : List (σ × σ)}
    {b : β} :
    Goes rely (p >>= f) s own b s' ↔
      ∃ own₁ a s₁ own₂, own = own₁ ++ own₂ ∧ Goes rely p s own₁ a s₁ ∧
        Goes rely (f a) s₁ own₂ b s' := by
  show Goes rely (p.bind f) s own b s' ↔ _
  constructor
  · intro h
    induction p generalizing s own with
    | done a => exact ⟨[], a, s, own, rfl, .done a s, h⟩
    | look next ih =>
        cases h with
        | look before h =>
            obtain ⟨own₁, a, s₁, own₂, rfl, first, second⟩ := ih _ h
            exact ⟨own₁, a, s₁, own₂, rfl, .look before first, second⟩
    | change update next ih =>
        cases h with
        | change h =>
            obtain ⟨own₁, a, s₁, own₂, rfl, first, second⟩ := ih h
            exact ⟨_ :: own₁, a, s₁, own₂, rfl, .change first, second⟩
    | wait pause next ih =>
        cases h with
        | wait meanwhile h =>
            obtain ⟨own₁, a, s₁, own₂, rfl, first, second⟩ := ih h
            exact ⟨own₁, a, s₁, own₂, rfl, .wait meanwhile first, second⟩
  · rintro ⟨own₁, a, s₁, own₂, rfl, first, second⟩
    induction first with
    | done a s => exact second
    | look before _ ih => exact .look before (ih second)
    | change _ ih => exact .change (ih second)
    | wait meanwhile _ ih => exact .wait meanwhile (ih second)

theorem goes_act {f : σ → α × σ} {s s' : σ} {own : List (σ × σ)} {a : α} :
    Goes rely (act f) s own a s' ↔
      ∃ t, rely s t ∧ own = [(t, (f t).2)] ∧ a = (f t).1 ∧ s' = (f t).2 := by
  constructor
  · intro h
    cases h with
    | look before h =>
        cases h with
        | change h =>
            cases h
            exact ⟨_, before, rfl, rfl, rfl⟩
  · rintro ⟨t, before, rfl, rfl, rfl⟩
    exact .look before (.change (.done _ _))

theorem goes_turns {n : Nat} {s s' : σ} {own : List (σ × σ)} {u : Unit}
    (h : Goes rely (turns n) s own u s') :
    own = [] ∧ Relation.ReflTransGen rely s s' := by
  induction n generalizing s with
  | zero =>
      cases h
      exact ⟨rfl, .refl⟩
  | succ n ih =>
      cases h with
      | wait meanwhile h =>
          obtain ⟨quiet, on⟩ := ih h
          exact ⟨quiet, on.head meanwhile⟩

theorem goes_sleep {time : Option Nat} {s s' : σ} {own : List (σ × σ)} {u : Unit}
    (h : Goes rely (sleep time) s own u s') :
    own = [] ∧ Relation.ReflTransGen rely s s' := by
  cases time with
  | none =>
      cases h
      exact ⟨rfl, .refl⟩
  | some ms =>
      cases h with
      | wait meanwhile h =>
          cases h
          exact ⟨rfl, .single meanwhile⟩

/-! ## What holds all the time -/

/-- What the others keep up, and the activity itself, holds before each of its changes. -/
theorem Goes.keeps {P : σ → Prop} {p : Activity σ α} {s s' : σ} {own : List (σ × σ)} {a : α}
    (others : ∀ s t, rely s t → P s → P t) (h : Goes rely p s own a s') :
    (∀ change ∈ own, P change.1 → P change.2) → P s → (∀ change ∈ own, P change.1) ∧ P s' := by
  induction h with
  | done a s => exact fun _ start => ⟨fun _ there => absurd there List.not_mem_nil, start⟩
  | look before _ ih => exact fun itself start => ih itself (others _ _ before start)
  | change _ ih =>
      intro itself start
      obtain ⟨first, rest⟩ := List.forall_mem_cons.mp itself
      obtain ⟨later, last⟩ := ih rest (first start)
      exact ⟨List.forall_mem_cons.mpr ⟨start, later⟩, last⟩
  | wait meanwhile _ ih => exact fun itself start => ih itself (others _ _ meanwhile start)

/-- What the others leave alone, and each change updates in its way, is at each change what the
changes before it have made of it. -/
theorem Goes.tracks {β : Type} {f : σ → β} {update : β → σ × σ → β} {p : Activity σ α} {s s' : σ}
    {own : List (σ × σ)} {a : α} (others : ∀ s t, rely s t → f t = f s)
    (h : Goes rely p s own a s') :
    (∀ change ∈ own, f change.2 = update (f change.1) change) →
    (∀ before change behind, own = before ++ change :: behind →
      f change.1 = before.foldl update (f s)) ∧ f s' = own.foldl update (f s) := by
  induction h with
  | done a s =>
      refine fun _ => ⟨?_, rfl⟩
      intro before change behind split
      exact absurd split.symm (List.append_ne_nil_of_right_ne_nil before (List.cons_ne_nil _ _))
  | look before _ ih =>
      intro updates
      rw [← others _ _ before]
      exact ih updates
  | @change update' _ s _ _ _ _ ih =>
      intro updates
      obtain ⟨first, rest⟩ := List.forall_mem_cons.mp updates
      obtain ⟨later, last⟩ := ih rest
      have first : f (update' s) = update (f s) (s, update' s) := first
      refine ⟨?_, by rw [last, first, List.foldl_cons]⟩
      intro before change behind split
      cases before with
      | nil =>
          cases split
          rfl
      | cons earliest before =>
          obtain ⟨rfl, rest⟩ := List.cons_eq_cons.mp split
          rw [List.foldl_cons, ← first]
          exact later before change behind rest
  | wait meanwhile _ ih =>
      intro updates
      rw [← others _ _ meanwhile]
      exact ih updates

/-! ## Alone -/

/-- The changes that the activity makes when it has the state to itself. -/
def changes : Activity σ α → σ → List (σ × σ)
  | done _, _ => []
  | look next, s => (next s).changes s
  | change update next, s => (s, update s) :: next.changes (update s)
  | wait _ next, s => next.changes s

theorem goes_run (alone : ∀ s, rely s s) (p : Activity σ α) (s : σ) :
    Goes rely p s (p.changes s) (p.run s).1 (p.run s).2 := by
  induction p generalizing s with
  | done a => exact .done a s
  | look next ih => exact .look (alone s) (ih s s)
  | change update next ih => exact .change (ih (update s))
  | wait pause next ih => exact .wait (alone s) (ih s)

end HttpClient.Activity
