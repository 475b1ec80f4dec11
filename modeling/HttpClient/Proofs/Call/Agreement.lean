/-
# Calls that agree

Two parts of calls agree if they come to the same result and leave the same session,
wherever both begin.  Where they agree only in sessions of a kind, they have to leave a
session of that kind behind, and what they hand on has to be such that the next parts
agree on it; `Agree` says all three, so it can be composed.

This is about calls that have the session to themselves (`alone`).
-/
import HttpClient.Client.Call

namespace HttpClient.Call

variable {α β : Type}

/-- The result of a part of a call that has the session to itself, and the session behind it. -/
def alone (p : Call α) (s : Session) : Except Error α × Session := p.run.run s

/-! ## How parts are run -/

theorem alone_act (f : Session → Except Error α × Session) (s : Session) :
    alone (act f) s = f s := rfl

theorem alone_ofExcept (e : Except Error α) (s : Session) : alone (ofExcept e) s = (e, s) := rfl

/-- The second part takes place only behind a first part that did not fail. -/
theorem alone_bind (p : Call α) (f : α → Call β) (s : Session) :
    alone (p >>= f) s =
      match alone p s with
      | (.ok a, t) => alone (f a) t
      | (.error e, t) => (.error e, t) := by
  have parts : (p.run.bind (ExceptT.bindCont f)).run s = _ :=
    Activity.run_bind p.run (ExceptT.bindCont f) s
  show (p.run.bind (ExceptT.bindCont f)).run s = match p.run.run s with
    | (.ok a, t) => alone (f a) t
    | (.error e, t) => (.error e, t)
  rw [parts]
  cases p.run.run s with
  | mk result t =>
      cases result with
      | ok a => rfl
      | error e => rfl

theorem alone_lift (p : Activity Session α) (s : Session) :
    alone (ExceptT.lift p) s = (.ok (p.run s).1, (p.run s).2) := by
  have parts := Activity.run_bind p (fun a => pure (Except.ok (ε := Error) a)) s
  rw [← map_eq_pure_bind] at parts
  exact parts

theorem alone_turns (n : Nat) (s : Session) : alone (pause (.turns n)) s = (.ok (), s) := by
  show alone (ExceptT.lift _) s = _
  rw [alone_lift, Activity.run_turns]

theorem alone_sleep (time : Option Nat) (s : Session) :
    alone (pause (.sleep time)) s = (.ok (), s) := by
  show alone (ExceptT.lift _) s = _
  rw [alone_lift, Activity.run_sleep]

/-! ## Agreement -/

/-- From every session of a kind, both parts come to the same result, leave the same session, which
is of the kind again, and hand on only what has a property. -/
def Agree (Inv : Session → Prop) (Post : α → Prop) (p q : Call α) : Prop :=
  ∀ s, Inv s → alone p s = alone q s ∧ Inv (alone p s).2 ∧
    ∀ a, (alone p s).1 = .ok a → Post a

variable {Inv : Session → Prop} {Post : α → Prop} {Post' : β → Prop}

theorem agree_bind {p q : Call α} {f g : α → Call β} (first : Agree Inv Post p q)
    (second : ∀ a, Post a → Agree Inv Post' (f a) (g a)) : Agree Inv Post' (p >>= f) (q >>= g) := by
  intro s start
  obtain ⟨same, kept, handed⟩ := first s start
  rw [alone_bind, alone_bind, ← same]
  cases ended : alone p s with
  | mk result t =>
      rw [ended] at kept handed
      cases result with
      | ok a => exact second a (handed a rfl) t kept
      | error e => exact ⟨rfl, kept, fun _ impossible => by cases impossible⟩

theorem agree_pure {a : α} (holds : Post a) : Agree Inv Post (pure a) (pure a) := by
  intro s start
  refine ⟨rfl, start, ?_⟩
  intro b same
  cases same
  exact holds

theorem agree_throw {e : Error} : Agree Inv Post (throw e) (throw e) := by
  intro s start
  exact ⟨rfl, start, fun _ impossible => by cases impossible⟩

theorem agree_ofExcept {e e' : Except Error α} (same : e = e') (holds : ∀ a, e = .ok a → Post a) :
    Agree Inv Post (ofExcept e) (ofExcept e') := by
  intro s start
  rw [same] at holds ⊢
  exact ⟨rfl, start, holds⟩

theorem agree_act {f g : Session → Except Error α × Session}
    (same : ∀ s, Inv s → f s = g s ∧ Inv (f s).2 ∧ ∀ a, (f s).1 = .ok a → Post a) :
    Agree Inv Post (act f) (act g) := same

theorem agree_turns {n : Nat} :
    Agree Inv (fun _ => True) (pause (.turns n)) (pause (.turns n)) := by
  intro s start
  rw [alone_turns]
  exact ⟨rfl, start, fun _ _ => trivial⟩

theorem agree_sleep {time : Option Nat} :
    Agree Inv (fun _ => True) (pause (.sleep time)) (pause (.sleep time)) := by
  intro s start
  rw [alone_sleep]
  exact ⟨rfl, start, fun _ _ => trivial⟩

end HttpClient.Call
