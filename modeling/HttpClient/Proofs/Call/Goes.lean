/-
# How calls go

A call is an activity in a session, so what others do to the session meanwhile, calls
of the same client above all, is covered by `Activity.Goes`.  Here that relation is
taken apart along the ways to put calls together, a failure ending a call at once.

What a call did with the outside world is what its own changes wrote into the
journal (`events`); the entries of others stand between them and do not count.  Of
the events, `calls` counts those in which a transport was given a request, and `sent`
lists what the transports received.
-/
import HttpClient.Client.Call
import HttpClient.Proofs.Activity.Amid

namespace HttpClient

/-- What a call changed, each time with the session before and behind the change. -/
abbrev Changes := List (Session × Session)

/-- A transport was given a request. -/
def Event.isCall : Event → Bool
  | .exchange _ _ _ _ | .unreadable _ _ _ => true
  | _ => false

namespace Call

variable {α β : Type} {rely : Session → Session → Prop} {s s' : Session} {own : Changes}

/-- How a call can go among others. -/
def Goes (rely : Session → Session → Prop) (p : Call α) (s : Session) (own : Changes)
    (result : Except Error α) (s' : Session) : Prop :=
  Activity.Goes rely p.run s own result s'

/-! ## Taking calls apart -/

theorem goes_pure {a : α} {result : Except Error α} :
    Goes rely (pure a) s own result s' ↔ own = [] ∧ result = .ok a ∧ s' = s :=
  Activity.goes_done

theorem goes_throw {e : Error} {result : Except Error α} :
    Goes rely (throw e) s own result s' ↔ own = [] ∧ result = .error e ∧ s' = s :=
  Activity.goes_done

theorem goes_ofExcept {e result : Except Error α} :
    Goes rely (ofExcept e) s own result s' ↔ own = [] ∧ result = e ∧ s' = s :=
  Activity.goes_done

theorem goes_act {f : Session → Except Error α × Session} {result : Except Error α} :
    Goes rely (act f) s own result s' ↔
      ∃ t, rely s t ∧ own = [(t, (f t).2)] ∧ result = (f t).1 ∧ s' = (f t).2 :=
  Activity.goes_act

/-- The second part takes place only behind a first part that did not fail. -/
theorem goes_bind {p : Call α} {f : α → Call β} {result : Except Error β} :
    Goes rely (p >>= f) s own result s' ↔
      (∃ e, Goes rely p s own (.error e) s' ∧ result = .error e) ∨
      ∃ own₁ a s₁ own₂, own = own₁ ++ own₂ ∧ Goes rely p s own₁ (.ok a) s₁ ∧
        Goes rely (f a) s₁ own₂ result s' := by
  unfold Goes
  rw [ExceptT.run_bind, Activity.goes_bind]
  constructor
  · rintro ⟨own₁, a | a, s₁, own₂, rfl, first, second⟩
    · obtain ⟨rfl, rfl, rfl⟩ := Activity.goes_done.mp second
      rw [List.append_nil]
      exact .inl ⟨a, first, rfl⟩
    · exact .inr ⟨own₁, a, s₁, own₂, rfl, first, second⟩
  · rintro (⟨e, first, rfl⟩ | ⟨own₁, a, s₁, own₂, rfl, first, second⟩)
    · exact ⟨own, .error e, s', [], (List.append_nil own).symm, first, .done _ _⟩
    · exact ⟨own₁, .ok a, s₁, own₂, rfl, first, second⟩

theorem goes_bind_ok {p : Call α} {f : α → Call β} {b : β}
    (h : Goes rely (p >>= f) s own (.ok b) s') :
    ∃ own₁ a s₁ own₂, own = own₁ ++ own₂ ∧ Goes rely p s own₁ (.ok a) s₁ ∧
      Goes rely (f a) s₁ own₂ (.ok b) s' := by
  rcases goes_bind.mp h with ⟨e, -, impossible⟩ | succeeded
  · cases impossible
  · exact succeeded

theorem goes_act_map {f : Session → Except Error α × Session} {g : α → β}
    {result : Except Error β}
    (h : Goes rely (do return g (← act f)) s own result s') :
    ∃ t, rely s t ∧ own = [(t, (f t).2)] ∧ result = (f t).1.map g ∧ s' = (f t).2 := by
  rcases goes_bind.mp h with ⟨e, failed, rfl⟩ | ⟨own₁, a, s₁, own₂, rfl, done, last⟩
  · obtain ⟨t, before, rfl, same, rfl⟩ := goes_act.mp failed
    exact ⟨t, before, rfl, by rw [← same]; rfl, rfl⟩
  · obtain ⟨t, before, rfl, same, rfl⟩ := goes_act.mp done
    obtain ⟨rfl, rfl, rfl⟩ := goes_pure.mp last
    exact ⟨t, before, rfl, by rw [← same]; rfl, rfl⟩

theorem goes_lift {p : Activity Session α} {result : Except Error α}
    (h : Goes rely (ExceptT.lift p) s own result s') :
    ∃ a, result = .ok a ∧ Activity.Goes rely p s own a s' := by
  have inTurn : Activity.Goes rely (p >>= fun a => pure (.ok a)) s own result s' := by
    rw [← map_eq_pure_bind]
    exact h
  obtain ⟨own₁, a, s₁, own₂, rfl, first, second⟩ := Activity.goes_bind.mp inTurn
  obtain ⟨rfl, rfl, rfl⟩ := Activity.goes_done.mp second
  rw [List.append_nil]
  exact ⟨a, rfl, first⟩

theorem goes_turns {n : Nat} {result : Except Error Unit}
    (h : Goes rely (pause (.turns n)) s own result s') :
    own = [] ∧ result = .ok () ∧ Relation.ReflTransGen rely s s' := by
  obtain ⟨u, rfl, goes⟩ := goes_lift h
  obtain ⟨rfl, meanwhile⟩ := Activity.goes_turns goes
  exact ⟨rfl, rfl, meanwhile⟩

theorem goes_sleep {time : Option Nat} {result : Except Error Unit}
    (h : Goes rely (pause (.sleep time)) s own result s') :
    own = [] ∧ result = .ok () ∧ Relation.ReflTransGen rely s s' := by
  obtain ⟨u, rfl, goes⟩ := goes_lift h
  obtain ⟨rfl, meanwhile⟩ := Activity.goes_sleep goes
  exact ⟨rfl, rfl, meanwhile⟩

/-! ## Events -/

/-- What a change wrote into the journal. -/
def written (change : Session × Session) : Journal :=
  change.2.journal.drop change.1.journal.length

/-- What a call did with the outside world. -/
def events (own : Changes) : Journal := own.flatMap written

/-- How often a transport was given a request. -/
def calls (own : Changes) : Nat := (events own).countP (·.isCall)

/-- What a transport received, and how it answered. -/
structure Sent where
  head : RequestHead
  body : Body
  result : Except Error Response

/-- An event as a request that a transport received. -/
def Sent.ofEvent? : Event → Option Sent
  | .exchange _ head body result => some ⟨head, body, result⟩
  | _ => none

def sent (own : Changes) : List Sent := (events own).filterMap Sent.ofEvent?

@[simp] theorem events_nil : events [] = [] := rfl

theorem events_append (own₁ own₂ : Changes) : events (own₁ ++ own₂) = events own₁ ++ events own₂ :=
  List.flatMap_append

@[simp] theorem calls_nil : calls [] = 0 := rfl

theorem calls_append (own₁ own₂ : Changes) : calls (own₁ ++ own₂) = calls own₁ + calls own₂ := by
  unfold calls
  rw [events_append, List.countP_append]

@[simp] theorem sent_nil : sent [] = [] := rfl

theorem sent_append (own₁ own₂ : Changes) : sent (own₁ ++ own₂) = sent own₁ ++ sent own₂ := by
  unfold sent
  rw [events_append, List.filterMap_append]

theorem written_of_append {change : Session × Session} {j : Journal}
    (h : change.2.journal = change.1.journal ++ j) : written change = j := by
  unfold written
  rw [h, List.drop_left]

theorem sent_of_calls {own : Changes} (h : calls own = 0) : sent own = [] := by
  unfold calls at h
  unfold sent
  rw [List.filterMap_eq_nil_iff]
  intro event there
  have quiet := List.countP_eq_zero.mp h event there
  cases event with
  | exchange => exact absurd rfl quiet
  | _ => rfl

end Call

end HttpClient
