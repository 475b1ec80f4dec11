/-
# What every step of a call does

A call changes the session in five ways only: a request is made ready, it is handed
over, the flow is started, the flow is shown a response, and the jar is looked at.
What all of these do (`Steps`) is done by every change of a call, in whatever company
it goes (`Steps.call`).

This is about the changes one by one.  It needs no more of a call than how it is put
together, so the inductions are over the counters of the two loops.
-/
import HttpClient.Proofs.Call.Goes

namespace HttpClient.Client

open Auth Redirect Call

/-- What a call can do to a session is of a kind. -/
structure Steps (c : Client) (mode : Mode) (R : Session → Session → Prop) : Prop where
  ready : ∀ (r : Request) (s : Session), R s (c.beforeSend r s).2
  handed : ∀ (transport : Transport) (r : Request) (s : Session),
    R s (c.handOver mode transport r s).2
  started : ∀ (flow : Flow) (r : Request) (s : Session),
    R s { s with digests := (flow.start s.journal r s.digests).2 }
  resumed : ∀ (flow : Flow) (r : Request) (response : Response) (s : Session),
    R s { s with
      digests := (flow.resume s.journal r response s.digests).store
      journal := s.journal ++ flow.note response }
  stayed : ∀ s : Session, R s s

namespace Steps

variable {c : Client} {mode : Mode} {R : Session → Session → Prop}
  {rely : Session → Session → Prop} {s s' : Session} {own : Changes}

def All (R : Session → Session → Prop) (own : Changes) : Prop := ∀ change ∈ own, R change.1 change.2

theorem all_nil : All R [] := fun _ there => absurd there List.not_mem_nil

theorem all_append {own own' : Changes} (h : All R own) (h' : All R own') : All R (own ++ own') :=
  List.forall_mem_append.mpr ⟨h, h'⟩

/-! ## Putting parts together -/

theorem act {α : Type} {f : Session → Except Error α × Session} {result : Except Error α}
    (does : ∀ t, R t (f t).2) (h : Goes rely (Call.act f) s own result s') : All R own := by
  obtain ⟨t, -, rfl, -, -⟩ := goes_act.mp h
  intro change there
  cases List.mem_singleton.mp there
  exact does t

theorem bind {α β : Type} {p : Call α} {f : α → Call β} {result : Except Error β}
    (first : ∀ s own a s', Goes rely p s own a s' → All R own)
    (second : ∀ x s own b s', Goes rely (f x) s own b s' → All R own)
    (h : Goes rely (p >>= f) s own result s') : All R own := by
  rcases goes_bind.mp h with ⟨e, failed, -⟩ | ⟨own₁, a, s₁, own₂, rfl, made, on⟩
  · exact first _ _ _ _ failed
  · exact all_append (first _ _ _ _ made) (second _ _ _ _ _ on)

theorem ofExcept {α : Type} {e result : Except Error α}
    (h : Goes rely (Call.ofExcept e) s own result s') : All R own := by
  obtain ⟨rfl, -, -⟩ := goes_ofExcept.mp h
  exact all_nil

theorem pure {α : Type} {a : α} {result : Except Error α}
    (h : Goes rely (Pure.pure a) s own result s') : All R own := by
  obtain ⟨rfl, -, -⟩ := goes_pure.mp h
  exact all_nil

theorem turns {n : Nat} {result : Except Error Unit}
    (h : Goes rely (pause (.turns n)) s own result s') : All R own := by
  obtain ⟨rfl, -, -⟩ := goes_turns h
  exact all_nil

theorem sleep {time : Option Nat} {result : Except Error Unit}
    (h : Goes rely (pause (.sleep time)) s own result s') : All R own := by
  obtain ⟨rfl, -, -⟩ := goes_sleep h
  exact all_nil

/-! ## The parts of a call -/

theorem read {response : Response} {result : Except Error Response}
    (h : Goes rely (Call.read mode response) s own result s') : All R own := by
  unfold Call.read at h
  refine bind (fun _ _ _ _ => turns) ?_ h
  intro _ s own b s' rest
  cases found : response.read mode with
  | mk bytes response' =>
      rw [found] at rest
      cases bytes with
      | ok bytes => exact pure rest
      | error e =>
          obtain ⟨rfl, -, -⟩ := goes_throw.mp rest
          exact all_nil

theorem buffer {flow : Flow} {r : Request} {result : Except Error Request}
    (h : Goes rely (Call.buffer mode flow r) s own result s') : All R own := by
  unfold Call.buffer at h
  split at h
  · refine bind (fun _ _ _ _ => turns) (fun _ _ _ _ _ => ?_) h
    exact bind (fun _ _ _ _ => ofExcept) (fun _ _ _ _ _ => pure)
  · exact pure h

theorem exchange (steps : c.Steps mode R) {r : Request}
    {result : Except Error (Request × Response)}
    (h : Goes rely (c.exchange mode r) s own result s') : All R own := by
  unfold Client.exchange at h
  refine bind (fun _ _ _ _ => act (steps.ready r)) ?_ h
  rintro ⟨transport, q⟩ s own b s' slept
  refine bind (fun _ _ _ _ => sleep) (fun _ _ _ _ _ waited => ?_) slept
  exact bind (fun _ _ _ _ => turns) (fun _ _ _ _ _ => act (steps.handed transport q)) waited

theorem round (steps : c.Steps mode R) {flow : Flow} {r : Request}
    {result : Except Error (Resumed × Response)}
    (h : Goes rely (c.round mode flow r) s own result s') : All R own := by
  unfold Client.round at h
  have shown (q : Request) (received : Response) :
      ∀ s own (b : Except Error (Resumed × Response)) s', Goes rely (do
        let resumed ← Call.resume flow q received
        return (resumed, received)) s own b s' → All R own := fun _ _ _ _ =>
    bind (fun _ _ _ _ => act (steps.resumed flow q received)) (fun _ _ _ _ _ => pure)
  refine bind (fun _ _ _ _ => exchange steps) ?_ h
  rintro ⟨q, received⟩ s own b s' rest
  dsimp only at rest
  split at rest
  · exact bind (fun _ _ _ _ => read) (fun response => shown q response) rest
  · rw [pure_bind] at rest
    exact shown q received _ _ _ _ rest

/-- By induction over the rounds that are left. -/
theorem authenticate (steps : c.Steps mode R) {left : Nat} {flow : Flow} {r : Request}
    {history : List Response} {result : Except Error Authenticated}
    (h : Goes rely (c.authenticate mode left flow r history) s own result s') : All R own := by
  induction left generalizing flow r history s own result s' with
  | zero =>
      unfold Client.authenticate at h
      refine bind (fun _ _ _ _ => round steps) ?_ h
      rintro ⟨resumed, response⟩ s own b s' rest
      dsimp only at rest
      split at rest
      · exact pure rest
      · exact pure rest
  | succ left ih =>
      unfold Client.authenticate at h
      refine bind (fun _ _ _ _ => round steps) ?_ h
      rintro ⟨resumed, response⟩ s own b s' rest
      dsimp only at rest
      split at rest
      · exact bind (fun _ _ _ _ => read) (fun _ _ _ _ _ => ih) rest
      · exact pure rest

theorem proceed (steps : c.Steps mode R) {r : Redirected}
    {result : Except Error (Sending × Response)}
    (h : Goes rely (c.proceed mode r) s own result s') : All R own := by
  unfold Client.proceed at h
  refine bind (fun _ _ _ _ => read) (fun response _ _ _ _ moved => ?_) h
  refine bind (fun _ _ _ _ => act steps.stayed) (fun next _ _ _ _ sent => ?_) moved
  exact bind (fun _ _ _ _ => exchange steps) (fun _ _ _ _ _ => pure) sent

theorem follow (steps : c.Steps mode R) {left : Nat} {chain : Sending} {response : Response}
    {result : Except Error Answer}
    (h : Goes rely (c.follow mode left chain response) s own result s') : All R own := by
  induction left generalizing chain response s own result s' with
  | zero =>
      unfold Client.follow at h
      refine bind (fun _ _ _ _ => ofExcept) ?_ h
      intro received s own b s' rest
      cases received with
      | done answer => exact pure rest
      | redirected r =>
          obtain ⟨rfl, -, -⟩ := goes_throw.mp rest
          exact all_nil
  | succ left ih =>
      unfold Client.follow at h
      refine bind (fun _ _ _ _ => ofExcept) ?_ h
      intro received s own b s' rest
      cases received with
      | done answer => exact pure rest
      | redirected r => exact bind (fun _ _ _ _ => proceed steps) (fun _ _ _ _ _ => ih) rest

theorem opening (steps : c.Steps mode R) {r : Request} {options : Options}
    {result : Except Error Prepared} (h : Goes rely (c.ready mode r options) s own result s') :
    All R own := by
  unfold Client.ready at h
  refine bind (fun _ _ _ _ => ofExcept) (fun prepared _ _ _ _ on => ?_) h
  refine bind (fun _ _ _ _ => buffer) (fun buffered _ _ _ _ rest => ?_) on
  exact bind (fun _ _ _ _ => act (steps.started prepared.flow buffered))
    (fun _ _ _ _ _ => pure) rest

/-- Every change of a call is of the kind that its steps are of. -/
theorem call (steps : c.Steps mode R) {r : Request} {options : Options}
    {result : Except Error Answer} (h : Goes rely (c.call mode r options) s own result s') :
    ∀ change ∈ own, R change.1 change.2 := by
  unfold Client.call at h
  refine bind (fun _ _ _ _ => opening steps) (fun ready _ _ _ _ on => ?_) h
  exact bind (fun _ _ _ _ => authenticate steps) (fun _ _ _ _ _ => follow steps) on

end Steps

end HttpClient.Client
