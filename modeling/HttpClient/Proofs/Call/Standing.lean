/-
# Where a call stands between its exchanges

A call makes one exchange after the other, and before each of them it stands in one of the two
loops of the program: in a round of the authentication, or behind a redirect.  `Standing` says
where, `reach` takes a call up to one of its exchanges, `step` from one to the next, and `finish`
to its end.  A call is what it reaches and what is left from there on, whichever exchange it is
taken up to (`reach_finish`).

Each step but the last is one exchange: it calls a transport once, and one response arrives
(`reach_counts`).
-/
import HttpClient.Proofs.Call.Arrivals

namespace HttpClient

open Auth Redirect Call

/-- Where a call stands between two exchanges. -/
inductive Standing where
  /-- A round is next, behind which the flow has so many left. -/
  | round (left : Nat) (flow : Flow) (request : Request) (history : List Response) (follow : Bool)
  /-- The chain is about to follow a redirect, behind which so many are left. -/
  | leg (left : Nat) (r : Redirected)
  | ended (answer : Answer)

def Standing.goesOn : Standing → Bool
  | .ended _ => false
  | _ => true

namespace Client

/-! ## From exchange to exchange -/

section

variable (c : Client) (mode : Mode)

/-- Hands the chain a response; one that is redirected is in memory then. -/
def behind (left : Nat) (chain : Sending) (response : Response) : Call Standing := do
  match ← Call.ofExcept (chain.receive response) with
  | .done answer => return .ended answer
  | .redirected r =>
    match left with
    | 0 => throw (.tooManyRedirects response.url chain.history.length)
    | left + 1 =>
      let response ← Call.read mode r.response
      return .leg left { r with response }

/-- Begins the chain behind the last round. -/
def settle (last : Authenticated) (follow : Bool) : Call Standing :=
  behind mode c.maxRedirects (c.chain last follow) last.response

/-- What is done behind a round, up to the next exchange. -/
def again (left : Nat) (history : List Response) (follow : Bool) (resumed : Resumed)
    (response : Response) : Call Standing :=
  match resumed.step, left with
  | .ok .sendRequest, left + 1 => do
    let response ← Call.read mode response
    return .round left resumed.flow resumed.request (history ++ [response]) follow
  | _, _ => c.settle mode ⟨resumed.request, response, history⟩ follow

/-- Follows a redirect, the response to which is in memory. -/
def leg (r : Redirected) : Call (Sending × Response) := do
  let chain ← Call.act fun s => (r.proceed (c.cookies s), s)
  let (request, response) ← c.exchange mode chain.request
  return ({ chain with request }, response)

/-- The next exchange, and what is done up to the one behind it. -/
def step : Standing → Call Standing
  | .round left flow request history follow => do
    let (resumed, response) ← c.round mode flow request
    c.again mode left history follow resumed response
  | .leg left r => do
    let (chain, response) ← c.leg mode r
    behind mode left chain response
  | .ended answer => return .ended answer

/-- All that is left to do. -/
def finish : Standing → Call Answer
  | .round left flow request history follow => do
    let last ← c.authenticate mode left flow request history
    c.follow mode c.maxRedirects (c.chain last follow) last.response
  | .leg left r => do
    let (chain, response) ← c.leg mode r
    c.follow mode left chain response
  | .ended answer => return answer

/-- The call up to one of its exchanges, counted from zero. -/
def reach (r : Request) (options : Options) : Nat → Call Standing
  | 0 => do
    let ready ← c.ready mode r options
    return .round ready.flow.roundsLeft ready.flow ready.request [] ready.follow
  | i + 1 => do c.step mode (← reach r options i)

end

variable {c : Client} {mode : Mode}

/-- Following redirects is going on from where the chain stands behind the response. -/
theorem follow_eq (left : Nat) (chain : Sending) (response : Response) :
    c.follow mode left chain response =
      behind mode left chain response >>= c.finish mode := by
  rw [behind, bind_assoc]
  cases left with
  | zero =>
      rw [follow]
      congr 1
      funext received
      cases received with
      | done answer => simp only [pure_bind, finish]
      | redirected r => rfl
  | succ left =>
      rw [follow]
      congr 1
      funext received
      cases received with
      | done answer => simp only [pure_bind, finish]
      | redirected r => simp only [proceed, leg, finish, bind_assoc, pure_bind]

theorem settle_eq (last : Authenticated) (follow : Bool) :
    c.settle mode last follow >>= c.finish mode =
      c.follow mode c.maxRedirects (c.chain last follow) last.response :=
  (follow_eq _ _ _).symm

theorem finish_eq (standing : Standing) :
    c.finish mode standing = c.step mode standing >>= c.finish mode := by
  cases standing with
  | round left flow request history follow =>
      rw [finish, step, bind_assoc]
      cases left with
      | zero =>
          rw [authenticate, bind_assoc]
          congr 1
          funext answered
          obtain ⟨resumed, response⟩ := answered
          rcases stepped : resumed.step with e | (_ | _) <;>
            simp only [again, stepped, pure_bind, settle_eq]
      | succ left =>
          rw [authenticate, bind_assoc]
          congr 1
          funext answered
          obtain ⟨resumed, response⟩ := answered
          rcases stepped : resumed.step with e | (_ | _) <;>
            simp only [again, stepped, bind_assoc, pure_bind, settle_eq, finish]
  | leg left r => simp only [finish, step, bind_assoc, follow_eq left]
  | ended answer => rfl

/-- A call is what it reaches, and what is left from there on. -/
theorem reach_finish (r : Request) (options : Options) (i : Nat) :
    c.reach mode r options i >>= c.finish mode = c.call mode r options := by
  induction i with
  | zero =>
      rw [reach, bind_assoc]
      simp only [pure_bind]
      rfl
  | succ i ih =>
      rw [reach, bind_assoc, ← ih]
      congr 1
      funext standing
      exact (finish_eq standing).symm

/-! ## One exchange a step -/

variable {own : Changes} {rely : Session → Session → Prop} {s s' : Session}

theorem goes_behind {left : Nat} {chain : Sending} {response : Response}
    {result : Except Error Standing}
    (h : Goes rely (behind mode left chain response) s own result s') : own = [] := by
  unfold behind at h
  rcases goes_bind.mp h with ⟨e, failed, rfl⟩ | ⟨own₁, received, s₁, own₂, rfl, made, on⟩
  · exact (goes_ofExcept.mp failed).1
  · obtain ⟨rfl, -, -⟩ := goes_ofExcept.mp made
    cases received with
    | done answer => exact (goes_pure.mp on).1
    | redirected r =>
        cases left with
        | zero => exact (goes_throw.mp on).1
        | succ left =>
            rcases goes_bind.mp on with ⟨e, failed, rfl⟩ | ⟨own₃, kept, s₂, own₄, rfl, kept', rest⟩
            · exact (goes_read failed).1
            · obtain ⟨rfl, -⟩ := goes_read kept'
              exact (goes_pure.mp rest).1

theorem goes_again {left : Nat} {history : List Response} {follow : Bool} {resumed : Resumed}
    {response : Response} {result : Except Error Standing}
    (h : Goes rely (c.again mode left history follow resumed response) s own result s') :
    own = [] := by
  unfold again at h
  split at h
  · rcases goes_bind.mp h with ⟨e, failed, rfl⟩ | ⟨own₁, kept, s₁, own₂, rfl, made, rest⟩
    · exact (goes_read failed).1
    · obtain ⟨rfl, -⟩ := goes_read made
      exact (goes_pure.mp rest).1
  · exact goes_behind h

def Once (c : Client) (own : Changes) : Prop := calls own = 1 ∧ (c.arrivals own).length = 1

theorem Once.append {own' : Changes} (h : c.Once own) (quiet : calls own' = 0) :
    c.Once (own ++ own') := by
  rw [Once, calls_append, arrivals_append, quiet, arrivals_of_calls quiet, List.append_nil]
  exact h

theorem Once.behind {own' : Changes} (quiet : calls own = 0) (h : c.Once own') :
    c.Once (own ++ own') := by
  rw [Once, calls_append, arrivals_append, quiet, arrivals_of_calls quiet, Nat.zero_add]
  exact h

theorem Exchanged.once {r p : Request} {response : Response}
    (h : c.Exchanged mode r own (.ok (p, response))) : c.Once own :=
  ⟨h.calls_le.2 _ rfl, h.arrivals_ok⟩

theorem Rounded.once {flow : Flow} {r : Request} {resumed : Resumed} {response : Response}
    (h : c.Rounded mode flow r own (.ok (resumed, response))) : c.Once own := by
  obtain ⟨exchange, p, received, t, t', -, rfl, exchanged, -, journal, -, -⟩ := h.ok
  exact exchanged.once.append (calls_noted_flow journal)

theorem once_of_leg {r : Redirected} {sent : Sending × Response}
    (h : Goes rely (c.leg mode r) s own (.ok sent) s') : c.Once own := by
  obtain ⟨own₁, chain, s₁, own₂, rfl, moved, on⟩ := goes_bind_ok h
  obtain ⟨t, -, rfl, -, -⟩ := goes_act.mp moved
  obtain ⟨own₃, answered, s₂, own₄, rfl, made, rest⟩ := goes_bind_ok on
  obtain ⟨rfl, -, -⟩ := goes_pure.mp rest
  rw [List.append_nil]
  exact (goes_exchange made).once.behind (calls_noted (List.append_nil _).symm (by simp))

theorem once_of_step {standing next : Standing} (going : standing.goesOn = true)
    (h : Goes rely (c.step mode standing) s own (.ok next) s') : c.Once own := by
  cases standing with
  | round left flow request history follow =>
      obtain ⟨own₁, answered, s₁, own₂, rfl, made, rest⟩ := goes_bind_ok h
      have quiet : own₂ = [] := goes_again rest
      rw [quiet, List.append_nil]
      exact (goes_round made).once
  | leg left r =>
      obtain ⟨own₁, sent, s₁, own₂, rfl, made, rest⟩ := goes_bind_ok h
      have quiet : own₂ = [] := goes_behind rest
      rw [quiet, List.append_nil]
      exact once_of_leg made
  | ended answer => cases going

/-- Before the exchange that a call is taken up to there are as many as it is counted. By induction
over them. -/
theorem reach_counts {r : Request} {options : Options} {i : Nat} {standing : Standing}
    (going : standing.goesOn = true)
    (h : Goes rely (c.reach mode r options i) s own (.ok standing) s') :
    calls own = i ∧ (c.arrivals own).length = i := by
  induction i generalizing own standing s' with
  | zero =>
      obtain ⟨own₁, ready, s₁, own₂, rfl, made, rest⟩ := goes_bind_ok h
      obtain ⟨rfl, -, -⟩ := goes_pure.mp rest
      have hzero := (goes_ready made).calls_eq
      rw [List.append_nil, hzero, arrivals_of_calls hzero]
      exact ⟨rfl, rfl⟩
  | succ i ih =>
      obtain ⟨own₁, before, s₁, own₂, rfl, made, rest⟩ := goes_bind_ok h
      have wentOn : before.goesOn = true := by
        cases before with
        | ended answer =>
            obtain ⟨-, same, -⟩ := goes_pure.mp rest
            cases same
            cases going
        | _ => rfl
      obtain ⟨called, arrived⟩ := ih wentOn made
      obtain ⟨one, one'⟩ := once_of_step wentOn rest
      rw [calls_append, arrivals_append, List.length_append, called, arrived, one, one']
      exact ⟨rfl, rfl⟩

end Client

end HttpClient
