/-
# Calls without authentication

A call that does not authenticate has one exchange in its first phase, and then it
follows redirects.  When it has the session to itself, each of its parts can be written
down as what it makes of the session; that is done here for the exchange, for the
redirects, and for the call as a whole.

The cookies are written twice on the way to a redirected request: when the chain
proceeds, and when the request is made ready.  The second time nothing is new, as long
as nothing happens between.
-/
import HttpClient.Proofs.Call.Agreement
import HttpClient.Proofs.Call.Content

namespace HttpClient

open Auth Redirect Call

/-! ## Writing twice -/

theorem Headers.set_set (h : Headers) (n : HeaderName) (v : HeaderValue) :
    (h.set n v).set n v = h.set n v := by
  have again (fs : List (HeaderName × HeaderValue)) :
      set.go n v (set.go n v fs) = set.go n v fs := by
    induction fs with
    | nil => simp [set.go]
    | cons f fs ih =>
        by_cases there : f.1 = n
        · simp [set.go, there, List.filter_filter]
        · simp [set.go, there, ih]
  exact congrArg Headers.mk (again h.fields)

theorem Headers.erase_erase (h : Headers) (n : HeaderName) : (h.erase n).erase n = h.erase n := by
  simp [erase, List.filter_filter]

/-- The jar has nothing to write into a request that it has written into. -/
theorem Request.applyJarCookie_again {r q : Request} {rendered : Option String}
    (h : r.applyJarCookie rendered = .ok q) : q.applyJarCookie rendered = .ok q := by
  simp only [applyJarCookie] at h
  split at h
  · rename_i itsOwn
    cases h
    exact if_pos itsOwn
  · cases rendered with
    | none =>
        cases h
        have gone : (r.headers.erase .cookie).contains .cookie = false := by
          rw [Headers.contains_eq_false_iff, Headers.values_erase, if_pos rfl]
        simp [applyJarCookie, gone, Headers.erase_erase]
    | some s =>
        cases written : HeaderValue.ofText s with
        | error e =>
            simp only [written] at h
            cases h
        | ok v =>
            simp only [written] at h
            cases h
            simp [applyJarCookie, written, Headers.set_set, bind, Except.bind, pure, Except.pure]

namespace Client

variable {c : Client} {mode : Mode} {s t : Session}

/-! ## Exchanges -/

theorem alone_exchange (c : Client) (mode : Mode) (r : Request) (s : Session) :
    alone (c.exchange mode r) s =
      match c.beforeSend r s with
      | (.error e, t) => (.error e, t)
      | (.ok (transport, q), t) => c.handOver mode transport q t := by
  simp only [exchange]
  rw [alone_bind, alone_act]
  cases c.beforeSend r s with
  | mk result t =>
      cases result with
      | error e => rfl
      | ok ready =>
          obtain ⟨transport, q⟩ := ready
          simp only [alone_bind, alone_sleep, alone_turns, alone_act]

theorem alone_exchange_applied {q q' : Request} (h : q.applyJarCookie (c.cookies s) = .ok q') :
    alone (c.exchange mode q') s = alone (c.exchange mode q) s := by
  obtain ⟨-, url, body, -⟩ := Request.applyJarCookie_ok h
  have same : c.beforeSend q' s = c.beforeSend q s := by
    simp only [beforeSend, url, body, h, Request.applyJarCookie_again h]
  rw [alone_exchange, alone_exchange, same]

/-! ## Redirects -/

theorem alone_read {response : Response} (mode : Mode) (inMemory : response.body.isStream = false)
    (s : Session) :
    ∃ read : Response, alone (Call.read mode response) s = (.ok read, s) := by
  obtain ⟨bytes, held⟩ := Body.bytes?_of_not_isStream inMemory
  refine ⟨{ response with body := .full bytes }, ?_⟩
  simp only [Call.read]
  rw [alone_bind, alone_turns]
  simp only [Response.read, Body.readAll_of_bytes? held]
  rfl

theorem alone_follow_done {left : Nat} {chain : Sending} {response : Response} {answer : Answer}
    (h : chain.receive response = .ok (.done answer)) :
    alone (c.follow mode left chain response) s = (.ok answer, s) := by
  cases left with
  | zero =>
      rw [follow, alone_bind, alone_ofExcept, h]
      rfl
  | succ left =>
      rw [follow, alone_bind, alone_ofExcept, h]
      rfl

theorem alone_follow_error {left : Nat} {chain : Sending} {response : Response} {e : Error}
    (h : chain.receive response = .error e) :
    alone (c.follow mode left chain response) s = (.error e, s) := by
  cases left with
  | zero => rw [follow, alone_bind, alone_ofExcept, h]
  | succ left => rw [follow, alone_bind, alone_ofExcept, h]

/-- A chain that follows a redirect writes the cookies, exchanges the request, and goes on. -/
theorem alone_follow_redirected (mode : Mode) (left : Nat) {chain : Sending}
    {response : Response} {q : Request} (inMemory : response.body.isStream = false)
    (h : chain.receive response = .ok (.redirected ⟨chain, response, q⟩)) :
    (∃ e, q.applyJarCookie (c.cookies s) = .error e ∧
      alone (c.follow mode (left + 1) chain response) s = (.error e, s)) ∨
    ∃ q' read, q.applyJarCookie (c.cookies s) = .ok q' ∧
      alone (c.follow mode (left + 1) chain response) s =
        match alone (c.exchange mode q) s with
        | (.error e, t) => (.error e, t)
        | (.ok (p, response'), t) =>
          alone (c.follow mode left
            { chain with
              request := p
              history := chain.history ++ [read]
              redirects := chain.redirects + 1 } response') t := by
  obtain ⟨read, held⟩ := alone_read mode inMemory s
  cases written : q.applyJarCookie (c.cookies s) with
  | error e =>
      refine .inl ⟨e, rfl, ?_⟩
      rw [follow, alone_bind, alone_ofExcept, h]
      simp only [proceed]
      rw [alone_bind, alone_bind, held]
      dsimp only
      rw [alone_bind, alone_act]
      simp only [Redirected.proceed, written, Except.map]
  | ok q' =>
      refine .inr ⟨q', read, rfl, ?_⟩
      rw [follow, alone_bind, alone_ofExcept, h]
      simp only [proceed]
      rw [alone_bind, alone_bind, held]
      dsimp only
      rw [alone_bind, alone_act]
      simp only [Redirected.proceed, written, Except.map]
      rw [alone_bind, alone_exchange_applied written]
      cases alone (c.exchange mode q) s with
      | mk result t =>
          cases result with
          | error e => rfl
          | ok answered => rfl

/-! ## Whole calls -/

theorem alone_call_error {r : Request} {options : Options} {e : Error}
    (h : c.prepare r options = .error e) : alone (c.call mode r options) s = (.error e, s) := by
  simp only [call, ready]
  rw [alone_bind, alone_bind, alone_ofExcept, h]

theorem alone_call_none {r : Request} {options : Options} {prepared : Prepared}
    (h : c.prepare r options = .ok prepared) (hnone : prepared.flow = .none) :
    alone (c.call mode r options) s =
      match alone (c.exchange mode prepared.request) s with
      | (.error e, t) => (.error e, t)
      | (.ok (p, response), t) =>
        alone (c.follow mode c.maxRedirects (c.chain ⟨p, response, []⟩ prepared.follow) response)
          t := by
  have readied : alone (c.ready mode r options) s = (.ok prepared, s) := by
    simp only [ready]
    rw [alone_bind, alone_ofExcept, h]
    dsimp only
    simp only [Call.buffer, hnone, Flow.buffersRequest, Bool.false_and, Bool.false_eq_true,
      if_false, pure_bind]
    rw [alone_bind]
    cases prepared with
    | mk request flow follow =>
        cases hnone
        rfl
  have round (r : Request) : alone (c.authenticate mode 0 .none r []) s =
      match alone (c.exchange mode r) s with
      | (.error e, t) => (.error e, t)
      | (.ok (p, response), t) => (.ok ⟨p, response, []⟩, t) := by
    rw [authenticate, alone_bind]
    simp only [Client.round, Flow.buffersResponse, Bool.false_eq_true, if_false, pure_bind]
    rw [alone_bind]
    cases alone (c.exchange mode r) s with
    | mk result t =>
        cases result with
        | error e => rfl
        | ok answered =>
            obtain ⟨p, response⟩ := answered
            dsimp only
            rw [alone_bind]
            simp only [Call.resume, alone_act, Flow.resume, Flow.note, List.append_nil, Except.map]
            rfl
  simp only [call]
  rw [alone_bind, readied]
  dsimp only
  rw [alone_bind, hnone]
  have counted : Flow.none.roundsLeft = 0 := rfl
  rw [counted, round]
  cases alone (c.exchange mode prepared.request) s with
  | mk result t =>
      cases result with
      | error e => rfl
      | ok answered => rfl

end Client

end HttpClient
