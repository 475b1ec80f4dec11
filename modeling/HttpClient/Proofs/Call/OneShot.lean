/-
# Bodies that can be sent once

A body that is produced once goes to the transport of the first exchange.  A transport
that reads it leaves it used up, and a request whose body is used up gets no further:
it is refused before it is sent, and a redirect that would keep it is refused before
it is followed.  So the bytes are sent once, what is sent later has no body, and a
call that would have to send them again fails.

There is one other way for such a call to fail.  Before the request is sent again for
its authentication, the response with the challenge is read into memory, and that may
fail first.
-/
import HttpClient.Proofs.Call.Content
import HttpClient.Proofs.Call.Routes

namespace HttpClient

open Auth Redirect Call

variable {mode : Mode}

theorem Body.isConsumed_of_readAll {b left : Body} {bytes : Bytes} (streams : b.isStream = true)
    (h : b.readAll mode = (.ok bytes, left)) : left.isConsumed = true := by
  have spent (p : Producer) : p.readAll.2 = .drained := by
    cases p with
    | live _ => rfl
    | drained => rfl
  cases b with
  | empty => cases streams
  | full _ => cases streams
  | stream p =>
      have rest := (Prod.mk.inj h).2
      rw [← rest, spent]
      rfl
  | asyncStream p =>
      cases mode with
      | blocking => cases h
      | async =>
          have rest := (Prod.mk.inj h).2
          rw [← rest, spent]
          rfl

theorem Body.not_isStream_of_bytes? {b : Body} {bytes : Bytes} (h : b.bytes? = some bytes) :
    b.isStream = false := by
  cases b with
  | empty => rfl
  | full _ => rfl
  | stream _ => cases h
  | asyncStream _ => cases h

/-- There is nothing in the body that could be sent: it is used up, or there never was anything. -/
def Body.Void (b : Body) : Prop := b.isConsumed = true ∨ b.bytes? = some []

theorem Body.Void.isConsumed {b : Body} (h : b.Void) (streams : b.isStream = true) :
    b.isConsumed = true := by
  rcases h with used | hnone
  · exact used
  · rw [not_isStream_of_bytes? hnone] at streams
    cases streams

/-- What a call fails with when it is to send a request again whose body is used up: before that it
reads the response into memory. -/
def Response.resendFailure (mode : Mode) (response : Response) : Error :=
  match response.inMemory mode with
  | .ok _ => .streamConsumed
  | .error e => e

/-- At most one request was received, and it carries the bytes of a body; if there is none, the call
has failed. -/
def Call.SentOnce {α : Type} (mode : Mode) (body : Body) (own : Changes)
    (result : Except Error α) : Prop :=
  (sent own = [] ∧ ∃ e, result = .error e) ∨
    ∃ q bytes, sent own = [q] ∧ (body.readAll mode).1 = .ok bytes ∧ q.body = .full bytes

theorem Call.SentOnce.failed {α β : Type} {body : Body} {own : Changes} {result : Except Error α}
    (h : SentOnce mode body own result) (e : Error) :
    SentOnce mode body own (.error e : Except Error β) := by
  rcases h with ⟨hnone, -⟩ | once
  · exact .inl ⟨hnone, e, rfl⟩
  · exact .inr once

theorem Call.SentOnce.succeeded {α β : Type} {body : Body} {own : Changes} {a : α}
    (h : SentOnce mode body own (.ok a)) (result : Except Error β) :
    SentOnce mode body own result := by
  rcases h with ⟨-, e, impossible⟩ | once
  · cases impossible
  · exact .inr once

theorem Call.SentOnce.congr {α : Type} {body : Body} {own own' : Changes} {result : Except Error α}
    (h : SentOnce mode body own result) (same : sent own' = sent own) :
    SentOnce mode body own' result := by
  unfold SentOnce at h ⊢
  rw [same]
  exact h

/-- The redirect is to be followed, and the next request would be the same again, body and all. -/
structure Redirect.Resends (chain : Sending) (response : Response) : Prop where
  redirects : response.isRedirect = true
  follows : chain.follow = true
  room : chain.history.length < chain.maxRedirects
  target : ∃ url, Redirect.target chain.request.url response = .ok url
  keeps : (response.status.keepsMethod || chain.request.method.isGetOrHead) = true
  streams : chain.request.body.isStream = true

theorem Redirect.Resends.refused {chain : Sending} {response : Response}
    (h : Resends chain response) (used : chain.request.body.isConsumed = true) :
    chain.receive response = .error .streamConsumed := by
  obtain ⟨url, found⟩ := h.target
  have stays : downgrades response.status chain.request.method = false := by
    have keeps := h.keeps
    unfold downgrades
    cases kept : response.status.keepsMethod with
    | true => rfl
    | false =>
        rw [kept, Bool.false_or] at keeps
        rw [keeps]
        rfl
  have taken : body chain.request response.status false = .error .streamConsumed := by
    rw [Redirect.body, stays, if_neg (by decide), if_neg (by decide), Body.forResend, if_pos used]
  unfold Sending.receive
  have room : ¬ chain.maxRedirects ≤ chain.history.length := Nat.not_le.mpr h.room
  rw [if_neg (by simp [h.redirects]), if_neg (by simp [h.follows]), if_neg room]
  simp only [next, found, taken, bind, Except.bind, Except.map]

namespace Client

variable {c : Client} {own : Changes}

/-! ## One exchange -/

theorem Exchanged.first {p : Request} {result : Except Error (Request × Response)}
    (silent : c.requestHooks = []) (quiet : c.responseHooks = [])
    (reads : c.router.Only fun t => t.readsBody = true)
    (reached : ∀ change ∈ own, change.1.connections.Only fun t => t.readsBody = true)
    (streams : p.body.isStream = true) (h : c.Exchanged mode p own result) :
    SentOnce mode p.body own result ∧
    ∀ p' response, result = .ok (p', response) → p'.body.isConsumed = true := by
  rcases h.given silent quiet with
    ⟨hnone, e, failed⟩ | ⟨transport, q, left, ⟨change, there, routed⟩, received, given, ended⟩
  · refine ⟨.inl ⟨hnone, e, failed⟩, ?_⟩
    intro p' response same
    rw [failed] at same
    cases same
  · have handed := given.body
    rw [if_pos ((Router.route_only reads (reached change there)).1 transport routed)] at handed
    obtain ⟨bytes, whole, same⟩ := handed
    refine ⟨.inr ⟨q, bytes, received, by rw [whole], same⟩, ?_⟩
    intro p' response ok
    rcases ended with ⟨e, -, failed⟩ | ⟨x, p'', -, left', succeeded⟩
    · rw [failed] at ok
      cases ok
    · rw [succeeded] at ok
      cases ok
      rw [left'.body]
      exact Body.isConsumed_of_readAll streams whole

theorem Exchanged.void {p : Request} {result : Except Error (Request × Response)}
    (silent : c.requestHooks = []) (quiet : c.responseHooks = [])
    (hnone : p.body.bytes? = some []) (h : c.Exchanged mode p own result) :
    (∀ q ∈ sent own, q.body.bytes? = some []) ∧
      ∀ p' response, result = .ok (p', response) → p'.body.bytes? = some [] := by
  rcases h.given silent quiet with
    ⟨nothing, e, failed⟩ | ⟨transport, q, left, -, received, given, ended⟩
  · rw [nothing, failed]
    exact ⟨fun _ there => absurd there List.not_mem_nil, fun _ _ same => by cases same⟩
  · obtain ⟨still, stays⟩ := given.bytes hnone
    rw [received]
    constructor
    · intro q' there
      cases List.mem_singleton.mp there
      exact still
    · intro p' response ok
      rcases ended with ⟨e, -, failed⟩ | ⟨x, p'', -, left', succeeded⟩
      · rw [failed] at ok
        cases ok
      · rw [succeeded] at ok
        cases ok
        rw [left'.body]
        exact stays

/-! ## The rounds -/

theorem Rounds.consumed {flow : Flow} {p : Request} {history : List Response}
    {rounds : List (Resumed × Response)} {result : Except Error Authenticated}
    (used : p.body.isConsumed = true) (h : c.Rounds mode flow p history own rounds result) :
    result = .error .streamConsumed ∧ calls own = 0 ∧ rounds = [] := by
  have refused {own : Changes} {result : Except Error (Resumed × Response)}
      (h : c.Rounded mode flow p own result) :
      result = .error .streamConsumed ∧ calls own = 0 := by
    cases h with
    | unanswered exchanged =>
        obtain ⟨same, hnone⟩ := exchanged.consumed used
        cases same
        exact ⟨rfl, hnone⟩
    | unread exchanged _ =>
        obtain ⟨impossible, -⟩ := exchanged.consumed used
        cases impossible
    | resumed exchanged _ _ _ =>
        obtain ⟨impossible, -⟩ := exchanged.consumed used
        cases impossible
  cases h with
  | failed rounded =>
      obtain ⟨same, hnone⟩ := refused rounded
      cases same
      exact ⟨rfl, hnone, rfl⟩
  | last rounded _ => cases (refused rounded).1
  | unread rounded _ _ => cases (refused rounded).1
  | again rounded _ _ _ => cases (refused rounded).1

/-- What a round of a built-in flow makes of a body that can be sent once. -/
theorem Rounded.first {flow : Flow} {p : Request} {result : Except Error (Resumed × Response)}
    (silent : c.requestHooks = []) (quiet : c.responseHooks = [])
    (reads : c.router.Only fun t => t.readsBody = true)
    (reached : ∀ change ∈ own, change.1.connections.Only fun t => t.readsBody = true)
    (streams : p.body.isStream = true) (keeps : flow.KeepsContent)
    (h : c.Rounded mode flow p own result) :
    SentOnce mode p.body own result ∧
    ∀ resumed response, result = .ok (resumed, response) →
      resumed.request.body.isConsumed = true := by
  constructor
  · cases h with
    | unanswered exchanged | unread exchanged _ =>
        exact (exchanged.first silent quiet reads reached streams).1.failed _
    | @resumed own _ _ _ t t' exchanged _ journal _ =>
        have before : ∀ change ∈ own, change.1.connections.Only fun t => t.readsBody = true :=
          fun change there => reached change (List.mem_append_left _ there)
        have only : sent (own ++ [(t, t')]) = sent own := by
          rw [sent_append, sent_of_calls (calls_noted_flow journal), List.append_nil]
        exact ((exchanged.first silent quiet reads before streams).1.succeeded _).congr only
  · rintro resumed response rfl
    obtain ⟨exchange, p', _, t, _, _, rfl, exchanged, -, -, rfl, step⟩ := h.ok
    have before : ∀ change ∈ exchange, change.1.connections.Only fun t => t.readsBody = true :=
      fun change there => reached change (List.mem_append_left _ there)
    rw [(Flow.resume_keeps keeps step).1.body]
    exact (exchanged.first silent quiet reads before streams).2 _ _ rfl

/-- What the rounds of a built-in flow make of a body that can be sent once.  If the flow asks for
the request to be sent again, it is not: either the response cannot be read, or the body is used
up. -/
theorem Rounds.first {flow : Flow} {p : Request} {history : List Response}
    {rounds : List (Resumed × Response)} {result : Except Error Authenticated}
    (silent : c.requestHooks = []) (quiet : c.responseHooks = [])
    (reads : c.router.Only fun t => t.readsBody = true)
    (reached : ∀ change ∈ own, change.1.connections.Only fun t => t.readsBody = true)
    (streams : p.body.isStream = true) (keeps : flow.KeepsContent)
    (h : c.Rounds mode flow p history own rounds result) :
    SentOnce mode p.body own result ∧
    (∀ last, result = .ok last → last.request.body.isConsumed = true) ∧
    ∀ round ∈ rounds, round.1.step = .ok .sendRequest →
      calls own = 1 ∧ result = .error (round.2.resendFailure mode) := by
  cases h with
  | failed rounded =>
      exact ⟨(rounded.first silent quiet reads reached streams keeps).1.failed _,
        fun _ same => (by cases same), fun _ there => absurd there List.not_mem_nil⟩
  | last rounded ended =>
      obtain ⟨once, used⟩ := rounded.first silent quiet reads reached streams keeps
      refine ⟨once.succeeded _, ?_, ?_⟩
      · intro last same
        cases same
        exact used _ _ rfl
      · intro round there asks
        cases List.mem_singleton.mp there
        exact absurd asks ended
  | unread rounded _ failed =>
      obtain ⟨once, used⟩ := rounded.first silent quiet reads reached streams keeps
      refine ⟨once.succeeded _, fun _ same => (by cases same), ?_⟩
      intro round there _
      cases List.mem_singleton.mp there
      exact ⟨rounded.calls_le.2 _ rfl, by rw [Response.resendFailure, failed]⟩
  | @again _ _ _ own own' resumed received response rounds _ rounded asks read later =>
      have before : ∀ change ∈ own, change.1.connections.Only fun t => t.readsBody = true :=
        fun change there => reached change (List.mem_append_left _ there)
      obtain ⟨once, used⟩ := rounded.first silent quiet reads before streams keeps
      obtain ⟨rfl, hnone, rfl⟩ := later.consumed (used _ _ rfl)
      have only : sent (own ++ own') = sent own := by
        rw [sent_append, sent_of_calls hnone, List.append_nil]
      refine ⟨(once.succeeded _).congr only, fun _ same => (by cases same), ?_⟩
      intro round there _
      cases List.mem_singleton.mp there
      refine ⟨?_, by rw [Response.resendFailure, read]⟩
      rw [calls_append, hnone, rounded.calls_le.2 _ rfl]

/-! ## The legs -/

theorem void_of_hop {chain next : Sending} {response : Response} (h : Hop chain response next)
    (void : chain.request.body.Void) : next.request.body.bytes? = some [] := by
  have taken := h.body
  unfold Redirect.body at taken
  split at taken
  · rw [← Except.ok.inj taken]
    rfl
  · rw [if_neg (by decide)] at taken
    unfold Body.forResend at taken
    split at taken
    · cases taken
    · rename_i unused
      rw [← Except.ok.inj taken]
      rcases void with used | hnone
      · exact absurd used unused
      · exact hnone

/-- What follows a response when there is nothing left to send. -/
theorem Legs.void {chain : Sending} {response : Response} {stages : List Stage}
    {result : Except Error Answer} (silent : c.requestHooks = []) (quiet : c.responseHooks = [])
    (h : c.Legs mode chain response own stages result) :
    chain.request.body.Void →
    (∀ q ∈ sent own, q.body.bytes? = some []) ∧
    (∀ chain' response', Stage.mk chain' (some response') ∈ stages →
      Resends chain' response' →
        result = .error .streamConsumed ∧ stages.getLast? = some ⟨chain', response'⟩) ∧
    ∀ answer q, result = .ok answer → answer.next = some q → q.body.isStream = true →
      q.body.isConsumed = true := by
  have stopped {chain : Sending} {response : Response} {received : Received}
      (void : chain.request.body.Void) (found : chain.receive response = .ok received) :
      ¬ Resends chain response := by
    intro resends
    rw [resends.refused (void.isConsumed resends.streams)] at found
    cases found
  induction h with
  | @done chain response answer received =>
      intro void
      refine ⟨fun _ there => absurd there List.not_mem_nil, ?_, ?_⟩
      · intro chain' response' there resends
        cases List.mem_singleton.mp there
        exact absurd resends (stopped void received)
      · intro answer' q same kept streams
        cases same
        obtain ⟨url, b, -, taken, rfl⟩ := next_ok ((receive_done received).2 q kept)
        unfold Redirect.body at taken
        split at taken
        · rw [← Except.ok.inj taken] at streams
          cases streams
        · rw [if_pos rfl] at taken
          rw [← Except.ok.inj taken] at streams ⊢
          exact void.isConsumed streams
  | @refused chain response e received =>
      intro void
      refine ⟨fun _ there => absurd there List.not_mem_nil, ?_, fun _ _ same => by cases same⟩
      intro chain' response' there resends
      cases List.mem_singleton.mp there
      rw [resends.refused (void.isConsumed resends.streams)] at received
      cases received
      exact ⟨rfl, rfl⟩
  | stuck received proceeded =>
      intro void
      rw [sent_of_calls proceeded.calls_eq]
      refine ⟨fun _ there => absurd there List.not_mem_nil, ?_, fun _ _ same => by cases same⟩
      intro chain' response' there resends
      cases List.mem_singleton.mp there
      exact absurd resends (stopped void received)
  | unanswered received proceeded exchanged =>
      intro void
      rw [sent_append, sent_of_calls proceeded.calls_eq, List.nil_append]
      have hnone := void_of_hop (proceeded.hop received) void
      refine ⟨(exchanged.void silent quiet hnone).1, ?_, fun _ _ same => by cases same⟩
      intro chain' response' there resends
      rcases List.mem_cons.mp there with same | later
      · cases same
        exact absurd resends (stopped void received)
      · cases List.mem_singleton.mp later
  | leg received proceeded exchanged _ ih =>
      intro void
      have hnone := void_of_hop (proceeded.hop received) void
      obtain ⟨empty, left⟩ := exchanged.void silent quiet hnone
      obtain ⟨later, stages, next⟩ := ih (.inr (left _ _ rfl))
      rw [sent_append, sent_append, sent_of_calls proceeded.calls_eq, List.nil_append]
      refine ⟨?_, ?_, next⟩
      · intro q there
        rcases List.mem_append.mp there with first | rest
        · exact empty q first
        · exact later q rest
      · intro chain' response' there resends
        rcases List.mem_cons.mp there with same | behind
        · cases same
          exact absurd resends (stopped void received)
        · obtain ⟨failed, last⟩ := stages chain' response' behind resends
          exact ⟨failed, by rw [List.getLast?_cons, last]; rfl⟩

/-! ## The whole call -/

theorem keeps_of_builtIn {options : Options}
    (builtIn : ∀ a, options.auth.or c.auth = some a → a.isBuiltIn = true) :
    ∀ a, options.auth.or c.auth = some a → a.KeepsContent :=
  fun a found => keepsContent_of_isBuiltIn (builtIn a found)

theorem Readied.body {options : Options} {r : Request} {ready : Prepared}
    (builtIn : ∀ a, options.auth.or c.auth = some a → a.isBuiltIn = true)
    (h : c.Readied mode r options own (.ok ready)) :
    ready.request.body = r.body ∧ ready.flow.KeepsContent := by
  obtain ⟨prepared, buffered, t, made, whole, started, flow, -⟩ := h.ok
  obtain ⟨request, ⟨login, chosen⟩, -⟩ := prepare_ok made
  have keeps : prepared.flow.KeepsContent := by
    rw [chosen]
    exact flow_keeps (keeps_of_builtIn builtIn)
  have passes : prepared.flow.buffersRequest = false := by
    rw [chosen, ← Option.or_assoc]
    cases given : options.auth.or c.auth with
    | none =>
        cases login with
        | none => rfl
        | some l => rfl
    | some a =>
        have own := builtIn a given
        cases a with
        | basic _ | digest _ | netRc _ => rfl
        | edit _ | plan _ => cases own
  rw [passes, Bool.false_and, if_neg (by decide)] at whole
  cases whole
  rw [flow, (Flow.start_keeps keeps started).body, request]
  exact ⟨rfl, keeps⟩

theorem Opening.first {r : Request} {options : Options} {rounds : List (Resumed × Response)}
    {result : Except Error (Authenticated × Bool)}
    (silent : c.requestHooks = []) (quiet : c.responseHooks = [])
    (reads : c.router.Only fun t => t.readsBody = true)
    (reached : ∀ change ∈ own, change.1.connections.Only fun t => t.readsBody = true)
    (builtIn : ∀ a, options.auth.or c.auth = some a → a.isBuiltIn = true)
    (streams : r.body.isStream = true) (h : c.Opening mode r options own rounds result) :
    SentOnce mode r.body own result ∧
    (∀ last follow, result = .ok (last, follow) → last.request.body.isConsumed = true) ∧
    ∀ round ∈ rounds, round.1.step = .ok .sendRequest →
      calls own = 1 ∧ result = .error (round.2.resendFailure mode) := by
  cases h with
  | unready readied =>
      refine ⟨.inl ⟨sent_of_calls readied.calls_eq, _, rfl⟩, fun _ _ same => (by cases same), ?_⟩
      exact fun _ there => absurd there List.not_mem_nil
  | @rounds before after ready _ outcome readied behind =>
      obtain ⟨body, keeps⟩ := readied.body builtIn
      obtain ⟨once, used, resend⟩ := behind.first silent quiet reads
        (fun change there => reached change (List.mem_append_right _ there))
        (by rw [body]; exact streams) keeps
      have only : sent (before ++ after) = sent after := by
        rw [sent_append, sent_of_calls readied.calls_eq, List.nil_append]
      rw [body] at once
      rw [calls_append, readied.calls_eq, Nat.zero_add]
      cases outcome with
      | error e =>
          refine ⟨(once.failed e).congr only, fun _ _ same => (by cases same), ?_⟩
          intro round there asks
          obtain ⟨count, same⟩ := resend round there asks
          cases same
          exact ⟨count, rfl⟩
      | ok last =>
          refine ⟨(once.succeeded _).congr only, ?_, ?_⟩
          · intro last' follow same
            cases same
            exact used _ rfl
          · intro round there asks
            obtain ⟨-, impossible⟩ := resend round there asks
            cases impossible

theorem consumed_unsent {rely : Session → Session → Prop} {s s' : Session} {r : Request}
    {options : Options} {result : Except Error Answer}
    (builtIn : ∀ a, options.auth.or c.auth = some a → a.isBuiltIn = true)
    (used : r.body.isConsumed = true) (h : Goes rely (c.call mode r options) s own result s') :
    calls own = 0 ∧ ∃ e, result = .error e := by
  obtain ⟨opening, legs, rounds, stages, rfl, course⟩ := goes_call h
  have unsent {result : Except Error (Authenticated × Bool)} {own : Changes}
      (h : c.Opening mode r options own rounds result) :
      calls own = 0 ∧ ∃ e, result = .error e := by
    cases h with
    | unready readied => exact ⟨readied.calls_eq, _, rfl⟩
    | rounds readied behind =>
        obtain ⟨same, hnone, -⟩ := behind.consumed (by rw [(readied.body builtIn).1]; exact used)
        rw [calls_append, readied.calls_eq, hnone, same]
        exact ⟨rfl, _, rfl⟩
  cases course with
  | unopened opened =>
      rw [List.append_nil]
      exact ⟨(unsent opened).1, _, rfl⟩
  | opened opened _ =>
      obtain ⟨-, e, impossible⟩ := unsent opened
      cases impossible

/-- The body of a call over transports that read it, without hooks and with built-in authentication
only, is a one-shot source.  Then only the first request that a transport receives carries its
bytes, and those behind it have no body.  Where the authentication asks for the request again, or a
redirect would keep it, no transport is called any more and the call fails: because the body is used
up, or, before the authentication sends the request again, because the response cannot be read.  If
the request behind a last redirect keeps the body, then making a call of it calls no transport. -/
theorem one_shot_body {rely : Session → Session → Prop} {s s' : Session} {r : Request}
    {options : Options} {result : Except Error Answer} (silent : c.requestHooks = [])
    (quiet : c.responseHooks = [])
    (builtIn : ∀ a, options.auth.or c.auth = some a → a.isBuiltIn = true)
    (streams : r.body.isStream = true) (reads : c.router.Only fun t => t.readsBody = true)
    (others : ∀ s t, rely s t → s.connections.Only (fun t => t.readsBody = true) →
      t.connections.Only fun t => t.readsBody = true)
    (start : s.connections.Only fun t => t.readsBody = true)
    (h : Goes rely (c.call mode r options) s own result s') :
    ∃ opening legs rounds stages, own = opening ++ legs ∧
      c.Course mode r options opening legs rounds stages result ∧
      (∀ q later, sent own = q :: later →
        (∃ bytes, (r.body.readAll mode).1 = .ok bytes ∧ q.body = .full bytes) ∧
          ∀ q' ∈ later, q'.body.bytes? = some []) ∧
      (∀ round ∈ rounds, round.1.step = .ok .sendRequest →
        calls own = 1 ∧ result = .error (round.2.resendFailure mode)) ∧
      (∀ chain response, Stage.mk chain (some response) ∈ stages → Resends chain response →
        result = .error .streamConsumed ∧ stages.getLast? = some ⟨chain, response⟩) ∧
      ∀ answer q, result = .ok answer → answer.next = some q → q.body.isStream = true →
        ∀ (mode' : Mode) (options' : Options) (rely' : Session → Session → Prop)
          (s₁ s₂ : Session) (own' : Changes) (result' : Except Error Answer),
        (∀ a, options'.auth.or c.auth = some a → a.isBuiltIn = true) →
        Goes rely' (c.call mode' q options') s₁ own' result' s₂ →
          calls own' = 0 ∧ ∃ e, result' = .error e := by
  have reached := only_reached reads others start h
  obtain ⟨opening, legs, rounds, stages, rfl, course⟩ := goes_call h
  refine ⟨opening, legs, rounds, stages, rfl, course, ?_⟩
  have early : ∀ change ∈ opening, change.1.connections.Only fun t => t.readsBody = true :=
    fun change there => reached change (List.mem_append_left _ there)
  cases course with
  | unopened opened =>
      obtain ⟨once, -, resend⟩ := opened.first silent quiet reads early builtIn streams
      rw [List.append_nil]
      refine ⟨?_, ?_, ?_, fun _ _ same => by cases same⟩
      · intro q later split
        rcases once with ⟨hnone, -⟩ | ⟨q', bytes, one, whole, full⟩
        · rw [hnone] at split
          cases split
        · rw [one] at split
          cases split
          exact ⟨⟨bytes, whole, full⟩, fun _ there => absurd there List.not_mem_nil⟩
      · intro round there asks
        obtain ⟨count, same⟩ := resend round there asks
        cases same
        exact ⟨count, rfl⟩
      · exact fun _ _ there => absurd there List.not_mem_nil
  | opened opened behind =>
      obtain ⟨once, used, resend⟩ := opened.first silent quiet reads early builtIn streams
      obtain ⟨empty, refused, next⟩ := behind.void silent quiet (.inl (used _ _ rfl))
      refine ⟨?_, ?_, refused, ?_⟩
      · intro q later split
        rcases once with ⟨-, e, impossible⟩ | ⟨q', bytes, one, whole, full⟩
        · cases impossible
        · rw [sent_append, one, List.singleton_append] at split
          cases split
          exact ⟨⟨bytes, whole, full⟩, empty⟩
      · intro round there asks
        obtain ⟨-, impossible⟩ := resend round there asks
        cases impossible
      · intro answer q ended kept streams' mode' options' rely' s₁ s₂ own' result' builtIn' goes
        exact consumed_unsent builtIn' (next answer q ended kept streams') goes

/-! ## A stream behind a redirect, and one behind a challenge -/

section Sampled

open Sample

def oneShot : Request := request .post (.stream (.live [.chunk [1, 2]]))

/-- A server that sends the call on with its body. -/
def keeper : Client := client [kept "/b", fine] none 9

theorem client_reads (replies : List Script.Reply) (auth : Option Auth) (maxRedirects : Nat) :
    (Sample.client replies auth maxRedirects).router.Only fun t => t.readsBody = true :=
  ⟨rfl, fun _ there => absurd there List.not_mem_nil, fun _ h => by cases h⟩

/-- The bytes are sent once, and the redirect is not followed. -/
theorem one_shot_body_redirected :
    failure? keeper oneShot = some .streamConsumed ∧
      ∃ q, sent (keeper.changes .blocking oneShot {} {}) = [q] ∧ q.body = .full [1, 2] := by
  have failed : failure? keeper oneShot = some .streamConsumed := by decide +kernel
  have once : (sent (keeper.changes .blocking oneShot {} {})).length = 1 := by decide +kernel
  have goes : Goes Eq _ _ _ _ _ := goes_send (fun _ => rfl) keeper .blocking oneShot {} {}
  have alone : ∀ s t : Session, s = t → s.connections.Only (fun t => t.readsBody = true) →
      t.connections.Only fun t => t.readsBody = true := by
    rintro s t rfl only
    exact only
  obtain ⟨-, -, -, -, -, -, carried, -⟩ := one_shot_body rfl rfl (fun _ h => by cases h) rfl
    (client_reads [kept "/b", fine] none 9) alone (fun _ there => absurd there List.not_mem_nil)
    goes
  obtain ⟨q, one⟩ := List.length_eq_one_iff.mp once
  obtain ⟨⟨bytes, whole, full⟩, -⟩ := carried q [] one
  cases whole
  exact ⟨failed, q, one, full⟩

def account : Digest.Account :=
  { name := "d", login := ⟨"u", "p"⟩, clientNonce := fun _ _ => "c" }

/-- A server whose challenge comes with a body that cannot be read. -/
def breaker : Client :=
  client
    [reply .unauthorized [(.wwwAuthenticate, "Digest realm=\"r\", nonce=\"n\"")]
      (.stream (.live [.failure "gone"])), fine]
    (some (.digest account)) 9

/-- The flow asks for another round when it is shown the first response. -/
def asksAgain (c : Client) : Bool :=
  match ((c.round .blocking (.digest account false) oneShot).run.run {}).1 with
  | .ok (resumed, _) => resumed.step.toOption = some .sendRequest
  | .error _ => false

/-- The request is to be sent again, but it is not the body being used up that the call fails
with. -/
theorem challenge_unread :
    ¬ (asksAgain breaker = true →
      (breaker.send .blocking oneShot {} {}).1 = .error .streamConsumed) := by
  intro always
  have asks : asksAgain breaker = true := by decide +kernel
  have failed : failure? breaker oneShot = some (.read "gone") := by decide +kernel
  have other := send_of_failure? failed
  rw [always asks] at other
  cases other

end Sampled

end Client

end HttpClient
