/-
# Blocking and awaiting

The two modes of a call read bodies, and they read all bodies alike but one: a source
that has to be awaited is refused by one who blocks.  As long as no such body turns up
(`Body.isPrompt`), a call does the same in both modes: it agrees with itself, part by
part, in every session whose transports do not answer with such a body.

What may bring one in are the transports, the hooks and the flow, so of each of these it
is asked that it does not.

A call that is awaited asks for a permit first.  Where one is free and nobody else is
around, it runs from the start to the end as if it blocked.
-/
import HttpClient.Client.Admission
import HttpClient.Proofs.Auth.Keeping
import HttpClient.Proofs.Call.Agreement
import HttpClient.Proofs.Call.Alone
import HttpClient.Proofs.Call.Course
import HttpClient.Proofs.Call.Routes
import HttpClient.Proofs.Crowd.Single

namespace HttpClient

open Auth Redirect Call

/-! ## Bodies that need not be awaited -/

/-- The body is not a source that has to be awaited. -/
def Body.isPrompt : Body → Bool
  | .asyncStream _ => false
  | _ => true

theorem Body.readAll_prompt {b : Body} (h : b.isPrompt = true) :
    b.readAll .blocking = b.readAll .async ∧ (b.readAll .async).2.isPrompt = true := by
  cases b with
  | empty | full _ | stream _ => exact ⟨rfl, rfl⟩
  | asyncStream _ => cases h

theorem Response.read_prompt {r : Response} (h : r.body.isPrompt = true) :
    r.read .blocking = r.read .async ∧
      ∀ bytes, (r.read .async).1 = .ok bytes → (r.read .async).2.body.isPrompt = true := by
  obtain ⟨same, -⟩ := Body.readAll_prompt h
  refine ⟨by simp only [read, same], ?_⟩
  intro bytes whole
  simp only [read] at whole ⊢
  cases found : r.body.readAll .async with
  | mk result left =>
      rw [found] at whole
      cases result with
      | ok bytes' => rfl
      | error e => cases whole

theorem Redirect.next_prompt {previous q : Request} {response : Response} {lenient : Bool}
    (prompt : previous.body.isPrompt = true) (h : next previous response lenient = .ok q) :
    q.body.isPrompt = true := by
  obtain ⟨url, b, -, taken, rfl⟩ := next_ok h
  show b.isPrompt = true
  simp only [Redirect.body] at taken
  split at taken
  · cases taken
    rfl
  · split at taken
    · cases taken
      exact prompt
    · simp only [Body.forResend] at taken
      split at taken
      · cases taken
      · cases taken
        exact prompt

/-! ## Who brings no others in -/

/-- The transport answers with no body that has to be awaited. -/
def Transport.Prompt (t : Transport) : Prop :=
  ∀ j head body x, body.isPrompt = true → t.respond j head body = .ok x → x.body.isPrompt = true

/-- Nothing that a client was configured with brings in a body that has to be awaited. -/
structure Client.Prompt (c : Client) : Prop where
  router : c.router.Only Transport.Prompt
  requestHooks : ∀ hook ∈ c.requestHooks, ∀ j r q, hook j r = .ok q →
    r.body.isPrompt = true → q.body.isPrompt = true
  responseHooks : ∀ hook ∈ c.responseHooks, ∀ j (x y : Response), hook j x = .ok y →
    x.body.isPrompt = true → y.body.isPrompt = true

/-- The way to authenticate puts no body that has to be awaited into a request. -/
def Auth.Prompt : Auth → Prop := Auth.Keeps fun r => r.body.isPrompt = true

theorem signed_prompt {r q : Request} (h : r.Signed q) (prompt : r.body.isPrompt = true) :
    q.body.isPrompt = true := by
  rw [h.content.body]
  exact prompt

theorem showTo_keeps {α : Type} {P : α → Prop} {note : Nat → α → Event} {hooks : List (Hook α)}
    (keeps : ∀ hook ∈ hooks, ∀ j x y, hook j x = .ok y → P x → P y) {index : Nat} {x y : α}
    {j : Journal} (h : (showTo note index hooks x j).1 = .ok y) (holds : P x) : P y := by
  induction hooks generalizing index x j with
  | nil =>
      cases h
      exact holds
  | cons hook rest ih =>
      obtain ⟨first, others⟩ := List.forall_mem_cons.mp keeps
      simp only [showTo] at h
      cases shown : hook j x with
      | error e =>
          rw [shown] at h
          cases h
      | ok changed =>
          rw [shown] at h
          exact ih others h (first j x changed shown holds)

theorem Transport.handle_prompt {t : Transport} (prompt : t.Prompt) {r : Request}
    (h : r.body.isPrompt = true) (j : Journal) :
    t.handle .blocking j r = t.handle .async j r ∧
      (t.handle .async j r).request.body.isPrompt = true ∧
      ∀ x, (t.handle .async j r).result = .ok x → x.body.isPrompt = true := by
  obtain ⟨same, left⟩ := Body.readAll_prompt h
  refine ⟨by simp only [handle, same], ?_⟩
  simp only [handle]
  split
  · cases found : r.body.readAll .async with
    | mk result body =>
        rw [found] at left
        cases result with
        | ok bytes => exact ⟨left, fun x given => prompt j r.head (.full bytes) x rfl given⟩
        | error e => exact ⟨left, fun x given => by cases given⟩
  · exact ⟨h, fun x given => prompt j r.head r.body x h given⟩

namespace Client

variable {c : Client} {r : Request}

/-- The transports that the session keeps bring in no body that has to be awaited. -/
def PromptSession (s : Session) : Prop := s.connections.Only Transport.Prompt

/-- Neither part of an exchange has to be awaited. -/
def PromptExchange (x : Request × Response) : Prop :=
  x.1.body.isPrompt = true ∧ x.2.body.isPrompt = true

/-! ## The parts of a call -/

theorem agree_read {response : Response} (prompt : response.body.isPrompt = true) :
    Agree PromptSession (fun x => x.body.isPrompt = true) (Call.read .blocking response)
      (Call.read .async response) := by
  obtain ⟨same, kept⟩ := Response.read_prompt prompt
  refine agree_bind agree_turns fun _ _ => ?_
  rw [same]
  cases found : response.read .async with
  | mk result x =>
      rw [found] at kept
      cases result with
      | ok bytes => exact agree_pure (kept bytes rfl)
      | error e => exact agree_throw

theorem agree_buffer {flow : Flow} (prompt : r.body.isPrompt = true) :
    Agree PromptSession (fun q => q.body.isPrompt = true) (Call.buffer .blocking flow r)
      (Call.buffer .async flow r) := by
  obtain ⟨same, -⟩ := Body.readAll_prompt prompt
  simp only [Call.buffer]
  split
  · refine agree_bind agree_turns fun _ _ => ?_
    refine agree_bind (agree_ofExcept (by rw [same]) fun _ _ => trivial) fun bytes _ => ?_
    refine agree_pure ?_
    show (Body.ofBytes bytes).isPrompt = true
    simp only [Body.ofBytes]
    split
    · rfl
    · rfl
  · exact agree_pure prompt

theorem beforeSend_prompt (all : c.Prompt) {s : Session} (kept : PromptSession s)
    {x : Transport × Request} (prompt : r.body.isPrompt = true)
    (h : (c.beforeSend r s).1 = .ok x) : x.1.Prompt ∧ x.2.body.isPrompt = true := by
  have ready : c.beforeSend r s = (.ok (x.1, x.2), (c.beforeSend r s).2) := Prod.ext h rfl
  obtain ⟨-, routed, p, written, shown⟩ := beforeSend_ok ready
  obtain ⟨-, -, body, -⟩ := Request.applyJarCookie_ok written
  refine ⟨(Router.route_only all.router kept).1 _ routed, ?_⟩
  refine showTo_keeps all.requestHooks shown ?_
  rw [body]
  exact prompt

theorem handOver_prompt (all : c.Prompt) {transport : Transport} (answers : transport.Prompt)
    (prompt : r.body.isPrompt = true) (s : Session) :
    c.handOver .blocking transport r s = c.handOver .async transport r s ∧
      ∀ x, (c.handOver .async transport r s).1 = .ok x → PromptExchange x := by
  obtain ⟨same, left, given⟩ := Transport.handle_prompt answers prompt s.journal
  refine ⟨by simp only [handOver, same], ?_⟩
  intro x ended
  simp only [handOver] at ended
  cases result : (transport.handle .async s.journal r).result with
  | error e =>
      rw [result] at ended
      cases ended
  | ok response =>
      rw [result] at ended
      dsimp only [afterReceive] at ended
      have shownTo : ((showResponse c.responseHooks { response with request := some r.head }
          (s.journal ++ [(transport.handle .async s.journal r).event])).1.map
          ((transport.handle .async s.journal r).request, ·)) = .ok x := ended
      cases shown : (showResponse c.responseHooks { response with request := some r.head }
          (s.journal ++ [(transport.handle .async s.journal r).event])).1 with
      | error e =>
          rw [shown] at shownTo
          cases shownTo
      | ok y =>
          rw [shown] at shownTo
          cases shownTo
          have prompt' : response.body.isPrompt = true := given response result
          exact ⟨left, showTo_keeps all.responseHooks shown prompt'⟩

theorem agree_exchange (all : c.Prompt) (prompt : r.body.isPrompt = true) :
    Agree PromptSession PromptExchange (c.exchange .blocking r) (c.exchange .async r) := by
  have ready : Agree PromptSession (fun x => x.1.Prompt ∧ x.2.body.isPrompt = true)
      (Call.act (c.beforeSend r)) (Call.act (c.beforeSend r)) := by
    exact agree_act fun s kept =>
      ⟨rfl, beforeSend_only all.router kept, fun _ => beforeSend_prompt all kept prompt⟩
  refine agree_bind ready fun x answers => ?_
  refine agree_bind agree_sleep fun _ _ => agree_bind agree_turns fun _ _ => ?_
  refine agree_act fun s kept => ?_
  obtain ⟨same, handed⟩ := handOver_prompt all answers.1 answers.2 s
  rw [same]
  refine ⟨rfl, ?_, handed⟩
  show (c.handOver .async x.1 x.2 s).2.connections.Only _
  rw [handOver_connections]
  exact kept

/-! ## The two loops -/

theorem agree_round (all : c.Prompt) {flow : Flow}
    (keeps : flow.Keeps fun r => r.body.isPrompt = true) (prompt : r.body.isPrompt = true) :
    Agree PromptSession (fun x => x.1.request.body.isPrompt = true ∧
        (x.1.flow.Keeps fun r => r.body.isPrompt = true) ∧ x.2.body.isPrompt = true)
      (c.round .blocking flow r) (c.round .async flow r) := by
  have shown (q : Request) (response : Response) (prompt : q.body.isPrompt = true)
      (answered : response.body.isPrompt = true) :
      Agree PromptSession (fun x => x.1.request.body.isPrompt = true ∧
          (x.1.flow.Keeps fun r => r.body.isPrompt = true) ∧ x.2.body.isPrompt = true)
        (do return (← Call.resume flow q response, response))
        (do return (← Call.resume flow q response, response)) := by
    have resumed : Agree PromptSession (fun x : Resumed => x.request.body.isPrompt = true ∧
        x.flow.Keeps fun r => r.body.isPrompt = true)
        (Call.resume flow q response) (Call.resume flow q response) := by
      refine agree_act fun s kept => ⟨rfl, kept, ?_⟩
      intro x made
      dsimp only at made
      obtain ⟨step', step, resumed⟩ := ok_of_map made
      cases resumed
      exact ⟨keeps.resume (fun _ _ => signed_prompt) prompt step, keeps.onward _ _ _ _⟩
    exact agree_bind resumed fun x both => agree_pure ⟨both.1, both.2, answered⟩
  refine agree_bind (agree_exchange all prompt) ?_
  rintro ⟨q, received⟩ ⟨prompt', answered⟩
  dsimp only
  split
  · exact agree_bind (agree_read answered) fun response => shown q response prompt'
  · simp only [pure_bind]
    exact shown q received prompt' answered

/-- By induction over the rounds that are left. -/
theorem agree_authenticate (all : c.Prompt) {left : Nat} {flow : Flow} {history : List Response}
    (keeps : flow.Keeps fun r => r.body.isPrompt = true) (prompt : r.body.isPrompt = true) :
    Agree PromptSession
      (fun last => last.request.body.isPrompt = true ∧ last.response.body.isPrompt = true)
      (c.authenticate .blocking left flow r history)
      (c.authenticate .async left flow r history) := by
  induction left generalizing flow r history with
  | zero =>
      rw [authenticate, authenticate]
      refine agree_bind (agree_round all keeps prompt) ?_
      rintro ⟨resumed, response⟩ ⟨prompt', -, answered⟩
      dsimp only
      split
      · exact agree_pure ⟨prompt', answered⟩
      · exact agree_pure ⟨prompt', answered⟩
  | succ left ih =>
      rw [authenticate, authenticate]
      refine agree_bind (agree_round all keeps prompt) ?_
      rintro ⟨resumed, response⟩ ⟨prompt', onward, answered⟩
      dsimp only
      split
      · exact agree_bind (agree_read answered) fun _ _ => ih onward prompt'
      · exact agree_pure ⟨prompt', answered⟩

theorem agree_proceed (all : c.Prompt) {x : Redirected} (prompt : x.next.body.isPrompt = true)
    (answered : x.response.body.isPrompt = true) :
    Agree PromptSession
      (fun y => y.1.request.body.isPrompt = true ∧ y.2.body.isPrompt = true)
      (c.proceed .blocking x) (c.proceed .async x) := by
  refine agree_bind (agree_read answered) fun response _ => ?_
  have moved : Agree PromptSession (fun chain : Sending => chain.request.body.isPrompt = true)
      (Call.act fun s => (Redirected.proceed { x with response } (c.cookies s), s))
      (Call.act fun s => (Redirected.proceed { x with response } (c.cookies s), s)) := by
    refine agree_act fun s kept => ⟨rfl, kept, ?_⟩
    intro chain proceeded
    obtain ⟨q, written, rfl⟩ := proceed_ok proceeded
    obtain ⟨-, -, body, -⟩ := Request.applyJarCookie_ok written
    show q.body.isPrompt = true
    rw [body]
    exact prompt
  refine agree_bind moved fun chain prompt' => ?_
  exact agree_bind (agree_exchange all prompt') fun y both => agree_pure both

/-- By induction over the redirects that are left. -/
theorem agree_follow (all : c.Prompt) {left : Nat} {chain : Sending} {response : Response}
    (prompt : chain.request.body.isPrompt = true) (answered : response.body.isPrompt = true) :
    Agree PromptSession (fun _ => True) (c.follow .blocking left chain response)
      (c.follow .async left chain response) := by
  induction left generalizing chain response with
  | zero =>
      rw [follow, follow]
      refine agree_bind (agree_ofExcept rfl fun _ _ => trivial) fun received _ => ?_
      cases received with
      | done answer => exact agree_pure trivial
      | redirected x => exact agree_throw
  | succ left ih =>
      have received : Agree PromptSession
          (fun y => ∀ x, y = .redirected x →
            x.next.body.isPrompt = true ∧ x.response.body.isPrompt = true)
          (Call.ofExcept (chain.receive response)) (Call.ofExcept (chain.receive response)) := by
        refine agree_ofExcept rfl ?_
        rintro y made x rfl
        obtain ⟨-, -, -, q, found, rfl⟩ := receive_redirected made
        exact ⟨next_prompt prompt found, answered⟩
      rw [follow, follow]
      refine agree_bind received fun y both => ?_
      cases y with
      | done answer => exact agree_pure trivial
      | redirected x =>
          obtain ⟨prompt', answered'⟩ := both x rfl
          exact agree_bind (agree_proceed all prompt' answered') fun z next => ih next.1 next.2

/-! ## The whole call -/

theorem agree_call (all : c.Prompt) {options : Options}
    (auth : ∀ a, options.auth.or c.auth = some a → a.Prompt) (prompt : r.body.isPrompt = true) :
    Agree PromptSession (fun _ => True) (c.call .blocking r options) (c.call .async r options) := by
  have ready : Agree PromptSession (fun prepared => prepared.request.body.isPrompt = true ∧
      prepared.flow.Keeps fun r => r.body.isPrompt = true)
      (c.ready .blocking r options) (c.ready .async r options) := by
    refine agree_bind (agree_ofExcept rfl fun prepared made => prepare_ok made) ?_
    rintro prepared ⟨request, ⟨login, chosen⟩, -⟩
    have keeps : prepared.flow.Keeps fun r => r.body.isPrompt = true := by
      rw [chosen, ← Option.or_assoc]
      refine Flow.keeps_ofAuth (fun _ _ => signed_prompt) fun a same => ?_
      rcases Option.or_eq_some_iff.mp same with known | ⟨-, ofUrl⟩
      · exact auth a known
      · obtain ⟨_, -, rfl⟩ := Option.map_eq_some_iff.mp ofUrl
        trivial
    have whole : prepared.request.body.isPrompt = true := by
      rw [request]
      exact prompt
    refine agree_bind (agree_buffer whole) fun buffered prompt' => ?_
    have started : Agree PromptSession (fun q => q.body.isPrompt = true)
        (Call.start prepared.flow buffered) (Call.start prepared.flow buffered) := by
      refine agree_act fun s kept => ⟨rfl, kept, ?_⟩
      intro q made
      exact keeps.start (fun _ _ => signed_prompt) prompt' made
    exact agree_bind started fun q prompt'' => agree_pure ⟨prompt'', keeps⟩
  refine agree_bind ready ?_
  rintro prepared ⟨prompt', keeps⟩
  refine agree_bind (agree_authenticate all keeps prompt') ?_
  rintro last ⟨prompt'', answered⟩
  exact agree_follow all prompt'' answered

/-- A call that is awaited does what the same call does when it blocks, as long as no body has to be
awaited, a permit is free and there are no other calls.

Both come to the same result, and they leave the same session: the journal, and so what the
transports received and in which order, the cookie jar, the remembered challenges and the
connections.  The permit is free again afterwards. -/
theorem modes_agree (all : c.Prompt) (a : Admission) (permit : 0 < a.maxInFlight) (d : Draft)
    (auth : ∀ x, d.options.auth.or c.auth = some x → x.Prompt)
    (prompt : ∀ r, d.request = .ok r → r.body.isPrompt = true) (s : Session)
    (kept : s.connections.Only Transport.Prompt) :
    (c.sendTogether a [d] s).members = [.finished (c.sendDraft d s).1] ∧
      (c.sendTogether a [d] s).state = (c.sendDraft d s).2 ∧
      (c.sendTogether a [d] s).free = a.maxInFlight := by
  cases made : d.request with
  | error e =>
      have early : (a.crowd c [d] s).members = [.early (.error e)] := by
        simp [Admission.crowd, Admission.member, made]
      have refused : c.sendDraft d s = (.error e, s) := by
        simp only [sendDraft, made]
      obtain ⟨members, state, free⟩ := Crowd.ended_early early
      rw [refused]
      exact ⟨members, state, free⟩
  | ok r =>
      have queued : (a.crowd c [d] s).members =
          [.queued a.patience.millis (c.call .async r d.options).run] := by
        simp [Admission.crowd, Admission.member, made]
      have blocking : c.sendDraft d s = alone (c.call .blocking r d.options) s := by
        simp only [sendDraft, made]
        rfl
      obtain ⟨same, -, -⟩ := agree_call all auth (prompt r made) s kept
      obtain ⟨members, state, free⟩ :=
        Crowd.ended_queued _ permit queued
      rw [blocking, same]
      exact ⟨members, state, free⟩

/-! ## A challenge, hooks and streamed bodies -/

section Sampled

open Sample Script

theorem mock_prompt {name : String} {replies : List Reply}
    (h : ∀ reply ∈ replies, ∀ url x, reply.outcome url = .ok x → x.body.isPrompt = true) :
    (mock name replies).Prompt := by
  intro j head body x _ answered
  obtain ⟨reply, there, taken⟩ := Script.answer_ok answered
  exact h reply there head.url x taken

theorem reply_prompt {status : Status} {fields : List (HeaderName × String)} {body : Body}
    (prompt : body.isPrompt = true) (url : Url) (x : Response)
    (h : (reply status fields body).outcome url = .ok x) : x.body.isPrompt = true := by
  cases h
  exact prompt

/-- A plan that repeats the request behind a 401. -/
def stubborn : Plan where
  start := fun _ r => ⟨r, none⟩
  rounds := [fun _ r response => ⟨⟨r, none⟩, response.status = .unauthorized⟩]

/-- A server that streams its responses, and a client with hooks. -/
def streaming : Client :=
  { client
      [reply .unauthorized [] (.stream (.live [.chunk [1], .chunk [2]])),
        reply found [(.location, "/b")] (.stream (.live [.chunk [3]])),
        reply okay [] (.stream (.live [.chunk [4]]))]
      (some (.plan stubborn)) 9 with
    requestHooks := [fun _ r => .ok { r with headers := r.headers.erase delayName }]
    responseHooks := [fun _ x => .ok { x with headers := x.headers.erase .setCookie }] }

theorem streaming_prompt : streaming.Prompt where
  router := by
    refine Router.only_default (mock_prompt ?_) rfl rfl
    refine List.forall_mem_cons.mpr ⟨reply_prompt rfl, ?_⟩
    refine List.forall_mem_cons.mpr ⟨reply_prompt rfl, ?_⟩
    exact List.forall_mem_singleton.mpr (reply_prompt rfl)
  requestHooks := by
    refine List.forall_mem_singleton.mpr ?_
    intro j r q shown prompt
    cases shown
    exact prompt
  responseHooks := by
    refine List.forall_mem_singleton.mpr ?_
    intro j x y shown prompt
    cases shown
    exact prompt

def posted : Draft := ⟨.ok (request .post (.full [7])), {}⟩

/-- Behind a round and a redirect, both modes bring back the same answer. -/
theorem modes_of_streaming :
    ∃ answer, (streaming.sendTogether {} [posted] {}).members = [.finished (.ok answer)] ∧
      (streaming.sendDraft posted {}).1 = .ok answer ∧
      answer.history.map (·.body) = [.full [1, 2], .full [3]] ∧
      (streaming.sendTogether {} [posted] {}).state = (streaming.sendDraft posted {}).2 ∧
      (streaming.sendTogether {} [posted] {}).free = 100 := by
  have there : (answer? streaming (request .post (.full [7]))).isSome = true := by decide +kernel
  obtain ⟨answer, brought⟩ := Option.isSome_iff_exists.mp there
  have bodies : (answer? streaming (request .post (.full [7]))).map
      (fun answer => answer.history.map (·.body)) = some [.full [1, 2], .full [3]] := by
    decide +kernel
  rw [brought] at bodies
  have blocking : (streaming.sendDraft posted {}).1 = .ok answer := send_of_answer? brought
  have auth : ∀ x, posted.options.auth.or streaming.auth = some x → x.Prompt := by
    intro x same
    cases same
    refine ⟨fun _ _ prompt q made => ?_,
      List.forall_mem_singleton.mpr fun _ _ _ prompt q made => ?_⟩
    · cases made
      exact prompt
    · cases made
      exact prompt
  have prompt : ∀ r, posted.request = .ok r → r.body.isPrompt = true := by
    intro r same
    cases same
    rfl
  have all := modes_agree streaming_prompt {} (by decide) posted auth prompt {}
    Connections.only_empty
  rw [blocking] at all
  exact ⟨answer, all.1, blocking, Option.some.inj bodies, all.2.1, all.2.2⟩

end Sampled

end Client

end HttpClient
