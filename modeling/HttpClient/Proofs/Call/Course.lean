/-
# The course of a call

A call has two phases.  The first one, its `Opening`, prepares the request and ends
with the last authentication round; the second one, its `Legs`, follows redirects.
Both are written down here as what can happen, without the counters that the program
takes along so that it visibly ends: a flow asks for no more rounds than it has, and
a chain is refused before its counter is used up.

`goes_call` says that in whatever company a call goes one of these ways.  What is
proved by induction on `Rounds` and on `Legs` holds for every call.
-/
import HttpClient.Proofs.Auth.Keeping
import HttpClient.Proofs.Call.Exchange

namespace HttpClient

open Auth Redirect Call

/-- The response with its body in memory, or why it cannot be read. -/
def Response.inMemory (mode : Mode) (r : Response) : Except Error Response :=
  (r.read mode).1.map fun _ => (r.read mode).2

namespace Call

variable {rely : Session → Session → Prop} {mode : Mode} {s s' : Session} {own : Changes}

/-! ## The single steps -/

theorem goes_read {r : Response} {result : Except Error Response}
    (h : Goes rely (Call.read mode r) s own result s') :
    own = [] ∧ result = r.inMemory mode := by
  unfold Call.read at h
  rcases goes_bind.mp h with ⟨e, waited, rfl⟩ | ⟨own₁, u, s₁, own₂, rfl, waited, rest⟩
  · obtain ⟨-, impossible, -⟩ := goes_turns waited
    cases impossible
  · obtain ⟨rfl, -, -⟩ := goes_turns waited
    unfold Response.inMemory
    cases found : r.read mode with
    | mk bytes response =>
        rw [found] at rest
        cases bytes with
        | ok bytes =>
            obtain ⟨rfl, rfl, -⟩ := goes_pure.mp rest
            exact ⟨rfl, rfl⟩
        | error e =>
            obtain ⟨rfl, rfl, -⟩ := goes_throw.mp rest
            exact ⟨rfl, rfl⟩

theorem goes_buffer {flow : Flow} {r : Request} {result : Except Error Request}
    (h : Goes rely (buffer mode flow r) s own result s') :
    own = [] ∧ result =
      if flow.buffersRequest && r.body.isStream then
        (r.body.readAll mode).1.map fun bytes => { r with body := .ofBytes bytes }
      else .ok r := by
  unfold buffer at h
  split at h
  · rename_i buffers
    rw [if_pos buffers]
    rcases goes_bind.mp h with ⟨e, waited, rfl⟩ | ⟨own₁, u, s₁, own₂, rfl, waited, rest⟩
    · obtain ⟨-, impossible, -⟩ := goes_turns waited
      cases impossible
    · obtain ⟨rfl, -, -⟩ := goes_turns waited
      rcases goes_bind.mp rest with ⟨e, broken, rfl⟩ | ⟨own₃, bytes, s₂, own₄, rfl, whole, last⟩
      · obtain ⟨rfl, failed, -⟩ := goes_ofExcept.mp broken
        rw [← failed]
        exact ⟨rfl, rfl⟩
      · obtain ⟨rfl, read, -⟩ := goes_ofExcept.mp whole
        obtain ⟨rfl, rfl, -⟩ := goes_pure.mp last
        rw [← read]
        exact ⟨rfl, rfl⟩
  · rename_i passes
    obtain ⟨rfl, rfl, -⟩ := goes_pure.mp h
    rw [if_neg passes]
    exact ⟨rfl, rfl⟩

end Call

namespace Client

variable {c : Client} {mode : Mode} {rely : Session → Session → Prop} {s s' : Session}
  {own : Changes}

/-! ## The first phase -/

/-- The request is prepared, and the flow is started on it. -/
inductive Readied (c : Client) (mode : Mode) (r : Request) (options : Options) :
    Changes → Except Error Prepared → Prop
  | unprepared {e : Error} : c.prepare r options = .error e →
      Readied c mode r options [] (.error e)
  | unread {prepared : Prepared} {e : Error} : c.prepare r options = .ok prepared →
      prepared.flow.buffersRequest && prepared.request.body.isStream →
      (prepared.request.body.readAll mode).1 = .error e →
      Readied c mode r options [] (.error e)
  | started {prepared : Prepared} {buffered : Request} {t t' : Session} :
      c.prepare r options = .ok prepared →
      (if prepared.flow.buffersRequest && prepared.request.body.isStream then
          (prepared.request.body.readAll mode).1.map fun bytes =>
            { prepared.request with body := .ofBytes bytes }
        else .ok prepared.request) = .ok buffered →
      t'.journal = t.journal → t'.connections = t.connections →
      Readied c mode r options [(t, t')]
        ((prepared.flow.start t.journal buffered t.digests).1.toExcept.map fun request =>
          { prepared with request })

/-- One round: an exchange, and what the flow makes of the response. -/
inductive Rounded (c : Client) (mode : Mode) (flow : Flow) (r : Request) :
    Changes → Except Error (Resumed × Response) → Prop
  | unanswered {own : Changes} {e : Error} : c.Exchanged mode r own (.error e) →
      Rounded c mode flow r own (.error e)
  | unread {own : Changes} {p : Request} {response : Response} {e : Error} :
      c.Exchanged mode r own (.ok (p, response)) →
      response.inMemory mode = .error e →
      Rounded c mode flow r own (.error e)
  | resumed {own : Changes} {p : Request} {received response : Response} {t t' : Session} :
      c.Exchanged mode r own (.ok (p, received)) →
      (if flow.buffersResponse then received.inMemory mode else .ok received) = .ok response →
      t'.journal = t.journal ++ flow.note response → t'.connections = t.connections →
      Rounded c mode flow r (own ++ [(t, t')])
        ((flow.resume t.journal p response t.digests).step.map fun _ =>
          (flow.resume t.journal p response t.digests, response))

/-- Rounds up to the first behind which the flow asks for no other: what they change, and what the
flow made of the responses. -/
inductive Rounds (c : Client) (mode : Mode) :
    Flow → Request → List Response → Changes → List (Resumed × Response) →
      Except Error Authenticated → Prop
  | failed {flow : Flow} {r : Request} {history : List Response} {own : Changes} {e : Error} :
      c.Rounded mode flow r own (.error e) → Rounds c mode flow r history own [] (.error e)
  | last {flow : Flow} {r : Request} {history : List Response} {own : Changes}
      {resumed : Resumed} {response : Response} :
      c.Rounded mode flow r own (.ok (resumed, response)) → resumed.step ≠ .ok .sendRequest →
      Rounds c mode flow r history own [(resumed, response)]
        (.ok ⟨resumed.request, response, history⟩)
  | unread {flow : Flow} {r : Request} {history : List Response} {own : Changes}
      {resumed : Resumed} {response : Response} {e : Error} :
      c.Rounded mode flow r own (.ok (resumed, response)) → resumed.step = .ok .sendRequest →
      response.inMemory mode = .error e →
      Rounds c mode flow r history own [(resumed, response)] (.error e)
  | again {flow : Flow} {r : Request} {history : List Response} {own own' : Changes}
      {resumed : Resumed} {received response : Response} {rounds : List (Resumed × Response)}
      {result : Except Error Authenticated} :
      c.Rounded mode flow r own (.ok (resumed, received)) → resumed.step = .ok .sendRequest →
      received.inMemory mode = .ok response →
      Rounds c mode resumed.flow resumed.request (history ++ [response]) own' rounds result →
      Rounds c mode flow r history (own ++ own') ((resumed, received) :: rounds) result

/-- A call up to the response that its redirects begin with. -/
inductive Opening (c : Client) (mode : Mode) (r : Request) (options : Options) :
    Changes → List (Resumed × Response) → Except Error (Authenticated × Bool) → Prop
  | unready {own : Changes} {e : Error} : c.Readied mode r options own (.error e) →
      Opening c mode r options own [] (.error e)
  | rounds {own own' : Changes} {ready : Prepared} {rounds : List (Resumed × Response)}
      {result : Except Error Authenticated} :
      c.Readied mode r options own (.ok ready) →
      c.Rounds mode ready.flow ready.request [] own' rounds result →
      Opening c mode r options (own ++ own') rounds (result.map (·, ready.follow))

/-! ## The second phase -/

/-- The chain follows a redirect, up to its next exchange. -/
inductive Proceeded (c : Client) (mode : Mode) (r : Redirected) :
    Changes → Except Error Sending → Prop
  | unread {e : Error} : r.response.inMemory mode = .error e →
      Proceeded c mode r [] (.error e)
  | proceeded {response : Response} {t : Session} : r.response.inMemory mode = .ok response →
      Proceeded c mode r [(t, t)] (Redirected.proceed { r with response } (c.cookies t))

/-- A chain that awaits a response, with the one that it is handed, if one comes. -/
structure Stage where
  chain : Sending
  response : Option Response

/-- The exchanges behind a response, and the chain before each of them. -/
inductive Legs (c : Client) (mode : Mode) :
    Sending → Response → Changes → List Stage → Except Error Answer → Prop
  | done {chain : Sending} {response : Response} {answer : Answer} :
      chain.receive response = .ok (.done answer) →
      Legs c mode chain response [] [⟨chain, response⟩] (.ok answer)
  | refused {chain : Sending} {response : Response} {e : Error} :
      chain.receive response = .error e →
      Legs c mode chain response [] [⟨chain, response⟩] (.error e)
  | stuck {chain : Sending} {response : Response} {r : Redirected} {own : Changes} {e : Error} :
      chain.receive response = .ok (.redirected r) → c.Proceeded mode r own (.error e) →
      Legs c mode chain response own [⟨chain, response⟩] (.error e)
  | unanswered {chain next : Sending} {response : Response} {r : Redirected} {own own' : Changes}
      {e : Error} :
      chain.receive response = .ok (.redirected r) → c.Proceeded mode r own (.ok next) →
      c.Exchanged mode next.request own' (.error e) →
      Legs c mode chain response (own ++ own') [⟨chain, response⟩, ⟨next, none⟩] (.error e)
  | leg {chain next : Sending} {response response' : Response} {r : Redirected} {p : Request}
      {own own' own'' : Changes} {stages : List Stage} {result : Except Error Answer} :
      chain.receive response = .ok (.redirected r) → c.Proceeded mode r own (.ok next) →
      c.Exchanged mode next.request own' (.ok (p, response')) →
      Legs c mode { next with request := p } response' own'' stages result →
      Legs c mode chain response (own ++ (own' ++ own'')) (⟨chain, response⟩ :: stages) result

/-- A whole call: the changes of its two phases, the rounds of the first and the stages of the
second. -/
inductive Course (c : Client) (mode : Mode) (r : Request) (options : Options) :
    Changes → Changes → List (Resumed × Response) → List Stage → Except Error Answer → Prop
  | unopened {own : Changes} {rounds : List (Resumed × Response)} {e : Error} :
      c.Opening mode r options own rounds (.error e) →
      Course c mode r options own [] rounds [] (.error e)
  | opened {own own' : Changes} {rounds : List (Resumed × Response)} {last : Authenticated}
      {follow : Bool} {stages : List Stage} {result : Except Error Answer} :
      c.Opening mode r options own rounds (.ok (last, follow)) →
      c.Legs mode (c.chain last follow) last.response own' stages result →
      Course c mode r options own own' rounds stages result

/-! ## Every call goes one of these ways -/

theorem goes_start {prepared : Prepared} {r : Request} {result : Except Error Prepared}
    (h : Goes rely (do
      let request ← Call.start prepared.flow r
      return { prepared with request }) s own result s') :
    ∃ t t' : Session, own = [(t, t')] ∧ t'.journal = t.journal ∧ t'.connections = t.connections ∧
      result = (prepared.flow.start t.journal r t.digests).1.toExcept.map fun request =>
        { prepared with request } := by
  obtain ⟨t, -, rfl, rfl, -⟩ := goes_act_map h
  exact ⟨t, _, rfl, rfl, rfl, rfl⟩

theorem goes_resume {flow : Flow} {r : Request} {response : Response}
    {result : Except Error (Resumed × Response)}
    (h : Goes rely (do
      let resumed ← Call.resume flow r response
      return (resumed, response)) s own result s') :
    ∃ t t' : Session, own = [(t, t')] ∧ t'.journal = t.journal ++ flow.note response ∧
      t'.connections = t.connections ∧
      result = (flow.resume t.journal r response t.digests).step.map fun _ =>
        (flow.resume t.journal r response t.digests, response) := by
  obtain ⟨t, -, rfl, rfl, -⟩ := goes_act_map h
  refine ⟨t, _, rfl, rfl, rfl, ?_⟩
  show (Except.map _ (flow.resume t.journal r response t.digests).step).map _ = _
  cases (flow.resume t.journal r response t.digests).step with
  | error e => rfl
  | ok step => rfl

theorem goes_ready {r : Request} {options : Options} {result : Except Error Prepared}
    (h : Goes rely (c.ready mode r options) s own result s') :
    c.Readied mode r options own result := by
  unfold ready at h
  rcases goes_bind.mp h with ⟨e, failed, rfl⟩ | ⟨own₁, prepared, s₁, own₂, rfl, made, on⟩
  · obtain ⟨rfl, same, -⟩ := goes_ofExcept.mp failed
    exact .unprepared same.symm
  · obtain ⟨rfl, same, -⟩ := goes_ofExcept.mp made
    rcases goes_bind.mp on with ⟨e, broken, rfl⟩ | ⟨own₃, buffered, s₂, own₄, rfl, kept, rest⟩
    · obtain ⟨rfl, failed⟩ := goes_buffer broken
      split at failed
      · rename_i buffers
        refine .unread same.symm buffers ?_
        cases taken : (prepared.request.body.readAll mode).1 with
        | error e' =>
            rw [taken] at failed
            cases failed
            rfl
        | ok bytes =>
            rw [taken] at failed
            cases failed
      · cases failed
    · obtain ⟨rfl, whole⟩ := goes_buffer kept
      obtain ⟨t, t', rfl, journal, connections, rfl⟩ := goes_start rest
      exact .started same.symm whole.symm journal connections

theorem goes_round {flow : Flow} {r : Request} {result : Except Error (Resumed × Response)}
    (h : Goes rely (c.round mode flow r) s own result s') : c.Rounded mode flow r own result := by
  unfold round at h
  rcases goes_bind.mp h with ⟨e, failed, rfl⟩ | ⟨own₁, ⟨p, received⟩, s₁, own₂, rfl, made, on⟩
  · exact .unanswered (goes_exchange failed)
  · have answered := goes_exchange made
    by_cases buffers : flow.buffersResponse = true
    · simp only [buffers, if_true] at on
      rcases goes_bind.mp on with ⟨e, broken, rfl⟩ | ⟨own₃, response, s₂, own₄, rfl, kept, rest⟩
      · obtain ⟨rfl, failed⟩ := goes_read broken
        rw [List.append_nil]
        exact .unread answered failed.symm
      · obtain ⟨rfl, whole⟩ := goes_read kept
        obtain ⟨t, t', rfl, journal, connections, rfl⟩ := goes_resume rest
        exact .resumed answered (by rw [if_pos buffers, whole]) journal connections
    · simp only [buffers, Bool.false_eq_true, if_false, pure_bind] at on
      obtain ⟨t, t', rfl, journal, connections, rfl⟩ := goes_resume on
      exact .resumed answered (by rw [if_neg buffers]) journal connections

/-! ## What the first phase hands on -/

theorem prepare_ok {r : Request} {options : Options} {prepared : Prepared}
    (h : c.prepare r options = .ok prepared) :
    prepared.request = { r with
      url := r.url.withoutLogin
      headers := r.headers.withDefaults c.defaultHeaders } ∧
    (∃ login : Option Login,
      prepared.flow = .ofAuth (options.auth.or (c.auth.or (login.map .basic)))) ∧
    prepared.follow = options.followRedirects.getD c.followRedirects := by
  unfold prepare at h
  cases checked : Prepared.checkUrl r.url with
  | error e => simp [checked, bind, Except.bind] at h
  | ok u =>
      cases found : Prepared.login? r.url with
      | error e => simp [checked, found, bind, Except.bind] at h
      | ok login =>
          simp only [checked, found, bind, Except.bind] at h
          cases h
          exact ⟨rfl, ⟨login, rfl⟩, rfl⟩

theorem Readied.ok {r : Request} {options : Options} {ready : Prepared}
    (h : c.Readied mode r options own (.ok ready)) :
    ∃ (prepared : Prepared) (buffered : Request) (t : Session),
      c.prepare r options = .ok prepared ∧
      (if prepared.flow.buffersRequest && prepared.request.body.isStream then
          (prepared.request.body.readAll mode).1.map fun bytes =>
            { prepared.request with body := .ofBytes bytes }
        else .ok prepared.request) = .ok buffered ∧
      (prepared.flow.start t.journal buffered t.digests).1.toExcept = .ok ready.request ∧
      ready.flow = prepared.flow ∧ ready.follow = prepared.follow := by
  generalize same : Except.ok ready = result at h
  cases h with
  | unprepared _ => cases same
  | unread _ _ _ => cases same
  | @started prepared buffered t t' made whole _ _ =>
      obtain ⟨request, started, ready⟩ := ok_of_map same.symm
      cases ready
      exact ⟨prepared, buffered, t, made, whole, started, rfl, rfl⟩

/-- The flow keeps a property of requests if signing does and the way to authenticate does. -/
theorem Readied.keeps {P : Request → Prop} {r : Request} {options : Options}
    {ready : Prepared} (signed : ∀ q q' : Request, q.Signed q' → P q → P q')
    (auth : ∀ a, options.auth.or c.auth = some a → a.Keeps P)
    (h : c.Readied mode r options own (.ok ready)) : ready.flow.Keeps P := by
  obtain ⟨prepared, _, _, made, -, -, flow, -⟩ := h.ok
  obtain ⟨-, ⟨login, chosen⟩, -⟩ := prepare_ok made
  rw [flow, chosen, ← Option.or_assoc]
  refine Flow.keeps_ofAuth signed fun a same => ?_
  rcases Option.or_eq_some_iff.mp same with known | ⟨-, ofUrl⟩
  · exact auth a known
  · obtain ⟨_, -, rfl⟩ := Option.map_eq_some_iff.mp ofUrl
    trivial

theorem Readied.holds {P : Request → Prop} {r : Request} {options : Options}
    {prepared ready : Prepared} (signed : ∀ q q' : Request, q.Signed q' → P q → P q')
    (stored : ∀ (q : Request) (body : Body), P q → P { q with body })
    (auth : ∀ a, options.auth.or c.auth = some a → a.Keeps P)
    (made : c.prepare r options = .ok prepared) (holds : P prepared.request)
    (h : c.Readied mode r options own (.ok ready)) : P ready.request := by
  have keeps := h.keeps signed auth
  obtain ⟨prepared', buffered, _, made', whole, started, flow, -⟩ := h.ok
  rw [made] at made'
  cases made'
  rw [flow] at keeps
  refine keeps.start signed ?_ started
  split at whole
  · obtain ⟨bytes, -, rfl⟩ := ok_of_map whole
    exact stored _ _ holds
  · cases whole
    exact holds

/-- A round that does not fail is an exchange, and what comes out is what the flow makes of its
response. -/
theorem Rounded.ok {flow : Flow} {r : Request} {resumed : Resumed} {response : Response}
    (h : c.Rounded mode flow r own (.ok (resumed, response))) :
    ∃ exchange p received t t' step, own = exchange ++ [(t, t')] ∧
      c.Exchanged mode r exchange (.ok (p, received)) ∧
      (if flow.buffersResponse then received.inMemory mode else .ok received) = .ok response ∧
      t'.journal = t.journal ++ flow.note response ∧
      resumed = flow.resume t.journal p response t.digests ∧ resumed.step = .ok step := by
  generalize same : Except.ok (resumed, response) = result at h
  cases h with
  | unanswered _ => cases same
  | unread _ _ => cases same
  | @resumed exchange p received response' t t' exchanged kept journal _ =>
      obtain ⟨step, went, returned⟩ := ok_of_map same.symm
      cases returned
      exact ⟨exchange, p, received, t, t', step, rfl, exchanged, kept, journal, rfl, went⟩

theorem Rounded.roundsLeft {flow : Flow} {r : Request} {resumed : Resumed} {response : Response}
    (h : c.Rounded mode flow r own (.ok (resumed, response)))
    (asks : resumed.step = .ok .sendRequest) : resumed.flow.roundsLeft + 1 = flow.roundsLeft := by
  obtain ⟨_, p, _, t, _, _, -, -, -, -, rfl, -⟩ := h.ok
  exact Flow.roundsLeft_resume flow t.journal p response t.digests asks

/-- The counter of the rounds is the number that the flow has left, so it never cuts them short. -/
theorem goes_authenticate {left : Nat} {flow : Flow} {r : Request} {history : List Response}
    {result : Except Error Authenticated} (counted : left = flow.roundsLeft)
    (h : Goes rely (c.authenticate mode left flow r history) s own result s') :
    ∃ rounds, c.Rounds mode flow r history own rounds result := by
  induction left generalizing flow r history s own with
  | zero =>
      unfold authenticate at h
      rcases goes_bind.mp h with
        ⟨e, failed, rfl⟩ | ⟨own₁, ⟨resumed, response⟩, s₁, own₂, rfl, made, on⟩
      · exact ⟨_, .failed (goes_round failed)⟩
      · have rounded := goes_round made
        have ended : Goes rely (pure ⟨resumed.request, response, history⟩) s₁ own₂ result s' := by
          dsimp only at on
          split at on
          · exact on
          · exact on
        obtain ⟨rfl, rfl, -⟩ := goes_pure.mp ended
        rw [List.append_nil]
        refine ⟨_, .last rounded ?_⟩
        intro asks
        have fewer := rounded.roundsLeft asks
        omega
  | succ left ih =>
      unfold authenticate at h
      rcases goes_bind.mp h with
        ⟨e, failed, rfl⟩ | ⟨own₁, ⟨resumed, received⟩, s₁, own₂, rfl, made, on⟩
      · exact ⟨_, .failed (goes_round failed)⟩
      · have rounded := goes_round made
        by_cases asks : resumed.step = .ok .sendRequest
        · simp only [asks] at on
          rcases goes_bind.mp on with ⟨e, broken, rfl⟩ | ⟨own₃, response, s₂, own₄, rfl, kept, rest⟩
          · obtain ⟨rfl, failed⟩ := goes_read broken
            rw [List.append_nil]
            exact ⟨_, .unread rounded asks failed.symm⟩
          · obtain ⟨rfl, whole⟩ := goes_read kept
            have fewer := rounded.roundsLeft asks
            obtain ⟨rounds, later⟩ := ih (by omega) rest
            exact ⟨_, .again rounded asks whole.symm later⟩
        · have ended : Goes rely (pure ⟨resumed.request, received, history⟩) s₁ own₂ result s' := by
            dsimp only at on
            split at on
            · rename_i step
              exact absurd step asks
            · exact on
          obtain ⟨rfl, rfl, -⟩ := goes_pure.mp ended
          rw [List.append_nil]
          exact ⟨_, .last rounded asks⟩

theorem goes_proceed {r : Redirected} {result : Except Error (Sending × Response)}
    (h : Goes rely (c.proceed mode r) s own result s') :
    (∃ e, c.Proceeded mode r own (.error e) ∧ result = .error e) ∨
    ∃ own₁ next own₂ answered, own = own₁ ++ own₂ ∧ c.Proceeded mode r own₁ (.ok next) ∧
      c.Exchanged mode next.request own₂ answered ∧
      result = answered.map fun (request, response) => ({ next with request }, response) := by
  unfold proceed at h
  rcases goes_bind.mp h with ⟨e, broken, rfl⟩ | ⟨own₁, response, s₁, own₂, rfl, kept, on⟩
  · obtain ⟨rfl, failed⟩ := goes_read broken
    exact .inl ⟨e, .unread failed.symm, rfl⟩
  · obtain ⟨rfl, whole⟩ := goes_read kept
    have moved (t : Session) : c.Proceeded mode r [(t, t)] _ := .proceeded whole.symm
    rcases goes_bind.mp on with ⟨e, broken, rfl⟩ | ⟨own₃, next, s₂, own₄, rfl, made, rest⟩
    · obtain ⟨t, -, rfl, failed, -⟩ := goes_act.mp broken
      refine .inl ⟨e, ?_, rfl⟩
      rw [failed]
      exact moved t
    · obtain ⟨t, -, rfl, proceeded, -⟩ := goes_act.mp made
      refine .inr ⟨[(t, t)], next, own₄, ?_⟩
      rcases goes_bind.mp rest with
        ⟨e, failed, rfl⟩ | ⟨own₅, ⟨p, response'⟩, s₃, own₆, rfl, answered, last⟩
      · refine ⟨.error e, rfl, ?_, goes_exchange failed, rfl⟩
        rw [proceeded]
        exact moved t
      · obtain ⟨rfl, rfl, -⟩ := goes_pure.mp last
        rw [List.append_nil]
        refine ⟨.ok (p, response'), rfl, ?_, goes_exchange answered, rfl⟩
        rw [proceeded]
        exact moved t

theorem Proceeded.hop {chain next : Sending} {response : Response} {r : Redirected}
    (h : c.Proceeded mode r own (.ok next))
    (received : chain.receive response = .ok (.redirected r)) : Hop chain response next := by
  generalize same : Except.ok next = result at h
  cases h with
  | unread _ => cases same
  | proceeded _ => exact hop_of_proceed received same.symm

/-- The counter of the redirects is no smaller than the room in the history, so it never cuts them
short. -/
theorem goes_follow {left : Nat} {chain : Sending} {response : Response}
    {result : Except Error Answer} (room : chain.maxRedirects ≤ left + chain.history.length)
    (h : Goes rely (c.follow mode left chain response) s own result s') :
    ∃ stages, c.Legs mode chain response own stages result := by
  induction left generalizing chain response s own with
  | zero =>
      unfold follow at h
      rcases goes_bind.mp h with ⟨e, failed, rfl⟩ | ⟨own₁, received, s₁, own₂, rfl, made, on⟩
      · obtain ⟨rfl, failed, -⟩ := goes_ofExcept.mp failed
        exact ⟨_, .refused failed.symm⟩
      · obtain ⟨rfl, made, -⟩ := goes_ofExcept.mp made
        cases received with
        | done answer =>
            obtain ⟨rfl, rfl, -⟩ := goes_pure.mp on
            exact ⟨_, .done made.symm⟩
        | redirected r =>
            obtain ⟨-, -, short, -⟩ := receive_redirected made.symm
            omega
  | succ left ih =>
      unfold follow at h
      rcases goes_bind.mp h with ⟨e, failed, rfl⟩ | ⟨own₁, received, s₁, own₂, rfl, made, on⟩
      · obtain ⟨rfl, failed, -⟩ := goes_ofExcept.mp failed
        exact ⟨_, .refused failed.symm⟩
      · obtain ⟨rfl, made, -⟩ := goes_ofExcept.mp made
        cases received with
        | done answer =>
            obtain ⟨rfl, rfl, -⟩ := goes_pure.mp on
            exact ⟨_, .done made.symm⟩
        | redirected r =>
            obtain ⟨-, -, -, q, -, rfl⟩ := receive_redirected made.symm
            rcases goes_bind.mp on with
              ⟨e, failed, rfl⟩ | ⟨own₃, ⟨chain', response'⟩, s₂, own₄, rfl, moved, rest⟩
            · rcases goes_proceed failed with
                ⟨e', stuck, same⟩ | ⟨own₃, next, own₄, answered, rfl, proceeded, exchanged, same⟩
              · cases same
                exact ⟨_, .stuck made.symm stuck⟩
              · cases answered with
                | error e' =>
                    cases same
                    rw [List.nil_append]
                    exact ⟨_, .unanswered made.symm proceeded exchanged⟩
                | ok answered => cases same
            · rcases goes_proceed moved with
                ⟨e', stuck, same⟩ | ⟨own₃, next, own₅, answered, rfl, proceeded, exchanged, same⟩
              · cases same
              · cases answered with
                | error e' => cases same
                | ok answered =>
                    cases same
                    have hop := proceeded.hop made.symm
                    have longer := hop.length
                    have bound := hop.bound
                    obtain ⟨stages, legs⟩ := ih (by simp only; omega) rest
                    rw [List.nil_append, List.append_assoc]
                    exact ⟨_, .leg made.symm proceeded exchanged legs⟩

/-- In whatever company a call goes, its changes are those of its two phases. -/
theorem goes_call {r : Request} {options : Options} {result : Except Error Answer}
    (h : Goes rely (c.call mode r options) s own result s') :
    ∃ opening legs rounds stages, own = opening ++ legs ∧
      c.Course mode r options opening legs rounds stages result := by
  unfold call at h
  rcases goes_bind.mp h with ⟨e, failed, rfl⟩ | ⟨own₁, ready, s₁, own₂, rfl, made, on⟩
  · exact ⟨own, [], [], [], (List.append_nil own).symm, .unopened (.unready (goes_ready failed))⟩
  · rcases goes_bind.mp on with ⟨e, failed, rfl⟩ | ⟨own₃, last, s₂, own₄, rfl, ended, rest⟩
    · obtain ⟨rounds, behind⟩ := goes_authenticate rfl failed
      exact ⟨own₁ ++ own₂, [], rounds, [], (List.append_nil _).symm,
        .unopened (.rounds (goes_ready made) behind)⟩
    · have bound : (c.chain last ready.follow).maxRedirects ≤
          c.maxRedirects + (c.chain last ready.follow).history.length := Nat.le_add_right _ _
      obtain ⟨rounds, behind⟩ := goes_authenticate rfl ended
      obtain ⟨stages, legs⟩ := goes_follow bound rest
      exact ⟨own₁ ++ own₃, own₄, rounds, stages, (List.append_assoc _ _ _).symm,
        .opened (.rounds (goes_ready made) behind) legs⟩

end Client

end HttpClient
