/-
# What is sent again

A request whose body is in memory can be sent any number of times, and a call sends
it again and again: in each round of its authentication, and behind each redirect
that it follows.  Method and body stay what they were until a redirect that does not
keep the method is followed from a request that is neither GET nor HEAD.  From there
on the call sends GET without a body, and without the fields that describe one.

So of a request that a transport receives it is known from the answers before it
what it carries (`Carries`).  The induction over the legs takes along whether there
was such a redirect already; once there was, none can come again.
-/
import HttpClient.Proofs.Auth.Content
import HttpClient.Proofs.Call.Alone
import HttpClient.Proofs.Call.Count

namespace HttpClient

open Auth Redirect Call

/-! ## What a request carries -/

/-- The method of a request, and the bytes of its body. -/
structure Original (mode : Mode) (r : Request) (method : Method) (body : Body) : Prop where
  method : method = r.method
  bytes : ∃ bytes, (r.body.readAll mode).1 = .ok bytes ∧ body.bytes? = some bytes

/-- GET, no body, and no field that describes one. -/
structure Bare (method : Method) (headers : Headers) (body : Body) : Prop where
  method : method = .get
  bytes : body.bytes? = some []
  length : headers.contains .contentLength = false
  coding : headers.contains .transferEncoding = false

/-- What there is to carry, before and behind a redirect that drops the body of `r`. -/
def Carries (mode : Mode) (r : Request) (bare : Bool) (method : Method) (headers : Headers)
    (body : Body) : Prop :=
  match bare with
  | true => Bare method headers body
  | false => Original mode r method body

/-- The transport answered the request with a redirect that turns it into a GET. -/
def Call.Sent.downgrades (q : Sent) : Bool :=
  match q.result with
  | .ok x => [301, 302, 303].contains x.status.code &&
      !(q.head.method = .get || q.head.method = .head)
  | .error _ => false

/-- The response is what the transport answered to the request. -/
structure Answered (q : Sent) (method : Method) (response : Response) : Prop where
  method : q.head.method = method
  result : ∃ x, q.result = .ok x ∧ response.status = x.status ∧ response.headers = x.headers

theorem Answered.buffered {q : Sent} {method : Method} {mode : Mode} {buffers : Bool}
    {received response : Response} (h : Answered q method received)
    (kept : (if buffers then received.inMemory mode else .ok received) = .ok response) :
    Answered q method response := by
  cases buffers with
  | false =>
      cases kept
      exact h
  | true =>
      obtain ⟨x, answered, status, headers⟩ := h.result
      simp only [if_true, Response.inMemory, Response.read] at kept
      cases found : received.body.readAll mode with
      | mk bytes left =>
          cases bytes with
          | error e => simp [found, Except.map] at kept
          | ok bytes =>
              simp only [found, Except.map] at kept
              cases kept
              exact ⟨h.method, x, answered, status, headers⟩

theorem Answered.downgrades {q : Sent} {method : Method} {response : Response}
    (h : Answered q method response) (redirects : response.isRedirect = true) :
    q.downgrades = Redirect.downgrades response.status method := by
  obtain ⟨x, answered, status, -⟩ := h.result
  have followed : x.status.isRedirect = true := by
    rw [← status]
    exact (Bool.and_eq_true_iff.mp redirects).1
  unfold Sent.downgrades Redirect.downgrades
  rw [answered, status, ← h.method]
  simp only [Status.isRedirect, List.contains_cons, List.contains_nil, Bool.or_false,
    Bool.or_eq_true, beq_iff_eq] at followed
  rcases followed with code | code | code | code | code <;>
    simp [Status.keepsMethod, Method.isGetOrHead, code]

variable {mode : Mode} {r : Request} {bare : Bool}

theorem Headers.contains_eq_false_iff (h : Headers) (n : HeaderName) :
    h.contains n = false ↔ h.values n = [] := by
  rw [← Bool.not_eq_true, contains_iff_values, Classical.not_not]

theorem Carries.inMemory {method : Method} {headers : Headers} {body : Body}
    (h : Carries mode r bare method headers body) : ∃ bytes, body.bytes? = some bytes := by
  cases bare with
  | true => exact ⟨[], h.bytes⟩
  | false =>
      obtain ⟨bytes, -, same⟩ := h.bytes
      exact ⟨bytes, same⟩

/-- The cookies do not matter, nor whether a body without bytes is there. -/
theorem Carries.congr {method method' : Method} {headers headers' : Headers} {body body' : Body}
    (h : Carries mode r bare method headers body) (sameMethod : method' = method)
    (fields : ∀ n, n ≠ .cookie → headers'.values n = headers.values n)
    (sameBytes : body'.bytes? = body.bytes?) : Carries mode r bare method' headers' body' := by
  subst sameMethod
  cases bare with
  | true =>
      have still (n : HeaderName) (other : n ≠ .cookie) (hnone : headers.contains n = false) :
          headers'.contains n = false := by
        rw [Headers.contains_eq_false_iff] at hnone ⊢
        rw [fields n other]
        exact hnone
      exact ⟨h.method, sameBytes.trans h.bytes, still _ (by decide) h.length,
        still _ (by decide) h.coding⟩
  | false =>
      obtain ⟨bytes, whole, same⟩ := h.bytes
      exact ⟨h.method, bytes, whole, sameBytes.trans same⟩

theorem Body.readAll_of_bytes? {b : Body} {bytes : Bytes} (h : b.bytes? = some bytes)
    (mode : Mode) : b.readAll mode = (.ok bytes, b) := by
  cases b with
  | empty =>
      cases h
      rfl
  | full bytes' =>
      cases h
      rfl
  | stream p => cases h
  | asyncStream p => cases h

theorem Body.bytes?_of_not_isStream {b : Body} (h : b.isStream = false) :
    ∃ bytes, b.bytes? = some bytes := by
  cases b with
  | empty => exact ⟨[], rfl⟩
  | full bytes => exact ⟨bytes, rfl⟩
  | stream p => cases h
  | asyncStream p => cases h

theorem Body.bytes?_ofBytes (bytes : Bytes) : (Body.ofBytes bytes).bytes? = some bytes := by
  unfold ofBytes
  split
  · rename_i hnil
    rw [hnil]
    rfl
  · rfl

theorem Body.not_isConsumed_of_bytes? {b : Body} {bytes : Bytes} (h : b.bytes? = some bytes) :
    b.isConsumed = false := by
  cases b with
  | empty => rfl
  | full bytes' => rfl
  | stream p => cases h
  | asyncStream p => cases h

namespace Client

variable {c : Client} {own : Changes}

/-! ## One exchange -/

theorem Given.bytes {transport : Transport} {p : Request} {q : Sent} {left : Body} {bytes : Bytes}
    (h : Given mode transport p q left) (inMemory : p.body.bytes? = some bytes) :
    q.body.bytes? = some bytes ∧ left.bytes? = some bytes := by
  have handed := h.body
  split at handed
  · obtain ⟨bytes', whole, same⟩ := handed
    rw [Body.readAll_of_bytes? inMemory] at whole
    cases whole
    rw [same]
    exact ⟨rfl, inMemory⟩
  · rw [handed.1, handed.2]
    exact ⟨inMemory, inMemory⟩

theorem Exchanged.carries {p : Request} {result : Except Error (Request × Response)}
    (silent : c.requestHooks = []) (quiet : c.responseHooks = [])
    (h : c.Exchanged mode p own result)
    (carries : Carries mode r bare p.method p.headers p.body) :
    (sent own = [] ∨ ∃ q, sent own = [q] ∧
      Carries mode r bare q.head.method q.head.headers q.body) ∧
    ∀ p' response, result = .ok (p', response) →
      Carries mode r bare p'.method p'.headers p'.body ∧
        ∃ q, sent own = [q] ∧ Answered q p'.method response := by
  rcases h.given silent quiet with
    ⟨hnone, e, failed⟩ | ⟨transport, q, left, -, received, given, ended⟩
  · refine ⟨.inl hnone, ?_⟩
    intro p' response same
    rw [failed] at same
    cases same
  · obtain ⟨bytes, inMemory⟩ := carries.inMemory
    obtain ⟨whole, stays⟩ := given.bytes inMemory
    refine ⟨.inr ⟨q, received,
      carries.congr given.method given.fields (whole.trans inMemory.symm)⟩, ?_⟩
    intro p' response same
    rcases ended with ⟨e, -, failed⟩ | ⟨x, p'', answered, left', succeeded⟩
    · rw [failed] at same
      cases same
    · rw [succeeded] at same
      cases same
      refine ⟨carries.congr left'.method left'.fields ?_, q, received, ?_, x, answered, rfl, rfl⟩
      · rw [left'.body]
        exact stays.trans inMemory.symm
      · exact given.method.trans left'.method.symm

/-! ## The rounds -/

theorem Rounded.original {flow : Flow} {p : Request} {result : Except Error (Resumed × Response)}
    (silent : c.requestHooks = []) (quiet : c.responseHooks = []) (keeps : flow.KeepsContent)
    (h : c.Rounded mode flow p own result)
    (original : Original mode r p.method p.body) :
    (∀ q ∈ sent own, Original mode r q.head.method q.body) ∧
    ∀ resumed response, result = .ok (resumed, response) →
      Original mode r resumed.request.method resumed.request.body ∧
        resumed.flow.KeepsContent ∧
        ∃ q, sent own = [q] ∧ Answered q resumed.request.method response := by
  have carries : Carries mode r false p.method p.headers p.body := original
  have handed {own : Changes} {result : Except Error (Request × Response)}
      (h : c.Exchanged mode p own result) :
      ∀ q ∈ sent own, Original mode r q.head.method q.body := by
    rcases (h.carries silent quiet carries).1 with hnone | ⟨q, one, carried⟩
    · rw [hnone]
      exact fun _ there => absurd there List.not_mem_nil
    · rw [one]
      intro q' there
      cases List.mem_singleton.mp there
      exact carried
  constructor
  · cases h with
    | unanswered exchanged | unread exchanged _ => exact handed exchanged
    | resumed exchanged _ journal _ =>
        rw [sent_append, sent_of_calls (calls_noted_flow journal), List.append_nil]
        exact handed exchanged
  · rintro resumed response rfl
    obtain ⟨exchange, p', _, t, t', _, rfl, exchanged, kept, journal, rfl, step⟩ := h.ok
    obtain ⟨carried, q, one, answered⟩ := (exchanged.carries silent quiet carries).2 _ _ rfl
    obtain ⟨content, onward⟩ := Flow.resume_keeps keeps step
    refine ⟨?_, onward, q, ?_, ?_⟩
    · rw [content.method, content.body]
      exact carried
    · rw [sent_append, sent_of_calls (calls_noted_flow journal), List.append_nil]
      exact one
    · rw [content.method]
      exact answered.buffered kept

/-- The first phase sends the request as it is, and hands it on so. -/
theorem Rounds.original {flow : Flow} {p : Request} {history : List Response}
    {rounds : List (Resumed × Response)} {result : Except Error Authenticated}
    (silent : c.requestHooks = []) (quiet : c.responseHooks = [])
    (h : c.Rounds mode flow p history own rounds result) :
    flow.KeepsContent → Original mode r p.method p.body →
    (∀ q ∈ sent own, Original mode r q.head.method q.body) ∧
    ∀ last, result = .ok last → Original mode r last.request.method last.request.body ∧
      ∃ q, (sent own).getLast? = some q ∧ Answered q last.request.method last.response := by
  induction h with
  | failed rounded =>
      intro keeps original
      exact ⟨(rounded.original silent quiet keeps original).1, fun _ same => by cases same⟩
  | last rounded _ =>
      intro keeps original
      obtain ⟨all, ended⟩ := rounded.original silent quiet keeps original
      obtain ⟨still, -, q, one, answered⟩ := ended _ _ rfl
      refine ⟨all, ?_⟩
      intro last' same
      cases same
      exact ⟨still, q, by rw [one]; rfl, answered⟩
  | unread rounded _ _ =>
      intro keeps original
      exact ⟨(rounded.original silent quiet keeps original).1, fun _ same => by cases same⟩
  | again rounded _ _ _ ih =>
      intro keeps original
      obtain ⟨all, ended⟩ := rounded.original silent quiet keeps original
      obtain ⟨still, onward, -⟩ := ended _ _ rfl
      obtain ⟨later, last⟩ := ih onward still
      rw [sent_append]
      constructor
      · intro q there
        rcases List.mem_append.mp there with early | late
        · exact all q early
        · exact later q late
      · intro last' same
        obtain ⟨original', q, found, answered⟩ := last last' same
        exact ⟨original', q, by rw [List.getLast?_append, found]; rfl, answered⟩

/-! ## The legs -/

/-- What the next request of a chain carries. -/
theorem carries_of_hop {chain next : Sending} {response : Response} (h : Hop chain response next)
    (carries : Carries mode r bare chain.request.method chain.request.headers chain.request.body) :
    Carries mode r (bare || Redirect.downgrades response.status chain.request.method)
      next.request.method next.request.headers next.request.body := by
  cases drops : Redirect.downgrades response.status chain.request.method with
  | true =>
      have gone (n : HeaderName) (describes : n = .contentLength ∨ n = .transferEncoding)
          (other : n ≠ .cookie) : next.request.headers.contains n = false := by
        rw [Headers.contains_eq_false_iff, h.fields n other, if_pos]
        rcases describes with rfl | rfl <;> simp [dropped, drops]
      rw [Bool.or_true]
      refine ⟨?_, ?_, gone _ (.inl rfl) (by decide), gone _ (.inr rfl) (by decide)⟩
      · rw [h.method, drops]
        rfl
      · have taken := h.body
        rw [Redirect.body, if_pos drops] at taken
        rw [← Except.ok.inj taken]
        rfl
  | false =>
      rw [Bool.or_false]
      obtain ⟨bytes, inMemory⟩ := carries.inMemory
      have taken := h.body
      rw [Redirect.body, if_neg (by simp [drops]), if_neg (by decide), Body.forResend,
        if_neg (by simp [Body.not_isConsumed_of_bytes? inMemory])] at taken
      cases bare with
      | true =>
          have still (n : HeaderName) (other : n ≠ .cookie)
              (hnone : chain.request.headers.contains n = false) :
              next.request.headers.contains n = false := by
            rw [Headers.contains_eq_false_iff] at hnone ⊢
            rw [h.fields n other, hnone, ite_self]
          refine ⟨?_, ?_, still _ (by decide) carries.length, still _ (by decide) carries.coding⟩
          · rw [h.method, drops]
            exact carries.method
          · rw [← Except.ok.inj taken]
            exact carries.bytes
      | false =>
          refine ⟨?_, ?_⟩
          · rw [h.method, drops]
            exact carries.method
          · rw [← Except.ok.inj taken]
            exact carries.bytes

/-- What a transport receives behind a response follows from the requests before it that were
answered by redirects. `d` is the one that the response belongs to. -/
theorem Legs.carries {chain : Sending} {response : Response} {stages : List Stage}
    {result : Except Error Answer} (silent : c.requestHooks = []) (quiet : c.responseHooks = [])
    (h : c.Legs mode chain response own stages result) :
    ∀ (bare : Bool) (d : Sent),
    Carries mode r bare chain.request.method chain.request.headers chain.request.body →
    Answered d chain.request.method response →
    ∀ pre q post, sent own = pre ++ q :: post →
      Carries mode r (bare || (d :: pre).any Sent.downgrades) q.head.method q.head.headers
        q.body := by
  induction h with
  | done _ | refused _ =>
      intro bare d _ _ pre q post split
      simp at split
  | stuck _ proceeded =>
      intro bare d _ _ pre q post split
      rw [sent_of_calls proceeded.calls_eq] at split
      simp at split
  | unanswered received proceeded exchanged =>
      intro bare d carries answered pre q post split
      have hop := proceeded.hop received
      have next := carries_of_hop hop carries
      rw [← answered.downgrades hop.redirects] at next
      rw [sent_append, sent_of_calls proceeded.calls_eq, List.nil_append] at split
      rcases (exchanged.carries silent quiet next).1 with hnone | ⟨q', one, carried⟩
      · rw [hnone] at split
        simp at split
      · rw [one] at split
        obtain ⟨rfl, rfl, rfl⟩ : pre = [] ∧ q' = q ∧ post = [] := by
          cases pre with
          | nil => simpa using split
          | cons p pre => simp at split
        simpa using carried
  | leg received proceeded exchanged _ ih =>
      intro bare d carries answered pre q post split
      have hop := proceeded.hop received
      have next := carries_of_hop hop carries
      rw [← answered.downgrades hop.redirects] at next
      rcases (exchanged.carries silent quiet next) with ⟨sentOne, handedOn⟩
      obtain ⟨carried, q', one, answered'⟩ := handedOn _ _ rfl
      rw [sent_append, sent_append, sent_of_calls proceeded.calls_eq, List.nil_append, one,
        List.singleton_append] at split
      cases pre with
      | nil =>
          obtain ⟨rfl, -⟩ := List.cons.inj split
          rcases sentOne with hnone | ⟨q'', one', carried'⟩
          · rw [one] at hnone
            cases hnone
          · rw [one] at one'
            cases one'
            simpa using carried'
      | cons first pre =>
          obtain ⟨rfl, later⟩ := List.cons.inj split
          have rest := ih _ q' carried answered' pre q post later
          rw [List.any_cons, ← Bool.or_assoc]
          exact rest

/-! ## The whole call -/

/-- The plan takes a stream into memory before the first exchange. -/
def Buffers (auth : Option Auth) : Prop :=
  ∃ p : Plan, auth = some (.plan p) ∧ p.buffersRequest = true

theorem flow_keeps {options : Options} {login : Option Login}
    (keeps : ∀ auth, options.auth.or c.auth = some auth → auth.KeepsContent) :
    (Flow.ofAuth (options.auth.or (c.auth.or (login.map .basic)))).KeepsContent := by
  apply Flow.ofAuth_keeps
  intro a found
  rw [← Option.or_assoc] at found
  cases given : options.auth.or c.auth with
  | some a' =>
      rw [given] at found
      cases found
      exact keeps a given
  | none =>
      rw [given, Option.none_or] at found
      obtain ⟨l, -, rfl⟩ := Option.map_eq_some_iff.mp found
      trivial

theorem Readied.original {options : Options} {ready : Prepared}
    (keeps : ∀ auth, options.auth.or c.auth = some auth → auth.KeepsContent)
    (inMemory : r.body.isStream = true → Buffers (options.auth.or c.auth))
    (h : c.Readied mode r options own (.ok ready)) :
    Original mode r ready.request.method ready.request.body ∧ ready.flow.KeepsContent := by
  obtain ⟨prepared, buffered, t, made, whole, started, flow, -⟩ := h.ok
  obtain ⟨request, ⟨login, chosen⟩, -⟩ := prepare_ok made
  have flowKeeps : prepared.flow.KeepsContent := by
    rw [chosen]
    exact flow_keeps keeps
  have content := Flow.start_keeps flowKeeps started
  rw [flow, content.method, content.body]
  refine ⟨?_, flowKeeps⟩
  cases streams : r.body.isStream with
  | false =>
      rw [if_neg (by simp [request, streams])] at whole
      cases whole
      obtain ⟨bytes, there⟩ := Body.bytes?_of_not_isStream streams
      rw [request]
      exact ⟨rfl, bytes, by rw [Body.readAll_of_bytes? there], there⟩
  | true =>
      obtain ⟨p, planned, buffers⟩ := inMemory streams
      have takes : prepared.flow.buffersRequest = true := by
        rw [chosen, ← Option.or_assoc, planned]
        exact buffers
      rw [if_pos (by simp [request, streams, takes])] at whole
      cases read : (prepared.request.body.readAll mode).1 with
      | error e =>
          rw [read] at whole
          cases whole
      | ok bytes =>
          rw [read] at whole
          cases whole
          rw [request] at read ⊢
          exact ⟨rfl, bytes, read, Body.bytes?_ofBytes bytes⟩

/-- A call sends the request as it is until its first phase has ended. -/
theorem Opening.original {options : Options} {rounds : List (Resumed × Response)}
    {result : Except Error (Authenticated × Bool)} (silent : c.requestHooks = [])
    (quiet : c.responseHooks = [])
    (keeps : ∀ auth, options.auth.or c.auth = some auth → auth.KeepsContent)
    (inMemory : r.body.isStream = true → Buffers (options.auth.or c.auth))
    (h : c.Opening mode r options own rounds result) :
    (∀ q ∈ sent own, Original mode r q.head.method q.body) ∧
    ∀ last follow, result = .ok (last, follow) →
      Original mode r last.request.method last.request.body ∧
        ∃ q, (sent own).getLast? = some q ∧ Answered q last.request.method last.response := by
  cases h with
  | unready readied =>
      rw [sent_of_calls readied.calls_eq]
      exact ⟨fun _ there => absurd there List.not_mem_nil, fun _ _ same => by cases same⟩
  | @rounds _ _ ready _ outcome readied behind =>
      obtain ⟨original, flowKeeps⟩ := readied.original keeps inMemory
      obtain ⟨all, last⟩ := behind.original silent quiet flowKeeps original
      rw [sent_append, sent_of_calls readied.calls_eq, List.nil_append]
      refine ⟨all, ?_⟩
      intro last' follow same
      cases outcome with
      | error e => cases same
      | ok _ =>
          cases same
          exact last _ rfl

/-- A call whose request body is in memory, or is taken into memory for its authentication, sends
the method and the bytes of the body unchanged in all rounds and on all legs up to the first
redirect by 301, 302 or 303 that it follows from a request other than GET and HEAD; from there on
it sends GET without a body and without the fields that describe one.

The requests of the rounds are `sent opening`, and those of the legs `sent legs`; the requests
before a leg whose redirects were followed are the last of the rounds and the legs before. -/
theorem content_until_downgraded {rely : Session → Session → Prop} {s s' : Session}
    {options : Options} {result : Except Error Answer} (silent : c.requestHooks = [])
    (quiet : c.responseHooks = [])
    (keeps : ∀ auth, options.auth.or c.auth = some auth → auth.KeepsContent)
    (inMemory : r.body.isStream = true → Buffers (options.auth.or c.auth))
    (h : Goes rely (c.call mode r options) s own result s') :
    ∃ opening legs rounds stages, own = opening ++ legs ∧
      c.Course mode r options opening legs rounds stages result ∧
      (∀ q ∈ sent opening, Original mode r q.head.method q.body) ∧
      ∀ pre q post, sent legs = pre ++ q :: post →
        if ((sent opening).getLast?.toList ++ pre).any Sent.downgrades then
          Bare q.head.method q.head.headers q.body
        else Original mode r q.head.method q.body := by
  obtain ⟨opening, legs, rounds, stages, rfl, course⟩ := goes_call h
  refine ⟨opening, legs, rounds, stages, rfl, course, ?_⟩
  cases course with
  | unopened opened =>
      refine ⟨(opened.original silent quiet keeps inMemory).1, ?_⟩
      intro pre q post split
      simp at split
  | opened opened behind =>
      obtain ⟨all, last⟩ := opened.original silent quiet keeps inMemory
      obtain ⟨carries, d, found, answered⟩ := last _ _ rfl
      refine ⟨all, ?_⟩
      intro pre q post split
      have carried := behind.carries silent quiet false d carries answered pre q post split
      rw [Bool.false_or] at carried
      rw [found, Option.toList_some, List.singleton_append]
      split
      · rename_i bare
        rw [bare] at carried
        exact carried
      · rename_i full
        rw [Bool.not_eq_true] at full
        rw [full] at carried
        exact carried

/-! ## A stream that is taken into memory -/

section Sampled

open Sample

/-- A plan that repeats the request behind a 401, and needs its body in memory for that. -/
def patient : Plan where
  start := fun _ r => ⟨r, none⟩
  rounds := [fun _ r response => ⟨⟨r, none⟩, response.status = .unauthorized⟩]
  buffersRequest := true

/-- A request that is refused once, and redirected three times. -/
def wanderer : Client :=
  client [reply .unauthorized [] .empty, kept "/b", moved "/c", kept "/d", fine]
    (some (.plan patient)) 9

def upload : Request := request .post (.stream (.live [.chunk [1, 2], .chunk [3]]))

/-- The bytes are sent three times, and then there is nothing left to send. -/
theorem content_of_upload :
    (sent (wanderer.changes .blocking upload {} {})).map (fun q => (q.head.method, q.body)) =
      [(.post, .full [1, 2, 3]), (.post, .full [1, 2, 3]), (.post, .full [1, 2, 3]),
        (.get, .full []), (.get, .full [])] ∧
    ∃ opening legs, wanderer.changes .blocking upload {} {} = opening ++ legs ∧
      (∀ q ∈ sent opening, Original .blocking upload q.head.method q.body) ∧
      ∀ pre q post, sent legs = pre ++ q :: post →
        if ((sent opening).getLast?.toList ++ pre).any Sent.downgrades then
          Bare q.head.method q.head.headers q.body
        else Original .blocking upload q.head.method q.body := by
  refine ⟨by decide +kernel, ?_⟩
  have keeps : ∀ auth, ({} : Options).auth.or wanderer.auth = some auth → auth.KeepsContent := by
    intro auth found
    cases found
    refine ⟨fun _ r _ => .refl r, ?_⟩
    intro round there _ r _ _
    cases List.mem_singleton.mp there
    exact .refl r
  have goes : Goes Eq _ _ _ _ _ := goes_send (fun _ => rfl) wanderer .blocking upload {} {}
  obtain ⟨opening, legs, -, -, own, -, rounds, behind⟩ :=
    content_until_downgraded rfl rfl keeps (fun _ => ⟨patient, rfl, rfl⟩) goes
  exact ⟨opening, legs, own, rounds, behind⟩

end Sampled

end Client

end HttpClient
