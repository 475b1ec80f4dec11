/-
# What one redirect makes of a chain

Everything that is said about chains of redirects is said about one of them first.
`next_ok` lists the parts of the request that a redirect leads to, `receive_redirected`
says when a response is followed, `proceed_ok` what following it makes of the chain.
`Hop` puts the two moves together: of each part of the next chain it says where it
comes from, and that is what the inductions over chains use.

Between the two moves the world may act.  The transport may have used up the body of
the request, the caller may have read the body of the response, and the jar may
render as anything.
-/
import HttpClient.Redirect.Chain

namespace HttpClient

/-! ## Cookies -/

/-- What the jar may change in a request: the cookie field, and the mark that it did. -/
theorem Request.applyJarCookie_ok {r q : Request} {rendered : Option String}
    (h : r.applyJarCookie rendered = .ok q) :
    q.method = r.method ∧ q.url = r.url ∧ q.body = r.body ∧
      ∀ n, n ≠ .cookie → q.headers.values n = r.headers.values n := by
  unfold Request.applyJarCookie at h
  split at h
  · cases h
    exact ⟨rfl, rfl, rfl, fun _ _ => rfl⟩
  · split at h
    · rename_i s
      cases written : HeaderValue.ofText s with
      | error e => rw [written] at h; cases h
      | ok v =>
          rw [written] at h
          cases h
          exact ⟨rfl, rfl, rfl, fun n hn => by rw [Headers.values_set, if_neg hn]⟩
    · cases h
      exact ⟨rfl, rfl, rfl, fun n hn => by rw [Headers.values_erase, if_neg hn]⟩

namespace Redirect

/-! ## The next request -/

theorem next_ok {previous : Request} {response : Response} {lenient : Bool} {q : Request}
    (h : next previous response lenient = .ok q) :
    ∃ url b, target previous.url response = .ok url ∧
      body previous response.status lenient = .ok b ∧
      q = { method := if downgrades response.status previous.method then .get
                      else previous.method
            url
            headers := (headers previous response.status url).erase .cookie
            body := b
            cookieFromJar := false } := by
  cases found : target previous.url response with
  | error e => simp [next, found, bind, Except.bind] at h
  | ok url =>
      cases taken : body previous response.status lenient with
      | error e => simp [next, found, taken, bind, Except.bind] at h
      | ok b =>
          refine ⟨url, b, rfl, rfl, ?_⟩
          simp only [next, found, taken, bind, Except.bind] at h
          exact (Except.ok.inj h).symm

/-- The fields that do not go along: `Host`; `Authorization`, unless the credentials are
kept; and the two that describe the body, where the body is dropped. -/
def dropped (previous : Request) (status : Status) (url : Url) (n : HeaderName) : Bool :=
  n = .host || (n = .authorization && !keepsAuthorization previous.url url)
    || (downgrades status previous.method && (n = .contentLength || n = .transferEncoding))

theorem values_headers (previous : Request) (status : Status) (url : Url) (n : HeaderName) :
    (headers previous status url).values n =
      if dropped previous status url n then [] else previous.headers.values n := by
  unfold headers dropped
  grind [Headers.values_erase]

/-! ## The two moves of a chain -/

theorem receive_redirected {c : Sending} {response : Response} {r : Redirected}
    (h : c.receive response = .ok (.redirected r)) :
    response.isRedirect = true ∧ c.follow = true ∧ c.history.length < c.maxRedirects ∧
      ∃ q, next c.request response false = .ok q ∧ r = ⟨c, response, q⟩ := by
  unfold Sending.receive at h
  split at h
  · cases h
  · rename_i redirects
    split at h
    · cases found : next c.request response true <;> rw [found] at h <;> cases h
    · rename_i follows
      split at h
      · cases h
      · rename_i short
        cases found : next c.request response false with
        | error e => rw [found] at h; cases h
        | ok q =>
            rw [found] at h
            cases h
            exact ⟨by simpa using redirects, by simpa using follows, by omega, q, rfl, rfl⟩

theorem receive_done {c : Sending} {response : Response} {answer : Answer}
    (h : c.receive response = .ok (.done answer)) :
    answer.history = c.history ∧
      ∀ q, answer.next = some q → next c.request response true = .ok q := by
  unfold Sending.receive at h
  split at h
  · cases h
    exact ⟨rfl, fun _ h => by cases h⟩
  · split at h
    · cases found : next c.request response true with
      | error e =>
          rw [found] at h
          cases h
      | ok p =>
          rw [found] at h
          cases h
          exact ⟨rfl, fun _ same => by cases same; rfl⟩
    · split at h
      · cases h
      · cases found : next c.request response false <;> rw [found] at h <;> cases h

theorem proceed_ok {r : Redirected} {rendered : Option String} {d : Sending}
    (h : r.proceed rendered = .ok d) :
    ∃ q, r.next.applyJarCookie rendered = .ok q ∧
      d = { r.chain with
            request := q
            history := r.chain.history ++ [r.response]
            redirects := r.chain.redirects + 1 } := by
  unfold Redirected.proceed at h
  cases written : r.next.applyJarCookie rendered with
  | error e => rw [written] at h; cases h
  | ok q =>
      rw [written] at h
      cases h
      exact ⟨q, rfl, rfl⟩

/-- Where the parts of the next chain come from. -/
structure Hop (c : Sending) (response : Response) (d : Sending) : Prop where
  redirects : response.isRedirect = true
  follows : c.follow = true
  room : c.history.length < c.maxRedirects
  target : Redirect.target c.request.url response = .ok d.request.url
  method : d.request.method =
    if downgrades response.status c.request.method then .get else c.request.method
  body : Redirect.body c.request response.status false = .ok d.request.body
  fields : ∀ n, n ≠ .cookie → d.request.headers.values n =
    if dropped c.request response.status d.request.url n then [] else c.request.headers.values n
  length : d.history.length = c.history.length + 1
  count : d.redirects = c.redirects + 1
  bound : d.maxRedirects = c.maxRedirects

/-- Whatever the caller makes of the response meanwhile, and whatever the jar has to send, the two
moves lead to the same parts. -/
theorem hop_of_proceed {c d : Sending} {response read : Response} {r : Redirected}
    {rendered : Option String} (received : c.receive response = .ok (.redirected r))
    (proceeded : Redirected.proceed { r with response := read } rendered = .ok d) :
    Hop c response d := by
  obtain ⟨redirects, follows, room, p, found, rfl⟩ := receive_redirected received
  obtain ⟨url, b, aimed, taken, rfl⟩ := next_ok found
  obtain ⟨q, written, rfl⟩ := proceed_ok proceeded
  obtain ⟨method, address, body, fields⟩ := Request.applyJarCookie_ok written
  refine ⟨redirects, follows, room, ?_, method, ?_, ?_, by simp, rfl, rfl⟩
  · show Redirect.target c.request.url response = .ok q.url
    rw [address]
    exact aimed
  · show Redirect.body c.request response.status false = .ok q.body
    rw [body]
    exact taken
  · intro n hn
    show q.headers.values n = if dropped c.request response.status q.url n then [] else _
    rw [fields n hn, address, Headers.values_erase, if_neg hn, values_headers]

/-- A chain follows a redirect and becomes another one.  `left` is what the exchange left of
the request body, `read` what the caller made of the response body. -/
def Follows (c d : Sending) : Prop :=
  ∃ (left read : Body) (response : Response) (rendered : Option String) (r : Redirected),
    Sending.receive { c with request := { c.request with body := left } } response
        = .ok (.redirected r) ∧
      Redirected.proceed { r with response := { r.response with body := read } } rendered = .ok d

/-- The chain behind a response that nobody reads, with no cookies to send. -/
def Sending.after (c : Sending) (response : Response) : Sending :=
  match c.receive response with
  | .ok (.redirected r) => (r.proceed none).toOption.getD c
  | _ => c

theorem follows_after {c : Sending} {response : Response} (h : c.after response ≠ c) :
    Follows c (c.after response) := by
  unfold Sending.after at h ⊢
  cases received : c.receive response with
  | error e => simp [received] at h
  | ok outcome =>
      cases outcome with
      | done answer => simp [received] at h
      | redirected r =>
          cases proceeded : r.proceed none with
          | error e => simp [received, proceeded, Except.toOption] at h
          | ok d =>
              show Follows c ((r.proceed none).toOption.getD c)
              rw [proceeded]
              exact ⟨c.request.body, r.response.body, response, none, r, received, proceeded⟩

theorem Follows.hop {c d : Sending} (h : Follows c d) :
    ∃ (left : Body) (response : Response),
      Hop { c with request := { c.request with body := left } } response d := by
  obtain ⟨left, read, response, rendered, r, received, proceeded⟩ := h
  exact ⟨left, response, hop_of_proceed received proceeded⟩

end Redirect

end HttpClient
