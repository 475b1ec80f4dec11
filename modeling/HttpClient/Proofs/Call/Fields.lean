/-
# The fields along a chain of redirects

A redirect takes the fields of a request along.  Only five names are treated in another way: `Host`
and the cookies are made anew for each request, the credentials go along to where they belong, and
the two fields that describe the body go along as long as the body does.  So of a chain of any
length, in which nobody edits a request between the exchanges (`Stage.Unedited`), all fields are
told by those of the first request and by whether there was a redirect that turned the request into
a GET (`Stage.turnsToGet`).

One hop is described in `Stage.Unedited.fields`; the induction over the chain takes along whether
there was such a redirect before.  Between two exchanges the bodies may be used up and the cookies
be written again, and nothing is said about these.
-/
import HttpClient.Proofs.Call.Urls

namespace HttpClient

open Auth Redirect Call

namespace Client

/-! ## One redirect -/

/-- The names that redirects treat in a way of their own. -/
def touched : List HeaderName :=
  [.host, .cookie, .authorization, .contentLength, .transferEncoding]

/-- The names of the fields that describe a body. -/
def describing : List HeaderName := [.contentLength, .transferEncoding]

def Stage.values (a : Stage) (n : HeaderName) : List HeaderValue := a.chain.request.headers.values n

/-- The response is a redirect that turns the request into a GET. -/
def Stage.turnsToGet (a : Stage) : Bool :=
  a.response.any fun response => [301, 302, 303].contains response.status.code &&
    !(a.chain.request.method = .get || a.chain.request.method = .head)

/-- The chain follows the redirect, whatever was made of the response meanwhile and whatever the jar
renders, and the next request is left as it is but for its body and its cookies. -/
def Stage.Unedited (a b : Stage) : Prop :=
  ∃ (response read : Response) (rendered : Option String) (r : Redirected) (next : Sending)
    (left : Body), a.response = some response ∧
    a.chain.receive response = .ok (.redirected r) ∧
    Redirected.proceed { r with response := read } rendered = .ok next ∧
    Left next.request b.chain.request left

theorem turnsToGet_eq {a : Stage} {response : Response} (came : a.response = some response)
    (redirects : response.isRedirect = true) :
    a.turnsToGet = downgrades response.status a.chain.request.method := by
  have among := (Bool.and_eq_true_iff.mp redirects).1
  unfold Status.isRedirect at among
  simp only [List.contains_iff_mem, List.mem_cons, List.not_mem_nil, or_false] at among
  unfold Stage.turnsToGet downgrades Status.keepsMethod Method.isGetOrHead
  rw [came, Option.any_some]
  rcases among with code | code | code | code | code <;> rw [code] <;> simp

/-- What becomes of the method and of the fields in one redirect. -/
theorem Stage.Unedited.fields {a b : Stage} (h : a.Unedited b) :
    b.chain.request.method = (if a.turnsToGet then .get else a.chain.request.method) ∧
      (∀ n, n ∉ touched → b.values n = a.values n) ∧ b.values .host = [] ∧
      ∀ n ∈ describing, b.values n = if a.turnsToGet then [] else a.values n := by
  obtain ⟨response, read, rendered, r, next, left, came, received, proceeded, kept⟩ := h
  have hop := hop_of_proceed received proceeded
  have same := turnsToGet_eq came hop.redirects
  have fields (n : HeaderName) (other : n ≠ .cookie) : b.values n =
      if dropped a.chain.request response.status next.request.url n then [] else a.values n :=
    (kept.fields n other).trans (hop.fields n other)
  refine ⟨by rw [kept.method, hop.method, same], fun n untouched => ?_, ?_, fun n describes => ?_⟩
  · simp only [touched, List.mem_cons, List.not_mem_nil, or_false, not_or] at untouched
    obtain ⟨host, cookie, authorization, length, coding⟩ := untouched
    rw [fields n cookie]
    simp [dropped, host, authorization, length, coding]
  · rw [fields .host (by decide)]
    simp [dropped]
  · simp only [describing, List.mem_cons, List.not_mem_nil, or_false] at describes
    rw [same]
    rcases describes with rfl | rfl
    · rw [fields .contentLength (by decide)]
      simp [dropped, HeaderName.contentLength, HeaderName.host, HeaderName.authorization]
    · rw [fields .transferEncoding (by decide)]
      simp [dropped, HeaderName.transferEncoding, HeaderName.host, HeaderName.authorization,
        HeaderName.contentLength]

/-! ## The chain -/

/-- What a leg has of the first request of its chain, if redirects before it turned the request into
a GET or did not. -/
structure Stage.Keeps (first leg : Stage) (turned : Bool) : Prop where
  method : leg.chain.request.method = if turned then .get else first.chain.request.method
  fields : ∀ n, n ∉ touched → leg.values n = first.values n
  described : ∀ n ∈ describing, leg.values n = if turned then [] else first.values n

theorem Stage.Keeps.refl (a : Stage) : a.Keeps a false := ⟨rfl, fun _ _ => rfl, fun _ _ => rfl⟩

theorem Stage.Keeps.cons {first second leg : Stage} {turned : Bool} (hop : first.Unedited second)
    (h : second.Keeps leg turned) : first.Keeps leg (first.turnsToGet || turned) := by
  obtain ⟨method, fields, -, described⟩ := hop.fields
  refine ⟨?_, fun n untouched => (h.fields n untouched).trans (fields n untouched), ?_⟩
  · rw [h.method, method]
    cases turned <;> simp
  · intro n describes
    rw [h.described n describes, described n describes]
    cases turned <;> simp

theorem keeps_along {first leg : Stage} {later : List Stage} {k : Nat}
    (run : (first :: later).IsChain Stage.Unedited) (found : (first :: later)[k]? = some leg) :
    first.Keeps leg (((first :: later).take k).any Stage.turnsToGet) ∧
      (0 < k → leg.values .host = []) := by
  induction later generalizing first k with
  | nil =>
      cases k with
      | zero =>
          cases found
          exact ⟨.refl _, fun impossible => absurd impossible (Nat.lt_irrefl 0)⟩
      | succ k => simp at found
  | cons second rest ih =>
      cases k with
      | zero =>
          cases found
          exact ⟨.refl _, fun impossible => absurd impossible (Nat.lt_irrefl 0)⟩
      | succ k =>
          obtain ⟨hop, onward⟩ := List.isChain_cons_cons.mp run
          obtain ⟨kept, hostless⟩ := ih onward (k := k) (by simpa using found)
          rw [List.take_succ_cons, List.any_cons]
          refine ⟨kept.cons hop, fun _ => ?_⟩
          cases k with
          | zero =>
              cases found
              exact hop.fields.2.2.1
          | succ k => exact hostless (Nat.succ_pos k)

/-! ## Calls -/

variable {c : Client} {mode : Mode} {own : Changes}

/-- The head is that of the request, but for its cookies. -/
structure Shows (r : Request) (head : RequestHead) : Prop where
  method : head.method = r.method
  url : head.url = r.url
  fields : ∀ n, n ≠ .cookie → head.headers.values n = r.headers.values n

theorem Exchanged.shows {r : Request} {result : Except Error (Request × Response)}
    (silent : c.requestHooks = []) (h : c.Exchanged mode r own result) :
    (heads own = [] ∧ ∃ e, result = .error e) ∨ ∃ head, heads own = [head] ∧ Shows r head ∧
      ∀ p response, result = .ok (p, response) → ∃ left, Left r p left := by
  cases h with
  | refused failed => exact .inl ⟨heads_of_calls (calls_beforeSend failed), _, rfl⟩
  | @handed t t' u transport p ready =>
      obtain ⟨-, -, q, written, shown⟩ := beforeSend_ok ready
      rw [silent] at shown
      cases shown
      obtain ⟨method, url, -, fields⟩ := Request.applyJarCookie_ok written
      refine .inr ⟨p.head, ?_, ⟨method, url, fields⟩, ?_⟩
      · show heads ([(t, t')] ++ [(u, (c.handOver mode transport p u).2)]) = _
        rw [heads_append, heads_of_calls (calls_beforeSend ready), heads_handOver, List.nil_append]
      · intro p' response ended
        obtain ⟨left, rfl⟩ := handOver_left ended
        exact ⟨left, method, url, fields, rfl⟩

/-- In a call without request hooks nobody edits the requests, and transports are given those of the
stages behind the first one, in order. -/
theorem Legs.unedited {chain : Sending} {response : Response} {stages : List Stage}
    {result : Except Error Answer} (silent : c.requestHooks = [])
    (h : c.Legs mode chain response own stages result) :
    stages.IsChain Stage.Unedited ∧ ∀ (k : Nat) (head : RequestHead), (heads own)[k]? = some head →
      ∃ stage, stages[k + 1]? = some stage ∧ Shows stage.chain.request head := by
  have onward {chain next : Sending} {response : Response} {r : Redirected} {own : Changes}
      (received : chain.receive response = .ok (.redirected r))
      (proceeded : c.Proceeded mode r own (.ok next)) {b : Stage} {left : Body}
      (kept : Left next.request b.chain.request left) :
      Stage.Unedited ⟨chain, some response⟩ b := by
    generalize ended : Except.ok next = outcome at proceeded
    cases proceeded with
    | unread _ => cases ended
    | @proceeded read t _ =>
        exact ⟨response, read, c.cookies t, r, next, left, rfl, received, ended.symm, kept⟩
  induction h with
  | done _ | refused _ => exact ⟨.singleton _, fun k head h => by simp [heads, events] at h⟩
  | stuck _ proceeded =>
      rw [heads_of_calls proceeded.calls_eq]
      exact ⟨.singleton _, fun k head h => by simp at h⟩
  | @unanswered _ next _ _ _ _ _ received proceeded exchanged =>
      have same : Left next.request next.request next.request.body :=
        ⟨rfl, rfl, fun _ _ => rfl, rfl⟩
      refine ⟨List.isChain_cons_cons.mpr ⟨onward received proceeded same, .singleton _⟩, ?_⟩
      rw [heads_append, heads_of_calls proceeded.calls_eq, List.nil_append]
      intro k head found
      rcases exchanged.shows silent with ⟨hnone, -⟩ | ⟨head', one, shows, -⟩
      · rw [hnone] at found
        simp at found
      · rw [one] at found
        cases k with
        | zero =>
            cases found
            exact ⟨_, rfl, shows⟩
        | succ k => simp at found
  | @leg _ next _ _ _ p _ _ _ _ _ received proceeded exchanged legs ih =>
      obtain ⟨run, later⟩ := ih
      obtain ⟨rest, rfl⟩ := legs.stages_head
      rcases exchanged.shows silent with ⟨-, _, impossible⟩ | ⟨head', one, shows, kept⟩
      · cases impossible
      · obtain ⟨left, kept⟩ := kept _ _ rfl
        refine ⟨List.isChain_cons_cons.mpr ⟨onward received proceeded kept, run⟩, ?_⟩
        rw [heads_append, heads_of_calls proceeded.calls_eq, heads_append, one, List.nil_append]
        intro k head found
        cases k with
        | zero =>
            cases found
            refine ⟨_, rfl, ⟨?_, ?_, fun n other => ?_⟩⟩
            · exact shows.method.trans kept.method.symm
            · exact shows.url.trans kept.url.symm
            · exact (shows.fields n other).trans (kept.fields n other).symm
        | succ k => exact later k head (by simpa using found)

/-- Redirects touch only the fields they must, however many there are.

Of a chain in which nobody edits a request between the exchanges, each leg has the values of the
first request in all fields but five.  Behind the first leg there is no `Host`.  The two fields that
describe the body have their first values up to the first redirect that turns the request into a
GET, and from there on none.

The second phase of a call without request hooks is such a chain, and that is what its transports
are given. -/
theorem fields_along_chain :
    (∀ (first : Stage) (later : List Stage), (first :: later).IsChain Stage.Unedited →
      ∀ (k : Nat) (leg : Stage), (first :: later)[k]? = some leg →
        (∀ n, n ∉ [.host, .cookie, .authorization, .contentLength, .transferEncoding] →
          leg.values n = first.values n) ∧
        (0 < k → leg.values .host = []) ∧
        ∀ n ∈ [.contentLength, .transferEncoding], leg.values n =
          if ((first :: later).take k).any Stage.turnsToGet then [] else first.values n) ∧
    ∀ (c : Client) (mode : Mode) (rely : Session → Session → Prop) (s s' : Session)
      (own : Changes) (r : Request) (options : Options) (result : Except Error Answer),
      c.requestHooks = [] → Goes rely (c.call mode r options) s own result s' →
      ∃ opening legs rounds stages, own = opening ++ legs ∧
        c.Course mode r options opening legs rounds stages result ∧
        stages.IsChain Stage.Unedited ∧
        ∀ (k : Nat) (head : RequestHead), (heads legs)[k]? = some head →
          ∃ first, stages.head? = some first ∧
            (∀ n, n ∉ [.host, .cookie, .authorization, .contentLength, .transferEncoding] →
              head.headers.values n = first.values n) ∧
            head.headers.values .host = [] ∧
            ∀ n ∈ [.contentLength, .transferEncoding], head.headers.values n =
              if (stages.take (k + 1)).any Stage.turnsToGet then [] else first.values n := by
  constructor
  · intro first later run k leg found
    obtain ⟨kept, hostless⟩ := keeps_along run found
    exact ⟨kept.fields, hostless, kept.described⟩
  · intro c mode rely s s' own r options result silent h
    obtain ⟨opening, legs, rounds, stages, rfl, course⟩ := goes_call h
    refine ⟨opening, legs, rounds, stages, rfl, course, ?_⟩
    cases course with
    | unopened _ => exact ⟨.nil, fun k head h => by simp [heads, events] at h⟩
    | opened opened behind =>
        obtain ⟨run, given⟩ := behind.unedited silent
        obtain ⟨later, rfl⟩ := behind.stages_head
        refine ⟨run, fun k head there => ?_⟩
        obtain ⟨stage, found, shows⟩ := given k head there
        obtain ⟨kept, hostless⟩ := keeps_along run found
        refine ⟨_, rfl, fun n untouched => ?_, ?_, fun n describes => ?_⟩
        · have other : n ≠ .cookie := by
            rintro rfl
            exact untouched (by decide)
          exact (shows.fields n other).trans (kept.fields n untouched)
        · exact (shows.fields .host (by decide)).trans (hostless (Nat.succ_pos k))
        · have other : n ≠ .cookie := by
            rintro rfl
            revert describes
            decide
          exact (shows.fields n other).trans (kept.described n describes)

/-! ## An upload that is turned into a GET -/

section Sampled

open Sample

/-- A name that means nothing to redirects. -/
def tag : HeaderName := ⟨"x-tag", by decide⟩

def fields (entries : List (HeaderName × String)) : Headers :=
  ⟨entries.flatMap fun (n, text) => (HeaderValue.ofText text).toOption.toList.map (n, ·)⟩

/-- An upload with two values of one name. -/
def parcel : Request :=
  { request .post (.full [7]) with
    headers := fields [(tag, "one"), (.host, "q.test"), (.contentLength, "1"), (tag, "two")] }

def diverting : Client := client [kept "/b", moved "/c", fine] none 9

/-- The length of the body goes along once, and both values of the name always do, behind one
another as in the first request. -/
theorem fields_of_diverting :
    ∃ opening legs rounds stages,
      diverting.changes .blocking parcel {} {} = opening ++ legs ∧
      diverting.Course .blocking parcel {} opening legs rounds stages
        (diverting.send .blocking parcel {} {}).1 ∧
      (heads (opening ++ legs)).map (fun head =>
          [tag, .host, .contentLength].map fun n => (head.headers.values n).length) =
        [[2, 1, 1], [2, 0, 1], [2, 0, 0]] ∧
      (∀ head ∈ heads legs, ∃ first, stages.head? = some first ∧
        head.headers.values tag = first.values tag ∧ head.headers.values .host = []) ∧
      ∀ first later, stages = first :: later → ∀ stage ∈ stages,
        stage.values tag = first.values tag := by
  have goes : Goes Eq _ _ _ _ _ :=
    goes_send (fun _ => rfl) diverting .blocking parcel {} {}
  obtain ⟨opening, legs, rounds, stages, split, course, run, given⟩ :=
    fields_along_chain.2 _ _ _ _ _ _ _ _ _ rfl goes
  refine ⟨opening, legs, rounds, stages, split, course, ?_, ?_, ?_⟩
  · rw [← split]
    decide +kernel
  · intro head there
    obtain ⟨k, found⟩ := List.mem_iff_getElem?.mp there
    obtain ⟨first, begins, same, hostless, -⟩ := given k head found
    exact ⟨first, begins, same tag (by decide), hostless⟩
  · rintro first later rfl stage there
    obtain ⟨k, found⟩ := List.mem_iff_getElem?.mp there
    exact (fields_along_chain.1 first later run k stage found).1 tag (by decide)

end Sampled

end Client

end HttpClient
