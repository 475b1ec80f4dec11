/-
# Requests that are sent as they are

A call checks its request, takes a login out of the url and adds the default header
fields.  A request that is `Fit` has been through all of that: it stays as it is, but
for the cookies.

A redirect leads from a fit request to a fit request, if its location names no login and
no default field is among those that a redirect drops.  So the requests of a client that
asks this of its transports (`Plain`) stay fit, one exchange after another.
-/
import HttpClient.Proofs.Call.Plain
import HttpClient.Proofs.Call.Routes
import HttpClient.Proofs.Url.Login

namespace HttpClient

open Auth Redirect Call

/-! ## Requests that are sent as they are -/

/-- A request that a call sends as it is, but for the cookies. -/
structure Client.Fit (c : Client) (q : Request) : Prop where
  checked : Prepared.checkUrl q.url = .ok ()
  anonymous : q.url.isAnonymous = true
  inMemory : q.body.isStream = false
  /-- All default fields are there. -/
  complete : ∀ n, c.defaultHeaders.contains n = true → q.headers.contains n = true

/-- No field that a redirect may drop is a default field. -/
def Client.Neutral (c : Client) : Prop :=
  ∀ n ∈ [HeaderName.authorization, .cookie, .host, .contentLength, .transferEncoding],
    c.defaultHeaders.contains n = false

theorem Headers.withDefaults_of_contains {h d : Headers}
    (complete : ∀ n, d.contains n = true → h.contains n = true) : h.withDefaults d = h := by
  have hnil : d.fields.filter (!h.contains ·.1) = [] := by
    rw [List.filter_eq_nil_iff]
    intro f there
    have named : d.contains f.1 = true := List.any_eq_true.mpr ⟨f, there, by simp⟩
    simp [complete f.1 named]
  simp [withDefaults, hnil]

theorem Headers.contains_congr {h k : Headers} {n : HeaderName} (same : k.values n = h.values n) :
    k.contains n = h.contains n := by
  rw [Bool.eq_iff_iff, contains_iff_values, contains_iff_values, same]

namespace Client

variable {c : Client} {mode : Mode}

theorem Fit.prepare {q : Request} (fit : c.Fit q) (unsigned : c.auth = none) :
    c.prepare q {} = .ok ⟨q, .none, c.followRedirects⟩ := by
  simp only [Client.prepare, fit.checked, Prepared.login?_of_isAnonymous fit.anonymous,
    Url.withoutLogin_of_isAnonymous fit.anonymous, Headers.withDefaults_of_contains fit.complete,
    unsigned, bind, Except.bind, pure, Except.pure]
  rfl

/-- What a call begins with is fit. -/
theorem fit_of_prepare {r : Request} {options : Options} {prepared : Prepared}
    (unsigned : c.auth = none) (plain : options.auth = none)
    (anonymous : r.url.isAnonymous = true) (inMemory : r.body.isStream = false)
    (h : c.prepare r options = .ok prepared) :
    c.Fit prepared.request ∧ prepared.flow = .none ∧
      prepared.follow = options.followRedirects.getD c.followRedirects := by
  cases checked : Prepared.checkUrl r.url with
  | error e => simp [Client.prepare, checked, bind, Except.bind] at h
  | ok u =>
      simp only [Client.prepare, checked, Prepared.login?_of_isAnonymous anonymous,
        Url.withoutLogin_of_isAnonymous anonymous, unsigned, plain, bind, Except.bind, pure,
        Except.pure] at h
      cases h
      refine ⟨⟨checked, anonymous, inMemory, ?_⟩, rfl, rfl⟩
      intro n default
      rw [Headers.contains_iff_values] at default
      rw [Headers.contains_iff_values, Headers.values_withDefaults]
      split
      · rename_i there
        exact (Headers.contains_iff_values _ _).mp there
      · exact default

theorem Fit.congr {q q' : Request} (neutral : c.Neutral) (fit : c.Fit q) (url : q'.url = q.url)
    (inMemory : q'.body.isStream = false)
    (fields : ∀ n, n ≠ .cookie → q'.headers.values n = q.headers.values n) : c.Fit q' := by
  refine ⟨by rw [url]; exact fit.checked, by rw [url]; exact fit.anonymous, inMemory, ?_⟩
  intro n default
  have other : n ≠ .cookie := by
    rintro rfl
    rw [neutral .cookie (by decide)] at default
    cases default
  rw [Headers.contains_congr (fields n other)]
  exact fit.complete n default

/-- A redirect leads from a fit request to a fit request. -/
theorem Fit.next {p q : Request} {response : Response} {lenient : Bool} (neutral : c.Neutral)
    (fit : c.Fit p)
    (anonymous : ∀ url, target p.url response = .ok url → url.isAnonymous = true)
    (h : next p response lenient = .ok q) : c.Fit q := by
  obtain ⟨url, b, aimed, taken, rfl⟩ := next_ok h
  refine ⟨target_checked fit.checked aimed, anonymous url aimed, ?_, ?_⟩
  · obtain ⟨bytes, held⟩ := Body.bytes?_of_not_isStream fit.inMemory
    have same := Body.not_isConsumed_of_bytes? held
    simp only [Redirect.body, Body.forResend, same] at taken
    split at taken
    · cases taken
      rfl
    · split at taken
      · cases taken
        exact fit.inMemory
      · cases taken
        exact fit.inMemory
  · intro n default
    have kept (m : HeaderName) (named : m ∈ [HeaderName.authorization, .cookie, .host,
        .contentLength, .transferEncoding]) : n ≠ m := by
      rintro rfl
      rw [neutral n named] at default
      cases default
    have stays : dropped p response.status url n = false := by
      simp [dropped, kept .host, kept .authorization, kept .contentLength, kept .transferEncoding]
    have same : ((headers p response.status url).erase .cookie).values n = p.headers.values n := by
      rw [Headers.values_erase, if_neg (kept .cookie (by decide)), values_headers, stays]
      rfl
    rw [Headers.contains_congr same]
    exact fit.complete n default

theorem Fit.next_lenient {p : Request} {response : Response} (fit : c.Fit p) :
    Redirect.next p response true = Redirect.next p response false := by
  obtain ⟨bytes, held⟩ := Body.bytes?_of_not_isStream fit.inMemory
  have same := Body.not_isConsumed_of_bytes? held
  simp [Redirect.next, Redirect.body, Body.forResend, same]

end Client

/-! ## Exchanges -/

/-- What the transport answers is in memory, and its redirects name no login. -/
structure Transport.Plain (t : Transport) : Prop where
  inMemory : ∀ j head body x, t.respond j head body = .ok x → x.body.isStream = false
  anonymous : ∀ j head body x url, t.respond j head body = .ok x → head.url.isAnonymous = true →
    x.isRedirect = true → target head.url x = .ok url → url.isAnonymous = true

theorem Transport.handle_inMemory (t : Transport) (mode : Mode) (j : Journal) {r : Request}
    (inMemory : r.body.isStream = false) :
    ∃ body, t.handle mode j r =
      ⟨r, t.respond j r.head body, .exchange t.name r.head body (t.respond j r.head body)⟩ := by
  obtain ⟨bytes, held⟩ := Body.bytes?_of_not_isStream inMemory
  by_cases reads : t.readsBody = true
  · refine ⟨.full bytes, ?_⟩
    simp only [handle, reads, if_true, Body.readAll_of_bytes? held]
  · refine ⟨r.body, ?_⟩
    simp only [handle, reads, Bool.false_eq_true, if_false]

/-- How many requests have been answered by a redirect. -/
def Journal.redirects (j : Journal) : Nat :=
  j.countP fun
    | .exchange _ _ _ (.ok x) => x.isRedirect
    | _ => false

/-- A client whose redirects can be followed by hand: it does not authenticate, nobody looks on, and
what it adds to requests is nothing that a redirect takes away. -/
structure Client.Plain (c : Client) : Prop where
  unsigned : c.auth = none
  requestHooks : c.requestHooks = []
  responseHooks : c.responseHooks = []
  neutral : c.Neutral
  router : c.router.Only Transport.Plain

/-- The last that has been done is this request, and it was met by this response. -/
def Journal.EndsWith (j : Journal) (p : Request) (response : Response) : Prop :=
  ∃ name body x, j.getLast? = some (.exchange name p.head body (.ok x)) ∧
    response = { x with request := some p.head }

namespace Client

variable {c : Client} {mode : Mode} {s t : Session}

/-- The response to a fit request. -/
structure Met (c : Client) (p : Request) (response : Response) : Prop where
  fit : c.Fit p
  inMemory : response.body.isStream = false
  anonymous : response.isRedirect = true →
    ∀ url, target p.url response = .ok url → url.isAnonymous = true

theorem beforeSend_silent (silent : c.requestHooks = []) (r : Request) (s : Session) :
    (c.beforeSend r s).2.journal = s.journal := by
  simp only [beforeSend]
  split
  · rfl
  · split
    · rfl
    · split
      · rfl
      · rw [silent]
        rfl

/-- A fit request that is handed over is met by a response, which counts if it is a redirect. -/
theorem Fit.handedOver {transport : Transport} {q p : Request} {response : Response}
    (quiet : c.responseHooks = []) (answers : transport.Plain) (fit : c.Fit q)
    (h : c.handOver mode transport q s = (.ok (p, response), t)) :
    c.Met p response ∧ t.connections = s.connections ∧ t.journal.EndsWith p response ∧
      t.journal.redirects = s.journal.redirects + if response.isRedirect then 1 else 0 := by
  obtain ⟨body, handled⟩ := transport.handle_inMemory mode s.journal fit.inMemory
  simp only [handOver, handled] at h
  cases answered : transport.respond s.journal q.head body with
  | error e =>
      rw [answered] at h
      cases h
  | ok x =>
      rw [answered] at h
      simp only [afterReceive, quiet, showResponse, showTo, Except.map] at h
      cases h
      have held : x.body.isStream = false := answers.inMemory _ _ _ x answered
      refine ⟨⟨fit, held, ?_⟩, rfl, ?_, ?_⟩
      · intro redirects url aimed
        exact answers.anonymous _ _ _ x url answered fit.anonymous redirects aimed
      · exact ⟨transport.name, body, x, List.getLast?_concat, rfl⟩
      · show Journal.redirects (s.journal ++ [_]) = _
        simp [Journal.redirects, List.countP_cons, Response.isRedirect]

theorem Fit.exchanged {q p : Request} {response : Response} (all : c.Plain)
    (kept : s.connections.Only Transport.Plain) (fit : c.Fit q)
    (h : alone (c.exchange mode q) s = (.ok (p, response), t)) :
    c.Met p response ∧ t.connections.Only Transport.Plain ∧ t.journal.EndsWith p response ∧
      t.journal.redirects = s.journal.redirects + if response.isRedirect then 1 else 0 := by
  rw [alone_exchange] at h
  have journal := beforeSend_silent all.requestHooks q s
  have still := beforeSend_only (r := q) all.router kept
  cases ready : c.beforeSend q s with
  | mk result u =>
      rw [ready] at h journal still
      cases result with
      | error e => cases h
      | ok handed =>
          obtain ⟨transport, q'⟩ := handed
          obtain ⟨-, routed, unseen, written, shown⟩ := beforeSend_ok ready
          rw [all.requestHooks] at shown
          cases shown
          obtain ⟨-, url, same, fields⟩ := Request.applyJarCookie_ok written
          have inMemory : q'.body.isStream = false := by
            rw [same]
            exact fit.inMemory
          have fit' := fit.congr all.neutral url inMemory fields
          have answers : transport.Plain := (Router.route_only all.router kept).1 _ routed
          obtain ⟨met, connections, last, received⟩ := fit'.handedOver all.responseHooks answers h
          rw [connections]
          have journal : u.journal = s.journal := journal
          rw [journal] at received
          exact ⟨met, still, last, received⟩

end Client

end HttpClient
