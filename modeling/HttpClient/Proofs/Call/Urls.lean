/-
# The urls that transports are given

Signing a request does not change its url, and neither do the cookies.  Hooks could, and so could
the edits and plans that authenticate a request; of those it has to be said that they keep it.  Then
in the first phase of a call transports are given the url of its request without the login, and in
the second one the urls of the requests that the redirects lead to, in order (`Stage.Onward`).
-/
import HttpClient.Proofs.Call.Cookies
import HttpClient.Proofs.Url.Host
import Mathlib.Data.List.Chain

namespace HttpClient

open Auth Redirect Call

def KeepsUrl (hook : RequestHook) : Prop := ∀ j r q, hook j r = .ok q → q.url = r.url

def Auth.KeepsUrl (a : Auth) : Prop := ∀ url, a.Keeps (·.url = url)

def Auth.Flow.KeepsUrl (f : Flow) : Prop := ∀ url, f.Keeps (·.url = url)

theorem Auth.keepsUrl_of_isBuiltIn {a : Auth} (h : a.isBuiltIn = true) : a.KeepsUrl := by
  intro url
  cases a with
  | basic | digest | netRc => trivial
  | edit | plan => cases h

theorem url_of_signed (url : Url) : ∀ r q : Request, r.Signed q → r.url = url → q.url = url :=
  fun _ _ signed same => signed.content.url.trans same

namespace Call

def urls (own : Changes) : List Url := (heads own).map (·.url)

theorem urls_append (own₁ own₂ : Changes) : urls (own₁ ++ own₂) = urls own₁ ++ urls own₂ := by
  unfold urls heads
  rw [events_append, List.filterMap_append, List.map_append]

theorem urls_of_calls {own : Changes} (h : calls own = 0) : urls own = [] := by
  rw [urls, heads_of_calls h]
  rfl

end Call

namespace Client

variable {c : Client} {mode : Mode} {own : Changes}

/-! ## The first phase -/

/-- An exchange gives its request to a transport, under its url, or fails. -/
theorem Exchanged.urls {r : Request} {result : Except Error (Request × Response)}
    (hooks : ∀ hook ∈ c.requestHooks, KeepsUrl hook) (h : c.Exchanged mode r own result) :
    (urls own = [] ∧ ∃ e, result = .error e) ∨
      (urls own = [r.url] ∧ ∀ p response, result = .ok (p, response) → p.url = r.url) := by
  cases h with
  | refused failed => exact .inl ⟨urls_of_calls (calls_beforeSend failed), _, rfl⟩
  | @handed t t' u transport p ready =>
      obtain ⟨-, -, q, written, shown⟩ := beforeSend_ok ready
      obtain ⟨-, applied, -, -⟩ := Request.applyJarCookie_ok written
      have onward {x y z : Request} (first : y.url = x.url) (second : z.url = y.url) :
          z.url = x.url := second.trans first
      have kept : p.url = q.url :=
        showTo_rel (R := fun x y => y.url = x.url) (fun _ => rfl) onward hooks shown
      have url : p.url = r.url := kept.trans applied
      refine .inr ⟨?_, ?_⟩
      · show urls ([(t, t')] ++ [(u, (c.handOver mode transport p u).2)]) = _
        rw [urls_append, urls_of_calls (calls_beforeSend ready), Call.urls, heads_handOver, ← url]
        rfl
      · intro p' response ended
        obtain ⟨left, rfl⟩ := handOver_left ended
        exact url

theorem Exchanged.urls_eq {r : Request} {result : Except Error (Request × Response)}
    (hooks : ∀ hook ∈ c.requestHooks, KeepsUrl hook) (h : c.Exchanged mode r own result) :
    (∀ url ∈ Call.urls own, url = r.url) ∧
      ∀ p response, result = .ok (p, response) → p.url = r.url := by
  rcases h.urls hooks with ⟨hnone, e, rfl⟩ | ⟨one, same⟩
  · rw [hnone]
    exact ⟨by simp, fun _ _ ended => by cases ended⟩
  · rw [one]
    exact ⟨by simp, same⟩

theorem Rounded.urls {flow : Flow} {r : Request} {result : Except Error (Resumed × Response)}
    (hooks : ∀ hook ∈ c.requestHooks, KeepsUrl hook) (keeps : flow.KeepsUrl)
    (h : c.Rounded mode flow r own result) :
    (∀ url ∈ Call.urls own, url = r.url) ∧
      ∀ resumed response, result = .ok (resumed, response) →
        resumed.request.url = r.url ∧ resumed.flow.KeepsUrl := by
  constructor
  · cases h with
    | unanswered exchanged | unread exchanged _ => exact (exchanged.urls_eq hooks).1
    | resumed exchanged _ journal _ =>
        rw [urls_append, urls_of_calls (calls_noted_flow journal), List.append_nil]
        exact (exchanged.urls_eq hooks).1
  · rintro resumed response rfl
    obtain ⟨_, p, received, t, _, _, -, exchanged, -, -, rfl, went⟩ := h.ok
    have given := (exchanged.urls_eq hooks).2 p received rfl
    exact ⟨(keeps r.url).resume (url_of_signed r.url) given went,
      fun url => (keeps url).onward t.journal p response t.digests⟩

theorem Rounds.urls {flow : Flow} {r : Request} {history : List Response}
    {rounds : List (Resumed × Response)} {result : Except Error Authenticated}
    (hooks : ∀ hook ∈ c.requestHooks, KeepsUrl hook) (keeps : flow.KeepsUrl)
    (h : c.Rounds mode flow r history own rounds result) :
    (∀ url ∈ Call.urls own, url = r.url) ∧
      ∀ last, result = .ok last → last.request.url = r.url := by
  induction h with
  | failed rounded => exact ⟨(rounded.urls hooks keeps).1, fun _ same => by cases same⟩
  | last rounded _ =>
      obtain ⟨all, next⟩ := rounded.urls hooks keeps
      refine ⟨all, fun last same => ?_⟩
      cases same
      exact (next _ _ rfl).1
  | unread rounded _ _ => exact ⟨(rounded.urls hooks keeps).1, fun _ same => by cases same⟩
  | again rounded _ _ _ ih =>
      obtain ⟨here, next⟩ := rounded.urls hooks keeps
      obtain ⟨same, onward⟩ := next _ _ rfl
      obtain ⟨later, ended⟩ := ih onward
      rw [same] at later ended
      rw [urls_append]
      exact ⟨List.forall_mem_append.mpr ⟨here, later⟩, ended⟩

theorem scheme_of_prepare {r : Request} {options : Options} {prepared : Prepared}
    (h : c.prepare r options = .ok prepared) : isFollowedScheme r.url.scheme = true := by
  obtain ⟨u, checked, -⟩ := Url.ok_of_bind h
  exact ((Prepared.checkUrl_iff r.url).mp checked).1

theorem Opening.urls {r : Request} {options : Options} {rounds : List (Resumed × Response)}
    {result : Except Error (Authenticated × Bool)}
    (hooks : ∀ hook ∈ c.requestHooks, KeepsUrl hook)
    (auth : ∀ a, options.auth.or c.auth = some a → a.KeepsUrl)
    (h : c.Opening mode r options own rounds result) :
    (∀ url ∈ Call.urls own, url = r.url.withoutLogin) ∧
      ∀ last follow, result = .ok (last, follow) →
        last.request.url = r.url.withoutLogin ∧ isFollowedScheme r.url.scheme = true := by
  cases h with
  | unready readied =>
      rw [urls_of_calls readied.calls_eq]
      exact ⟨by simp, fun _ _ same => by cases same⟩
  | @rounds _ _ ready _ outcome readied rounds =>
      obtain ⟨prepared, _, _, made, -, -, -, -⟩ := readied.ok
      obtain ⟨request, -, -⟩ := prepare_ok made
      have same : ready.request.url = r.url.withoutLogin :=
        readied.holds (url_of_signed _) (fun _ _ same => same)
          (fun a there => auth a there _) made (by rw [request])
      have keeps : ready.flow.KeepsUrl := fun url =>
        readied.keeps (url_of_signed url) fun a there => auth a there url
      obtain ⟨all, ended⟩ := rounds.urls hooks keeps
      rw [same] at all ended
      rw [urls_append, urls_of_calls readied.calls_eq, List.nil_append]
      refine ⟨all, fun last follow opened => ?_⟩
      cases outcome with
      | error e => cases opened
      | ok last' =>
          cases opened
          exact ⟨ended _ rfl, scheme_of_prepare made⟩

/-! ## The second phase -/

theorem Legs.stages_head {chain : Sending} {response : Response} {stages : List Stage}
    {result : Except Error Answer} (h : c.Legs mode chain response own stages result) :
    ∃ later, stages = ⟨chain, some response⟩ :: later := by
  cases h <;> exact ⟨_, rfl⟩

def Stage.url (a : Stage) : Url := a.chain.request.url

/-- The chain follows the redirect of the response, whatever was made of the response meanwhile and
whatever the jar renders, and the url of the next request stays as it is. -/
def Stage.Onward (a b : Stage) : Prop :=
  ∃ (response read : Response) (rendered : Option String) (r : Redirected) (next : Sending),
    a.response = some response ∧ a.chain.receive response = .ok (.redirected r) ∧
    Redirected.proceed { r with response := read } rendered = .ok next ∧
    b.url = next.request.url

theorem Stage.Onward.target {a b : Stage} (h : a.Onward b) :
    ∃ response, a.response = some response ∧ Redirect.target a.url response = .ok b.url := by
  obtain ⟨response, read, rendered, r, next, came, received, proceeded, same⟩ := h
  have hop := hop_of_proceed received proceeded
  exact ⟨response, came, by rw [same]; exact hop.target⟩

theorem Legs.onward {chain : Sending} {response : Response} {stages : List Stage}
    {result : Except Error Answer} (hooks : ∀ hook ∈ c.requestHooks, KeepsUrl hook)
    (h : c.Legs mode chain response own stages result) : stages.IsChain Stage.Onward := by
  have onward {chain next : Sending} {response : Response} {r : Redirected} {own : Changes}
      (received : chain.receive response = .ok (.redirected r))
      (proceeded : c.Proceeded mode r own (.ok next)) {b : Stage}
      (same : b.url = next.request.url) : Stage.Onward ⟨chain, some response⟩ b := by
    generalize ended : Except.ok next = outcome at proceeded
    cases proceeded with
    | unread _ => cases ended
    | @proceeded read t _ =>
        exact ⟨response, read, c.cookies t, r, next, rfl, received, ended.symm, same⟩
  induction h with
  | done _ | refused _ | stuck _ _ => exact .singleton _
  | unanswered received proceeded _ =>
      exact List.isChain_cons_cons.mpr ⟨onward received proceeded rfl, .singleton _⟩
  | leg received proceeded exchanged legs ih =>
      have same := (exchanged.urls_eq hooks).2 _ _ rfl
      obtain ⟨later, rfl⟩ := legs.stages_head
      exact List.isChain_cons_cons.mpr ⟨onward received proceeded same, ih⟩

/-- The second phase sends the urls of its stages, up to the last one or the one before. -/
theorem Legs.urls {chain : Sending} {response : Response} {stages : List Stage}
    {result : Except Error Answer} (hooks : ∀ hook ∈ c.requestHooks, KeepsUrl hook)
    (h : c.Legs mode chain response own stages result) :
    Call.urls own <+: stages.tail.map (·.chain.request.url) ∧
      stages.tail.length ≤ (Call.urls own).length + 1 := by
  induction h with
  | done _ => exact ⟨List.nil_prefix, Nat.zero_le _⟩
  | refused _ => exact ⟨List.nil_prefix, Nat.zero_le _⟩
  | stuck _ proceeded =>
      rw [urls_of_calls proceeded.calls_eq]
      exact ⟨List.nil_prefix, Nat.zero_le _⟩
  | unanswered _ proceeded exchanged =>
      rw [urls_append, urls_of_calls proceeded.calls_eq, List.nil_append]
      rcases exchanged.urls hooks with ⟨hnone, -⟩ | ⟨one, -⟩
      · rw [hnone]
        exact ⟨List.nil_prefix, Nat.le_refl _⟩
      · rw [one]
        exact ⟨List.prefix_refl _, Nat.le_succ _⟩
  | @leg _ next _ response' _ p _ _ _ _ _ _ proceeded exchanged legs ih =>
      obtain ⟨sent, long⟩ := ih
      obtain ⟨later, rfl⟩ := legs.stages_head
      rcases exchanged.urls hooks with ⟨-, e, impossible⟩ | ⟨one, same⟩
      · cases impossible
      · rw [urls_append, urls_append, urls_of_calls proceeded.calls_eq, one, List.nil_append,
          ← same p response' rfl]
        exact ⟨(List.prefix_cons_inj _).mpr sent, Nat.succ_le_succ long⟩

end Client

end HttpClient
