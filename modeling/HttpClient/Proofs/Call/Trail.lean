/-
# The cookies that somebody writes during a call

Between the exchanges of a call its flow may write the cookies of the request, and the
request hooks may do so just before the request is handed over.  If they do it by setting
and appending fields, then the cookies that a transport gets are those of the prepared
request behind the steps so far: in each exchange the jar is applied once, and the other
steps are those of the flow and of the hooks (`Trail`).  A redirect begins with a request
that has no cookies.

So what is known of sequences of steps is known of calls.
-/
import HttpClient.Proofs.Auth.Keeping
import HttpClient.Proofs.Call.Cookies
import HttpClient.Proofs.Message.Ownership

namespace HttpClient

open Auth Redirect Call

/-! ## Steps of others -/

namespace Request

/-- The second request has the cookies that steps of others than the jar make of the first one. -/
def Leads (r q : Request) : Prop :=
  ∃ steps, (∀ s ∈ steps, s.isExplicit = true) ∧ q.cookieField = (r.after steps).cookieField

variable {r p q : Request}

theorem Leads.of_eq (h : q.cookieField = r.cookieField) : r.Leads q :=
  ⟨[], fun _ there => absurd there List.not_mem_nil, h⟩

theorem Leads.trans (h : r.Leads p) (h' : p.Leads q) : r.Leads q := by
  obtain ⟨first, all, same⟩ := h
  obtain ⟨second, all', same'⟩ := h'
  refine ⟨first ++ second, List.forall_mem_append.mpr ⟨all, all'⟩, ?_⟩
  rw [same', cookieField_after, same, after_append, cookieField_after _ second]

theorem Leads.of_setHeader {name : String} {value : Bytes} (h : r.setHeader name value = .ok q) :
    r.Leads q := by
  refine ⟨[.set name value], by simp [HeaderStep.isExplicit], ?_⟩
  show _ = ((r.setHeader name value).toOption.getD r).cookieField
  rw [h]
  rfl

theorem Leads.of_signed (h : r.Signed q) : r.Leads q := by
  refine .of_eq ?_
  unfold cookieField
  rw [h.fields .cookie (by decide), h.mark]

end Request

/-- The hook writes cookies by setting and appending fields, if at all. -/
def WritesCookies (hook : RequestHook) : Prop := ∀ j r q, hook j r = .ok q → r.Leads q

def Auth.WritesCookies (a : Auth) : Prop := ∀ r : Request, a.Keeps (r.Leads ·)

def Auth.Flow.WritesCookies (f : Flow) : Prop := ∀ r : Request, f.Keeps (r.Leads ·)

theorem leads_of_signed (r : Request) : ∀ p q : Request, p.Signed q → r.Leads p → r.Leads q :=
  fun _ _ signed leads => leads.trans (.of_signed signed)

/-! ## Trails -/

/-- The second request is the first one behind the steps of one exchange: the jar is applied once,
and others may write before and behind that. -/
def Request.Treated (r q : Request) : Prop :=
  ∃ early rendered late, (∀ s ∈ early, s.isExplicit = true) ∧ (∀ s ∈ late, s.isExplicit = true) ∧
    q = r.after (early ++ .jar rendered :: late)

/-- These are, in order, what transports get of the request, with the cookies that the steps of one
exchange after the other make of it. -/
inductive Trail : Request → List RequestHead → Prop
  | nil {r : Request} : Trail r []
  | cons {r q : Request} {head : RequestHead} {heads : List RequestHead} :
      r.Treated q → head.headers.values .cookie = q.headers.values .cookie → Trail q heads →
      Trail r (head :: heads)

namespace Client

variable {c : Client} {mode : Mode} {own : Changes}

/-- The jar is applied once before a request is handed over, and the hooks are shown it. -/
theorem Exchanged.trail {r₀ r : Request} {result : Except Error (Request × Response)}
    (hooks : ∀ hook ∈ c.requestHooks, WritesCookies hook) (leads : r₀.Leads r)
    (h : c.Exchanged mode r own result) :
    (heads own = [] ∧ ∃ e, result = .error e) ∨
    ∃ q head, r₀.Treated q ∧ heads own = [head] ∧
      head.headers.values .cookie = q.headers.values .cookie ∧
      ∀ p response, result = .ok (p, response) → p.cookieField = q.cookieField := by
  cases h with
  | refused failed => exact .inl ⟨heads_of_calls (calls_beforeSend failed), _, rfl⟩
  | @handed t t' u transport q ready =>
      obtain ⟨-, -, p, written, shown⟩ := beforeSend_ok ready
      obtain ⟨early, all, same⟩ := leads
      obtain ⟨late, all', same'⟩ := showTo_rel (fun _ => .of_eq rfl) .trans hooks shown
      have field : q.cookieField =
          (r₀.after (early ++ .jar (c.cookies t) :: late)).cookieField := by
        have applied : p.cookieField = (r.step (.jar (c.cookies t))).cookieField := by
          show _ = ((r.applyJarCookie (c.cookies t)).toOption.getD r).cookieField
          rw [written]
          rfl
        rw [same', Request.cookieField_after, applied, Request.cookieField_step, same,
          ← Request.cookieField_step, ← Request.after_concat, ← Request.cookieField_after,
          ← Request.after_append, List.append_assoc, List.singleton_append]
      refine .inr ⟨_, q.head, ⟨early, c.cookies t, late, all, all', rfl⟩, ?_, ?_, ?_⟩
      · show heads ([(t, t')] ++ [(u, (c.handOver mode transport q u).2)]) = _
        rw [heads_append, heads_of_calls (calls_beforeSend ready), heads_handOver, List.nil_append]
      · exact congrArg CookieField.values field
      · intro p' response ended
        obtain ⟨left, rfl⟩ := handOver_left ended
        exact field

theorem Rounded.trail {flow : Flow} {r₀ r : Request} {result : Except Error (Resumed × Response)}
    (hooks : ∀ hook ∈ c.requestHooks, WritesCookies hook) (writes : flow.WritesCookies)
    (leads : r₀.Leads r) (h : c.Rounded mode flow r own result) :
    (heads own = [] ∧ ∃ e, result = .error e) ∨
    ∃ q head, r₀.Treated q ∧ heads own = [head] ∧
      head.headers.values .cookie = q.headers.values .cookie ∧
      ∀ resumed response, result = .ok (resumed, response) →
        q.Leads resumed.request ∧ resumed.flow.WritesCookies := by
  cases h with
  | unanswered exchanged =>
      rcases exchanged.trail hooks leads with ⟨hnone, -⟩ | ⟨q, head, treated, one, field, -⟩
      · exact .inl ⟨hnone, _, rfl⟩
      · exact .inr ⟨q, head, treated, one, field, fun _ _ same => by cases same⟩
  | unread exchanged _ =>
      rcases exchanged.trail hooks leads with
        ⟨-, e, impossible⟩ | ⟨q, head, treated, one, field, -⟩
      · cases impossible
      · exact .inr ⟨q, head, treated, one, field, fun _ _ same => by cases same⟩
  | @resumed exchange p received response t t' exchanged _ journal _ =>
      rcases exchanged.trail hooks leads with
        ⟨-, e, impossible⟩ | ⟨q, head, treated, one, field, onward⟩
      · cases impossible
      · refine .inr ⟨q, head, treated, ?_, field, ?_⟩
        · rw [heads_append, heads_of_calls (calls_noted_flow journal), List.append_nil]
          exact one
        · intro resumed response' ended
          obtain ⟨step, went, same⟩ := ok_of_map ended
          cases same
          have here : p.Leads (flow.resume t.journal p response t.digests).request :=
            (writes p).resume (leads_of_signed p) (.of_eq rfl) went
          exact ⟨(Request.Leads.of_eq (onward _ _ rfl)).trans here,
            fun r' => (writes r').onward t.journal p response t.digests⟩

theorem Rounds.trail {flow : Flow} {r : Request} {history : List Response}
    {rounds : List (Resumed × Response)} {result : Except Error Authenticated}
    (hooks : ∀ hook ∈ c.requestHooks, WritesCookies hook)
    (h : c.Rounds mode flow r history own rounds result) :
    ∀ r₀ : Request, flow.WritesCookies → r₀.Leads r → Trail r₀ (heads own) := by
  have single {flow : Flow} {r r₀ : Request} {own : Changes}
      {result : Except Error (Resumed × Response)} (writes : flow.WritesCookies)
      (leads : r₀.Leads r) (rounded : c.Rounded mode flow r own result) :
      Trail r₀ (heads own) := by
    rcases rounded.trail hooks writes leads with ⟨hnone, -⟩ | ⟨q, head, treated, one, field, -⟩
    · rw [hnone]
      exact .nil
    · rw [one]
      exact .cons treated field .nil
  induction h with
  | failed rounded | last rounded _ | unread rounded _ _ =>
      exact fun r₀ writes leads => single writes leads rounded
  | again rounded _ _ _ ih =>
      intro r₀ writes leads
      rcases rounded.trail hooks writes leads with
        ⟨-, e, impossible⟩ | ⟨q, head, treated, one, field, onward⟩
      · cases impossible
      · obtain ⟨leads', writes'⟩ := onward _ _ rfl
        rw [heads_append, one]
        exact .cons treated field (ih q writes' leads')

theorem Readied.leads {r : Request} {options : Options} {prepared ready : Prepared}
    (auth : ∀ auth, options.auth.or c.auth = some auth → auth.WritesCookies)
    (made : c.prepare r options = .ok prepared)
    (h : c.Readied mode r options own (.ok ready)) :
    prepared.request.Leads ready.request ∧ ready.flow.WritesCookies := by
  have stored (q : Request) (body : Body) (leads : prepared.request.Leads q) :
      prepared.request.Leads { q with body } := leads.trans (.of_eq rfl)
  exact ⟨h.holds (leads_of_signed _) stored (fun a same => auth a same _) made (.of_eq rfl),
    fun r' => h.keeps (leads_of_signed r') fun a same => auth a same r'⟩

theorem Opening.trail {r : Request} {options : Options} {prepared : Prepared}
    {rounds : List (Resumed × Response)} {result : Except Error (Authenticated × Bool)}
    (hooks : ∀ hook ∈ c.requestHooks, WritesCookies hook)
    (auth : ∀ auth, options.auth.or c.auth = some auth → auth.WritesCookies)
    (made : c.prepare r options = .ok prepared) (h : c.Opening mode r options own rounds result) :
    Trail prepared.request (heads own) := by
  cases h with
  | unready readied =>
      rw [heads_of_calls readied.calls_eq]
      exact .nil
  | rounds readied rounds =>
      obtain ⟨leads, writes⟩ := readied.leads auth made
      rw [heads_append, heads_of_calls readied.calls_eq, List.nil_append]
      exact rounds.trail hooks _ writes leads

theorem Legs.trail {chain : Sending} {response : Response} {stages : List Stage}
    {result : Except Error Answer} (hooks : ∀ hook ∈ c.requestHooks, WritesCookies hook)
    (h : c.Legs mode chain response own stages result) :
    ∀ head ∈ heads own, ∃ (q : Request) (rendered : Option String),
      q.headers.values .cookie = [] ∧ q.cookieFromJar = false ∧
      Trail (q.step (.jar rendered)) [head] := by
  have next {own own' : Changes} {chain next : Sending} {response : Response} {r : Redirected}
      {result : Except Error (Request × Response)}
      (received : chain.receive response = .ok (.redirected r))
      (proceeded : c.Proceeded mode r own (.ok next))
      (exchanged : c.Exchanged mode next.request own' result) :
      ∀ head ∈ heads (own ++ own'), ∃ (q : Request) (rendered : Option String),
        q.headers.values .cookie = [] ∧ q.cookieFromJar = false ∧
        Trail (q.step (.jar rendered)) [head] := by
    intro head there
    rw [heads_append, heads_of_calls proceeded.calls_eq, List.nil_append] at there
    generalize same : Except.ok next = moved at proceeded
    cases proceeded with
    | unread _ => cases same
    | @proceeded response' t _ =>
        obtain ⟨-, -, -, q, found, rfl⟩ := receive_redirected received
        obtain ⟨p, written, rfl⟩ := proceed_ok same.symm
        obtain ⟨url, b, -, -, bare⟩ := next_ok found
        have stepped : q.step (.jar (c.cookies t)) = p := by
          show (q.applyJarCookie (c.cookies t)).toOption.getD q = p
          rw [written]
          rfl
        refine ⟨q, c.cookies t, ?_, by rw [bare], ?_⟩
        · rw [bare, Headers.values_erase, if_pos rfl]
        · rw [stepped]
          rcases exchanged.trail hooks (.of_eq rfl) with
            ⟨hnone, -⟩ | ⟨q', head', treated, one, field, -⟩
          · rw [hnone] at there
            exact absurd there List.not_mem_nil
          · rw [one] at there
            cases List.mem_singleton.mp there
            exact .cons treated field .nil
  induction h with
  | done _ | refused _ => exact fun _ there => absurd there List.not_mem_nil
  | stuck _ proceeded =>
      rw [heads_of_calls proceeded.calls_eq]
      exact fun _ there => absurd there List.not_mem_nil
  | unanswered received proceeded exchanged => exact next received proceeded exchanged
  | leg received proceeded exchanged _ ih =>
      intro head there
      rw [← List.append_assoc, heads_append] at there
      rcases List.mem_append.mp there with here | later
      · exact next received proceeded exchanged head here
      · exact ih head later

/-! ## The whole call -/

/-- What is written into the cookies of a request stays there until it is set again if the jar has
not written them before, and only then.  This is so for every sequence of steps on a request that
begins without cookies of the jar; and in every call whose flow and hooks write cookies by setting
and appending fields, what transports get are the cookies behind such a sequence, in which the jar
is applied once for each exchange, and twice behind a redirect. -/
theorem cookies_until_set_again {rely : Session → Session → Prop} {s s' : Session} {r : Request}
    {options : Options} {prepared : Prepared} {result : Except Error Answer}
    (hooks : ∀ hook ∈ c.requestHooks, WritesCookies hook)
    (auth : ∀ auth, options.auth.or c.auth = some auth → auth.WritesCookies)
    (made : c.prepare r options = .ok prepared)
    (h : Goes rely (c.call mode r options) s own result s') :
    (∀ (q : Request) (before : List HeaderStep) (write : HeaderStep) (v : HeaderValue),
      q.cookieFromJar = false → (write.set? = some v ∨ write.appended? = some v) →
        q.Fate before write v) ∧
    ∃ opening legs, own = opening ++ legs ∧ Trail prepared.request (heads opening) ∧
      ∀ head ∈ heads legs, ∃ (q : Request) (rendered : Option String),
        q.headers.values .cookie = [] ∧ q.cookieFromJar = false ∧
        Trail (q.step (.jar rendered)) [head] := by
  refine ⟨fun q before write v fresh writes => Request.fate fresh before writes, ?_⟩
  obtain ⟨opening, legs, rounds, stages, rfl, course⟩ := goes_call h
  refine ⟨opening, legs, rfl, ?_⟩
  cases course with
  | unopened opened =>
      exact ⟨opened.trail hooks auth made, fun _ there => absurd there List.not_mem_nil⟩
  | opened opened behind => exact ⟨opened.trail hooks auth made, behind.trail hooks⟩

/-! ## A flow that writes behind the jar -/

section Sampled

open Sample

/-- A plan that answers a challenge by a cookie. -/
def insistence : Plan where
  start := fun _ r => ⟨r, none⟩
  rounds := [fun _ r response =>
    ⟨.ofExcept r (r.setHeader "Cookie" (Text.utf8 "mine=1")), response.status = .unauthorized⟩]

def insisting : Client := client [reply .unauthorized [] .empty, fine] (some (.plan insistence)) 9

def supplied : Session := { jar := Jar.empty.set "a" "1" }

/-- The cookie that the plan writes behind the first exchange is not sent with the second one. -/
theorem written_cookie_replaced :
    (∃ (q : Request) (before : List HeaderStep) (write : HeaderStep) (v : HeaderValue)
      (rendered : Option String), q.cookieFromJar = false ∧ write.set? = some v ∧
      v ∉ (q.after (before ++ [write, .jar rendered])).headers.values .cookie) ∧
    (heads (insisting.changes .blocking (request .get .empty) {} supplied)).map (·.cookies) =
      [[Text.utf8 "a=1"], [Text.utf8 "a=1"]] := by
  refine ⟨⟨request .get .empty, [.jar (some "a=1")], .set "Cookie" (Text.utf8 "mine=1"),
    ⟨Text.utf8 "mine=1", by decide⟩, some "a=1", rfl, by decide +kernel, by decide +kernel⟩,
    by decide +kernel⟩

theorem insistence_writes : (Auth.plan insistence).WritesCookies := by
  intro r
  constructor
  · intro j q leads q' made
    cases made
    exact leads
  · intro round there j q response leads q' made
    cases List.mem_singleton.mp there
    cases written : q.setHeader "Cookie" (Text.utf8 "mine=1") with
    | error e =>
        simp only [Edited.ofExcept, written] at made
        cases made
    | ok p =>
        simp only [Edited.ofExcept, written] at made
        cases made
        exact leads.trans (.of_setHeader written)

/-- The plan writes where the jar has written, and not behind a request that the jar left alone. -/
theorem cookies_until_set_again_of_insistence :
    (∃ opening legs,
      insisting.changes .blocking (request .get .empty) {} supplied = opening ++ legs ∧
      (heads (opening ++ legs)).length = 2 ∧ Trail (request .get .empty) (heads opening)) ∧
    ∃ v, (request .get .empty).Fate [.jar none] (.set "Cookie" (Text.utf8 "mine=1")) v ∧
      (request .get .empty).Fate [.jar (some "a=1")] (.set "Cookie" (Text.utf8 "mine=1")) v := by
  have goes : Goes Eq _ _ _ _ _ :=
    goes_send (fun _ => rfl) insisting .blocking (request .get .empty) {} supplied
  have auth : ∀ auth, ({} : Options).auth.or insisting.auth = some auth → auth.WritesCookies := by
    intro auth same
    cases same
    exact insistence_writes
  obtain ⟨fate, opening, legs, split, trail, -⟩ :=
    cookies_until_set_again (fun _ there => absurd there List.not_mem_nil) auth rfl goes
  refine ⟨⟨opening, legs, split, ?_, trail⟩, ⟨Text.utf8 "mine=1", by decide⟩, ?_, ?_⟩
  · rw [← split]
    decide +kernel
  · exact fate _ _ _ _ rfl (.inl (by decide +kernel))
  · exact fate _ _ _ _ rfl (.inl (by decide +kernel))

end Sampled

end Client

end HttpClient
