/-
# The cookies of a call

A request that a transport is given either carries the cookies that it was called with,
or those that the jar has to send at that moment; which of the two is known beforehand.
In the authentication rounds it is the former if the prepared request has a cookie field
of its own, and behind a redirect it is always the latter.

The jar, meanwhile, is what the call makes of it, if nobody else uses it: each response
is extracted into it, in order, at the time that the clock shows behind the exchange
(`jarBehind`).  That holds of any trace of changes that go on from each other
(`Activity.Goes.tracks`); how the changes of a call do is known from its steps.

The cookies are written when a request is made ready, and read off when it is handed
over, so a statement about exchanges is one about a change and the one before it
(`Hands`).  Statements of this form can be put together, and `Rounds` and `Legs` are.
-/
import HttpClient.Proofs.Auth.Signing
import HttpClient.Proofs.Call.Alone
import HttpClient.Proofs.Call.Arrivals
import HttpClient.Proofs.Message.Legible

namespace HttpClient

open Auth Redirect Call

/-! ## The cookies of a request -/

def RequestHead.cookies (head : RequestHead) : List Bytes :=
  (head.headers.values .cookie).map (·.bytes)

/-- The cookies that the request has from somebody else than the jar. -/
def Request.ownCookies (r : Request) : Option (List Bytes) :=
  if r.headers.contains .cookie && !r.cookieFromJar then some r.head.cookies else none

/-- The cookies that the jar sends where it renders as given. -/
def Jar.sent (rendered : Option String) : List Bytes := rendered.toList.map Text.utf8

namespace Request

/-- The jar writes its cookies where the request has none of its own, and it changes nothing about
that. -/
theorem applyJarCookie_cookies {r q : Request} {rendered : Option String}
    (h : r.applyJarCookie rendered = .ok q) :
    q.head.cookies = r.ownCookies.getD (Jar.sent rendered) ∧ q.ownCookies = r.ownCookies := by
  unfold applyJarCookie at h
  split at h
  · rename_i itsOwn
    cases h
    simp [ownCookies, itsOwn]
  · rename_i follows
    have hnone : r.ownCookies = none := if_neg follows
    rw [hnone]
    cases rendered with
    | none =>
        cases h
        simp [ownCookies, RequestHead.cookies, head, Headers.contains_iff_values,
          Headers.values_erase, Jar.sent]
    | some s =>
        cases written : HeaderValue.ofText s with
        | error e =>
            simp only [written] at h
            cases h
        | ok v =>
            simp only [written] at h
            cases h
            simp [ownCookies, RequestHead.cookies, head, Headers.values_set, Jar.sent,
              HeaderValue.ofText_bytes written]

theorem Signed.ownCookies {r q : Request} (h : r.Signed q) : q.ownCookies = r.ownCookies := by
  have same := h.fields .cookie (by decide)
  have there : q.headers.contains .cookie = r.headers.contains .cookie := by
    rw [Bool.eq_iff_iff, Headers.contains_iff_values, Headers.contains_iff_values, same]
  simp only [Request.ownCookies, RequestHead.cookies, head, there, h.mark, same]

theorem ownCookies_next {previous q : Request} {response : Response} {lenient : Bool}
    (h : next previous response lenient = .ok q) : q.ownCookies = none := by
  obtain ⟨url, b, -, -, rfl⟩ := next_ok h
  simp [ownCookies, Headers.contains_iff_values, Headers.values_erase]

end Request

/-! ## Exchanges in a trace -/

/-- The head of the request that a transport was given. -/
def Event.head? : Event → Option RequestHead
  | .exchange _ head _ _ | .unreadable _ head _ => some head
  | _ => none

namespace Call

def heads (own : Changes) : List RequestHead := (events own).filterMap Event.head?

theorem heads_of_calls {own : Changes} (h : calls own = 0) : heads own = [] := by
  unfold calls at h
  unfold heads
  rw [List.filterMap_eq_nil_iff]
  intro event there
  have quiet := List.countP_eq_zero.mp h event there
  cases event with
  | exchange | unreadable => exact absurd rfl quiet
  | _ => rfl

theorem heads_append (own own' : Changes) : heads (own ++ own') = heads own ++ heads own' := by
  unfold heads
  rw [events_append, List.filterMap_append]

/-- Each change that hands a request to a transport stands behind one in which the request was made
ready, and the two go together. -/
def Hands (P : Session → RequestHead → Prop) (own : Changes) : Prop :=
  ∀ before change behind, own = before ++ change :: behind → ∀ head ∈ heads [change],
    ∃ ready : Session × Session, before.getLast? = some ready ∧ calls [ready] = 0 ∧ P ready.1 head

variable {P : Session → RequestHead → Prop} {own own' : Changes}

theorem hands_of_calls (h : calls own = 0) : Hands P own := by
  rintro before change behind rfl head there
  have hnil : heads [change] = [] := by
    rw [calls_append, ← List.singleton_append, calls_append] at h
    exact heads_of_calls (by omega)
  rw [hnil] at there
  exact absurd there List.not_mem_nil

theorem hands_append (h : Hands P own) (h' : Hands P own') : Hands P (own ++ own') := by
  have second (before : Changes) {change : Session × Session} {behind : Changes}
      (split : own' = before ++ change :: behind) :
      ∀ head ∈ heads [change], ∃ ready : Session × Session,
        (own ++ before).getLast? = some ready ∧ calls [ready] = 0 ∧ P ready.1 head := by
    intro head there
    obtain ⟨ready, last, holds⟩ := h' before change behind split head there
    exact ⟨ready, by rw [List.getLast?_append, last, Option.some_or], holds⟩
  intro before change behind split
  rcases List.append_eq_append_iff.mp split with ⟨between, rfl, later⟩ | ⟨rest, rfl, earlier⟩
  · exact second between later
  · cases rest with
    | nil => simpa only [List.append_nil] using second [] earlier.symm
    | cons first rest =>
        obtain ⟨rfl, -⟩ := List.cons_eq_cons.mp earlier
        exact h before change rest rfl

theorem hands_pair {ready change : Session × Session} (quiet : calls [ready] = 0)
    (holds : ∀ head ∈ heads [change], P ready.1 head) : Hands P [ready, change] := by
  intro before other behind split head there
  cases before with
  | nil =>
      obtain ⟨rfl, -⟩ := List.cons_eq_cons.mp split
      rw [heads_of_calls quiet] at there
      exact absurd there List.not_mem_nil
  | cons first before =>
      obtain ⟨rfl, rest⟩ := List.cons_eq_cons.mp split
      cases before with
      | nil =>
          obtain ⟨rfl, -⟩ := List.cons_eq_cons.mp rest
          exact ⟨ready, rfl, quiet, holds head there⟩
      | cons second before => simp at rest

end Call

namespace Client

variable {c : Client} {mode : Mode} {own : Changes} {rely : Session → Session → Prop}
  {s s' : Session}

/-! ## The jar -/

/-- What a change makes of a jar: the cookies of the responses that were received in it are
extracted. -/
def jarAfter (c : Client) (jar : Jar) (change : Session × Session) : Jar :=
  (Call.sent [change]).foldl (fun jar q =>
    match q.result with
    | .ok response => jar.extract response.headers (c.clock change.2.journal)
    | .error _ => jar) jar

def jarBehind (c : Client) (jar : Jar) (own : Changes) : Jar := own.foldl c.jarAfter jar

theorem jarAfter_of_calls {change : Session × Session} (jar : Jar) (h : calls [change] = 0) :
    c.jarAfter jar change = jar := by
  unfold jarAfter
  rw [sent_of_calls h]
  rfl

theorem handOver_jar (quiet : c.responseHooks = []) (transport : Transport) (r : Request)
    (s : Session) :
    (c.handOver mode transport r s).2.jar =
      c.jarAfter s.jar (s, (c.handOver mode transport r s).2) := by
  obtain ⟨noted, -⟩ := handOver_quiet quiet mode transport r s
  unfold jarAfter Call.sent
  rw [events_single, noted]
  rcases handle_given mode transport s.journal r with
    ⟨e, unread, failed, -⟩ | ⟨q, left, got, answered, -, -, -⟩
  · rw [List.filterMap_cons_none unread]
    simp [handOver, failed]
  · rw [List.filterMap_cons_some got]
    cases result : q.result with
    | error e =>
        rw [result] at answered
        simp [handOver, answered, result]
    | ok response =>
        rw [result] at answered
        simp [handOver, answered, result, afterReceive, quiet, showResponse, showTo]

/-- Whatever a step of a call does, the jar takes in the responses that the step received. -/
theorem steps_jar (quiet : c.responseHooks = []) :
    c.Steps mode fun t t' => t'.jar = c.jarAfter t.jar (t, t') where
  ready r s := by
    have same : c.beforeSend r s = ((c.beforeSend r s).1, (c.beforeSend r s).2) := rfl
    rw [beforeSend_jar, jarAfter_of_calls]
    exact calls_beforeSend same
  handed transport r s := handOver_jar quiet transport r s
  started flow r s := (jarAfter_of_calls _ (calls_noted (List.append_nil _).symm (by simp))).symm
  resumed flow r response s := (jarAfter_of_calls _ (calls_noted_flow rfl)).symm
  stayed s := (jarAfter_of_calls _ (calls_noted (List.append_nil _).symm (by simp))).symm

theorem jar_of_ready {jar : Jar} (jars : ∀ before change behind, own = before ++ change :: behind →
      change.1.jar = c.jarBehind jar before)
    {before behind : Changes} {change ready : Session × Session}
    (split : own = before ++ change :: behind) (last : before.getLast? = some ready)
    (unsent : calls [ready] = 0) : ready.1.jar = c.jarBehind jar before := by
  obtain ⟨earlier, rfl⟩ := List.getLast?_eq_some_iff.mp last
  rw [List.append_assoc, List.singleton_append] at split
  rw [jars earlier ready _ split]
  show _ = (earlier ++ [ready]).foldl c.jarAfter jar
  rw [List.foldl_append, List.foldl_cons, List.foldl_nil, jarAfter_of_calls _ unsent]
  rfl

/-! ## The cookies of an exchange -/

/-- The request that is handed over has these cookies or, without these, those of the jar. -/
def Carry (c : Client) (given : Option (List Bytes)) (s : Session) (head : RequestHead) : Prop :=
  head.cookies = given.getD (Jar.sent (c.cookies s))

theorem Transport.handle_head? (transport : Transport) (mode : Mode) (j : Journal) (r : Request) :
    (transport.handle mode j r).event.head? = some r.head := by
  unfold Transport.handle
  split
  · split
    · rfl
    · rfl
  · rfl

theorem heads_handOver (c : Client) (mode : Mode) (transport : Transport) (r : Request)
    (u : Session) : heads [(u, (c.handOver mode transport r u).2)] = [r.head] := by
  obtain ⟨noted, same, quiet⟩ := handOver_journal c mode transport r u
  unfold heads
  rw [events_single, written_of_append same,
    List.filterMap_cons_some (Transport.handle_head? transport mode u.journal r)]
  refine congrArg (r.head :: ·) (List.filterMap_eq_nil_iff.mpr fun event there => ?_)
  have hnone := quiet event there
  cases event with
  | exchange | unreadable => cases hnone
  | _ => rfl

theorem Exchanged.carry {r : Request} {result : Except Error (Request × Response)}
    (silent : c.requestHooks = [])
    (h : c.Exchanged mode r own result) :
    Hands (c.Carry r.ownCookies) own ∧
      ∀ p response, result = .ok (p, response) → p.ownCookies = r.ownCookies := by
  cases h with
  | refused failed =>
      exact ⟨hands_of_calls (calls_beforeSend failed), fun _ _ same => by cases same⟩
  | @handed t t' u transport p ready =>
      obtain ⟨-, -, unseen, written, shown⟩ := beforeSend_ok ready
      rw [silent] at shown
      cases shown
      obtain ⟨cookies, same⟩ := Request.applyJarCookie_cookies written
      constructor
      · refine hands_pair (calls_beforeSend ready) ?_
        intro head there
        rw [heads_handOver] at there
        cases List.mem_singleton.mp there
        exact cookies
      · intro p' response ended
        obtain ⟨left, rfl⟩ := handOver_left ended
        exact same

/-! ## The two phases -/

theorem Rounded.carry {flow : Flow} {r : Request} {result : Except Error (Resumed × Response)}
    (silent : c.requestHooks = []) (signs : flow.Signs)
    (h : c.Rounded mode flow r own result) :
    Hands (c.Carry r.ownCookies) own ∧
      ∀ resumed response, result = .ok (resumed, response) →
        resumed.request.ownCookies = r.ownCookies ∧ resumed.flow.Signs := by
  constructor
  · cases h with
    | unanswered exchanged | unread exchanged _ => exact (exchanged.carry silent).1
    | resumed exchanged _ journal _ =>
        exact hands_append (exchanged.carry silent).1
          (hands_of_calls (calls_noted_flow journal))
  · rintro resumed response rfl
    obtain ⟨_, p, received, t, _, _, -, exchanged, -, -, rfl, -⟩ := h.ok
    obtain ⟨signed, onward⟩ := Flow.resume_signs signs t.journal p response t.digests
    exact ⟨signed.ownCookies.trans ((exchanged.carry silent).2 p received rfl), onward⟩

theorem Rounds.carry {flow : Flow} {r : Request} {history : List Response}
    {rounds : List (Resumed × Response)} {result : Except Error Authenticated}
    (silent : c.requestHooks = []) (signs : flow.Signs)
    (h : c.Rounds mode flow r history own rounds result) : Hands (c.Carry r.ownCookies) own := by
  induction h with
  | failed rounded | last rounded _ | unread rounded _ _ =>
      exact (rounded.carry silent signs).1
  | again rounded _ _ _ ih =>
      obtain ⟨hands, next⟩ := rounded.carry silent signs
      obtain ⟨same, onward⟩ := next _ _ rfl
      rw [same] at ih
      exact hands_append hands (ih onward)

/-- What the rounds begin with is the prepared request with another body, perhaps, and signed. -/
theorem Readied.signed {r : Request} {options : Options} {ready : Prepared}
    (builtIn : ∀ auth, options.auth.or c.auth = some auth → auth.isBuiltIn = true)
    (h : c.Readied mode r options own (.ok ready)) :
    ∃ (prepared : Prepared) (body : Body), c.prepare r options = .ok prepared ∧
      ready.flow.Signs ∧ { prepared.request with body }.Signed ready.request := by
  obtain ⟨prepared, buffered, t, made, whole, started, flow, -⟩ := h.ok
  obtain ⟨-, ⟨login, chosen⟩, -⟩ := prepare_ok made
  have signs : prepared.flow.Signs := by
    rw [chosen, ← Option.or_assoc]
    refine Flow.ofAuth_signs fun auth same => ?_
    rcases Option.or_eq_some_iff.mp same with known | ⟨-, ofUrl⟩
    · exact builtIn auth known
    · obtain ⟨_, -, rfl⟩ := Option.map_eq_some_iff.mp ofUrl
      rfl
  have signed := Flow.start_signs signs started
  refine ⟨prepared, buffered.body, made, flow ▸ signs, ?_⟩
  split at whole
  · cases read : (prepared.request.body.readAll mode).1 with
    | error e =>
        rw [read] at whole
        cases whole
    | ok bytes =>
        rw [read] at whole
        cases whole
        exact signed
  · cases whole
    exact signed

/-- The rounds send the cookies of the prepared request, if it has any of its own. -/
theorem Opening.carry {r : Request} {options : Options} {prepared : Prepared}
    {rounds : List (Resumed × Response)} {result : Except Error (Authenticated × Bool)}
    (silent : c.requestHooks = [])
    (builtIn : ∀ auth, options.auth.or c.auth = some auth → auth.isBuiltIn = true)
    (made : c.prepare r options = .ok prepared) (h : c.Opening mode r options own rounds result) :
    Hands (c.Carry prepared.request.ownCookies) own := by
  cases h with
  | unready readied => exact hands_of_calls readied.calls_eq
  | @rounds _ _ ready _ _ readied rounds =>
      obtain ⟨prepared', body, made', signs, signed⟩ := readied.signed builtIn
      rw [made] at made'
      cases made'
      have same : ready.request.ownCookies = prepared.request.ownCookies := signed.ownCookies
      rw [← same]
      exact hands_append (hands_of_calls readied.calls_eq) (rounds.carry silent signs)

theorem Legs.carry {chain : Sending} {response : Response} {stages : List Stage}
    {result : Except Error Answer} (silent : c.requestHooks = [])
    (h : c.Legs mode chain response own stages result) : Hands (c.Carry none) own := by
  have next {own own' : Changes} {chain next : Sending} {response : Response} {r : Redirected}
      {result : Except Error (Request × Response)}
      (received : chain.receive response = .ok (.redirected r))
      (proceeded : c.Proceeded mode r own (.ok next))
      (exchanged : c.Exchanged mode next.request own' result) :
      Hands (c.Carry none) (own ++ own') := by
    have hnone : next.request.ownCookies = none := by
      generalize same : Except.ok next = moved at proceeded
      cases proceeded with
      | unread _ => cases same
      | proceeded _ =>
          obtain ⟨-, -, -, q, found, rfl⟩ := receive_redirected received
          obtain ⟨p, written, rfl⟩ := proceed_ok same.symm
          exact (Request.applyJarCookie_cookies written).2.trans (Request.ownCookies_next found)
    refine hands_append (hands_of_calls proceeded.calls_eq) ?_
    rw [← hnone]
    exact (exchanged.carry silent).1
  induction h with
  | done _ | refused _ => exact hands_of_calls rfl
  | stuck _ proceeded => exact hands_of_calls proceeded.calls_eq
  | unanswered received proceeded exchanged => exact next received proceeded exchanged
  | leg received proceeded exchanged _ ih =>
      rw [← List.append_assoc]
      exact hands_append (next received proceeded exchanged) ih

/-! ## The whole call -/

theorem Course.carry {r : Request} {options : Options} {prepared : Prepared} {own' : Changes}
    {rounds : List (Resumed × Response)} {stages : List Stage} {result : Except Error Answer}
    (silent : c.requestHooks = [])
    (builtIn : ∀ auth, options.auth.or c.auth = some auth → auth.isBuiltIn = true)
    (made : c.prepare r options = .ok prepared)
    (h : c.Course mode r options own own' rounds stages result) :
    Hands (c.Carry prepared.request.ownCookies) own ∧ Hands (c.Carry none) own' := by
  cases h with
  | unopened opened => exact ⟨opened.carry silent builtIn made, hands_of_calls rfl⟩
  | opened opened behind =>
      exact ⟨opened.carry silent builtIn made, behind.carry silent⟩

/-- The cookies of every exchange of a call without hooks that authenticates in one of the ways that
are built in, if nobody else uses the jar meanwhile.

The changes of the call are those of its authentication and those of its redirects.  In the former
a transport sees the cookies of the prepared request, if this has a cookie field that was not
written from a jar; in all other cases it sees what the jar has to send at the time that the clock
shows when the request is made ready, as one value or as none.  The jar is by then the one that the
call began with, with the cookies of all responses before extracted in order. -/
theorem cookies_on_every_exchange {r : Request} {options : Options} {prepared : Prepared}
    {result : Except Error Answer} (silent : c.requestHooks = []) (quiet : c.responseHooks = [])
    (builtIn : ∀ auth, options.auth.or c.auth = some auth → auth.isBuiltIn = true)
    (undisturbed : ∀ s t, rely s t → t.jar = s.jar) (made : c.prepare r options = .ok prepared)
    (h : Goes rely (c.call mode r options) s own result s') :
    ∃ opening legs rounds stages, own = opening ++ legs ∧
      c.Course mode r options opening legs rounds stages result ∧
      (∀ before change behind, opening = before ++ change :: behind → ∀ head ∈ heads [change],
        ∃ ready : Session × Session, before.getLast? = some ready ∧
          head.cookies = prepared.request.ownCookies.getD
            (Jar.sent ((c.jarBehind s.jar before).render (c.clock ready.1.journal)))) ∧
      (∀ before change behind, legs = before ++ change :: behind → ∀ head ∈ heads [change],
        ∃ ready : Session × Session, before.getLast? = some ready ∧
          head.cookies =
            Jar.sent ((c.jarBehind s.jar (opening ++ before)).render (c.clock ready.1.journal))) ∧
      s'.jar = c.jarBehind s.jar own := by
  have steps : c.Steps mode _ := steps_jar quiet
  obtain ⟨jars, last⟩ := Activity.Goes.tracks undisturbed h (steps.call h)
  obtain ⟨opening, legs, rounds, stages, rfl, course⟩ := goes_call h
  obtain ⟨first, second⟩ := course.carry silent builtIn made
  refine ⟨opening, legs, rounds, stages, rfl, course, ?_, ?_, last⟩
  · rintro before change behind rfl head there
    obtain ⟨ready, last, unsent, carried⟩ := first before change behind rfl head there
    rw [← jar_of_ready jars (List.append_assoc _ _ _) last unsent]
    exact ⟨ready, last, carried⟩
  · rintro before change behind rfl head there
    obtain ⟨ready, last, unsent, carried⟩ := second before change behind rfl head there
    have behindOpening : (opening ++ before).getLast? = some ready := by
      rw [List.getLast?_append, last, Option.some_or]
    rw [← jar_of_ready jars (List.append_assoc _ _ _).symm behindOpening unsent]
    exact ⟨ready, last, carried⟩

/-! ## Cookies of the caller, and cookies of the jar -/

section Sampled

open Sample

/-- A server that sets a cookie, leads elsewhere, and takes the cookie back there. -/
def forgetful : Client :=
  client
    [reply found [(.location, "/b"), (.setCookie, "seen=1"), (.setCookie, "kind=x")] .empty,
      reply found [(.location, "/c"), (.setCookie, "seen=; Max-Age=0")] .empty,
      fine]
    (some (.basic ⟨"ann", "secret"⟩)) 9

/-- A request with a cookie of its own. -/
def introduced : Request :=
  { request .get .empty with
    headers := ⟨((HeaderValue.ofText "mine=2").toOption.toList.map (HeaderName.cookie, ·))⟩ }

/-- The first exchange has the cookie of the request; behind it there are only those of the jar. -/
theorem cookies_of_introduced :
    ∃ opening legs,
      forgetful.changes .blocking introduced {} {} = opening ++ legs ∧
      (heads (opening ++ legs)).map (·.cookies) =
        [[Text.utf8 "mine=2"], [Text.utf8 "kind=x; seen=1"], [Text.utf8 "kind=x"]] ∧
      (∀ before change behind, legs = before ++ change :: behind → ∀ head ∈ heads [change],
        head.cookies = Jar.sent ((forgetful.jarBehind .empty (opening ++ before)).render .epoch)) ∧
      (forgetful.send .blocking introduced {} {}).2.jar =
        forgetful.jarBehind .empty (opening ++ legs) := by
  have seen : (heads (forgetful.changes .blocking introduced {} {})).map (·.cookies) =
      [[Text.utf8 "mine=2"], [Text.utf8 "kind=x; seen=1"], [Text.utf8 "kind=x"]] := by
    decide +kernel
  have goes : Goes Eq _ _ _ _ _ := goes_send (fun _ => rfl) forgetful .blocking introduced {} {}
  have builtIn : ∀ auth, ({} : Options).auth.or forgetful.auth = some auth →
      auth.isBuiltIn = true := by
    intro auth same
    cases same
    rfl
  obtain ⟨opening, legs, -, -, split, -, -, behind, jar⟩ :=
    cookies_on_every_exchange rfl rfl builtIn (fun _ _ same => by rw [same]) rfl goes
  rw [split] at seen jar
  refine ⟨opening, legs, split, seen, ?_, jar⟩
  intro before change rest parts head there
  obtain ⟨ready, -, cookies⟩ := behind before change rest parts head there
  exact cookies

end Sampled

end Client

end HttpClient
