/-
# The limit of redirects

The chain of a call begins with the history that the authentication rounds have left,
say with `a` responses, and no redirect is followed once the history holds `m`.  So
there are at most `m - a` exchanges behind the rounds, whatever the servers answer,
and none at all if the rounds have used up the room.

A call that fails because there was one redirect too many says how many responses
came before the one that was refused.  That is `max a m`: the room is used up, or it
never was there.  Parties outside of the client may report any failure, also this
one with other numbers, and then it is passed on as it is.  `Reported` says so of one
exchange, by the ways that it can fail: the last exchange of the call had no answer,
and it is the transport, hook or connector of that exchange which failed.
-/
import HttpClient.Proofs.Call.Count
import HttpClient.Proofs.Call.FirstFailure

namespace HttpClient

open Auth Redirect Call

/-- The failure says that there was one redirect too many. -/
def Error.isLimit : Error → Bool
  | .tooManyRedirects _ _ => true
  | _ => false

/-! ## Failures that are never of this kind -/

theorem Producer.bytesOf_error {items : List ProducerItem} {e : Error}
    (h : bytesOf items = .error e) : e.isLimit = false := by
  induction items with
  | nil => cases h
  | cons item rest ih =>
      cases item with
      | chunk bytes =>
          cases more : bytesOf rest with
          | ok bytes' => simp [bytesOf, more, Except.map] at h
          | error e' =>
              simp only [bytesOf, more, Except.map] at h
              cases h
              exact ih more
      | failure detail =>
          cases h
          rfl
      | pause => exact ih h

theorem Producer.readAll_error {p : Producer} {e : Error} (h : p.readAll.1 = .error e) :
    e.isLimit = false := by
  cases p with
  | drained =>
      cases h
      rfl
  | live items => exact bytesOf_error h

theorem Body.readAll_error {b : Body} {mode : Mode} {e : Error}
    (h : (b.readAll mode).1 = .error e) : e.isLimit = false := by
  cases b with
  | empty => cases h
  | full bytes => cases h
  | stream p => exact Producer.readAll_error h
  | asyncStream p =>
      cases mode with
      | blocking =>
          cases h
          rfl
      | async => exact Producer.readAll_error h

theorem Response.inMemory_error {r : Response} {mode : Mode} {e : Error}
    (h : r.inMemory mode = .error e) : (r.body.readAll mode).1 = .error e := by
  unfold inMemory read at h
  cases found : r.body.readAll mode with
  | mk bytes left =>
      cases bytes with
      | ok bytes => simp [found, Except.map] at h
      | error e' =>
          simp only [found, Except.map] at h
          cases h
          rfl

theorem Request.applyJarCookie_error {r : Request} {rendered : Option String} {e : Error}
    (h : r.applyJarCookie rendered = .error e) : e.isLimit = false := by
  unfold applyJarCookie at h
  split at h
  · cases h
  · split at h
    · rename_i s
      cases written : HeaderValue.ofText s with
      | ok v =>
          rw [written] at h
          cases h
      | error e' =>
          rw [written] at h
          cases h
          unfold HeaderValue.ofText HeaderValue.parse at written
          cases found : HeaderValue.ofBytes? (Text.utf8 s) with
          | some v => simp [found] at written
          | none =>
              simp only [found, Option.elim_none] at written
              cases written
              rfl
    · cases h

theorem Redirect.next_error {previous : Request} {response : Response} {lenient : Bool} {e : Error}
    (h : next previous response lenient = .error e) : e.isLimit = false := by
  cases found : target previous.url response with
  | error e' =>
      simp only [next, found, bind, Except.bind] at h
      cases h
      unfold target at found
      split at found
      · cases found
        rfl
      · split at found
        · rename_i unresolved
          cases found
          unfold resolve complete at unresolved
          grind [Error.isLimit]
        · split at found
          · cases found
          · cases found
            rfl
  | ok url =>
      cases taken : body previous response.status lenient with
      | ok b =>
          simp only [next, found, taken, bind, Except.bind] at h
          cases h
      | error e' =>
          simp only [next, found, taken, bind, Except.bind] at h
          cases h
          unfold body Body.forResend at taken
          grind [Error.isLimit]

/-! ## Failures that come from outside -/

theorem Connections.through_error {T : Type} {c c' : Connections T} {connector : Connector T}
    {p : Proxy} {e : Error} (h : c.through connector p = (.error e, c')) :
    c.find? p.key = none ∧ connector c.calls p = .error e ∧ c'.calls = c.calls ++ [p] := by
  unfold through at h
  split at h
  · cases h
  · rename_i missing
    split at h
    · rename_i made
      cases h
      obtain ⟨failed, rfl⟩ := Prod.mk.inj made
      exact ⟨missing, failed, rfl⟩
    · cases h

/-- The way to a transport fails at the proxy's url, or because the connector is given the proxy
and fails. -/
theorem Router.route_error {T : Type} {r : Router T} {u : Url} {c c' : Connections T} {e : Error}
    (h : r.route u c = (.error e, c')) :
    e.isLimit = false ∨ ∃ p, r.Connects c p (.error e) ∧ c'.calls = c.calls ++ [p] := by
  unfold route at h
  split at h
  · cases h
  · split at h
    · split at h
      · rename_i unknown
        cases h
        left
        unfold Environment.proxy Proxy.parse at unknown
        grind [Error.isLimit, Except.map]
      · cases h
      · rename_i p _
        split at h
        · cases h
        · rename_i connector connected
          obtain ⟨missing, failed, asked⟩ := Connections.through_error h
          exact .inr ⟨p, ⟨missing, connector, connected, failed⟩, asked⟩
    · cases h

namespace Client

variable {c : Client} {mode : Mode} {own : Changes} {e : Error}

/-- The failure of an exchange came from outside of the client: from the transport that received
its request, from a hook that was shown its request or its response, or from the connector that was
asked for its transport. -/
inductive Reported (c : Client) (mode : Mode) (r : Request) : Changes → Error → Prop
  | transport {failing : Changes} {q : Sent} {e : Error} :
      c.ExchangeFails mode r failing .transport e → sent failing = [q] → q.result = .error e →
      Reported c mode r failing e
  | requestHook {failing : Changes} {e : Error} :
      c.ExchangeFails mode r failing .requestHook e → Reported c mode r failing e
  | responseHook {failing : Changes} {e : Error} :
      c.ExchangeFails mode r failing .responseHook e → Reported c mode r failing e
  | connector {t t' : Session} {p : Proxy} {e : Error} :
      c.ExchangeFails mode r [(t, t')] .routing e → c.router.Connects t.connections p (.error e) →
      t'.connections.calls = t.connections.calls ++ [p] → Reported c mode r [(t, t')] e

/-- An exchange only fails because of one redirect too many if somebody outside reported that. -/
theorem ExchangeFails.reported {r : Request} {failing : Changes} {exit : Exit}
    (limit : e.isLimit = true) (h : c.ExchangeFails mode r failing exit e) :
    c.Reported mode r failing e := by
  have whole := h
  cases h with
  | consumed used => cases limit
  | routing unused routed =>
      rcases Router.route_error routed with other | ⟨p, connects, asked⟩
      · rw [other] at limit
        cases limit
      · exact .connector whole connects asked
  | cookies unused routed refused =>
      rw [Request.applyJarCookie_error refused] at limit
      cases limit
  | requestHook => exact .requestHook whole
  | @transport t t' u transport p e ready failed =>
      rcases handle_given mode transport u.journal p with
        ⟨e', -, unread, broken⟩ | ⟨q, left, got, result, -⟩
      · rw [failed] at unread
        cases unread
        rw [Body.readAll_error broken] at limit
        cases limit
      · refine .transport (q := q) whole ?_ (by rw [← result, failed])
        rw [← List.singleton_append, sent_append, sent_of_calls (calls_beforeSend ready)]
        unfold sent
        rw [events_single, written_of_append rfl, List.filterMap_cons_some got]
        rfl
  | responseHook => exact .responseHook whole

theorem Proceeded.limit {r : Redirected} (h : c.Proceeded mode r own (.error e)) :
    e.isLimit = false := by
  generalize same : Except.error e = result at h
  cases h with
  | unread unread =>
      cases same
      exact Body.readAll_error (Response.inMemory_error unread)
  | @proceeded response t _ =>
      unfold Redirected.proceed at same
      cases written : r.next.applyJarCookie (c.cookies t) with
      | error e' =>
          rw [written] at same
          cases same
          exact Request.applyJarCookie_error written
      | ok q =>
          rw [written] at same
          cases same

end Client

namespace Redirect

/-- A chain refuses a redirect when its history is full, and reports how long it is. -/
theorem receive_limit {chain : Sending} {response : Response} {e : Error}
    (h : chain.receive response = .error e) (limit : e.isLimit = true) :
    response.isRedirect = true ∧ chain.maxRedirects ≤ chain.history.length ∧
      e = .tooManyRedirects response.url chain.history.length := by
  have unmade {lenient : Bool} {g : Request → Received}
      (h : (next chain.request response lenient).map g = .error e) : False := by
    cases made : next chain.request response lenient with
    | ok q =>
        rw [made] at h
        cases h
    | error e' =>
        rw [made] at h
        cases h
        rw [next_error made] at limit
        cases limit
  unfold Sending.receive at h
  split at h
  · cases h
  · rename_i redirects
    split at h
    · exact (unmade h).elim
    · split at h
      · rename_i full
        cases h
        exact ⟨by simpa using redirects, full, rfl⟩
      · exact (unmade h).elim

end Redirect

namespace Client

variable {c : Client} {mode : Mode} {own : Changes}

/-- Where the legs of a call end with one redirect too many: at a response that is refused, or in
an exchange without an answer. -/
theorem Legs.limit {chain : Sending} {response : Response} {stages : List Stage} {url : Url}
    {n : Nat} (h : c.Legs mode chain response own stages (.error (.tooManyRedirects url n))) :
    (n = max chain.history.length chain.maxRedirects ∧ n = chain.history.length + calls own ∧
      ∃ (full : Sending) (refused : Response), stages.getLast? = some ⟨full, refused⟩ ∧
        refused.isRedirect = true ∧ url = refused.url) ∨
    ∃ (before failing : Changes) (next : Sending), own = before ++ failing ∧
      stages.getLast? = some ⟨next, none⟩ ∧
      c.Reported mode next.request failing (.tooManyRedirects url n) := by
  generalize ended : Except.error (Error.tooManyRedirects url n) = result at h
  induction h with
  | done _ => cases ended
  | @refused chain response e received =>
      cases ended
      obtain ⟨redirects, full, same⟩ := receive_limit received rfl
      cases same
      exact .inl ⟨(Nat.max_eq_left full).symm, rfl, chain, response, rfl, redirects, rfl⟩
  | stuck _ proceeded =>
      cases ended
      have other := proceeded.limit
      cases other
  | unanswered _ _ exchanged =>
      cases ended
      obtain ⟨exit, fails⟩ := exchanged.fails
      exact .inr ⟨_, _, _, rfl, rfl, fails.reported rfl⟩
  | @leg _ _ _ _ _ _ own₁ own₂ _ _ _ received proceeded exchanged legs ih =>
      have hop := proceeded.hop received
      have room := hop.room
      rcases ih ended with ⟨length, count, full, refused, last, redirects, same⟩ |
        ⟨before, failing, next, rfl, last, reported⟩
      · simp only [hop.length, hop.bound] at length count
        refine .inl ⟨by omega, ?_, full, refused, ?_, redirects, same⟩
        · rw [calls_append, calls_append, proceeded.calls_eq, exchanged.calls_le.2 _ rfl]
          omega
        · rw [List.getLast?_cons, last]
          rfl
      · refine .inr ⟨own₁ ++ (own₂ ++ before), failing, next, by simp, ?_, reported⟩
        rw [List.getLast?_cons, last]
        rfl

/-- A call whose authentication has ended behind `a` responses follows redirects within the limit
`m`.  It makes at most `m - a` further exchanges; at each stage the history holds `a` responses and
one for each redirect followed; the history of an answer is no longer than `max a m`.  If the call
fails because there was one redirect too many, then its last exchange had no answer and somebody
outside reported this failure in it, or the response of the last stage is the redirect that was
refused, `max a m` responses came before it, and the whole call made one exchange more. -/
theorem redirects_within_limit {rely : Session → Session → Prop} {s s' : Session} {r : Request}
    {options : Options} {result : Except Error Answer}
    (h : Goes rely (c.call mode r options) s own result s')
    (follows : options.followRedirects.getD c.followRedirects = true) :
    (∃ rounds e, c.Opening mode r options own rounds (.error e) ∧ result = .error e) ∨
    ∃ opening legs rounds last stages, own = opening ++ legs ∧
      c.Opening mode r options opening rounds (.ok (last, true)) ∧
      c.Legs mode (c.chain last true) last.response legs stages result ∧
      calls opening = last.history.length + 1 ∧
      calls legs ≤ c.maxRedirects - last.history.length ∧
      (∀ (i : Nat) (stage : Stage), stages[i]? = some stage →
        stage.chain.redirects = i ∧ stage.chain.history.length = last.history.length + i) ∧
      (∀ answer, result = .ok answer →
        answer.history.length ≤ max last.history.length c.maxRedirects) ∧
      ∀ url n, result = .error (.tooManyRedirects url n) →
        (∃ (before failing : Changes) (next : Sending), legs = before ++ failing ∧
          stages.getLast? = some ⟨next, none⟩ ∧
          c.Reported mode next.request failing (.tooManyRedirects url n)) ∨
        (n = max last.history.length c.maxRedirects ∧
          (∃ (full : Sending) (refused : Response), stages.getLast? = some ⟨full, refused⟩ ∧
            refused.isRedirect = true ∧ url = refused.url) ∧
          calls own = max last.history.length c.maxRedirects + 1) := by
  obtain ⟨opening, legs, rounds, stages, rfl, course⟩ := goes_call h
  cases course with
  | unopened opened =>
      left
      rw [List.append_nil]
      exact ⟨rounds, _, opened, rfl⟩
  | opened opened behind =>
      rename_i last follow
      obtain ⟨count, same⟩ := opened.calls_eq
      rw [follows] at same
      subst same
      have atMost := behind.calls_le
      refine .inr ⟨opening, legs, rounds, last, stages, rfl, opened, behind, count, atMost,
        ?_, ?_, ?_⟩
      · intro i stage found
        obtain ⟨redirects, length⟩ := behind.stages i stage found
        exact ⟨redirects.trans (Nat.zero_add i), length⟩
      · intro answer ended
        subst ended
        have length := behind.answer
        simp only [chain] at length atMost
        omega
      · intro url n ended
        subst ended
        rcases behind.limit with ⟨length, exchanges, refused⟩ | reported
        · simp only [chain] at length exchanges
          refine .inr ⟨length, refused, ?_⟩
          rw [calls_append]
          omega
        · exact .inl reported

/-! ## One redirect too many -/

section Sampled

open Sample

/-- A server that redirects for ever, and a limit of one. -/
def circle : Client := client [moved "/b", moved "/a"] none 1

/-- The second redirect is refused: it was behind one response, in a call of two exchanges. -/
theorem redirects_within_limit_of_one :
    failure? circle (request .get .empty) = some (.tooManyRedirects (place "/b") 1) ∧
    ∃ opening legs rounds last,
      circle.changes .blocking (request .get .empty) {} {} = opening ++ legs ∧
      circle.Opening .blocking (request .get .empty) {} opening rounds (.ok (last, true)) ∧
      calls legs ≤ 1 - last.history.length ∧ 1 = max last.history.length 1 ∧
      calls (opening ++ legs) = 2 := by
  have refused : failure? circle (request .get .empty) =
      some (.tooManyRedirects (place "/b") 1) := by decide +kernel
  have twice : calls (circle.changes .blocking (request .get .empty) {} {}) = 2 := by
    decide +kernel
  have goes : Goes Eq _ _ _ _ _ :=
    goes_send (fun _ => rfl) circle .blocking (request .get .empty) {} {}
  rw [send_of_failure? refused] at goes
  refine ⟨refused, ?_⟩
  rcases redirects_within_limit goes rfl with
    ⟨_, e, opened, -⟩ | ⟨opening, legs, rounds, last, _, own, opened, -, -, atMost, -, -, limit⟩
  · have ready : circle.prepare (request .get .empty) {} =
        .ok ⟨request .get .empty, .none, true⟩ := rfl
    have once := opened.calls_le ready
    rw [twice] at once
    exact absurd once (by decide)
  · rcases limit _ _ rfl with ⟨before, failing, next, parts, -, reported⟩ | ⟨number, -, -⟩
    · have answered : (sent (opening ++ legs)).all (·.result.toOption.isSome) = true := by
        rw [← own]
        decide +kernel
      rw [parts, sent_append, sent_append, List.all_append, List.all_append, Bool.and_eq_true,
        Bool.and_eq_true] at answered
      cases reported with
      | transport _ received failed =>
          rw [received, List.all_cons, failed] at answered
          cases answered.2.2
      | requestHook fails =>
          cases fails with
          | requestHook _ _ _ _ there _ => cases there
      | responseHook fails =>
          cases fails with
          | responseHook _ _ _ there _ => cases there
      | connector _ connects _ =>
          obtain ⟨-, connector, connected, -⟩ := connects
          cases connected
    · exact ⟨opening, legs, rounds, last, own, opened, atMost, number, by rw [← own]; exact twice⟩

/-- A transport that reports this failure by itself. -/
def teller : Client := client [moved "/b", .fail (.tooManyRedirects (place "/else") 7)] none 1

/-- Nothing came before the redirect, since nobody authenticates, and yet the number that the call
reports is not that of the limit. -/
theorem limit_reported_by_transport :
    ¬ ∀ url n, (teller.send .blocking (request .get .empty) {} {}).1 =
        .error (.tooManyRedirects url n) → n = max 0 teller.maxRedirects := by
  intro always
  have told : failure? teller (request .get .empty) =
      some (.tooManyRedirects (place "/else") 7) := by decide +kernel
  have same := always _ _ (send_of_failure? told)
  revert same
  decide

end Sampled

end Client

end HttpClient
