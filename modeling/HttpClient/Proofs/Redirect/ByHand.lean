/-
# Following redirects by hand

A call that does not follow a redirect answers with the request that would come next.
Whoever sends that request, and the one that its answer names, and so on (`byHand`), does
what the call would have done.

Both ways make the next request from the request before it in the same manner.  They part
behind that: the chain writes the cookies and exchanges the request, while by hand the
request is made the subject of a new call.  Since the request is fit, that call sends it
as it is, and starts the redirects anew.

The induction goes over the redirects that the chain may still follow.  By hand there may
be one chain for each call or, behind the first, one for all that is left; what they have
in common with the chain that follows (`Abreast`) is the request, and that their histories
are no longer.

One difference remains.  The chain writes the cookies before it is known whether there is
a way to send the request, and a new call does so behind that; where both fail, the two
ways fail differently.
-/
import HttpClient.Proofs.Call.Alone
import HttpClient.Proofs.Redirect.Fit

namespace HttpClient

open Auth Redirect Call

namespace Client

variable {c : Client} {mode : Mode} {s t : Session}

/-! ## By hand -/

/-- Sends the request that an answer names, and the one that the answer to it names, and so on, so
many times at most. -/
def sendOn (c : Client) (mode : Mode) : Nat → Answer → Call Answer
  | 0, answer => return answer
  | n + 1, answer =>
    match answer.next with
    | none => return answer
    | some q => do c.sendOn mode n (← c.call mode q {})

/-- A call that follows no redirect, and behind it the calls that follow them by hand. -/
def byHand (c : Client) (mode : Mode) (n : Nat) (r : Request) : Call Answer := do
  c.sendOn mode n (← c.call mode r { followRedirects := some false })

/-- The calls that are left behind a response, the first of which has come to it. -/
def onward (c : Client) (mode : Mode) (left n : Nat) (chain : Sending) (response : Response) :
    Call Answer := do
  c.sendOn mode n (← c.follow mode left chain response)

theorem alone_sendOn_done {n : Nat} {answer : Answer} (hnone : answer.next = none) :
    alone (c.sendOn mode n answer) s = (.ok answer, s) := by
  cases n with
  | zero => rfl
  | succ n =>
      rw [sendOn, hnone]
      rfl

theorem alone_onward_error {left n : Nat} {chain : Sending} {response : Response} {e : Error}
    (h : alone (c.follow mode left chain response) s = (.error e, t)) :
    alone (c.onward mode left n chain response) s = (.error e, t) := by
  simp only [onward]
  rw [alone_bind, h]

theorem alone_onward_done {left n : Nat} {chain : Sending} {response : Response} {answer : Answer}
    (h : alone (c.follow mode left chain response) s = (.ok answer, t)) :
    alone (c.onward mode left n chain response) s = alone (c.sendOn mode n answer) t := by
  simp only [onward]
  rw [alone_bind, h]

/-- A fit request that is sent by hand is exchanged, and its redirects are those of a new chain. -/
theorem Fit.alone_sendOn {n : Nat} {q : Request} {response : Response} {history : List Response}
    (fit : c.Fit q) (unsigned : c.auth = none) :
    alone (c.sendOn mode (n + 1) ⟨response, history, some q⟩) s =
      match alone (c.exchange mode q) s with
      | (.error e, t) => (.error e, t)
      | (.ok (p, response'), t) =>
        alone (c.onward mode c.maxRedirects n (c.chain ⟨p, response', []⟩ c.followRedirects)
          response') t := by
  rw [sendOn]
  dsimp only
  rw [alone_bind, alone_call_none (fit.prepare unsigned) rfl]
  cases alone (c.exchange mode q) s with
  | mk result t =>
      cases result with
      | error e => rfl
      | ok answered =>
          obtain ⟨p, response'⟩ := answered
          simp only [onward]
          rw [alone_bind]

/-! ## The two ways together -/

/-- What a call that follows redirects comes to, and what it comes to by hand. -/
inductive Alike (c : Client) :
    Except Error Answer × Session → Except Error Answer × Session → Prop
  | answered {a b : Answer} {t : Session} : a.response = b.response → b.next = none →
      Alike c (.ok a, t) (.ok b, t)
  | failed {e : Error} {t : Session} {kept : Connections Transport} :
      Alike c (.error e, t) (.error e, { t with connections := kept })
  /-- Behind the last response, the cookies cannot be written into the request that it leads to, and
  there is no way to send that request either. -/
  | masked {p q : Request} {response : Response} {e failure : Error} {t : Session}
      {kept : Connections Transport} : t.journal.EndsWith p response →
      response.isRedirect = true → next p response false = .ok q →
      q.applyJarCookie (c.cookies t) = .error e →
      (c.router.route q.url t.connections).1 = .error failure →
      Alike c (.error e, t) (.error failure, { t with connections := kept })

theorem Fit.exchange_refused {q : Request} {e : Error} (fit : c.Fit q)
    (h : q.applyJarCookie (c.cookies s) = .error e) :
    ∃ failure kept, alone (c.exchange mode q) s = (.error failure, { s with connections := kept }) ∧
      (failure = e ∨ (c.router.route q.url s.connections).1 = .error failure) := by
  obtain ⟨bytes, held⟩ := Body.bytes?_of_not_isStream fit.inMemory
  have unused := Body.not_isConsumed_of_bytes? held
  cases routed : c.router.route q.url s.connections with
  | mk found kept =>
      cases found with
      | error failure =>
          refine ⟨failure, kept, ?_, .inr rfl⟩
          rw [alone_exchange]
          simp [beforeSend, unused, routed]
      | ok transport =>
          refine ⟨e, kept, ?_, .inl rfl⟩
          rw [alone_exchange]
          simp [beforeSend, unused, routed, h]

/-! ### What a redirect makes of the calls that are left by hand -/

theorem alike_other {left left' n : Nat} {chain chain' : Sending} {response : Response}
    (other : response.isRedirect = false) :
    c.Alike (alone (c.follow mode left chain response) s)
      (alone (c.onward mode left' n chain' response) s) := by
  have received (chain : Sending) :
      chain.receive response = .ok (.done ⟨response, chain.history, none⟩) := by
    simp [Sending.receive, other]
  rw [alone_follow_done (received chain), alone_onward_done (alone_follow_done (received chain')),
    alone_sendOn_done rfl]
  exact .answered rfl rfl

section Redirected

variable {left n : Nat} {chain : Sending} {response : Response} {q : Request}

theorem receive_astray {e : Error} (met : c.Met chain.request response)
    (redirects : response.isRedirect = true) (room : chain.history.length < chain.maxRedirects)
    (astray : next chain.request response false = .error e) :
    chain.receive response = .error e := by
  have short : ¬ chain.maxRedirects ≤ chain.history.length := by omega
  cases follows : chain.follow with
  | true => simp [Sending.receive, redirects, follows, short, astray, Except.map]
  | false => simp [Sending.receive, redirects, follows, met.fit.next_lenient, astray, Except.map]

theorem receive_followed (redirects : response.isRedirect = true)
    (room : chain.history.length < chain.maxRedirects) (follows : chain.follow = true)
    (found : next chain.request response false = .ok q) :
    chain.receive response = .ok (.redirected ⟨chain, response, q⟩) := by
  have short : ¬ chain.maxRedirects ≤ chain.history.length := by omega
  simp [Sending.receive, redirects, follows, short, found, Except.map]

theorem alone_onward_stays (met : c.Met chain.request response) (unsigned : c.auth = none)
    (redirects : response.isRedirect = true) (stays : chain.follow = false) (fit : c.Fit q)
    (found : next chain.request response false = .ok q) :
    alone (c.onward mode left (n + 1) chain response) s =
      match alone (c.exchange mode q) s with
      | (.error e, t) => (.error e, t)
      | (.ok (p, response'), t) =>
        alone (c.onward mode c.maxRedirects n (c.chain ⟨p, response', []⟩ c.followRedirects)
          response') t := by
  have received : chain.receive response = .ok (.done ⟨response, chain.history, some q⟩) := by
    simp [Sending.receive, redirects, stays, met.fit.next_lenient, found, Except.map]
  rw [alone_onward_done (alone_follow_done received), fit.alone_sendOn unsigned]

/-- Where the cookies cannot be written, the calls by hand end as the chain does, or for want of a
way. -/
theorem alike_onward_refused {e : Error} (met : c.Met chain.request response)
    (last : s.journal.EndsWith chain.request response) (unsigned : c.auth = none)
    (redirects : response.isRedirect = true)
    (room : chain.history.length < chain.maxRedirects) (fit : c.Fit q)
    (found : next chain.request response false = .ok q)
    (refused : q.applyJarCookie (c.cookies s) = .error e) :
    c.Alike (.error e, s) (alone (c.onward mode (left + 1) (n + 1) chain response) s) := by
  cases follows : chain.follow with
  | true =>
      have received := receive_followed redirects room follows found
      rcases alone_follow_redirected mode left met.inMemory received with
        ⟨e', refused', ended⟩ | ⟨q', read, written, -⟩
      · rw [refused] at refused'
        cases refused'
        rw [alone_onward_error ended]
        exact .failed
      · rw [refused] at written
        cases written
  | false =>
      -- It is a new call that makes the request ready, and it looks for a way first.
      rw [alone_onward_stays met unsigned redirects follows fit found]
      rcases fit.exchange_refused refused with ⟨failure, kept, ended, rfl | routed⟩
      · rw [ended]
        exact .failed
      · rw [ended]
        exact .masked last redirects found refused routed

/-- Where the cookies are written, the calls by hand go on behind the next exchange, with a history
that is longer by one at most. -/
theorem alone_onward_next {q' : Request} (met : c.Met chain.request response)
    (unsigned : c.auth = none) (redirects : response.isRedirect = true)
    (bound : chain.maxRedirects = c.maxRedirects)
    (room : chain.history.length < chain.maxRedirects)
    (counter : c.maxRedirects ≤ left + 1 + chain.history.length) (fit : c.Fit q)
    (found : next chain.request response false = .ok q)
    (written : q.applyJarCookie (c.cookies s) = .ok q') :
    ∃ (left' n' : Nat) (chain' : Request → Sending), n ≤ n' ∧
      (∀ p, (chain' p).request = p ∧ (chain' p).maxRedirects = c.maxRedirects ∧
        (chain' p).history.length ≤ chain.history.length + 1 ∧
        c.maxRedirects ≤ left' + (chain' p).history.length) ∧
      alone (c.onward mode (left + 1) (n + 1) chain response) s =
        match alone (c.exchange mode q) s with
        | (.error e, t) => (.error e, t)
        | (.ok (p, response'), t) => alone (c.onward mode left' n' (chain' p) response') t := by
  cases follows : chain.follow with
  | true =>
      have received := receive_followed redirects room follows found
      rcases alone_follow_redirected mode left met.inMemory received with
        ⟨e, refused, -⟩ | ⟨q', read, -, goes⟩
      · rw [written] at refused
        cases refused
      · refine ⟨left, n + 1, fun p =>
          { chain with
            request := p
            history := chain.history ++ [read]
            redirects := chain.redirects + 1 }, by omega, ?_, ?_⟩
        · intro p
          have longer : (chain.history ++ [read]).length = chain.history.length + 1 := by simp
          refine ⟨rfl, bound, Nat.le_of_eq longer, ?_⟩
          dsimp only
          omega
        · cases exchanged : alone (c.exchange mode q) s with
          | mk result t =>
              rw [exchanged] at goes
              cases result with
              | error e => exact alone_onward_error goes
              | ok answered =>
                  simp only [onward]
                  rw [alone_bind, goes, alone_bind]
  | false =>
      refine ⟨c.maxRedirects, n, fun p => c.chain ⟨p, response, []⟩ c.followRedirects,
        Nat.le_refl n, fun p => ⟨rfl, rfl, Nat.zero_le _, Nat.le_add_right _ _⟩, ?_⟩
      rw [alone_onward_stays met unsigned redirects follows fit found]
      rfl

end Redirected

/-! ### The induction -/

/-- A chain that follows redirects, and a chain of a call by hand, are at the same response. -/
structure Abreast (c : Client) (left left' n base : Nat) (chain chain' : Sending)
    (response : Response) (s : Session) : Prop where
  met : c.Met chain.request response
  last : s.journal.EndsWith chain.request response
  same : chain'.request = chain.request
  follows : chain.follow = true
  bound : chain.maxRedirects = c.maxRedirects
  bound' : chain'.maxRedirects = c.maxRedirects
  shorter : chain'.history.length ≤ chain.history.length
  /-- Neither counter is used up before the history is full. -/
  room : c.maxRedirects ≤ left + chain.history.length
  room' : c.maxRedirects ≤ left' + chain'.history.length
  sends : left ≤ n
  /-- The redirects in the history have been received, and this one too, if it is one. -/
  counted : base + chain.history.length + (if response.isRedirect then 1 else 0) ≤
    s.journal.redirects

namespace Abreast

variable {left left' n base : Nat} {chain chain' : Sending} {response : Response}

theorem met' (abreast : c.Abreast left left' n base chain chain' response s) :
    c.Met chain'.request response := by
  rw [abreast.same]
  exact abreast.met

theorem next_eq (abreast : c.Abreast left left' n base chain chain' response s) :
    next chain'.request response false = next chain.request response false := by
  rw [abreast.same]

/-- The redirects that are received bound the history: where no more are received than may be
followed, a chain does not find its history full. -/
theorem short (abreast : c.Abreast left left' n base chain chain' response s)
    (redirects : response.isRedirect = true)
    (within : (alone (c.follow mode left chain response) s).2.journal.redirects ≤
      base + c.maxRedirects) : chain.history.length < c.maxRedirects := by
  have counted := abreast.counted
  have bound := abreast.bound
  rw [redirects, if_pos rfl] at counted
  rcases Nat.lt_or_ge chain.history.length c.maxRedirects with room | full
  · exact room
  · have received : chain.receive response =
        .error (.tooManyRedirects response.url chain.history.length) := by
      have long : chain.maxRedirects ≤ chain.history.length := by omega
      simp [Sending.receive, redirects, abreast.follows, long]
    rw [alone_follow_error received] at within
    dsimp only at within
    omega

/-- The calls by hand exchange the same request, and behind the exchange the chains are abreast
again. -/
theorem onward {q q' : Request} (all : c.Plain) (kept : s.connections.Only Transport.Plain)
    (abreast : c.Abreast (left + 1) (left' + 1) (n + 1) base chain chain' response s)
    (redirects : response.isRedirect = true) (short : chain.history.length < c.maxRedirects)
    (fit : c.Fit q) (found : next chain'.request response false = .ok q)
    (written : q.applyJarCookie (c.cookies s) = .ok q') (read : Response) :
    ∃ (left'' n' : Nat) (onto : Request → Sending),
      alone (c.onward mode (left' + 1) (n + 1) chain' response) s =
        (match alone (c.exchange mode q) s with
        | (.error e, t) => (.error e, t)
        | (.ok (p, response'), t) => alone (c.onward mode left'' n' (onto p) response') t) ∧
      ∀ p response' t, alone (c.exchange mode q) s = (.ok (p, response'), t) →
        t.connections.Only Transport.Plain ∧
        c.Abreast left left'' n' base
          { chain with
            request := p
            history := chain.history ++ [read]
            redirects := chain.redirects + 1 } (onto p) response' t := by
  have shorter := abreast.shorter
  have room := abreast.room
  have sends := abreast.sends
  have counted := abreast.counted
  have bound' := abreast.bound'
  rw [redirects, if_pos rfl] at counted
  obtain ⟨left'', n', onto, many, shape, hand⟩ := alone_onward_next abreast.met' all.unsigned
    redirects bound' (by omega) abreast.room' fit found written
  refine ⟨left'', n', onto, hand, fun p response' t exchanged => ?_⟩
  obtain ⟨met, still, last, received⟩ := fit.exchanged all kept exchanged
  obtain ⟨same, bound'', longer, room'⟩ := shape p
  have long : (chain.history ++ [read]).length = chain.history.length + 1 := by simp
  refine ⟨still,
    { met, last, same, bound' := bound'', room',
      follows := abreast.follows
      bound := abreast.bound
      shorter := ?_
      room := ?_
      sends := by omega
      counted := ?_ }⟩
  · dsimp only
    omega
  · dsimp only
    omega
  · dsimp only
    rw [received]
    omega

end Abreast

/-- From a response on, a chain that follows redirects and the calls that follow them by hand come
to the same, as long as the history of the chain has room. -/
theorem follow_alike {left left' n base : Nat} {chain chain' : Sending} {response : Response}
    (all : c.Plain) (kept : s.connections.Only Transport.Plain)
    (abreast : c.Abreast left left' n base chain chain' response s)
    (within : (alone (c.follow mode left chain response) s).2.journal.redirects ≤
      base + c.maxRedirects) :
    c.Alike (alone (c.follow mode left chain response) s)
      (alone (c.onward mode left' n chain' response) s) := by
  induction left generalizing left' n chain chain' response s with
  | zero =>
      cases redirects : response.isRedirect with
      | false => exact alike_other redirects
      | true =>
          -- The counter is used up, so the history would be full.
          have short := abreast.short redirects within
          have room := abreast.room
          omega
  | succ left ih =>
      cases redirects : response.isRedirect with
      | false => exact alike_other redirects
      | true =>
          have short := abreast.short redirects within
          have shorter := abreast.shorter
          have room' := abreast.room'
          have sends := abreast.sends
          have bound := abreast.bound
          have bound' := abreast.bound'
          obtain ⟨left', rfl⟩ : ∃ m, left' = m + 1 := ⟨left' - 1, by omega⟩
          obtain ⟨n, rfl⟩ : ∃ m, n = m + 1 := ⟨n - 1, by omega⟩
          cases found : next chain.request response false with
          | error e =>
              have astray := receive_astray abreast.met redirects (by omega) found
              have astray' := receive_astray abreast.met' redirects (by omega)
                (abreast.next_eq.trans found)
              rw [alone_follow_error astray, alone_onward_error (alone_follow_error astray')]
              exact .failed
          | ok q =>
              have fit := abreast.met.fit.next all.neutral (abreast.met.anonymous redirects) found
              have found' := abreast.next_eq.trans found
              have received := receive_followed redirects (by omega) abreast.follows found
              rcases alone_follow_redirected mode left abreast.met.inMemory received with
                ⟨e, refused, ended⟩ | ⟨q', read, written, goes⟩
              · rw [ended]
                refine alike_onward_refused abreast.met' ?_ all.unsigned redirects (by omega) fit
                  found' refused
                rw [abreast.same]
                exact abreast.last
              · obtain ⟨left'', n', onto, hand, next⟩ := abreast.onward all kept redirects short fit
                  found' written read
                rw [hand]
                rw [goes] at within ⊢
                cases exchanged : alone (c.exchange mode q) s with
                | mk result t =>
                    rw [exchanged] at within
                    cases result with
                    | error e => exact .failed
                    | ok answered =>
                        obtain ⟨kept', abreast'⟩ := next _ _ _ exchanged
                        exact ih kept' abreast' within

/-! ## The whole call -/

theorem prepare_follow (c : Client) (r : Request) (follow : Bool) :
    c.prepare r { followRedirects := some follow } =
      (c.prepare r {}).map fun prepared => { prepared with follow } := by
  simp only [Client.prepare]
  cases Prepared.checkUrl r.url with
  | error e => rfl
  | ok u =>
      cases Prepared.login? r.url with
      | error e => rfl
      | ok login => rfl

/-- A call that follows redirects does what a call does that follows none, together with the calls
that send on by hand what each answer leads to.  The transports receive the same requests in the
same order and answer the same; the jar is left the same; and both come to the same response, with
nothing left to send, or to the same failure.

Only where the cookies cannot be written into the next request, and there is no way to send it
either, do they fail differently. -/
theorem following_by_hand {n : Nat} {r : Request} (all : c.Plain)
    (kept : s.connections.Only Transport.Plain) (anonymous : r.url.isAnonymous = true)
    (inMemory : r.body.isStream = false) (sends : c.maxRedirects ≤ n)
    (within : (c.send mode r { followRedirects := some true } s).2.journal.redirects ≤
      s.journal.redirects + c.maxRedirects) :
    c.Alike (c.send mode r { followRedirects := some true } s) (alone (c.byHand mode n r) s) := by
  have sent : c.send mode r { followRedirects := some true } s =
      alone (c.call mode r { followRedirects := some true }) s := rfl
  rw [sent] at within ⊢
  simp only [byHand]
  rw [alone_bind]
  cases begun : c.prepare r {} with
  | error e =>
      have refused (follow : Bool) : c.prepare r { followRedirects := some follow } = .error e := by
        rw [prepare_follow, begun]
        rfl
      rw [alone_call_error (refused true), alone_call_error (refused false)]
      exact .failed
  | ok prepared =>
      obtain ⟨fit, hnone, -⟩ := fit_of_prepare all.unsigned rfl anonymous inMemory begun
      have ready (follow : Bool) : c.prepare r { followRedirects := some follow } =
          .ok { prepared with follow } := by
        rw [prepare_follow, begun]
        rfl
      rw [alone_call_none (ready true) hnone] at within ⊢
      rw [alone_call_none (ready false) hnone]
      dsimp only at within ⊢
      cases exchanged : alone (c.exchange mode prepared.request) s with
      | mk result t =>
          rw [exchanged] at within
          cases result with
          | error e => exact .failed
          | ok answered =>
              obtain ⟨p, response⟩ := answered
              obtain ⟨met, still, last, received⟩ := fit.exchanged all kept exchanged
              have abreast : c.Abreast c.maxRedirects c.maxRedirects n s.journal.redirects
                  (c.chain ⟨p, response, []⟩ true) (c.chain ⟨p, response, []⟩ false) response t :=
                { met, last, sends,
                  same := rfl
                  follows := rfl
                  bound := rfl
                  bound' := rfl
                  shorter := Nat.le_refl _
                  room := Nat.le_add_right _ _
                  room' := Nat.le_add_right _ _
                  counted := Nat.le_of_eq received.symm }
              have alike := follow_alike all still abreast within
              simp only [onward] at alike
              rw [alone_bind] at alike
              exact alike

/-! ## Redirects to other places -/

section Sampled

open Sample Script

/-- What a reply answers with is in memory, and its location names no login. -/
def PlainReply (reply : Reply) : Prop :=
  ∀ u x, reply.outcome u = .ok x → x.body.isStream = false ∧
    (x.isRedirect = true → ∀ url, target u x = .ok url → url.isAnonymous = true)

theorem mock_plain {name : String} {replies : List Reply}
    (h : ∀ reply ∈ replies, PlainReply reply) : (mock name replies).Plain where
  inMemory j head body x answered := by
    obtain ⟨reply, there, taken⟩ := Script.answer_ok answered
    exact (h reply there head.url x taken).1
  anonymous j head body x url answered _ redirects aimed := by
    obtain ⟨reply, there, taken⟩ := Script.answer_ok answered
    exact (h reply there head.url x taken).2 redirects url aimed

theorem plainReply_of_namesHost {response : Response} {location : String}
    (inMemory : response.body.isStream = false)
    (there : response.headers.firstText? .location = some location)
    (named : namesHost location = true)
    (anonymous : (resolve (place "/") location).toOption.all (·.isAnonymous) = true) :
    PlainReply (.response response) := by
  intro u x answered
  cases answered
  refine ⟨inMemory, fun _ url aimed => ?_⟩
  have there' : { response with url := u }.headers.firstText? .location = some location := there
  obtain ⟨url', known, same⟩ := target_of_namesHost (v := place "/") there' named aimed
  rw [known] at anonymous
  have anonymous : url'.isAnonymous = true := anonymous
  cases url
  cases same
  exact anonymous

theorem plainReply_fine : PlainReply fine := by
  intro u x answered
  cases answered
  exact ⟨rfl, fun redirects => by cases redirects⟩

/-- One call that follows redirects. -/
def led (c : Client) (r : Request) (s : Session) : Except Error Answer × Session :=
  c.send .blocking r { followRedirects := some true } s

/-- A call that follows none, and two redirects that are followed by hand. -/
def walked (c : Client) (r : Request) (s : Session) : Except Error Answer × Session :=
  alone (c.byHand .blocking 2 r) s

/-- A server that redirects to its secure side and back, and a client that does not follow. -/
def wavering : Client :=
  { client
      [reply found [(.location, "https://[::1]/b"), (.setCookie, "seen=1")] .empty,
        reply temporary [(.location, "http://[::1]/c")] .empty, fine]
      none 2 with
    followRedirects := false
    defaultHeaders := ⟨(HeaderValue.ofText "x").toOption.toList.map (delayName, ·)⟩ }

theorem wavering_plain : wavering.Plain where
  unsigned := rfl
  requestHooks := rfl
  responseHooks := rfl
  neutral := by
    unfold Neutral
    decide
  router := by
    refine Router.only_default (mock_plain ?_) rfl rfl
    refine List.forall_mem_cons.mpr ⟨?_, List.forall_mem_cons.mpr ⟨?_, ?_⟩⟩
    · have named : namesHost "https://[::1]/b" = true := by decide +kernel
      exact plainReply_of_namesHost rfl (by decide +kernel) named (by decide +kernel)
    · have named : namesHost "http://[::1]/c" = true := by decide +kernel
      exact plainReply_of_namesHost rfl (by decide +kernel) named (by decide +kernel)
    · exact List.forall_mem_singleton.mpr plainReply_fine

/-- Three calls by hand come to the response that one call finds behind two redirects. -/
theorem following_by_hand_of_wavering :
    ∃ a b t, led wavering (request .get .empty) {} = (.ok a, t) ∧
      walked wavering (request .get .empty) {} = (.ok b, t) ∧ a.response = b.response ∧
      a.history.length = 2 ∧ b.history.length = 0 ∧ b.next = none := by
  have counted : (led wavering (request .get .empty) {}).2.journal.redirects ≤ 2 := by
    decide +kernel
  have long : (led wavering (request .get .empty) {}).1.toOption.map (·.history.length) =
      some 2 := by decide +kernel
  have short : (walked wavering (request .get .empty) {}).1.toOption.map (·.history.length) =
      some 0 := by decide +kernel
  have alike : wavering.Alike (led wavering (request .get .empty) {})
      (walked wavering (request .get .empty) {}) :=
    following_by_hand wavering_plain Connections.only_empty rfl rfl (Nat.le_refl 2) counted
  generalize walked wavering (request .get .empty) {} = hand at *
  cases auto : led wavering (request .get .empty) {} with
  | mk result t =>
      rw [auto] at alike long
      cases result with
      | error e => cases long
      | ok a =>
          cases alike with
          | answered same done =>
              exact ⟨a, _, t, rfl, rfl, same, Option.some.inj long, Option.some.inj short, done⟩

/-- A client that finds no way to the secure side, since its proxy is none. -/
def hindered : Client :=
  { client [] none 2 with
    router :=
      { default := mock "default" [moved "https://[::1]/b"]
        environment := fun name => if name = "https_proxy" then some "http://:x" else none } }

theorem hindered_plain : hindered.Plain where
  unsigned := rfl
  requestHooks := rfl
  responseHooks := rfl
  neutral := by
    unfold Neutral
    decide
  router := by
    refine Router.only_default (mock_plain (List.forall_mem_singleton.mpr ?_)) rfl rfl
    have named : namesHost "https://[::1]/b" = true := by decide +kernel
    exact plainReply_of_namesHost rfl (by decide +kernel) named (by decide +kernel)

/-- A cookie that no header value can hold. -/
def tainted : Session := { jar := Jar.empty.set "a" "b\x01" }

/-- A request with a cookie of its own. -/
def owned : Request :=
  { request .get .empty with
    headers := ⟨(HeaderValue.ofText "own=1").toOption.toList.map (HeaderName.cookie, ·)⟩ }

/-- What a call has failed with, if it has. -/
def failureOf (ended : Except Error Answer × Session) : Option Error :=
  match ended.1 with
  | .ok _ => none
  | .error e => some e

/-- The call fails for the cookie, and by hand for want of a way. -/
theorem hindered_by_hand :
    hindered.Plain ∧ (led hindered owned tainted).2.journal.redirects ≤ hindered.maxRedirects ∧
      ¬ ((∃ a b, (led hindered owned tainted).1 = .ok a ∧
            (walked hindered owned tainted).1 = .ok b ∧ a.response = b.response) ∨
          ∃ e, (led hindered owned tainted).1 = .error e ∧
            (walked hindered owned tainted).1 = .error e) := by
  have unwritten : failureOf (led hindered owned tainted) =
      some (.badHeader "failed to parse header value") := by decide +kernel
  have unrouted : failureOf (walked hindered owned tainted) =
      some (.proxy "invalid proxy url: empty host") := by decide +kernel
  refine ⟨hindered_plain, by decide +kernel, ?_⟩
  rintro (⟨a, b, brought, -, -⟩ | ⟨e, failed, failed'⟩)
  · rw [failureOf, brought] at unwritten
    cases unwritten
  · rw [failureOf, failed] at unwritten
    rw [failureOf, failed'] at unrouted
    cases unwritten
    cases unrouted

end Sampled

end Client

end HttpClient
