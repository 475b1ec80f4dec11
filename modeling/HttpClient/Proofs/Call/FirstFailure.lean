/-
# The first failure decides a call

An exchange can fail where its request is routed, where the cookies are written, at a request hook,
at the transport, at a response hook, and where the flow makes something of the response.
`ExchangeFails` and `Fails` list these ways out, each with what the call has changed by then: which
hooks were shown something, whether a transport was called, and what is in the jar.

A part of a call is determined by the sessions in which it makes its changes (`Comes`), and a
failure ends all parts around it (`comes_bind_error`).  So a call that fails in one of these ways
has not changed anything else (`first_failure_decides`): no later hook was shown anything, the flow
was not resumed, and no other transport was called.
-/
import HttpClient.Proofs.Call.Alone
import HttpClient.Proofs.Call.Standing
import HttpClient.Proofs.Routing.Choice

namespace HttpClient

open Auth Redirect Call

namespace Call

variable {α β : Type}

/-! ## What a call comes to -/

def moments (own : Changes) : List Session := own.map (·.1)

theorem moments_append (a b : Changes) : moments (a ++ b) = moments a ++ moments b :=
  List.map_append

/-- As far as both go, they are the same. -/
def Concur (a b : List Session) : Prop := a <+: b ∨ b <+: a

theorem Concur.front {a b d f : List Session} (h : Concur (a ++ b) (d ++ f)) : Concur a d := by
  rcases h with within | within
  · exact List.prefix_or_prefix_of_prefix ((List.prefix_append a b).trans within)
      (List.prefix_append d f)
  · exact List.prefix_or_prefix_of_prefix (List.prefix_append a b)
      ((List.prefix_append d f).trans within)

theorem Concur.back {a b d : List Session} (h : Concur (a ++ b) (a ++ d)) : Concur b d :=
  h.imp (List.prefix_append_right_inj a).mp (List.prefix_append_right_inj a).mp

/-- In the sessions in which these changes are made, the call makes them, no others, and comes to
this result. -/
def Comes (p : Call α) (front : Changes) (result : Except Error α) : Prop :=
  ∀ ⦃rely : Session → Session → Prop⦄ ⦃s s' : Session⦄ ⦃own : Changes⦄ ⦃ended : Except Error α⦄,
    Goes rely p s own ended s' → Concur (moments own) (moments front) →
      own = front ∧ ended = result

theorem comes_act (f : Session → Except Error α × Session) (t : Session) :
    Comes (act f) [(t, (f t).2)] (f t).1 := by
  intro rely s s' own ended h concur
  obtain ⟨u, -, rfl, rfl, -⟩ := goes_act.mp h
  have same : u = t := by
    rcases concur with within | within
    · exact (List.cons_prefix_cons.mp within).1
    · exact (List.cons_prefix_cons.mp within).1.symm
  rw [same]
  exact ⟨rfl, rfl⟩

theorem comes_sleep (time : Option Nat) : Comes (pause (.sleep time)) [] (.ok ()) := by
  intro rely s s' own ended h _
  obtain ⟨rfl, rfl, -⟩ := goes_sleep h
  exact ⟨rfl, rfl⟩

theorem comes_turns (n : Nat) : Comes (pause (.turns n)) [] (.ok ()) := by
  intro rely s s' own ended h _
  obtain ⟨rfl, rfl, -⟩ := goes_turns h
  exact ⟨rfl, rfl⟩

theorem comes_read (mode : Mode) (r : Response) :
    Comes (Call.read mode r) [] (r.inMemory mode) := by
  intro rely s s' own ended h _
  obtain ⟨rfl, rfl⟩ := goes_read h
  exact ⟨rfl, rfl⟩

theorem comes_bind {p : Call α} {f : α → Call β} {front rest : Changes} {a : α}
    {result : Except Error β} (first : Comes p front (.ok a)) (second : Comes (f a) rest result) :
    Comes (p >>= f) (front ++ rest) result := by
  intro rely s s' own ended h concur
  rcases goes_bind.mp h with ⟨e, failed, rfl⟩ | ⟨own₁, b, s₁, own₂, rfl, made, on⟩
  · rw [moments_append, ← List.append_nil (moments own)] at concur
    obtain ⟨-, impossible⟩ := first failed concur.front
    cases impossible
  · rw [moments_append, moments_append] at concur
    obtain ⟨rfl, same⟩ := first made concur.front
    cases same
    obtain ⟨rfl, rfl⟩ := second on concur.back
    exact ⟨rfl, rfl⟩

theorem comes_bind_quiet {p : Call α} {f : α → Call β} {rest : Changes} {a : α}
    {result : Except Error β} (first : Comes p [] (.ok a)) (second : Comes (f a) rest result) :
    Comes (p >>= f) rest result :=
  comes_bind first second

/-- A failure is the end of it. -/
theorem comes_bind_error {p : Call α} {f : α → Call β} {front : Changes} {e : Error}
    (first : Comes p front (.error e)) : Comes (p >>= f) front (.error e) := by
  intro rely s s' own ended h concur
  rcases goes_bind.mp h with ⟨e', failed, rfl⟩ | ⟨own₁, b, s₁, own₂, rfl, made, on⟩
  · obtain ⟨rfl, same⟩ := first failed concur
    cases same
    exact ⟨rfl, rfl⟩
  · rw [moments_append, ← List.append_nil (moments front)] at concur
    obtain ⟨-, impossible⟩ := first made concur.front
    cases impossible

end Call

/-! ## Hooks -/

/-- Behind hooks that pass on what they are shown, one that fails is the last. -/
theorem showTo_of_take {α : Type} {note : Nat → α → Event} {index k : Nat}
    {hooks : List (Hook α)} {hook : Hook α} {x shown : α} {j j' : Journal} {e : Error}
    (before : showTo note index (hooks.take k) x j = (.ok shown, j'))
    (there : hooks[k]? = some hook) (fails : hook j' shown = .error e) :
    showTo note index hooks x j = (.error e, j' ++ [note (index + k) shown]) := by
  induction hooks generalizing index k x j with
  | nil => cases there
  | cons first rest ih =>
      cases k with
      | zero =>
          cases before
          cases there
          rw [showTo, fails]
          rfl
      | succ k =>
          rw [List.take_succ_cons, showTo] at before
          rw [showTo]
          cases passed : first j x with
          | error e' => simp [passed] at before
          | ok changed =>
              simp only [passed] at before
              rw [show index + (k + 1) = index + 1 + k by omega]
              exact ih before there

/-- Where hooks fail, one of them fails on what those before it have passed on. -/
theorem showTo_error {α : Type} {note : Nat → α → Event} {index : Nat} {hooks : List (Hook α)}
    {x : α} {j j' : Journal} {e : Error} (h : showTo note index hooks x j = (.error e, j')) :
    ∃ k hook shown j₀, showTo note index (hooks.take k) x j = (.ok shown, j₀) ∧
      hooks[k]? = some hook ∧ hook j₀ shown = .error e ∧ j' = j₀ ++ [note (index + k) shown] := by
  induction hooks generalizing index x j with
  | nil => cases h
  | cons first rest ih =>
      rw [showTo] at h
      cases passed : first j x with
      | error e' =>
          rw [passed] at h
          cases h
          exact ⟨0, first, x, j, rfl, rfl, passed, rfl⟩
      | ok changed =>
          rw [passed] at h
          obtain ⟨k, hook, shown, j₀, before, there, fails, same⟩ := ih h
          refine ⟨k + 1, hook, shown, j₀, ?_, there, fails, ?_⟩
          · rw [List.take_succ_cons, showTo, passed]
            exact before
          · rw [same, show index + (k + 1) = index + 1 + k by omega]

namespace Client

variable {c : Client} {mode : Mode} {r : Request}

/-! ## Exchanges that fail -/

/-- Where an exchange fails. -/
inductive Exit where
  /-- The body of the request is used up. -/
  | consumed
  | routing
  | cookies
  | requestHook
  | transport
  | responseHook
  /-- The flow fails on the response. -/
  | resume
deriving DecidableEq, Repr

/-- How often a transport is called in an exchange that fails there. -/
def Exit.calls : Exit → Nat
  | .consumed | .routing | .cookies | .requestHook => 0
  | .transport | .responseHook | .resume => 1

/-- How many responses have arrived in an exchange that fails there. -/
def Exit.arrivals : Exit → Nat
  | .responseHook | .resume => 1
  | _ => 0

/-- The ways an exchange can fail: what it has changed by then, where it fails, and with what.
Everything before does not fail. -/
inductive ExchangeFails (c : Client) (mode : Mode) (r : Request) : Changes → Exit → Error → Prop
  | consumed {t : Session} : r.body.isConsumed = true →
      ExchangeFails c mode r [(t, t)] .consumed .streamConsumed
  | routing {t : Session} {e : Error} {kept : Connections Transport} :
      r.body.isConsumed = false → c.router.route r.url t.connections = (.error e, kept) →
      ExchangeFails c mode r [(t, { t with connections := kept })] .routing e
  | cookies {t : Session} {transport : Transport} {kept : Connections Transport} {e : Error} :
      r.body.isConsumed = false → c.router.route r.url t.connections = (.ok transport, kept) →
      r.applyJarCookie (c.cookies t) = .error e →
      ExchangeFails c mode r [(t, { t with connections := kept })] .cookies e
  | requestHook {t : Session} {transport : Transport} {kept : Connections Transport}
      {q shown : Request} {j : Journal} {k : Nat} {hook : RequestHook} {e : Error} :
      r.body.isConsumed = false → c.router.route r.url t.connections = (.ok transport, kept) →
      r.applyJarCookie (c.cookies t) = .ok q →
      showRequest (c.requestHooks.take k) q t.journal = (.ok shown, j) →
      c.requestHooks[k]? = some hook → hook j shown = .error e →
      ExchangeFails c mode r
        [(t, { t with connections := kept, journal := j ++ [.requestHook k shown.head] })]
        .requestHook e
  | transport {t t' u : Session} {transport : Transport} {q : Request} {e : Error} :
      c.beforeSend r t = (.ok (transport, q), t') →
      (transport.handle mode u.journal q).result = .error e →
      ExchangeFails c mode r
        [(t, t'), (u, { u with
          journal := u.journal ++ [(transport.handle mode u.journal q).event] })]
        .transport e
  | responseHook {t t' u : Session} {transport : Transport} {q : Request}
      {response shown : Response} {j : Journal} {k : Nat} {hook : ResponseHook} {e : Error} :
      c.beforeSend r t = (.ok (transport, q), t') →
      (transport.handle mode u.journal q).result = .ok response →
      showResponse (c.responseHooks.take k) { response with request := some q.head }
        (u.journal ++ [(transport.handle mode u.journal q).event]) = (.ok shown, j) →
      c.responseHooks[k]? = some hook → hook j shown = .error e →
      ExchangeFails c mode r
        [(t, t'), (u, { u with
          jar := u.jar.extract response.headers
            (c.clock (u.journal ++ [(transport.handle mode u.journal q).event]))
          journal := j ++ [.responseHook k shown] })]
        .responseHook e

theorem comes_refused {t t' : Session} {e : Error} (h : c.beforeSend r t = (.error e, t')) :
    Comes (c.exchange mode r) [(t, t')] (.error e) := by
  have refused := comes_act (c.beforeSend r) t
  rw [h] at refused
  exact comes_bind_error refused

theorem comes_handed {t t' : Session} {transport : Transport} {q : Request}
    (h : c.beforeSend r t = (.ok (transport, q), t')) (u : Session) :
    Comes (c.exchange mode r) [(t, t'), (u, (c.handOver mode transport q u).2)]
      (c.handOver mode transport q u).1 := by
  have ready := comes_act (c.beforeSend r) t
  rw [h] at ready
  refine comes_bind ready ?_
  refine comes_bind_quiet (comes_sleep _) ?_
  exact comes_bind_quiet (comes_turns _) (comes_act (c.handOver mode transport q) u)

theorem Exchanged.comes {own : Changes} {result : Except Error (Request × Response)}
    (h : c.Exchanged mode r own result) : Comes (c.exchange mode r) own result := by
  cases h with
  | refused failed => exact comes_refused failed
  | handed ready => exact comes_handed ready _

/-- An exchange fails when its request is made ready, or when it is handed over. -/
theorem ExchangeFails.outcome {failing : Changes} {exit : Exit} {e : Error}
    (h : c.ExchangeFails mode r failing exit e) :
    (∃ t t', failing = [(t, t')] ∧ c.beforeSend r t = (.error e, t') ∧
      exit.calls = 0 ∧ exit.arrivals = 0) ∨
    ∃ t t' u transport q, failing = [(t, t'), (u, (c.handOver mode transport q u).2)] ∧
      c.beforeSend r t = (.ok (transport, q), t') ∧ (c.handOver mode transport q u).1 = .error e ∧
      exit.calls = 1 ∧
      exit.arrivals = (transport.handle mode u.journal q).result.toOption.toList.length := by
  cases h with
  | consumed used => exact .inl ⟨_, _, rfl, by rw [beforeSend, if_pos used], rfl, rfl⟩
  | routing unused routed => exact .inl ⟨_, _, rfl, by simp [beforeSend, unused, routed], rfl, rfl⟩
  | cookies unused routed refused =>
      exact .inl ⟨_, _, rfl, by simp [beforeSend, unused, routed, refused], rfl, rfl⟩
  | @requestHook t transport kept q shown j k hook e unused routed written before there fails =>
      have hooked := showTo_of_take before there fails
      rw [Nat.zero_add] at hooked
      have shows : showRequest c.requestHooks q t.journal =
          (.error e, j ++ [.requestHook k shown.head]) := hooked
      refine .inl ⟨_, _, rfl, ?_, rfl, rfl⟩
      simp [beforeSend, unused, routed, written, shows, Except.map]
  | @transport t t' u transport q e ready failed =>
      have outcome : c.handOver mode transport q u = (.error e, { u with
          journal := u.journal ++ [(transport.handle mode u.journal q).event] }) := by
        simp [handOver, failed]
      refine .inr ⟨t, t', u, transport, q, ?_, ready, ?_, rfl, ?_⟩
      · rw [outcome]
      · rw [outcome]
      · rw [failed]
        rfl
  | @responseHook t t' u transport q response shown j k hook e ready answered before there fails =>
      have hooked := showTo_of_take before there fails
      rw [Nat.zero_add] at hooked
      have shows : showResponse c.responseHooks { response with request := some q.head }
          (u.journal ++ [(transport.handle mode u.journal q).event]) =
          (.error e, j ++ [.responseHook k shown]) := hooked
      have outcome : c.handOver mode transport q u = (.error e, { u with
          jar := u.jar.extract response.headers
            (c.clock (u.journal ++ [(transport.handle mode u.journal q).event]))
          journal := j ++ [.responseHook k shown] }) := by
        simp [handOver, answered, afterReceive, shows, Except.map]
      refine .inr ⟨t, t', u, transport, q, ?_, ready, ?_, rfl, ?_⟩
      · rw [outcome]
      · rw [outcome]
      · rw [answered]
        rfl

theorem ExchangeFails.comes {failing : Changes} {exit : Exit} {e : Error}
    (h : c.ExchangeFails mode r failing exit e) : Comes (c.exchange mode r) failing (.error e) := by
  rcases h.outcome with ⟨t, t', rfl, refused, -⟩ | ⟨t, t', u, transport, q, rfl, ready, failed, -⟩
  · exact comes_refused refused
  · rw [← failed]
    exact comes_handed ready u

theorem fails_of_refused {t t' : Session} {e : Error} (h : c.beforeSend r t = (.error e, t')) :
    ∃ exit, c.ExchangeFails mode r [(t, t')] exit e := by
  unfold beforeSend at h
  split at h
  · rename_i used
    cases h
    exact ⟨_, .consumed used⟩
  · rename_i unused
    rw [Bool.not_eq_true] at unused
    split at h
    · rename_i routed
      cases h
      exact ⟨_, .routing unused routed⟩
    · rename_i routed
      split at h
      · rename_i refused
        cases h
        exact ⟨_, .cookies unused routed refused⟩
      · rename_i q written
        cases shows : showRequest c.requestHooks q t.journal with
        | mk result journal =>
            rw [shows] at h
            cases result with
            | ok q' => cases h
            | error e' =>
                cases h
                obtain ⟨k, hook, shown, j, before, there, fails, same⟩ := showTo_error shows
                rw [Nat.zero_add] at same
                subst same
                exact ⟨_, .requestHook unused routed written before there fails⟩

theorem fails_of_handed {t t' u : Session} {transport : Transport} {q : Request} {e : Error}
    (ready : c.beforeSend r t = (.ok (transport, q), t'))
    (h : (c.handOver mode transport q u).1 = .error e) :
    ∃ exit, c.ExchangeFails mode r
      [(t, t'), (u, (c.handOver mode transport q u).2)] exit e := by
  cases answered : (transport.handle mode u.journal q).result with
  | error e' =>
      simp only [handOver, answered] at h ⊢
      cases h
      exact ⟨_, .transport ready answered⟩
  | ok response =>
      simp only [handOver, answered, afterReceive] at h ⊢
      cases shows : showResponse c.responseHooks { response with request := some q.head }
          (u.journal ++ [(transport.handle mode u.journal q).event]) with
      | mk result journal =>
          rw [shows] at h
          cases result with
          | ok response' => cases h
          | error e' =>
              cases h
              obtain ⟨k, hook, shown, j, before, there, fails, same⟩ := showTo_error shows
              rw [Nat.zero_add] at same
              subst same
              exact ⟨_, .responseHook ready answered before there fails⟩

/-- An exchange that fails does so in one of these ways. -/
theorem Exchanged.fails {own : Changes} {e : Error} (h : c.Exchanged mode r own (.error e)) :
    ∃ exit, c.ExchangeFails mode r own exit e := by
  generalize same : Except.error e = result at h
  cases h with
  | refused failed =>
      cases same
      exact fails_of_refused failed
  | handed ready => exact fails_of_handed ready same.symm

theorem ExchangeFails.counts {failing : Changes} {exit : Exit} {e : Error}
    (h : c.ExchangeFails mode r failing exit e) :
    calls failing = exit.calls ∧ (c.arrivals failing).length = exit.arrivals := by
  rcases h.outcome with ⟨t, t', rfl, refused, called, arrived⟩ |
    ⟨t, t', u, transport, q, rfl, ready, -, called, arrived⟩
  · have hzero := calls_beforeSend refused
    rw [hzero, arrivals_of_calls hzero, called, arrived]
    exact ⟨rfl, rfl⟩
  · have hzero := calls_beforeSend ready
    rw [← List.singleton_append, calls_append, arrivals_append, hzero, arrivals_of_calls hzero,
      calls_handOver, List.nil_append, arrivals_handOver, List.length_map, called, arrived]
    exact ⟨rfl, rfl⟩

/-! ## Calls that fail in an exchange -/

/-- The ways the exchange can fail that is next where a call stands. -/
inductive Fails (c : Client) (mode : Mode) : Standing → Changes → Exit → Error → Prop
  | round {left : Nat} {flow : Flow} {r : Request} {history : List Response} {follow : Bool}
      {failing : Changes} {exit : Exit} {e : Error} :
      c.ExchangeFails mode r failing exit e →
      Fails c mode (.round left flow r history follow) failing exit e
  | resume {left : Nat} {flow : Flow} {r p : Request} {history : List Response} {follow : Bool}
      {own : Changes} {received response : Response} {t : Session} {e : Error} :
      c.Exchanged mode r own (.ok (p, received)) →
      (if flow.buffersResponse then received.inMemory mode else .ok received) = .ok response →
      (flow.resume t.journal p response t.digests).step = .error e →
      Fails c mode (.round left flow r history follow)
        (own ++ [(t, { t with
          digests := (flow.resume t.journal p response t.digests).store
          journal := t.journal ++ flow.note response })])
        .resume e
  | cookies {left : Nat} {r : Redirected} {t : Session} {e : Error} :
      r.proceed (c.cookies t) = .error e → Fails c mode (.leg left r) [(t, t)] .cookies e
  | leg {left : Nat} {r : Redirected} {t : Session} {chain : Sending} {failing : Changes}
      {exit : Exit} {e : Error} :
      r.proceed (c.cookies t) = .ok chain → c.ExchangeFails mode chain.request failing exit e →
      Fails c mode (.leg left r) ((t, t) :: failing) exit e

variable {standing : Standing} {failing : Changes} {exit : Exit} {e : Error}

theorem Fails.goesOn (h : c.Fails mode standing failing exit e) : standing.goesOn = true := by
  cases h <;> rfl

theorem comes_round_resume {flow : Flow} {p : Request} {own : Changes}
    {received response : Response} {t : Session}
    (exchanged : c.Exchanged mode r own (.ok (p, received)))
    (kept : (if flow.buffersResponse then received.inMemory mode else .ok received) = .ok response)
    (fails : (flow.resume t.journal p response t.digests).step = .error e) :
    Comes (c.round mode flow r)
      (own ++ [(t, { t with
        digests := (flow.resume t.journal p response t.digests).store
        journal := t.journal ++ flow.note response })]) (.error e) := by
  have resumed := comes_act (fun s =>
    ((flow.resume s.journal p response s.digests).step.map
        fun _ => flow.resume s.journal p response s.digests,
      { s with
        digests := (flow.resume s.journal p response s.digests).store
        journal := s.journal ++ flow.note response })) t
  simp only [fails, Except.map] at resumed
  refine comes_bind exchanged.comes ?_
  by_cases buffers : flow.buffersResponse = true
  · have read := comes_read mode received
    rw [if_pos buffers] at kept
    rw [kept] at read
    simp only [buffers, if_true]
    exact comes_bind_quiet read (comes_bind_error resumed)
  · rw [if_neg buffers] at kept
    cases kept
    simp only [buffers, Bool.false_eq_true, if_false, pure_bind]
    exact comes_bind_error resumed

theorem comes_proceed {r : Redirected} {t : Session} {moved : Except Error Sending}
    (h : r.proceed (c.cookies t) = moved) :
    Comes (Call.act fun s => (r.proceed (c.cookies s), s)) [(t, t)] moved := by
  have proceeded := comes_act (fun s => (r.proceed (c.cookies s), s)) t
  rwa [h] at proceeded

/-- A call that fails in its next exchange comes to its failure, and nothing else happens. -/
theorem Fails.comes (h : c.Fails mode standing failing exit e) :
    Comes (c.finish mode standing) failing (.error e) := by
  rw [finish_eq]
  refine comes_bind_error ?_
  cases h with
  | round fails => exact comes_bind_error (comes_bind_error fails.comes)
  | resume exchanged kept fails =>
      exact comes_bind_error (comes_round_resume exchanged kept fails)
  | cookies refused => exact comes_bind_error (comes_bind_error (comes_proceed refused))
  | leg proceeded fails =>
      exact comes_bind_error (comes_bind (comes_proceed proceeded) (comes_bind_error fails.comes))

theorem Fails.counts (h : c.Fails mode standing failing exit e) :
    calls failing = exit.calls ∧ (c.arrivals failing).length = exit.arrivals := by
  have looked (t : Session) : calls [(t, t)] = 0 :=
    calls_noted (List.append_nil _).symm (by simp)
  cases h with
  | round fails => exact fails.counts
  | resume exchanged _ _ => exact exchanged.once.append (calls_noted_flow rfl)
  | cookies _ =>
      rw [looked, arrivals_of_calls (looked _)]
      exact ⟨rfl, rfl⟩
  | @leg left r t chain failing exit e proceeded fails =>
      rw [← List.singleton_append, calls_append, arrivals_append, looked,
        arrivals_of_calls (looked t), Nat.zero_add, List.nil_append]
      exact fails.counts

/-! ## The whole call -/

/-- A call, in whatever company, that comes as far as to exchange `i` and fails there ends with that
failure, and it does nothing else: of the changes that it makes from there on, those of the failing
exchange are all.  By then it has called a transport `i` times, and once more if the failure came
behind that.  The jar, if nobody else uses it, is the one that the call began with and the cookies
of the `i` responses before, and of one more if it had arrived, each at the time that the clock
showed.

A way to fail is about certain sessions, and with others around the call may find different ones.
It fails in this way if the sessions are those in which it makes its next changes (`here`). -/
theorem first_failure_decides {rely : Session → Session → Prop} {options : Options} {i : Nat}
    {s t s' : Session} {before onward : Changes} {result : Except Error Answer}
    (reached : Goes rely (c.reach mode r options i) s before (.ok standing) t)
    (fails : c.Fails mode standing failing exit e)
    (went : Goes rely (c.finish mode standing) t onward result s')
    (here : moments failing <+: moments onward) :
    Goes rely (c.call mode r options) s (before ++ onward) result s' ∧
      result = .error e ∧ onward = failing ∧
      calls (before ++ onward) = i + exit.calls ∧
      (c.arrivals (before ++ onward)).length = i + exit.arrivals ∧
      ((∀ s t, rely s t → t.jar = s.jar) →
        s'.jar = s.jar.withArrivals (c.arrivals (before ++ onward))) := by
  have whole : Goes rely (c.call mode r options) s (before ++ onward) result s' := by
    rw [← reach_finish r options i]
    exact goes_bind.mpr (.inr ⟨before, standing, t, onward, rfl, reached, went⟩)
  obtain ⟨rfl, rfl⟩ := fails.comes went (.inr here)
  obtain ⟨called, arrived⟩ := reach_counts fails.goesOn reached
  obtain ⟨called', arrived'⟩ := fails.counts
  refine ⟨whole, rfl, rfl, ?_, ?_, fun undisturbed => jar_of_arrivals undisturbed whole⟩
  · rw [calls_append, called, called']
  · rw [arrivals_append, List.length_append, arrived, arrived']

/-! ## A hook that lets only one request pass -/

section Sampled

open Sample

/-- Passes on a request if it has not been shown any before. -/
def onlyOnce : RequestHook := fun j r => if j.shown 0 = 0 then .ok r else .error (.hook "once")

/-- A server that sets a cookie and leads elsewhere, and a hook that does not let the call follow. -/
def stopped : Client :=
  { client [reply found [(.location, "/b"), (.setCookie, "seen=1")] .empty] none 9 with
    requestHooks := [onlyOnce] }

/-- The call is about to follow a redirect, and it is the hook that does not let it. -/
def isStopped : Except Error Standing × Session → Bool
  | (.ok (.leg _ r), t) =>
    match r.proceed (stopped.cookies t) with
    | .ok chain => !chain.request.body.isConsumed &&
        (chain.request.applyJarCookie (stopped.cookies t)).isOk && t.journal.shown 0 ≠ 0
    | .error _ => false
  | _ => false

theorem fails_of_isStopped {t : Session} {left : Nat} {q : Redirected}
    (h : isStopped (.ok (.leg left q), t) = true) :
    ∃ chain t', q.proceed (stopped.cookies t) = .ok chain ∧
      stopped.ExchangeFails .blocking chain.request [(t, t')] .requestHook (.hook "once") := by
  cases moved : q.proceed (stopped.cookies t) with
  | error e => simp [isStopped, moved] at h
  | ok chain =>
      simp only [isStopped, moved, Bool.and_eq_true, Bool.not_eq_true', decide_eq_true_eq] at h
      obtain ⟨⟨unused, writable⟩, again⟩ := h
      have routed : stopped.router.route chain.request.url t.connections =
          (.ok stopped.router.default, t.connections) :=
        Router.route_of_distrusted
          (Router.mounted?_of_none fun _ h => absurd h List.not_mem_nil) rfl
      cases written : chain.request.applyJarCookie (stopped.cookies t) with
      | error e =>
          rw [written] at writable
          cases writable
      | ok p =>
          have refuses : onlyOnce t.journal p = .error (.hook "once") := if_neg again
          exact ⟨chain, _, rfl, .requestHook (k := 0) unused routed written rfl rfl refuses⟩

theorem goes_refused {t t' : Session} {e : Error}
    (h : c.ExchangeFails mode r [(t, t')] exit e) :
    Goes Eq (c.exchange mode r) t [(t, t')] (.error e) t' := by
  rcases h.outcome with ⟨u, u', same, refused, -⟩ | ⟨_, _, _, _, _, same, -⟩
  · cases same
    refine goes_bind.mpr (.inl ⟨e, goes_act.mpr ⟨t, rfl, ?_, ?_, ?_⟩, rfl⟩)
    · rw [refused]
    · rw [refused]
    · rw [refused]
  · cases same

/-- The hook passes on the first request, and the call ends with what it says to the second. -/
theorem first_failure_of_stopped :
    ∃ own s', Goes Eq (stopped.call .blocking (request .get .empty) {}) {} own
        (.error (.hook "once")) s' ∧
      calls own = 1 ∧ (stopped.arrivals own).length = 1 ∧
      s'.jar = Jar.empty.withArrivals (stopped.arrivals own) := by
  have alone : ∀ s : Session, s = s := fun _ => rfl
  have reached := Activity.goes_run alone
    (stopped.reach .blocking (request .get .empty) {} 1).run {}
  have stops : isStopped
      ((stopped.reach .blocking (request .get .empty) {} 1).run.run {}) = true := by
    decide +kernel
  generalize (stopped.reach .blocking (request .get .empty) {} 1).run.run {} = came
    at reached stops
  obtain ⟨ended, t⟩ := came
  cases ended with
  | error e => cases stops
  | ok standing =>
      cases standing with
      | round left flow r history follow => cases stops
      | ended answer => cases stops
      | leg left q =>
          obtain ⟨chain, t', moved, fails⟩ := fails_of_isStopped stops
          have proceeds : Goes Eq (Call.act fun s => (q.proceed (stopped.cookies s), s)) t [(t, t)]
              (.ok chain) t := goes_act.mpr ⟨t, rfl, rfl, moved.symm, rfl⟩
          have sends : Goes Eq (stopped.leg .blocking q) t [(t, t), (t, t')]
              (.error (.hook "once")) t' :=
            goes_bind.mpr (.inr ⟨[(t, t)], chain, t, [(t, t')], rfl, proceeds,
              goes_bind.mpr (.inl ⟨_, goes_refused fails, rfl⟩)⟩)
          have went : Goes Eq (stopped.finish .blocking (.leg left q)) t [(t, t), (t, t')]
              (.error (.hook "once")) t' := goes_bind.mpr (.inl ⟨_, sends, rfl⟩)
          obtain ⟨whole, -, -, called, arrived, jar⟩ :=
            first_failure_decides reached (.leg moved fails) went (List.prefix_refl _)
          exact ⟨_, t', whole, called, arrived, jar fun _ _ same => by rw [same]⟩

end Sampled

end Client

end HttpClient
