/-
# No call fails because of what servers set

A call puts nothing into the jar but the cookies of responses, so a jar that only responses have put
cookies into (`Jar.Served`) stays one throughout a call, whatever it comes to, and throughout the
calls behind it.  What such a jar renders can always be written into a request
(`Request.applyJarCookie_of_plain`).  So of the ways in which a call can fail there is one that
never occurs with it: that the cookies cannot be written (`Fails.refuses`).
-/
import HttpClient.Proofs.Call.FirstFailure
import HttpClient.Proofs.Cookie.Rendering

namespace HttpClient

open Auth Redirect Call

/-- Responses that arrive leave a jar one that only responses have put cookies into. -/
theorem Jar.Served.withArrivals {jar : Jar} (h : jar.Served) (arrived : List Arrival) :
    (jar.withArrivals arrived).Served := by
  induction arrived generalizing jar with
  | nil => exact h
  | cons a arrived ih =>
      have behind : ((Jar.Operation.extract a.response.headers a.time).on jar).Served := h.on rfl
      exact ih behind

namespace Client

variable {c : Client} {mode : Mode} {failing : Changes} {e : Error}

theorem ExchangeFails.refuses {r : Request} (h : c.ExchangeFails mode r failing .cookies e) :
    ∃ t ∈ moments failing, ∃ q : Request, q.applyJarCookie (c.cookies t) = .error e := by
  cases h with
  | cookies _ _ refused => exact ⟨_, List.mem_cons_self, r, refused⟩

theorem Fails.refuses {standing : Standing} (h : c.Fails mode standing failing .cookies e) :
    ∃ t ∈ moments failing, ∃ q : Request, q.applyJarCookie (c.cookies t) = .error e := by
  cases h with
  | round fails => exact fails.refuses
  | @cookies _ r t _ refused =>
      refine ⟨t, List.mem_cons_self, r.next, ?_⟩
      unfold Redirected.proceed at refused
      cases written : r.next.applyJarCookie (c.cookies t) with
      | ok q =>
          rw [written] at refused
          cases refused
      | error e' =>
          rw [written] at refused
          cases refused
          rfl
  | leg _ fails =>
      obtain ⟨t, among, refused⟩ := fails.refuses
      exact ⟨t, List.mem_cons_of_mem _ among, refused⟩

/-- A jar that came about by responses, by removing cookies and by clearing it, at whatever times.

Its names and values are such as a server can set.  What it renders is a field value, and parted at
`; ` and each part at its first `=` it gives the live names and values again, in ascending order of
names.  So two such jars render to the same only if the same is live in them.

A call that begins with such a jar, in the company of others that leave it one, has one all the
time, and nowhere in it can the cookies not be written; so it does not fail at that. -/
theorem cookies_of_servers {jar : Jar} (served : jar.Served) :
    (∀ name cookie, (name, cookie) ∈ jar.entries → SetCookie.Settable name cookie.value) ∧
    (∀ now : Instant,
      (∀ name value, (name, value) ∈ jar.live now ↔
        ∃ cookie, (name, cookie) ∈ jar.entries ∧ cookie.value = value ∧
          ∀ t, cookie.expires = some t → now < t) ∧
      (jar.live now).Pairwise (·.1 < ·.1) ∧
      (jar.render now = none ↔ jar.live now = []) ∧
      (∀ s, jar.render now = some s →
        (∃ v, HeaderValue.ofText s = .ok v) ∧ Jar.readPairs s = (jar.live now).map some) ∧
      ∀ (jar' : Jar) (now' : Instant), jar'.Served → jar.live now ≠ jar'.live now' →
        jar.render now ≠ jar'.render now') ∧
    ∀ (c : Client) (mode : Mode) (r : Request) (options : Options)
      (rely : Session → Session → Prop) (s s' : Session) (own : Changes)
      (result : Except Error Answer),
      (∀ t t', rely t t' → t.jar.Served → t'.jar.Served) → s.jar = jar →
      Goes rely (c.call mode r options) s own result s' →
      s'.jar.Served ∧
      (∀ t ∈ moments own, t.jar.Served ∧
        ∀ q : Request, ∃ q', q.applyJarCookie (c.cookies t) = .ok q') ∧
      ∀ standing failing exit e, c.Fails mode standing failing exit e →
        moments failing ⊆ moments own → exit ≠ .cookies := by
  refine ⟨fun name cookie there => served.plain _ there, fun now => ⟨fun name value => ?_,
    Jar.ascending_live jar now, Jar.render_eq_none_iff, fun s rendered => ?_,
    fun jar' now' served' differ same => ?_⟩, ?_⟩
  · simp only [Jar.mem_live, Jar.mem_entries]
  · exact ⟨HeaderValue.ofText_of_legible (served.plain.legible_render rendered),
      served.plain.readPairs_render rendered⟩
  · exact differ (served.plain.live_of_render served'.plain same)
  · intro c mode r options rely s s' own result others begins went
    have steps : c.Steps mode _ := steps_arrivals
    obtain ⟨throughout, last⟩ := Activity.Goes.keeps (P := fun t : Session => t.jar.Served) others
      went (fun change among before => by
        rw [steps.call went change among]
        exact before.withArrivals _) (by rw [begins]; exact served)
    have writable : ∀ t ∈ moments own, t.jar.Served ∧
        ∀ q : Request, ∃ q', q.applyJarCookie (c.cookies t) = .ok q' := by
      intro t among
      obtain ⟨change, there, rfl⟩ := List.mem_map.mp among
      have here := throughout change there
      exact ⟨here, fun q => q.applyJarCookie_of_plain here.plain⟩
    refine ⟨last, writable, ?_⟩
    rintro standing failing exit e fails within rfl
    obtain ⟨t, among, q, refused⟩ := fails.refuses
    obtain ⟨-, always⟩ := writable t (within among)
    obtain ⟨q', written⟩ := always q
    rw [refused] at written
    cases written

section Sampled

open Sample

/-- A site whose cookies have quotes, tabs and more equals signs than they need, and that leads
elsewhere; what it sets with no name does not count. -/
def oddities : Client :=
  client
    [reply found
      [(.location, "/b"), (.setCookie, " a\tb =\"c=d\" ; Path=/"), (.setCookie, "=x"),
        (.setCookie, "e= \"")]
      .empty,
      fine] none 9

/-- The site's cookies are written into the second request, and they are read as they were set. -/
theorem cookies_of_servers_of_oddities :
    let sent := oddities.send .blocking { method := .get, url := place "/a" } {} {}
    (∃ own, Goes Eq (oddities.call .blocking { method := .get, url := place "/a" } {}) {} own
        sent.1 sent.2 ∧
      ∀ t ∈ moments own, ∀ q : Request, ∃ q', q.applyJarCookie (oddities.cookies t) = .ok q') ∧
    sent.2.jar.render .epoch = some "a\tb=c=d; e=" ∧
    sent.2.jar.live .epoch = [("a\tb", "c=d"), ("e", "")] ∧
    Jar.readPairs "a\tb=c=d; e=" = [some ("a\tb", "c=d"), some ("e", "")] ∧
    sent.2.jar.render .epoch ≠ Jar.empty.render .epoch := by
  intro sent
  have served : Jar.empty.Served := ⟨[], fun _ h => absurd h List.not_mem_nil, rfl⟩
  have went : Goes Eq _ _ _ _ _ :=
    goes_send (fun _ => rfl) oddities .blocking { method := .get, url := place "/a" } {} {}
  obtain ⟨-, -, calls⟩ := cookies_of_servers served
  obtain ⟨left, written, -⟩ := calls oddities .blocking _ {} Eq {} _ _ _
    (fun _ _ same before => same ▸ before) rfl went
  have rendered : sent.2.jar.render .epoch = some "a\tb=c=d; e=" := by decide +kernel
  have live : sent.2.jar.live .epoch = [("a\tb", "c=d"), ("e", "")] := by decide +kernel
  obtain ⟨-, reads, -⟩ := cookies_of_servers left
  obtain ⟨-, -, -, back, apart⟩ := reads .epoch
  obtain ⟨-, read⟩ := back _ rendered
  refine ⟨⟨_, went, fun t among => (written t among).2⟩, rendered, live, ?_,
    apart .empty .epoch served ?_⟩
  · rw [read]
    exact congrArg (List.map some) live
  · exact fun hnone => absurd (live.symm.trans hnone) (List.cons_ne_nil _ _)

end Sampled

end Client

end HttpClient
