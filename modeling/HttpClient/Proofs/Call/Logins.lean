/-
# Logins in the urls that transports are given

A call takes the login out of the url of its request before it sends anything, and what
authenticates a request does not change its url.  So in the first phase of a call no
transport sees a login.

Behind a redirect the url is the one that the location leads to, and nothing takes a login
out of that.  A location that names an authority leads to the login that it spells there,
any other one keeps the login of the url before it (`Stage.LeadsTo`).  So the logins that
transports see are those that servers have written into locations, and none is seen exactly
if none was written (`anonymous_along`).
-/
import HttpClient.Proofs.Call.Urls
import HttpClient.Proofs.Url.Login

namespace HttpClient

open Auth Redirect Call

namespace Client

variable {c : Client} {mode : Mode} {own : Changes}

/-! ## What a location makes of the login -/

/-- A response leads to the next stage, to the login that its location names, if it names one. -/
def Stage.LeadsTo (a b : Stage) : Prop :=
  ∃ response location, a.response = some response ∧
    response.headers.firstText? .location = some location ∧
    b.chain.request.url.userinfo =
      (loginNamed? a.chain.request.url location).getD a.chain.request.url.userinfo

/-- The location of the response names a login that is not empty. -/
def Stage.NamesLogin (a : Stage) : Prop :=
  ∃ response location login, a.response = some response ∧
    response.headers.firstText? .location = some location ∧
    loginNamed? a.chain.request.url location = some login ∧ login ≠ ("", none)

def Stage.isAnonymous (a : Stage) : Bool := a.chain.request.url.isAnonymous

theorem Stage.LeadsTo.anonymous_iff {a b : Stage} (h : a.LeadsTo b) (start : a.isAnonymous = true) :
    b.isAnonymous = true ↔ ¬ a.NamesLogin := by
  obtain ⟨response, location, came, there, login⟩ := h
  have empty : a.chain.request.url.userinfo = ("", none) := (Url.isAnonymous_iff _).mp start
  rw [Stage.isAnonymous, Url.isAnonymous_iff, login, empty]
  constructor
  · rintro same ⟨_, _, _, came', there', named, hne⟩
    rw [came] at came'
    cases came'
    rw [there] at there'
    cases there'
    rw [named] at same
    exact hne same
  · intro unnamed
    cases named : loginNamed? a.chain.request.url location with
    | none => rfl
    | some login =>
        refine Decidable.byContradiction fun hne => ?_
        exact unnamed ⟨response, location, login, came, there, named, hne⟩

/-- As far as one looks, no url has a login exactly if no location names one. -/
theorem anonymous_along {first : Stage} {later : List Stage}
    (run : (first :: later).IsChain Stage.LeadsTo) (start : first.isAnonymous = true) {n : Nat}
    (within : n ≤ later.length) :
    (∀ stage ∈ later.take n, stage.isAnonymous = true) ↔
      ∀ stage ∈ (first :: later).take n, ¬ stage.NamesLogin := by
  induction later generalizing first n with
  | nil =>
      obtain rfl : n = 0 := Nat.le_zero.mp within
      simp
  | cons second rest ih =>
      cases n with
      | zero => simp
      | succ n =>
          obtain ⟨hop, onward⟩ := List.isChain_cons_cons.mp run
          rw [List.take_succ_cons, List.take_succ_cons, List.forall_mem_cons, List.forall_mem_cons,
            hop.anonymous_iff start]
          refine and_congr_right fun unnamed => ?_
          exact ih onward ((hop.anonymous_iff start).mpr unnamed) (Nat.le_of_succ_le_succ within)

theorem Stage.Onward.leadsTo {a b : Stage} (h : a.Onward b)
    (followed : isFollowedScheme a.url.scheme = true) :
    isFollowedScheme b.url.scheme = true ∧ a.LeadsTo b := by
  obtain ⟨response, came, aimed⟩ := h.target
  obtain ⟨followed', location, there, login⟩ := target_login followed aimed
  exact ⟨followed', response, location, came, there, login⟩

theorem leadsTo_along {first : Stage} {later : List Stage}
    (run : (first :: later).IsChain Stage.Onward)
    (followed : isFollowedScheme first.url.scheme = true) :
    (first :: later).IsChain Stage.LeadsTo := by
  induction later generalizing first with
  | nil => exact .singleton _
  | cons second rest ih =>
      obtain ⟨hop, onward⟩ := List.isChain_cons_cons.mp run
      obtain ⟨followed', leads⟩ := hop.leadsTo followed
      exact List.isChain_cons_cons.mpr ⟨leads, ih onward followed'⟩

theorem Legs.leadsTo {chain : Sending} {response : Response} {stages : List Stage}
    {result : Except Error Answer} (hooks : ∀ hook ∈ c.requestHooks, KeepsUrl hook)
    (followed : isFollowedScheme chain.request.url.scheme = true)
    (h : c.Legs mode chain response own stages result) : stages.IsChain Stage.LeadsTo := by
  have run := h.onward hooks
  obtain ⟨later, rfl⟩ := h.stages_head
  exact leadsTo_along run followed

/-! ## The whole call -/

/-- However a call without request hooks goes that authenticates in one of the ways that are built
in.

In its first phase transports are given the url of its request without the login.  In the second
one they are given the urls of the stages behind the first, up to the last one or the one before.
The first stage has the url of the request without the login, and each response leads to the login
that its location names, or keeps the one that was there.  So no transport is given a url with a
login exactly if no location that was followed to a transport names a login. -/
theorem logins_of_locations {rely : Session → Session → Prop} {s s' : Session} {r : Request}
    {options : Options} {result : Except Error Answer} (silent : c.requestHooks = [])
    (builtIn : ∀ auth, options.auth.or c.auth = some auth → auth.isBuiltIn = true)
    (h : Goes rely (c.call mode r options) s own result s') :
    ∃ opening legs rounds stages, own = opening ++ legs ∧
      c.Course mode r options opening legs rounds stages result ∧
      (∀ url ∈ urls opening, url = r.url.withoutLogin) ∧
      urls legs <+: stages.tail.map (·.chain.request.url) ∧
      stages.tail.length ≤ (urls legs).length + 1 ∧
      (∀ first ∈ stages.head?, first.chain.request.url = r.url.withoutLogin) ∧
      stages.IsChain Stage.LeadsTo ∧
      ((∀ url ∈ urls own, url.isAnonymous = true) ↔
        ∀ stage ∈ stages.take (urls legs).length, ¬ stage.NamesLogin) := by
  obtain ⟨opening, legs, rounds, stages, rfl, course⟩ := goes_call h
  refine ⟨opening, legs, rounds, stages, rfl, course, ?_⟩
  have hooks : ∀ hook ∈ c.requestHooks, KeepsUrl hook := by
    rw [silent]
    exact fun _ there => absurd there List.not_mem_nil
  have auth (a : Auth) (there : options.auth.or c.auth = some a) : a.KeepsUrl :=
    keepsUrl_of_isBuiltIn (builtIn a there)
  have anonymous {urls : List Url} (all : ∀ url ∈ urls, url = r.url.withoutLogin) :
      ∀ url ∈ urls, url.isAnonymous = true := by
    intro url there
    rw [all url there]
    exact r.url.withoutLogin_isAnonymous
  cases course with
  | unopened opened =>
      obtain ⟨all, -⟩ := opened.urls hooks auth
      refine ⟨all, List.prefix_refl _, Nat.zero_le _, by simp, .nil, ?_⟩
      rw [List.append_nil]
      exact iff_of_true (anonymous all) (by simp)
  | opened opened behind =>
      rename_i last follow
      obtain ⟨all, ended⟩ := opened.urls hooks auth
      obtain ⟨address, followed⟩ := ended last follow rfl
      have run := behind.leadsTo hooks (by rw [chain, address]; exact followed)
      obtain ⟨sent, long⟩ := behind.urls hooks
      obtain ⟨later, rfl⟩ := behind.stages_head
      have first : (c.chain last follow).request.url = r.url.withoutLogin := address
      refine ⟨all, sent, long, fun stage there => ?_, run, ?_⟩
      · cases there
        exact first
      · have start : Stage.isAnonymous ⟨c.chain last follow, some last.response⟩ = true := by
          rw [Stage.isAnonymous, first]
          exact r.url.withoutLogin_isAnonymous
        have within : (urls legs).length ≤ later.length := by
          simpa using sent.length_le
        rw [← anonymous_along run start within, urls_append, List.forall_mem_append]
        have same : urls legs = (later.take (urls legs).length).map (·.chain.request.url) := by
          rw [List.map_take]
          exact List.prefix_iff_eq_take.mp sent
        have seen : (∀ url ∈ urls legs, url.isAnonymous = true) ↔
            ∀ stage ∈ later.take (urls legs).length, stage.isAnonymous = true := by
          conv_lhs => rw [same]
          exact List.forall_mem_map
        rw [seen]
        exact and_iff_right (anonymous all)

/-! ## A login in a location -/

section Sampled

open Sample

/-- A server that leads on twice, at first with a login. -/
def leading : Client := client [moved "http://u:p@[::1]/b", moved "c", fine] none 9

/-- The login that the first location names is seen, and it stays behind the second location. -/
theorem logins_of_leading :
    ∃ opening legs rounds stages,
      leading.changes .blocking (request .get .empty) {} {} = opening ++ legs ∧
      leading.Course .blocking (request .get .empty) {} opening legs rounds stages
        (leading.send .blocking (request .get .empty) {} {}).1 ∧
      (urls (opening ++ legs)).map (·.userinfo) = [("", none), ("u", some "p"), ("u", some "p")] ∧
      (∀ url ∈ urls opening, url = place "/a") ∧
      stages.IsChain Stage.LeadsTo ∧
      ∃ stage ∈ stages.take (urls legs).length, stage.NamesLogin := by
  have goes : Goes Eq _ _ _ _ _ :=
    goes_send (fun _ => rfl) leading .blocking (request .get .empty) {} {}
  obtain ⟨opening, legs, rounds, stages, split, course, first, -, -, -, run, unnamed⟩ :=
    logins_of_locations rfl (fun _ same => by cases same) goes
  have seen : (urls (leading.changes .blocking (request .get .empty) {} {})).map (·.userinfo) =
      [("", none), ("u", some "p"), ("u", some "p")] := by decide +kernel
  have named : ¬ ∀ url ∈ urls (leading.changes .blocking (request .get .empty) {} {}),
      url.isAnonymous = true := by
    intro all
    have empty : ∀ login ∈ [("", none), ("u", some "p"), ("u", some "p")],
        login = ("", none) := by
      rw [← seen]
      exact List.forall_mem_map.mpr fun url there => (Url.isAnonymous_iff url).mp (all url there)
    revert empty
    decide
  rw [unnamed] at named
  refine ⟨opening, legs, rounds, stages, split, course, ?_, first, run, by simpa using named⟩
  rw [← split]
  exact seen

/-- The request has no login, and nobody authenticates, but a transport is given a url with the login
of a location. -/
theorem login_given_to_transport :
    leading.requestHooks = [] ∧ leading.responseHooks = [] ∧ leading.auth = none ∧
      (request .get .empty).url.isAnonymous = true ∧
      ∃ url ∈ urls (leading.changes .blocking (request .get .empty) {} {}),
        url.text = "http://u:p@[::1]/b" := by
  decide +kernel

end Sampled

end Client

end HttpClient
