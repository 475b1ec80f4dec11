/-
# Requests that are made ready

What a call starts from is put together from three places: the request, the settings of the client,
and the options of the call.  Each part of the outcome is said here in terms of these alone
(`Completes`): the url has lost its login and nothing else, every name has the values of the request
or those of the settings and never some of both, and the way to authenticate is the first one that
is given, the login in the url coming last.

The login in the url is read by undoing percent coding once, and by UTF-8 (`Url.NamesLogin`).  That
it cannot be read is all that can go wrong with a url of the web (`prepared_as_configured`).
-/
import HttpClient.Proofs.Auth.Basic
import HttpClient.Proofs.Call.Course
import HttpClient.Proofs.Text.Decoding
import HttpClient.Proofs.Url.Login
import HttpClient.Proofs.Url.Web
import HttpClient.Script.Transport

namespace HttpClient

open Auth Text

/-! ## The login in a url -/

namespace Url

/-- What a part of a login spells: percent coding undone once, its bytes are those of the text. -/
def Spells (part s : String) : Prop := Percent.decode part.toList = utf8 s

instance (part s : String) : Decidable (Spells part s) := inferInstanceAs (Decidable (_ = _))

/-- The login that a url names; one part or both may be empty. -/
structure NamesLogin (u : Url) (l : Login) : Prop where
  username : Spells u.username l.username
  password : Spells (u.password?.getD "") l.password

theorem namesLogin_of_isAnonymous {u : Url} (h : u.isAnonymous = true) : u.NamesLogin ⟨"", ""⟩ := by
  obtain ⟨unnamed, wordless⟩ := Bool.and_eq_true_iff.mp h
  constructor
  · rw [of_decide_eq_true unnamed]
    rfl
  · rw [Option.isNone_iff_eq_none.mp wordless]
    rfl

/-- The other url is the same one but for the login, and it has none. -/
structure LosesLogin (u v : Url) : Prop where
  username : v.username = ""
  password : v.password? = none
  scheme : v.scheme = u.scheme
  host : v.host? = u.host?
  port : v.port? = u.port?
  path : v.path = u.path
  query : v.query = u.query
  fragment : v.fragment = u.fragment

theorem losesLogin (u : Url) : u.LosesLogin u.withoutLogin := by
  obtain ⟨scheme, authority, path, query, fragment⟩ := u
  cases authority with
  | none => exact ⟨rfl, rfl, rfl, rfl, rfl, rfl, rfl, rfl⟩
  | some a => exact ⟨rfl, rfl, rfl, rfl, rfl, rfl, rfl, rfl⟩

end Url

namespace Prepared

theorem decodeLogin_ok_iff {part s : String} : decodeLogin part = .ok s ↔ Url.Spells part s := by
  rw [Url.Spells, eq_comm (a := Percent.decode _), ← decode?_eq_some_iff]
  simp only [decodeLogin]
  cases decode? (Percent.decode part.toList) with
  | none => simp
  | some t => simp

theorem decodeLogin_error {part : String} {e : Error} (h : decodeLogin part = .error e) :
    ∃ report, e = .invalidUrl ("url userinfo: " ++ report) := by
  simp only [decodeLogin] at h
  split at h
  · cases h
  · cases h
    exact ⟨_, rfl⟩

theorem login?_eq (u : Url) :
    login? u = if u.isAnonymous then .ok none else do
      let username ← decodeLogin u.username
      let password ← decodeLogin (u.password?.getD "")
      return some ⟨username, password⟩ := rfl

theorem login?_of_namesLogin {u : Url} {l : Login} (h : u.NamesLogin l) :
    login? u = .ok (if u.isAnonymous then none else some l) := by
  rw [login?_eq, decodeLogin_ok_iff.mpr h.username, decodeLogin_ok_iff.mpr h.password]
  by_cases anonymous : u.isAnonymous = true
  · rw [if_pos anonymous, if_pos anonymous]
  · rw [if_neg anonymous, if_neg anonymous]
    rfl

theorem login?_error {u : Url} (unreadable : ¬ ∃ l, u.NamesLogin l) :
    ∃ report, login? u = .error (.invalidUrl ("url userinfo: " ++ report)) := by
  have named : ¬ u.isAnonymous = true := fun h => unreadable ⟨_, Url.namesLogin_of_isAnonymous h⟩
  rw [login?_eq, if_neg named]
  cases first : decodeLogin u.username with
  | error e =>
      obtain ⟨report, rfl⟩ := decodeLogin_error first
      exact ⟨report, rfl⟩
  | ok username =>
      cases second : decodeLogin (u.password?.getD "") with
      | error e =>
          obtain ⟨report, rfl⟩ := decodeLogin_error second
          exact ⟨report, rfl⟩
      | ok password =>
          have login : u.NamesLogin ⟨username, password⟩ :=
            ⟨decodeLogin_ok_iff.mp first, decodeLogin_ok_iff.mp second⟩
          exact absurd ⟨_, login⟩ unreadable

end Prepared

theorem Url.NamesLogin.unique {u : Url} {l l' : Login} (h : u.NamesLogin l) (h' : u.NamesLogin l') :
    l = l' := by
  have same {part s t : String} (first : Spells part s) (second : Spells part t) : s = t := by
    have once := Prepared.decodeLogin_ok_iff.mpr first
    rw [Prepared.decodeLogin_ok_iff.mpr second] at once
    exact (Except.ok.inj once).symm
  cases l
  cases l'
  rw [Login.mk.injEq]
  exact ⟨same h.username h'.username, same h.password h'.password⟩

/-! ## Settings -/

theorem Request.field_ok {name : String} {value : Bytes} {n : HeaderName} {v : HeaderValue}
    (h : field name value = .ok (n, v)) : n.text = lower name ∧ v.bytes = value := by
  obtain ⟨n', named, h⟩ := Url.ok_of_bind h
  obtain ⟨v', valued, h⟩ := Url.ok_of_bind h
  cases h
  constructor
  · simp only [HeaderName.parse, HeaderName.ofString?] at named
    split at named
    · cases named
      rfl
    · cases named
  · simp only [HeaderValue.parse, HeaderValue.ofBytes?] at valued
    split at valued
    · cases valued
      rfl
    · cases valued

namespace Settings

/-- The default values of a name as they are configured, whatever the case of its letters there. -/
def valuesOf (s : Settings) (n : HeaderName) : List Bytes :=
  (s.defaultHeaders.filter fun field => lower field.1 = n.text).map (·.2)

theorem values_headers {fields : List (String × Bytes)} {h : Headers}
    (made : headers fields = .ok h) (n : HeaderName) :
    (h.values n).map (·.bytes) = (fields.filter fun f => lower f.1 = n.text).map (·.2) := by
  obtain ⟨held, read, rfl⟩ := ok_of_map made
  clear made
  induction fields generalizing held with
  | nil =>
      cases read
      rfl
  | cons field fields ih =>
      obtain ⟨name, value⟩ := field
      rw [List.mapM_cons] at read
      obtain ⟨⟨m, v⟩, here, read⟩ := Url.ok_of_bind read
      obtain ⟨behind, later, read⟩ := Url.ok_of_bind read
      cases read
      obtain ⟨named, rfl⟩ := Request.field_ok here
      have others := ih behind later
      have same : m = n ↔ lower name = n.text := by
        rw [← named]
        exact ⟨congrArg _, fun h => by cases m; cases n; cases h; rfl⟩
      unfold Headers.values at others ⊢
      by_cases its : m = n
      · rw [List.filter_cons_of_pos (by simpa using its),
          List.filter_cons_of_pos (by simpa using same.mp its), List.map_cons, List.map_cons,
          List.map_cons, others]
      · rw [List.filter_cons_of_neg (by simpa using its),
          List.filter_cons_of_neg (by simpa using mt same.mpr its), others]

theorem build_ok {s : Settings} {c : Client} (h : s.build = .ok c) :
    headers s.defaultHeaders = .ok c.defaultHeaders ∧ c.auth = s.auth := by
  obtain ⟨defaults, made, h⟩ := Url.ok_of_bind h
  -- the base url is read in two ways, and what follows is the same
  simp only at h
  split at h
  all_goals
    obtain ⟨base, _, h⟩ := Url.ok_of_bind h
    obtain ⟨router, _, h⟩ := Url.ok_of_bind h
    cases h
    exact ⟨made, rfl⟩

end Settings

/-! ## What is made ready -/

/-- How a call authenticates: as it asks for itself, else as the client does, else with the login in
the url. -/
inductive Authenticates (s : Settings) (options : Options) (u : Url) : Option Auth → Prop where
  | asCalled {a : Auth} : options.auth = some a → Authenticates s options u (some a)
  | asSet {a : Auth} : options.auth = none → s.auth = some a → Authenticates s options u (some a)
  | asNamed {l : Login} : options.auth = none → s.auth = none → u.isAnonymous = false →
      u.NamesLogin l → Authenticates s options u (some (.basic l))
  | notAtAll : options.auth = none → s.auth = none → u.isAnonymous = true →
      Authenticates s options u none

/-- What a call starts from, for a request and the options of the call. -/
structure Completes (s : Settings) (options : Options) (r : Request) (p : Prepared) : Prop where
  method : p.request.method = r.method
  body : p.request.body = r.body
  url : r.url.LosesLogin p.request.url
  own : ∀ n, r.headers.values n ≠ [] → p.request.headers.values n = r.headers.values n
  defaults : ∀ n, r.headers.values n = [] →
    (p.request.headers.values n).map (·.bytes) = s.valuesOf n
  flow : ∃ auth, Authenticates s options r.url auth ∧ p.flow = .ofAuth auth
  /-- A login is sent in one value, whatever values there were before. -/
  signed : ∀ l, Authenticates s options r.url (some (.basic l)) → ∀ journal store,
    ∃ q v, (p.flow.start journal p.request store).1 = ⟨q, none⟩ ∧
      q.headers.values .authorization = [v] ∧ v.bytes = utf8 l.basic

variable {s : Settings} {c : Client} {options : Options} {r : Request} {l : Login}

theorem authenticates_iff {u : Url} {auth : Option Auth} (login : u.NamesLogin l) :
    Authenticates s options u auth ↔
      auth = options.auth.or (s.auth.or ((if u.isAnonymous then none else some l).map .basic)) := by
  constructor
  · intro h
    cases h with
    | asCalled called =>
        rw [called]
        rfl
    | asSet uncalled set =>
        rw [uncalled, set]
        rfl
    | asNamed uncalled unset named login' =>
        rw [uncalled, unset, named, login.unique login']
        rfl
    | notAtAll uncalled unset anonymous =>
        rw [uncalled, unset, anonymous]
        rfl
  · rintro rfl
    cases called : options.auth with
    | some a => exact .asCalled called
    | none =>
        cases set : s.auth with
        | some a => exact .asSet called set
        | none =>
            cases anonymous : u.isAnonymous with
            | true => exact .notAtAll called set anonymous
            | false => exact .asNamed called set anonymous login

theorem Completes.of_parts (built : s.build = .ok c) (login : r.url.NamesLogin l) {p : Prepared}
    (request : p.request = { r with
      url := r.url.withoutLogin
      headers := r.headers.withDefaults c.defaultHeaders })
    (flow : p.flow = .ofAuth (options.auth.or
      (s.auth.or ((if r.url.isAnonymous then none else some l).map .basic)))) :
    Completes s options r p := by
  obtain ⟨defaults, -⟩ := Settings.build_ok built
  have values (n : HeaderName) : p.request.headers.values n
      = if r.headers.contains n then r.headers.values n else c.defaultHeaders.values n := by
    rw [request]
    exact Headers.values_withDefaults _ _ n
  constructor
  case method => rw [request]
  case body => rw [request]
  case url =>
    rw [request]
    exact r.url.losesLogin
  case own =>
    intro n hne
    rw [values, if_pos ((Headers.contains_iff_values _ n).mpr hne)]
  case defaults =>
    intro n hnone
    rw [values, if_neg fun hne => (Headers.contains_iff_values _ n).mp hne hnone]
    exact Settings.values_headers defaults n
  case flow => exact ⟨_, (authenticates_iff login).mpr rfl, flow⟩
  case signed =>
    intro l' chosen journal store
    obtain ⟨v, bytes, written⟩ := l'.apply_eq p.request
    rw [flow, ← (authenticates_iff login).mp chosen]
    refine ⟨{ p.request with headers := p.request.headers.set .authorization v }, v, ?_, ?_, bytes⟩
    · simp only [Flow.ofAuth, Flow.start, written]
      rfl
    · exact (Headers.values_set _ _ _ v).trans (if_pos rfl)

/-- A call to a url of the web can be made ready exactly if the login in the url can be read, and
what becomes of it is said by the request, the settings and the options. -/
theorem prepared_as_configured (built : s.build = .ok c) (made : r.url.Made)
    (web : Redirect.isFollowedScheme r.url.scheme = true) (options : Options) :
    ((∃ l, r.url.NamesLogin l) → ∃ p, c.prepare r options = .ok p ∧ Completes s options r p) ∧
    ((¬ ∃ l, r.url.NamesLogin l) →
      ∃ report, c.prepare r options = .error (.invalidUrl ("url userinfo: " ++ report))) := by
  have checked : Prepared.checkUrl r.url = .ok () :=
    (Prepared.checkUrl_iff _).mpr ⟨web, (made.host (Redirect.kind_of_followed web)).1⟩
  constructor
  · rintro ⟨l, login⟩
    obtain ⟨-, auth⟩ := Settings.build_ok built
    refine ⟨_, ?_, .of_parts (p := ⟨_, _, options.followRedirects.getD c.followRedirects⟩) built
      login rfl rfl⟩
    rw [Client.prepare, checked, Prepared.login?_of_namesLogin login, auth]
    rfl
  · intro unreadable
    obtain ⟨report, failed⟩ := Prepared.login?_error unreadable
    refine ⟨report, ?_⟩
    rw [Client.prepare, checked, failed]
    rfl

namespace Sample

/-- Default values under three names, one of them in two spellings. -/
def settings : Settings :=
  { transport := Script.mock "default" []
    defaultHeaders := [("Accept", utf8 "a"), ("authorization", utf8 "default"),
      ("ACCEPT", utf8 "b"), ("x-d", utf8 "c")] }

/-- A request with a login in which a percent sign is coded, and with values of its own. -/
def coded : Request :=
  { method := .get
    url := ⟨"http", some ⟨"us%2541", some "p%C3%A9", some (.ipv6 [0, 0, 0, 0, 0, 0, 0, 1]), none⟩,
      "/a", none, none⟩
    headers := ⟨[(.authorization, ⟨utf8 "own", by decide⟩), (⟨"x-d", by decide⟩, ⟨[], by decide⟩),
      (.authorization, ⟨utf8 "other", by decide⟩)]⟩ }

end Sample

/-- The login is decoded once, and its value takes the place of the other ones. -/
theorem prepared_as_configured_of_coded :
    ∃ c p, Sample.settings.build = .ok c ∧ c.prepare Sample.coded {} = .ok p ∧
      p.request.url.username = "" ∧ p.request.url.path = "/a" ∧
      (p.request.headers.values ⟨"accept", by decide⟩).map (·.bytes) = [utf8 "a", utf8 "b"] ∧
      (p.request.headers.values ⟨"x-d", by decide⟩).map (·.bytes) = [[]] ∧
      ∀ journal store, ∃ q v, (p.flow.start journal p.request store).1 = ⟨q, none⟩ ∧
        q.headers.values .authorization = [v] ∧ v.bytes = utf8 "Basic dXMlNDE6cMOp" := by
  have built : Sample.settings.build.isOk = true := by decide +kernel
  cases made : Sample.settings.build with
  | error e =>
      rw [made] at built
      cases built
  | ok c =>
      have parsed : Sample.coded.url.Made :=
        .parsed (s := "http://us%2541:p%C3%A9@[::1]/a") (by decide +kernel)
      have login : Sample.coded.url.NamesLogin ⟨"us%41", "pé"⟩ :=
        ⟨by decide +kernel, by decide +kernel⟩
      obtain ⟨p, prepared, completes⟩ :=
        (prepared_as_configured made parsed (by decide) {}).1 ⟨_, login⟩
      refine ⟨c, p, rfl, prepared, completes.url.username, completes.url.path, ?_, ?_, ?_⟩
      · rw [completes.defaults _ (by decide +kernel)]
        decide +kernel
      · rw [completes.own _ (by decide +kernel)]
        decide +kernel
      · intro journal store
        obtain ⟨q, v, started, only, bytes⟩ := completes.signed ⟨"us%41", "pé"⟩
          (.asNamed rfl rfl (by decide +kernel) login) journal store
        exact ⟨q, v, started, only, by rw [bytes]; decide +kernel⟩

end HttpClient
