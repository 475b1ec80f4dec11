/-
# Where redirects lead

Of a chain of redirects, in which nobody edits the url of a request between the exchanges, the urls
are told by the first one and the locations of the responses (`Stage.Onward`).  Each is the url that
the first location leads to from the url before, but for the fragment: that is the one of the last
location so far that named one.  All are urls of http or https and have a host.

A location that leads to another scheme is not followed, and the call fails.  It says so unless it
does not look at the location at all, because there was one redirect too many (`refusal`).
-/
import HttpClient.Proofs.Call.Urls
import HttpClient.Proofs.Last
import HttpClient.Proofs.Redirect.Authorization
import HttpClient.Proofs.Url.Fragment
import HttpClient.Proofs.Url.Web

namespace HttpClient

open Auth Redirect Call

def Url.withoutFragment (u : Url) : Url := { u with fragment := none }

/-- What a location leads to from a url of the web has the fragment that the location names, or
none. -/
theorem Redirect.resolve_web {previous u : Url} {location : String} (made : previous.Made)
    (followed : isFollowedScheme previous.scheme = true)
    (resolved : resolve previous location = .ok u) (followed' : isFollowedScheme u.scheme = true) :
    u.Made ∧ u.fragment = fragmentNamed? location := by
  obtain ⟨-, written⟩ := made.host (kind_of_followed followed)
  obtain ⟨text, -, read⟩ := resolve_ok resolved
  exact ⟨.resolved made read, resolve_fragment (Url.hostAndPort_hashless written) resolved
    (kind_of_followed followed')⟩

namespace Client

/-! ## One redirect -/

/-- The first location of the response. -/
def Stage.location? (a : Stage) : Option String :=
  a.response.bind (·.headers.firstText? .location)

def Stage.fragmentNamed? (a : Stage) : Option String := a.location?.bind Redirect.fragmentNamed?

/-- The location leads from the url of one stage to that of the other, but for the fragment. -/
def Stage.LocatesAs (a b : Stage) : Prop :=
  ∃ location u, a.location? = some location ∧ resolve a.url location = .ok u ∧
    b.url.withoutFragment = u.withoutFragment

theorem Stage.Onward.url {a b : Stage} (h : a.Onward b) (made : a.url.Made)
    (followed : isFollowedScheme a.url.scheme = true) :
    b.url.Made ∧ isFollowedScheme b.url.scheme = true ∧ a.LocatesAs b ∧
      b.url.fragment = a.fragmentNamed?.or a.url.fragment := by
  obtain ⟨response, came, aimed⟩ := h.target
  obtain ⟨location, u, there, resolved, followed', url⟩ := target_ok aimed
  have first : a.location? = some location := by
    rw [location?, came, Option.bind_some]
    exact there
  obtain ⟨made', fragment⟩ := resolve_web made followed resolved followed'
  refine ⟨?_, ?_, ⟨location, u, first, resolved, ?_⟩, ?_⟩
  · rw [url]
    exact .edited made' rfl rfl
  · rw [url]
    exact followed'
  · rw [url]
    rfl
  · rw [url, fragmentNamed?, first, Option.bind_some, fragment]

/-! ## The whole chain -/

/-- What is known of each url of a chain. -/
theorem urls_along {first leg : Stage} {later : List Stage} {k : Nat}
    (run : (first :: later).IsChain Stage.Onward) (made : first.url.Made)
    (followed : isFollowedScheme first.url.scheme = true)
    (found : (first :: later)[k]? = some leg) :
    leg.url.Made ∧ isFollowedScheme leg.url.scheme = true ∧
      leg.url.fragment = (((first :: later).take k).filterMap Stage.fragmentNamed?).getLast?.or
        first.url.fragment ∧
      ∀ next, (first :: later)[k + 1]? = some next → leg.LocatesAs next := by
  induction later generalizing first k with
  | nil =>
      cases k with
      | zero =>
          cases found
          exact ⟨made, followed, rfl, fun _ h => by simp at h⟩
      | succ k => simp at found
  | cons second rest ih =>
      obtain ⟨hop, onward⟩ := List.isChain_cons_cons.mp run
      obtain ⟨made', followed', locates, fragment⟩ := hop.url made followed
      cases k with
      | zero =>
          cases found
          refine ⟨made, followed, rfl, fun next there => ?_⟩
          cases there
          exact locates
      | succ k =>
          obtain ⟨madeLater, followedLater, last, leads⟩ :=
            ih onward made' followed' (k := k) (by simpa using found)
          refine ⟨madeLater, followedLater, ?_, fun next there => leads next (by simpa using there)⟩
          rw [last, fragment, List.take_succ_cons, getLast?_filterMap_cons]

/-! ## Locations that lead to other schemes -/

/-- The location of the response, which is a redirect, leads to a url that is none of http or
https. -/
def Stage.LeadsAbroad (a : Stage) (response : Response) (u : Url) : Prop :=
  a.response = some response ∧ response.isRedirect = true ∧
    ∃ location, response.headers.firstText? .location = some location ∧
      resolve a.url location = .ok u ∧ isFollowedScheme u.scheme = false

/-- What a call fails with there: the scheme, unless one redirect more than this one would be too
many already. -/
def refusal (chain : Sending) (response : Response) (u : Url) : Error :=
  if chain.follow = true ∧ chain.maxRedirects ≤ chain.history.length then
    .tooManyRedirects response.url chain.history.length
  else
    .unsupportedProtocol ("redirect from " ++ response.url.text ++ " to scheme: " ++ u.scheme)

theorem Stage.LeadsAbroad.receive {a : Stage} {response : Response} {u : Url}
    (h : a.LeadsAbroad response u) :
    a.chain.receive response = .error (refusal a.chain response u) := by
  obtain ⟨-, redirects, location, there, resolved, foreign⟩ := h
  have resolved : resolve a.chain.request.url location = .ok u := resolved
  have refused (lenient : Bool) : next a.chain.request response lenient =
      .error (.unsupportedProtocol
        ("redirect from " ++ response.url.text ++ " to scheme: " ++ u.scheme)) := by
    unfold next target
    rw [there]
    dsimp only
    rw [resolved]
    dsimp only
    rw [foreign]
    rfl
  unfold Sending.receive refusal
  rw [redirects]
  cases a.chain.follow with
  | false => simp [refused, Except.map]
  | true =>
      by_cases full : a.chain.maxRedirects ≤ a.chain.history.length
      · simp [full]
      · simp [full, refused, Except.map]

variable {c : Client} {mode : Mode} {own : Changes} {chain : Sending} {response : Response}
  {stages : List Stage} {result : Except Error Answer}

theorem Legs.abroad {stage : Stage} {response' : Response} {u : Url}
    (h : c.Legs mode chain response own stages result) (there : stage ∈ stages)
    (abroad : stage.LeadsAbroad response' u) :
    stages.getLast? = some stage ∧ result = .error (refusal stage.chain response' u) := by
  -- a chain that gets on has not received such a response
  have first {chain : Sending} {response : Response} {outcome : Except Error Received}
      (received : chain.receive response = outcome) (same : stage = ⟨chain, some response⟩) :
      outcome = .error (refusal stage.chain response' u) := by
    cases same
    have came : some response = some response' := abroad.1
    cases came
    rw [← received]
    exact abroad.receive
  induction h with
  | done received =>
      have impossible := first received (List.mem_singleton.mp there)
      cases impossible
  | refused received =>
      have same := List.mem_singleton.mp there
      refine ⟨by rw [same]; rfl, ?_⟩
      cases first received same
      rfl
  | stuck received _ =>
      have impossible := first received (List.mem_singleton.mp there)
      cases impossible
  | unanswered received _ _ =>
      rcases List.mem_cons.mp there with same | there
      · have impossible := first received same
        cases impossible
      · cases List.mem_singleton.mp there
        obtain ⟨came, -⟩ := abroad
        cases came
  | leg received _ _ _ ih =>
      rcases List.mem_cons.mp there with same | there
      · have impossible := first received same
        cases impossible
      · obtain ⟨last, ended⟩ := ih there
        refine ⟨?_, ended⟩
        rw [List.getLast?_cons, last]
        rfl

/-! ## The whole call -/

theorem Legs.sent_web (hooks : ∀ hook ∈ c.requestHooks, KeepsUrl hook)
    (made : chain.request.url.Made) (followed : isFollowedScheme chain.request.url.scheme = true)
    (h : c.Legs mode chain response own stages result) {url : Url} (there : url ∈ Call.urls own) :
    url.Made ∧ isFollowedScheme url.scheme = true := by
  have run := h.onward hooks
  obtain ⟨sent, -⟩ := h.urls hooks
  obtain ⟨stage, among, rfl⟩ := List.mem_map.mp (sent.subset there)
  obtain ⟨k, found⟩ := List.mem_iff_getElem?.mp (List.mem_of_mem_tail among)
  obtain ⟨later, rfl⟩ := h.stages_head
  obtain ⟨madeHere, followedHere, -⟩ := urls_along run made followed found
  exact ⟨madeHere, followedHere⟩

/-- Where redirects lead, however many there are, if nobody edits the url of a request between the
exchanges.

Of a chain that begins with a url of http or https, each url is one of these and has a host.  It is
the one that the first location of the response before leads to, but for the fragment, and that is
the one of the last location so far that named a fragment, or else that of the first url.  A
location that leads to another scheme is refused.

In every call, the stages form such a chain, which begins with the url of the request without the
login, and transports are given that url and then those of the later stages.  None but urls of http
and https are sent.  A location that leads to another scheme ends the call: with that failure, or
with that of too many redirects where there is no room for another one. -/
theorem urls_of_locations :
    (∀ (first : Stage) (later : List Stage), (first :: later).IsChain Stage.Onward →
      first.url.Made → isFollowedScheme first.url.scheme = true →
      ∀ (k : Nat) (leg : Stage), (first :: later)[k]? = some leg →
        isFollowedScheme leg.url.scheme = true ∧ leg.url.hostText ≠ "" ∧
        leg.url.fragment = (((first :: later).take k).filterMap Stage.fragmentNamed?).getLast?.or
          first.url.fragment ∧
        (∀ next, (first :: later)[k + 1]? = some next → leg.LocatesAs next) ∧
        ∀ response u, leg.LeadsAbroad response u →
          leg.chain.receive response = .error (refusal leg.chain response u)) ∧
    ∀ (c : Client) (mode : Mode) (rely : Session → Session → Prop) (s s' : Session)
      (own : Changes) (r : Request) (options : Options) (result : Except Error Answer),
      (∀ hook ∈ c.requestHooks, KeepsUrl hook) →
      (∀ a, options.auth.or c.auth = some a → a.KeepsUrl) →
      r.url.Made → isFollowedScheme r.url.scheme = true →
      Goes rely (c.call mode r options) s own result s' →
      ∃ opening legs rounds stages, own = opening ++ legs ∧
        c.Course mode r options opening legs rounds stages result ∧
        (∀ url ∈ urls opening, url = r.url.withoutLogin) ∧
        urls legs <+: stages.tail.map Stage.url ∧
        (∀ first ∈ stages.head?, first.url = r.url.withoutLogin) ∧
        stages.IsChain Stage.Onward ∧
        (∀ url ∈ urls own, isFollowedScheme url.scheme = true ∧ url.hostText ≠ "") ∧
        ∀ stage ∈ stages, ∀ response u, stage.LeadsAbroad response u →
          stages.getLast? = some stage ∧ result = .error (refusal stage.chain response u) := by
  have web {url : Url} (made : url.Made) (followed : isFollowedScheme url.scheme = true) :
      isFollowedScheme url.scheme = true ∧ url.hostText ≠ "" :=
    ⟨followed, (made.host (kind_of_followed followed)).1⟩
  constructor
  · intro first later run made followed k leg found
    obtain ⟨made', followed', fragment, leads⟩ := urls_along run made followed found
    obtain ⟨scheme, host⟩ := web made' followed'
    exact ⟨scheme, host, fragment, leads, fun _ _ abroad => abroad.receive⟩
  · intro c mode rely s s' own r options result hooks auth made followed h
    have bare : r.url.withoutLogin.Made := made.withoutLogin
    have followed' : isFollowedScheme r.url.withoutLogin.scheme = true := followed
    obtain ⟨opening, legs, rounds, stages, rfl, course⟩ := goes_call h
    refine ⟨opening, legs, rounds, stages, rfl, course, ?_⟩
    have early (all : ∀ url ∈ urls opening, url = r.url.withoutLogin) :
        ∀ url ∈ urls opening, isFollowedScheme url.scheme = true ∧ url.hostText ≠ "" := by
      intro url there
      rw [all url there]
      exact web bare followed'
    cases course with
    | unopened opened =>
        obtain ⟨all, -⟩ := opened.urls hooks auth
        rw [List.append_nil]
        exact ⟨all, List.prefix_refl _, by simp, .nil, early all, by simp⟩
    | opened opened behind =>
        rename_i last follow
        obtain ⟨all, ended⟩ := opened.urls hooks auth
        obtain ⟨address, -⟩ := ended last follow rfl
        have first : (c.chain last follow).request.url = r.url.withoutLogin := address
        rw [← first] at bare followed'
        obtain ⟨sent, -⟩ := behind.urls hooks
        refine ⟨all, sent, fun stage there => ?_, behind.onward hooks, ?_,
          fun _ there _ _ led => behind.abroad there led⟩
        · obtain ⟨later, rfl⟩ := behind.stages_head
          cases there
          exact first
        · rw [urls_append]
          refine List.forall_mem_append.mpr ⟨early all, fun url there => ?_⟩
          obtain ⟨madeHere, followedHere⟩ := behind.sent_web hooks bare followed' there
          exact web madeHere followedHere

/-! ## Around, and abroad -/

section Sampled

open Sample

/-- A server that leads on three times, at first without a fragment, and then abroad. -/
def roaming (maxRedirects : Nat) : Client :=
  client [moved "b", moved "c#x", moved "#", moved "ftp://[::1]/d"] none maxRedirects

/-- A request for a place with a fragment. -/
def roam : Request :=
  { request .get .empty with url := { Tour.place "http" 1 "/a" with fragment := some "z" } }

theorem roam_made : roam.url.Made := .parsed (s := "http://[::1]/a#z") (by decide +kernel)

/-- The fragments stay until a location names another one, also an empty one, and the last location
ends the call. -/
theorem urls_of_roaming :
    ∃ opening legs rounds stages,
      (roaming 9).changes .blocking roam {} {} = opening ++ legs ∧
      (roaming 9).Course .blocking roam {} opening legs rounds stages
        ((roaming 9).send .blocking roam {} {}).1 ∧
      (urls (opening ++ legs)).map (·.text) =
        ["http://[::1]/a#z", "http://[::1]/b#z", "http://[::1]/c#x", "http://[::1]/c#"] ∧
      (∀ stage ∈ stages, stage.url.hostText ≠ "") ∧
      ((roaming 9).send .blocking roam {} {}).1 =
        .error (.unsupportedProtocol "redirect from http://[::1]/c# to scheme: ftp") := by
  have goes : Goes Eq _ _ _ _ _ := goes_send (fun _ => rfl) (roaming 9) .blocking roam {} {}
  obtain ⟨opening, legs, rounds, stages, split, course, -, -, head, run, -, -⟩ :=
    urls_of_locations.2 _ _ _ _ _ _ _ _ _ (fun _ there => absurd there List.not_mem_nil)
      (fun _ h => by cases h) roam_made (by decide) goes
  refine ⟨opening, legs, rounds, stages, split, course, ?_, ?_, ?_⟩
  · rw [← split]
    decide +kernel
  · cases stages with
    | nil => exact fun _ there => absurd there List.not_mem_nil
    | cons first later =>
        intro stage there
        obtain ⟨k, found⟩ := List.mem_iff_getElem?.mp there
        have url : first.url = roam.url := head first rfl
        obtain ⟨-, host, -⟩ := urls_of_locations.1 first later run (by rw [url]; exact roam_made)
          (by rw [url]; decide) k stage found
        exact host
  · exact send_of_failure? (by decide +kernel)

/-- The url of the last request before the server leads abroad. -/
def shore : Url := { Tour.place "http" 1 "/c" with fragment := some "" }

/-- The fourth location leads to ftp, but the call does not say so: there was no room for a fourth
redirect. -/
theorem abroad_without_room :
    (resolve shore "ftp://[::1]/d").map (·.scheme) = .ok "ftp" ∧
      ((roaming 3).send .blocking roam {} {}).1 = .error (.tooManyRedirects shore 3) ∧
      ∀ text, ((roaming 3).send .blocking roam {} {}).1 ≠ .error (.unsupportedProtocol text) := by
  have ended : ((roaming 3).send .blocking roam {} {}).1 = .error (.tooManyRedirects shore 3) :=
    send_of_failure? (by decide +kernel)
  refine ⟨by decide +kernel, ended, fun text same => ?_⟩
  rw [ended] at same
  cases same

end Sampled

end Client

end HttpClient
