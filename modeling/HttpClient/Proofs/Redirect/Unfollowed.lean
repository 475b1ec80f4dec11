/-
# Redirects that are not followed

Where redirects are not followed, every response is the end of the chain.  The answer holds the
response as it came and the history as it was, and behind a redirect also the request that it leads
to, which the caller may send.

That request is made by the rules for redirects that are followed.  Neither a full history nor a
body that has been used up is in its way (`next_error_iff`), but the location is: one that leads
nowhere (`Astray`) makes the chain fail, although nobody was going to follow it.  Nothing else does,
in a chain or in a call (`ends_unless_astray`).

A location that is a text consists of ASCII, so the failure of a host outside ASCII never occurs.
-/
import HttpClient.Proofs.Call.Alone
import HttpClient.Proofs.Call.Count
import HttpClient.Proofs.Message.Legible
import HttpClient.Proofs.Redirect.Authorization
import HttpClient.Proofs.Url.Fragment

namespace HttpClient

open Auth Redirect Call

/-! ## Locations that lead nowhere -/

namespace Redirect

open Text

variable {previous : Url} {response : Response} {e : Error}

/-- Why the first location of a response leads nowhere, and what is said about it. -/
inductive Astray (previous : Url) (response : Response) : Error → Prop
  /-- It is no text. -/
  | unreadable : response.headers.firstText? .location = none →
      Astray previous response
        (.remoteProtocol ("invalid redirect location header from " ++ response.url.text))
  /-- It cannot be read as a url. -/
  | unresolved {location : String} {text : List Char} {why : Url.ParseError} :
      response.headers.firstText? .location = some location →
      complete previous (trim location.toList) = .ok text →
      Url.resolve previous (String.ofList text) = .error why →
      Astray previous response
        (.remoteProtocol ("invalid redirect location from " ++ previous.text ++ " "
          ++ String.ofList text ++ ": " ++ why.message))
  /-- It is a url that redirects are not followed to. -/
  | abroad {location : String} {url : Url} :
      response.headers.firstText? .location = some location →
      resolve previous location = .ok url → isFollowedScheme url.scheme = false →
      Astray previous response
        (.unsupportedProtocol
          ("redirect from " ++ response.url.text ++ " to scheme: " ++ url.scheme))

theorem mem_of_mem_host {location : List Char} {a : Absolute} {c : Char}
    (found : Absolute.split? location = some a) (h : c ∈ a.host) : c ∈ location := by
  have among : c ∈ a.authority := by
    unfold Absolute.host at h
    cases cut : cutLast '@' a.authority with
    | none => simpa [cut] using h
    | some parts =>
        rw [cutLast_eq cut]
        rw [cut] at h
        exact List.mem_append_right _ (List.mem_cons_of_mem _ h)
  rw [(split?_eq found).1]
  exact List.mem_append_right _ (List.mem_append_right _ (List.mem_append_left _ among))

theorem complete_of_legible {location : List Char} (legible : ∀ c ∈ location, isLegible c = true) :
    ∃ text, complete previous location = .ok text := by
  unfold complete
  cases found : Absolute.split? location with
  | none => exact ⟨location, rfl⟩
  | some a =>
      have ascii : a.host.all (·.toNat < 128) = true := by
        rw [List.all_eq_true]
        intro c there
        have small := lt_of_isLegible (legible c (mem_of_mem_host found there))
        exact decide_eq_true (by omega)
      dsimp only
      rw [if_pos ascii]
      exact ⟨_, rfl⟩

theorem resolve_error {location : String} (legible : Legible location)
    (h : resolve previous location = .error e) :
    ∃ text why, complete previous (trim location.toList) = .ok text ∧
      Url.resolve previous (String.ofList text) = .error why ∧
      e = .remoteProtocol ("invalid redirect location from " ++ previous.text ++ " "
        ++ String.ofList text ++ ": " ++ why.message) := by
  obtain ⟨text, completed⟩ : ∃ text, complete previous (trim location.toList) = .ok text :=
    complete_of_legible fun c there => legible c (mem_of_mem_trim there)
  unfold resolve at h
  rw [completed] at h
  dsimp only at h
  cases read : Url.resolve previous (String.ofList text) with
  | ok url =>
      rw [read] at h
      cases h
  | error why =>
      rw [read] at h
      cases h
      exact ⟨text, why, completed, read, rfl⟩

theorem target_error_iff : target previous response = .error e ↔ Astray previous response e := by
  constructor
  · intro h
    unfold target at h
    split at h
    · rename_i unreadable
      cases h
      exact .unreadable unreadable
    · rename_i location there
      obtain ⟨v, -, text⟩ := Option.bind_eq_some_iff.mp there
      split at h
      · rename_i unresolved
        cases h
        obtain ⟨_, why, completed, read, rfl⟩ :=
          resolve_error (HeaderValue.legible_of_text? text) unresolved
        exact .unresolved there completed read
      · rename_i url resolved
        split at h
        · cases h
        · rename_i foreign
          cases h
          exact .abroad there resolved (by simpa using foreign)
  · intro h
    cases h with
    | unreadable none => simp only [target, none]
    | unresolved there completed read => simp only [target, there, resolve, completed, read]
    | abroad there resolved foreign => simp [target, there, resolved, foreign]

theorem next_error_iff {r : Request} :
    next r response true = .error e ↔ Astray r.url response e := by
  rw [← target_error_iff]
  unfold next body
  cases target r.url response with
  | error e' => simp [bind, Except.bind]
  | ok url => split <;> simp [bind, Except.bind, pure, Except.pure]

/-! ## The chain -/

theorem receive_of_final {c : Sending} (final : response.isRedirect = false) :
    c.receive response = .ok (.done ⟨response, c.history, none⟩) := by
  simp [Sending.receive, final]

theorem receive_of_unfollowed {c : Sending} (unfollowed : c.follow = false)
    (redirects : response.isRedirect = true) :
    c.receive response =
      (next c.request response true).map fun q => .done ⟨response, c.history, some q⟩ := by
  simp [Sending.receive, redirects, unfollowed]

theorem receive_error_iff {c : Sending} (unfollowed : c.follow = false) :
    c.receive response = .error e ↔
      response.isRedirect = true ∧ Astray c.request.url response e := by
  cases redirects : response.isRedirect with
  | false => simp [receive_of_final redirects]
  | true =>
      rw [receive_of_unfollowed unfollowed redirects, ← next_error_iff]
      cases next c.request response true <;> simp [Except.map]

theorem receive_ok {c : Sending} {received : Received} (unfollowed : c.follow = false)
    (h : c.receive response = .ok received) :
    ∃ offered, received = .done ⟨response, c.history, offered⟩ ∧
      offered.isSome = response.isRedirect := by
  cases redirects : response.isRedirect with
  | false =>
      rw [receive_of_final redirects] at h
      cases h
      exact ⟨none, rfl, rfl⟩
  | true =>
      rw [receive_of_unfollowed unfollowed redirects] at h
      cases made : next c.request response true with
      | error e =>
          rw [made] at h
          cases h
      | ok q =>
          rw [made] at h
          cases h
          exact ⟨some q, rfl, rfl⟩

end Redirect

/-! ## The call -/

namespace Client

theorem Legs.unfollowed {c : Client} {mode : Mode} {chain : Sending} {response : Response}
    {own : Changes} {stages : List Stage} {result : Except Error Answer}
    (never : chain.follow = false) (h : c.Legs mode chain response own stages result) :
    own = [] ∧ chain.receive response = result.map .done := by
  have stays {r : Redirected} (received : chain.receive response = .ok (.redirected r)) :
      False := by
    obtain ⟨_, impossible, -⟩ := receive_ok never received
    cases impossible
  cases h with
  | done received => exact ⟨rfl, received⟩
  | refused received => exact ⟨rfl, received⟩
  | stuck received _ => exact (stays received).elim
  | unanswered received _ _ => exact (stays received).elim
  | leg received _ _ _ => exact (stays received).elim

/-- Where redirects are not followed, every response ends the chain, and the answer holds it as it
came and the history as it was, and a next request exactly if the response is a redirect.  The only
exception are redirects whose first location leads nowhere: for these the chain fails, and says why.

A call that follows no redirects fails in its first phase, or it ends in this way with the last
response of that phase. -/
theorem ends_unless_astray (c : Client) {chain : Sending} {response : Response}
    (unfollowed : chain.follow = false) :
    (∀ e, chain.receive response = .error e ↔
      response.isRedirect = true ∧ Astray chain.request.url response e) ∧
    ((∀ e, Astray chain.request.url response e → response.isRedirect = false) →
      ∃ offered, chain.receive response = .ok (.done ⟨response, chain.history, offered⟩) ∧
        offered.isSome = response.isRedirect) ∧
    ∀ (mode : Mode) (rely : Session → Session → Prop) (s s' : Session)
      (own : Changes) (r : Request) (options : Options) (result : Except Error Answer),
      Goes rely (c.call mode r options) s own result s' →
      options.followRedirects.getD c.followRedirects = false →
      (∃ rounds e, c.Opening mode r options own rounds (.error e) ∧ result = .error e) ∨
      ∃ rounds last, c.Opening mode r options own rounds (.ok (last, false)) ∧
        (∀ e, result = .error e ↔
          last.response.isRedirect = true ∧ Astray last.request.url last.response e) ∧
        ∀ answer, result = .ok answer →
          answer.response = last.response ∧ answer.history = last.history ∧
          answer.next.isSome = last.response.isRedirect := by
  refine ⟨fun e => receive_error_iff unfollowed, fun ends => ?_, ?_⟩
  · cases received : chain.receive response with
    | error e =>
        obtain ⟨redirects, astray⟩ := (receive_error_iff unfollowed).mp received
        rw [ends e astray] at redirects
        cases redirects
    | ok outcome =>
        obtain ⟨offered, rfl, same⟩ := receive_ok unfollowed received
        exact ⟨offered, rfl, same⟩
  · intro mode rely s s' own r options result h unfollowed
    obtain ⟨opening, legs, rounds, stages, rfl, course⟩ := goes_call h
    cases course with
    | unopened opened =>
        rw [List.append_nil]
        exact .inl ⟨rounds, _, opened, rfl⟩
    | opened opened behind =>
        rename_i last follow
        obtain ⟨-, same⟩ := opened.calls_eq
        rw [unfollowed] at same
        subst same
        obtain ⟨rfl, received⟩ := behind.unfollowed rfl
        rw [List.append_nil]
        refine .inr ⟨rounds, last, opened, fun e => ?_, fun answer same => ?_⟩
        · refine Iff.trans ?_ (receive_error_iff (c := c.chain last false) rfl)
          rw [received]
          cases result <;> simp [Except.map]
        · subst same
          obtain ⟨offered, same, isSome⟩ := receive_ok rfl received
          cases same
          exact ⟨rfl, rfl, isSome⟩

/-! ## Told not to follow -/

section Sampled

open Sample

/-- A client that follows no redirects, and a server that answers with one. -/
def declining : Client := { client [moved "/b"] none 9 with followRedirects := false }

/-- A chain that follows no redirects, before its response. -/
def resting : Sending := { request := request .get .empty, follow := false }

/-- A redirect to another place of the web, and one to another scheme. -/
def near : Response := Tour.moved "/b"

def foreign : Response := Tour.moved "ftp://[::1]/"

theorem near_target : (target resting.request.url near).isOk = true := by decide +kernel

theorem foreign_target : target resting.request.url foreign =
    .error (.unsupportedProtocol "redirect from http://[::1]/a to scheme: ftp") := by
  decide +kernel

/-- The answer to a call is the redirect that could have been followed; the one to another scheme
makes the chain fail. -/
theorem ends_of_declining :
    (∃ offered, resting.receive near = .ok (.done ⟨near, [], offered⟩) ∧
      offered.isSome = true) ∧
    resting.receive foreign =
      .error (.unsupportedProtocol "redirect from http://[::1]/a to scheme: ftp") ∧
    ∃ rounds last answer, declining.Opening .blocking (request .get .empty) {}
        (declining.changes .blocking (request .get .empty) {} {}) rounds (.ok (last, false)) ∧
      (declining.send .blocking (request .get .empty) {} {}).1 = .ok answer ∧
      answer.response = last.response ∧ answer.history = last.history ∧
      answer.next.isSome = last.response.isRedirect := by
  have unfollowed : resting.follow = false := rfl
  refine ⟨(ends_unless_astray declining unfollowed).2.1 ?_,
    ((ends_unless_astray declining unfollowed).1 _).mpr
      ⟨by decide +kernel, target_error_iff.mp foreign_target⟩, ?_⟩
  · intro e astray
    have leads := near_target
    rw [target_error_iff.mpr astray] at leads
    cases leads
  · have fine : (answer? declining (request .get .empty)).isSome = true := by decide +kernel
    obtain ⟨answer, brought⟩ := Option.isSome_iff_exists.mp fine
    have ended := send_of_answer? brought
    have goes : Goes Eq _ _ _ _ _ :=
      goes_send (fun _ => rfl) declining .blocking (request .get .empty) {} {}
    have ends := (@ends_unless_astray declining resting near unfollowed).2.2
    rcases ends _ _ _ _ _ _ _ _ goes rfl with
      ⟨_, e, -, failed⟩ | ⟨rounds, last, opened, -, same⟩
    · cases ended.symm.trans failed
    · obtain ⟨response, history, next⟩ := same answer ended
      exact ⟨rounds, last, answer, opened, ended, response, history, next⟩

/-- The chain is not done behind a redirect to another scheme, although it was not to be followed:
it fails. -/
theorem foreign_not_done :
    ¬ ∀ (r : Request) (history : List Response) (maxRedirects : Nat) (response : Response),
      ∃ offered, Sending.receive { request := r, history, maxRedirects, follow := false } response =
        .ok (.done ⟨response, history, offered⟩) := by
  intro always
  obtain ⟨offered, done⟩ := always (request .get .empty) [] defaultMax foreign
  have failed := (receive_error_iff (c := resting) rfl).mpr
    ⟨by decide +kernel, target_error_iff.mp foreign_target⟩
  cases failed.symm.trans done

end Sampled

end Client

end HttpClient
