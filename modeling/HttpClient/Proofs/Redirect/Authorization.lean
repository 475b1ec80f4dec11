/-
# Credentials along a chain of redirects

A redirect takes the `Authorization` field along only to where its credentials may go:
to the same host, up to the case of letters, by the same scheme or by https.  Composed
over a chain this says that leg `k` carries the field exactly if the first leg did and
each of the `k` hops before it kept to that rule, and that the values are then those
of the first leg.

A field that was dropped does not come back.  What is sent to a host later on does not
depend on whether the credentials once belonged there: every hop looks at the request
before it, and no hop writes the field.
-/
import HttpClient.Proofs.Redirect.Leg
import Mathlib.Data.List.Chain

namespace HttpClient.Redirect

/-- The hop from one url to the other keeps the host, and the scheme unless it becomes https. -/
def KeepsOrigin (a b : Url) : Prop :=
  (∃ h h', a.hostText? = some h ∧ b.hostText? = some h' ∧ Text.lower h = Text.lower h') ∧
    (b.scheme = a.scheme ∨ b.scheme = "https")

/-- The hop between two chains does. -/
def Sending.KeepsOrigin (c d : Sending) : Prop :=
  Redirect.KeepsOrigin c.request.url d.request.url

theorem sameHost_iff (u v : Url) :
    u.sameHost v = true ↔
      ∃ h h', u.hostText? = some h ∧ v.hostText? = some h' ∧ Text.lower h = Text.lower h' := by
  unfold Url.sameHost Text.sameLetters
  cases u.hostText? with
  | none => simp
  | some h =>
      cases v.hostText? with
      | none => simp
      | some h' => simp

theorem keepsAuthorization_iff (a b : Url) :
    keepsAuthorization a b = true ↔ KeepsOrigin a b := by
  unfold keepsAuthorization KeepsOrigin
  rw [Bool.and_eq_true, sameHost_iff, Bool.or_eq_true, decide_eq_true_iff, decide_eq_true_iff,
    eq_comm (a := a.scheme)]

instance (a b : Url) : Decidable (KeepsOrigin a b) :=
  decidable_of_iff _ (keepsAuthorization_iff a b)

instance (c d : Sending) : Decidable (c.KeepsOrigin d) :=
  inferInstanceAs (Decidable (Redirect.KeepsOrigin _ _))

/-! ## One hop -/

theorem Follows.authorization {c d : Sending} (h : Follows c d) :
    d.request.headers.values .authorization =
      if keepsAuthorization c.request.url d.request.url then
        c.request.headers.values .authorization
      else [] := by
  obtain ⟨left, response, hop⟩ := h.hop
  rw [hop.fields .authorization (by decide)]
  have other : dropped { c.request with body := left } response.status d.request.url
      .authorization =
      !keepsAuthorization c.request.url d.request.url := by
    have host : (HeaderName.authorization = HeaderName.host) = False := by decide
    have length : (HeaderName.authorization = HeaderName.contentLength) = False := by decide
    have coding : (HeaderName.authorization = HeaderName.transferEncoding) = False := by decide
    simp [dropped, host, length, coding]
  simp only [other]
  cases keepsAuthorization c.request.url d.request.url with
  | true => rfl
  | false => rfl

theorem Follows.carries {c d : Sending} (h : Follows c d) :
    d.request.headers.contains .authorization = true ↔
      c.KeepsOrigin d ∧ c.request.headers.contains .authorization = true := by
  have kept : keepsAuthorization c.request.url d.request.url = true ↔ c.KeepsOrigin d :=
    keepsAuthorization_iff _ _
  rw [Headers.contains_iff_values, Headers.contains_iff_values, h.authorization, ← kept]
  cases keepsAuthorization c.request.url d.request.url with
  | true => simp
  | false => simp

/-! ## The whole chain -/

/-- Where a leg carries the field, and with which values. -/
theorem carries_along {first leg : Sending} {later : List Sending} {k : Nat}
    (run : (first :: later).IsChain Follows) (found : (first :: later)[k]? = some leg) :
    (leg.request.headers.contains .authorization = true ↔
      first.request.headers.contains .authorization = true ∧
        ((first :: later).take (k + 1)).IsChain Sending.KeepsOrigin) ∧
    (leg.request.headers.contains .authorization = true →
      leg.request.headers.values .authorization =
        first.request.headers.values .authorization) := by
  induction later generalizing first k with
  | nil =>
      cases k with
      | zero =>
          cases found
          simp
      | succ k => simp at found
  | cons second rest ih =>
      cases k with
      | zero =>
          cases found
          simp
      | succ k =>
          obtain ⟨hop, onward⟩ := List.isChain_cons_cons.mp run
          obtain ⟨carried, same⟩ := ih onward (k := k) (by simpa using found)
          constructor
          · rw [carried, hop.carries]
            simp only [List.take_succ_cons, List.isChain_cons_cons]
            tauto
          · intro there
            have kept := (hop.carries.mp (carried.mp there).1).1
            rw [same there, hop.authorization, if_pos ((keepsAuthorization_iff _ _).mpr kept)]

/-- Leg `k` of a chain carries an `Authorization` field if and only if the first leg does and each
of the `k` hops kept the host and kept the scheme or moved to https.  Its values are then those of
the first leg.  Behind a leg without the field no leg has it. -/
theorem authorization_along_chain {first : Sending} {later : List Sending}
    (run : (first :: later).IsChain Follows) :
    ∀ (k : Nat) (leg : Sending), (first :: later)[k]? = some leg →
      (leg.request.headers.contains .authorization = true ↔
        first.request.headers.contains .authorization = true ∧
          ((first :: later).take (k + 1)).IsChain Sending.KeepsOrigin) ∧
      (leg.request.headers.contains .authorization = true →
        leg.request.headers.values .authorization =
          first.request.headers.values .authorization) ∧
      ∀ (j : Nat) (earlier : Sending), j ≤ k → (first :: later)[j]? = some earlier →
        earlier.request.headers.contains .authorization = false →
        leg.request.headers.contains .authorization = false := by
  intro k leg found
  obtain ⟨carried, same⟩ := carries_along run found
  refine ⟨carried, same, ?_⟩
  intro j earlier before there gone
  -- the hops up to `j` are among those up to `k`
  have shorter : (first :: later).take (j + 1) = ((first :: later).take (k + 1)).take (j + 1) := by
    rw [List.take_take, Nat.min_eq_left (by omega)]
  have hnone : ¬ leg.request.headers.contains .authorization = true := by
    intro still
    obtain ⟨began, kept⟩ := carried.mp still
    have then_too := (carries_along run there).1.mpr ⟨began, by rw [shorter]; exact kept.take _⟩
    rw [gone] at then_too
    cases then_too
  simpa using hnone

/-! ## Away and back -/

namespace Tour

def place (scheme : String) (host : Nat) (path : String) : Url :=
  ⟨scheme, some ⟨"", none, some (.ipv6 [0, 0, 0, 0, 0, 0, 0, host]), none⟩, path, none, none⟩

def moved (location : String) : Response :=
  { status := ⟨301, by decide⟩
    headers := ⟨(HeaderValue.ofText location).toOption.toList.map (.location, ·)⟩
    url := place "http" 1 "/a" }

def login : HeaderValue := ⟨Text.utf8 "Basic Ym9iOg==", by decide⟩

def start : Sending :=
  { request :=
    { method := .get, url := place "http" 1 "/a", headers := ⟨[(.authorization, login)]⟩ } }

def raised : Sending := start.after (moved "https://[::1]/b")

def away : Sending := raised.after (moved "//[::2]/c")

def back : Sending := away.after (moved "//[::1]/d")

end Tour

open Tour in
/-- The credentials go along when the scheme is raised, they stay behind when the host changes, and
they are not there when the chain comes back to where they would be welcome. -/
theorem authorization_stays_away :
    [start, raised, away, back].IsChain Follows ∧
      raised.request.headers.values .authorization = [login] ∧
      away.request.headers.contains .authorization = false ∧
      back.request.headers.contains .authorization = false ∧
      raised.request.url = place "https" 1 "/b" ∧ back.request.url = place "https" 1 "/d" := by
  have run : [start, raised, away, back].IsChain Follows := by
    simp only [List.isChain_cons_cons, List.IsChain.singleton, and_true]
    exact ⟨follows_after (by decide +kernel), follows_after (by decide +kernel),
      follows_after (by decide +kernel)⟩
  have first : start.request.headers.contains .authorization = true := by decide +kernel
  have kept : [start, raised].IsChain Sending.KeepsOrigin := by decide +kernel
  obtain ⟨carried, same, -⟩ := authorization_along_chain run 1 raised rfl
  have there : raised.request.headers.contains .authorization = true :=
    carried.mpr ⟨first, kept⟩
  have gone : ¬ away.request.headers.contains .authorization = true := by
    intro still
    have all : [start, raised, away].IsChain Sending.KeepsOrigin :=
      ((authorization_along_chain run 2 away rfl).1.mp still).2
    revert all
    decide +kernel
  have stays : back.request.headers.contains .authorization = false :=
    (authorization_along_chain run 3 back rfl).2.2 2 away (by omega) rfl (by simpa using gone)
  exact ⟨run, by rw [same there]; decide +kernel, by simpa using gone, stays,
    by decide +kernel, by decide +kernel⟩

end HttpClient.Redirect
