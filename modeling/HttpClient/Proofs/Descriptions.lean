/-
# What descriptions depend on

A description ends up in logs, so it must not tell secrets apart.  That is a statement about two
values at a time: whatever their secrets, two values that agree in what may be shown are described
by the same text.

Of the header of a request the names may be shown, how often each occurs, and the values of the
names that are not secret (`Headers.LooksLike`); of its body the kind, the length if it is in memory,
and of a one-shot source whether it is drained.  The last is no secret, but a description does show
it: two sources with nothing left to give can be told apart (`describe_tells_drained`).
-/
import HttpClient.Auth.Flow
import HttpClient.Routing.Proxy
import Mathlib.Data.List.Forall2

namespace HttpClient

namespace Headers

/-- The same names in the same order, as many values of each, and the same values of the names that
are not secret. -/
structure LooksLike (h h' : Headers) : Prop where
  names : h.names = h'.names
  counts : ∀ n, (h.values n).length = (h'.values n).length
  shown : ∀ n ∉ secretNames, h.values n = h'.values n

/-- Two fields of one name that have one value, unless the name is secret. -/
def SameField (f f' : HeaderName × HeaderValue) : Prop :=
  f.1 = f'.1 ∧ (f.1 ∉ secretNames → f.2 = f'.2)

theorem names_of_sameFields {h h' : Headers} (same : List.Forall₂ SameField h.fields h'.fields) :
    h.names = h'.names := by
  have firsts : h.fields.map (·.1) = h'.fields.map (·.1) := by
    rw [← List.forall₂_eq_eq_eq, List.forall₂_map_left_iff, List.forall₂_map_right_iff]
    exact same.imp fun _ _ f => f.1
  simp only [names, firsts]

theorem values_of_sameFields {h h' : Headers} (same : List.Forall₂ SameField h.fields h'.fields)
    (n : HeaderName) :
    List.Forall₂ (fun v v' => n ∉ secretNames → v = v') (h.values n) (h'.values n) := by
  obtain ⟨fs⟩ := h
  obtain ⟨fs'⟩ := h'
  simp only [values] at same ⊢
  induction same with
  | nil => simp
  | @cons f f' fs fs' one _ ih =>
    by_cases at_n : f.1 = n
    · have at_n' : f'.1 = n := one.1 ▸ at_n
      simp only [List.filter_cons, at_n, at_n', decide_true, if_true, List.map_cons]
      exact .cons (at_n ▸ one.2) ih
    · have not_n' : ¬ f'.1 = n := one.1 ▸ at_n
      simpa [List.filter_cons, at_n, not_n'] using ih

theorem looksLike_of_sameFields {h h' : Headers}
    (same : List.Forall₂ SameField h.fields h'.fields) : h.LooksLike h' where
  names := names_of_sameFields same
  counts n := (values_of_sameFields same n).length_eq
  shown n plain := by
    rw [← List.forall₂_eq_eq_eq]
    exact (values_of_sameFields same n).imp fun _ _ eq => eq plain

/-- The description of a header goes through its names and shows of a secret value only that it is
there. -/
theorem LooksLike.quoted_eq {h h' : Headers} (like : h.LooksLike h') : h.quoted = h'.quoted := by
  have entries (n : HeaderName) :
      (h.values n).map (fun v =>
          Text.quoted n.text ++ ": " ++ if secretNames.contains n then "\"***\"" else v.quoted)
        = (h'.values n).map fun v =>
          Text.quoted n.text ++ ": " ++ if secretNames.contains n then "\"***\"" else v.quoted := by
    by_cases secret : n ∈ secretNames
    · simp [secret, List.map_const', like.counts n]
    · rw [like.shown n secret]
  simp only [quoted, like.names, entries]

end Headers

namespace Body

inductive Kind where
  | empty
  | full
  | stream
  | asyncStream
deriving DecidableEq

def kind : Body → Kind
  | .empty => .empty
  | .full _ => .full
  | .stream _ => .stream
  | .asyncStream _ => .asyncStream

def length? (b : Body) : Option Nat := b.bytes?.map (·.length)

theorem describe_eq (b : Body) :
    b.describe = match b.kind with
      | .empty => "Empty"
      | .full => s!"Full({b.length?.getD 0} bytes)"
      | .stream => s!"Stream(drained: {b.isConsumed})"
      | .asyncStream => s!"AsyncStream(drained: {b.isConsumed})" := by
  cases b <;> rfl

end Body

/-- The same method and url, headers that are alike, and bodies of the same kind and length. -/
structure Request.LooksLike (r r' : Request) : Prop where
  method : r.method = r'.method
  url : r.url = r'.url
  headers : r.headers.LooksLike r'.headers
  kind : r.body.kind = r'.body.kind
  length : r.body.length? = r'.body.length?

/-- Descriptions do not depend on secrets. Two requests that are alike, with sources that are both
drained or both not, are described by one text; so are two logins of one user, whether they are sent
with every request or prove themselves to whoever challenges, two netrc files with the same machines
and both or neither with a default, and two proxies with one scheme and host. -/
theorem describe_keeps_secrets :
    (∀ r r' : Request, r.LooksLike r' → r.body.isConsumed = r'.body.isConsumed →
      r.describe = r'.describe) ∧
    (∀ l l' : Auth.Login, l.username = l'.username →
      (Auth.basic l).describe = (Auth.basic l').describe) ∧
    (∀ a a' : Auth.Digest.Account, a.login.username = a'.login.username →
      (Auth.digest a).describe = (Auth.digest a').describe) ∧
    (∀ n n' : Auth.NetRc, n.machines.map (·.host) = n'.machines.map (·.host) →
      n.default?.isSome = n'.default?.isSome → n.describe = n'.describe) ∧
    ∀ p p' : Proxy, p.url.scheme = p'.url.scheme → p.url.hostText = p'.url.hostText →
      p.describe = p'.describe := by
  refine ⟨fun r r' like drained => ?request, fun l l' user => ?basic, fun a a' user => ?digest,
    fun n n' hosts default => ?netRc, fun p p' scheme host => ?proxy⟩
  case request =>
    have body : r.body.describe = r'.body.describe := by
      simp only [Body.describe_eq, like.kind, like.length, drained]
    simp only [Request.describe, like.method, like.url, like.headers.quoted_eq, body]
  case basic => simp only [Auth.describe, user]
  case digest => simp only [Auth.describe, user]
  case netRc => simp only [Auth.NetRc.describe, hosts, default]
  case proxy => simp only [Proxy.describe, scheme, host]

namespace Secrets

def place : Url := ⟨"http", some ⟨"", none, some (.domain "q.test"), none⟩, "/", none, none⟩

/-- A proxy that wants a login. -/
def proxy (username password : String) : Proxy :=
  ⟨⟨"http", some ⟨username, some password, some (.domain "p.test"), none⟩, "/", none, none⟩, rfl⟩

/-- A request with two secrets of one name and a third of another, and a field between them. -/
def letter (first second session : HeaderValue) : Request :=
  { method := .get
    url := place
    headers := ⟨[(.authorization, first), (.host, ⟨[113], by decide⟩), (.authorization, second),
      (.cookie, session)]⟩
    body := .full [0, 1] }

def account (password : String) : Auth.Digest.Account :=
  ⟨"account", ⟨"user", password⟩, fun _ _ => ""⟩

def logins (host : String) (login : Auth.Login) : Auth.NetRc := ⟨[⟨host, login⟩], some login⟩

theorem letter_looksLike (first second session first' second' session' : HeaderValue) :
    (letter first second session).LooksLike (letter first' second' session') where
  method := rfl
  url := rfl
  headers := Headers.looksLike_of_sameFields <| by
    simp [letter, Headers.SameField, Headers.secretNames]
  kind := rfl
  length := rfl

end Secrets

open Secrets in
/-- Values with other secrets are other values, described by the same texts. -/
theorem describe_keeps_secrets_of_different :
    (letter ⟨[97], by decide⟩ ⟨[98], by decide⟩ ⟨[99], by decide⟩
        ≠ letter ⟨[100, 100], by decide⟩ ⟨[102], by decide⟩ ⟨[101], by decide⟩ ∧
      (letter ⟨[97], by decide⟩ ⟨[98], by decide⟩ ⟨[99], by decide⟩).describe
        = (letter ⟨[100, 100], by decide⟩ ⟨[102], by decide⟩ ⟨[101], by decide⟩).describe) ∧
    (Auth.basic ⟨"user", "one"⟩).describe = (Auth.basic ⟨"user", "other"⟩).describe ∧
    (Auth.digest (account "one")).describe = (Auth.digest (account "other")).describe ∧
    (logins "h.test" ⟨"a", "one"⟩).describe = (logins "h.test" ⟨"b", "other"⟩).describe ∧
    (proxy "a" "one").describe = (proxy "b" "other").describe := by
  obtain ⟨request, basic, digest, netRc, proxy⟩ := describe_keeps_secrets
  exact ⟨⟨by decide, request _ _ (letter_looksLike ..) rfl⟩, basic _ _ rfl, digest _ _ rfl,
    netRc _ _ rfl rfl, proxy _ _ rfl rfl⟩

/-- A source is described as drained or not, also where the one that is not has nothing left to
give. -/
theorem describe_tells_drained :
    let send (source : Producer) : Request :=
      { method := .get, url := Secrets.place, body := .stream source }
    (send (.live [])).LooksLike (send .drained) ∧
      (send (.live [])).describe ≠ (send .drained).describe := by
  intro send
  refine ⟨⟨rfl, rfl, ⟨rfl, fun _ => rfl, fun _ _ => rfl⟩, rfl, rfl⟩, ?_⟩
  decide

end HttpClient
