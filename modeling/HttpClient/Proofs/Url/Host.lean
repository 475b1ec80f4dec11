/-
# Urls of the web have a host

A text that is read as a url of the web names a host, or keeps that of the base that it
is read against (`read_host`): the reader refuses an empty host, and no host that it makes
is written as nothing.  So a redirect leads from a url that calls can be made to, to
another one.

The reader goes on in different ways by the scheme.  Urls of files, and those of other
schemes, keep their scheme, and with it they are not urls of the web.

A text that names the host itself is read in the same way against every base, so such a
redirect leads to the same host from wherever.
-/
import HttpClient.Client.Prepare

namespace HttpClient

namespace Url

variable {u : Url} {scheme : String} {cs : List Char}

theorem ok_of_bind {ε α β : Type} {x : Except ε α} {f : α → Except ε β} {b : β}
    (h : (x >>= f) = .ok b) : ∃ a, x = .ok a ∧ f a = .ok b := by
  cases x with
  | error e => cases h
  | ok a => exact ⟨a, rfl, h⟩

/-! ## Hosts -/

/-- The hosts that are read in the urls of the web. -/
inductive HostRead : Host → Prop
  | ipv6 {inner : List Char} {pieces : List Nat} : ipv6? inner = some pieces → HostRead (.ipv6 pieces)
  | ipv4 {name : List Char} {n : Nat} : ipv4? name = some n → HostRead (.ipv4 n)
  | domain {decoded name : List Char} : Domain.toAscii? decoded = some name → name ≠ [] →
      endsInNumber name = false → HostRead (.domain (String.ofList name))

theorem hostRead_of_bracketed {h : Host} (read : bracketed cs = .ok h) : HostRead h := by
  simp only [bracketed] at read
  split at read
  · rename_i inner _
    cases found : ipv6? inner.reverse with
    | none =>
        rw [found] at read
        cases read
    | some pieces =>
        rw [found] at read
        cases read
        exact .ipv6 found
  · cases read

theorem hostRead_of_readHost {h : Host} (read : readHost cs = .ok h) : HostRead h := by
  simp only [readHost] at read
  split at read
  · exact hostRead_of_bracketed read
  · split at read
    · cases read
    · cases read
    · rename_i name there named
      obtain ⟨decoded, -, ascii⟩ := Option.bind_eq_some_iff.mp named
      split at read
      · cases found : ipv4? name with
        | none =>
            rw [found] at read
            cases read
        | some n =>
            rw [found] at read
            cases read
            exact .ipv4 found
      · rename_i letters
        cases read
        exact .domain ascii (fun hnil => there hnil) (Bool.eq_false_iff.mpr letters)

theorem readHost_text {h : Host} (read : readHost cs = .ok h) : h.text ≠ "" := by
  cases hostRead_of_readHost read with
  | ipv6 => simp [Host.text]
  | ipv4 => simp [Host.text, ipv4Text]
  | domain _ nonempty => simpa [Host.text] using nonempty

/-! ## Behind two slashes -/

theorem behindHost_ok {username : String} {password : Option String} {hostText rest : List Char}
    {host : Host} (h : (do
      if hostText = [] && rest.head? = some ':' then throw ParseError.emptyHost
      let (port, rest) ← portAfterHost scheme rest
      if hostText = [] && (username ≠ "" || password.isSome) then throw ParseError.emptyHost
      let host? := if hostText = [] then none else some host
      return withPath scheme (some ⟨username, password, host?, port⟩)
        (pathAfterAuthority (Kind.of scheme) rest) : Except ParseError Url) = .ok u) :
    u.scheme = scheme ∧ ∃ port,
      u.authority = some ⟨username, password, if hostText = [] then none else some host, port⟩ := by
  dsimp only at h
  split at h
  · cases h
  · obtain ⟨⟨port, behind⟩, -, h⟩ := ok_of_bind h
    dsimp only at h
    split at h
    · cases h
    · cases h
      exact ⟨rfl, port, rfl⟩

theorem afterSlashes_ok (h : afterSlashes scheme cs = .ok u) :
    u.scheme = scheme ∧
      (Kind.of scheme = .web → ∃ text host, readHost text = .ok host ∧ u.host? = some host) := by
  simp only [afterSlashes] at h
  obtain ⟨⟨username, password, behind⟩, -, h⟩ := ok_of_bind h
  dsimp only at h
  split at h
  · cases h
  · rename_i there
    split at h
    · rename_i special
      obtain ⟨host, read, h⟩ := ok_of_bind h
      obtain ⟨same, port, found⟩ := behindHost_ok h
      have hne : (cutHost (Kind.of scheme) false behind).1 ≠ [] := by
        simpa [special] using there
      rw [if_neg hne] at found
      refine ⟨same, fun _ => ⟨_, host, read, ?_⟩⟩
      simp only [host?, found]
      rfl
    · rename_i other
      obtain ⟨host, -, h⟩ := ok_of_bind h
      refine ⟨(behindHost_ok h).1, fun web => ?_⟩
      rw [web] at other
      exact absurd rfl other

/-! ## Against a base -/

/-- The reader made the host of the url, or took it from the base together with the scheme. -/
def HostFrom (base : Option Url) (u : Url) : Prop :=
  (∃ text host, readHost text = .ok host ∧ u.host? = some host) ∨
    ∃ b, base = some b ∧ u.scheme = b.scheme ∧ u.host? = b.host?

theorem relativeTo_host {b : Url} (h : relativeTo b cs = .ok u) (web : Kind.of u.scheme = .web) :
    HostFrom (some b) u := by
  have slashes {cs : List Char} (h : afterSlashes b.scheme cs = .ok u) : HostFrom (some b) u := by
    obtain ⟨same, named⟩ := afterSlashes_ok h
    rw [same] at web
    exact .inl (named web)
  simp only [relativeTo] at h
  split at h
  · cases h
    exact .inr ⟨b, rfl, rfl, rfl⟩
  · cases h
    exact .inr ⟨b, rfl, rfl, rfl⟩
  · cases h
    exact .inr ⟨b, rfl, rfl, rfl⟩
  · split at h
    · split at h
      · split at h
        · exact slashes h
        · exact slashes h
      · cases h
        exact .inr ⟨b, rfl, rfl, rfl⟩
    · cases h
      exact .inr ⟨b, rfl, rfl, rfl⟩

theorem fileAfterSlashes_scheme {gaps : List Nat} (h : fileAfterSlashes gaps cs = .ok u) :
    u.scheme = "file" := by
  simp only [fileAfterSlashes] at h
  split at h
  · cases h
    rfl
  · split at h
    · cases h
      rfl
    · obtain ⟨host, -, h⟩ := ok_of_bind h
      split at h
      · cases h
        rfl
      · cases h
        rfl

theorem file_scheme {gaps : List Nat} {base : Option Url}
    (files : ∀ b, base = some b → b.scheme = "file") (h : file gaps base cs = .ok u) :
    u.scheme = "file" := by
  have relative (cs : List Char) : (file.relative gaps base cs).scheme = "file" := by
    simp only [file.relative]
    split
    · rfl
    · have same := files _ rfl
      exact same
    · rfl
    · have same := files _ rfl
      exact same
    · split
      · rfl
      · rfl
  simp only [file] at h
  split at h
  · split at h
    · exact fileAfterSlashes_scheme h
    · split at h
      · cases h
        rfl
      · cases h
        exact relative _
  · split at h
    · cases h
      rfl
    · cases h
      exact relative _
  · cases h
    exact relative _

/-! ## Whole urls -/

theorem afterScheme_host {gaps : List Nat} {base : Option Url}
    (h : afterScheme gaps base scheme cs = .ok u) (web : Kind.of u.scheme = .web) :
    HostFrom base u := by
  have slashes {cs : List Char} (h : afterSlashes scheme cs = .ok u) : HostFrom base u := by
    obtain ⟨same, named⟩ := afterSlashes_ok h
    rw [same] at web
    exact .inl (named web)
  simp only [afterScheme] at h
  split at h
  · have file : u.scheme = "file" := by
      refine file_scheme (fun b' same => ?_) h
      simpa using (Option.filter_eq_some_iff.mp same).2
    rw [file] at web
    cases web
  · split at h
    · rename_i b kept
      obtain ⟨rfl, -⟩ := Option.filter_eq_some_iff.mp kept
      split at h
      · exact relativeTo_host h web
      · exact slashes h
    · exact slashes h
  · rename_i other
    have foreign (same : u.scheme = scheme) : HostFrom base u := by
      rw [same, other] at web
      cases web
    split at h
    · exact slashes h
    · cases h
      exact foreign rfl
    · cases h
      exact foreign rfl

/-- Where a url of the web has its host from. -/
theorem read_host {base : Option Url} {s : String} (h : read base s = .ok u)
    (web : Kind.of u.scheme = .web) : HostFrom base u := by
  simp only [read] at h
  split at h
  · exact afterScheme_host h web
  · split at h
    · cases h
    · rename_i b
      split at h
      · cases h
        exact .inr ⟨b, rfl, rfl, rfl⟩
      · split at h
        · cases h
        · split at h
          · rename_i files
            have file : u.scheme = "file" :=
              file_scheme (fun b' same => by cases same; exact files) h
            rw [file] at web
            cases web
          · exact relativeTo_host h web

theorem resolve_host {b : Url} {s : String} (host : b.hostText ≠ "") (h : resolve b s = .ok u)
    (web : Kind.of u.scheme = .web) : u.hostText ≠ "" := by
  rcases read_host h web with ⟨text, made, read, found⟩ | ⟨_, same, -, kept⟩
  · simp only [hostText, hostText?, found]
    exact readHost_text read
  · cases same
    simp only [hostText, hostText?, kept]
    exact host

end Url

/-! ## Redirects -/

theorem Redirect.kind_of_followed {scheme : String} (h : isFollowedScheme scheme = true) :
    Url.Kind.of scheme = .web := by
  simp only [isFollowedScheme, Bool.or_eq_true, decide_eq_true_eq] at h
  rcases h with rfl | rfl
  · rfl
  · rfl

theorem Prepared.checkUrl_iff (u : Url) :
    checkUrl u = .ok () ↔ Redirect.isFollowedScheme u.scheme = true ∧ u.hostText ≠ "" := by
  simp only [checkUrl]
  split
  · rename_i foreign
    simp_all
  · split
    · simp_all
    · simp_all

theorem Redirect.resolve_ok {base url : Url} {location : String}
    (h : resolve base location = .ok url) :
    ∃ text, complete base (Text.trim location.toList) = .ok text ∧
      Url.resolve base (String.ofList text) = .ok url := by
  unfold resolve at h
  split at h
  · cases h
  · rename_i text completed
    split at h
    · rename_i read
      cases h
      exact ⟨text, completed, read⟩
    · cases h

/-- A redirect leads to where its first location does, with the fragment of the url before if that
has none. -/
theorem Redirect.target_ok {previous url : Url} {response : Response}
    (h : target previous response = .ok url) :
    ∃ location u, response.headers.firstText? .location = some location ∧
      resolve previous location = .ok u ∧ isFollowedScheme u.scheme = true ∧
      url = { u with fragment := u.fragment.or previous.fragment } := by
  unfold target at h
  split at h
  · cases h
  · rename_i location there
    split at h
    · cases h
    · rename_i u resolved
      split at h
      · rename_i followed
        cases h
        exact ⟨location, u, there, resolved, followed, rfl⟩
      · cases h

theorem Redirect.target_checked {previous url : Url} {response : Response}
    (checked : Prepared.checkUrl previous = .ok ()) (h : target previous response = .ok url) :
    Prepared.checkUrl url = .ok () := by
  rw [Prepared.checkUrl_iff] at checked ⊢
  obtain ⟨-, host⟩ := checked
  obtain ⟨location, u, -, resolved, followed, rfl⟩ := target_ok h
  obtain ⟨text, -, read⟩ := resolve_ok resolved
  have named : u.hostText ≠ "" := Url.resolve_host host read (kind_of_followed followed)
  exact ⟨followed, named⟩

/-! ## Locations that name a host -/

/-- The text names a scheme of the web, and two slashes stand behind it. -/
def Url.isAbsolute (s : String) : Bool :=
  match readScheme (clean s).1 with
  | none => false
  | some (scheme, rest) =>
    Kind.of scheme = .web && 2 ≤ (rest.takeWhile fun c => c = '/' || c = '\\').length

theorem Url.resolve_of_isAbsolute {s : String} (h : isAbsolute s = true) (b : Url) :
    resolve b s = parse s := by
  simp only [isAbsolute] at h
  split at h
  · cases h
  · rename_i scheme rest named
    obtain ⟨web, slashes⟩ := Bool.and_eq_true_iff.mp h
    have web : Kind.of scheme = .web := of_decide_eq_true web
    have many : ¬ (rest.takeWhile fun c => c = '/' || c = '\\').length < 2 :=
      Nat.not_lt.mpr (of_decide_eq_true slashes)
    simp only [resolve, parse, read, named, afterScheme, web, Option.filter_none, many, if_false]
    split
    · rfl
    · rfl

namespace Redirect

/-- The location names a scheme of the web and a host. -/
def namesHost (location : String) : Bool :=
  (Absolute.split? (Text.trim location.toList)).any (·.host ≠ []) &&
    Url.isAbsolute (String.ofList (Text.trim location.toList))

theorem complete_of_host {location text : List Char} {u v : Url}
    (host : (Absolute.split? location).any (·.host ≠ []) = true)
    (h : complete u location = .ok text) :
    text = location ∧ complete v location = .ok location := by
  simp only [complete] at h ⊢
  cases split : Absolute.split? location with
  | none =>
      rw [split] at host
      cases host
  | some a =>
      rw [split] at host h
      have named : a.host ≠ [] := of_decide_eq_true host
      simp only [if_neg named] at h ⊢
      split at h
      · rename_i ascii
        cases h
        exact ⟨rfl, if_pos ascii⟩
      · cases h

theorem resolve_of_namesHost {location : String} {u v url : Url}
    (named : namesHost location = true) (h : resolve u location = .ok url) :
    resolve v location = .ok url := by
  obtain ⟨host, absolute⟩ := Bool.and_eq_true_iff.mp named
  obtain ⟨text, completed, read⟩ := resolve_ok h
  obtain ⟨rfl, completed'⟩ := complete_of_host (v := v) host completed
  rw [Url.resolve_of_isAbsolute absolute] at read
  simp only [resolve, completed', Url.resolve_of_isAbsolute absolute, read]

/-- The host that such a location leads to does not depend on the request. -/
theorem target_of_namesHost {location : String} {response : Response} {u v url : Url}
    (there : response.headers.firstText? .location = some location)
    (named : namesHost location = true) (h : target u response = .ok url) :
    ∃ url', resolve v location = .ok url' ∧ url'.authority = url.authority := by
  obtain ⟨location', u', there', resolved, -, rfl⟩ := target_ok h
  rw [there] at there'
  cases there'
  exact ⟨u', resolve_of_namesHost named resolved, rfl⟩

end Redirect

end HttpClient
