/-
# Logins in urls that are read against a base

A text that is read as a url of the web names an authority of its own or keeps that of the
base, login included.  Which of the two it does is told by its first characters: a text
names an authority if two slashes stand at its head or behind its scheme, and behind a
scheme that is not the one of the base even without them (`authorityText?`).

So the login of the url is the one that the text spells in its authority, if it has one,
and else that of the base (`resolve_login`).  Nothing in between takes a login out.
-/
import HttpClient.Proofs.Url.Host

namespace HttpClient

namespace Url

abbrev Userinfo := String × Option String

def userinfo (u : Url) : Userinfo := (u.username, u.password?)

/-- A slash as the urls of the web have it. -/
def isSlash (c : Char) : Bool := c = '/' || c = '\\'

/-- What stands behind two slashes or more at the head of a text. -/
def behindSlashes? : List Char → Option (List Char)
  | [] => none
  | c :: rest =>
    if isSlash c && rest.head?.any isSlash then
      some ((Text.behind "//".toList (c :: rest)).getD ((c :: rest).dropWhile isSlash))
    else none

/-- The text of the authority that a text names, and what stands behind it, where the base is a url
of the web. -/
def authorityText? (base : Url) (s : String) : Option (List Char) :=
  match readScheme (clean s).1 with
  | none => behindSlashes? (clean s).1
  | some (scheme, rest) =>
    if base.scheme = scheme && (rest.takeWhile isSlash).length < 2 then none
    else some (rest.dropWhile isSlash)

/-- The login that an authority spells. -/
def spelled (text : List Char) : Userinfo :=
  match readLogin .web text with
  | .ok (name, word, _) => (name, word)
  | .error _ => ("", none)

/-- The login that a text names, which may be an empty one. -/
def loginNamed? (base : Url) (s : String) : Option Userinfo :=
  (authorityText? base s).map spelled

variable {u : Url} {scheme : String} {cs : List Char}

theorem afterSlashes_login (web : Kind.of scheme = .web) (h : afterSlashes scheme cs = .ok u) :
    u.scheme = scheme ∧ u.userinfo = spelled cs := by
  simp only [afterSlashes, web] at h
  obtain ⟨⟨username, password, behind⟩, read, h⟩ := ok_of_bind h
  have same : spelled cs = (username, password) := by
    rw [spelled, read]
  dsimp only at h
  split at h
  · cases h
  · obtain ⟨host, -, h⟩ := ok_of_bind h
    rw [← web] at h
    obtain ⟨kept, port, named⟩ := behindHost_ok h
    refine ⟨kept, ?_⟩
    rw [same, userinfo, Url.username, password?, named]
    rfl

theorem relativeTo_login {b : Url} (web : Kind.of b.scheme = .web) (h : relativeTo b cs = .ok u) :
    u.userinfo = ((behindSlashes? cs).map spelled).getD b.userinfo := by
  simp only [relativeTo] at h
  split at h
  · cases h
    rfl
  · cases h
    rfl
  · cases h
    rfl
  · rename_i c rest _ _
    have leans : (fun c => decide (c = '/') || decide (c = '\\')) = isSlash := rfl
    rw [show (decide (c = '/') || decide (c = '\\')) = isSlash c from rfl, leans] at h
    rw [show behindSlashes? (c :: rest) = if isSlash c && rest.head?.any isSlash then
      some ((Text.behind "//".toList (c :: rest)).getD ((c :: rest).dropWhile isSlash))
      else none from rfl]
    split at h
    · rename_i slash
      split at h
      · rename_i twice
        have both : (isSlash c && rest.head?.any isSlash) = true := by rw [slash, twice]; rfl
        rw [if_pos both]
        split at h
        · rename_i straight
          rw [straight]
          exact (afterSlashes_login web h).2
        · rename_i leaning
          rw [leaning]
          exact (afterSlashes_login web h).2
      · rename_i once
        have neither : ¬ (isSlash c && rest.head?.any isSlash) = true := by simp [once]
        rw [if_neg neither]
        cases h
        rfl
    · rename_i straight
      have neither : ¬ (isSlash c && rest.head?.any isSlash) = true := by simp [straight]
      rw [if_neg neither]
      cases h
      rfl

theorem behindSlashes?_eq_none (few : (cs.takeWhile isSlash).length < 2) :
    behindSlashes? cs = none := by
  cases cs with
  | nil => rfl
  | cons c rest =>
      refine if_neg fun both => ?_
      obtain ⟨slash, twice⟩ := Bool.and_eq_true_iff.mp both
      cases rest with
      | nil => cases twice
      | cons d ds =>
          have slash' : isSlash d = true := twice
          simp only [List.takeWhile_cons_of_pos slash, List.takeWhile_cons_of_pos slash',
            List.length_cons] at few
          omega

theorem afterScheme_login {gaps : List Nat} {b : Url} (ofWeb : Kind.of b.scheme = .web)
    (h : afterScheme gaps (some b) scheme cs = .ok u) (web : Kind.of u.scheme = .web) :
    u.userinfo =
      ((if b.scheme = scheme && (cs.takeWhile isSlash).length < 2 then none
        else some (cs.dropWhile isSlash)).map spelled).getD b.userinfo := by
  simp only [afterScheme] at h
  split at h
  · have file : u.scheme = "file" := by
      refine file_scheme (fun b' same => ?_) h
      simpa using (Option.filter_eq_some_iff.mp same).2
    rw [file] at web
    cases web
  · rename_i named
    have slashes (h : afterSlashes scheme (cs.dropWhile isSlash) = .ok u) :
        u.userinfo = spelled (cs.dropWhile isSlash) := (afterSlashes_login named h).2
    have leans : (fun c => decide (c = '/') || decide (c = '\\')) = isSlash := rfl
    rw [leans] at h
    by_cases same : b.scheme = scheme
    · have kept : (some b).filter (fun x => decide (x.scheme = scheme)) = some b := by
        simp [same]
      simp only [kept] at h
      split at h
      · rename_i few
        rw [if_pos (by simp [same, few]), relativeTo_login ofWeb h, behindSlashes?_eq_none few]
      · rename_i many
        rw [if_neg (by simp [many])]
        exact slashes h
    · have left : (some b).filter (fun x => decide (x.scheme = scheme)) = none := by
        simp [same]
      simp only [left] at h
      rw [if_neg (by simp [same])]
      exact slashes h
  · rename_i other
    have foreign (same : u.scheme = scheme) : False := by
      rw [same, other] at web
      cases web
    split at h
    · exact (foreign (afterSlashes_ok h).1).elim
    · cases h
      exact (foreign rfl).elim
    · cases h
      exact (foreign rfl).elim

/-- The login of a url that is read against one of the web is the one that the text names, or that of
the base if it names none. -/
theorem resolve_login {b : Url} {s : String} (ofWeb : Kind.of b.scheme = .web)
    (h : resolve b s = .ok u) (web : Kind.of u.scheme = .web) :
    u.userinfo = (loginNamed? b s).getD b.userinfo := by
  simp only [resolve, read] at h
  unfold loginNamed? authorityText?
  split at h
  · rename_i scheme rest named
    rw [named]
    exact afterScheme_login ofWeb h web
  · rename_i unnamed
    rw [unnamed]
    split at h
    · rename_i hash
      cases h
      have hnone : behindSlashes? (clean s).1 = none := by
        cases text : (clean s).1 with
        | nil => rfl
        | cons c rest =>
            rw [text] at hash
            cases hash
            rfl
      rw [hnone]
      rfl
    · split at h
      · cases h
      · split at h
        · rename_i file
          rw [file] at ofWeb
          cases ofWeb
        · exact relativeTo_login ofWeb h

end Url

/-! ## Urls without a login -/

def Url.isAnonymous (u : Url) : Bool := u.username = "" && u.password?.isNone

theorem Url.isAnonymous_iff (u : Url) : u.isAnonymous = true ↔ u.userinfo = ("", none) := by
  simp [isAnonymous, userinfo]

theorem Url.withoutLogin_isAnonymous (u : Url) : u.withoutLogin.isAnonymous = true := by
  obtain ⟨scheme, authority, path, query, fragment⟩ := u
  cases authority <;> rfl

theorem Url.withoutLogin_of_isAnonymous {u : Url} (h : u.isAnonymous = true) :
    u.withoutLogin = u := by
  obtain ⟨scheme, authority, path, query, fragment⟩ := u
  cases authority with
  | none => rfl
  | some a =>
      obtain ⟨name, word, host, port⟩ := a
      obtain ⟨unnamed, wordless⟩ := Bool.and_eq_true_iff.mp h
      cases (of_decide_eq_true unnamed : name = "")
      cases (Option.isNone_iff_eq_none.mp wordless : word = none)
      rfl

theorem Prepared.login?_of_isAnonymous {u : Url} (h : u.isAnonymous = true) :
    login? u = .ok none := if_pos h

/-! ## Redirects -/

namespace Redirect

/-- The login that a location names, seen from a url.  It may be an empty one. -/
def loginNamed? (base : Url) (location : String) : Option Url.Userinfo :=
  match complete base (Text.trim location.toList) with
  | .error _ => none
  | .ok text => Url.loginNamed? base (String.ofList text)

/-- A redirect leads to the login that its location names, or keeps the login if it names none. -/
theorem target_login {previous url : Url} {response : Response}
    (followed : isFollowedScheme previous.scheme = true)
    (h : target previous response = .ok url) :
    isFollowedScheme url.scheme = true ∧
      ∃ location, response.headers.firstText? .location = some location ∧
        url.userinfo = (loginNamed? previous location).getD previous.userinfo := by
  obtain ⟨location, u, there, resolved, followed', rfl⟩ := target_ok h
  obtain ⟨text, completed, read⟩ := resolve_ok resolved
  refine ⟨followed', location, there, ?_⟩
  have named : u.userinfo = _ := Url.resolve_login (kind_of_followed followed) read
    (kind_of_followed followed')
  rw [loginNamed?, completed]
  exact named

end Redirect

end HttpClient
