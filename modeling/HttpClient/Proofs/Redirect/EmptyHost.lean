/-
# Locations without a host

A redirect may name its target by a location that has no host where one is needed.  Some servers
write a scheme and two slashes and leave the host out, and such a location is repaired: it leads to
the host and port of the url that was asked.

The lack of a host is looked for in the text, before the text is read as a url, and the two notions
of it differ.  A location lacks a host (`Lacks`) if it begins with a scheme, a colon and two
slashes, and nothing is left of the authority behind the login.  The port is not taken off, so with
a port and no host the location does not lack one.  Without a scheme, nothing is looked for.  The
reader finds no host in all of these.

- A location that lacks a host leads to that of the base, if this is read as the same one
  (`resolve_lacks_iff`).  Addresses are, and so is every name without capitals and Punycode.
- A location in which the reader finds no host, and that does not lack one, is a failure of the
  redirect that says so (`resolve_of_hostless`).
- With a scheme, a port and no host (`resolve_schemeThen`), and behind two slashes alone
  (`resolve_slashesThen`), this is always the case, be there a login or not.

Urls of files are left out of the first point.  They have a reader of their own, and a redirect to
one is refused in any case.
-/
import HttpClient.Proofs.Url.Login
import HttpClient.Proofs.Url.Reading
import HttpClient.Proofs.Url.Slashes

namespace HttpClient

open Text

/-! ## Locations that lack a host -/

namespace Redirect

open Url

variable {base : Url} {location : String} {a : Absolute}

/-- The location begins with a scheme and two slashes, and then names no host. -/
def Lacks (location : String) (a : Absolute) : Prop :=
  Absolute.split? (trim location.toList) = some a ∧ a.host = []

def Absolute.schemeName (a : Absolute) : String := lower (String.ofList a.scheme)

theorem split?_spec {text : List Char} (h : Absolute.split? text = some a) :
    isScheme a.scheme = true ∧ ∀ kind, IsBehind kind a.rest := by
  unfold Absolute.split? at h
  split at h
  · cases h
  · rename_i scheme behind found
    split at h
    · rename_i letters
      cases h
      refine ⟨letters, fun kind c first => ?_⟩
      have ends := List.head?_dropWhile_not (!endsAuthority ·) behind
      rw [first] at ends
      have ends : endsAuthority c = true := by simpa using ends
      simp only [endsAuthority, Bool.or_eq_true, decide_eq_true_eq] at ends
      rcases ends with (rfl | rfl) | rfl <;> simp [Url.endsAuthority]
    · cases h

/-- A location that lacks a host is read with the host and the port of the base. -/
theorem resolve_of_lacks (host : base.hostText ≠ "") (written : IsHostText base.hostText.toList)
    (fits : ∀ p, base.port? = some p → p ≤ 65535) (lacks : Lacks location a)
    (other : Kind.of a.schemeName ≠ .file) :
    resolve base location =
      match hostNamed (Kind.of a.schemeName) base.hostText with
      | .ok host => .ok (withPath a.schemeName
          (some ⟨"", none, some host, base.port?.filter (some · ≠ defaultPort? a.schemeName)⟩)
          (pathAfterAuthority (Kind.of a.schemeName) (tidy a.rest)))
      | .error e => .error (.remoteProtocol ("invalid redirect location from " ++ base.text ++ " "
          ++ String.ofList (a.withAuthority base.hostAndPort) ++ ": " ++ e.message)) := by
  obtain ⟨split, hnil⟩ := lacks
  obtain ⟨letters, behind⟩ := split?_spec split
  have completed : complete base (trim location.toList) =
      .ok (a.withAuthority base.hostAndPort) := by
    simp only [complete, split, hnil]
    rfl
  have text : a.withAuthority base.hostAndPort =
      a.scheme ++ ("://".toList ++ (base.hostAndPort.toList ++ a.rest)) := by
    simp only [Absolute.withAuthority, List.append_assoc]
  have nonempty : base.hostAndPort.toList ≠ [] := by
    rw [toList_hostAndPort]
    exact List.append_ne_nil_of_left_ne_nil (fun hnil => host (String.toList_eq_nil_iff.mp hnil)) _
  have first : ∀ c, base.hostAndPort.toList.head? = some c → c ≠ '/' ∧ c ≠ '\\' := by
    intro c first
    have inside : Url.endsAuthority .web c = false :=
      hostAndPort_inside written c (List.mem_of_mem_head? first)
    refine ⟨?_, ?_⟩ <;> rintro rfl <;> cases inside
  have read := resolve_absolute letters other first nonempty (far_hostAndPort written) base a.rest
  rw [afterSlashes_hostAndPort host written fits (behind _).tidy] at read
  unfold resolve
  rw [completed]
  dsimp only
  rw [text, read, Absolute.schemeName]
  cases hostNamed (Kind.of (lower (String.ofList a.scheme))) base.hostText with
  | error e => rfl
  | ok host => rfl

/-- The failure that reports an empty host. -/
def emptyHostReport (base : Url) (location : String) : Error :=
  .remoteProtocol ("invalid redirect location from " ++ base.text ++ " "
    ++ String.ofList (trim location.toList) ++ ": " ++ "empty host")

/-- The failure that reports a host that is not ASCII. -/
def foreignHostReport (base : Url) (location : String) : Error :=
  .remoteProtocol ("invalid redirect location from " ++ base.text ++ ", non-ascii host: "
    ++ String.ofList (trim location.toList))

/-- Read as it is, the location fails for the lack of a host. -/
def Hostless (base : Url) (location : String) : Prop :=
  Url.resolve base (String.ofList (trim location.toList)) = .error .emptyHost

/-- The lack of a host is reported as a failure of the redirect. -/
def Reported (base : Url) (location : String) : Prop :=
  resolve base location = .error (emptyHostReport base location)

theorem Hostless.reported (failed : Hostless base location)
    (completed : complete base (trim location.toList) = .ok (trim location.toList)) :
    Reported base location := by
  unfold Hostless at failed
  unfold Reported resolve
  rw [completed]
  dsimp only
  rw [failed]
  rfl

theorem resolve_of_hostless (failed : Hostless base location) (names : ∀ a, ¬ Lacks location a) :
    Reported base location ∨
      resolve base location = .error (foreignHostReport base location) := by
  cases split : Absolute.split? (trim location.toList) with
  | none => exact .inl (failed.reported (by rw [complete, split]))
  | some a =>
      have host : a.host ≠ [] := fun hnil => names a ⟨split, hnil⟩
      by_cases ascii : a.host.all (·.toNat < 128) = true
      · refine .inl (failed.reported ?_)
        simp only [complete, split]
        rw [if_pos ascii, if_neg host]
      · refine .inr ?_
        unfold resolve complete
        rw [split]
        dsimp only
        rw [if_neg ascii]
        rfl

/-! ## Forms in which the failure is reported -/

section Forms

variable {login port : Option (List Char)} {rest word : List Char}

/-- The characters of a login are neither blanks nor controls, and do not end an authority. -/
def PlainLogin (login : Option (List Char)) : Prop :=
  ∀ l, login = some l →
    ∀ c ∈ l, 0x20 < c.toNat ∧ isBlank c = false ∧ Url.endsAuthority .web c = false

def PlainPort (port : Option (List Char)) : Prop := ∀ p, port = some p → ∀ c ∈ p, c.isDigit = true

/-- Two slashes, and an authority without a host. -/
def slashesThen (login port : Option (List Char)) (rest : List Char) : String :=
  String.ofList ("//".toList ++ (hostless login port ++ rest))

/-- A scheme, two slashes, and an authority without a host. -/
def schemeThen (word : List Char) (login port : Option (List Char)) (rest : List Char) : String :=
  String.ofList (word ++ ("://".toList ++ (hostless login port ++ rest)))

theorem hostless_plain (inLogin : PlainLogin login) (inPort : PlainPort port) :
    ∀ c ∈ hostless login port, 0x20 < c.toNat ∧ isBlank c = false := by
  refine List.forall_mem_append.mpr ⟨?_, ?_⟩
  · cases login with
    | none => exact fun _ h => absurd h List.not_mem_nil
    | some l =>
        refine List.forall_mem_append.mpr
          ⟨fun c there => ?_, List.forall_mem_singleton.mpr (by decide)⟩
        exact ⟨(inLogin l rfl c there).1, (inLogin l rfl c there).2.1⟩
  · cases port with
    | none => exact fun _ h => absurd h List.not_mem_nil
    | some p =>
        refine List.forall_mem_cons.mpr ⟨by decide, fun c there => ?_⟩
        have name := inName_of_isDigit (inPort p rfl c there)
        exact ⟨far_of_inName name, isBlank_of_inName name⟩

theorem afterSlashes_plain {scheme : String} (web : Kind.of scheme = .web)
    (inLogin : PlainLogin login) (inPort : PlainPort port) (behind : IsBehind .web rest) :
    afterSlashes scheme (hostless login port ++ tidy (dropEnd isBlank rest)) =
      .error .emptyHost := by
  have still := (behind.dropEnd fun c ends => (far_of_endsAuthority ends).2).tidy
  refine afterSlashes_hostless web (fun l given c there => (inLogin l given c there).2.2)
    (fun p given c there => ?_) still
  have name := inName_of_isDigit (inPort p given c there)
  exact ⟨endsAuthority_of_inName name, ne_of_inName name rfl⟩

theorem split?_slash (cs : List Char) : Absolute.split? ('/' :: cs) = none := by
  unfold Absolute.split?
  split
  · rfl
  · rename_i scheme behind found
    have parts := cutWord_eq found
    cases scheme with
    | nil => cases parts
    | cons c scheme =>
        cases parts
        rfl

/-- Behind two slashes alone, an authority without a host is never repaired. -/
theorem resolve_slashesThen (host : base.hostText ≠ "") (web : Kind.of base.scheme = .web)
    (inLogin : PlainLogin login) (inPort : PlainPort port) (behind : IsBehind .web rest) :
    Hostless base (slashesThen login port rest) ∧ Reported base (slashesThen login port rest) := by
  have plain := hostless_plain inLogin inPort
  have trimmed : trim (slashesThen login port rest).toList =
      "//".toList ++ (hostless login port ++ dropEnd isBlank rest) := by
    have stays : ∀ c ∈ "//".toList ++ hostless login port, isBlank c = false :=
      List.forall_mem_append.mpr ⟨forall_of_all rfl, fun c there => (plain c there).2⟩
    rw [slashesThen, String.toList_ofList, ← List.append_assoc, trim,
      strip_front (List.append_ne_nil_of_left_ne_nil (by decide) _) stays, List.append_assoc]
  have failed : Hostless base (slashesThen login port rest) := by
    rw [Hostless, trimmed,
      resolve_relative host (by rw [web]; decide) fun c there => (plain c there).1]
    exact afterSlashes_plain web inLogin inPort behind
  have unsplit : Absolute.split? ("//".toList ++ (hostless login port ++ dropEnd isBlank rest)) =
      none := split?_slash _
  refine ⟨failed, failed.reported ?_⟩
  rw [trimmed, complete, unsplit]

theorem hostless_inside (inLogin : PlainLogin login) (inPort : PlainPort port) (kind : Kind) :
    ∀ c ∈ hostless login port, Url.endsAuthority kind c = false := by
  refine List.forall_mem_append.mpr ⟨?_, ?_⟩
  · cases login with
    | none => exact fun _ h => absurd h List.not_mem_nil
    | some l =>
        refine List.forall_mem_append.mpr ⟨fun c there => Bool.eq_false_iff.mpr fun ends => ?_, ?_⟩
        · have outside := (inLogin l rfl c there).2.2
          rw [endsAuthority_web ends] at outside
          cases outside
        · exact List.forall_mem_singleton.mpr (endsAuthority_of_ne (by decide))
  · cases port with
    | none => exact fun _ h => absurd h List.not_mem_nil
    | some p =>
        exact List.forall_mem_cons.mpr ⟨endsAuthority_of_ne (by decide),
          fun c there => endsAuthority_of_inName (inName_of_isDigit (inPort p rfl c there))⟩

theorem trim_schemeThen (letters : isScheme word = true) (inLogin : PlainLogin login)
    (inPort : PlainPort port) (rest : List Char) :
    trim (schemeThen word login port rest).toList =
      word ++ ("://".toList ++ (hostless login port ++ dropEnd isBlank rest)) := by
  obtain ⟨hne, inWord⟩ := inScheme_of_isScheme letters
  have stays : ∀ c ∈ word ++ ("://".toList ++ hostless login port), isBlank c = false :=
    List.forall_mem_append.mpr ⟨fun c there => isBlank_of_inScheme (inWord c there),
      List.forall_mem_append.mpr
        ⟨forall_of_all rfl, fun c there => (hostless_plain inLogin inPort c there).2⟩⟩
  have kept := strip_front (List.append_ne_nil_of_left_ne_nil hne _) stays rest
  simp only [List.append_assoc] at kept
  rw [schemeThen, String.toList_ofList]
  exact kept

theorem split?_schemeThen (letters : isScheme word = true) (inLogin : PlainLogin login)
    (inPort : PlainPort port) (behind : IsBehind .other rest) :
    ∃ a, Absolute.split? (trim (schemeThen word login port rest).toList) = some a ∧
      a.scheme = word ∧ a.host = port.elim [] (':' :: ·) := by
  have free : ':' ∉ word := fun there => by
    cases (inScheme_of_isScheme letters).2 ':' there
  have same : (fun c => !endsAuthority c) = fun c => !Url.endsAuthority .other c := by
    funext c
    simp [endsAuthority, Url.endsAuthority, Kind.isSpecial]
  have still := behind.dropEnd fun c ends => (far_of_endsAuthority ends).2
  have noSign : '@' ∉ port.elim [] (':' :: ·) := by
    cases port with
    | none => exact List.not_mem_nil
    | some p =>
        intro there
        rcases List.mem_cons.mp there with impossible | there
        · cases impossible
        · cases inPort p rfl '@' there
  rw [trim_schemeThen letters inLogin inPort]
  have cut : cutWord "://".toList
      (word ++ ("://".toList ++ (hostless login port ++ dropEnd isBlank rest))) =
        some (word, hostless login port ++ dropEnd isBlank rest) := cutWord_of_not_mem free _
  unfold Absolute.split?
  rw [cut]
  dsimp only
  rw [if_pos letters]
  refine ⟨_, rfl, rfl, ?_⟩
  rw [Absolute.host]
  dsimp only
  rw [same, takeWhile_authority (hostless_inside inLogin inPort .other) still]
  cases login with
  | none =>
      have text : hostless none port = port.elim [] (':' :: ·) := rfl
      rw [text, cutLast_eq_none noSign]
      rfl
  | some l =>
      have text : hostless (some l) port = l ++ '@' :: port.elim [] (':' :: ·) := by
        simp [hostless]
      rw [text, cutLast_of_not_mem l noSign]
      rfl

theorem hostless_schemeThen (letters : isScheme word = true)
    (web : Kind.of (lower (String.ofList word)) = .web) (inLogin : PlainLogin login)
    (inPort : PlainPort port) (behind : IsBehind .web rest) (hne : hostless login port ≠ []) :
    Hostless base (schemeThen word login port rest) := by
  have first : ∀ c, (hostless login port).head? = .some c → c ≠ '/' ∧ c ≠ '\\' := by
    intro c first
    have inside := hostless_inside inLogin inPort .web c (List.mem_of_mem_head? first)
    refine ⟨?_, ?_⟩ <;> rintro rfl <;> cases inside
  rw [Hostless, trim_schemeThen letters inLogin inPort,
    resolve_absolute letters (by rw [web]; decide) first hne fun c there =>
      (hostless_plain inLogin inPort c there).1]
  exact afterSlashes_plain web inLogin inPort behind

theorem lacks_schemeThen (letters : isScheme word = true) (inLogin : PlainLogin login)
    (behind : IsBehind .other rest) :
    ∃ a, Lacks (schemeThen word login none rest) a ∧ a.schemeName = lower (String.ofList word) := by
  have portless : PlainPort none := fun _ impossible => nomatch impossible
  obtain ⟨a, split, scheme, host⟩ := split?_schemeThen letters inLogin portless behind
  refine ⟨a, ⟨split, host⟩, ?_⟩
  rw [Absolute.schemeName, scheme]

theorem hostless_login {l : List Char} (letters : isScheme word = true)
    (web : Kind.of (lower (String.ofList word)) = .web) (inLogin : PlainLogin (some l))
    (behind : IsBehind .other rest) : Hostless base (schemeThen word (some l) none rest) := by
  have portless : PlainPort none := fun _ impossible => nomatch impossible
  refine hostless_schemeThen letters web inLogin portless behind.web ?_
  exact List.append_ne_nil_of_left_ne_nil
    (List.append_ne_nil_of_right_ne_nil l (List.cons_ne_nil '@' [])) _

/-- Behind a scheme, an authority with a port and without a host is never repaired. -/
theorem resolve_schemeThen {port : List Char} (letters : isScheme word = true)
    (web : Kind.of (lower (String.ofList word)) = .web) (inLogin : PlainLogin login)
    (inPort : PlainPort (some port)) (behind : IsBehind .other rest) :
    Hostless base (schemeThen word login port rest) ∧
      Reported base (schemeThen word login port rest) := by
  have failed : Hostless base (schemeThen word login port rest) :=
    hostless_schemeThen letters web inLogin inPort behind.web
      (List.append_ne_nil_of_right_ne_nil _ (List.cons_ne_nil ':' port))
  refine ⟨failed, failed.reported ?_⟩
  obtain ⟨a, split, -, host⟩ := split?_schemeThen letters inLogin inPort behind
  rw [Option.elim_some] at host
  have ascii : a.host.all (·.toNat < 128) = true := by
    rw [host]
    refine List.all_eq_true.mpr (List.forall_mem_cons.mpr ⟨rfl, fun c there => ?_⟩)
    exact (Bool.and_eq_true_iff.mp (inName_of_isDigit (inPort port rfl c there))).1
  rw [complete, split]
  dsimp only
  rw [if_pos ascii, host, if_neg (List.cons_ne_nil ':' port)]

end Forms

/-! ## All locations -/

/-- A location that lacks a host leads to that of the base if it is read as the same one, and there
to the same port, without a login. -/
theorem resolve_lacks_iff (host : base.hostText ≠ "") (written : IsHostText base.hostText.toList)
    (fits : ∀ p, base.port? = some p → p ≤ 65535) (lacks : Lacks location a)
    (other : Kind.of a.schemeName ≠ .file) :
    ((∃ url, resolve base location = .ok url ∧ url.hostText = base.hostText) ↔
        base.Rereads (Kind.of a.schemeName)) ∧
      ∀ url, resolve base location = .ok url → url.scheme = a.schemeName ∧
        url.isAnonymous = true ∧
        url.port? = base.port?.filter (some · ≠ defaultPort? a.schemeName) := by
  rw [resolve_of_lacks host written fits lacks other, Rereads]
  generalize pathAfterAuthority (Kind.of a.schemeName) (tidy a.rest) = result
  generalize base.port?.filter (some · ≠ defaultPort? a.schemeName) = port
  cases hostNamed (Kind.of a.schemeName) base.hostText with
  | error e =>
      refine ⟨⟨?_, ?_⟩, ?_⟩
      · rintro ⟨_, impossible, -⟩
        cases impossible
      · rintro ⟨_, impossible, -⟩
        cases impossible
      · rintro _ ⟨⟩
  | ok named =>
      have text : (withPath a.schemeName (some ⟨"", none, some named, port⟩) result).hostText =
        named.text := rfl
      refine ⟨⟨?_, ?_⟩, ?_⟩
      · rintro ⟨_, ⟨⟩, same⟩
        exact ⟨named, rfl, text.symm.trans same⟩
      · rintro ⟨_, ⟨⟩, same⟩
        exact ⟨_, rfl, text.trans same⟩
      · rintro _ ⟨⟩
        exact ⟨rfl, rfl, rfl⟩

/-- What becomes of the locations without a host, seen from a url of the web.  One that lacks a host
leads to that of the url if it is read as the same one, without a login and on the port of the url;
every plain host is.  A location lacks a host if it begins with a scheme and two slashes, and there
is at most a login behind them; where there is one, the reader finds no host either.  Of all other
locations in which the reader finds none, this is reported, or that there is a host outside ASCII;
with a scheme and a port, and behind two slashes alone, it is always the lack of a host. -/
theorem resolve_without_host (made : base.Made) (followed : isFollowedScheme base.scheme = true)
    (fits : ∀ p, base.port? = some p → p ≤ 65535) :
    (∀ location a, Lacks location a → Kind.of a.schemeName ≠ .file →
      ((∃ url, resolve base location = .ok url ∧ url.hostText = base.hostText) ↔
          base.Rereads (Kind.of a.schemeName)) ∧
        ∀ url, resolve base location = .ok url → url.scheme = a.schemeName ∧
          url.isAnonymous = true ∧
          url.port? = base.port?.filter (some · ≠ defaultPort? a.schemeName)) ∧
    (∀ kind, (kind.isSpecial = true → IsPlain base.hostText) → base.Rereads kind) ∧
    (∀ word login rest, isScheme word = true → PlainLogin login → IsBehind .other rest →
      ∃ a, Lacks (schemeThen word login none rest) a ∧
        a.schemeName = lower (String.ofList word)) ∧
    (∀ word l rest, isScheme word = true → Kind.of (lower (String.ofList word)) = .web →
      PlainLogin (some l) → IsBehind .other rest →
      Hostless base (schemeThen word (some l) none rest)) ∧
    (∀ location, Hostless base location → (∀ a, ¬ Lacks location a) →
      Reported base location ∨
        resolve base location = .error (foreignHostReport base location)) ∧
    (∀ word login port rest, isScheme word = true → Kind.of (lower (String.ofList word)) = .web →
      PlainLogin login → PlainPort (some port) → IsBehind .other rest →
      Hostless base (schemeThen word login (some port) rest) ∧
        Reported base (schemeThen word login (some port) rest)) ∧
    (∀ login port rest, PlainLogin login → PlainPort port → IsBehind .web rest →
      Hostless base (slashesThen login port rest) ∧
        Reported base (slashesThen login port rest)) := by
  have web := kind_of_followed followed
  obtain ⟨host, written⟩ := made.host web
  refine ⟨?_, ?_, ?_, ?_, ?_, ?_, ?_⟩
  · exact fun location a lacks other => resolve_lacks_iff host written fits lacks other
  · exact fun kind plain => made.rereads web plain
  · exact fun word login rest letters inLogin behind => lacks_schemeThen letters inLogin behind
  · exact fun word l rest letters web inLogin behind => hostless_login letters web inLogin behind
  · exact fun location failed names => resolve_of_hostless failed names
  · exact fun word login port rest letters web inLogin inPort behind =>
      resolve_schemeThen letters web inLogin inPort behind
  · exact fun login port rest inLogin inPort behind =>
      resolve_slashesThen host web inLogin inPort behind

/-- A url of the web whose host is an address. -/
def loopback : Url :=
  ⟨"http", some ⟨"", none, some (.ipv6 [0, 0, 0, 0, 0, 0, 0, 1]), some 8080⟩, "/a", none, none⟩

theorem loopback_made : loopback.Made := @Made.parsed loopback "http://[::1]:8080/a" rfl

/-- Behind a scheme with a login, the host of the base is put in; behind one with a port, its lack
is reported. -/
theorem resolve_without_host_of_loopback :
    (∃ url, resolve loopback "https://u@/x" = .ok url ∧ url.hostText = "[::1]") ∧
      Reported loopback "https://:443/x" := by
  obtain ⟨repaired, rereads, lacking, -, -, reported, -⟩ :=
    resolve_without_host loopback_made rfl (by rintro p ⟨⟩; decide)
  obtain ⟨a, lacks, scheme⟩ := lacking "https".toList (some ['u']) "/x".toList rfl
    (by rintro l ⟨⟩; exact forall_of_all rfl) (by rintro c ⟨⟩; rfl)
  have web : Kind.of a.schemeName = .web := by
    rw [scheme]
    decide
  have plain : IsPlain loopback.hostText := by decide +kernel
  refine ⟨((repaired _ a lacks (by rw [web]; decide)).1).mpr (rereads _ fun _ => plain), ?_⟩
  exact (reported "https".toList none "443".toList "/x".toList rfl (by decide)
    (fun _ impossible => nomatch impossible) (by rintro p ⟨⟩; exact forall_of_all rfl)
    (by rintro c ⟨⟩; rfl)).2

/-- The lack of a host is not always made good: a port alone is taken for a host. -/
theorem lacking_host_reported :
    ¬ ∀ (base : Url) (location : String), base.Made → isFollowedScheme base.scheme = true →
      Hostless base location →
      ∃ url, resolve base location = .ok url ∧ url.hostText = base.hostText := by
  intro always
  have failed : Hostless loopback "https://:443/x" ∧ Reported loopback "https://:443/x" :=
    @resolve_schemeThen loopback none "/x".toList "https".toList "443".toList rfl (by decide)
      (fun _ impossible => nomatch impossible) (by rintro p ⟨⟩; exact forall_of_all rfl)
      (by rintro c ⟨⟩; rfl)
  obtain ⟨hostless, reported⟩ := failed
  obtain ⟨url, resolved, -⟩ := always loopback "https://:443/x" loopback_made rfl hostless
  cases reported.symm.trans resolved

end Redirect

end HttpClient
