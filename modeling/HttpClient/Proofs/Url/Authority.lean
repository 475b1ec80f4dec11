/-
# Authorities that are put together

An authority that is put together of a host and a port is read as that host and that port again,
whatever stands behind it (`afterSlashes_hostAndPort`).  Nothing in the text of a host ends it
before its end, for no name has such a character in it, and the colons of an address stand between
brackets.  Whether the host itself is read as the same one is left to its reader.

An authority without a host is refused where one is needed, be there a login or a port
(`afterSlashes_hostless`).
-/
import HttpClient.Proofs.Url.Web
import Mathlib.Data.List.TakeWhile

namespace HttpClient.Url

open Text

variable {kind : Kind} {scheme : String} {front host rest : List Char} {c d : Char}

/-- The text may stand behind an authority: it is empty, or begins with a character that ends one. -/
def IsBehind (kind : Kind) (rest : List Char) : Prop :=
  ∀ c, rest.head? = some c → endsAuthority kind c = true

theorem endsAuthority_of_ne (h : c ≠ '/' ∧ c ≠ '?' ∧ c ≠ '#' ∧ c ≠ '\\') :
    endsAuthority kind c = false := by
  simp [endsAuthority, h]

/-! ## The characters of hosts -/

theorem ne_of_inName (h : inName c = true) (other : inName d = false) : c ≠ d := by
  rintro rfl
  rw [h] at other
  cases other

theorem ne_of_inAddress (h : inAddress c = true) (other : inAddress d = false) : c ≠ d := by
  rintro rfl
  rw [h] at other
  cases other

theorem endsAuthority_of_inName (h : inName c = true) : endsAuthority kind c = false :=
  endsAuthority_of_ne ⟨ne_of_inName h rfl, ne_of_inName h rfl, ne_of_inName h rfl, ne_of_inName h rfl⟩

theorem endsAuthority_of_inAddress (h : inAddress c = true) : endsAuthority kind c = false :=
  endsAuthority_of_ne ⟨ne_of_inAddress h rfl, ne_of_inAddress h rfl, ne_of_inAddress h rfl,
    ne_of_inAddress h rfl⟩

theorem IsHostText.inside (h : IsHostText host) : ∀ c ∈ host, endsAuthority kind c = false := by
  rcases h with plain | ⟨inner, rfl, plain⟩
  · exact fun c there => endsAuthority_of_inName (plain c there)
  · intro c there
    rw [List.mem_cons, List.mem_append, List.mem_singleton] at there
    rcases there with rfl | inside | rfl
    · exact endsAuthority_of_ne (by decide)
    · exact endsAuthority_of_inAddress (plain c inside)
    · exact endsAuthority_of_ne (by decide)

/-! ## Logins -/

theorem takeWhile_authority (h : ∀ c ∈ front, endsAuthority kind c = false)
    (behind : IsBehind kind rest) :
    (front ++ rest).takeWhile (fun c => !endsAuthority kind c) = front := by
  have stop : rest.takeWhile (fun c => !endsAuthority kind c) = [] := by
    cases rest with
    | nil => rfl
    | cons c cs =>
        rw [List.takeWhile_cons_of_neg]
        simpa using behind c rfl
  rw [List.takeWhile_append_of_pos (fun c there => by rw [h c there]; rfl), stop, List.append_nil]

theorem readLogin_none (h : ∀ c ∈ front, endsAuthority kind c = false) (sign : '@' ∉ front)
    (behind : IsBehind kind rest) :
    readLogin kind (front ++ rest) = .ok ("", none, front ++ rest) := by
  unfold readLogin
  dsimp only
  rw [takeWhile_authority h behind, cutLast_eq_none sign]

/-! ## Hosts -/

theorem cutHost_stop (h : ∀ c, rest.head? = some c → c = ':' ∨ endsAuthority kind c = true) :
    cutHost kind false rest = ([], rest) := by
  cases rest with
  | nil => rfl
  | cons c cs =>
      rw [cutHost, if_pos]
      rcases h c rfl with rfl | ends
      · rfl
      · simp [ends]

theorem cutHost_name (plain : ∀ c ∈ host, inName c = true)
    (stop : cutHost kind false rest = ([], rest)) :
    cutHost kind false (host ++ rest) = (host, rest) := by
  induction host with
  | nil => exact stop
  | cons c cs ih =>
      obtain ⟨first, others⟩ := List.forall_mem_cons.mp plain
      have colon : c ≠ ':' := ne_of_inName first rfl
      have opened : c ≠ '[' := ne_of_inName first rfl
      have closed : c ≠ ']' := ne_of_inName first rfl
      have inside : endsAuthority kind c = false := endsAuthority_of_inName first
      rw [List.cons_append, cutHost, if_neg (by simp [colon, inside]), if_neg opened, if_neg closed]
      dsimp only
      rw [ih others]

theorem cutHost_address {inner : List Char} (plain : ∀ c ∈ inner, inAddress c = true)
    (stop : cutHost kind false rest = ([], rest)) :
    cutHost kind true (inner ++ ']' :: rest) = (inner ++ [']'], rest) := by
  induction inner with
  | nil =>
      have inside : endsAuthority kind ']' = false := endsAuthority_of_ne (by decide)
      rw [List.nil_append, cutHost, if_neg (by simp [inside]), if_neg (by decide), if_pos rfl]
      dsimp only
      rw [stop]
      rfl
  | cons c cs ih =>
      obtain ⟨first, others⟩ := List.forall_mem_cons.mp plain
      have opened : c ≠ '[' := ne_of_inAddress first rfl
      have closed : c ≠ ']' := ne_of_inAddress first rfl
      have inside : endsAuthority kind c = false := endsAuthority_of_inAddress first
      rw [List.cons_append, cutHost, if_neg (by simp [inside]), if_neg opened, if_neg closed]
      dsimp only
      rw [ih others]
      rfl

theorem cutHost_host (h : IsHostText host) (stop : cutHost kind false rest = ([], rest)) :
    cutHost kind false (host ++ rest) = (host, rest) := by
  rcases h with plain | ⟨inner, rfl, plain⟩
  · exact cutHost_name plain stop
  · have bracket : endsAuthority kind '[' = false := endsAuthority_of_ne (by decide)
    have rest' : '[' :: (inner ++ [']']) ++ rest = '[' :: (inner ++ ']' :: rest) := by simp
    rw [rest', cutHost, if_neg (by simp [bracket]), if_pos rfl]
    dsimp only
    rw [cutHost_address plain stop]

/-! ## Ports -/

theorem le_ofDigitChars (n : Nat) (ds : List Char) : n ≤ Nat.ofDigitChars 10 ds n := by
  induction ds generalizing n with
  | nil => exact Nat.le_refl n
  | cons d ds ih =>
      rw [Nat.ofDigitChars_cons]
      exact Nat.le_trans (by omega) (ih _)

theorem readPort_digits {n : Nat} {ds : List Char} (digits : ∀ c ∈ ds, c.isDigit = true)
    (fits : Nat.ofDigitChars 10 ds n ≤ 65535) (behind : IsBehind kind rest) :
    readPort n (ds ++ rest) = .ok (Nat.ofDigitChars 10 ds n, rest) := by
  induction ds generalizing n with
  | nil =>
      cases rest with
      | nil => rfl
      | cons c cs =>
          have ends : digit? c = none ∧ "/\\?#".toList.contains c = true := by
            have ends := behind c rfl
            simp only [endsAuthority, Bool.or_eq_true, Bool.and_eq_true, decide_eq_true_eq] at ends
            rcases ends with ((rfl | rfl) | rfl) | ⟨rfl, -⟩ <;> decide
          rw [List.nil_append, readPort, ends.1]
          exact if_pos ends.2
  | cons d ds ih =>
      obtain ⟨first, others⟩ := List.forall_mem_cons.mp digits
      rw [Nat.ofDigitChars_cons] at fits
      have small : ¬ 65535 < 10 * n + (d.toNat - '0'.toNat) :=
        Nat.not_lt.mpr (Nat.le_trans (le_ofDigitChars _ ds) fits)
      have value : digit? d = some (d.toNat - '0'.toNat) := if_pos first
      rw [List.cons_append, readPort, value]
      dsimp only
      rw [if_neg small, ih others fits, Nat.ofDigitChars_cons]

/-- The text of the port behind the host, with the colon before it. -/
def portText (u : Url) : List Char := u.port?.elim [] (':' :: Nat.toDigits 10 ·)

theorem toList_hostAndPort (u : Url) :
    u.hostAndPort.toList = u.hostText.toList ++ u.portText := by
  unfold hostAndPort portText
  split
  · rename_i p there
    simp [there]
  · rename_i there
    simp [there]

theorem portText_chars (u : Url) : ∀ c ∈ u.portText, c = ':' ∨ inName c = true := by
  unfold portText
  cases u.port? with
  | none => exact fun _ h => absurd h List.not_mem_nil
  | some p =>
      exact List.forall_mem_cons.mpr ⟨.inl rfl, fun c there => .inr (toDigits_inName p c there)⟩

theorem hostAndPort_inside {u : Url} (written : IsHostText u.hostText.toList) :
    ∀ c ∈ u.hostAndPort.toList, endsAuthority kind c = false := by
  rw [toList_hostAndPort]
  refine List.forall_mem_append.mpr ⟨written.inside, fun c there => ?_⟩
  rcases u.portText_chars c there with rfl | digit
  · exact endsAuthority_of_ne (by decide)
  · exact endsAuthority_of_inName digit

theorem portAfterHost_portText {u : Url} (fits : ∀ p, u.port? = some p → p ≤ 65535)
    (behind : IsBehind kind rest) (scheme : String) :
    portAfterHost scheme (u.portText ++ rest) =
      .ok (u.port?.filter (some · ≠ defaultPort? scheme), rest) := by
  unfold portText
  cases named : u.port? with
  | none =>
      have noPort : rest.head? ≠ some ':' := fun colon => by
        have inside : endsAuthority kind ':' = false := endsAuthority_of_ne (by decide)
        rw [behind ':' colon] at inside
        cases inside
      unfold portAfterHost
      split
      · rename_i rest' text
        rw [Option.elim_none, List.nil_append] at text
        rw [text] at noPort
        exact absurd rfl noPort
      · rfl
  | some p =>
      have value : Nat.ofDigitChars 10 (Nat.toDigits 10 p) 0 = p :=
        Nat.ofDigitChars_toDigits (by decide) (by decide)
      have read : readPort 0 (Nat.toDigits 10 p ++ rest) = .ok (p, rest) := by
        rw [readPort_digits (isDigit_toDigits p) (by rw [value]; exact fits p named) behind, value]
      rw [Option.elim_some, List.cons_append, portAfterHost, read, Option.filter_some]
      show (if rest.length = (Nat.toDigits 10 p ++ rest).length || some p = defaultPort? scheme
        then Except.ok (none, rest) else Except.ok (some p, rest)) = _
      by_cases default : some p = defaultPort? scheme
      · simp [default]
      · simp [default]

/-! ## Whole authorities -/

/-- The host that a text names behind a scheme of this kind. -/
def hostNamed (kind : Kind) (host : String) : Except ParseError Host :=
  if kind.isSpecial then readHost host.toList else readOpaqueHost host.toList

/-- The host of the url is read as that host again, behind a scheme of this kind. -/
def Rereads (u : Url) (kind : Kind) : Prop :=
  ∃ host, hostNamed kind u.hostText = .ok host ∧ host.text = u.hostText

/-- A host with a port is read as that host, if its reader takes it, and with that port, unless it is
the one that the scheme has anyway. -/
theorem afterSlashes_hostAndPort {u : Url} (host : u.hostText ≠ "")
    (written : IsHostText u.hostText.toList) (fits : ∀ p, u.port? = some p → p ≤ 65535)
    (behind : IsBehind (Kind.of scheme) rest) :
    afterSlashes scheme (u.hostAndPort.toList ++ rest) =
      (hostNamed (Kind.of scheme) u.hostText).map fun host =>
        withPath scheme (some ⟨"", none, some host, u.port?.filter (some · ≠ defaultPort? scheme)⟩)
          (pathAfterAuthority (Kind.of scheme) rest) := by
  have nonempty : u.hostText.toList ≠ [] := fun hnil => host (String.toList_eq_nil_iff.mp hnil)
  have noLogin : '@' ∉ u.hostAndPort.toList := by
    rw [toList_hostAndPort]
    refine List.not_mem_append (written.not_mem rfl rfl (by decide)) fun there => ?_
    rcases u.portText_chars '@' there with impossible | impossible <;> cases impossible
  have stop : cutHost (Kind.of scheme) false (u.portText ++ rest) = ([], u.portText ++ rest) := by
    refine cutHost_stop fun c first => ?_
    unfold portText at first
    cases named : u.port? with
    | none =>
        rw [named] at first
        exact .inr (behind c first)
    | some p =>
        rw [named] at first
        cases first
        exact .inl rfl
  simp only [afterSlashes]
  rw [readLogin_none (hostAndPort_inside written) noLogin behind, toList_hostAndPort,
    List.append_assoc]
  dsimp only [bind, Except.bind]
  rw [cutHost_host written stop, portAfterHost_portText fits behind]
  simp only [nonempty, decide_false, Bool.false_and, Bool.false_eq_true, if_false]
  unfold hostNamed
  split
  · cases readHost u.hostText.toList with
    | error e => rfl
    | ok host => rfl
  · cases readOpaqueHost u.hostText.toList with
    | error e => rfl
    | ok host => rfl

def hostless (login port : Option (List Char)) : List Char :=
  login.elim [] (· ++ ['@']) ++ port.elim [] (':' :: ·)

theorem readLogin_hostless {login port : Option (List Char)}
    (inLogin : ∀ l, login = some l → ∀ c ∈ l, endsAuthority kind c = false)
    (inPort : ∀ p, port = some p → ∀ c ∈ p, endsAuthority kind c = false ∧ c ≠ '@')
    (behind : IsBehind kind rest) :
    readLogin kind (hostless login port ++ rest) = .error .emptyHost ∨ ∃ name word,
      readLogin kind (hostless login port ++ rest) =
        .ok (name, word, port.elim [] (':' :: ·) ++ rest) := by
  have portInside : ∀ c ∈ port.elim [] (':' :: ·), endsAuthority kind c = false ∧ c ≠ '@' := by
    cases port with
    | none => exact fun _ h => absurd h List.not_mem_nil
    | some p =>
        exact List.forall_mem_cons.mpr ⟨⟨endsAuthority_of_ne (by decide), by decide⟩, inPort p rfl⟩
  have noSign : '@' ∉ port.elim [] (':' :: ·) := fun there => (portInside '@' there).2 rfl
  cases login with
  | none =>
      exact .inr ⟨"", none, readLogin_none (fun c there => (portInside c there).1) noSign behind⟩
  | some l =>
      have text : hostless (some l) port = l ++ '@' :: port.elim [] (':' :: ·) := by
        simp [hostless]
      have inside : ∀ c ∈ hostless (some l) port, endsAuthority kind c = false := by
        rw [text]
        refine List.forall_mem_append.mpr ⟨inLogin l rfl, List.forall_mem_cons.mpr
          ⟨endsAuthority_of_ne (by decide), fun c there => (portInside c there).1⟩⟩
      have dropped : (hostless (some l) port ++ rest).drop (l.length + 1) =
          port.elim [] (':' :: ·) ++ rest := by
        rw [text, List.append_assoc, List.drop_append, List.drop_of_length_le (Nat.le_succ _)]
        simp
      simp only [readLogin, takeWhile_authority inside behind]
      rw [text, cutLast_of_not_mem l noSign, ← text]
      cases l with
      | nil =>
          rw [List.length_nil] at dropped
          dsimp only
          rw [dropped]
          split
          · exact .inl rfl
          · exact .inr ⟨"", none, rfl⟩
      | cons c cs =>
          dsimp only
          rw [dropped]
          split
          · exact .inr ⟨_, _, rfl⟩
          · exact .inr ⟨_, _, rfl⟩
          · exact .inr ⟨_, _, rfl⟩

theorem afterSlashes_hostless {login port : Option (List Char)} (web : Kind.of scheme = .web)
    (inLogin : ∀ l, login = some l → ∀ c ∈ l, endsAuthority .web c = false)
    (inPort : ∀ p, port = some p → ∀ c ∈ p, endsAuthority .web c = false ∧ c ≠ '@')
    (behind : IsBehind .web rest) :
    afterSlashes scheme (hostless login port ++ rest) = .error .emptyHost := by
  have stop : cutHost .web false (port.elim [] (':' :: ·) ++ rest) =
      ([], port.elim [] (':' :: ·) ++ rest) := by
    refine cutHost_stop fun c first => ?_
    cases port with
    | none => exact .inr (behind c first)
    | some p =>
        cases first
        exact .inl rfl
  simp only [afterSlashes, web]
  rcases readLogin_hostless inLogin inPort behind with refused | ⟨name, word, read⟩
  · rw [refused]
    rfl
  · rw [read]
    dsimp only [bind, Except.bind]
    rw [stop]
    rfl

end HttpClient.Url
