/-
# Urls of the web

A url of the web has a host, however the url came about: it was read, perhaps against another
url, or made of such a one by changing what stands around the host (`Made.exists_host`).  Its host
is written with few characters (`IsHostText`).  What is forbidden in names stays out of them, and
what their labels are written with is made of letters, digits and hyphens; addresses are made of
digits and separators.  So nothing in a host ends it, and there is no hash in it.
-/
import HttpClient.Proofs.Text.Characters
import HttpClient.Proofs.Url.Address
import HttpClient.Proofs.Url.Scheme

namespace HttpClient

open Text

namespace Text

theorem forall_mem_intercalate {p : Char → Prop} {sep : List Char} {parts : List (List Char)}
    (h : ∀ c ∈ sep, p c) (h' : ∀ part ∈ parts, ∀ c ∈ part, p c) :
    ∀ c ∈ sep.intercalate parts, p c := by
  intro c there
  rcases exists_of_mem_intercalate there with there | ⟨part, among, there⟩
  · exact h c there
  · exact h' part among c there

end Text

namespace Url

/-! ## Addresses -/

theorem ipv6Pieces_inAddress (pieces : List Nat) :
    ∀ c ∈ (ipv6Pieces pieces).toList, inAddress c = true := by
  have digits : ∀ d < 16, inAddress (Nat.digitChar d) = true := by decide
  unfold ipv6Pieces join
  rw [String.toList_intercalate]
  refine forall_mem_intercalate (List.all_eq_true.mp rfl) fun part among c there => ?_
  obtain ⟨s, there', rfl⟩ := List.mem_map.mp among
  obtain ⟨n, -, rfl⟩ := List.mem_map.mp there'
  rw [Hex.ofNat, String.toList_ofList] at there
  obtain ⟨d, small, rfl⟩ := exists_of_mem_toDigits (by decide) there
  exact digits d small

theorem ipv6Text_inAddress (pieces : List Nat) :
    ∀ c ∈ (ipv6Text pieces).toList, inAddress c = true := by
  unfold ipv6Text
  split
  split
  · exact ipv6Pieces_inAddress pieces
  · intro c there
    rw [String.toList_append, String.toList_append, List.mem_append, List.mem_append] at there
    rcases there with (there | there) | there
    · exact ipv6Pieces_inAddress _ c there
    · have colons : ∀ c ∈ "::".toList, inAddress c = true := List.all_eq_true.mp rfl
      exact colons c there
    · exact ipv6Pieces_inAddress _ c there

/-! ## Names -/

/-- The characters with which names are written: those of ASCII that are not forbidden in them. -/
def inName (c : Char) : Bool := c.toNat < 0x80 && !Domain.isForbidden c

theorem ipv4Text_toList (n : Nat) : (ipv4Text n).toList =
    Nat.toDigits 10 (n / 16777216 % 256) ++ '.' :: (Nat.toDigits 10 (n / 65536 % 256) ++
      '.' :: (Nat.toDigits 10 (n / 256 % 256) ++ '.' :: Nat.toDigits 10 (n % 256))) := by
  have dot : (toString ".").toList = ['.'] := rfl
  simp [ipv4Text, dot]

theorem inName_of_isDigit {c : Char} (h : c.isDigit = true) : inName c = true := by
  have digits : ∀ n < 10, inName (Char.ofNat (48 + n)) = true := by decide
  have range : 48 ≤ c.toNat ∧ c.toNat ≤ 57 := by
    simpa [Char.isDigit, UInt32.le_iff_toNat_le] using h
  have plain := digits (c.toNat - 48) (by omega)
  rwa [Nat.add_sub_cancel' range.1, Char.ofNat_toNat] at plain

theorem isDigit_toDigits (n : Nat) : ∀ c ∈ Nat.toDigits 10 n, c.isDigit = true :=
  fun _ there => Nat.isDigit_of_mem_toDigits (by decide) (by decide) there

theorem toDigits_inName (n : Nat) : ∀ c ∈ Nat.toDigits 10 n, inName c = true :=
  fun c there => inName_of_isDigit (isDigit_toDigits n c there)

theorem ipv4Text_chars (n : Nat) : ∀ c ∈ (ipv4Text n).toList, c = '.' ∨ c.isDigit = true := by
  have number (m : Nat) : ∀ c ∈ Nat.toDigits 10 m, c = '.' ∨ c.isDigit = true :=
    fun c there => .inr (isDigit_toDigits m c there)
  have dotted {cs : List Char} (h : ∀ c ∈ cs, c = '.' ∨ c.isDigit = true) (m : Nat) :
      ∀ c ∈ Nat.toDigits 10 m ++ '.' :: cs, c = '.' ∨ c.isDigit = true :=
    List.forall_mem_append.mpr ⟨number m, List.forall_mem_cons.mpr ⟨.inl rfl, h⟩⟩
  rw [ipv4Text_toList]
  exact dotted (dotted (dotted (number _) _) _) _

theorem ipv4Text_inName (n : Nat) : ∀ c ∈ (ipv4Text n).toList, inName c = true := by
  intro c there
  rcases ipv4Text_chars n c there with rfl | digit
  · decide
  · exact inName_of_isDigit digit

namespace Punycode

variable {p : Char → Bool}

theorem threshold_range (bias place : Nat) : 1 ≤ threshold bias place ∧ threshold bias place ≤ 26 := by
  unfold threshold
  split
  · omega
  · split <;> omega

theorem stepDigits_chars (digits : ∀ n < 36, p (digit n) = true) (bias fuel place q : Nat) :
    ∀ c ∈ stepDigits bias fuel place q, p c = true := by
  induction fuel generalizing place q with
  | zero => exact fun _ h => absurd h List.not_mem_nil
  | succ fuel ih =>
      obtain ⟨low, high⟩ := threshold_range bias place
      unfold stepDigits
      dsimp only
      split
      · rename_i last
        exact List.forall_mem_singleton.mpr (digits q (by omega))
      · have small := Nat.mod_lt (q - threshold bias place)
          (by omega : 0 < 36 - threshold bias place)
        exact List.forall_mem_cons.mpr ⟨digits _ (by omega), ih _ _⟩

theorem visit_chars (digits : ∀ n < 36, p (digit n) = true) {basic point : Nat} {e : Encoder}
    (h : ∀ c ∈ e.digits, p c = true) (visited : Char) :
    ∀ c ∈ (Encoder.visit basic point e visited).digits, p c = true := by
  unfold Encoder.visit
  split
  · exact h
  · split
    · exact List.forall_mem_append.mpr ⟨h, stepDigits_chars digits _ _ _ _⟩
    · exact h

theorem point_chars (digits : ∀ n < 36, p (digit n) = true) {label : List Char} {basic : Nat}
    {e : Encoder} (h : ∀ c ∈ e.digits, p c = true) (point : Nat) :
    ∀ c ∈ (Encoder.point label basic e point).digits, p c = true := by
  have visited (e : Encoder) (h : ∀ c ∈ e.digits, p c = true) :
      ∀ c ∈ (label.foldl (Encoder.visit basic point) e).digits, p c = true :=
    List.foldlRecOn (motive := fun e : Encoder => ∀ c ∈ e.digits, p c = true) label _ h
      fun _ h c _ => visit_chars digits h c
  exact visited _ h

theorem encode_chars (digits : ∀ n < 36, p (digit n) = true) (hyphen : p '-' = true)
    {label : List Char} (h : ∀ c ∈ label, c.toNat < 0x80 → p c = true) :
    ∀ c ∈ encode label, p c = true := by
  have written (points : List Nat) (basic : Nat) (e : Encoder) (h : ∀ c ∈ e.digits, p c = true) :
      ∀ c ∈ (points.foldl (Encoder.point label basic) e).digits, p c = true :=
    List.foldlRecOn (motive := fun e : Encoder => ∀ c ∈ e.digits, p c = true) points _ h
      fun _ h point _ => point_chars digits h point
  have plain : ∀ c ∈ label.filter (·.toNat < 0x80), p c = true := by
    intro c there
    obtain ⟨inside, ascii⟩ := List.mem_filter.mp there
    exact h c inside (of_decide_eq_true ascii)
  unfold encode
  refine List.forall_mem_append.mpr ⟨?_, written _ _ _ fun _ h => absurd h List.not_mem_nil⟩
  split
  · exact fun _ h => absurd h List.not_mem_nil
  · exact List.forall_mem_append.mpr ⟨plain, List.forall_mem_singleton.mpr hyphen⟩

end Punycode

theorem labelToAscii_chars {p : Char → Bool} (digits : ∀ n < 36, p (Punycode.digit n) = true)
    (hyphen : p '-' = true) {label : List Char} (h : ∀ c ∈ label, c.toNat < 0x80 → p c = true) :
    ∀ c ∈ Domain.labelToAscii label, p c = true := by
  unfold Domain.labelToAscii
  split
  · refine List.forall_mem_append.mpr ⟨?_, Punycode.encode_chars digits hyphen h⟩
    have word : Domain.ace = [Punycode.digit 23, Punycode.digit 13, '-', '-'] := rfl
    rw [word]
    simp only [List.forall_mem_cons, hyphen, digits 23 (by decide), digits 13 (by decide), true_and]
    exact fun _ h => absurd h List.not_mem_nil
  · rename_i plain
    intro c there
    have ascii : Domain.isForeign c = false := by
      simpa using fun foreign => plain (List.any_eq_true.mpr ⟨c, there, foreign⟩)
    exact h c there (by simpa [Domain.isForeign] using ascii)

theorem labelToAscii_inName {label : List Char} (h : ∀ c ∈ label, Domain.isForbidden c = false) :
    ∀ c ∈ Domain.labelToAscii label, inName c = true :=
  labelToAscii_chars (by decide) rfl fun c there ascii => by simp [inName, h c there, ascii]

theorem toAscii?_inName {name ascii : List Char} (h : Domain.toAscii? name = some ascii) :
    ∀ c ∈ ascii, inName c = true := by
  obtain ⟨mapped, -, h⟩ := Option.bind_eq_some_iff.mp h
  dsimp only at h
  split at h
  · cases h
  · rename_i allowed
    obtain ⟨read, -, h⟩ := Option.bind_eq_some_iff.mp h
    split at h
    · cases h
      have free : ∀ c ∈ mapped, Domain.isForbidden c = false := by
        intro c there
        simpa using fun forbidden => allowed (List.any_eq_true.mpr ⟨c, there, forbidden⟩)
      refine forall_mem_intercalate (List.forall_mem_singleton.mpr rfl) fun part among => ?_
      obtain ⟨label, there, rfl⟩ := List.mem_map.mp among
      exact labelToAscii_inName fun c inside => free c (mem_of_mem_piecesBy there inside)
    · cases h

/-! ## Hosts -/

/-- The text is written as a name, or as an address between brackets. -/
def IsHostText (cs : List Char) : Prop :=
  (∀ c ∈ cs, inName c = true) ∨
    ∃ inner, cs = '[' :: (inner ++ [']']) ∧ ∀ c ∈ inner, inAddress c = true

theorem readHost_written {cs : List Char} {host : Host} (h : readHost cs = .ok host) :
    IsHostText host.text.toList := by
  cases hostRead_of_readHost h with
  | @ipv6 inner pieces _ =>
      refine .inr ⟨(ipv6Text pieces).toList, ?_, ipv6Text_inAddress pieces⟩
      simp [Host.text]
  | @ipv4 name n _ => exact .inl (ipv4Text_inName n)
  | domain ascii =>
      rw [Host.text, String.toList_ofList]
      exact .inl (toAscii?_inName ascii)

theorem IsHostText.not_mem {cs : List Char} (h : IsHostText cs) {c : Char} (name : inName c = false)
    (address : inAddress c = false) (bracket : c ≠ '[' ∧ c ≠ ']') : c ∉ cs := by
  intro there
  rcases h with plain | ⟨inner, rfl, plain⟩
  · rw [plain c there] at name
    cases name
  · have inside : c ∈ inner := by simpa [bracket.1, bracket.2] using there
    rw [plain c inside] at address
    cases address

/-! ## Urls -/

/-- The urls that come about: those that are read, perhaps against others, and those that differ
from one of these in what stands around the host. -/
inductive Made : Url → Prop
  | parsed {u : Url} {s : String} : parse s = .ok u → Made u
  | resolved {b u : Url} {s : String} : Made b → resolve b s = .ok u → Made u
  | edited {u v : Url} : Made u → v.scheme = u.scheme → v.host? = u.host? → Made v

theorem Made.withoutLogin {u : Url} (h : u.Made) : u.withoutLogin.Made := by
  refine .edited h rfl ?_
  obtain ⟨scheme, authority, path, query, fragment⟩ := u
  cases authority <;> rfl

theorem Made.exists_host {u : Url} (h : u.Made) (web : Kind.of u.scheme = .web) :
    ∃ text host, readHost text = .ok host ∧ u.host? = some host := by
  induction h with
  | parsed read =>
      rcases read_host read web with there | ⟨_, impossible, -⟩
      · exact there
      · cases impossible
  | resolved _ read ih =>
      rcases read_host read web with there | ⟨_, base, scheme, kept⟩
      · exact there
      · cases base
        rw [scheme] at web
        rw [kept]
        exact ih web
  | edited _ scheme kept ih =>
      rw [scheme] at web
      rw [kept]
      exact ih web

theorem Made.host {u : Url} (h : u.Made) (web : Kind.of u.scheme = .web) :
    u.hostText ≠ "" ∧ IsHostText u.hostText.toList := by
  obtain ⟨text, host, read, found⟩ := h.exists_host web
  rw [hostText, hostText?, found]
  exact ⟨readHost_text read, readHost_written read⟩

theorem Made.lower_scheme {u : Url} (h : u.Made) : lower u.scheme = u.scheme := by
  induction h with
  | parsed read =>
      rcases read_scheme read with ⟨rest, named⟩ | ⟨_, impossible, -⟩
      · exact readScheme_lower named
      · cases impossible
  | resolved _ read ih =>
      rcases read_scheme read with ⟨rest, named⟩ | ⟨_, base, kept⟩
      · exact readScheme_lower named
      · cases base
        rw [kept]
        exact ih
  | edited _ scheme _ ih =>
      rw [scheme]
      exact ih

theorem hostAndPort_hashless {u : Url} (h : IsHostText u.hostText.toList) :
    '#' ∉ u.hostAndPort.toList := by
  have host : '#' ∉ u.hostText.toList := h.not_mem rfl rfl (by decide)
  unfold hostAndPort
  split
  · rename_i p _
    have digits : '#' ∉ Nat.toDigits 10 p := by
      intro there
      cases toDigits_inName p '#' there
    simp [host, digits]
  · exact host

end Url

end HttpClient
