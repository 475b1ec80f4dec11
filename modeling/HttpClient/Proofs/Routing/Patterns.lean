/-
# How mount patterns are spelled

A mount pattern is spelled by a word for the scheme, one of six forms for the hosts (`HostWord`),
a port or none, and any number of slashes behind all of it (`Spelling`):

    http://api.test:8080//     a name, with a port
    all://*.test               the hosts below a name
    https://*test/             a name and the hosts below it
    all://[::1]:443            an address, with a port

Each of these is read as a pattern, and its parts tell which urls it admits and with which score
(`Spelling.Admits`, `Spelling.weight`).  It all depends on where the reader cuts.  The scheme ends
at the first colon with two slashes, and no word for a scheme has a colon in it.  The port begins
behind the last colon, and the only hosts with colons are addresses in brackets: the last of their
colons is told from that of a port by the bracket that closes behind it.

Three ways of spelling are refused: one without the colon and the two slashes, one with nothing in
front of them, and one with a port that is none (`NoPort`).
-/
import HttpClient.Proofs.Text.Letters
import HttpClient.Proofs.Text.Trimming
import HttpClient.Proofs.Url.Address
import HttpClient.Proofs.Url.Web
import HttpClient.Routing.MountPattern

namespace HttpClient

open Text

namespace MountPattern

/-! ## Spellings -/

/-- A word for a scheme: letters, digits, `+`, `-` and `.`. -/
structure SchemeWord where
  text : List Char
  nonempty : text ≠ []
  letters : ∀ c ∈ text, (c.isAlphanum || "+-.".toList.contains c) = true

/-- A name of hosts: letters, digits, hyphens and dots, of which the first is a letter or a digit. -/
structure HostName where
  text : List Char
  begins : text.head?.any Char.isAlphanum = true
  letters : ∀ c ∈ text, (c.isAlphanum || "-.".toList.contains c) = true

/-- The text of an address that stands between brackets. -/
structure AddressText where
  text : List Char
  reads : (Url.ipv6? text).isSome = true

/-- The digits of a port. -/
structure PortDigits where
  text : List Char
  nonempty : text ≠ []
  digits : ∀ c ∈ text, c.isDigit = true
  fits : digitsValue text ≤ 65535

/-- The forms in which the hosts of a pattern are spelled. -/
inductive HostWord where
  | nothing
  | star
  | below (name : HostName)
  | within (name : HostName)
  | only (name : HostName)
  | address (address : AddressText)

def HostWord.text : HostWord → List Char
  | .nothing => []
  | .star => ['*']
  | .below name => '*' :: '.' :: name.text
  | .within name => '*' :: name.text
  | .only name => name.text
  | .address a => '[' :: (a.text ++ [']'])

/-- The host is a name with more in front of it, in letters of either case. -/
def IsBelow (name host : List Char) : Prop :=
  ∃ front back, host = front ++ '.' :: back ∧ Alike back name

/-- The form is one for the host, in letters of either case. -/
def HostWord.Admits : HostWord → List Char → Prop
  | .nothing, _ => True
  | .star, _ => True
  | .below name, host => IsBelow name.text host
  | .within name, host => Alike host name.text ∨ IsBelow name.text host
  | .only name, host => Alike host name.text
  | .address a, host => Alike host ('[' :: (a.text ++ [']']))

/-- The parts of a pattern, but for the port. -/
structure Spelling where
  scheme : SchemeWord
  host : HostWord
  slashes : Nat

namespace Spelling

/-- The pattern with a text for its port, if there is one. -/
def text (s : Spelling) (port : Option (List Char)) : String :=
  String.ofList (s.scheme.text ++ ("://".toList ++
    (s.host.text ++ (port.elim [] (':' :: ·) ++ List.replicate s.slashes '/'))))

def everyScheme : List Char := "all".toList

/-- The pattern is one for the url. -/
structure Admits (s : Spelling) (port : Option PortDigits) (u : Url) : Prop where
  scheme : Alike s.scheme.text everyScheme ∨ Alike s.scheme.text u.scheme.toList
  host : s.host.Admits u.hostText.toList
  port : ∀ p ∈ port, u.effectivePort? = some (digitsValue p.text)

/-- The score of the pattern on the urls that it is for. -/
def weight (s : Spelling) (port : Option PortDigits) : Nat :=
  2 + (if Alike s.scheme.text everyScheme then 0 else 1) + if port.isSome then 4 else 0

end Spelling

/-- The text is none for a port: some character in it is neither a digit nor a sign nor one of the
slashes behind it, or else it is too great a number. -/
inductive NoPort (text : List Char) : Prop
  | letter {c : Char} : c ∈ text → c.isDigit = false → c ≠ '+' → c ≠ '/' → NoPort text
  | great : text ≠ [] → (∀ c ∈ text, c.isDigit = true) → 65535 < digitsValue text → NoPort text

/-! ## Characters -/

theorem SchemeWord.no_colon (w : SchemeWord) : ':' ∉ w.text := fun colon =>
  absurd (w.letters ':' colon) (by decide)

theorem HostName.plain (name : HostName) {c : Char}
    (other : (c.isAlphanum || "-.".toList.contains c) = false) :
    c ∉ name.text := by
  intro there
  rw [name.letters c there] at other
  cases other

theorem AddressText.colon (a : AddressText) : ':' ∈ a.text := by
  obtain ⟨ps, read⟩ := Option.isSome_iff_exists.mp a.reads
  exact (Url.ipv6?_chars read).1

theorem AddressText.no_bracket (a : AddressText) : ']' ∉ a.text := by
  obtain ⟨ps, read⟩ := Option.isSome_iff_exists.mp a.reads
  exact fun there => absurd ((Url.ipv6?_chars read).2 ']' there) (by decide)

theorem HostWord.colon_cases (w : HostWord) : ':' ∉ w.text ∨ ∃ a, w = .address a := by
  have plain (name : HostName) : ':' ∉ name.text := name.plain rfl
  cases w with
  | nothing => exact .inl List.not_mem_nil
  | star => exact .inl (by decide)
  | below name => exact .inl (by simpa [HostWord.text] using plain name)
  | within name => exact .inl (by simpa [HostWord.text] using plain name)
  | only name => exact .inl (plain name)
  | address a => exact .inr ⟨a, rfl⟩

theorem HostWord.getLast?_ne (w : HostWord) : w.text.getLast? ≠ some '/' := by
  have plain (name : HostName) : '/' ∉ name.text := name.plain rfl
  intro last
  have there := List.mem_of_getLast? last
  cases w with
  | nothing => cases last
  | star => exact absurd there (by decide)
  | below name => simp [HostWord.text, plain name] at there
  | within name => simp [HostWord.text, plain name] at there
  | only name => exact plain name there
  | address a =>
      rw [HostWord.text, ← List.cons_append, List.getLast?_concat] at last
      cases last

theorem HostWord.closed (w : HostWord) :
    (w.text.head? = some '[' && w.text.getLast? ≠ some ']') = false := by
  have plain (name : HostName) : '[' ∉ name.text := name.plain rfl
  cases w with
  | nothing => rfl
  | star => rfl
  | below name => rfl
  | within name => rfl
  | only name =>
      have other : name.text.head? ≠ some '[' := fun first =>
        plain name (List.mem_of_mem_head? first)
      simp [HostWord.text, other]
  | address a =>
      rw [HostWord.text, ← List.cons_append, List.getLast?_concat]
      simp

/-! ## Where the reader cuts -/

theorem dropEnd_slashes {front : List Char} (h : front.getLast? ≠ some '/') (n : Nat) :
    dropEnd (· == '/') (front ++ List.replicate n '/') = front := by
  have slashes : dropEnd (· == '/') (List.replicate n '/') = [] :=
    dropEnd_of_forall fun c there => by simp [List.eq_of_mem_replicate there]
  rw [dropEnd_append, if_pos slashes]
  cases last : front.getLast? with
  | none =>
      rw [List.getLast?_eq_none_iff.mp last]
      rfl
  | some c =>
      refine dropEnd_of_getLast? ⟨c, last, ?_⟩
      have other : c ≠ '/' := by
        rintro rfl
        exact h last
      simpa using other

theorem hostAndPort?_host (w : HostWord) : hostAndPort? w.text = some (w.text, none) := by
  unfold hostAndPort?
  rcases w.colon_cases with free | ⟨a, rfl⟩
  · rw [cutLast_eq_none free]
  · -- the last colon is one of the address, so the bracket is open in front of it
    obtain ⟨front, back, parts, free⟩ := List.eq_append_cons_of_mem (List.mem_reverse.mpr a.colon)
    have text : (HostWord.address a).text =
        ('[' :: back.reverse) ++ ':' :: (front.reverse ++ [']']) := by
      rw [HostWord.text, ← List.reverse_reverse a.text, parts]
      simp
    have behind : ':' ∉ front.reverse ++ [']'] := by
      simpa using free
    have opened : ('[' :: back.reverse).getLast? ≠ some ']' := by
      intro last
      have there := List.mem_of_getLast? last
      have inside : ']' ∈ a.text := by
        have early : ']' ∈ back := by simpa using there
        rw [← List.reverse_reverse a.text, parts]
        simp [early]
      exact a.no_bracket inside
    rw [text, cutLast_of_not_mem _ behind]
    simp [opened]

theorem hostAndPort?_port (w : HostWord) {port : List Char} (h : ':' ∉ port) :
    hostAndPort? (w.text ++ ':' :: port) =
      (natUpTo? 65535 port).map fun p => (w.text, some p) := by
  rw [hostAndPort?, cutLast_of_not_mem _ h]
  dsimp only
  rw [w.closed]
  rfl

/-! ## Ports -/

theorem PortDigits.value (p : PortDigits) : natUpTo? 65535 p.text = some (digitsValue p.text) := by
  rw [natUpTo?_of_digits 65535 p.nonempty p.digits, if_pos p.fits]

theorem PortDigits.plain (p : PortDigits) {c : Char} (other : c.isDigit = false) : c ∉ p.text := by
  intro there
  rw [p.digits c there] at other
  cases other

theorem NoPort.refused {port : List Char} (h : NoPort port) (n : Nat) :
    natUpTo? 65535 (dropEnd (· == '/') (port ++ List.replicate n '/')) = none := by
  cases h with
  | @letter c there noDigit noSign noSlash =>
      have kept : c ∈ dropEnd (· == '/') (port ++ List.replicate n '/') :=
        mem_dropEnd (List.mem_append_left _ there) (by simpa using noSlash)
      refine Option.eq_none_iff_forall_ne_some.mpr fun m value => ?_
      rcases isDigit_of_natUpTo? value kept with digit | sign
      · rw [noDigit] at digit
        cases digit
      · exact noSign sign
  | great some digits great =>
      have last : port.getLast? ≠ .some '/' := fun last =>
        absurd (digits '/' (List.mem_of_getLast? last)) (by decide)
      rw [dropEnd_slashes last, natUpTo?_of_digits 65535 some digits,
        if_neg (Nat.not_le.mpr great)]

/-! ## Hosts -/

theorem isBelow_iff {name : List Char} {host : String} :
    endsWith (lower host) ("." ++ String.ofList (name.map Char.toLower)) = true ↔
      IsBelow name host.toList := by
  have word : ("." ++ String.ofList (name.map Char.toLower)).toList =
      '.' :: name.map Char.toLower := by
    simp [String.toList_append]
  rw [endsWith, word, lower, String.toList_ofList, List.isSuffixOf_iff_suffix, List.suffix_map_iff]
  constructor
  · rintro ⟨l, ⟨front, parts⟩, same⟩
    obtain ⟨c, back, rfl, dot, name⟩ := List.map_eq_cons_iff.mp same.symm
    rw [eq_of_toLower_eq rfl dot] at parts
    exact ⟨front, back, parts.symm, name⟩
  · rintro ⟨front, back, parts, same⟩
    refine ⟨'.' :: back, ⟨front, parts.symm⟩, ?_⟩
    rw [List.map_cons, same]
    rfl

theorem alike_iff {name : List Char} {host : String} :
    (lower host == String.ofList (name.map Char.toLower)) = true ↔ Alike host.toList name := by
  rw [beq_iff_eq, lower, String.ofList_inj]
  exact Iff.rfl

theorem IsBelow.not_alike {name host : List Char} (h : IsBelow name host) : ¬ Alike host name := by
  obtain ⟨front, back, rfl, same⟩ := h
  intro whole
  have long := congrArg List.length whole
  have short := congrArg List.length same
  simp only [List.length_map, List.length_append, List.length_cons] at long short
  omega

/-- The form that is read. -/
def HostWord.form : HostWord → HostForm
  | .nothing => .any
  | .star => .any
  | .below name => .below (String.ofList (name.text.map Char.toLower))
  | .within name => .within (String.ofList (name.text.map Char.toLower))
  | .only name => .only (String.ofList (name.text.map Char.toLower))
  | .address a => .only (String.ofList (('[' :: (a.text ++ [']'])).map Char.toLower))

theorem HostName.first (name : HostName) : ∃ c cs, name.text.map Char.toLower = c :: cs ∧
    c ≠ '*' ∧ c ≠ '.' := by
  obtain ⟨text, begins, letters⟩ := name
  cases text with
  | nil => cases begins
  | cons c cs =>
      have letter : c.isAlphanum = true := begins
      refine ⟨c.toLower, cs.map Char.toLower, rfl, fun star => ?_, fun dot => ?_⟩
      · rw [eq_of_toLower_eq rfl star] at letter
        cases letter
      · rw [eq_of_toLower_eq rfl dot] at letter
        cases letter

theorem HostWord.read (w : HostWord) : HostForm.read (w.text.map Char.toLower) = w.form := by
  cases w with
  | nothing => rfl
  | star => rfl
  | below name => rfl
  | within name =>
      obtain ⟨c, cs, text, -, noDot⟩ := name.first
      have shown : (HostWord.within name).text.map Char.toLower = '*' :: c :: cs := by
        rw [← text]
        rfl
      rw [shown, HostWord.form, text]
      unfold HostForm.read
      split
      · simp_all
      · simp_all
      · simp_all
      · simp_all
      · simp_all
  | only name =>
      obtain ⟨c, cs, text, noStar, -⟩ := name.first
      have shown : (HostWord.only name).text.map Char.toLower = c :: cs := text
      rw [shown, HostWord.form, text]
      unfold HostForm.read
      split
      · simp_all
      · simp_all
      · simp_all
      · simp_all
      · rfl
  | address a => rfl

theorem HostWord.admits_iff (w : HostWord) (host : String) :
    w.form.admits (lower host) = true ↔ w.Admits host.toList := by
  cases w with
  | nothing => simp [HostWord.form, HostForm.admits, HostWord.Admits]
  | star => simp [HostWord.form, HostForm.admits, HostWord.Admits]
  | below name => exact isBelow_iff
  | within name =>
      rw [HostWord.form, HostForm.admits, Bool.or_eq_true, isBelow_iff, alike_iff]
      exact Iff.rfl
  | only name => exact alike_iff
  | address a => exact alike_iff

/-! ## Whole patterns -/

namespace Spelling

theorem toList_text (s : Spelling) (port : Option (List Char)) :
    (s.text port).toList = s.scheme.text ++ ("://".toList ++
      (s.host.text ++ (port.elim [] (':' :: ·) ++ List.replicate s.slashes '/'))) :=
  String.toList_ofList

/-- The scheme that the word names, if it is not the one for all schemes. -/
def schemeName? (s : Spelling) : Option String :=
  if Alike s.scheme.text everyScheme then none
  else some (String.ofList (s.scheme.text.map Char.toLower))

/-- The pattern that is spelled. -/
def pattern (s : Spelling) (port : Option PortDigits) : MountPattern where
  text := s.text (port.map (·.text))
  scheme := s.schemeName?
  host := s.host.form
  port := port.map fun p => digitsValue p.text

/-- The scheme is cut off in front, and the slashes behind. -/
theorem parse?_text (s : Spelling) (port : Option (List Char)) :
    parse? (s.text port) =
      (hostAndPort? (dropEnd (· == '/')
        (s.host.text ++ (port.elim [] (':' :: ·) ++ List.replicate s.slashes '/')))).map
        fun (host, number) =>
          ⟨s.text port, s.schemeName?, .read (host.map Char.toLower), number⟩ := by
  have scheme : s.scheme.text.map Char.toLower ≠ [] :=
    fun hnil => s.scheme.nonempty (List.map_eq_nil_iff.mp hnil)
  have cut : cutWord "://".toList (s.text port).toList = some (s.scheme.text,
      s.host.text ++ (port.elim [] (':' :: ·) ++ List.replicate s.slashes '/')) := by
    rw [toList_text]
    exact cutWord_of_not_mem s.scheme.no_colon _
  unfold parse?
  rw [cut]
  dsimp only [bind, Option.bind]
  rw [if_neg scheme]
  cases hostAndPort? (dropEnd (· == '/')
    (s.host.text ++ (port.elim [] (':' :: ·) ++ List.replicate s.slashes '/'))) with
  | none => rfl
  | some found => rfl

theorem parse_text (s : Spelling) (port : Option PortDigits) :
    parse (s.text (port.map (·.text))) = .ok (s.pattern port) := by
  rw [parse, parse?_text, pattern, ← s.host.read]
  cases port with
  | none =>
      rw [Option.map_none, Option.elim_none, List.nil_append,
        dropEnd_slashes s.host.getLast?_ne s.slashes, hostAndPort?_host]
      rfl
  | some p =>
      have digits : dropEnd (· == '/') (p.text ++ List.replicate s.slashes '/') = p.text :=
        dropEnd_slashes (fun last => p.plain rfl (List.mem_of_getLast? last)) s.slashes
      rw [Option.map_some, Option.elim_some, List.cons_append, dropEnd_append_cons rfl, digits,
        hostAndPort?_port _ (p.plain rfl), p.value]
      rfl

theorem schemeName?_all (s : Spelling) {u : Url} (lowered : lower u.scheme = u.scheme) :
    s.schemeName?.all (· == u.scheme) = true ↔
      Alike s.scheme.text everyScheme ∨ Alike s.scheme.text u.scheme.toList := by
  have letters : u.scheme.toList.map Char.toLower = u.scheme.toList := by
    conv_rhs => rw [← lowered, lower, String.toList_ofList]
  unfold schemeName?
  split
  · rename_i every
    simp [every]
  · rename_i other
    rw [Option.all_some, beq_iff_eq, ← String.toList_inj, String.toList_ofList]
    constructor
    · intro same
      exact .inr (same.trans letters.symm)
    · rintro (all | same)
      · exact absurd all other
      · exact same.trans letters

theorem admits_pattern (s : Spelling) (port : Option PortDigits) {u : Url}
    (lowered : lower u.scheme = u.scheme) :
    (s.pattern port).admits u = true ↔ s.Admits port u := by
  have host : s.host.form.admits (lower u.hostText) = true ↔ s.host.Admits u.hostText.toList :=
    s.host.admits_iff u.hostText
  have number : (port.map fun p => digitsValue p.text).all (u.effectivePort? == some ·) = true ↔
      ∀ p ∈ port, u.effectivePort? = some (digitsValue p.text) := by
    cases port with
    | none => simp
    | some p => simp
  unfold MountPattern.admits pattern
  rw [Bool.and_eq_true, Bool.and_eq_true, s.schemeName?_all lowered, host, number]
  exact ⟨fun ⟨⟨scheme, host⟩, port⟩ => ⟨scheme, host, port⟩,
    fun ⟨scheme, host, port⟩ => ⟨⟨scheme, host⟩, port⟩⟩

theorem weight_pattern (s : Spelling) (port : Option PortDigits) :
    (s.pattern port).weight = s.weight port := by
  unfold MountPattern.weight weight pattern schemeName?
  rw [Option.isSome_map]
  split
  · rfl
  · exact congrArg (· + _) (Nat.add_comm 1 2)

theorem score?_pattern (s : Spelling) (port : Option PortDigits) {u : Url}
    (lowered : lower u.scheme = u.scheme) (n : Nat) :
    (s.pattern port).score? u = some n ↔ s.Admits port u ∧ n = s.weight port := by
  rw [score?, ← s.admits_pattern port lowered, s.weight_pattern]
  split
  · rename_i admitted
    rw [Option.some.injEq, eq_comm]
    exact (and_iff_right admitted).symm
  · rename_i refused
    exact ⟨fun impossible => (nomatch impossible), fun admitted => absurd admitted.1 refused⟩

end Spelling

/-! ## What is refused -/

theorem parse_of_not_infix {text : String} (h : ¬ "://".toList <:+: text.toList) :
    parse text = .error (.invalidMountPattern text) := by
  unfold parse parse?
  rw [cutWord_eq_none_iff.mpr h]
  rfl

theorem parse_of_no_scheme (rest : String) :
    parse ("://" ++ rest) = .error (.invalidMountPattern ("://" ++ rest)) := by
  have cut : cutWord "://".toList ("://" ++ rest).toList = some ([], rest.toList) := by
    rw [String.toList_append]
    exact cutWord_of_not_mem List.not_mem_nil rest.toList
  unfold parse parse?
  rw [cut]
  rfl

theorem Spelling.parse_noPort (s : Spelling) {port : List Char} (colon : ':' ∉ port)
    (h : NoPort port) :
    parse (s.text (some port)) = .error (.invalidMountPattern (s.text (some port))) := by
  have free : ':' ∉ dropEnd (· == '/') (port ++ List.replicate s.slashes '/') := by
    intro there
    rcases List.mem_append.mp (mem_of_mem_dropEnd there) with inside | slash
    · exact colon inside
    · exact absurd (List.eq_of_mem_replicate slash) (by decide)
  rw [parse, parse?_text, Option.elim_some, List.cons_append, dropEnd_append_cons rfl,
    hostAndPort?_port _ free, h.refused]
  rfl

/-! ## All spellings -/

/-- What mount patterns say.  Every spelling is a pattern.  It scores on the urls whose scheme is the
word in front, unless that is the word for all schemes, whose host is one for its form, and whose
port, named or by default, is the one that it names; the score is two, with one more for a scheme and
four more for a port.  No host is below itself.  A text without a colon and two slashes is refused,
and so is one with nothing in front of them, and a spelling with a text for its port that is no
port. -/
theorem score_by_spelling :
    (∀ (s : Spelling) (port : Option PortDigits),
      ∃ p, parse (s.text (port.map (·.text))) = .ok p ∧
        ∀ u : Url, u.Made → ∀ n, p.score? u = some n ↔ s.Admits port u ∧ n = s.weight port) ∧
    (∀ name host, IsBelow name host → ¬ Alike host name) ∧
    (∀ text : String, ¬ "://".toList <:+: text.toList →
      parse text = .error (.invalidMountPattern text)) ∧
    (∀ rest : String, parse ("://" ++ rest) = .error (.invalidMountPattern ("://" ++ rest))) ∧
    ∀ (s : Spelling) (port : List Char), ':' ∉ port → NoPort port →
      parse (s.text (some port)) = .error (.invalidMountPattern (s.text (some port))) := by
  refine ⟨fun s port => ?_, fun _ _ => IsBelow.not_alike, fun _ => parse_of_not_infix,
    parse_of_no_scheme, fun s _ colon hnone => s.parse_noPort colon hnone⟩
  exact ⟨s.pattern port, s.parse_text port, fun u made n =>
    s.score?_pattern port made.lower_scheme n⟩

/-- A pattern for an address, with its scheme in capitals and slashes behind it. -/
def loopback : Spelling where
  scheme := ⟨"HTTP".toList, by decide, forall_of_all rfl⟩
  host := .address ⟨"::1".toList, by decide⟩
  slashes := 2

/-- The url of that address, which names no port. -/
def home : Url :=
  ⟨"http", some ⟨"", none, some (.ipv6 [0, 0, 0, 0, 0, 0, 0, 1]), none⟩, "/", none, none⟩

/-- With the default port the pattern has the greatest score that there is; with a letter for the
port, and without its front, it is refused. -/
theorem score_by_spelling_of_loopback :
    (∃ p, parse "HTTP://[::1]:0080//" = .ok p ∧ p.score? home = some 7) ∧
      parse "HTTP://[::1]:8a//" = .error (.invalidMountPattern "HTTP://[::1]:8a//") ∧
      parse "[::1]:80" = .error (.invalidMountPattern "[::1]:80") := by
  obtain ⟨spelled, -, apart, -, lettered⟩ := score_by_spelling
  refine ⟨?_, ?_, apart _ (by decide +kernel)⟩
  · obtain ⟨p, parsed, scores⟩ :=
      spelled loopback (some ⟨"0080".toList, by decide, forall_of_all rfl, by decide⟩)
    have made : home.Made := .parsed (s := "http://[::1]/") (by decide +kernel)
    have host : loopback.host.Admits home.hostText.toList := by
      have text : home.hostText = "[::1]" := by decide +kernel
      have alike : Alike "[::1]".toList ('[' :: ("::1".toList ++ [']'])) := by decide
      rw [text]
      exact alike
    refine ⟨p, parsed, (scores home made 7).mpr ⟨⟨.inr (by decide), host, ?_⟩, by decide⟩⟩
    rintro _ ⟨⟩
    decide
  · exact lettered loopback "8a".toList (by decide)
      (.letter (c := 'a') (by decide) (by decide) (by decide) (by decide))

end MountPattern

end HttpClient
