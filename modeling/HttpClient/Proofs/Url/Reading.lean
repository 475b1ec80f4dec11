/-
# Hosts are read as they are written

The host of a url is written as a text, and that text is read as the host again where it is put
together with a port (`Made.rereads`): addresses in any case, and names if they have no capital
letters and none of their labels is in Punycode.  Behind the schemes that the reader does not know,
names are taken as they are, and nothing is needed of them.

A name of this kind is the mapped name itself that the reader has made of it, so whatever its
labels were checked for holds of them when they are read once more (`toAscii?_again`).  What the
tables say about single characters plays no part in this, but for the digits of addresses.
-/
import HttpClient.Proofs.Text.Decoding
import HttpClient.Proofs.Url.Authority
import HttpClient.Proofs.Url.Printing

namespace HttpClient

open Text

namespace Text

theorem mapM_self {α : Type} {f : α → Option α} {xs : List α} (h : ∀ x ∈ xs, f x = some x) :
    xs.mapM f = some xs := by
  induction xs with
  | nil => rfl
  | cons x xs ih =>
      obtain ⟨first, others⟩ := List.forall_mem_cons.mp h
      rw [List.mapM_cons, first, ih others]
      rfl

variable {cs : List Char}

/-! ## Composition -/

theorem combiningClass_ascii {c : Char} (h : c.toNat < 0x80) : combiningClass c = 0 :=
  if_pos (by omega)

theorem sortMarks_ascii (h : ∀ c ∈ cs, c.toNat < 0x80) : sortMarks cs = cs := by
  induction cs with
  | nil => rfl
  | cons c cs ih =>
      obtain ⟨-, others⟩ := List.forall_mem_cons.mp h
      have sorted : placeMark c (sortMarks cs) = c :: cs := by
        rw [ih others]
        cases cs with
        | nil => rfl
        | cons d ds =>
            rw [placeMark, combiningClass_ascii (others d List.mem_cons_self)]
            rfl
      exact sorted

theorem composeFrom_ascii {a : Char} (first : a.toNat < 0x80) (h : ∀ c ∈ cs, c.toNat < 0x80) :
    composeFrom a [] cs = a :: cs := by
  induction cs generalizing a with
  | nil => rfl
  | cons c cs ih =>
      obtain ⟨next, others⟩ := List.forall_mem_cons.mp h
      have apart : compose? a c = none := if_pos (by simp; omega)
      simp [composeFrom, apart, combiningClass_ascii next, ih next others]

theorem composed_ascii (h : ∀ c ∈ cs, c.toNat < 0x80) : composed cs = cs := by
  have whole : cs.flatMap decompose = cs :=
    (List.flatMap_congr fun c there => if_pos (Nat.lt_trans (h c there) (by decide))).trans
      (List.flatMap_singleton' cs)
  rw [composed, whole, sortMarks_ascii h]
  cases cs with
  | nil => rfl
  | cons c cs =>
      obtain ⟨first, others⟩ := List.forall_mem_cons.mp h
      rw [composeMarks, if_pos (combiningClass_ascii first), composeFrom_ascii first others]

end Text

namespace Percent

theorem encode_plain {set : Set} {cs : List Char} (h : ∀ c ∈ cs, c.toNat < 0x80 ∧ set c = false) :
    encode set cs = cs :=
  (List.flatMap_congr fun c there => if_pos (by simp [h c there])).trans (List.flatMap_singleton' cs)

theorem decode_plain {cs : List Char} (h : '%' ∉ cs) :
    decode cs = cs.flatMap String.utf8EncodeChar := by
  fun_induction decode cs with
  | case1 => rfl
  | case2 => exact absurd List.mem_cons_self h
  | case3 => exact absurd List.mem_cons_self h
  | case4 c cs _ ih =>
      rw [List.flatMap_cons, ih fun there => h (List.mem_cons_of_mem c there)]

end Percent

namespace Url

/-! ## Names -/

namespace Domain

theorem mapText?_lower {cs : List Char} (h : ∀ c ∈ cs, c.toNat < 0x80 ∧ c.toLower = c) :
    mapText? cs = some cs := by
  have each : cs.mapM mapChar? = some (cs.map ([·])) := by
    induction cs with
    | nil => rfl
    | cons c cs ih =>
        obtain ⟨⟨ascii, small⟩, others⟩ := List.forall_mem_cons.mp h
        have first : mapChar? c = some [c] := by rw [mapChar?, if_pos ascii, small]
        rw [List.mapM_cons, first, ih others]
        rfl
  have flat : (cs.map ([·])).flatten = cs := List.flatMap_singleton' cs
  rw [mapText?, each, Option.map_some, flat, composed_ascii fun c there => (h c there).1]

theorem labelToAscii_ascii {label : List Char} (h : ∀ c ∈ label, c.toNat < 0x80) :
    labelToAscii label = label :=
  if_neg fun foreign => by
    obtain ⟨c, there, outside⟩ := List.any_eq_true.mp foreign
    exact absurd (h c there) (Nat.not_lt.mpr (of_decide_eq_true outside))

theorem labelToAscii_of_not_ace {label : List Char}
    (h : ace.isPrefixOf (labelToAscii label) = false) : labelToAscii label = label := by
  unfold labelToAscii at h ⊢
  split at h
  · rw [List.isPrefixOf_iff_prefix.mpr (List.prefix_append ace _)] at h
    cases h
  · rename_i plain
    rw [if_neg plain]

end Domain

/-- A host without capital letters, and without labels in Punycode. -/
def IsPlain (host : String) : Prop :=
  lower host = host ∧ ∀ label ∈ pieces '.' host.toList, Domain.ace.isPrefixOf label = false

instance (host : String) : Decidable (IsPlain host) := inferInstanceAs (Decidable (_ ∧ _))

theorem IsPlain.toLower {host : String} (h : IsPlain host) : ∀ c ∈ host.toList, c.toLower = c := by
  have text := congrArg String.toList h.1
  rw [lower, String.toList_ofList] at text
  exact List.map_inj_left.mp (text.trans (List.map_id _).symm)

theorem intercalate_labels {mapped : List Char}
    (plain : IsPlain (String.ofList (['.'].intercalate
      ((pieces '.' mapped).map Domain.labelToAscii)))) :
    ['.'].intercalate ((pieces '.' mapped).map Domain.labelToAscii) = mapped := by
  have hne : pieces '.' mapped ≠ [] := by
    rw [pieces_eq_splitOn]
    exact List.splitOn_ne_nil '.' mapped
  have parts : pieces '.' (['.'].intercalate ((pieces '.' mapped).map Domain.labelToAscii)) =
      (pieces '.' mapped).map Domain.labelToAscii := by
    refine pieces_intercalate (fun part among dot => ?_) (mt List.map_eq_nil_iff.mp hne)
    obtain ⟨label, there, rfl⟩ := List.mem_map.mp among
    have dotless : ∀ c ∈ Domain.labelToAscii label, (c != '.') = true :=
      labelToAscii_chars (by decide) rfl fun c inside _ => by
        have other := not_of_mem_piecesBy there inside
        simpa using other
    exact absurd (dotless '.' dot) (by decide)
  have kept : ∀ label ∈ pieces '.' mapped, Domain.labelToAscii label = id label := by
    intro label there
    refine Domain.labelToAscii_of_not_ace (plain.2 _ ?_)
    rw [String.toList_ofList, parts]
    exact List.mem_map_of_mem there
  rw [List.map_congr_left kept, List.map_id, intercalate_pieces]

theorem toAscii?_again {name ascii : List Char} (h : Domain.toAscii? name = some ascii)
    (plain : IsPlain (String.ofList ascii)) : Domain.toAscii? ascii = some ascii := by
  have chars := toAscii?_inName h
  obtain ⟨mapped, -, h⟩ := Option.bind_eq_some_iff.mp h
  dsimp only at h
  split at h
  · cases h
  · rename_i allowed
    obtain ⟨read, labels, h⟩ := Option.bind_eq_some_iff.mp h
    split at h
    · rename_i fit
      cases h
      have small := plain.toLower
      rw [String.toList_ofList] at small
      have same := intercalate_labels plain
      rw [same] at chars small ⊢
      have again : Domain.mapText? mapped = some mapped :=
        Domain.mapText?_lower fun c there =>
          ⟨of_decide_eq_true (Bool.and_eq_true_iff.mp (chars c there)).1, small c there⟩
      simp only [Domain.toAscii?, again, labels, bind, Option.bind]
      rw [if_neg allowed, if_pos fit, same]
    · cases h

/-! ## Numbers as names -/

namespace Domain

theorem joinersFit_ascii {before cs : List Char} (h : ∀ c ∈ cs, c.toNat < 0x80) :
    joinersFit before cs = true := by
  induction cs generalizing before with
  | nil => rfl
  | cons c cs ih =>
      obtain ⟨first, others⟩ := List.forall_mem_cons.mp h
      have apart : c ≠ nonJoiner ∧ c ≠ joiner := by
        refine ⟨?_, ?_⟩ <;> rintro rfl <;> exact absurd first (by decide)
      simp [joinersFit, apart, ih others]

theorem isLabel_ascii {cs : List Char} (h : ∀ c ∈ cs, c.toNat < 0x80) : isLabel cs = true := by
  have mark : cs.head?.any isMark = false := by
    cases cs with
    | nil => rfl
    | cons c cs =>
        have below : c.toNat < 0x300 := Nat.lt_trans (h c List.mem_cons_self) (by decide)
        simp [isMark, below]
  have plain : cs.any isForeign = false :=
    List.any_eq_false.mpr fun c there => by simpa [isForeign] using h c there
  rw [isLabel, mark, joinersFit_ascii h, plain]
  simp

theorem keepDirections_digits {labels : List (List Char)}
    (h : ∀ label ∈ labels, ∀ c ∈ label, c.isDigit = true) : keepDirections labels = true := by
  have still : (labels.map (·.map Direction.of)).any (·.any Direction.turns) = false := by
    refine List.any_eq_false.mpr fun directions among => ?_
    obtain ⟨label, there, rfl⟩ := List.mem_map.mp among
    simp only [Bool.not_eq_true, List.any_map]
    refine List.any_eq_false.mpr fun c inside => ?_
    rw [Function.comp_apply, Direction.of, if_pos (h label there c inside)]
    decide
  rw [keepDirections, still]
  rfl

theorem readLabel?_digits {label : List Char} (h : ∀ c ∈ label, c.isDigit = true) :
    readLabel? label = some label := by
  have number : ace.isPrefixOf label = false := by
    cases label with
    | nil => rfl
    | cons c cs =>
        have other : 'x' ≠ c := by
          rintro rfl
          cases h 'x' List.mem_cons_self
        exact Bool.and_eq_false_imp.mpr fun same => absurd (beq_iff_eq.mp same) other
  rw [readLabel?, number]
  rfl

theorem toAscii?_digits {name : List Char} (h : ∀ c ∈ name, c = '.' ∨ c.isDigit = true) :
    toAscii? name = some name := by
  have chars : ∀ c ∈ name, inName c = true ∧ c.toLower = c := by
    intro c there
    rcases h c there with rfl | digit
    · decide
    · refine ⟨inName_of_isDigit digit, Char.toLower_eq_of_not_isUpper fun great => ?_⟩
      have range : 48 ≤ c.toNat ∧ c.toNat ≤ 57 := by
        simpa [Char.isDigit, UInt32.le_iff_toNat_le] using digit
      have range' : 65 ≤ c.toNat ∧ c.toNat ≤ 90 := by
        simpa [Char.isUpper, UInt32.le_iff_toNat_le] using great
      omega
  have ascii : ∀ c ∈ name, c.toNat < 0x80 := fun c there =>
    of_decide_eq_true (Bool.and_eq_true_iff.mp (chars c there).1).1
  have allowed : name.any isForbidden = false :=
    List.any_eq_false.mpr fun c there => by
      simpa using (Bool.and_eq_true_iff.mp (chars c there).1).2
  have digits : ∀ label ∈ pieces '.' name, ∀ c ∈ label, c.isDigit = true := by
    intro label among c there
    have dotless := not_of_mem_piecesBy among there
    exact (h c (mem_of_mem_piecesBy among there)).resolve_left (by simpa using dotless)
  have labels := mapM_self fun label among => readLabel?_digits (digits label among)
  have fit : ((pieces '.' name).all isLabel && keepDirections (pieces '.' name)) = true := by
    rw [keepDirections_digits digits, Bool.and_true, List.all_eq_true]
    exact fun label among =>
      isLabel_ascii fun c there => ascii c (mem_of_mem_piecesBy among there)
  have kept : ∀ label ∈ pieces '.' name, labelToAscii label = id label := fun label among =>
    labelToAscii_ascii fun c there => ascii c (mem_of_mem_piecesBy among there)
  simp only [toAscii?, mapText?_lower fun c there => ⟨ascii c there, (chars c there).2⟩, labels,
    bind, Option.bind]
  rw [allowed, if_neg Bool.false_ne_true, if_pos fit, List.map_congr_left kept, List.map_id,
    intercalate_pieces]

end Domain

/-! ## Hosts -/

theorem ascii_of_inName {c : Char} (h : inName c = true) : c.toNat < 0x80 :=
  of_decide_eq_true (Bool.and_eq_true_iff.mp h).1

theorem head?_of_inName {name : List Char} (chars : ∀ c ∈ name, inName c = true) :
    name.head? ≠ some '[' := by
  intro first
  cases chars '[' (List.mem_of_mem_head? first)

theorem readHost_name {name : List Char} (chars : ∀ c ∈ name, inName c = true) (nonempty : name ≠ [])
    (ascii : Domain.toAscii? name = some name) :
    readHost name =
      if endsInNumber name then (ipv4? name).elim (.error .badIpv4) fun n => .ok (.ipv4 n)
      else .ok (.domain (String.ofList name)) := by
  have noPercent : '%' ∉ name := fun there => by cases chars '%' there
  have decoded : decode? (Percent.decode name) = some (String.ofList name) := by
    rw [Percent.decode_plain noPercent, decode?_encode]
  unfold readHost
  split
  · exact absurd rfl (head?_of_inName chars)
  · rw [decoded, Option.bind_some, String.toList_ofList, ascii]
    cases name with
    | nil => exact absurd rfl nonempty
    | cons => rfl

theorem bracketed_ipv6Text {pieces : List Nat} (eight : pieces.length = 8)
    (small : ∀ p ∈ pieces, p < 65536) :
    bracketed ((ipv6Text pieces).toList ++ [']']) = .ok (.ipv6 pieces) := by
  simp [bracketed, ipv6?_text eight small]

theorem toList_ipv6 (pieces : List Nat) :
    (Host.ipv6 pieces).text.toList = '[' :: ((ipv6Text pieces).toList ++ [']']) := by
  simp [Host.text]

theorem readHost_again {host : Host} (h : HostRead host) (plain : IsPlain host.text) :
    readHost host.text.toList = .ok host := by
  cases h with
  | ipv6 read =>
      obtain ⟨eight, small⟩ := ipv6?_sizes read
      rw [toList_ipv6]
      exact bracketed_ipv6Text eight small
  | @ipv4 name n read =>
      have nonempty : (ipv4Text n).toList ≠ [] := by
        rw [ipv4Text_toList]
        exact List.append_ne_nil_of_left_ne_nil (toDigits_ne_nil 10 _) _
      rw [Host.text, readHost_name (ipv4Text_inName n) nonempty
        (Domain.toAscii?_digits (ipv4Text_chars n)), if_pos (endsInNumber_ipv4Text n),
        ipv4?_text (ipv4?_lt read)]
      rfl
  | domain ascii nonempty letters =>
      rw [Host.text, String.toList_ofList, readHost_name (toAscii?_inName ascii) nonempty
        (toAscii?_again ascii plain), letters]
      rfl

theorem free_of_inName {c : Char} (h : inName c = true) :
    isForbiddenInHost c = false ∧ Percent.controls c = false := by
  have all : ∀ n < 0x80, inName (Char.ofNat n) = true →
      isForbiddenInHost (Char.ofNat n) = false ∧ Percent.controls (Char.ofNat n) = false := by
    decide
  have free := all c.toNat (ascii_of_inName h)
  rw [Char.ofNat_toNat] at free
  exact free h

theorem readOpaqueHost_name {name : List Char} (chars : ∀ c ∈ name, inName c = true) :
    readOpaqueHost name = .ok (.domain (String.ofList name)) := by
  have allowed : name.any isForbiddenInHost = false :=
    List.any_eq_false.mpr fun c there => Bool.eq_false_iff.mp (free_of_inName (chars c there)).1
  have written : Percent.encode Percent.controls name = name :=
    Percent.encode_plain fun c there =>
      ⟨ascii_of_inName (chars c there), (free_of_inName (chars c there)).2⟩
  unfold readOpaqueHost
  split
  · exact absurd rfl (head?_of_inName chars)
  · rw [allowed, written, if_neg Bool.false_ne_true]

theorem readOpaqueHost_again {host : Host} (h : HostRead host) :
    ∃ again, readOpaqueHost host.text.toList = .ok again ∧ again.text = host.text := by
  have name (chars : ∀ c ∈ host.text.toList, inName c = true) :
      ∃ again, readOpaqueHost host.text.toList = .ok again ∧ again.text = host.text :=
    ⟨_, readOpaqueHost_name chars, String.ofList_toList⟩
  cases h with
  | ipv6 read =>
      obtain ⟨eight, small⟩ := ipv6?_sizes read
      rw [toList_ipv6]
      exact ⟨_, bracketed_ipv6Text eight small, rfl⟩
  | @ipv4 _ n => exact name (ipv4Text_inName n)
  | domain ascii =>
      refine name ?_
      rw [Host.text, String.toList_ofList]
      exact toAscii?_inName ascii

/-- A host of the web is read as it is written, if it is plain or the scheme is one that the reader
does not know. -/
theorem Made.rereads {u : Url} (h : u.Made) (web : Kind.of u.scheme = .web) {kind : Kind}
    (plain : kind.isSpecial = true → IsPlain u.hostText) : u.Rereads kind := by
  obtain ⟨text, host, read, found⟩ := h.exists_host web
  have same : u.hostText = host.text := by
    rw [hostText, hostText?, found]
    rfl
  have there := hostRead_of_readHost read
  unfold Rereads hostNamed
  rw [same] at plain ⊢
  split
  · rename_i special
    exact ⟨host, readHost_again there (plain special), rfl⟩
  · exact readOpaqueHost_again there

end Url

end HttpClient
