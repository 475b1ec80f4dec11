/-
# Which urls a list excludes

A list of targets that are reached without a proxy is read entry by entry, and a url is excluded if
it is meant by one of them (`Exclusion.Meant`).  How an entry reads does not depend on the others, so
two lists with a comma between them exclude what either of them does.

Of an entry only the trimmed text in lower case counts (`Exclusions.Entry.key`).  Two ways of
writing a list therefore exclude the same urls if one is got from the other by steps that keep the
set of these texts (`Exclusions.Varies`): entries are put in another order or written twice, letters
are written in the other case, blanks are added around an entry or taken away.
-/
import HttpClient.Proofs.Text.Characters
import HttpClient.Proofs.Text.Letters
import HttpClient.Proofs.Text.Trimming
import HttpClient.Routing.Proxy
import Mathlib.Logic.Relation

namespace HttpClient

open Text

/-! ## What is meant -/

def Url.hostLetters (u : Url) : List Char := (lower u.hostText).toList

/-- The url is meant by an entry, which is trimmed and in lower case. -/
inductive Exclusion.Meant (u : Url) : List Char → Prop
  /-- The star means every url. -/
  | everything : Meant u ['*']
  /-- A mount pattern means the urls that it scores on. -/
  | mount {entry : List Char} {p : MountPattern} {n : Nat} : "://".toList <:+: entry →
      MountPattern.parse (String.ofList entry) = .ok p → p.score? u = some n → Meant u entry
  /-- A name behind a star and a dot means the hosts below it. -/
  | starred {name : List Char} : ¬ "://".toList <:+: '*' :: '.' :: name →
      '.' :: name <:+ u.hostLetters → Meant u ('*' :: '.' :: name)
  /-- A name behind a dot means the hosts below it. -/
  | dotted {name : List Char} : ¬ "://".toList <:+: '.' :: name →
      '.' :: name <:+ u.hostLetters → Meant u ('.' :: name)
  /-- Any other entry means the host that it names and the hosts below it. -/
  | named {entry : List Char} : ¬ "://".toList <:+: entry → entry ≠ [] →
      (∀ name, entry ≠ '*' :: '.' :: name ∧ entry ≠ '.' :: name) →
      (u.hostLetters = entry ∨ '.' :: entry <:+ u.hostLetters) → Meant u entry

namespace MountPattern

variable {u : Url} {p : MountPattern} {s : String}

theorem parse_eq_ok : parse s = .ok p ↔ parse? s = some p := by
  unfold parse
  cases parse? s with
  | none => simp
  | some q => simp

theorem admits_iff_score? : p.admits u = true ↔ ∃ n, p.score? u = some n := by
  unfold score?
  split
  · rename_i admitted
    exact ⟨fun _ => ⟨_, rfl⟩, fun _ => admitted⟩
  · rename_i refused
    exact ⟨fun admitted => absurd admitted refused, fun ⟨_, impossible⟩ => nomatch impossible⟩

end MountPattern

namespace Exclusion

variable {u : Url} {entry name : List Char}

/-! ## Single entries -/

theorem read_marked (h : "://".toList <:+: entry) :
    read entry = (MountPattern.parse? (String.ofList entry)).elim .nothing .mount := by
  have nonempty : entry ≠ [] := by
    rintro rfl
    exact absurd h (by decide)
  have noStar : entry ≠ ['*'] := by
    rintro rfl
    exact absurd h (by decide)
  have marked : (cutWord "://".toList entry).isSome = true :=
    Option.isSome_iff_ne_none.mpr (mt cutWord_eq_none_iff.mp (not_not.mpr h))
  unfold read
  rw [if_neg nonempty, if_neg noStar, if_pos marked]
  cases MountPattern.parse? (String.ofList entry) with
  | none => rfl
  | some p => rfl

theorem read_starred (h : ¬ "://".toList <:+: '*' :: '.' :: name) :
    read ('*' :: '.' :: name) = .below name := by
  rw [read, cutWord_eq_none_iff.mpr h]
  rfl

theorem read_dotted (h : ¬ "://".toList <:+: '.' :: name) :
    read ('.' :: name) = .below name := by
  rw [read, cutWord_eq_none_iff.mpr h]
  rfl

theorem read_named (h : ¬ "://".toList <:+: entry) (nonempty : entry ≠ []) (noStar : entry ≠ ['*'])
    (other : ∀ name, entry ≠ '*' :: '.' :: name ∧ entry ≠ '.' :: name) :
    read entry = .within entry := by
  unfold read
  rw [if_neg nonempty, if_neg noStar, cutWord_eq_none_iff.mpr h, Option.isSome_none,
    if_neg Bool.false_ne_true]
  split
  · rename_i name
    exact absurd rfl (other name).1
  · rename_i name
    exact absurd rfl (other name).2
  · rfl

theorem excludes_mount (h : "://".toList <:+: entry) :
    (read entry).excludes u u.hostLetters = true ↔
      ∃ p n, MountPattern.parse (String.ofList entry) = .ok p ∧ p.score? u = some n := by
  rw [read_marked h]
  simp only [MountPattern.parse_eq_ok]
  cases MountPattern.parse? (String.ofList entry) with
  | none => simp [excludes]
  | some p => simp [excludes, MountPattern.admits_iff_score?]

theorem excludes_below :
    (below name).excludes u u.hostLetters = true ↔ '.' :: name <:+ u.hostLetters :=
  List.isSuffixOf_iff_suffix

theorem excludes_within : (within name).excludes u u.hostLetters = true ↔
    u.hostLetters = name ∨ '.' :: name <:+ u.hostLetters := by
  rw [excludes, Bool.or_eq_true, beq_iff_eq, List.isSuffixOf_iff_suffix]

theorem Meant.excluded (h : Meant u entry) : (read entry).excludes u u.hostLetters = true := by
  cases h with
  | everything => rfl
  | mount marked parsed score => exact (excludes_mount marked).mpr ⟨_, _, parsed, score⟩
  | starred plain host =>
      rw [read_starred plain]
      exact excludes_below.mpr host
  | dotted plain host =>
      rw [read_dotted plain]
      exact excludes_below.mpr host
  | named plain nonempty other host =>
      by_cases star : entry = ['*']
      · subst star
        rfl
      · rw [read_named plain nonempty star other]
        exact excludes_within.mpr host

theorem meant_of_excludes (h : (read entry).excludes u u.hostLetters = true) : Meant u entry := by
  by_cases marked : "://".toList <:+: entry
  · obtain ⟨p, n, parsed, score⟩ := (excludes_mount marked).mp h
    exact .mount marked parsed score
  by_cases nonempty : entry = []
  · subst nonempty
    cases h
  by_cases star : entry = ['*']
  · subst star
    exact .everything
  by_cases starred : ∃ name, entry = '*' :: '.' :: name
  · obtain ⟨name, rfl⟩ := starred
    rw [read_starred marked] at h
    exact .starred marked (excludes_below.mp h)
  by_cases dotted : ∃ name, entry = '.' :: name
  · obtain ⟨name, rfl⟩ := dotted
    rw [read_dotted marked] at h
    exact .dotted marked (excludes_below.mp h)
  · have other (name : List Char) : entry ≠ '*' :: '.' :: name ∧ entry ≠ '.' :: name :=
      ⟨fun same => starred ⟨name, same⟩, fun same => dotted ⟨name, same⟩⟩
    rw [read_named marked nonempty star other] at h
    exact .named marked nonempty other (excludes_within.mp h)

end Exclusion

/-! ## Lists of entries -/

open Exclusion (Meant)

/-- A list excludes the urls that an entry of it means. -/
theorem excludes_iff_meant (list : String) (u : Url) : excludes list u = true ↔
    ∃ entry ∈ list.toList.splitOn ',', Meant u ((trim entry).map Char.toLower) := by
  unfold excludes exclusions
  rw [List.any_map, List.any_eq_true, pieces_eq_splitOn]
  simp only [Function.comp_apply]
  exact exists_congr fun entry => and_congr_right fun _ =>
    ⟨Exclusion.meant_of_excludes, Exclusion.Meant.excluded⟩

theorem excludes_append (a b : String) (u : Url) :
    excludes (a ++ "," ++ b) u = (excludes a u || excludes b u) := by
  have parts : pieces ',' (a ++ "," ++ b).toList = pieces ',' a.toList ++ pieces ',' b.toList := by
    simp only [pieces, piecesBy_eq_splitOnP]
    rw [String.toList_append, String.toList_append, List.append_assoc]
    exact List.splitOnP_append_cons _ _ rfl
  unfold excludes exclusions
  rw [parts, List.map_append, List.any_append]

namespace Exclusions

/-- The text of an entry as it stands in a list. -/
structure Entry where
  text : List Char
  plain : ',' ∉ text

/-- The list of these entries. -/
def ofEntries (es : List Entry) : String := String.ofList ([','].intercalate (es.map (·.text)))

/-- What counts of an entry. -/
def Entry.key (e : Entry) : List Char := (trim e.text).map Char.toLower

/-- One way of writing a list differs from another in the order of the entries, in that an entry is
written twice, in the case of the letters of an entry or in the blanks around it. -/
inductive Varies : List Entry → List Entry → Prop
  | permuted {es fs : List Entry} : es.Perm fs → Varies es fs
  | repeated {es : List Entry} {e : Entry} : e ∈ es → Varies es (e :: es)
  | recased {e f : Entry} (es fs : List Entry) : Alike e.text f.text →
      Varies (es ++ e :: fs) (es ++ f :: fs)
  | padded {e f : Entry} (es fs : List Entry) (before after : List Char) :
      (∀ c ∈ before, isBlank c = true) → (∀ c ∈ after, isBlank c = true) →
      f.text = before ++ e.text ++ after → Varies (es ++ e :: fs) (es ++ f :: fs)

theorem exists_ofEntries (list : String) : ∃ es, list = ofEntries es := by
  have plain : ∀ part ∈ list.toList.splitOn ',', ',' ∉ part := by
    intro part there comma
    rw [← pieces_eq_splitOn] at there
    cases not_of_mem_piecesBy there comma
  refine ⟨(list.toList.splitOn ',').pmap Entry.mk plain, ?_⟩
  have texts : ((list.toList.splitOn ',').pmap Entry.mk plain).map (·.text) =
      list.toList.splitOn ',' := by
    rw [List.map_pmap]
    simp
  rw [ofEntries, texts, List.intercalate_splitOn, String.ofList_toList]

theorem splitOn_ofEntries {es : List Entry} (h : es ≠ []) :
    (ofEntries es).toList.splitOn ',' = es.map (·.text) := by
  rw [ofEntries, String.toList_ofList, List.splitOn_intercalate]
  · intro part there comma
    obtain ⟨e, -, rfl⟩ := List.mem_map.mp there
    exact e.plain comma
  · exact fun hnil => h (List.map_eq_nil_iff.mp hnil)

theorem excludes_ofEntries (es : List Entry) (u : Url) :
    excludes (ofEntries es) u = true ↔ ∃ key ∈ es.map Entry.key, Meant u key := by
  rw [excludes_iff_meant]
  by_cases hnil : es = []
  · -- the empty list is read as one entry, which is blank
    subst hnil
    constructor
    · rintro ⟨entry, there, meant⟩
      cases List.mem_singleton.mp there
      cases meant.excluded
    · rintro ⟨key, there, -⟩
      cases there
  · rw [splitOn_ofEntries hnil]
    simp [Entry.key]

theorem Entry.key_recased {e f : Entry} (h : Alike e.text f.text) : e.key = f.key := by
  rw [key, key, ← trim_map isBlank_toLower, ← trim_map isBlank_toLower, h]

theorem Varies.keys {es fs : List Entry} (h : Varies es fs) (key : List Char) :
    key ∈ es.map Entry.key ↔ key ∈ fs.map Entry.key := by
  cases h with
  | permuted same => exact (same.map Entry.key).mem_iff
  | repeated there =>
      refine ⟨List.mem_cons_of_mem _, fun h => ?_⟩
      rcases List.mem_cons.mp h with rfl | h
      · exact List.mem_map_of_mem there
      · exact h
  | recased es fs same =>
      simp only [List.map_append, List.map_cons, Entry.key_recased same]
  | @padded e f es fs before after front back text =>
      have same : f.key = e.key := by
        rw [Entry.key, text, trim_padded front e.text back, Entry.key]
      simp only [List.map_append, List.map_cons, same]

theorem keys_of_eqvGen {es fs : List Entry} (h : Relation.EqvGen Varies es fs) (key : List Char) :
    key ∈ es.map Entry.key ↔ key ∈ fs.map Entry.key := by
  induction h with
  | rel es fs varies => exact varies.keys key
  | refl es => exact Iff.rfl
  | symm es fs _ ih => exact ih.symm
  | trans es fs gs _ _ first second => exact first.trans second

theorem excludes_congr {es fs : List Entry} (h : Relation.EqvGen Varies es fs) (u : Url) :
    excludes (ofEntries es) u = excludes (ofEntries fs) u := by
  rw [Bool.eq_iff_iff, excludes_ofEntries, excludes_ofEntries]
  exact exists_congr fun key => and_congr_left fun _ => keys_of_eqvGen h key

/-- What lists of exclusions say.  A list excludes a url exactly if the url is meant by one of the
texts between its commas, trimmed and in lower case.  Two lists with a comma between them exclude
what either of them does.  Every list is one of entries, and another list of entries excludes the
same urls if each is got from the other by reordering entries, writing them twice, writing letters
in the other case, and putting blanks around entries, in whatever sequence. -/
theorem excludes_by_entries :
    (∀ (list : String) (u : Url), excludes list u = true ↔
      ∃ entry ∈ list.toList.splitOn ',', Meant u ((trim entry).map Char.toLower)) ∧
    (∀ (a b : String) (u : Url), excludes (a ++ "," ++ b) u =
      (excludes a u || excludes b u)) ∧
    (∀ list, ∃ es, list = ofEntries es) ∧
    ∀ es fs, Relation.EqvGen Varies es fs → ∀ u,
      excludes (ofEntries es) u = excludes (ofEntries fs) u :=
  ⟨excludes_iff_meant, excludes_append, exists_ofEntries, fun _ _ varies => excludes_congr varies⟩

def padded : Entry := ⟨" [::1] ".toList, by decide⟩

def bare : Entry := ⟨"[::1]".toList, by decide⟩

def dotted : Entry := ⟨".TEST".toList, by decide⟩

/-- The url of the address. -/
def loopback : Url :=
  ⟨"http", some ⟨"", none, some (.ipv6 [0, 0, 0, 0, 0, 0, 0, 1]), none⟩, "/", none, none⟩

/-- Both lists exclude the address, which is a text between their commas. -/
theorem excludes_by_entries_of_loopback :
    excludes "[::1],.TEST" loopback = true ∧ excludes ".TEST, [::1] ,[::1]" loopback = true := by
  obtain ⟨meant, -, -, congr⟩ := excludes_by_entries
  have first : excludes "[::1],.TEST" loopback = true := by
    have key : (trim "[::1]".toList).map Char.toLower = "[::1]".toList := by decide +kernel
    have host : loopback.hostLetters = "[::1]".toList := by decide +kernel
    refine (meant _ _).mpr ⟨"[::1]".toList, by decide +kernel, ?_⟩
    rw [key]
    exact .named (by decide) (by decide) (fun name => ⟨by simp, by simp⟩) (.inl host)
  -- the address is written once more, with blanks around it, and all is put in another order
  have steps : Relation.EqvGen Varies [bare, dotted] [dotted, padded, bare] :=
    .trans _ _ _ (.rel _ _ (.repeated List.mem_cons_self))
      (.trans _ _ _ (.rel _ _ (.padded (e := bare) (f := padded) [] [bare, dotted] [' '] [' ']
        (List.forall_mem_singleton.mpr (by decide)) (List.forall_mem_singleton.mpr (by decide)) rfl))
        (.rel _ _ (.permuted (@List.perm_append_comm _ [padded, bare] [dotted]))))
  exact ⟨first, (congr _ _ steps loopback).symm.trans first⟩

end Exclusions

end HttpClient
