/-
# Texts with two slashes

Behind two slashes the reader looks for an authority.  With a scheme in front of them it does so
whatever the base is (`resolve_absolute`), and without one if the base has a host
(`resolve_relative`).

On the way there, blanks and controls at the ends are trimmed and line ends are dropped.  An authority
without such characters is not touched by that, and what stands behind it still does.
-/
import HttpClient.Proofs.Url.Authority
import HttpClient.Proofs.Url.Fragment

namespace HttpClient

open Text

namespace Url

variable {kind : Kind} {scheme : String} {front rest word : List Char} {c : Char}

/-! ## Characters -/

theorem far_of_class {p : Char → Bool} (low : ∀ n ≤ 0x20, p (Char.ofNat n) = false)
    (h : p c = true) : 0x20 < c.toNat := by
  refine Nat.not_le.mp fun near => ?_
  have hnone := low c.toNat near
  rw [Char.ofNat_toNat, h] at hnone
  cases hnone

theorem far_of_inName (h : inName c = true) : 0x20 < c.toNat := far_of_class (by decide) h

theorem isBlank_of_inName (h : inName c = true) : isBlank c = false := by
  have far := far_of_inName h
  have ascii : c.toNat < 0x80 := of_decide_eq_true (Bool.and_eq_true_iff.mp h).1
  grind [isBlank]

theorem far_of_inAddress (h : inAddress c = true) : 0x20 < c.toNat := far_of_class (by decide) h

theorem IsHostText.far {host : List Char} (h : IsHostText host) : ∀ c ∈ host, 0x20 < c.toNat := by
  rcases h with plain | ⟨inner, rfl, plain⟩
  · exact fun c there => far_of_inName (plain c there)
  · refine List.forall_mem_cons.mpr ⟨by decide, List.forall_mem_append.mpr
      ⟨?_, List.forall_mem_singleton.mpr (by decide)⟩⟩
    exact fun c there => far_of_inAddress (plain c there)

theorem far_hostAndPort {u : Url} (h : IsHostText u.hostText.toList) :
    ∀ c ∈ u.hostAndPort.toList, 0x20 < c.toNat := by
  rw [toList_hostAndPort]
  refine List.forall_mem_append.mpr ⟨h.far, fun c there => ?_⟩
  rcases u.portText_chars c there with rfl | digit
  · decide
  · exact far_of_inName digit

theorem far_of_endsAuthority (h : endsAuthority kind c = true) :
    0x20 < c.toNat ∧ isBlank c = false := by
  simp only [endsAuthority, Bool.or_eq_true, Bool.and_eq_true, decide_eq_true_eq] at h
  rcases h with ((rfl | rfl) | rfl) | ⟨rfl, -⟩ <;> decide

theorem endsAuthority_web (h : endsAuthority kind c = true) : endsAuthority .web c = true := by
  simp only [endsAuthority, Bool.or_eq_true, Bool.and_eq_true] at h ⊢
  exact h.imp_right fun backslash => ⟨backslash.1, rfl⟩

theorem IsBehind.web (h : IsBehind kind rest) : IsBehind .web rest :=
  fun c first => endsAuthority_web (h c first)

/-- What stands behind an authority stands behind it when its end is trimmed or cleaned. -/
theorem IsBehind.dropEnd {p : Char → Bool} (h : IsBehind kind rest)
    (stays : ∀ c, endsAuthority kind c = true → p c = false) :
    IsBehind kind (Text.dropEnd p rest) := by
  cases rest with
  | nil => exact h
  | cons c cs =>
      have first : p c = false := stays c (h c rfl)
      rw [← List.nil_append (c :: cs), dropEnd_append_cons first]
      rintro d ⟨⟩
      exact h c rfl

theorem IsBehind.tidy (h : IsBehind kind rest) : IsBehind kind (Url.tidy rest) := by
  have behind := h.dropEnd (p := fun c => c.toNat ≤ 0x20) fun c ends =>
    decide_eq_false (Nat.not_le.mpr (far_of_endsAuthority ends).1)
  unfold Url.tidy
  cases text : Text.dropEnd (fun c => c.toNat ≤ 0x20) rest with
  | nil =>
      rintro c ⟨⟩
  | cons c cs =>
      rw [text] at behind
      have kept : isGap c = false := not_isGap_of_far (far_of_endsAuthority (behind c rfl)).1
      rw [List.filter_cons_of_pos (by simp [kept])]
      rintro d ⟨⟩
      exact behind c rfl

/-! ## Schemes -/

def inScheme (c : Char) : Bool := c.isAlphanum || c = '+' || c = '-' || c = '.'

theorem isScheme_iff {c : Char} {cs : List Char} :
    Redirect.isScheme (c :: cs) = true ↔ c.isAlpha = true ∧ ∀ d ∈ cs, inScheme d = true :=
  Bool.and_eq_true_iff.trans (and_congr_right fun _ => List.all_eq_true)

theorem inScheme_of_isScheme (h : Redirect.isScheme word = true) :
    word ≠ [] ∧ ∀ c ∈ word, inScheme c = true := by
  cases word with
  | nil => cases h
  | cons c cs =>
      obtain ⟨first, others⟩ := isScheme_iff.mp h
      refine ⟨List.cons_ne_nil c cs, List.forall_mem_cons.mpr ⟨?_, others⟩⟩
      simp [inScheme, Char.isAlphanum, first]

theorem isBlank_of_inScheme (h : inScheme c = true) : isBlank c = false := by
  simp only [inScheme, Char.isAlphanum, Bool.or_eq_true, decide_eq_true_eq] at h
  rcases h with (((letter | digit) | rfl) | rfl) | rfl
  · exact isBlank_of_isAlpha letter
  · exact isBlank_of_inName (inName_of_isDigit digit)
  · rfl
  · rfl
  · rfl

theorem readScheme_of_isScheme (h : Redirect.isScheme word = true) (rest : List Char) :
    readScheme (word ++ ':' :: rest) = some (lower (String.ofList word), rest) := by
  have free : ':' ∉ word := fun there => by
    cases (inScheme_of_isScheme h).2 ':' there
  cases word with
  | nil => cases h
  | cons c cs =>
      obtain ⟨first, others⟩ := isScheme_iff.mp h
      have letters : cs.all (fun c => c.isAlphanum || "+-.".toList.contains c) = true := by
        refine List.all_eq_true.mpr fun d there => ?_
        have letter := others d there
        simp only [inScheme, Bool.or_eq_true, decide_eq_true_eq] at letter
        rcases letter with ((letter | rfl) | rfl) | rfl
        · rw [letter]
          rfl
        · rfl
        · rfl
        · rfl
      unfold readScheme
      rw [cut_of_not_mem rest free]
      exact if_pos (Bool.and_eq_true_iff.mpr ⟨first, letters⟩)

theorem afterScheme_slashes {gaps : List Nat} {base : Option Url} {text : List Char}
    (other : Kind.of scheme ≠ .file) (h : ∀ c, text.head? = some c → c ≠ '/' ∧ c ≠ '\\') :
    afterScheme gaps base scheme ('/' :: '/' :: text) = afterSlashes scheme text := by
  have two : ('/' :: '/' :: text).takeWhile (fun c => c = '/' || c = '\\') = ['/', '/'] ∧
      ('/' :: '/' :: text).dropWhile (fun c => c = '/' || c = '\\') = text := by
    cases text with
    | nil => exact ⟨rfl, rfl⟩
    | cons c cs =>
        obtain ⟨slash, backslash⟩ := h c rfl
        simp [slash, backslash]
  simp only [afterScheme, two]
  split
  · rename_i file
    exact absurd file other
  · split
    · rfl
    · rfl
  · rfl

/-- A text with a scheme and two slashes is read behind them, whatever the base. -/
theorem resolve_absolute (letters : Redirect.isScheme word = true)
    (other : Kind.of (lower (String.ofList word)) ≠ .file)
    (first : ∀ c, front.head? = some c → c ≠ '/' ∧ c ≠ '\\') (nonempty : front ≠ [])
    (far : ∀ c ∈ front, 0x20 < c.toNat) (base : Url) (rest : List Char) :
    resolve base (String.ofList (word ++ ("://".toList ++ (front ++ rest)))) =
      afterSlashes (lower (String.ofList word)) (front ++ tidy rest) := by
  obtain ⟨hne, inWord⟩ := inScheme_of_isScheme letters
  have farFront : ∀ c ∈ word ++ ("://".toList ++ front), 0x20 < c.toNat :=
    List.forall_mem_append.mpr ⟨fun c there => far_of_class (by decide) (inWord c there),
      List.forall_mem_append.mpr ⟨forall_of_all rfl, far⟩⟩
  have cleaned : (clean (String.ofList (word ++ ("://".toList ++ (front ++ rest))))).1 =
      word ++ ':' :: '/' :: '/' :: (front ++ tidy rest) := by
    have kept := clean_front (List.append_ne_nil_of_left_ne_nil hne _) farFront rest
    rw [List.append_assoc, List.append_assoc] at kept
    rw [kept, List.append_assoc, List.append_assoc]
    rfl
  have begins : ∀ c, (front ++ tidy rest).head? = some c → c ≠ '/' ∧ c ≠ '\\' := by
    rw [List.head?_append_of_ne_nil front nonempty]
    exact first
  simp only [resolve, read, cleaned, readScheme_of_isScheme letters]
  exact afterScheme_slashes other begins

theorem readScheme_slash (cs : List Char) : readScheme ('/' :: cs) = none := by
  unfold readScheme
  split
  · rename_i c name rest found
    have begins := cut_eq found
    cases begins
    rfl
  · rfl

theorem resolve_relative {base : Url} (host : base.hostText ≠ "")
    (other : Kind.of base.scheme ≠ .file) (far : ∀ c ∈ front, 0x20 < c.toNat) (rest : List Char) :
    resolve base (String.ofList ("//".toList ++ (front ++ rest))) =
      afterSlashes base.scheme (front ++ tidy rest) := by
  have farFront : ∀ c ∈ "//".toList ++ front, 0x20 < c.toNat :=
    List.forall_mem_append.mpr ⟨forall_of_all rfl, far⟩
  have cleaned : (clean (String.ofList ("//".toList ++ (front ++ rest)))).1 =
      '/' :: '/' :: (front ++ tidy rest) := by
    have kept := clean_front (List.append_ne_nil_of_left_ne_nil (by decide) _) farFront rest
    rw [List.append_assoc] at kept
    rw [kept, List.append_assoc]
    rfl
  have transparent : base.isOpaque = false := by
    unfold isOpaque
    cases authority : base.authority with
    | none =>
        refine absurd ?_ host
        rw [hostText, hostText?, host?, authority]
        rfl
    | some a => rfl
  have noFile : base.scheme ≠ "file" := by
    rintro file
    rw [file] at other
    exact other rfl
  simp only [resolve, read, cleaned, readScheme_slash, transparent]
  rw [if_neg (by simp), if_neg Bool.false_ne_true, if_neg noFile]
  rfl

end Url

end HttpClient
