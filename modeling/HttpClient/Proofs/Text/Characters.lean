/-
# The characters of a text

How a text is made tells which characters can be in it.  Trimming only takes characters away, parting
takes the separators away, joining adds those of the separator, and numbers and bytes are written
with digits.  What holds of all of these characters holds of the text, so nothing else is needed of a
text that is to stand in a url, in a header field or in a list.
-/
import HttpClient.Encoding.Hex
import HttpClient.Text.Blank

namespace HttpClient

namespace Text

variable {c : Char}

theorem forall_of_all {p : Char → Prop} [DecidablePred p] {cs : List Char}
    (h : cs.all (fun c => decide (p c)) = true) : ∀ c ∈ cs, p c :=
  fun c there => of_decide_eq_true (List.all_eq_true.mp h c there)

theorem isLower_iff (c : Char) : c.isLower = true ↔ 97 ≤ c.toNat ∧ c.toNat ≤ 122 := by
  show (decide (97 ≤ c.toNat) && decide (c.toNat ≤ 122)) = true ↔ _
  rw [Bool.and_eq_true, decide_eq_true_iff, decide_eq_true_iff]

theorem alphanum_range (h : c.isAlphanum = true) :
    (65 ≤ c.toNat ∧ c.toNat ≤ 90) ∨ (97 ≤ c.toNat ∧ c.toNat ≤ 122) ∨
      (48 ≤ c.toNat ∧ c.toNat ≤ 57) := by
  rcases Bool.or_eq_true_iff.mp h with letter | digit
  · rcases Bool.or_eq_true_iff.mp letter with upper | lower
    · exact .inl (of_decide_eq_true upper)
    · exact .inr (.inl ((isLower_iff c).mp lower))
  · obtain ⟨least, most⟩ := Bool.and_eq_true_iff.mp digit
    exact .inr (.inr ⟨of_decide_eq_true least, of_decide_eq_true most⟩)

theorem lt_of_isTokenChar (h : isTokenChar c = true) : c.toNat < 128 := by
  have punctuation : "!#$%&'*+-.^_`|~".toList.all (fun d => d.toNat < 128) = true := by decide
  rcases Bool.or_eq_true_iff.mp h with letter | there
  · have range := alphanum_range letter
    omega
  · exact of_decide_eq_true (List.all_eq_true.mp punctuation c (List.contains_iff_mem.mp there))

theorem mem_of_mem_strip {p : Char → Bool} {cs : List Char} (h : c ∈ strip p cs) : c ∈ cs := by
  unfold strip dropEnd at h
  have there := (List.dropWhile_suffix _).subset (List.mem_reverse.mp h)
  exact (List.dropWhile_suffix _).subset (List.mem_reverse.mp there)

theorem mem_of_mem_trim {cs : List Char} (h : c ∈ trim cs) : c ∈ cs := mem_of_mem_strip h

theorem exists_of_mem_intercalate {sep : List Char} {parts : List (List Char)}
    (h : c ∈ sep.intercalate parts) : c ∈ sep ∨ ∃ part ∈ parts, c ∈ part := by
  induction parts with
  | nil => cases h
  | cons part parts ih =>
      cases parts with
      | nil => exact .inr ⟨part, List.mem_cons_self, by simpa using h⟩
      | cons next parts =>
          rw [List.intercalate_cons_cons, List.mem_append, List.mem_append] at h
          rcases h with (h | h) | h
          · exact .inr ⟨part, List.mem_cons_self, h⟩
          · exact .inl h
          · exact (ih h).imp_right fun ⟨p, among, there⟩ =>
              ⟨p, List.mem_cons_of_mem _ among, there⟩

theorem piecesBy_eq_splitOnP (p : Char → Bool) (cs : List Char) :
    piecesBy p cs = cs.splitOnP p := by
  induction cs with
  | nil => rfl
  | cons x xs ih =>
      rw [piecesBy, List.splitOnP_cons_eq_if_modifyHead, ih]
      split
      · rfl
      · cases parts : List.splitOnP p xs with
        | nil => exact absurd parts (List.splitOnP_ne_nil p xs)
        | cons w ws => rfl

theorem pieces_eq_splitOn (c : Char) (cs : List Char) : pieces c cs = cs.splitOn c :=
  piecesBy_eq_splitOnP (· == c) cs

theorem pieces_intercalate {parts : List (List Char)} (h : ∀ part ∈ parts, c ∉ part)
    (hne : parts ≠ []) : pieces c ([c].intercalate parts) = parts := by
  rw [pieces_eq_splitOn]
  exact List.splitOn_intercalate c h hne

theorem intercalate_pieces (c : Char) (cs : List Char) : [c].intercalate (pieces c cs) = cs := by
  rw [pieces_eq_splitOn]
  exact List.intercalate_splitOn c

theorem not_of_mem_piecesBy {p : Char → Bool} {cs part : List Char} (there : part ∈ piecesBy p cs)
    (h : c ∈ part) : p c = false := by
  induction cs generalizing part with
  | nil =>
      cases List.mem_singleton.mp there
      cases h
  | cons x xs ih =>
      unfold piecesBy at there
      split at there
      · rcases List.mem_cons.mp there with rfl | later
        · cases h
        · exact ih later h
      · rename_i other
        have other : p x = false := Bool.eq_false_iff.mpr other
        split at there
        · cases List.mem_singleton.mp there
          rw [List.mem_singleton.mp h, other]
        · rename_i w ws parts
          rw [parts] at ih
          rcases List.mem_cons.mp there with rfl | later
          · rcases List.mem_cons.mp h with rfl | h
            · exact other
            · exact ih List.mem_cons_self h
          · exact ih (List.mem_cons_of_mem w later) h

theorem exists_piece_of_mem {p : Char → Bool} {cs : List Char} {c : Char} (h : c ∈ cs)
    (other : p c = false) : ∃ part ∈ piecesBy p cs, c ∈ part := by
  induction cs with
  | nil => cases h
  | cons x xs ih =>
      unfold piecesBy
      rcases List.mem_cons.mp h with rfl | later
      · rw [if_neg (by simp [other])]
        split
        · exact ⟨[c], List.mem_cons_self, List.mem_cons_self⟩
        · exact ⟨_, List.mem_cons_self, List.mem_cons_self⟩
      · obtain ⟨part, among, there⟩ := ih later
        split
        · exact ⟨part, List.mem_cons_of_mem _ among, there⟩
        · split
          · rename_i hnil
            rw [hnil] at among
            cases among
          · rename_i w ws parts
            rw [parts] at among
            rcases List.mem_cons.mp among with rfl | among
            · exact ⟨_, List.mem_cons_self, List.mem_cons_of_mem _ there⟩
            · exact ⟨part, List.mem_cons_of_mem _ among, there⟩

theorem toList_toString (n : Nat) : (toString n).toList = Nat.toDigits 10 n := by
  simp [Nat.repr]

theorem exists_of_mem_toDigits {base n : Nat} (positive : 0 < base)
    (h : c ∈ Nat.toDigits base n) : ∃ d < base, c = Nat.digitChar d := by
  -- by induction over the digits that are still to be written
  have core (fuel n : Nat) {ds : List Char} (written : ∀ c ∈ ds, ∃ d < base, c = Nat.digitChar d) :
      ∀ c ∈ Nat.toDigitsCore base fuel n ds, ∃ d < base, c = Nat.digitChar d := by
    induction fuel generalizing n ds with
    | zero => exact written
    | succ fuel ih =>
        have more := List.forall_mem_cons.mpr ⟨⟨n % base, Nat.mod_lt n positive, rfl⟩, written⟩
        rw [Nat.toDigitsCore]
        split
        · exact more
        · exact ih _ more
  exact core _ _ (fun _ h => absurd h List.not_mem_nil) c h

end Text

namespace Hex

variable {c : Char}

theorem exists_of_mem_encode {bytes : Bytes} (h : c ∈ (encode bytes).toList) :
    ∃ n < 16, c = digit n := by
  rw [encode, String.toList_ofList] at h
  obtain ⟨b, -, two⟩ := List.mem_flatMap.mp h
  have small : b.toNat < 256 := UInt8.toNat_lt b
  rcases List.mem_cons.mp two with rfl | two
  · exact ⟨b.toNat / 16, by omega, rfl⟩
  · exact ⟨b.toNat % 16, by omega, List.mem_singleton.mp two⟩

theorem exists_of_mem_padded {width n : Nat} (h : c ∈ (padded width n).toList) :
    ∃ d < 16, c = Nat.digitChar d := by
  rw [padded, String.toList_ofList] at h
  rcases List.mem_append.mp h with zero | digit
  · exact ⟨0, by decide, List.eq_of_mem_replicate zero⟩
  · exact Text.exists_of_mem_toDigits (by decide) digit

end Hex

end HttpClient
