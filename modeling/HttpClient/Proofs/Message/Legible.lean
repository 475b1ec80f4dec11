/-
# Texts in header fields

A field value is taken as a text only if it consists of visible ASCII, spaces and tabs.  A text of
these characters is called legible.  What is read from a header field is legible, and whatever is
legible can be written into one.
-/
import HttpClient.Message.Header
import HttpClient.Proofs.Text.Bytes
import HttpClient.Proofs.Text.Characters

namespace HttpClient

namespace Text

/-- A visible character of ASCII, a space or a tab. -/
def isLegible (c : Char) : Bool := c = '\t' || (32 ≤ c.toNat && c.toNat < 127)

def Legible (s : String) : Prop := ∀ c ∈ s.toList, isLegible c = true

instance (s : String) : Decidable (Legible s) := List.decidableBAll _ s.toList

theorem lt_of_isLegible {c : Char} (h : isLegible c = true) : c.toNat < 127 := by
  simp only [isLegible, Bool.or_eq_true, Bool.and_eq_true, decide_eq_true_eq] at h
  rcases h with rfl | ⟨-, below⟩
  · decide
  · exact below

theorem isLegible_ofNat {n : Nat} (above : 32 ≤ n) (below : n < 127) :
    isLegible (Char.ofNat n) = true := by
  rw [isLegible, toNat_ofNat (Nat.lt_succ_of_lt below), decide_eq_true above,
    decide_eq_true below, Bool.and_self, Bool.or_true]

theorem Legible.append {s t : String} (hs : Legible s) (ht : Legible t) : Legible (s ++ t) := by
  unfold Legible
  rw [String.toList_append]
  exact List.forall_mem_append.mpr ⟨hs, ht⟩

theorem Legible.join {sep : String} {parts : List String} (hs : Legible sep)
    (hp : ∀ part ∈ parts, Legible part) : Legible (join sep parts) := by
  intro c there
  rw [Text.join, String.toList_intercalate] at there
  rcases exists_of_mem_intercalate there with there | ⟨_, joined, there⟩
  · exact hs c there
  · obtain ⟨part, among, rfl⟩ := List.mem_map.mp joined
    exact hp part among c there

end Text

open Text

namespace HeaderValue

theorem legible_of_text? {v : HeaderValue} {s : String} (h : v.text? = some s) : Legible s := by
  unfold text? at h
  split at h
  · rename_i visible
    cases h
    intro c there
    rw [String.toList_ofList] at there
    obtain ⟨b, among, rfl⟩ := List.mem_map.mp there
    have byte := List.all_eq_true.mp visible b among
    simp only [isTextByte, Bool.or_eq_true, Bool.and_eq_true, decide_eq_true_eq] at byte
    rcases byte with rfl | ⟨above, below⟩
    · decide
    · exact isLegible_ofNat above below
  · cases h

theorem ofText_bytes {s : String} {v : HeaderValue} (h : ofText s = .ok v) : v.bytes = utf8 s := by
  simp only [ofText, parse, ofBytes?] at h
  split at h
  · cases h
    rfl
  · cases h

theorem isTextByte_of_legible {s : String} (h : Legible s) : ∀ b ∈ utf8 s, isTextByte b = true := by
  intro b there
  obtain ⟨c, among, encoded⟩ := List.mem_flatMap.mp there
  have legible := h c among
  obtain ⟨b', single, same⟩ := encode_of_ascii (Nat.lt_succ_of_lt (lt_of_isLegible legible))
  rw [single, List.mem_singleton] at encoded
  subst encoded
  simp only [isLegible, Bool.or_eq_true, Bool.and_eq_true, decide_eq_true_eq] at legible
  simp only [isTextByte, Bool.or_eq_true, Bool.and_eq_true, decide_eq_true_eq,
    UInt8.le_iff_toNat_le, UInt8.lt_iff_toNat_lt, same]
  rcases legible with rfl | range
  · exact .inl (UInt8.toNat_inj.mp same)
  · exact .inr range

theorem isValueByte_of_isTextByte {b : UInt8} (h : isTextByte b = true) : isValueByte b = true := by
  simp only [isTextByte, Bool.or_eq_true, Bool.and_eq_true, decide_eq_true_eq] at h
  simp only [isValueByte, Bool.or_eq_true, Bool.and_eq_true, decide_eq_true_eq]
  refine h.imp_right fun ⟨above, below⟩ => ⟨above, ?_⟩
  rintro rfl
  exact absurd below (by decide)

theorem text?_of_legible {v : HeaderValue} {s : String} (bytes : v.bytes = utf8 s) (h : Legible s) :
    v.text? = some s := by
  have visible : v.bytes.all isTextByte = true := by
    rw [bytes, List.all_eq_true]
    exact isTextByte_of_legible h
  have ascii : ∀ c ∈ s.toList, c.toNat < 128 := fun c there =>
    Nat.lt_succ_of_lt (lt_of_isLegible (h c there))
  rw [text?, if_pos visible, bytes, map_ofNat_utf8 ascii, String.ofList_toList]

theorem ofText_of_legible {s : String} (h : Legible s) : ∃ v, ofText s = .ok v := by
  have bytes : (utf8 s).all isValueByte = true := List.all_eq_true.mpr fun b there =>
    isValueByte_of_isTextByte (isTextByte_of_legible h b there)
  exact ⟨⟨utf8 s, bytes⟩, by simp only [ofText, parse, ofBytes?, dif_pos bytes]; rfl⟩

end HeaderValue

end HttpClient
