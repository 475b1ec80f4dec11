/-
# Texts of ASCII as bytes

A character of ASCII is one byte, and the byte has its number.
-/
import HttpClient.Text.Utf8

namespace HttpClient.Text

theorem toNat_ofNat {n : Nat} (h : n < 128) : (Char.ofNat n).toNat = n := by
  have valid : n.isValidChar := .inl (by omega)
  rw [Char.ofNat, dif_pos valid]
  rfl

theorem encode_of_ascii {c : Char} (h : c.toNat < 128) :
    ∃ b : UInt8, String.utf8EncodeChar c = [b] ∧ b.toNat = c.toNat := by
  have one : c.utf8Size = 1 := by
    rw [Char.utf8Size_eq_one_iff]
    exact UInt32.le_iff_toNat_le.mpr (by show c.toNat ≤ 127; omega)
  refine ⟨c.val.toUInt8, String.utf8EncodeChar_eq_singleton one, ?_⟩
  show c.toNat % 256 = c.toNat
  omega

theorem map_encode {cs : List Char} (ascii : ∀ c ∈ cs, c.toNat < 128) :
    (cs.flatMap String.utf8EncodeChar).map UInt8.toNat = cs.map Char.toNat := by
  induction cs with
  | nil => rfl
  | cons c cs ih =>
      obtain ⟨first, others⟩ := List.forall_mem_cons.mp ascii
      obtain ⟨b, single, same⟩ := encode_of_ascii first
      rw [List.flatMap_cons, single, List.map_append, ih others, List.map_cons, List.map_cons, same]
      rfl

theorem map_utf8 {s : String} (ascii : ∀ c ∈ s.toList, c.toNat < 128) :
    (utf8 s).map UInt8.toNat = s.toList.map Char.toNat := map_encode ascii

theorem map_ofNat_utf8 {s : String} (ascii : ∀ c ∈ s.toList, c.toNat < 128) :
    (utf8 s).map (fun b => Char.ofNat b.toNat) = s.toList := by
  have back : Char.ofNat ∘ Char.toNat = id := funext Char.ofNat_toNat
  have numbers : (utf8 s).map (fun b => Char.ofNat b.toNat)
      = ((utf8 s).map UInt8.toNat).map Char.ofNat := by
    rw [List.map_map]
    rfl
  rw [numbers, map_utf8 ascii, List.map_map, back, List.map_id]

theorem exists_of_mem_utf8 {s : String} (ascii : ∀ c ∈ s.toList, c.toNat < 128) {b : UInt8}
    (there : b ∈ utf8 s) : ∃ c ∈ s.toList, Char.ofNat b.toNat = c := by
  have among := List.mem_map_of_mem (f := fun b : UInt8 => Char.ofNat b.toNat) there
  rw [map_ofNat_utf8 ascii] at among
  exact ⟨_, among, rfl⟩

end HttpClient.Text
