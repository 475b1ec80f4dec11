/-
# Texts from bytes

The reader of UTF-8 is the inverse of the writer: it gives a text for the bytes of that text, and
for no others (`decode?_eq_some_iff`).  So a byte string is read exactly if it is the form of some
text.

Each length of a character has the bytes that the reader takes for one of that length, what it reads
from them, and that they are the form of what it reads (`Coded`).  A character is `Coded` by its
form (`coded_encode`), and a byte string that is read is a chain of them (`eq_encode_of_scan`).
-/
import HttpClient.Proofs.Text.Bytes
import Mathlib.Tactic.SplitIfs

namespace HttpClient.Text

/-! ## The bytes of one character -/

/-- The bytes of one character, the byte in front telling how many there are and, at the two ends
of a length and around the surrogates, how the second one is bounded. -/
inductive Coded : Bytes → Nat → Prop where
  | one {a : UInt8} : a.toNat < 128 → Coded [a] a.toNat
  | two {a b : UInt8} : 194 ≤ a.toNat → a.toNat < 224 → 128 ≤ b.toNat → b.toNat < 192 →
      Coded [a, b] (a.toNat % 32 * 64 + b.toNat % 64)
  | three {a b c : UInt8} : 224 ≤ a.toNat → a.toNat < 240 → 128 ≤ b.toNat → b.toNat < 192 →
      (a.toNat = 224 → 160 ≤ b.toNat) → (a.toNat = 237 → b.toNat < 160) →
      128 ≤ c.toNat → c.toNat < 192 →
      Coded [a, b, c] ((a.toNat % 16 * 64 + b.toNat % 64) * 64 + c.toNat % 64)
  | four {a b c d : UInt8} : 240 ≤ a.toNat → a.toNat < 245 → 128 ≤ b.toNat → b.toNat < 192 →
      (a.toNat = 240 → 144 ≤ b.toNat) → (a.toNat = 244 → b.toNat < 144) →
      128 ≤ c.toNat → c.toNat < 192 → 128 ≤ d.toNat → d.toNat < 192 →
      Coded [a, b, c, d]
        (((a.toNat % 8 * 64 + b.toNat % 64) * 64 + c.toNat % 64) * 64 + d.toNat % 64)

theorem eq_ofNat {a : UInt8} {n : Nat} (h : n = a.toNat) : UInt8.ofNat n = a := by
  rw [h, UInt8.ofNat_toNat]

theorem exists_byte {n : Nat} (h : n < 256) : ∃ a : UInt8, a.toNat = n :=
  ⟨UInt8.ofNat n, UInt8.toNat_ofNat_of_lt' h⟩

theorem Coded.isValidChar {bytes : Bytes} {n : Nat} (h : Coded bytes n) : n.isValidChar := by
  unfold Nat.isValidChar
  cases h <;> omega

theorem Coded.encode {bytes : Bytes} {n : Nat} (h : Coded bytes n) :
    String.utf8EncodeChar (Char.ofNat n) = bytes := by
  have value : (Char.ofNat n).val.toNat = n := by
    rw [Char.ofNat, dif_pos h.isValidChar]
    rfl
  unfold String.utf8EncodeChar
  rw [value]
  cases h with
  | one small =>
      rw [if_pos (by omega), eq_ofNat rfl]
  | @two a b =>
      rw [if_neg (by omega), if_pos (by omega), eq_ofNat (a := a) (by omega),
        eq_ofNat (a := b) (by omega)]
  | @three a b c =>
      rw [if_neg (by omega), if_neg (by omega), if_pos (by omega), eq_ofNat (a := a) (by omega),
        eq_ofNat (a := b) (by omega), eq_ofNat (a := c) (by omega)]
  | @four a b c d =>
      rw [if_neg (by omega), if_neg (by omega), if_neg (by omega), eq_ofNat (a := a) (by omega),
        eq_ofNat (a := b) (by omega), eq_ofNat (a := c) (by omega), eq_ofNat (a := d) (by omega)]

theorem exists_coded (n : Nat) (valid : n.isValidChar) : ∃ bytes, Coded bytes n := by
  unfold Nat.isValidChar at valid
  by_cases one : n < 128
  · obtain ⟨a, rfl⟩ := exists_byte (n := n) (by omega)
    exact ⟨[a], .one one⟩
  obtain ⟨last, last_eq⟩ := exists_byte (n := 128 + n % 64) (by omega)
  by_cases two : n < 2048
  · obtain ⟨a, first⟩ := exists_byte (n := 192 + n / 64) (by omega)
    have value : a.toNat % 32 * 64 + last.toNat % 64 = n := by omega
    exact ⟨[a, last], value ▸ .two (by omega) (by omega) (by omega) (by omega)⟩
  obtain ⟨third, third_eq⟩ := exists_byte (n := 128 + n / 64 % 64) (by omega)
  by_cases three : n < 65536
  · obtain ⟨a, first⟩ := exists_byte (n := 224 + n / 4096) (by omega)
    have value : (a.toNat % 16 * 64 + third.toNat % 64) * 64 + last.toNat % 64 = n := by omega
    exact ⟨[a, third, last], value ▸ .three (by omega) (by omega) (by omega) (by omega) (by omega)
      (by omega) (by omega) (by omega)⟩
  · obtain ⟨a, first⟩ := exists_byte (n := 240 + n / 262144) (by omega)
    obtain ⟨second, second_eq⟩ := exists_byte (n := 128 + n / 4096 % 64) (by omega)
    have value : ((a.toNat % 8 * 64 + second.toNat % 64) * 64 + third.toNat % 64) * 64
        + last.toNat % 64 = n := by omega
    exact ⟨[a, second, third, last], value ▸ .four (by omega) (by omega) (by omega) (by omega)
      (by omega) (by omega) (by omega) (by omega) (by omega) (by omega)⟩

theorem coded_encode (c : Char) : Coded (String.utf8EncodeChar c) c.toNat := by
  obtain ⟨bytes, coded⟩ := exists_coded c.toNat c.valid
  have same := coded.encode
  rw [Char.ofNat_toNat] at same
  rwa [same]

theorem Coded.mem_iff {bytes : Bytes} {n : Nat} (h : Coded bytes n) {b : UInt8}
    (ascii : b.toNat < 128) : b ∈ bytes ↔ b.toNat = n := by
  cases h with
  | one => rw [List.mem_singleton, UInt8.toNat_inj]
  | two | three | four =>
      constructor
      · intro there
        simp only [List.mem_cons, List.not_mem_nil, or_false] at there
        rcases there with rfl | rfl | rfl | rfl <;> omega
      · omega

theorem mem_utf8_iff {s : String} {b : UInt8} (ascii : b.toNat < 128) :
    b ∈ utf8 s ↔ ∃ c ∈ s.toList, c.toNat = b.toNat := by
  simp only [utf8, List.mem_flatMap, (coded_encode _).mem_iff ascii, eq_comm]

theorem utf8_append (s t : String) : utf8 (s ++ t) = utf8 s ++ utf8 t := by
  rw [utf8, String.toList_append, List.flatMap_append]
  rfl

/-! ## The reader at one character -/

/-- What the first byte of a longer character says of its length and of the second byte. -/
inductive Lead (a lo hi : UInt8) : Nat → Prop where
  | two : 194 ≤ a.toNat → a.toNat < 224 → lo.toNat = 128 → hi.toNat = 191 → Lead a lo hi 2
  | three : 224 ≤ a.toNat → a.toNat < 240 → (a.toNat = 224 → lo.toNat = 160) →
      (a.toNat ≠ 224 → lo.toNat = 128) → (a.toNat = 237 → hi.toNat = 159) →
      (a.toNat ≠ 237 → hi.toNat = 191) → Lead a lo hi 3
  | four : 240 ≤ a.toNat → a.toNat < 245 → (a.toNat = 240 → lo.toNat = 144) →
      (a.toNat ≠ 240 → lo.toNat = 128) → (a.toNat = 244 → hi.toNat = 143) →
      (a.toNat ≠ 244 → hi.toNat = 191) → Lead a lo hi 4

theorem Lead.of_lead {a lo hi : UInt8} {n : Nat} (h : Utf8Piece.lead a = some (n, lo, hi)) :
    Lead a lo hi n := by
  simp only [Utf8Piece.lead, UInt8.lt_iff_toNat_lt, ← UInt8.toNat_inj, UInt8.reduceToNat] at h
  split_ifs at h <;> cases h
  · exact .two (by omega) (by omega) rfl rfl
  · exact .three (by omega) (by omega) (fun _ => rfl) (by omega) (by omega) (fun _ => rfl)
  · exact .three (by omega) (by omega) (by omega) (fun _ => rfl) (fun _ => rfl) (by omega)
  · exact .three (by omega) (by omega) (by omega) (fun _ => rfl) (by omega) (fun _ => rfl)
  · exact .four (by omega) (by omega) (fun _ => rfl) (by omega) (by omega) (fun _ => rfl)
  · exact .four (by omega) (by omega) (by omega) (fun _ => rfl) (by omega) (fun _ => rfl)
  · exact .four (by omega) (by omega) (by omega) (fun _ => rfl) (fun _ => rfl) (by omega)

theorem exists_lead {a : UInt8} (above : 194 ≤ a.toNat) (below : a.toNat < 245) :
    ∃ n lo hi, Utf8Piece.lead a = some (n, lo, hi) ∧ Lead a lo hi n := by
  have found : ∃ n lo hi, Utf8Piece.lead a = some (n, lo, hi) := by
    simp only [Utf8Piece.lead, UInt8.lt_iff_toNat_lt, ← UInt8.toNat_inj, UInt8.reduceToNat]
    split_ifs <;> first | omega | exact ⟨_, _, _, rfl⟩
  obtain ⟨n, lo, hi, lead⟩ := found
  exact ⟨n, lo, hi, lead, .of_lead lead⟩

theorem second_eq_false_iff {b lo hi : UInt8} :
    (b < lo || hi < b) = false ↔ lo.toNat ≤ b.toNat ∧ b.toNat ≤ hi.toNat := by
  simp only [Bool.or_eq_false_iff, decide_eq_false_iff_not, UInt8.lt_iff_toNat_lt]
  omega

theorem continues_iff {b : UInt8} :
    Utf8Piece.continues b = true ↔ 128 ≤ b.toNat ∧ b.toNat < 192 := by
  simp only [Utf8Piece.continues, Bool.and_eq_true, decide_eq_true_eq, UInt8.le_iff_toNat_le,
    UInt8.reduceToNat]
  omega

theorem not_ascii {a : UInt8} (h : 128 ≤ a.toNat) : ¬ a < 0x80 := by
  simp only [UInt8.lt_iff_toNat_lt, UInt8.reduceToNat]
  omega

theorem Coded.scan {bytes : Bytes} {n : Nat} (h : Coded bytes n) (rest : Bytes) :
    scanUtf8 (bytes ++ rest) = .char (Char.ofNat n) :: scanUtf8 rest := by
  cases h with
  | one small =>
      rw [List.singleton_append, scanUtf8, if_pos (UInt8.lt_iff_toNat_lt.mpr small)]
  | @two a b =>
      obtain ⟨n, lo, hi, lead, said⟩ := exists_lead (a := a) (by omega) (by omega)
      cases said with
      | two =>
          have second : (b < lo || hi < b) = false := second_eq_false_iff.mpr (by omega)
          rw [List.cons_append, List.cons_append, List.nil_append, scanUtf8,
            if_neg (not_ascii (by omega)), lead]
          simp only [second]
          rfl
      | three | four => omega
  | @three a b c =>
      obtain ⟨n, lo, hi, lead, said⟩ := exists_lead (a := a) (by omega) (by omega)
      cases said with
      | three =>
          have second : (b < lo || hi < b) = false := second_eq_false_iff.mpr (by omega)
          have third : Utf8Piece.continues c = true := continues_iff.mpr (by omega)
          rw [List.cons_append, List.cons_append, List.cons_append, List.nil_append, scanUtf8,
            if_neg (not_ascii (by omega)), lead]
          simp only [second, third]
          rfl
      | two | four => omega
  | @four a b c d =>
      obtain ⟨n, lo, hi, lead, said⟩ := exists_lead (a := a) (by omega) (by omega)
      cases said with
      | four =>
          have second : (b < lo || hi < b) = false := second_eq_false_iff.mpr (by omega)
          have third : Utf8Piece.continues c = true := continues_iff.mpr (by omega)
          have fourth : Utf8Piece.continues d = true := continues_iff.mpr (by omega)
          rw [List.cons_append, List.cons_append, List.cons_append, List.cons_append,
            List.nil_append, scanUtf8, if_neg (not_ascii (by omega)), lead]
          simp only [second, third, fourth]
          rfl
      | two | three => omega

/-- What is read as a character are the bytes of one. -/
theorem exists_coded_of_scan {bytes : Bytes} {c : Char} {pieces : List Utf8Piece}
    (h : scanUtf8 bytes = .char c :: pieces) :
    ∃ front n rest, Coded front n ∧ bytes = front ++ rest ∧ c = Char.ofNat n ∧
      pieces = scanUtf8 rest := by
  revert h
  -- of the places where the scan can stop, those that are left are the four lengths
  fun_cases scanUtf8 bytes <;> intro h <;> cases h
  · rename_i a s small
    exact ⟨[a], _, s, .one (UInt8.lt_iff_toNat_lt.mp small), rfl, rfl, rfl⟩
  · rename_i a _ lo hi b rest second lead
    have inside := second_eq_false_iff.mp (Bool.eq_false_iff.mpr second)
    cases Lead.of_lead lead with
    | two =>
        exact ⟨[a, b], _, rest, .two (by omega) (by omega) (by omega) (by omega), rfl, rfl, rfl⟩
  · rename_i a _ lo hi b second c rest third lead _
    have inside := second_eq_false_iff.mp (Bool.eq_false_iff.mpr second)
    have last := continues_iff.mp (by simpa using third)
    cases Lead.of_lead lead with
    | three =>
        exact ⟨[a, b, c], _, rest, .three (by omega) (by omega) (by omega) (by omega) (by omega)
          (by omega) (by omega) (by omega), rfl, rfl, rfl⟩
  · rename_i a _ n lo hi lead b second length c third length' d rest fourth
    have inside := second_eq_false_iff.mp (Bool.eq_false_iff.mpr second)
    have middle := continues_iff.mp (by simpa using third)
    have last := continues_iff.mp (by simpa using fourth)
    cases Lead.of_lead lead with
    | two => exact absurd rfl length
    | three => exact absurd rfl length'
    | four =>
        exact ⟨[a, b, c, d], _, rest, .four (by omega) (by omega) (by omega) (by omega) (by omega)
          (by omega) (by omega) (by omega) (by omega) (by omega), rfl, rfl, rfl⟩

/-! ## Texts -/

theorem scanUtf8_encode (cs : List Char) :
    scanUtf8 (cs.flatMap String.utf8EncodeChar) = cs.map .char := by
  induction cs with
  | nil => rfl
  | cons c cs ih =>
      rw [List.flatMap_cons, (coded_encode c).scan, Char.ofNat_toNat, ih, List.map_cons]

theorem eq_encode_of_scan {bytes : Bytes} {cs : List Char} (h : scanUtf8 bytes = cs.map .char) :
    cs.flatMap String.utf8EncodeChar = bytes := by
  induction cs generalizing bytes with
  | nil =>
      revert h
      fun_cases scanUtf8 bytes <;> intro h <;> cases h
      rfl
  | cons c cs ih =>
      obtain ⟨front, n, rest, coded, rfl, rfl, same⟩ := exists_coded_of_scan h
      rw [List.flatMap_cons, coded.encode, ih same.symm]

theorem mapM_char? (cs : List Char) : (cs.map Utf8Piece.char).mapM Utf8Piece.char? = some cs := by
  induction cs with
  | nil => rfl
  | cons c cs ih =>
      rw [List.map_cons, List.mapM_cons, ih]
      rfl

theorem eq_map_of_mapM_char? {pieces : List Utf8Piece} {cs : List Char}
    (h : pieces.mapM Utf8Piece.char? = some cs) : pieces = cs.map .char := by
  induction pieces generalizing cs with
  | nil =>
      cases h
      rfl
  | cons piece pieces ih =>
      rw [List.mapM_cons] at h
      obtain ⟨c, here, h⟩ := Option.bind_eq_some_iff.mp h
      obtain ⟨rest, behind, same⟩ := Option.bind_eq_some_iff.mp h
      cases same
      cases piece with
      | char d =>
          cases here
          rw [ih behind, List.map_cons]
      | invalid n => cases here
      | truncated n => cases here

theorem decode?_encode (cs : List Char) :
    decode? (cs.flatMap String.utf8EncodeChar) = some (String.ofList cs) := by
  rw [decode?, scanUtf8_encode, mapM_char?, Option.map_some]

/-- Bytes are read as a text exactly if they are its form. -/
theorem decode?_eq_some_iff {bytes : Bytes} {s : String} :
    decode? bytes = some s ↔ utf8 s = bytes := by
  constructor
  · intro h
    obtain ⟨cs, read, rfl⟩ := Option.map_eq_some_iff.mp h
    rw [utf8, String.toList_ofList]
    exact eq_encode_of_scan (eq_map_of_mapM_char? read)
  · rintro rfl
    rw [utf8, decode?_encode, String.ofList_toList]

theorem utf8_inj {s t : String} : utf8 s = utf8 t ↔ s = t := by
  refine ⟨fun same => ?_, congrArg utf8⟩
  have read := decode?_eq_some_iff.mpr same
  rw [decode?_eq_some_iff.mpr rfl] at read
  exact (Option.some.inj read).symm

end HttpClient.Text
