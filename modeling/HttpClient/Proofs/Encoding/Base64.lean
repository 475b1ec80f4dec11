/-
# Base64 read back

The bits of a group of bytes are cut into digits of six bits, and put together again they are the
group (`decodeChars?_encodeChars`).  Only a last group that is too short ends in padding, which is
no digit, so the reader can tell the groups apart.  What is written has legible characters only
(`legible_encode`).
-/
import HttpClient.Encoding.Base64
import HttpClient.Proofs.Message.Legible
import HttpClient.Proofs.Text.Decoding

namespace HttpClient.Base64

open Text

theorem value?_digit : ∀ n < 64, value? (digit n) = some n := by decide

theorem digit_ne_padding : ∀ n < 64, digit n ≠ '=' := by decide

/-- What is written is read group by group, the digits of a group being those of its number. -/
theorem decodeChars?_encodeChars (bytes : Bytes) :
    decodeChars? (encodeChars bytes) = some bytes := by
  fun_induction encodeChars bytes with
  | case1 => rfl
  | case2 a n =>
      have small := a.toNat_lt
      have number : n / 64 * 64 + n % 64 = a.toNat * 16 := by omega
      have filled : a.toNat * 16 % 16 = 0 := by omega
      have byte : UInt8.ofNat (a.toNat * 16 / 16) = a := eq_ofNat (by omega)
      rw [decodeChars?, value?_digit _ (by omega), value?_digit _ (by omega)]
      simp only [Option.bind_eq_bind, Option.bind_some, number, filled, if_true, byte]
  | case3 a b n =>
      have small := a.toNat_lt
      have small' := b.toNat_lt
      have number : (n / 4096 * 64 + n / 64 % 64) * 64 + n % 64 = (a.toNat * 256 + b.toNat) * 4 := by
        omega
      have filled : (a.toNat * 256 + b.toNat) * 4 % 4 = 0 := by omega
      have first : UInt8.ofNat ((a.toNat * 256 + b.toNat) * 4 / 1024) = a := eq_ofNat (by omega)
      have second : UInt8.ofNat ((a.toNat * 256 + b.toNat) * 4 / 4 % 256) = b :=
        eq_ofNat (by omega)
      have digits : digit (n % 64) ≠ '=' := digit_ne_padding _ (by omega)
      rw [decodeChars?, value?_digit _ (by omega), value?_digit _ (by omega),
        value?_digit _ (by omega)]
      · simp only [Option.bind_eq_bind, Option.bind_some, number, filled, if_true, first, second]
      · exact digits
  | case4 a b c rest n ih =>
      have small := a.toNat_lt
      have small' := b.toNat_lt
      have small'' := c.toNat_lt
      have number : ((n / 262144 * 64 + n / 4096 % 64) * 64 + n / 64 % 64) * 64 + n % 64
          = (a.toNat * 256 + b.toNat) * 256 + c.toNat := by omega
      have first : UInt8.ofNat (((a.toNat * 256 + b.toNat) * 256 + c.toNat) / 65536) = a :=
        eq_ofNat (by omega)
      have second : UInt8.ofNat (((a.toNat * 256 + b.toNat) * 256 + c.toNat) / 256 % 256) = b :=
        eq_ofNat (by omega)
      have third : UInt8.ofNat (((a.toNat * 256 + b.toNat) * 256 + c.toNat) % 256) = c :=
        eq_ofNat (by omega)
      have digits : digit (n % 64) ≠ '=' := digit_ne_padding _ (by omega)
      rw [decodeChars?, value?_digit _ (by omega), value?_digit _ (by omega),
        value?_digit _ (by omega), value?_digit _ (by omega)]
      · simp only [Option.bind_eq_bind, Option.bind_some, number, ih, first, second, third]
        rfl
      · exact fun _ padding _ => digits padding
      · exact fun padding _ => digits padding

theorem decode?_encode (bytes : Bytes) : decode? (encode bytes) = some bytes := by
  rw [decode?, encode, String.toList_ofList, decodeChars?_encodeChars]

example : encode (utf8 "Aladdin:open sesame") = "QWxhZGRpbjpvcGVuIHNlc2FtZQ==" := by decide

theorem isLegible_digit (n : Nat) : isLegible (digit n) = true := by
  unfold digit
  split
  · exact isLegible_ofNat (by omega) (by omega)
  · split
    · exact isLegible_ofNat (by omega) (by omega)
    · split
      · exact isLegible_ofNat (by omega) (by omega)
      · split <;> decide

theorem legible_encode (bytes : Bytes) : Legible (encode bytes) := by
  unfold Legible encode
  rw [String.toList_ofList]
  fun_induction encodeChars bytes with
  | case1 => exact fun _ there => nomatch there
  | case2 a n => simp [isLegible_digit, show isLegible '=' = true from rfl]
  | case3 a b n => simp [isLegible_digit, show isLegible '=' = true from rfl]
  | case4 a b c rest n ih => simpa [isLegible_digit] using ih

end HttpClient.Base64
