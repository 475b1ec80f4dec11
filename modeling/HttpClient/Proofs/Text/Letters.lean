/-
# Letters in either case

Only the letters of ASCII have a case.  Putting a text into one case forgets the one that it had,
no other character becomes a letter, and whether a character is a blank does not depend on its
case.
-/
import HttpClient.Text.Blank
import Mathlib

namespace HttpClient.Text

/-- The texts are equal up to the case of letters. -/
def Alike (a b : List Char) : Prop := a.map Char.toLower = b.map Char.toLower

instance (a b : List Char) : Decidable (Alike a b) := inferInstanceAs (Decidable (_ = _))

/-! ## Characters -/

theorem eq_of_toLower_eq {c d : Char} (h : d.isLower = false) (same : c.toLower = d) : c = d := by
  have other : ¬ c.isUpper = true := by
    intro great
    rw [← same, Char.isLower_toLower_eq_isAlpha, Char.isAlpha, great] at h
    cases h
  rw [← same, Char.toLower_eq_of_not_isUpper other]

theorem isBlank_of_isAlpha {c : Char} (h : c.isAlpha = true) : isBlank c = false := by
  have range : (65 ≤ c.toNat ∧ c.toNat ≤ 90) ∨ (97 ≤ c.toNat ∧ c.toNat ≤ 122) := by
    simpa [Char.isAlpha, Char.isUpper, Char.isLower, UInt32.le_iff_toNat_le] using h
  grind [isBlank]

theorem isBlank_toLower (c : Char) : isBlank c.toLower = isBlank c := by
  by_cases great : c.isUpper = true
  · have letter : c.isAlpha = true := by rw [Char.isAlpha, great, Bool.true_or]
    rw [isBlank_of_isAlpha letter,
      isBlank_of_isAlpha ((Char.isAlpha_toLower_eq_isAlpha c).trans letter)]
  · rw [Char.toLower_eq_of_not_isUpper great]

theorem isTokenChar_toLower {c : Char} (h : isTokenChar c = true) :
    isTokenChar c.toLower = true := by
  by_cases great : c.isUpper = true
  · have letter : c.isAlpha = true := by rw [Char.isAlpha, great, Bool.true_or]
    have small : c.toLower.isAlpha = true := (Char.isAlpha_toLower_eq_isAlpha c).trans letter
    rw [isTokenChar, Char.isAlphanum, small, Bool.true_or, Bool.true_or]
  · rw [Char.toLower_eq_of_not_isUpper great, h]

/-! ## Texts -/

theorem lower_lower (s : String) : lower (lower s) = lower s := by
  have each : Char.toLower ∘ Char.toLower = Char.toLower := funext Char.toLower_toLower_eq_toLower
  rw [lower, lower, String.toList_ofList, List.map_map, each]

theorem upper_upper (s : String) : upper (upper s) = upper s := by
  have each : Char.toUpper ∘ Char.toUpper = Char.toUpper := funext Char.toUpper_toUpper_eq_toUpper
  rw [upper, upper, String.toList_ofList, List.map_map, each]

theorem upper_lower (s : String) : upper (lower s) = upper s := by
  have each : Char.toUpper ∘ Char.toLower = Char.toUpper := funext Char.toUpper_toLower_eq_toUpper
  rw [upper, lower, upper, String.toList_ofList, List.map_map, each]

end HttpClient.Text
