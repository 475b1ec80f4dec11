/-
# Whole numbers by their digits

A text of digits stands for the number whose digits in base ten they are (`digitsValue`), zeros in
front of it included, and with a minus sign for its opposite (`Denotes`).  The readers of bounded
numbers find that number if it is in their bounds, and fail otherwise.
-/
import HttpClient.Text.Decimal
import Mathlib.Data.Nat.Digits.Defs

namespace HttpClient

namespace Text

/-- The number that digits stand for, the first of which has the greatest weight. -/
def digitsValue (ds : List Char) : Nat :=
  Nat.ofDigits 10 (ds.reverse.map fun c => c.toNat - '0'.toNat)

/-- The text is a whole number in decimal: digits, and a minus sign in front of them or none. -/
inductive Denotes : List Char → Int → Prop
  | plain {ds : List Char} : ds ≠ [] → (∀ c ∈ ds, c.isDigit = true) → Denotes ds (digitsValue ds)
  | minus {ds : List Char} : ds ≠ [] → (∀ c ∈ ds, c.isDigit = true) →
      Denotes ('-' :: ds) (-(digitsValue ds : Int))

def Fits (k : Int) : Prop := -0x8000000000000000 ≤ k ∧ k < 0x8000000000000000

instance (k : Int) : Decidable (Fits k) := inferInstanceAs (Decidable (_ ∧ _))

theorem digitsFrom_eq {n : Nat} {ds : List Char} (digits : ∀ c ∈ ds, c.isDigit = true) :
    digitsFrom n ds = some (ds.foldl (fun n c => 10 * n + (c.toNat - '0'.toNat)) n) := by
  induction ds generalizing n with
  | nil => rfl
  | cons c cs ih =>
      obtain ⟨first, others⟩ := List.forall_mem_cons.mp digits
      rw [digitsFrom, digit?, if_pos first, Option.bind_some, ih others, List.foldl_cons]

theorem digits?_eq {ds : List Char} (hne : ds ≠ []) (digits : ∀ c ∈ ds, c.isDigit = true) :
    digits? ds = .some (digitsValue ds) := by
  have read : digits? ds = digitsFrom 0 ds := by
    cases ds with
    | nil => exact absurd rfl hne
    | cons => rfl
  rw [read, digitsFrom_eq digits, digitsValue, Nat.ofDigits_eq_foldr, List.map_reverse,
    List.foldr_reverse, List.foldl_map]
  simp only [Nat.cast_id, Nat.add_comm]

theorem isDigit_of_digitsFrom {n m : Nat} {cs : List Char} (h : digitsFrom n cs = some m) :
    ∀ c ∈ cs, c.isDigit = true := by
  induction cs generalizing n with
  | nil => exact fun _ h => absurd h List.not_mem_nil
  | cons c cs ih =>
      obtain ⟨d, first, others⟩ := Option.bind_eq_some_iff.mp h
      refine List.forall_mem_cons.mpr ⟨?_, ih others⟩
      unfold digit? at first
      split at first
      · assumption
      · cases first

theorem isDigit_of_digits? {m : Nat} {cs : List Char} (h : digits? cs = some m) :
    ∀ c ∈ cs, c.isDigit = true := by
  cases cs with
  | nil => cases h
  | cons c cs => exact isDigit_of_digitsFrom h

theorem denotes_of_digits {ds : List Char} {k : Int} (hne : ds ≠ [])
    (digits : ds.all Char.isDigit = true) (nonneg : 0 ≤ k)
    (value : digits? ds = .some k.natAbs) : Denotes ds k := by
  have digits := List.all_eq_true.mp digits
  have read : digitsValue ds = k.natAbs :=
    Option.some.inj ((digits?_eq hne digits).symm.trans value)
  rw [← Int.natAbs_of_nonneg nonneg, ← read]
  exact .plain hne digits

theorem Denotes.neg {ds : List Char} {k : Int} (h : Denotes ds k)
    (digits : ds.all Char.isDigit = true) : Denotes ('-' :: ds) (-k) := by
  cases h with
  | plain some digits => exact .minus some digits
  | minus => exact absurd (List.all_eq_true.mp digits '-' List.mem_cons_self) (by decide)

theorem natUpTo?_of_digits (max : Nat) {ds : List Char} (hne : ds ≠ [])
    (digits : ∀ c ∈ ds, c.isDigit = true) :
    natUpTo? max ds = if digitsValue ds ≤ max then .some (digitsValue ds) else none := by
  have unsigned : natUpTo? max ds = (digits? ds).filter (· ≤ max) := by
    unfold natUpTo?
    split
    · exact absurd (digits '+' List.mem_cons_self) (by decide)
    · rfl
  rw [unsigned, digits?_eq hne digits, Option.filter_some]
  simp only [decide_eq_true_eq]

theorem isDigit_of_natUpTo? {max n : Nat} {cs : List Char} (h : natUpTo? max cs = some n) {c : Char}
    (there : c ∈ cs) : c.isDigit = true ∨ c = '+' := by
  unfold natUpTo? at h
  obtain ⟨value, -⟩ := Option.filter_eq_some_iff.mp h
  split at value
  · rcases List.mem_cons.mp there with sign | there
    · exact .inr sign
    · exact .inl (isDigit_of_digits? value c there)
  · exact .inl (isDigit_of_digits? value c there)

theorem int64?_of_denotes {cs : List Char} {k : Int} (h : Denotes cs k) :
    int64? cs = if Fits k then some k else none := by
  cases h with
  | @minus ds some digits =>
      have fits : Fits (-(digitsValue ds : Int)) ↔ digitsValue ds ≤ 0x8000000000000000 := by
        unfold Fits
        omega
      simp only [int64?, digits?_eq some digits, Option.filter_some, fits]
      by_cases small : digitsValue ds ≤ 0x8000000000000000
      · simp only [small, decide_true, if_true]
        rfl
      · simp only [small, decide_false, Bool.false_eq_true, if_false]
        rfl
  | plain some digits =>
      have unsigned : int64? cs = ((digits? cs).filter (· < 0x8000000000000000)).map Int.ofNat := by
        unfold int64?
        split
        · exact absurd (digits '-' List.mem_cons_self) (by decide)
        · exact absurd (digits '+' List.mem_cons_self) (by decide)
        · rfl
      have fits : Fits (digitsValue cs) ↔ digitsValue cs < 0x8000000000000000 := by
        unfold Fits
        omega
      simp only [unsigned, digits?_eq some digits, Option.filter_some, fits]
      by_cases small : digitsValue cs < 0x8000000000000000
      · simp only [small, decide_true, if_true]
        rfl
      · simp only [small, decide_false, Bool.false_eq_true, if_false]
        rfl

end Text

end HttpClient
