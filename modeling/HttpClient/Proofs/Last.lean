/-
# The last one that counts

Of a list of things that were done one after the other, the last one that says anything
about a matter settles it, and if none does it is as it was before.  `LastBy` and `Settles`
say so, and `settles_foldl` that a fold keeps to it if every single step does.

The proofs take lists apart from their ends (`concat_eq_iff`).
-/
import Mathlib.Data.List.Induction

namespace HttpClient

variable {α β σ : Type} {R : α → β → Prop} {xs : List α} {x : α} {b start : β}

theorem concat_eq_iff {before after : List α} {y : α} : xs ++ [x] = before ++ y :: after ↔
    (after = [] ∧ xs = before ∧ x = y) ∨
      ∃ rest, after = rest ++ [x] ∧ xs = before ++ y :: rest := by
  constructor
  · intro split
    rcases List.eq_nil_or_concat after with rfl | ⟨rest, z, rfl⟩
    · obtain ⟨same, last⟩ := List.append_inj' split rfl
      exact .inl ⟨rfl, same, List.head_eq_of_cons_eq last⟩
    · rw [List.concat_eq_append, ← List.cons_append, ← List.append_assoc] at split
      obtain ⟨same, last⟩ := List.append_inj' split rfl
      cases last
      exact .inr ⟨rest, List.concat_eq_append, same⟩
  · rintro (⟨rfl, rfl, rfl⟩ | ⟨rest, rfl, rfl⟩)
    · rfl
    · simp

/-- The last member of the list that stands for anything stands for this. -/
def LastBy (R : α → β → Prop) (xs : List α) (b : β) : Prop :=
  ∃ before x after, xs = before ++ x :: after ∧ R x b ∧ ∀ y ∈ after, ∀ c, ¬ R y c

/-- The last member that stands for anything stands for this, or none does and it was so before. -/
def Settles (R : α → β → Prop) (xs : List α) (start b : β) : Prop :=
  LastBy R xs b ∨ (∀ x ∈ xs, ∀ c, ¬ R x c) ∧ start = b

theorem not_lastBy_nil : ¬ LastBy R [] b := by
  rintro ⟨before, x, after, split, -⟩
  simp at split

theorem lastBy_concat : LastBy R (xs ++ [x]) b ↔ R x b ∨ (∀ c, ¬ R x c) ∧ LastBy R xs b := by
  constructor
  · rintro ⟨before, y, after, split, holds, hnone⟩
    rcases concat_eq_iff.mp split with ⟨rfl, -, rfl⟩ | ⟨rest, rfl, parts⟩
    · exact .inl holds
    · obtain ⟨earlier, here⟩ := List.forall_mem_append.mp hnone
      exact .inr ⟨here x List.mem_cons_self, before, y, rest, parts, holds, earlier⟩
  · rintro (holds | ⟨here, before, y, after, rfl, holds, earlier⟩)
    · exact ⟨xs, x, [], rfl, holds, by simp⟩
    · refine ⟨before, y, after ++ [x], by simp, holds, List.forall_mem_append.mpr ⟨earlier, ?_⟩⟩
      simpa using here

theorem forall_not_lastBy : (∀ b, ¬ LastBy R xs b) ↔ ∀ x ∈ xs, ∀ b, ¬ R x b := by
  induction xs using List.reverseRecOn with
  | nil => simp [not_lastBy_nil]
  | append_singleton xs x ih =>
      simp only [lastBy_concat, List.forall_mem_append, List.forall_mem_singleton, ← ih]
      constructor
      · intro hnone
        have here (b : β) : ¬ R x b := fun holds => hnone b (.inl holds)
        exact ⟨fun b last => hnone b (.inr ⟨here, last⟩), here⟩
      · rintro ⟨earlier, here⟩ b (holds | ⟨-, last⟩)
        · exact here b holds
        · exact earlier b last

theorem settles_concat :
    Settles R (xs ++ [x]) start b ↔ R x b ∨ (∀ c, ¬ R x c) ∧ Settles R xs start b := by
  unfold Settles
  rw [lastBy_concat, List.forall_mem_append, List.forall_mem_singleton]
  tauto

/-- A list is gone through, and each member settles what is seen of the state or leaves it. -/
theorem settles_foldl (step : σ → α → σ) (view : σ → β) (law : ∀ x ∈ xs, ∀ s b,
      view (step s x) = b ↔ R x b ∨ (∀ c, ¬ R x c) ∧ view s = b) (s : σ) (b : β) :
    view (xs.foldl step s) = b ↔ Settles R xs (view s) b := by
  induction xs using List.reverseRecOn generalizing b with
  | nil => simp [Settles, not_lastBy_nil]
  | append_singleton xs x ih =>
      obtain ⟨earlier, here⟩ := List.forall_mem_append.mp law
      rw [List.foldl_append, List.foldl_cons, List.foldl_nil, here x List.mem_cons_self,
        settles_concat]
      refine or_congr_right (and_congr_right fun _ => ih earlier b)

theorem getLast?_filterMap_cons (f : α → Option β) (x : α) (xs : List α) (before : Option β) :
    ((x :: xs).filterMap f).getLast?.or before = (xs.filterMap f).getLast?.or ((f x).or before) := by
  cases here : f x with
  | none => rw [List.filterMap_cons_none here, Option.none_or]
  | some b =>
      rw [List.filterMap_cons_some here, List.getLast?_cons]
      cases (xs.filterMap f).getLast? with
      | none => rfl
      | some c => rfl

/-- What is read off the last member from which something can be read. -/
theorem lastBy_iff_getLast? {p : α → Bool} {read : α → Option β} :
    LastBy (fun x b => p x = true ∧ read x = some b) xs b ↔
      ((xs.filter p).filterMap read).getLast? = some b := by
  induction xs using List.reverseRecOn with
  | nil => simp [not_lastBy_nil]
  | append_singleton xs x ih =>
      rw [lastBy_concat, ih, List.filter_append, List.filterMap_append, List.getLast?_append]
      by_cases counts : p x = true
      · cases there : read x with
        | none => simp [counts, there]
        | some c => simp [counts, there]
      · simp [counts]

end HttpClient
