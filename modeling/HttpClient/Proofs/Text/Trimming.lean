/-
# Trimming

What is dropped at the end of a text are all the members of a class there, and no others, so a
text whose last character is not of the class stays (`dropEnd_of_getLast?`), and of two texts
behind each other the first one is touched only if nothing is left of the second
(`dropEnd_append`).  Blanks around a text do not matter when it is trimmed (`trim_padded`).
-/
import HttpClient.Text.Blank
import Mathlib.Data.List.TakeWhile

namespace HttpClient.Text

theorem dropWhile_of_head? {α : Type} {p : α → Bool} {xs : List α}
    (h : ∃ x, xs.head? = some x ∧ p x = false) : xs.dropWhile p = xs := by
  obtain ⟨x, first, stays⟩ := h
  cases xs with
  | nil => cases first
  | cons y ys =>
      cases first
      rw [List.dropWhile_cons_of_neg (by simp [stays])]

theorem dropEnd_of_getLast? {α : Type} {p : α → Bool} {xs : List α}
    (h : ∃ x, xs.getLast? = some x ∧ p x = false) : dropEnd p xs = xs := by
  have behind : xs.reverse.dropWhile p = xs.reverse := dropWhile_of_head? (by simpa using h)
  rw [dropEnd, behind, List.reverse_reverse]

theorem dropEnd_of_forall {α : Type} {p : α → Bool} {xs : List α} (h : ∀ x ∈ xs, p x = true) :
    dropEnd p xs = [] := by
  have hnil : xs.reverse.dropWhile p = [] :=
    List.dropWhile_eq_nil_iff.mpr fun x there => h x (List.mem_reverse.mp there)
  rw [dropEnd, hnil]
  rfl

theorem dropEnd_append {α : Type} (p : α → Bool) (xs ys : List α) :
    dropEnd p (xs ++ ys) = if dropEnd p ys = [] then dropEnd p xs else xs ++ dropEnd p ys := by
  unfold dropEnd
  rw [List.reverse_append, List.dropWhile_append]
  by_cases hnil : ys.reverse.dropWhile p = []
  · simp [hnil]
  · simp [hnil]

theorem dropEnd_append_cons {p : Char → Bool} {c : Char} (stays : p c = false)
    (front behind : List Char) : dropEnd p (front ++ c :: behind) = front ++ c :: dropEnd p behind := by
  have kept : dropEnd p (front ++ [c]) = front ++ [c] :=
    dropEnd_of_getLast? ⟨c, List.getLast?_concat, stays⟩
  rw [List.append_cons, dropEnd_append]
  split
  · rename_i hnil
    rw [kept, hnil]
  · rw [List.append_assoc]
    rfl

theorem strip_front {p : Char → Bool} {front : List Char} (nonempty : front ≠ [])
    (stays : ∀ c ∈ front, p c = false) (rest : List Char) :
    strip p (front ++ rest) = front ++ dropEnd p rest := by
  have first : (front ++ rest).dropWhile p = front ++ rest := by
    cases front with
    | nil => exact absurd rfl nonempty
    | cons c cs => exact dropWhile_of_head? ⟨c, rfl, stays c List.mem_cons_self⟩
  have last : dropEnd p front = front :=
    dropEnd_of_getLast? ⟨front.getLast nonempty, List.getLast?_eq_some_getLast nonempty,
      stays _ (List.getLast_mem nonempty)⟩
  rw [strip, first, dropEnd_append]
  split
  · rename_i hnil
    rw [last, hnil, List.append_nil]
  · rfl

theorem exists_dropEnd {α : Type} (p : α → Bool) (xs : List α) :
    ∃ ys, xs = dropEnd p xs ++ ys ∧ ∀ y ∈ ys, p y = true := by
  refine ⟨(xs.reverse.takeWhile p).reverse, ?_, fun y there => ?_⟩
  · rw [dropEnd, ← List.reverse_append, List.takeWhile_append_dropWhile, List.reverse_reverse]
  · exact List.mem_takeWhile_imp (List.mem_reverse.mp there)

theorem mem_of_mem_dropEnd {α : Type} {p : α → Bool} {xs : List α} {x : α}
    (there : x ∈ dropEnd p xs) : x ∈ xs := by
  obtain ⟨ys, parts, -⟩ := exists_dropEnd p xs
  rw [parts]
  exact List.mem_append_left ys there

theorem mem_dropEnd {α : Type} {p : α → Bool} {xs : List α} {x : α} (there : x ∈ xs)
    (other : p x = false) : x ∈ dropEnd p xs := by
  obtain ⟨ys, parts, dropped⟩ := exists_dropEnd p xs
  rw [parts] at there
  rcases List.mem_append.mp there with kept | there
  · exact kept
  · rw [dropped x there] at other
    cases other

theorem mem_trim {cs : List Char} {c : Char} (there : c ∈ cs) (other : isBlank c = false) :
    c ∈ trim cs := by
  refine mem_dropEnd ?_ other
  rw [← List.takeWhile_append_dropWhile (p := isBlank) (l := cs)] at there
  rcases List.mem_append.mp there with dropped | kept
  · rw [List.mem_takeWhile_imp dropped] at other
    cases other
  · exact kept

theorem trim_of_forall {cs : List Char} (blank : ∀ c ∈ cs, isBlank c = true) : trim cs = [] := by
  rw [trim, strip, List.dropWhile_eq_nil_iff.mpr blank]
  rfl

/-- What keeps the blanks and makes no new ones may be done before or after trimming. -/
theorem trim_map {f : Char → Char} (h : ∀ c, isBlank (f c) = isBlank c) (cs : List Char) :
    trim (cs.map f) = (trim cs).map f := by
  have same : isBlank ∘ f = isBlank := funext h
  unfold trim strip dropEnd
  rw [List.dropWhile_map, same, ← List.map_reverse, List.dropWhile_map, same, List.map_reverse]

theorem exists_trim (cs : List Char) :
    ∃ before after, cs = before ++ (trim cs ++ after) ∧ (∀ c ∈ before, isBlank c = true) ∧
      ∀ c ∈ after, isBlank c = true := by
  obtain ⟨after, parts, blank⟩ := exists_dropEnd isBlank (cs.dropWhile isBlank)
  refine ⟨cs.takeWhile isBlank, after, ?_, fun c there => List.mem_takeWhile_imp there, blank⟩
  rw [trim, strip, ← parts, List.takeWhile_append_dropWhile]

theorem trim_padded {before after : List Char} (h : ∀ c ∈ before, isBlank c = true) (t : List Char)
    (h' : ∀ c ∈ after, isBlank c = true) : trim (before ++ t ++ after) = trim t := by
  unfold trim strip
  rw [List.append_assoc, List.dropWhile_append_of_pos h, List.dropWhile_append]
  split
  · rename_i blank
    rw [List.isEmpty_iff.mp blank, List.dropWhile_eq_nil_iff.mpr h']
  · rw [dropEnd_append, if_pos (dropEnd_of_forall h')]

/-- A text that is not empty and has no blank at either end. -/
structure Trimmed (cs : List Char) : Prop where
  first : ∃ c, cs.head? = some c ∧ isBlank c = false
  last : ∃ c, cs.getLast? = some c ∧ isBlank c = false

theorem Trimmed.trim_eq {cs : List Char} (h : Trimmed cs) : trim cs = cs := by
  rw [trim, strip, dropWhile_of_head? h.first, dropEnd_of_getLast? h.last]

theorem Trimmed.ne_nil {cs : List Char} (h : Trimmed cs) : cs ≠ [] := by
  rintro rfl
  obtain ⟨c, first, -⟩ := h.first
  cases first

theorem getLast?_dropEnd {p : Char → Bool} {cs : List Char} (left : dropEnd p cs ≠ []) :
    ∃ c, (dropEnd p cs).getLast? = some c ∧ p c = false := by
  unfold dropEnd at left ⊢
  rw [List.getLast?_reverse]
  cases last : cs.reverse.dropWhile p with
  | nil => exact absurd (by rw [last]; rfl) left
  | cons c rest =>
      have stays := List.head?_dropWhile_not p cs.reverse
      rw [last] at stays
      exact ⟨c, rfl, by simpa using stays⟩

theorem trimmed_trim {cs : List Char} (left : trim cs ≠ []) : Trimmed (trim cs) := by
  refine ⟨?_, getLast?_dropEnd left⟩
  unfold trim strip at left ⊢
  cases front : cs.dropWhile isBlank with
  | nil =>
      rw [front] at left
      exact absurd rfl left
  | cons c rest =>
      have stays := List.head?_dropWhile_not isBlank cs
      rw [front] at stays
      have stays : isBlank c = false := by simpa using stays
      exact ⟨c, congrArg List.head? (dropEnd_append_cons stays [] rest), stays⟩

theorem trim_space (cs : List Char) : trim (' ' :: cs) = trim cs := by
  unfold trim strip
  rw [List.dropWhile_cons_of_pos (by decide)]

end HttpClient.Text
