/-
# Words and lines

The words on the two sides of a blank are read each by itself (`words_append_cons`), and so are the
lines on the two sides of a line end (`pieces_append_cons`).  So blanks in front of a text do not
matter (`words_skip`), and a word is read as it stands where the text behind it begins with a blank
or is empty (`words_front`).
-/
import HttpClient.Proofs.Text.Characters

namespace HttpClient.Text

variable {cs rest : List Char}

theorem pieces_append_cons (c : Char) (before behind : List Char) :
    pieces c (before ++ c :: behind) = pieces c before ++ pieces c behind := by
  have ends : List.splitOnP (· == c) (before ++ c :: behind) = _ :=
    List.splitOnP_append_cons before behind (beq_self_eq_true c)
  rw [pieces, piecesBy_eq_splitOnP, ends, ← piecesBy_eq_splitOnP, ← piecesBy_eq_splitOnP]
  rfl

theorem pieces_of_not_mem {c : Char} (absent : c ∉ cs) : pieces c cs = [cs] := by
  rw [pieces_eq_splitOn, List.splitOn_eq_singleton absent]

theorem pieces_line {c : Char} (absent : c ∉ cs) (behind : List Char) :
    pieces c (cs ++ c :: behind) = cs :: pieces c behind := by
  rw [pieces_append_cons, pieces_of_not_mem absent]
  rfl

theorem words_nil : words [] = [] := rfl

theorem words_append_cons {b : Char} (blank : isBlank b = true) (before behind : List Char) :
    words (before ++ b :: behind) = words before ++ words behind := by
  rw [words, piecesBy_eq_splitOnP, List.splitOnP_append_cons before behind blank,
    List.filter_append, ← piecesBy_eq_splitOnP, ← piecesBy_eq_splitOnP]
  rfl

theorem words_skip (blank : ∀ c ∈ cs, isBlank c = true) (behind : List Char) :
    words (cs ++ behind) = words behind := by
  induction cs with
  | nil => rfl
  | cons b cs ih =>
      obtain ⟨here, later⟩ := List.forall_mem_cons.mp blank
      exact (words_append_cons here [] (cs ++ behind)).trans (ih later)

/-- The text begins with a blank, or it is empty, so that a word in front of it ends there. -/
def Apart (rest : List Char) : Prop := ∀ c, rest.head? = some c → isBlank c = true

theorem apart_nil : Apart [] := fun _ first => nomatch first

theorem apart_append (hne : cs ≠ []) (blank : ∀ c ∈ cs, isBlank c = true) (behind : List Char) :
    Apart (cs ++ behind) := by
  intro c first
  cases cs with
  | nil => exact absurd rfl hne
  | cons b cs =>
      cases first
      exact blank _ List.mem_cons_self

theorem Apart.of_isPrefix {line : List Char} (apart : Apart rest) (front : line <+: rest) :
    Apart line := by
  obtain ⟨behind, rfl⟩ := front
  intro c first
  exact apart c (by rw [List.head?_append, first, Option.some_or])

theorem words_front {word : List Char} (hne : word ≠ []) (whole : ∀ c ∈ word, isBlank c = false)
    (apart : Apart rest) : words (word ++ rest) = word :: words rest := by
  have alone : words word = [word] := by
    rw [words, piecesBy_eq_splitOnP, List.splitOnP_eq_singleton whole]
    simp [hne]
  cases rest with
  | nil => rw [List.append_nil, alone, words_nil]
  | cons b rest =>
      have blank := apart b rfl
      rw [words_append_cons blank, alone]
      exact congrArg (word :: ·) (words_append_cons blank [] rest).symm

theorem exists_words_cons {c : Char} (other : isBlank c = false) (cs : List Char) :
    ∃ word more, words (c :: cs) = (c :: word) :: more := by
  unfold words
  rw [piecesBy, if_neg (Bool.eq_false_iff.mp other)]
  split
  · exact ⟨[], [], rfl⟩
  · rename_i word more _
    exact ⟨word, more.filter (· ≠ []), rfl⟩

end HttpClient.Text
