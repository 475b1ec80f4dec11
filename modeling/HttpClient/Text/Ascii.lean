/-
# ASCII text: case, tokens, pieces

The character classes of the message grammar are ASCII classes.  `Char.toLower`,
`Char.isAlpha` and `Char.isDigit` of the core library know ASCII only, which is
exactly what is wanted here: no other character has a case, and no other
character is a token character.

The splitters work on lists of characters and lose nothing: `cut` says which
character it cut at, and the two parts put back around it give the text again.
-/
namespace HttpClient.Text

def lower (s : String) : String := String.ofList (s.toList.map Char.toLower)

def upper (s : String) : String := String.ofList (s.toList.map Char.toUpper)

def sameLetters (a b : String) : Bool := lower a == lower b

/-- A character that may stand in a method or a header name. -/
def isTokenChar (c : Char) : Bool :=
  c.isAlphanum || "!#$%&'*+-.^_`|~".toList.contains c

/-- The text before the first `c` and the text behind it, if `c` occurs. -/
def cut (c : Char) : List Char → Option (List Char × List Char)
  | [] => none
  | x :: xs => if x = c then some ([], xs) else (cut c xs).map fun (a, b) => (x :: a, b)

theorem cut_of_not_mem {c : Char} {before : List Char} (behind : List Char) (h : c ∉ before) :
    cut c (before ++ c :: behind) = some (before, behind) := by
  induction before with
  | nil => simp [cut]
  | cons x xs ih =>
      obtain ⟨other, h⟩ := not_or.mp (mt List.mem_cons.mpr h)
      rw [List.cons_append, cut, if_neg (Ne.symm other), ih h]
      rfl

theorem cut_eq_none {c : Char} {cs : List Char} (h : c ∉ cs) : cut c cs = none := by
  induction cs with
  | nil => rfl
  | cons x xs ih =>
      obtain ⟨other, h⟩ := not_or.mp (mt List.mem_cons.mpr h)
      rw [cut, if_neg (Ne.symm other), ih h]
      rfl

theorem cut_eq {c : Char} {cs before behind : List Char} (h : cut c cs = some (before, behind)) :
    cs = before ++ c :: behind := by
  induction cs generalizing before with
  | nil => cases h
  | cons x xs ih =>
      unfold cut at h
      split at h
      · rename_i same
        cases h
        rw [same]
        rfl
      · obtain ⟨⟨a, b⟩, found, same⟩ := Option.map_eq_some_iff.mp h
        cases same
        rw [ih found]
        rfl

theorem not_mem_of_cut {c : Char} {cs before behind : List Char}
    (h : cut c cs = some (before, behind)) : c ∉ before := by
  induction cs generalizing before with
  | nil => cases h
  | cons x xs ih =>
      unfold cut at h
      split at h
      · cases h
        exact List.not_mem_nil
      · rename_i other
        obtain ⟨⟨a, b⟩, found, same⟩ := Option.map_eq_some_iff.mp h
        cases same
        exact List.not_mem_cons_of_ne_of_not_mem (Ne.symm other) (ih found)

/-- The text before the last `c` and the text behind it, if `c` occurs. -/
def cutLast (c : Char) : List Char → Option (List Char × List Char)
  | [] => none
  | x :: xs =>
    match cutLast c xs with
    | some (a, b) => some (x :: a, b)
    | none => if x = c then some ([], xs) else none

theorem cutLast_eq {c : Char} {cs before behind : List Char}
    (h : cutLast c cs = some (before, behind)) : cs = before ++ c :: behind := by
  induction cs generalizing before with
  | nil => cases h
  | cons x xs ih =>
      unfold cutLast at h
      split at h
      · rename_i a b found
        cases h
        rw [ih found]
        rfl
      · split at h
        · rename_i same
          cases h
          rw [same]
          rfl
        · cases h

theorem cutLast_eq_none {c : Char} {cs : List Char} (h : c ∉ cs) : cutLast c cs = none := by
  induction cs with
  | nil => rfl
  | cons x xs ih =>
      obtain ⟨other, h⟩ := not_or.mp (mt List.mem_cons.mpr h)
      rw [cutLast, ih h]
      exact if_neg (Ne.symm other)

theorem cutLast_of_not_mem {c : Char} (before : List Char) {behind : List Char} (h : c ∉ behind) :
    cutLast c (before ++ c :: behind) = some (before, behind) := by
  induction before with
  | nil =>
      rw [List.nil_append, cutLast, cutLast_eq_none h]
      exact if_pos rfl
  | cons x xs ih => rw [List.cons_append, cutLast, ih]

/-- The text before the first occurrence of the word `w` and the text behind it. -/
def cutWord (w : List Char) : List Char → Option (List Char × List Char)
  | [] => if w.isEmpty then some ([], []) else none
  | x :: xs =>
    if w.isPrefixOf (x :: xs) then some ([], (x :: xs).drop w.length)
    else (cutWord w xs).map fun (a, b) => (x :: a, b)

theorem cutWord_eq {word before behind cs : List Char}
    (h : cutWord word cs = some (before, behind)) : cs = before ++ (word ++ behind) := by
  induction cs generalizing before with
  | nil =>
      unfold cutWord at h
      split at h
      · rename_i hnil
        cases h
        rw [List.isEmpty_iff.mp hnil]
        rfl
      · cases h
  | cons c cs ih =>
      unfold cutWord at h
      split at h
      · rename_i there
        cases h
        obtain ⟨rest, same⟩ := List.isPrefixOf_iff_prefix.mp there
        rw [← same, List.drop_left]
        rfl
      · obtain ⟨⟨a, b⟩, found, same⟩ := Option.map_eq_some_iff.mp h
        cases same
        rw [ih found]
        rfl

theorem cutWord_of_not_mem {c : Char} {word before : List Char} (h : c ∉ before)
    (behind : List Char) :
    cutWord (c :: word) (before ++ (c :: word ++ behind)) = some (before, behind) := by
  induction before with
  | nil =>
      have there : (c :: word).isPrefixOf (c :: (word ++ behind)) = true :=
        List.isPrefixOf_iff_prefix.mpr (List.prefix_append (c :: word) behind)
      rw [List.nil_append, List.cons_append, cutWord, if_pos there, List.length_cons,
        List.drop_succ_cons, List.drop_left]
  | cons x xs ih =>
      obtain ⟨other, h⟩ := not_or.mp (mt List.mem_cons.mpr h)
      have absent : ¬ (c :: word).isPrefixOf (x :: (xs ++ (c :: word ++ behind))) = true := by
        intro there
        exact other (List.cons_prefix_cons.mp (List.isPrefixOf_iff_prefix.mp there)).1
      rw [List.cons_append, cutWord, if_neg absent, ih h]
      rfl

theorem cutWord_eq_none_iff {word cs : List Char} : cutWord word cs = none ↔ ¬ word <:+: cs := by
  induction cs with
  | nil =>
      unfold cutWord
      cases word with
      | nil => simp
      | cons c word => simp
  | cons x xs ih =>
      unfold cutWord
      rw [List.infix_cons_iff, not_or, ← ih, ← List.isPrefixOf_iff_prefix]
      by_cases there : word.isPrefixOf (x :: xs) = true
      · simp [there]
      · simp [there]

/-- The pieces between the characters of a class: always one more than there are such characters. -/
def piecesBy (p : Char → Bool) : List Char → List (List Char)
  | [] => [[]]
  | x :: xs =>
    if p x then [] :: piecesBy p xs
    else
      match piecesBy p xs with
      | [] => [[x]]
      | w :: ws => (x :: w) :: ws

theorem mem_of_mem_piecesBy {p : Char → Bool} {cs part : List Char} {c : Char}
    (there : part ∈ piecesBy p cs) (h : c ∈ part) : c ∈ cs := by
  induction cs generalizing part with
  | nil =>
      cases List.mem_singleton.mp there
      cases h
  | cons x xs ih =>
      unfold piecesBy at there
      split at there
      · rcases List.mem_cons.mp there with rfl | later
        · cases h
        · exact List.mem_cons_of_mem x (ih later h)
      · split at there
        · cases List.mem_singleton.mp there
          exact List.mem_cons.mpr (.inl (List.mem_singleton.mp h))
        · rename_i w ws parts
          rcases List.mem_cons.mp there with rfl | later
          · rcases List.mem_cons.mp h with rfl | h
            · exact List.mem_cons_self
            · exact List.mem_cons_of_mem x (ih (by rw [parts]; exact List.mem_cons_self) h)
          · exact List.mem_cons_of_mem x (ih (by rw [parts]; exact List.mem_cons_of_mem w later) h)

def pieces (c : Char) (cs : List Char) : List (List Char) := piecesBy (· == c) cs

/-- The list without the members of a class at its end. -/
def dropEnd {α : Type} (p : α → Bool) (xs : List α) : List α :=
  (xs.reverse.dropWhile p).reverse

/-- The text without the characters of a class at its two ends. -/
def strip (p : Char → Bool) (cs : List Char) : List Char :=
  dropEnd p (cs.dropWhile p)

/-- The rest of the text behind a leading word, if the text starts with it. -/
def behind (w cs : List Char) : Option (List Char) :=
  if w.isPrefixOf cs then some (cs.drop w.length) else none

theorem behind_eq {w rest cs : List Char} (h : behind w cs = some rest) : cs = w ++ rest := by
  unfold behind at h
  split at h
  · rename_i there
    cases h
    obtain ⟨rest, rfl⟩ := List.isPrefixOf_iff_prefix.mp there
    rw [List.drop_left]
  · cases h

def join (sep : String) (parts : List String) : String := sep.intercalate parts

end HttpClient.Text
