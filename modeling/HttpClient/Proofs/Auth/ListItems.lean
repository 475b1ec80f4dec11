/-
# The items of a list

A list is taken apart by a scan that goes from state to state.  Here the texts themselves are
described: what may stand between quotes (`Inner`), which texts end outside of them (`Balanced`) and
which ones inside (`Unclosed`).  Every text is one or the other (`balanced_or_unclosed`), and it can
be told by the state in which the scan ends (`balanced_iff`).

A piece of a list is balanced, and every comma in it stands inside quotes.  The scan finds the pieces
whose commas are the others (`scanList_parts`), and there is only one way to take a text apart like
that, since a piece is `Whole` (`Piece.whole`).  A piece stays one when it is trimmed, so that the
items, joined again, are the items of what they are joined to (`items_of_list`).
-/
import HttpClient.Proofs.Auth.QuotedList

namespace HttpClient.Auth

open Text

/-! ## Texts with quotes in them -/

/-- What may stand between quotes: a quote in it stands behind a backslash, and so does a
backslash. -/
inductive Inner : List Char → Prop where
  | nil : Inner []
  | char {c : Char} {cs : List Char} : c ≠ '"' → c ≠ '\\' → Inner cs → Inner (c :: cs)
  | escaped {c : Char} {cs : List Char} : Inner cs → Inner ('\\' :: c :: cs)

/-- The text ends outside quotes. -/
inductive Balanced : List Char → Prop where
  | nil : Balanced []
  | char {c : Char} {cs : List Char} : c ≠ '"' → Balanced cs → Balanced (c :: cs)
  | quoted {text cs : List Char} : Inner text → Balanced cs → Balanced ('"' :: (text ++ '"' :: cs))

/-- The text ends inside quotes, perhaps right behind a backslash. -/
inductive Unclosed : List Char → Prop where
  | inside {front text : List Char} : Balanced front → Inner text → Unclosed (front ++ '"' :: text)
  | escaped {front text : List Char} : Balanced front → Inner text →
      Unclosed (front ++ '"' :: (text ++ ['\\']))

variable {cs text front : List Char} {q : Quoting}

theorem Unclosed.cons_char {c : Char} (other : c ≠ '"') (h : Unclosed cs) : Unclosed (c :: cs) := by
  cases h with
  | inside balanced inner => exact .inside (.char other balanced) inner
  | escaped balanced inner => exact .escaped (.char other balanced) inner

theorem Unclosed.cons_quoted (inner : Inner text) (h : Unclosed cs) :
    Unclosed ('"' :: (text ++ '"' :: cs)) := by
  cases h with
  | @inside front rest balanced inner' =>
      have all := Unclosed.inside (.quoted inner balanced) inner'
      simpa using all
  | @escaped front rest balanced inner' =>
      have all := Unclosed.escaped (.quoted inner balanced) inner'
      simpa using all

theorem exists_inner (cs : List Char) :
    (∃ text rest, cs = text ++ '"' :: rest ∧ Inner text) ∨ Inner cs ∨
      ∃ text, cs = text ++ ['\\'] ∧ Inner text := by
  induction cs using unescape.induct with
  | case1 => exact .inr (.inl .nil)
  | case2 => exact .inr (.inr ⟨[], rfl, .nil⟩)
  | case3 c cs ih =>
      rcases ih with ⟨text, rest, rfl, inner⟩ | inner | ⟨text, rfl, inner⟩
      · exact .inl ⟨'\\' :: c :: text, rest, rfl, .escaped inner⟩
      · exact .inr (.inl (.escaped inner))
      · exact .inr (.inr ⟨'\\' :: c :: text, rfl, .escaped inner⟩)
  | case4 c cs noEnd noPair ih =>
      have other : c ≠ '\\' := by
        rintro rfl
        cases cs with
        | nil => exact noEnd rfl rfl
        | cons d ds => exact noPair d ds rfl rfl
      by_cases quote : c = '"'
      · exact .inl ⟨[], cs, by rw [quote]; rfl, .nil⟩
      · rcases ih with ⟨text, rest, rfl, inner⟩ | inner | ⟨text, rfl, inner⟩
        · exact .inl ⟨c :: text, rest, rfl, .char quote other inner⟩
        · exact .inr (.inl (.char quote other inner))
        · exact .inr (.inr ⟨c :: text, rfl, .char quote other inner⟩)

theorem balanced_or_unclosed : (cs : List Char) → Balanced cs ∨ Unclosed cs
  | [] => .inl .nil
  | c :: cs => by
      by_cases quote : c = '"'
      · subst quote
        rcases exists_inner cs with ⟨text, rest, rfl, inner⟩ | inner | ⟨text, rfl, inner⟩
        · exact (balanced_or_unclosed rest).imp (.quoted inner) (.cons_quoted inner)
        · exact .inr (.inside .nil inner)
        · exact .inr (.escaped .nil inner)
      · exact (balanced_or_unclosed cs).imp (.char quote) (.cons_char quote)
termination_by cs => cs.length

/-! ## Where a scan ends -/

def Quoting.behind (q : Quoting) (cs : List Char) : Quoting := cs.foldl Quoting.step q

theorem Quoting.behind_append (q : Quoting) (front cs : List Char) :
    q.behind (front ++ cs) = (q.behind front).behind cs := List.foldl_append

theorem Quoting.step_outside {c : Char} (other : c ≠ '"') : step .outside c = .outside := if_neg other

theorem Inner.behind (h : Inner text) : Quoting.behind .inside text = .inside := by
  induction h with
  | nil => rfl
  | @char c cs quote escape _ ih =>
      have stays : Quoting.step .inside c = .inside := by simp [Quoting.step, quote, escape]
      rw [Quoting.behind, List.foldl_cons, stays]
      exact ih
  | escaped _ ih => exact ih

theorem Balanced.behind (h : Balanced cs) : Quoting.behind .outside cs = .outside := by
  induction h with
  | nil => rfl
  | @char c cs other _ ih =>
      rw [Quoting.behind, List.foldl_cons, Quoting.step_outside other]
      exact ih
  | @quoted text cs inner _ ih =>
      show Quoting.behind .inside (text ++ '"' :: cs) = _
      rw [Quoting.behind_append, inner.behind]
      exact ih

theorem Unclosed.behind (h : Unclosed cs) : Quoting.behind .outside cs ≠ .outside := by
  cases h with
  | @inside front text balanced inner =>
      rw [Quoting.behind_append, balanced.behind]
      show Quoting.behind .inside text ≠ _
      rw [inner.behind]
      decide
  | @escaped front text balanced inner =>
      rw [Quoting.behind_append, balanced.behind]
      show Quoting.behind .inside (text ++ ['\\']) ≠ _
      rw [Quoting.behind_append, inner.behind]
      decide

theorem balanced_iff : Balanced cs ↔ Quoting.behind .outside cs = .outside :=
  ⟨Balanced.behind, fun h => (balanced_or_unclosed cs).resolve_right fun open' => open'.behind h⟩

theorem unclosed_iff : Unclosed cs ↔ Quoting.behind .outside cs ≠ .outside :=
  ⟨Unclosed.behind, fun h => (balanced_or_unclosed cs).resolve_left fun closed => h closed.behind⟩

theorem Quoting.behind_ne_outside (opened : q ≠ .outside) (h : '"' ∉ cs) : q.behind cs ≠ .outside := by
  induction cs generalizing q with
  | nil => exact opened
  | cons c cs ih =>
      obtain ⟨noQuote, h⟩ := not_or.mp (mt List.mem_cons.mpr h)
      exact ih (step_ne_outside opened (Ne.symm noQuote)) h

/-! ## Pieces -/

/-- No comma in the text separates anything if a scan begins there like this. -/
def Joined (q : Quoting) (cs : List Char) : Prop :=
  ∀ front behind, cs = front ++ ',' :: behind → q.behind front ≠ .outside

theorem Joined.nil (q : Quoting) : Joined q [] := by
  intro front behind parts
  simp at parts

theorem joined_cons_iff {c : Char} :
    Joined q (c :: cs) ↔ ¬ (q = .outside ∧ c = ',') ∧ Joined (q.step c) cs := by
  constructor
  · intro h
    refine ⟨?_, fun front behind parts => h (c :: front) behind (by rw [parts]; rfl)⟩
    rintro ⟨rfl, rfl⟩
    exact h [] cs rfl rfl
  · rintro ⟨here, later⟩ front behind parts
    cases front with
    | nil =>
        obtain ⟨rfl, rfl⟩ := List.cons_eq_cons.mp parts
        exact fun outside => here ⟨outside, rfl⟩
    | cons d front =>
        obtain ⟨rfl, rfl⟩ := List.cons_eq_cons.mp parts
        exact later front behind rfl

/-- A piece of a list: it is balanced, and the text in front of a comma in it is not. -/
structure Piece (cs : List Char) : Prop where
  balanced : Balanced cs
  commas : ∀ front behind, cs = front ++ ',' :: behind → Unclosed front

theorem piece_iff : Piece cs ↔ Quoting.behind .outside cs = .outside ∧ Joined .outside cs :=
  ⟨fun h => ⟨h.balanced.behind, fun front behind parts => (h.commas front behind parts).behind⟩,
    fun ⟨closed, joined⟩ => ⟨balanced_iff.mpr closed, fun front behind parts =>
      unclosed_iff.mpr (joined front behind parts)⟩⟩

/-- Where no comma separates, the text goes to one piece with what is behind it. -/
theorem scanList_of_joined (h : Joined q text) (rest : List Char) :
    scanList q (text ++ rest) = (scanList (q.behind text) rest).map (inFront text) := by
  induction text generalizing q with
  | nil => exact (scanList_inFront_nil q rest).symm
  | cons c cs ih =>
      obtain ⟨here, later⟩ := joined_cons_iff.mp h
      rw [List.cons_append, scanList_cons _ here, ih later, Option.map_map]
      congr 1
      funext ps
      exact inFront_inFront [c] cs ps

theorem Piece.whole (h : Piece text) : Whole text := by
  obtain ⟨closed, joined⟩ := piece_iff.mp h
  intro rest
  rw [scanList_of_joined joined, closed]

/-- The text is malformed exactly if a scan over it does not end outside quotes. -/
theorem scanList_eq_none_iff : scanList q cs = none ↔ q.behind cs ≠ .outside := by
  induction cs generalizing q with
  | nil =>
      show (if q = .outside then some [[]] else none) = none ↔ q ≠ .outside
      by_cases outside : q = .outside <;> simp [outside]
  | cons c cs ih =>
      by_cases separates : q = .outside ∧ c = ','
      · obtain ⟨rfl, rfl⟩ := separates
        show (scanList .outside cs).map ([] :: ·) = none ↔ Quoting.behind .outside cs ≠ .outside
        rw [Option.map_eq_none_iff, ih]
      · rw [scanList_cons cs separates, Option.map_eq_none_iff, ih]
        rfl

/-- What the scan finds are the pieces between the commas that separate, the first one being
entered in the state in which the scan begins. By induction over the text. -/
theorem scanList_parts {ps : List (List Char)} (h : scanList q cs = some ps) :
    ∃ p others, ps = p :: others ∧ [','].intercalate ps = cs ∧
      (q.behind p = .outside ∧ Joined q p) ∧ ∀ p ∈ others, Piece p := by
  induction cs generalizing q ps with
  | nil =>
      rw [scanList] at h
      split at h
      · rename_i outside
        cases h
        exact ⟨[], [], rfl, rfl, ⟨outside, .nil q⟩, fun _ there => absurd there List.not_mem_nil⟩
      · cases h
  | cons c cs ih =>
      by_cases separates : q = .outside ∧ c = ','
      · obtain ⟨rfl, rfl⟩ := separates
        obtain ⟨rest, found, rfl⟩ := Option.map_eq_some_iff.mp h
        obtain ⟨p, others, rfl, joined, first, pieces⟩ := ih found
        refine ⟨[], p :: others, rfl, ?_, ⟨rfl, .nil _⟩,
          List.forall_mem_cons.mpr ⟨piece_iff.mpr first, pieces⟩⟩
        rw [List.intercalate_cons_cons, joined]
        rfl
      · rw [scanList_cons cs separates] at h
        obtain ⟨rest, found, rfl⟩ := Option.map_eq_some_iff.mp h
        obtain ⟨p, others, rfl, joined, first, pieces⟩ := ih found
        refine ⟨c :: p, others, rfl, ?_, ⟨first.1, joined_cons_iff.mpr ⟨separates, first.2⟩⟩, pieces⟩
        show [','].intercalate ((c :: p) :: others) = c :: cs
        rw [intercalate_cons, joined]

/-! ## Lists -/

/-- The pieces of a text between its commas outside quotes. -/
structure Parts (cs : List Char) (ps : List (List Char)) : Prop where
  joined : [','].intercalate ps = cs
  nonempty : ps ≠ []
  pieces : ∀ p ∈ ps, Piece p

/-- A list has items exactly if it can be taken apart into pieces, and these are its items when they
are trimmed and blank ones are left out. -/
theorem splitList_eq_some_iff {items : List (List Char)} :
    splitList cs = some items ↔ ∃ ps, Parts cs ps ∧ items = (ps.map trim).filter (· ≠ []) := by
  constructor
  · intro h
    obtain ⟨ps, found, rfl⟩ := Option.map_eq_some_iff.mp h
    obtain ⟨p, others, rfl, joined, first, pieces⟩ := scanList_parts found
    exact ⟨_, ⟨joined, List.cons_ne_nil _ _,
      List.forall_mem_cons.mpr ⟨piece_iff.mpr first, pieces⟩⟩, rfl⟩
  · rintro ⟨ps, parts, rfl⟩
    rw [← parts.joined]
    exact splitList_commas parts.nonempty fun p there => (parts.pieces p there).whole

theorem splitList_eq_none_iff : splitList cs = none ↔ Unclosed cs := by
  rw [splitList, Option.map_eq_none_iff, scanList_eq_none_iff, unclosed_iff]

theorem behind_of_blank (blank : ∀ c ∈ cs, isBlank c = true) :
    Quoting.behind .outside cs = .outside := by
  induction cs with
  | nil => rfl
  | cons c cs ih =>
      obtain ⟨here, later⟩ := List.forall_mem_cons.mp blank
      have other : c ≠ '"' := by
        rintro rfl
        exact absurd here (by decide)
      show Quoting.behind (Quoting.step .outside c) cs = _
      rw [Quoting.step_outside other, ih later]

theorem Piece.trim (h : Piece cs) : Piece (trim cs) := by
  obtain ⟨before, after, parts, blank, blank'⟩ := exists_trim cs
  have skip (text : List Char) :
      Quoting.behind .outside (before ++ text) = Quoting.behind .outside text := by
    rw [Quoting.behind_append, behind_of_blank blank]
  obtain ⟨closed, joined⟩ := piece_iff.mp h
  rw [piece_iff]
  constructor
  · -- were it open, then so would be the whole piece, for no quote stands among the blanks
    by_contra opened
    have noQuote : '"' ∉ after := fun there => absurd (blank' _ there) (by decide)
    rw [parts, skip, Quoting.behind_append] at closed
    exact Quoting.behind_ne_outside opened noQuote closed
  · intro front behind same
    rw [← skip]
    refine joined (before ++ front) (behind ++ after) ?_
    rw [parts, same]
    simp

/-- For every text: it is no list exactly if it ends inside quotes.  Otherwise its items are its
pieces between the commas outside quotes, trimmed, without the blank ones, so an item is not empty,
has no blanks around it, is balanced and has commas inside quotes only, and the items joined by
commas are the items of a list. -/
theorem items_of_list (s : String) :
    (splitList s.toList = none ↔ Unclosed s.toList) ∧
    (∀ items, splitList s.toList = some items ↔
      ∃ ps, Parts s.toList ps ∧ items = (ps.map trim).filter (· ≠ [])) ∧
    ∀ items, splitList s.toList = some items →
      (∀ item ∈ items, Trimmed item ∧ Piece item) ∧
        splitList (", ".toList.intercalate items) = some items := by
  refine ⟨splitList_eq_none_iff, fun items => splitList_eq_some_iff, fun items found => ?_⟩
  obtain ⟨ps, parts, rfl⟩ := splitList_eq_some_iff.mp found
  have each : ∀ item ∈ (ps.map trim).filter (· ≠ []), Trimmed item ∧ Piece item := by
    intro item there
    obtain ⟨trimmed, hne⟩ := List.mem_filter.mp there
    obtain ⟨p, among, rfl⟩ := List.mem_map.mp trimmed
    exact ⟨trimmed_trim (of_decide_eq_true hne), (parts.pieces p among).trim⟩
  refine ⟨each, ?_⟩
  by_cases hnil : (ps.map trim).filter (· ≠ []) = []
  · rw [hnil]
    rfl
  · exact splitList_join hnil (fun item there => (each item there).2.whole) fun item there =>
      (each item there).1

/-- Two items of a list with escaped quotes, a blank piece, and commas inside quotes. -/
theorem items_of_list_of_escaped :
    splitList " a=\"x, \\\" ,\\\\\" , ,b ,".toList = some ["a=\"x, \\\" ,\\\\\"".toList, "b".toList] ∧
      splitList "a=\"x, \\\" ,\\\\\", b".toList = some ["a=\"x, \\\" ,\\\\\"".toList, "b".toList] := by
  have found : splitList " a=\"x, \\\" ,\\\\\" , ,b ,".toList
      = some ["a=\"x, \\\" ,\\\\\"".toList, "b".toList] := by decide +kernel
  exact ⟨found, ((items_of_list _).2.2 _ found).2⟩

end HttpClient.Auth
