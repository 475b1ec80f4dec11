/-
# Reading lists of parameters back

A parameter is written as a name, an equals sign and a value, the value as it is or
between quotes.  A text may stand between quotes if no comma in it comes to stand outside
of them and the quote behind it is the one that closes (`isQuotable`): a quote in it or a
backslash at its end may spoil that.

Parameters that are written so and joined by commas are read back one by one
(`parse_join`): a field that is `Whole` is one item of the list, whatever is written
behind it, and of a quoted value the reader gives back the text without its protecting
backslashes.  So a quoted value comes back as it was exactly if there is no backslash in
it (`unescape_eq_self_iff`).
-/
import HttpClient.Auth.Challenge
import HttpClient.Proofs.Text.Characters
import HttpClient.Proofs.Text.Trimming
import Mathlib.Data.List.Forall2

namespace HttpClient.Auth

open Text

/-! ## Texts between quotes -/

/-- A scan over the text separates nothing and is inside quotes in the end. -/
def endsInside (q : Quoting) : List Char → Bool
  | [] => q = .inside
  | c :: cs => !(q = .outside && c = ',') && endsInside (q.step c) cs

/-- The text can stand between quotes: it is inside them at its end, and at every comma in it. -/
def isQuotable (v : List Char) : Bool := endsInside .inside v

/-- The pieces of a list with more text in front. -/
def inFront (text : List Char) : List (List Char) → List (List Char)
  | [] => [text]
  | p :: ps => (text ++ p) :: ps

theorem inFront_inFront (a b : List Char) (ps : List (List Char)) :
    inFront a (inFront b ps) = inFront (a ++ b) ps := by
  cases ps with
  | nil => rfl
  | cons p ps => simp [inFront]

theorem scanList_ne_nil {q : Quoting} {cs : List Char} {ps : List (List Char)}
    (h : scanList q cs = some ps) : ps ≠ [] := by
  rintro rfl
  cases cs with
  | nil =>
      rw [scanList] at h
      split at h
      · cases h
      · cases h
  | cons c cs =>
      rw [scanList] at h
      split at h
      · cases found : scanList .outside cs with
        | none => simp [found] at h
        | some ps => simp [found] at h
      · cases found : scanList (q.step c) cs with
        | none => simp [found] at h
        | some ps => cases ps <;> simp [found] at h

theorem scanList_inFront_nil (q : Quoting) (cs : List Char) :
    (scanList q cs).map (inFront []) = scanList q cs := by
  cases found : scanList q cs with
  | none => rfl
  | some ps =>
      cases ps with
      | nil => exact absurd rfl (scanList_ne_nil found)
      | cons p ps => rfl

theorem scanList_cons {q : Quoting} {c : Char} (cs : List Char)
    (h : ¬ (q = .outside ∧ c = ',')) :
    scanList q (c :: cs) = (scanList (q.step c) cs).map (inFront [c]) := by
  have goesOn : (q = .outside && c = ',') = false := by simpa using h
  rw [scanList, goesOn]
  rfl

/-- What ends inside quotes belongs to one piece, together with what is behind it. -/
theorem scanList_of_endsInside {q : Quoting} {v : List Char} (h : endsInside q v = true)
    (rest : List Char) :
    scanList q (v ++ rest) = (scanList .inside rest).map (inFront v) := by
  induction v generalizing q with
  | nil =>
      have inside : q = .inside := of_decide_eq_true h
      rw [inside, scanList_inFront_nil]
      rfl
  | cons c cs ih =>
      obtain ⟨together, h⟩ := Bool.and_eq_true_iff.mp h
      have together : ¬ (q = .outside ∧ c = ',') := by
        rintro ⟨rfl, rfl⟩
        cases together
      rw [List.cons_append, scanList_cons _ together, ih h, Option.map_map]
      congr 1
      funext ps
      exact inFront_inFront [c] cs ps

theorem Quoting.step_ne_outside {q : Quoting} {c : Char} (opened : q ≠ .outside) (other : c ≠ '"') :
    q.step c ≠ .outside := by
  cases q with
  | outside => exact absurd rfl opened
  | inside =>
      by_cases escape : c = '\\'
      · simp [Quoting.step, escape]
      · simp [Quoting.step, escape, other]
  | escaped => simp [Quoting.step]

theorem scanList_of_unclosed {q : Quoting} {cs : List Char} (opened : q ≠ .outside)
    (h : '"' ∉ cs) : scanList q cs = none := by
  induction cs generalizing q with
  | nil => exact if_neg opened
  | cons c cs ih =>
      obtain ⟨noQuote, h⟩ := not_or.mp (mt List.mem_cons.mpr h)
      rw [scanList_cons cs fun separates => opened separates.1,
        ih (Quoting.step_ne_outside opened (Ne.symm noQuote)) h]
      rfl

theorem isQuotable_of_forall {v : List Char} (h : ∀ c ∈ v, c ≠ '"' ∧ c ≠ '\\') :
    isQuotable v = true := by
  unfold isQuotable
  induction v with
  | nil => rfl
  | cons c cs ih =>
      obtain ⟨⟨noQuote, noEscape⟩, h⟩ := List.forall_mem_cons.mp h
      have stays : Quoting.step .inside c = .inside := by simp [Quoting.step, noQuote, noEscape]
      rw [endsInside, stays, ih h]
      rfl

/-! ## Backslashes -/

theorem unescape_length_le (v : List Char) : (unescape v).length ≤ v.length := by
  induction v using unescape.induct with
  | case1 => exact Nat.le_refl _
  | case2 => exact Nat.zero_le _
  | case3 c cs ih =>
      simp only [unescape, List.length_cons]
      omega
  | case4 c cs _ _ ih =>
      rw [unescape]
      · simp only [List.length_cons]
        omega
      · assumption
      · assumption

/-- Reading a text between quotes changes it exactly if there is a backslash in it. -/
theorem unescape_eq_self_iff (v : List Char) : unescape v = v ↔ '\\' ∉ v := by
  induction v using unescape.induct with
  | case1 => simp [unescape]
  | case2 => simp [unescape]
  | case3 c cs _ =>
      -- a protecting backslash is lost, and nothing makes up for it
      have shorter := unescape_length_le cs
      constructor
      · intro same
        have lengths := congrArg List.length same
        simp only [unescape, List.length_cons] at lengths
        omega
      · intro hnone
        simp at hnone
  | case4 c cs noEnd noPair ih =>
      have other : c ≠ '\\' := by
        rintro rfl
        cases cs with
        | nil => exact noEnd rfl rfl
        | cons d ds => exact noPair d ds rfl rfl
      rw [unescape]
      · rw [List.cons_eq_cons, ih, List.mem_cons, not_or]
        exact ⟨fun h => ⟨other.symm, h.2⟩, fun h => ⟨rfl, h.2⟩⟩
      · assumption
      · assumption

/-! ## Items of a list -/

/-- Wherever the text stands outside quotes, it belongs to one item. -/
def Whole (text : List Char) : Prop :=
  ∀ rest, scanList .outside (text ++ rest) = (scanList .outside rest).map (inFront text)

theorem Whole.append {front text : List Char} (first : Whole front) (h : Whole text) :
    Whole (front ++ text) := by
  intro rest
  rw [List.append_assoc, first, h, Option.map_map]
  congr 1
  funext ps
  exact inFront_inFront front text ps

theorem whole_of_forall {text : List Char} (h : ∀ c ∈ text, c ≠ '"' ∧ c ≠ ',') : Whole text := by
  induction text with
  | nil => exact fun rest => (scanList_inFront_nil .outside rest).symm
  | cons c cs ih =>
      obtain ⟨⟨noQuote, noComma⟩, h⟩ := List.forall_mem_cons.mp h
      have single : Whole [c] := by
        intro rest
        show scanList .outside (c :: rest) = _
        rw [scanList_cons _ fun comma => noComma comma.2]
        simp [Quoting.step, noQuote]
      exact single.append (ih h)

theorem whole_quoted {v : List Char} (h : isQuotable v = true) : Whole ('"' :: (v ++ ['"'])) := by
  intro rest
  have closed : scanList .inside ('"' :: rest) = (scanList .outside rest).map (inFront ['"']) :=
    scanList_cons rest (by simp)
  show scanList .outside ('"' :: ((v ++ ['"']) ++ rest)) = _
  rw [scanList_cons _ (by simp), List.append_assoc]
  show (scanList .inside (v ++ '"' :: rest)).map _ = _
  rw [scanList_of_endsInside h, closed, Option.map_map, Option.map_map]
  congr 1
  funext ps
  simp only [Function.comp_apply, inFront_inFront]
  rfl

/-- The character begins no quoted text, separates nothing, and is no blank. -/
def isPlain (c : Char) : Bool := c ≠ '"' && c ≠ ',' && !isBlank c

theorem isPlain_iff (c : Char) :
    isPlain c = true ↔ c ≠ '"' ∧ c ≠ ',' ∧ isBlank c = false := by
  simp [isPlain, and_assoc]

theorem whole_of_plain {text : List Char} (plain : ∀ c ∈ text, isPlain c = true) : Whole text :=
  whole_of_forall fun c there =>
    have here := (isPlain_iff c).mp (plain c there)
    ⟨here.1, here.2.1⟩

/-! ## Lists of items -/

theorem scanList_comma {f : List Char} (h : Whole f) (rest : List Char) :
    scanList .outside (f ++ ',' :: rest) = (scanList .outside rest).map (f :: ·) := by
  have separated : scanList .outside (',' :: rest) = (scanList .outside rest).map ([] :: ·) := rfl
  rw [h, separated, Option.map_map]
  congr 1
  funext ps
  simp [inFront]

/-- The items in front of others, which may be malformed. By induction over those in front. -/
theorem scanList_commas {front : List (List Char)} (h : ∀ f ∈ front, Whole f)
    {others : List (List Char)} (hne : others ≠ []) :
    scanList .outside ([','].intercalate (front ++ others)) =
      (scanList .outside ([','].intercalate others)).map (front ++ ·) := by
  induction front with
  | nil => simp
  | cons f fs ih =>
      obtain ⟨whole, later⟩ := List.forall_mem_cons.mp h
      obtain ⟨g, gs, behind⟩ :=
        List.exists_cons_of_ne_nil (List.append_ne_nil_of_right_ne_nil fs hne)
      have joined : [','].intercalate (f :: fs ++ others) =
          f ++ ',' :: [','].intercalate (fs ++ others) := by
        rw [List.cons_append, behind, List.intercalate_cons_cons]
        simp
      rw [joined, scanList_comma whole, ih later, Option.map_map]
      rfl

/-- The items of a list are trimmed, and blank ones are dropped. -/
theorem splitList_commas {items : List (List Char)} (hne : items ≠ [])
    (h : ∀ f ∈ items, Whole f) :
    splitList ([','].intercalate items) = some ((items.map trim).filter (· ≠ [])) := by
  obtain ⟨front, last, rfl⟩ := (List.eq_nil_or_concat items).resolve_left hne
  rw [List.concat_eq_append] at h ⊢
  obtain ⟨before, here⟩ := List.forall_mem_append.mp h
  have alone : scanList .outside last = some [last] := by
    simpa [scanList, inFront] using here last (List.mem_singleton_self last) []
  rw [splitList, scanList_commas before (List.cons_ne_nil _ _), List.intercalate_singleton, alone]
  rfl

theorem intercalate_cons (sep : List Char) (c : Char) (f : List Char) (fs : List (List Char)) :
    sep.intercalate ((c :: f) :: fs) = c :: sep.intercalate (f :: fs) := by
  cases fs with
  | nil => rfl
  | cons g gs => simp [List.intercalate_cons_cons]

theorem intercalate_spaced (first : List Char) (others : List (List Char)) :
    ", ".toList.intercalate (first :: others) =
      [','].intercalate (first :: others.map (' ' :: ·)) := by
  induction others generalizing first with
  | nil => rfl
  | cons second rest ih =>
      rw [List.map_cons, List.intercalate_cons_cons, List.intercalate_cons_cons, intercalate_cons,
        ih second]
      simp

theorem splitList_join {fields : List (List Char)} (hne : fields ≠ [])
    (whole : ∀ f ∈ fields, Whole f) (trimmed : ∀ f ∈ fields, Trimmed f) :
    splitList (", ".toList.intercalate fields) = some fields := by
  cases fields with
  | nil => exact absurd rfl hne
  | cons first others =>
      obtain ⟨here, later⟩ := List.forall_mem_cons.mp whole
      have spaced : ∀ f ∈ first :: others.map (' ' :: ·), Whole f := by
        refine List.forall_mem_cons.mpr ⟨here, fun f there => ?_⟩
        obtain ⟨f', there', rfl⟩ := List.mem_map.mp there
        have space : Whole [' '] := whole_of_forall (List.forall_mem_singleton.mpr (by decide))
        exact space.append (later f' there')
      have same : (first :: others.map (' ' :: ·)).map trim = first :: others := by
        obtain ⟨here, later⟩ := List.forall_mem_cons.mp trimmed
        rw [List.map_cons, here.trim_eq, List.map_map]
        congr 1
        refine (List.map_congr_left fun f there => ?_).trans (List.map_id others)
        exact (trim_space f).trans (later f there).trim_eq
      rw [intercalate_spaced, splitList_commas (List.cons_ne_nil _ _) spaced, same,
        List.filter_eq_self.mpr]
      intro f there
      exact decide_eq_true (trimmed f there).ne_nil

/-! ## Parameters -/

theorem trimmed_quoted (v : List Char) : Trimmed ('"' :: (v ++ ['"'])) where
  first := ⟨'"', rfl, by decide⟩
  last := by
    refine ⟨'"', ?_, by decide⟩
    rw [← List.cons_append, List.getLast?_append]
    rfl

theorem unquote_quoted (v : List Char) : unquote ('"' :: (v ++ ['"'])) = unescape v := by
  unfold unquote
  rw [(trimmed_quoted v).trim_eq]
  simp [betweenQuotes?]

theorem trimmed_of_plain {v : List Char} (hne : v ≠ []) (plain : ∀ c ∈ v, isPlain c = true) :
    Trimmed v := by
  constructor
  · obtain ⟨c, there⟩ := Option.ne_none_iff_exists'.mp (mt List.head?_eq_none_iff.mp hne)
    exact ⟨c, there, ((isPlain_iff c).mp (plain c (List.mem_of_head? there))).2.2⟩
  · obtain ⟨c, there⟩ := Option.ne_none_iff_exists'.mp (mt List.getLast?_eq_none_iff.mp hne)
    exact ⟨c, there, ((isPlain_iff c).mp (plain c (List.mem_of_getLast? there))).2.2⟩

theorem unquote_plain {v : List Char} (hne : v ≠ []) (plain : ∀ c ∈ v, isPlain c = true) :
    unquote v = v := by
  unfold unquote
  rw [(trimmed_of_plain hne plain).trim_eq]
  cases v with
  | nil => rfl
  | cons c cs =>
      have noQuote := ((isPlain_iff c).mp (plain c List.mem_cons_self)).1
      have hnone : betweenQuotes? (c :: cs) = none := by
        unfold betweenQuotes?
        split
        · rename_i same
          cases same
          exact absurd rfl noQuote
        · rfl
      simp only [hnone]

/-- A name that parameters are written under: lower case letters, at least one. -/
def isName (name : String) : Bool := name.toList ≠ [] && name.toList.all (·.isLower)

theorem isPlain_of_isLower {c : Char} (h : c.isLower = true) : isPlain c = true ∧ c ≠ '=' := by
  have range := (isLower_iff c).mp h
  refine ⟨(isPlain_iff c).mpr ⟨?_, ?_, ?_⟩, ?_⟩
  · rintro rfl
    revert range
    decide
  · rintro rfl
    revert range
    decide
  · simp only [isBlank, Bool.or_eq_false_iff, Bool.and_eq_false_iff, decide_eq_false_iff_not]
    omega
  · rintro rfl
    revert range
    decide

theorem toLower_of_isLower {c : Char} (h : c.isLower = true) : c.toLower = c := by
  have range := (isLower_iff c).mp h
  have high : ¬ (c.val ≥ 'A'.val ∧ c.val ≤ 'Z'.val) := by
    rintro ⟨-, low⟩
    have low : c.toNat ≤ 90 := low
    omega
  unfold Char.toLower
  rw [dif_neg high]

/-- A field that is read as a parameter, wherever it stands in a list. -/
structure Reads (field : String) (p : Challenge.Parameter) : Prop where
  whole : Whole field.toList
  trimmed : Trimmed field.toList
  read : Challenge.parameter field.toList = .ok p

theorem reads_field {name : String} {value : List Char} (hne : name.toList ≠ [])
    (plain : ∀ c ∈ name.toList, isPlain c = true) (noEquals : '=' ∉ name.toList)
    (whole : Whole value) (last : ∃ c, value.getLast? = some c ∧ isBlank c = false) :
    Reads (name ++ "=" ++ String.ofList value) (lower name, String.ofList (unquote value)) := by
  have text : (name ++ "=" ++ String.ofList value).toList = name.toList ++ '=' :: value := by
    simp
  refine ⟨?_, ⟨?_, ?_⟩, ?_⟩
  · have equals : Whole ['='] := whole_of_forall (List.forall_mem_singleton.mpr (by decide))
    rw [text]
    exact (whole_of_plain plain).append (equals.append whole)
  · obtain ⟨c, first, notBlank⟩ := (trimmed_of_plain hne plain).first
    rw [text]
    refine ⟨c, ?_, notBlank⟩
    rw [List.head?_append, first]
    rfl
  · obtain ⟨c, there, notBlank⟩ := last
    rw [text]
    refine ⟨c, ?_, notBlank⟩
    rw [List.getLast?_append, List.getLast?_cons, there]
    rfl
  · rw [text, Challenge.parameter, cut_of_not_mem value noEquals]
    show Except.ok (lower (String.ofList (trim name.toList)), _) = _
    rw [(trimmed_of_plain hne plain).trim_eq, String.ofList_toList]

theorem name_plain {name : String} (named : isName name = true) :
    name.toList ≠ [] ∧ (∀ c ∈ name.toList, isPlain c = true) ∧ '=' ∉ name.toList ∧
      lower name = name := by
  obtain ⟨hne, letters⟩ := Bool.and_eq_true_iff.mp named
  have letters : ∀ c ∈ name.toList, c.isLower = true := List.all_eq_true.mp letters
  refine ⟨of_decide_eq_true hne, fun c there => (isPlain_of_isLower (letters c there)).1,
    fun there => (isPlain_of_isLower (letters _ there)).2 rfl, ?_⟩
  rw [lower, List.map_congr_left fun c there => toLower_of_isLower (letters c there)]
  simp

/-- Of a value between quotes the protecting backslashes are lost. -/
theorem reads_quoted {name v : String} (named : isName name = true)
    (quotable : isQuotable v.toList = true) :
    Reads (name ++ "=\"" ++ v ++ "\"") (name, String.ofList (unescape v.toList)) := by
  have text : name ++ "=\"" ++ v ++ "\"" =
      name ++ "=" ++ String.ofList ('"' :: (v.toList ++ ['"'])) := by
    rw [← String.toList_inj]
    simp
  obtain ⟨hne, plain, noEquals, lowered⟩ := name_plain named
  have read := reads_field hne plain noEquals (whole_quoted quotable)
    (trimmed_quoted v.toList).last
  rwa [lowered, unquote_quoted, ← text] at read

theorem reads_plain {name v : String} (named : isName name = true) (hne : v.toList ≠ [])
    (plain : ∀ c ∈ v.toList, isPlain c = true) : Reads (name ++ "=" ++ v) (name, v) := by
  obtain ⟨someName, plainName, noEquals, lowered⟩ := name_plain named
  have read := reads_field someName plainName noEquals (whole_of_plain plain)
    (trimmed_of_plain hne plain).last
  rwa [lowered, unquote_plain hne plain, String.ofList_toList] at read

/-! ## Blanks at the end -/

/-- The pieces of a list with more text behind. -/
def inBack (text : List Char) : List (List Char) → List (List Char)
  | [] => []
  | [p] => [p ++ text]
  | p :: q :: ps => p :: inBack text (q :: ps)

theorem inBack_cons {text : List Char} (p : List Char) {ps : List (List Char)} (hne : ps ≠ []) :
    inBack text (p :: ps) = p :: inBack text ps := by
  cases ps with
  | nil => exact absurd rfl hne
  | cons q ps => rfl

theorem inFront_inBack {front text : List Char} {ps : List (List Char)} (hne : ps ≠ []) :
    inFront front (inBack text ps) = inBack text (inFront front ps) := by
  cases ps with
  | nil => exact absurd rfl hne
  | cons p ps =>
      cases ps with
      | nil => simp [inBack, inFront]
      | cons q ps => rfl

/-- Blanks at the end close nothing: they belong to the last piece. By induction over the text in
front of them. -/
theorem scanList_blanks {blanks : List Char} (h : ∀ c ∈ blanks, isBlank c = true) (q : Quoting)
    (cs : List Char) : scanList q (cs ++ blanks) = (scanList q cs).map (inBack blanks) := by
  have ordinary : ∀ c ∈ blanks, c ≠ '"' ∧ c ≠ ',' := by
    intro c there
    constructor <;> (rintro rfl; exact absurd (h _ there) (by decide))
  induction cs generalizing q with
  | nil =>
      by_cases outside : q = .outside
      · subst outside
        have alone := whole_of_forall ordinary []
        rw [List.append_nil] at alone
        rw [List.nil_append, alone]
        simp [scanList, inFront, inBack]
      · have unclosed : '"' ∉ blanks := fun there => (ordinary _ there).1 rfl
        rw [List.nil_append, scanList_of_unclosed outside unclosed,
          scanList_of_unclosed outside List.not_mem_nil]
        rfl
  | cons c cs ih =>
      by_cases separates : q = .outside ∧ c = ','
      · obtain ⟨rfl, rfl⟩ := separates
        show (scanList .outside (cs ++ blanks)).map ([] :: ·) =
          ((scanList .outside cs).map ([] :: ·)).map (inBack blanks)
        rw [ih]
        cases found : scanList .outside cs with
        | none => rfl
        | some ps => simp [inBack_cons _ (scanList_ne_nil found)]
      · rw [List.cons_append, scanList_cons _ separates, scanList_cons _ separates, ih]
        cases found : scanList (q.step c) cs with
        | none => rfl
        | some ps => simp [inFront_inBack (scanList_ne_nil found)]

theorem map_trim_inBack {blanks : List Char} (h : ∀ c ∈ blanks, isBlank c = true)
    (ps : List (List Char)) : (inBack blanks ps).map trim = ps.map trim := by
  induction ps with
  | nil => rfl
  | cons p ps ih =>
      cases ps with
      | nil => simpa [inBack] using @trim_padded [] blanks (by simp) p h
      | cons q ps => rw [inBack_cons p (List.cons_ne_nil q ps), List.map_cons, ih, ← List.map_cons]

theorem splitList_dropEnd (cs : List Char) : splitList (dropEnd isBlank cs) = splitList cs := by
  obtain ⟨blanks, parts, blank⟩ := exists_dropEnd isBlank cs
  conv_rhs => rw [parts, splitList, scanList_blanks blank, Option.map_map]
  rw [splitList]
  congr 1
  funext ps
  rw [Function.comp_apply, map_trim_inBack blank]

theorem word_not_blank {word : String} (h : sameLetters word "digest" = true) :
    word.toList ≠ [] ∧ ∀ c ∈ word.toList, isBlank c = false := by
  have letters : word.toList.map Char.toLower = "digest".toList := by
    have same : lower word = lower "digest" := eq_of_beq h
    have spelled := congrArg String.toList same
    rwa [lower, String.toList_ofList] at spelled
  constructor
  · intro hnil
    rw [hnil] at letters
    cases letters
  · intro c there
    by_contra blank
    have blank : isBlank c = true := eq_true_of_ne_false blank
    -- no blank has a case, and none is a letter of the word
    have same : c.toLower = c := by
      have low : ¬ (c.val ≥ 'A'.val ∧ c.val ≤ 'Z'.val) := by
        rintro ⟨least, most⟩
        have least : 65 ≤ c.toNat := least
        have most : c.toNat ≤ 90 := most
        simp only [isBlank, Bool.or_eq_true, Bool.and_eq_true, decide_eq_true_eq] at blank
        omega
      unfold Char.toLower
      rw [dif_neg low]
    have letter : c ∈ "digest".toList := by
      rw [← letters, ← same]
      exact List.mem_map_of_mem there
    have hnil : "digest".toList.all (!isBlank ·) = true := by decide
    have plain := List.all_eq_true.mp hnil c letter
    rw [blank] at plain
    cases plain

/-- A list behind the word, its letters in any case, is read as the list that it is. -/
theorem parse_of_word {word : String} (h : sameLetters word "digest" = true) (body : List Char) :
    Challenge.parse (word ++ " " ++ String.ofList body) =
      (splitList body).elim (.error .unbalancedQuotes) fun items =>
        (items.mapM Challenge.parameter).bind Challenge.ofParameters := by
  obtain ⟨hne, noBlank⟩ := word_not_blank h
  have noSpace : ' ' ∉ word.toList := fun there => absurd (noBlank _ there) (by decide)
  have text : (word ++ " " ++ String.ofList body).toList = word.toList ++ [' '] ++ body := by
    simp
  have front : (word.toList ++ [' '] ++ body).dropWhile isBlank = word.toList ++ [' '] ++ body := by
    obtain ⟨c, cs, letters⟩ := List.exists_cons_of_ne_nil hne
    refine dropWhile_of_head? ⟨c, ?_, noBlank c ?_⟩
    · rw [letters]
      rfl
    · rw [letters]
      exact List.mem_cons_self
  have alone : dropEnd isBlank (word.toList ++ [' ']) = word.toList := by
    rw [dropEnd_append, if_pos (dropEnd_of_forall (List.forall_mem_singleton.mpr (by decide)))]
    obtain ⟨c, last⟩ := Option.ne_none_iff_exists'.mp (mt List.getLast?_eq_none_iff.mp hne)
    exact dropEnd_of_getLast? ⟨c, last, noBlank c (List.mem_of_getLast? last)⟩
  have parts : (cut ' ' (trim (word ++ " " ++ String.ofList body).toList)).getD
      (trim (word ++ " " ++ String.ofList body).toList, []) =
        (word.toList, dropEnd isBlank body) := by
    rw [text, trim, strip, front, dropEnd_append]
    split
    · rename_i blank
      rw [alone, cut_eq_none noSpace, blank]
      rfl
    · rw [List.append_assoc]
      show (cut ' ' (word.toList ++ ' ' :: dropEnd isBlank body)).getD _ = _
      rw [cut_of_not_mem _ noSpace]
      rfl
  simp only [Challenge.parse, parts, String.ofList_toList, h, if_true, splitList_dropEnd]
  cases splitList body <;> rfl

/-! ## Whole lists -/

theorem mapM_parameter {fields : List String} {ps : List Challenge.Parameter}
    (h : List.Forall₂ Reads fields ps) :
    (fields.map String.toList).mapM Challenge.parameter = .ok ps := by
  induction h with
  | nil => rfl
  | cons reads _ ih =>
      rw [List.map_cons, List.mapM_cons, reads.read, ih]
      rfl

theorem whole_of_reads {fields : List String} {ps : List Challenge.Parameter}
    (h : List.Forall₂ Reads fields ps) :
    ∀ f ∈ fields.map String.toList, Whole f ∧ Trimmed f := by
  induction h with
  | nil => exact fun _ there => absurd there List.not_mem_nil
  | cons reads _ ih =>
      rw [List.map_cons]
      exact List.forall_mem_cons.mpr ⟨⟨reads.whole, reads.trimmed⟩, ih⟩

theorem parse_join {fields : List String} {ps : List Challenge.Parameter}
    (h : List.Forall₂ Reads fields ps) (hne : fields ≠ []) :
    Challenge.parse ("Digest " ++ join ", " fields) = Challenge.ofParameters ps := by
  have each := whole_of_reads h
  have hne : fields.map String.toList ≠ [] := mt List.map_eq_nil_iff.mp hne
  have text : "Digest " ++ join ", " fields =
      "Digest" ++ " " ++ String.ofList (", ".toList.intercalate (fields.map String.toList)) := by
    rw [← String.toList_inj, String.toList_append, join, String.toList_intercalate]
    simp
  have items := splitList_join hne (fun f there => (each f there).1) fun f there =>
    (each f there).2
  rw [text, parse_of_word (by decide), items, Option.elim_some, mapM_parameter h]
  rfl

end HttpClient.Auth
