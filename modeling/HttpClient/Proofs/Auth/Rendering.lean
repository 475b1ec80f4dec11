/-
# Challenges written down and read

A challenge is written as fields between commas, a name, an equals sign and a value each, in any
order and with blanks around them; there may be empty fields, and fields of other names.  A value is
a token, or it stands between quotes with a backslash in front of every quote and backslash in it
(`escape`).  So it may hold anything, a comma or a quote too, and is read as it was.

The reader takes the fields apart where the writer put them together: a field is whole wherever it
stands (`reads_written`), its blanks are trimmed, and empty ones are dropped (`splitList_written`).
Without the last closing quote the scan is inside quotes at the end, and nothing is read
(`splitList_unclosed`).
-/
import HttpClient.Proofs.Auth.QuotedList

namespace HttpClient.Auth.Rendering

open Text

/-! ## What is written -/

/-- The text with a backslash in front of every quote and backslash. -/
def escape (cs : List Char) : List Char :=
  cs.flatMap fun c => if c = '"' ∨ c = '\\' then ['\\', c] else [c]

/-- A text that can stand without quotes. -/
structure Token where
  text : String
  isToken : text ≠ "" ∧ text.toList.all isTokenChar = true

/-- A value, and how it is written. -/
inductive Value where
  | quoted (text : String)
  | bare (token : Token)

def Value.text : Value → String
  | .quoted s => s
  | .bare t => t.text

structure Field where
  name : Token
  value : Value

namespace Field

/-- A field with a value between quotes, up to the closing one. -/
def unclosed (name : Token) (s : String) : String :=
  name.text ++ "=\"" ++ String.ofList (escape s.toList)

def written : Field → String
  | ⟨name, .quoted s⟩ => unclosed name s ++ "\""
  | ⟨name, .bare t⟩ => name.text ++ "=" ++ t.text

def parameter (f : Field) : Challenge.Parameter := (lower f.name.text, f.value.text)

end Field

/-- What is between two commas: a field or nothing, with blanks around it. -/
structure Piece where
  before : { s : String // s.toList.all isBlank = true }
  field : Option Field
  after : { s : String // s.toList.all isBlank = true }

namespace Piece

def around (p : Piece) (s : String) : String := p.before.val ++ s ++ p.after.val

def written (p : Piece) : String := p.around (p.field.elim "" Field.written)

/-- There is no value between quotes in the piece. -/
def Bare (p : Piece) : Prop := ∀ name s, p.field ≠ some ⟨name, .quoted s⟩

end Piece

def write (word : String) (pieces : List String) : String := word ++ " " ++ join "," pieces

def fields (pieces : List Piece) : List Field := pieces.filterMap (·.field)

/-- The values that are written under a name, its letters in any case. -/
def valuesOf (name : String) (pieces : List Piece) : List String :=
  ((fields pieces).filter fun f => lower f.name.text = name).map (·.value.text)

/-- The pieces spell these values, each once; what is written under other names does not matter. -/
structure Spells (pieces : List Piece) (realm nonce : String)
    (opaqueText qop algorithm : Option String) : Prop where
  realm : valuesOf "realm" pieces = [realm]
  nonce : valuesOf "nonce" pieces = [nonce]
  opaqueText : valuesOf "opaque" pieces = opaqueText.toList
  qop : valuesOf "qop" pieces = qop.toList
  algorithm : valuesOf "algorithm" pieces = algorithm.toList

/-- Whatever the values are, they can be written down. -/
theorem exists_spells (realm nonce : String) (opaqueText qop algorithm : Option String) :
    ∃ pieces, Spells pieces realm nonce opaqueText qop algorithm := by
  let quoted (name : Token) (s : String) : Piece :=
    ⟨⟨"", rfl⟩, some ⟨name, .quoted s⟩, ⟨"", rfl⟩⟩
  refine ⟨quoted ⟨"realm", by decide⟩ realm :: quoted ⟨"nonce", by decide⟩ nonce ::
    (opaqueText.toList.map (quoted ⟨"opaque", by decide⟩) ++
      qop.toList.map (quoted ⟨"qop", by decide⟩) ++
      algorithm.toList.map (quoted ⟨"algorithm", by decide⟩)), ?_⟩
  have names : ∀ s ∈ ["realm", "nonce", "opaque", "qop", "algorithm"], lower s = s := by
    decide +kernel
  simp only [List.forall_mem_cons] at names
  obtain ⟨realm', nonce', opaque', qop', algorithm', -⟩ := names
  constructor <;> cases opaqueText <;> cases qop <;> cases algorithm <;>
    simp [valuesOf, fields, quoted, realm', nonce', opaque', qop', algorithm', Value.text]

/-! ## Protected characters -/

theorem escape_cons (c : Char) (cs : List Char) :
    escape (c :: cs) = (if c = '"' ∨ c = '\\' then ['\\', c] else [c]) ++ escape cs :=
  List.flatMap_cons

theorem unescape_escape (cs : List Char) : unescape (escape cs) = cs := by
  induction cs with
  | nil => rfl
  | cons c cs ih =>
      rw [escape_cons]
      split
      · rw [List.cons_append, List.cons_append, List.nil_append, unescape, ih]
      · rename_i ordinary
        rw [List.cons_append, List.nil_append, unescape, ih]
        · rintro rfl
          exact absurd (.inr rfl) ordinary
        · rintro d ds rfl
          exact absurd (.inr rfl) ordinary

theorem isQuotable_escape (cs : List Char) : isQuotable (escape cs) = true := by
  unfold isQuotable
  induction cs with
  | nil => rfl
  | cons c cs ih =>
      rw [escape_cons]
      split
      · exact ih
      · rename_i ordinary
        obtain ⟨noQuote, noEscape⟩ := not_or.mp ordinary
        have stays : Quoting.step .inside c = .inside := by simp [Quoting.step, noQuote, noEscape]
        rw [List.cons_append, List.nil_append, endsInside, stays, ih]
        rfl

/-! ## Tokens and blanks -/

theorem token_char {c : Char} (h : isTokenChar c = true) : isPlain c = true ∧ c ≠ '=' := by
  have punctuation : "!#$%&'*+-.^_`|~".toList.all (fun d => isPlain d && d ≠ '=') = true := by
    decide
  rcases Bool.or_eq_true_iff.mp h with letter | there
  · have range := alphanum_range letter
    have other {d : Char} (out : ¬ ((65 ≤ d.toNat ∧ d.toNat ≤ 90) ∨
        (97 ≤ d.toNat ∧ d.toNat ≤ 122) ∨ (48 ≤ d.toNat ∧ d.toNat ≤ 57))) : c ≠ d := by
      rintro rfl
      exact out range
    refine ⟨(isPlain_iff c).mpr ⟨other (by decide), other (by decide), ?_⟩, other (by decide)⟩
    simp only [isBlank, Bool.or_eq_false_iff, Bool.and_eq_false_iff, decide_eq_false_iff_not]
    omega
  · have both := List.all_eq_true.mp punctuation c (List.contains_iff_mem.mp there)
    simpa using both

namespace Token

variable (t : Token)

theorem ne_nil : t.text.toList ≠ [] := mt String.toList_eq_nil_iff.mp t.isToken.1

theorem plain : ∀ c ∈ t.text.toList, isPlain c = true :=
  fun c there => (token_char (List.all_eq_true.mp t.isToken.2 c there)).1

theorem no_equals : '=' ∉ t.text.toList :=
  fun there => (token_char (List.all_eq_true.mp t.isToken.2 _ there)).2 rfl

theorem no_quote : '"' ∉ t.text.toList :=
  fun there => ((isPlain_iff _).mp (t.plain _ there)).1 rfl

end Token

/-! ## Fields -/

/-- A field is read as the parameter that it stands for. -/
theorem reads_written (f : Field) : Reads f.written f.parameter := by
  obtain ⟨name, s | t⟩ := f
  · have text : Field.written ⟨name, .quoted s⟩ =
        name.text ++ "=" ++ String.ofList ('"' :: (escape s.toList ++ ['"'])) := by
      rw [← String.toList_inj]
      simp [Field.written, Field.unclosed]
    have read := reads_field name.ne_nil name.plain name.no_equals
      (whole_quoted (isQuotable_escape s.toList)) (trimmed_quoted (escape s.toList)).last
    rwa [unquote_quoted, unescape_escape, String.ofList_toList, ← text] at read
  · have read := reads_field name.ne_nil name.plain name.no_equals (whole_of_plain t.plain)
      (trimmed_of_plain t.ne_nil t.plain).last
    rwa [unquote_plain t.ne_nil t.plain, String.ofList_toList] at read

theorem forall_blank (b : { s : String // s.toList.all isBlank = true }) :
    ∀ c ∈ b.val.toList, isBlank c = true := List.all_eq_true.mp b.property

theorem not_separating {c : Char} (h : isBlank c = true) : c ≠ '"' ∧ c ≠ ',' := by
  constructor
  · rintro rfl
    exact absurd h (by decide)
  · rintro rfl
    exact absurd h (by decide)

namespace Piece

theorem whole (p : Piece) : Whole p.written.toList := by
  have text : Whole (p.field.elim "" Field.written).toList := by
    cases p.field with
    | none => exact whole_of_forall fun _ h => absurd h List.not_mem_nil
    | some f => exact (reads_written f).whole
  rw [written, around, String.toList_append, String.toList_append]
  exact ((whole_of_forall fun c there => not_separating (forall_blank p.before c there)).append
    text).append (whole_of_forall fun c there => not_separating (forall_blank p.after c there))

theorem trim_written (p : Piece) :
    trim p.written.toList = (p.field.elim "" Field.written).toList := by
  rw [written, around, String.toList_append, String.toList_append,
    trim_padded (forall_blank p.before) _ (forall_blank p.after)]
  cases p.field with
  | none => rfl
  | some f => exact (reads_written f).trimmed.trim_eq

end Piece

/-! ## Lists of pieces -/

theorem whole_of_mem {pieces : List Piece} :
    ∀ f ∈ (pieces.map Piece.written).map String.toList, Whole f := by
  intro f there
  obtain ⟨s, among, rfl⟩ := List.mem_map.mp there
  obtain ⟨p, -, rfl⟩ := List.mem_map.mp among
  exact p.whole

theorem splitList_written (pieces : List Piece) :
    splitList ([','].intercalate ((pieces.map Piece.written).map String.toList)) =
      some (((fields pieces).map Field.written).map String.toList) := by
  have items : (((pieces.map Piece.written).map String.toList).map trim).filter (· ≠ []) =
      ((fields pieces).map Field.written).map String.toList := by
    induction pieces with
    | nil => rfl
    | cons p ps ih =>
        simp only [List.map_cons, p.trim_written]
        cases there : p.field with
        | none => simpa [fields, there] using ih
        | some f =>
            have hne : f.written ≠ "" :=
              mt String.toList_eq_nil_iff.mpr (reads_written f).trimmed.ne_nil
            simpa [fields, there, List.filter_cons, hne] using ih
  cases pieces with
  | nil => rfl
  | cons p ps => rw [splitList_commas (by simp) whole_of_mem, items]

theorem parse_write_of_splitList {word : String} (h : sameLetters word "digest" = true)
    (items : List String) :
    Challenge.parse (write word items) =
      (splitList ([','].intercalate (items.map String.toList))).elim (.error .unbalancedQuotes)
        fun fields => (fields.mapM Challenge.parameter).bind Challenge.ofParameters := by
  have text : write word items =
      word ++ " " ++ String.ofList ([','].intercalate (items.map String.toList)) := by
    rw [← String.toList_inj, write, join]
    simp
  rw [text, parse_of_word h]

/-- A list is read as the parameters that its fields stand for. -/
theorem parse_write {word : String} (h : sameLetters word "digest" = true) (pieces : List Piece) :
    Challenge.parse (write word (pieces.map Piece.written)) =
      Challenge.ofParameters ((fields pieces).map Field.parameter) := by
  have reads : List.Forall₂ Reads ((fields pieces).map Field.written)
      ((fields pieces).map Field.parameter) := by
    rw [List.forall₂_map_left_iff, List.forall₂_map_right_iff, List.forall₂_same]
    exact fun f _ => reads_written f
  rw [parse_write_of_splitList h, splitList_written, Option.elim_some, mapM_parameter reads]
  rfl

theorem last?_parameters (name : String) (pieces : List Piece) :
    Challenge.last? name ((fields pieces).map Field.parameter) =
      (valuesOf name pieces).getLast? := by
  rw [Challenge.last?, valuesOf, List.filter_map, List.map_map]
  rfl

theorem getLast?_toList {α : Type} (o : Option α) : o.toList.getLast? = o := by
  cases o <;> rfl

/-! ## Without the closing quote -/

theorem intercalate_eq_append (f : List Char) (fs : List (List Char)) :
    [','].intercalate (f :: fs) = f ++ fs.flatMap (',' :: ·) := by
  induction fs generalizing f with
  | nil => simp
  | cons g gs ih =>
      rw [List.intercalate_cons_cons, ih]
      simp

theorem Piece.Bare.no_quote {p : Piece} (h : p.Bare) : '"' ∉ p.written.toList := by
  have blank (b : { s : String // s.toList.all isBlank = true }) : '"' ∉ b.val.toList :=
    fun there => (not_separating (forall_blank b _ there)).1 rfl
  have field : '"' ∉ (p.field.elim "" Field.written).toList := by
    cases there : p.field with
    | none => exact List.not_mem_nil
    | some f =>
        obtain ⟨name, s | t⟩ := f
        · exact absurd there (h name s)
        · simp [Field.written, name.no_quote, t.no_quote]
  rw [written, around, String.toList_append, String.toList_append, List.mem_append,
    List.mem_append, not_or, not_or]
  exact ⟨⟨blank p.before, field⟩, blank p.after⟩

/-- Where no quote closes the last quoted value, the list is malformed. -/
theorem splitList_unclosed {front back : List Piece} (p : Piece) (name : Token) (s : String)
    (bare : ∀ q ∈ back, q.Bare) :
    splitList ([','].intercalate ((front.map Piece.written ++
      p.around (Field.unclosed name s) :: back.map Piece.written).map String.toList)) = none := by
  -- the opening quote, and what is in front of it and behind it
  have parts : (p.around (Field.unclosed name s)).toList =
      (p.before.val.toList ++ name.text.toList ++ ['=']) ++
        '"' :: (escape s.toList ++ p.after.val.toList) := by
    simp [Piece.around, Field.unclosed]
  have opening : Whole (p.before.val.toList ++ name.text.toList ++ ['=']) := by
    refine ((whole_of_forall fun c there => ?_).append (whole_of_plain name.plain)).append
      (whole_of_forall (List.forall_mem_singleton.mpr (by decide)))
    exact not_separating (forall_blank p.before c there)
  have unclosed : '"' ∉ p.after.val.toList ++
      ((back.map Piece.written).map String.toList).flatMap (',' :: ·) := by
    intro there
    rcases List.mem_append.mp there with there | there
    · exact (not_separating (forall_blank p.after _ there)).1 rfl
    · obtain ⟨cs, among, there⟩ := List.mem_flatMap.mp there
      obtain ⟨text, among', rfl⟩ := List.mem_map.mp among
      obtain ⟨q, later, rfl⟩ := List.mem_map.mp among'
      rcases List.mem_cons.mp there with comma | there
      · cases comma
      · exact (bare q later).no_quote there
  have malformed : scanList .outside ([','].intercalate ((p.around (Field.unclosed name s)).toList ::
      (back.map Piece.written).map String.toList)) = none := by
    have inside : Quoting.outside.step '"' = .inside := rfl
    rw [intercalate_eq_append, parts, List.append_assoc, opening, List.cons_append,
      List.append_assoc (escape _), scanList_cons _ (by simp), inside,
      scanList_of_endsInside (isQuotable_escape s.toList), scanList_of_unclosed (by simp) unclosed]
    rfl
  rw [splitList, List.map_append, List.map_cons, scanList_commas whole_of_mem (List.cons_ne_nil _ _),
    malformed]
  rfl

/-! ## Reading is the inverse of writing -/

/-- Whatever the values are, and however they are written down, they are read as they were; the
algorithm is MD5 if none is written.  Without the closing quote of the last value between quotes
nothing is read. -/
theorem parse_inverts_rendering {word : String} {pieces : List Piece} {realm nonce : String}
    {opaqueText qop algorithm : Option String} (cased : sameLetters word "digest" = true)
    (spelled : Spells pieces realm nonce opaqueText qop algorithm) :
    Challenge.parse (write word (pieces.map Piece.written)) =
        .ok ⟨realm, nonce, opaqueText, qop, algorithm.getD "MD5"⟩ ∧
      ∀ front p back name s, pieces = front ++ p :: back → p.field = some ⟨name, .quoted s⟩ →
        (∀ q ∈ back, q.Bare) →
        (Challenge.parse (write word (front.map Piece.written ++
          p.around (Field.unclosed name s) :: back.map Piece.written))).mapError
            ChallengeFault.error =
          .error (.protocol "malformed digest challenge: unbalanced quotes") := by
  constructor
  · rw [parse_write cased, Challenge.ofParameters]
    simp only [last?_parameters, spelled.realm, spelled.nonce, spelled.opaqueText, spelled.qop,
      spelled.algorithm, getLast?_toList]
    rfl
  · rintro front p back name s - - bare
    rw [parse_write_of_splitList cased, splitList_unclosed p name s bare]
    rfl

/-- A field with an empty value between quotes. -/
def awkwardRealm : Piece :=
  ⟨⟨"", rfl⟩, some ⟨⟨"realm", by decide⟩, .quoted ""⟩, ⟨" ", rfl⟩⟩

/-- What stands in front of it: quotes and backslashes in a value, nothing, and another name. -/
def awkwardFront : List Piece :=
  [⟨⟨"", rfl⟩, some ⟨⟨"NONCE", by decide⟩, .quoted "a,\"b\\"⟩, ⟨" ", rfl⟩⟩,
    ⟨⟨" ", rfl⟩, none, ⟨"", rfl⟩⟩,
    ⟨⟨"\t", rfl⟩, some ⟨⟨"stale", by decide⟩, .bare ⟨"true", by decide⟩⟩, ⟨"", rfl⟩⟩]

/-- What stands behind it, without quotes. -/
def awkwardBack : Piece :=
  ⟨⟨"", rfl⟩, some ⟨⟨"Algorithm", by decide⟩, .bare ⟨"md5-sess", by decide⟩⟩, ⟨"", rfl⟩⟩

/-- Names and values in any case and order, and what becomes of them without the last quote. -/
theorem parse_inverts_rendering_of_awkward :
    Challenge.parse "dIGEST NONCE=\"a,\\\"b\\\\\" , ,\tstale=true,realm=\"\" ,Algorithm=md5-sess" =
        .ok ⟨"", "a,\"b\\", none, none, "md5-sess"⟩ ∧
      (Challenge.parse
        "dIGEST NONCE=\"a,\\\"b\\\\\" , ,\tstale=true,realm=\" ,Algorithm=md5-sess").mapError
          ChallengeFault.error =
        .error (.protocol "malformed digest challenge: unbalanced quotes") := by
  have spelled : Spells (awkwardFront ++ [awkwardRealm, awkwardBack])
      "" "a,\"b\\" none none (some "md5-sess") := by
    constructor <;> decide +kernel
  have cased : sameLetters "dIGEST" "digest" = true := by decide
  obtain ⟨read, unread⟩ := parse_inverts_rendering cased spelled
  have bare : ∀ q ∈ [awkwardBack], q.Bare := by
    intro q there
    cases List.mem_singleton.mp there
    rintro name s ⟨⟩
  have failed := unread awkwardFront awkwardRealm [awkwardBack] _ _ rfl rfl bare
  have text : write "dIGEST" ((awkwardFront ++ [awkwardRealm, awkwardBack]).map Piece.written) =
      "dIGEST NONCE=\"a,\\\"b\\\\\" , ,\tstale=true,realm=\"\" ,Algorithm=md5-sess" := by
    decide +kernel
  have text' : write "dIGEST" (awkwardFront.map Piece.written ++
        awkwardRealm.around (Field.unclosed ⟨"realm", by decide⟩ "") ::
          [awkwardBack].map Piece.written) =
      "dIGEST NONCE=\"a,\\\"b\\\\\" , ,\tstale=true,realm=\" ,Algorithm=md5-sess" := by
    decide +kernel
  rw [text] at read
  rw [text'] at failed
  exact ⟨read, failed⟩

end HttpClient.Auth.Rendering
