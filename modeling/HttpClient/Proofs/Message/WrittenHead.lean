/-
# Written heads

The head of a response as a server writes it: a status line, field lines and an empty line, each
ended by a carriage return and a line feed (`WrittenHead`).  The reader takes exactly such a head,
whatever bytes come behind it, and finds in it what was written; and of a head that breaks off it
says that it is incomplete, never that it is wrong (`takes_written`).

The two are said together of each part of the reader (`Takes`), for neither passes on alone: a part
that breaks off has the parts in front of it whole, and a part is read where those in front of it
leave off.
-/
import HttpClient.Message.Head
import HttpClient.Proofs.Text.Characters
import HttpClient.Proofs.Text.Bytes
import HttpClient.Proofs.Text.Trimming

namespace HttpClient

namespace RawHead

open Text

/-! ## Readers that take a word -/

/-- The reader takes these bytes and no more, and leaves off as told by the bytes behind them; if
they break off, it says so. -/
structure Takes {α : Type} (read : Bytes → Except HeadFault α) (w : Bytes) (out : Bytes → α) :
    Prop where
  whole : ∀ rest, read (w ++ rest) = .ok (out rest)
  broken : ∀ p, p <+: w → p ≠ w → read p = .error .incomplete

theorem prefix_append {p w v : Bytes} (h : p <+: w ++ v) :
    (p <+: w ∧ p ≠ w) ∨ ∃ q, p = w ++ q ∧ q <+: v := by
  obtain ⟨t, parts⟩ := h
  rcases List.append_eq_append_iff.mp parts with ⟨a, rfl, -⟩ | ⟨q, rfl, rfl⟩
  · cases a with
    | nil => exact .inr ⟨[], by simp, List.nil_prefix⟩
    | cons b a => exact .inl ⟨List.prefix_append _ _, by simp⟩
  · exact .inr ⟨q, rfl, List.prefix_append _ _⟩

theorem stops_of_begins {p : UInt8 → Bool} {b : UInt8} {q w : Bytes} (stops : p b = false)
    (h : q <+: b :: w) : ∀ x, q.head? = some x → p x = false := by
  rcases List.prefix_cons_iff.mp h with rfl | ⟨q, rfl, -⟩
  · simp
  · simp [stops]

theorem dropWhile_front {p : UInt8 → Bool} {front rest : Bytes} (passed : ∀ x ∈ front, p x = true)
    (stops : ∀ x, rest.head? = some x → p x = false) : (front ++ rest).dropWhile p = rest := by
  rw [List.dropWhile_append_of_pos passed]
  cases rest with
  | nil => rfl
  | cons b rest => rw [List.dropWhile_cons_of_neg (by simp [stops b rfl])]

theorem takeWhile_front {p : UInt8 → Bool} {front rest : Bytes} (kept : ∀ x ∈ front, p x = true)
    (stops : ∀ x, rest.head? = some x → p x = false) : (front ++ rest).takeWhile p = front := by
  rw [List.takeWhile_append_of_pos kept]
  cases rest with
  | nil => simp
  | cons b rest => rw [List.takeWhile_cons_of_neg (by simp [stops b rfl]), List.append_nil]

namespace Takes

variable {α β : Type} {read : Bytes → Except HeadFault α} {w v : Bytes} {out : Bytes → α}
  {b : UInt8}

theorem nil (h : ∀ rest, read rest = .ok (out rest)) : Takes read [] out where
  whole := h
  broken _ front other := absurd (List.prefix_nil.mp front) other

theorem cons {next : Bytes → Except HeadFault α} (hnone : read [] = .error .incomplete)
    (step : ∀ rest, read (b :: rest) = next rest) (h : Takes next w out) :
    Takes read (b :: w) out where
  whole rest := by rw [List.cons_append, step, h.whole]
  broken p front other := by
    rcases List.prefix_cons_iff.mp front with rfl | ⟨q, rfl, later⟩
    · exact hnone
    · rw [step, h.broken q later fun same => other (same ▸ rfl)]

theorem tail (h : Takes read (b :: w) out) : Takes (fun rest => read (b :: rest)) w out where
  whole rest := h.whole rest
  broken p front other :=
    h.broken (b :: p) (List.cons_prefix_cons.mpr ⟨rfl, front⟩) (by simpa using other)

theorem map (f : α → β) (h : Takes read w out) :
    Takes (fun bytes => (read bytes).map f) w fun rest => f (out rest) where
  whole rest := by rw [h.whole, Except.map]
  broken p front other := by rw [h.broken p front other, Except.map]

theorem bind (second : α → Except HeadFault β) {out' : Bytes → β} (h : Takes read w out)
    (h' : Takes (fun rest => second (out rest)) v out') :
    Takes (fun bytes => read bytes >>= second) (w ++ v) out' where
  whole rest := by
    rw [List.append_assoc, h.whole]
    exact h'.whole rest
  broken p front other := by
    rcases prefix_append front with ⟨early, rest⟩ | ⟨q, rfl, late⟩
    · rw [h.broken p early rest]
      rfl
    · rw [h.whole]
      exact h'.broken q late fun same => other (same ▸ rfl)

theorem last (second : α → Except HeadFault β) {out' : Bytes → β} (h : Takes read w out)
    (h' : ∀ rest, second (out rest) = .ok (out' rest)) :
    Takes (fun bytes => read bytes >>= second) w out' := by
  simpa only [List.append_nil] using h.bind second (.nil h')

theorem skip {p : UInt8 → Bool} {front : Bytes} (passed : ∀ x ∈ front, p x = true)
    (stops : p b = false) (h : Takes read (b :: w) out) :
    Takes (fun bytes => read (bytes.dropWhile p)) (front ++ b :: w) out where
  whole rest := by
    rw [List.append_assoc, dropWhile_front passed (by simp [stops])]
    exact h.whole rest
  broken q begins other := by
    rcases prefix_append begins with ⟨early, -⟩ | ⟨q, rfl, late⟩
    · rw [List.dropWhile_eq_nil_iff.mpr fun x there => passed x (early.subset there)]
      exact h.broken [] List.nil_prefix (by simp)
    · rw [dropWhile_front passed (stops_of_begins stops late)]
      exact h.broken q late fun same => other (same ▸ rfl)

theorem run {p : UInt8 → Bool} {front : Bytes} (read : Bytes → Bytes → Except HeadFault α)
    (kept : ∀ x ∈ front, p x = true) (stops : p b = false)
    (hnone : ∀ part, read part [] = .error .incomplete) (h : Takes (read front) (b :: w) out) :
    Takes (fun bytes => read (bytes.takeWhile p) (bytes.drop (bytes.takeWhile p).length))
      (front ++ b :: w) out where
  whole rest := by
    rw [List.append_assoc, takeWhile_front kept (by simp [stops]), List.drop_left]
    exact h.whole rest
  broken q begins other := by
    rcases prefix_append begins with ⟨early, -⟩ | ⟨q, rfl, late⟩
    · rw [List.takeWhile_eq_self_iff.mpr fun x there => kept x (early.subset there),
        List.drop_length]
      exact hnone q
    · rw [takeWhile_front kept (stops_of_begins stops late), List.drop_left]
      exact h.broken q late fun same => other (same ▸ rfl)

end Takes

/-! ## The status line -/

theorem takes_lineEnd (fault : HeadFault) : Takes (lineEnd fault) [cr, lf] id :=
  .cons rfl (fun _ => rfl) (.cons rfl (fun _ => rfl) (.nil fun _ => rfl))

theorem takes_version (v : Version) : Takes readVersion (utf8 v.text) fun rest => (v, rest) where
  whole rest := by
    have bytes : utf8 "HTTP/1.0" = [72, 84, 84, 80, 47, 49, 46, 48] := by decide
    have bytes' : utf8 "HTTP/1.1" = [72, 84, 84, 80, 47, 49, 46, 49] := by decide
    have long : ¬ (utf8 v.text ++ rest).length < 8 := by
      cases v <;> simp [Version.text, bytes, bytes']
    rw [readVersion, if_neg long]
    cases v <;> simp [Version.text, bytes, bytes', List.isPrefixOf]
  broken p front other := by
    have ends : ∃ b, utf8 v.text = utf8 "HTTP/1." ++ [b] := by
      cases v
      exacts [⟨48, by decide⟩, ⟨49, by decide⟩]
    obtain ⟨b, ends⟩ := ends
    rw [ends] at front other
    have early := (List.prefix_concat_iff.mp front).resolve_left other
    have short : p.length < 8 := by
      have most : p.length ≤ 7 := early.length_le
      omega
    rw [readVersion, if_pos short, if_pos (List.isPrefixOf_iff_prefix.mpr early)]

theorem takes_space : Takes readSpace [sp] id := .cons rfl (fun _ => rfl) (.nil fun _ => rfl)

theorem takes_digits {ds : Bytes} (digits : ∀ b ∈ ds, 48 ≤ b ∧ b ≤ 57) (n : Nat) :
    Takes (readDigits n ds.length) ds fun rest =>
      (ds.foldl (fun n b => 10 * n + (b.toNat - 48)) n, rest) := by
  induction ds generalizing n with
  | nil => exact .nil fun _ => rfl
  | cons b ds ih =>
      obtain ⟨first, others⟩ := List.forall_mem_cons.mp digits
      refine .cons rfl (fun rest => ?_) (ih others _)
      rw [List.length_cons, readDigits, if_pos (by simpa using first)]

theorem takes_digitChars {s : String} (digits : ∀ c ∈ s.toList, c.isDigit = true) :
    Takes (readDigits 0 s.toList.length) (utf8 s) fun rest =>
      (Nat.ofDigitChars 10 s.toList 0, rest) := by
  have range : ∀ c ∈ s.toList, 48 ≤ c.toNat ∧ c.toNat ≤ 57 := fun c there =>
    Char.isDigit_iff_toNat.mp (digits c there)
  have numbers : (utf8 s).map UInt8.toNat = s.toList.map Char.toNat :=
    map_utf8 fun c there => Nat.lt_of_le_of_lt (range c there).2 (by decide)
  have bytes : ∀ b ∈ utf8 s, 48 ≤ b ∧ b ≤ 57 := by
    intro b there
    have there := List.mem_map_of_mem (f := UInt8.toNat) there
    rw [numbers] at there
    obtain ⟨c, among, same⟩ := List.mem_map.mp there
    obtain ⟨least, most⟩ := same ▸ range c among
    exact ⟨UInt8.le_iff_toNat_le.mpr least, UInt8.le_iff_toNat_le.mpr most⟩
  have length : (utf8 s).length = s.toList.length := by
    simpa using congrArg List.length numbers
  have value : (utf8 s).foldl (fun n b => 10 * n + (b.toNat - 48)) 0
      = Nat.ofDigitChars 10 s.toList 0 := by
    calc
      _ = ((utf8 s).map UInt8.toNat).foldl (fun n m => 10 * n + (m - 48)) 0 := by
        rw [List.foldl_map]
      _ = (s.toList.map Char.toNat).foldl (fun n m => 10 * n + (m - 48)) 0 := by rw [numbers]
      _ = Nat.ofDigitChars 10 s.toList 0 := by rw [List.foldl_map]; rfl
  have takes := takes_digits bytes 0
  rwa [length, value] at takes

theorem length_code (s : Status) : (Nat.toDigits 10 s.code).length = 3 := by
  obtain ⟨least, most⟩ := s.inRange
  have notMore : (Nat.toDigits 10 s.code).length ≤ 3 :=
    (Nat.length_toDigits_le_iff (by decide) (by decide)).mpr (by omega)
  have notLess : ¬ (Nat.toDigits 10 s.code).length ≤ 2 :=
    mt (Nat.length_toDigits_le_iff (by decide) (by decide)).mp (by omega)
  omega

theorem takes_code (s : Status) :
    Takes (readDigits 0 3) (utf8 (toString s.code)) fun rest => (s.code, rest) := by
  have printed := toList_toString s.code
  have takes := takes_digitChars (s := toString s.code) fun c there =>
    Nat.isDigit_of_mem_toDigits (by decide) (by decide) (printed ▸ there)
  rwa [printed, length_code, Nat.ofDigitChars_ten_toDigits] at takes

theorem takes_reason {reason : Option Bytes} (isText : (reason.getD []).all isTextByte = true) :
    Takes skipReason (reason.elim [] (sp :: ·) ++ [cr, lf]) id := by
  cases reason with
  | none => exact .cons rfl (fun rest => rfl) (takes_lineEnd .status).tail
  | some text =>
      have visible := List.all_eq_true.mp isText
      exact .cons rfl (fun rest => rfl) (.skip visible rfl (takes_lineEnd .status))

/-! ## Field lines -/

def isGap (b : UInt8) : Bool := b = sp || b = tab

def isTrimmed (b : UInt8) : Bool := b = sp || b = tab || b = cr || b = lf

theorem trimEnd_eq (value : Bytes) : trimEnd value = dropEnd isTrimmed value := rfl

theorem isTextByte_of_isGap {b : UInt8} (h : isGap b = true) : isTextByte b = true := by
  simp only [isGap, Bool.or_eq_true, decide_eq_true_eq] at h
  rcases h with rfl | rfl <;> decide

theorem isTrimmed_of_isGap {b : UInt8} (h : isGap b = true) : isTrimmed b = true := by
  simp only [isGap, Bool.or_eq_true, decide_eq_true_eq] at h
  rcases h with rfl | rfl <;> decide

theorem isTrimmed_of_text {b : UInt8} (text : isTextByte b = true) (bare : isGap b = false) :
    isTrimmed b = false := by
  have noCr : b ≠ cr := by rintro rfl; exact absurd text (by decide)
  have noLf : b ≠ lf := by rintro rfl; exact absurd text (by decide)
  have same : isTrimmed b = (isGap b || decide (b = cr) || decide (b = lf)) := rfl
  rw [same, bare, decide_eq_false noCr, decide_eq_false noLf]
  rfl

/-- What is read of a field behind the colon. -/
def readValue (name bytes : Bytes) : Except HeadFault (RawField × Bytes) :=
  let text := bytes.dropWhile isGap
  let value := text.takeWhile isTextByte
  (lineEnd .headerValue (text.drop value.length)).map fun rest => (⟨name, trimEnd value⟩, rest)

/-- What is read of a field behind its name. -/
def readColon (name : Bytes) : Bytes → Except HeadFault (RawField × Bytes)
  | [] => .error .incomplete
  | b :: rest => if b ≠ 58 then .error .headerName else readValue name rest

theorem readField_cons {b : UInt8} (named : isNameByte b = true) (bytes : Bytes) :
    readField (b :: bytes) = readColon (b :: bytes.takeWhile isNameByte)
      (bytes.drop (bytes.takeWhile isNameByte).length) := by
  rw [readField, List.takeWhile_cons_of_pos named, List.length_cons, List.drop_succ_cons]
  cases bytes.drop (bytes.takeWhile isNameByte).length <;> rfl

theorem readFields_cons {b : UInt8} (other : b ≠ cr ∧ b ≠ lf) (slots : Nat) (bytes : Bytes) :
    readFields (slots + 1) (b :: bytes) =
      readField (b :: bytes) >>= fun (field, rest) =>
        (readFields slots rest).map fun (fields, rest) => (field :: fields, rest) := by
  have goes : ¬ (decide (b = cr) || decide (b = lf)) = true := by simp [other]
  -- the equations of the definition are far slower to come by than its body
  delta readFields
  refine (if_neg goes).trans ?_
  cases readField (b :: bytes) <;> rfl

theorem readFields_nil (slots : Nat) : readFields slots [] = .error .incomplete := by
  cases slots <;> rfl

theorem takes_empty (slots : Nat) : Takes (readFields slots) [cr, lf] fun rest => ([], rest) := by
  refine .cons (readFields_nil slots) (fun rest => ?_)
    ((takes_lineEnd .newLine).tail.map fun rest => ([], rest))
  cases slots <;> rfl

end RawHead

open RawHead Text

/-- A field line as it is written: a token, a colon, and a value with gaps around it. -/
structure FieldLine where
  name : String
  isToken : name ≠ "" ∧ name.toList.all isTokenChar = true
  short : (utf8 name).length < UInt16.size
  value : HeaderValue
  /-- The value has no gap at either end. -/
  bare : value.bytes.head?.any isGap = false ∧ value.bytes.getLast?.any isGap = false
  before : Bytes := [sp]
  after : Bytes := []
  gaps : (before ++ after).all isGap = true := by decide

namespace FieldLine

variable (f : FieldLine)

def valueWritten : Bytes := f.before ++ (f.value.bytes ++ (f.after ++ [cr, lf]))

def written : Bytes := utf8 f.name ++ 58 :: f.valueWritten

def raw : RawField := ⟨utf8 f.name, f.value.bytes⟩

theorem tokens : ∀ c ∈ f.name.toList, isTokenChar c = true := List.all_eq_true.mp f.isToken.2

theorem ascii : ∀ c ∈ f.name.toList, c.toNat < 128 :=
  fun c there => lt_of_isTokenChar (f.tokens c there)

theorem exists_name : ∃ b bs, utf8 f.name = b :: bs ∧ isNameByte b = true ∧
    ∀ x ∈ bs, isNameByte x = true := by
  have named : ∀ x ∈ utf8 f.name, isNameByte x = true := by
    intro x there
    obtain ⟨c, among, same⟩ := exists_of_mem_utf8 f.ascii there
    rw [isNameByte, same]
    exact f.tokens c among
  have nonempty : utf8 f.name ≠ [] := by
    intro hnil
    have letters := map_ofNat_utf8 f.ascii
    rw [hnil] at letters
    exact f.isToken.1 (String.toList_eq_nil_iff.mp letters.symm)
  obtain ⟨b, bs, parts⟩ := List.exists_cons_of_ne_nil nonempty
  rw [parts] at named
  exact ⟨b, bs, parts, List.forall_mem_cons.mp named⟩

/-- The gaps in front of a value end where the value begins or, if it is empty, with the line. What
is kept behind them loses its gaps at the end. -/
theorem exists_kept : ∃ front kept, f.valueWritten = front ++ (kept ++ [cr, lf]) ∧
    (∀ b ∈ front, isGap b = true) ∧ (∀ b, kept.head? = some b → isGap b = false) ∧
    (∀ b ∈ kept, isTextByte b = true) ∧ trimEnd kept = f.value.bytes := by
  have gaps := List.all_eq_true.mp f.gaps
  obtain ⟨before, after⟩ := List.forall_mem_append.mp gaps
  obtain ⟨bareFirst, bareLast⟩ := f.bare
  by_cases hnil : f.value.bytes = []
  · refine ⟨f.before ++ f.after, [], by simp [valueWritten, hnil], gaps, ?_, ?_, ?_⟩
    · simp
    · simp
    · rw [hnil]
      rfl
  · have text : ∀ b ∈ f.value.bytes, isTextByte b = true := List.all_eq_true.mp f.value.isValue
    refine ⟨f.before, f.value.bytes ++ f.after, by simp [valueWritten], before, ?_, ?_, ?_⟩
    · intro b first
      rw [List.head?_append, Option.or_of_isSome (by simp [hnil])] at first
      rwa [first] at bareFirst
    · refine List.forall_mem_append.mpr ⟨text, fun b there => ?_⟩
      exact isTextByte_of_isGap (after b there)
    · have last := List.getLast?_eq_some_getLast hnil
      have stays : isTrimmed (f.value.bytes.getLast hnil) = false :=
        isTrimmed_of_text (text _ (List.getLast_mem hnil)) (by rwa [last] at bareLast)
      have dropped : dropEnd isTrimmed f.after = [] :=
        dropEnd_of_forall fun b there => isTrimmed_of_isGap (after b there)
      rw [trimEnd_eq, dropEnd_append, dropped, if_pos rfl, dropEnd_of_getLast? ⟨_, last, stays⟩]

theorem takes_value (name : Bytes) :
    Takes (readValue name) f.valueWritten fun rest => (⟨name, f.value.bytes⟩, rest) := by
  obtain ⟨front, kept, parts, gaps, bare, text, trimmed⟩ := f.exists_kept
  have run : Takes (fun bytes => (lineEnd .headerValue
        (bytes.drop (bytes.takeWhile isTextByte).length)).map fun rest =>
          (RawField.mk name (trimEnd (bytes.takeWhile isTextByte)), rest))
      (kept ++ [cr, lf]) fun rest => (⟨name, trimEnd kept⟩, rest) := by
    refine .run (fun value bytes => (lineEnd .headerValue bytes).map fun rest =>
      (RawField.mk name (trimEnd value), rest)) text rfl (fun _ => rfl) ?_
    exact (takes_lineEnd .headerValue).map _
  rw [parts, ← trimmed]
  cases kept with
  | nil => exact .skip gaps rfl run
  | cons b kept => exact .skip gaps (bare b rfl) run

theorem takes_rest {b : UInt8} {bs : Bytes} (named : utf8 f.name = b :: bs)
    (first : isNameByte b = true) (others : ∀ x ∈ bs, isNameByte x = true) :
    Takes (fun bytes => readField (b :: bytes)) (bs ++ 58 :: f.valueWritten) fun rest =>
      (f.raw, rest) := by
  have colon : Takes (readColon (b :: bs)) (58 :: f.valueWritten) fun rest => (f.raw, rest) := by
    rw [raw, named]
    exact .cons rfl (fun _ => rfl) (f.takes_value (b :: bs))
  simp only [readField_cons first]
  exact .run (fun part => readColon (b :: part)) others (by decide) (fun _ => rfl) colon

end FieldLine

/-- Field lines and the empty line behind them are taken, as many as there are slots for. -/
theorem takes_fields {lines : List FieldLine} {slots : Nat} (few : lines.length ≤ slots) :
    Takes (readFields slots) (lines.flatMap (·.written) ++ [cr, lf]) fun rest =>
      (lines.map (·.raw), rest) := by
  induction lines generalizing slots with
  | nil => exact takes_empty slots
  | cons line lines ih =>
      obtain ⟨slots, rfl⟩ : ∃ n, slots = n + 1 :=
        Nat.exists_eq_add_one_of_ne_zero (by rintro rfl; cases few)
      obtain ⟨b, bs, named, first, others⟩ := line.exists_name
      have other : b ≠ cr ∧ b ≠ lf := by
        constructor <;> rintro rfl <;> exact absurd first (by decide)
      have parts : (line :: lines).flatMap (·.written) ++ [cr, lf] =
          b :: ((bs ++ 58 :: line.valueWritten) ++ (lines.flatMap (·.written) ++ [cr, lf])) := by
        simp [FieldLine.written, named]
      rw [parts]
      refine .cons (readFields_nil _) (readFields_cons other slots)
        (.bind (fun (field, rest) => (readFields slots rest).map fun (fields, rest) =>
          (field :: fields, rest)) (line.takes_rest named first others) ?_)
      exact (ih (Nat.le_of_succ_le_succ few)).map fun (fields, rest) => (line.raw :: fields, rest)

/-- The head of a response as it is written. -/
structure WrittenHead where
  version : Version
  status : Status
  /-- The reason, if the line does not end with the status. -/
  reason : Option Bytes := none
  isText : (reason.getD []).all isTextByte = true := by decide
  fields : List FieldLine
  few : fields.length ≤ maxFields

namespace WrittenHead

variable (h : WrittenHead)

def written : Bytes :=
  utf8 h.version.text ++ ([sp] ++ (utf8 (toString h.status.code) ++
    ((h.reason.elim [] (sp :: ·) ++ [cr, lf]) ++ (h.fields.flatMap (·.written) ++ [cr, lf]))))

def raw : RawHead := ⟨h.version, h.status.code, h.fields.map (·.raw)⟩

theorem exists_first : ∃ w, h.written = 72 :: w := by
  cases version : h.version <;> exact ⟨_, by rw [written, version]; rfl⟩

theorem takes_written : Takes RawHead.read h.written fun rest => (h.raw, rest) := by
  have behindLines : Takes (fun bytes =>
        readVersion bytes >>= fun version => readSpace version.2 >>= fun bytes =>
        readDigits 0 3 bytes >>= fun code => skipReason code.2 >>= fun bytes =>
        readFields maxFields bytes >>= fun fields =>
        .ok (⟨version.1, code.1, fields.1⟩, fields.2))
      h.written fun rest => (h.raw, rest) := by
    refine .bind _ (takes_version h.version) ?_
    dsimp only
    refine .bind _ takes_space (.bind _ (takes_code h.status) ?_)
    dsimp only
    exact .bind _ (takes_reason h.isText) (.last _ (takes_fields h.few) fun _ => rfl)
  obtain ⟨w, begins⟩ := h.exists_first
  rw [begins] at behindLines ⊢
  refine .cons rfl (fun rest => ?_) behindLines.tail
  cases rest <;> rfl

end WrittenHead

end HttpClient
