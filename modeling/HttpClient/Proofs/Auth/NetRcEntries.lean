/-
# The entries of a netrc file

A netrc file is written as blocks, in any order: the entries, which are a `machine` with its host or
a `default` with any number of values behind it, comments, and macro definitions.  Words are set
apart by any blanks, which may be line ends too, except that a host or a value stands on the line of
its keyword.  Hosts and values are any words; the keywords and texts that begin with `#` are among
them, for what stands behind a keyword is not looked at.

The reader goes by lines, and a comment or a macro takes away the rest of its line or more lines,
but what it knows between two pieces of the file is only the entry that is being read.  So it is
enough to say of each piece what it does to that entry, whatever stands behind it: a pair changes
the login (`readText_pair`), a head ends one entry and begins the next (`readText_head`), and
blanks, comments and macros leave all as it is (`readText_blanks`, `readText_aside`).  The file
that is read is the one that was written (`parse_written`), and a host is given the login of its
entry (`credentials_of_written`).
-/
import HttpClient.Auth.NetRc
import HttpClient.Proofs.Last
import HttpClient.Proofs.Text.Trimming
import HttpClient.Proofs.Text.Words

namespace HttpClient.Auth.NetRc

open Text

/-! ## What is written -/

/-- A host or a value. -/
structure Word where
  text : String
  nonempty : text ≠ ""
  whole : ∀ c ∈ text.toList, isBlank c = false

abbrev Blanks := { s : String // ∀ c ∈ s.toList, isBlank c = true }

/-- The blanks behind an item, line ends among them or not. -/
structure Gap where
  text : String
  nonempty : text ≠ ""
  blank : ∀ c ∈ text.toList, isBlank c = true

/-- The blanks behind a keyword. -/
structure Space extends Gap where
  inLine : '\n' ∉ text.toList

/-- What may stand on a line. -/
abbrev Line := { s : String // '\n' ∉ s.toList }

inductive Key where
  | login
  | password
  | account
deriving DecidableEq, Repr

def Key.word : Key → String
  | .login => "login"
  | .password => "password"
  | .account => "account"

structure Pair where
  key : Key
  space : Space
  value : Word

def Pair.written (p : Pair) : String := p.key.word ++ p.space.text ++ p.value.text

/-- How an entry begins. -/
inductive Head where
  | machine (space : Space) (host : Word)
  | default

def Head.written : Head → String
  | .machine space host => "machine" ++ space.text ++ host.text
  | .default => "default"

/-- A line of a macro, which is any line with a word in it. -/
abbrev MacroLine := { l : Line // ∃ c ∈ l.val.toList, isBlank c = false }

/-- What belongs to no entry: a comment up to the end of its line, or a macro with what stands
behind the word `macdef`, its lines, and the blank line that ends it. -/
inductive Aside where
  | comment (text : Line)
  | definition (name : Option (Space × Line)) (body : List MacroLine)
      (last : { l : Line // ∀ c ∈ l.val.toList, isBlank c = true })

/-- The line in which a macro begins, with its line end. -/
def macroHead (name : Option (Space × Line)) : String :=
  "macdef" ++ (name.elim "" fun n => n.1.text ++ n.2.val) ++ "\n"

def macroBody (body : List MacroLine) : String := String.join (body.map fun l => l.val.val ++ "\n")

def Aside.written : Aside → String
  | .comment text => "#" ++ text.val ++ "\n"
  | .definition name body last => macroHead name ++ macroBody body ++ last.val.val ++ "\n"

/-- What may stand in an entry, comments and macros included. -/
inductive Part where
  | pair (p : Pair) (behind : Gap)
  | aside (a : Aside) (behind : Blanks)

def Part.written : Part → String
  | .pair p behind => p.written ++ behind.text
  | .aside a behind => a.written ++ behind.val

structure Entry where
  head : Head
  behind : Gap
  parts : List Part

def Entry.written (e : Entry) : String :=
  e.head.written ++ e.behind.text ++ String.join (e.parts.map Part.written)

inductive Block where
  | entry (e : Entry)
  | aside (a : Aside) (behind : Blanks)

def Block.written : Block → String
  | .entry e => e.written
  | .aside a behind => a.written ++ behind.val

def writtenFile (before : Blanks) (blocks : List Block) : String :=
  before.val ++ String.join (blocks.map Block.written)

/-! ## What it says -/

/-- The value of a part, if it is a pair with this keyword. -/
def Part.value? (key : Key) : Part → Option String
  | .pair p _ => if p.key = key then some p.value.text else none
  | .aside _ _ => none

/-- The last value for a keyword, empty if there is none. -/
def lastValue (key : Key) (parts : List Part) : String :=
  ((parts.filterMap (Part.value? key)).getLast?).getD ""

def Entry.login (e : Entry) : Login := ⟨lastValue .login e.parts, lastValue .password e.parts⟩

/-- The entry is that of a machine with this host, its letters in either case. -/
def Entry.isFor (e : Entry) (host : String) : Bool :=
  match e.head with
  | .machine _ h => sameLetters h.text host
  | .default => false

def Entry.isDefault (e : Entry) : Bool :=
  match e.head with
  | .machine _ _ => false
  | .default => true

def Block.entry? : Block → Option Entry
  | .entry e => some e
  | .aside _ _ => none

def entries (blocks : List Block) : List Entry := blocks.filterMap Block.entry?

/-- The login for a host: that of the first entry for it, else that of the last default entry. -/
def credentials (blocks : List Block) (host : String) : Option Login :=
  (((entries blocks).find? (·.isFor host)).or
    ((entries blocks).filter (·.isDefault)).getLast?).map Entry.login

/-! ## Lines -/

/-- Reads a text line by line. -/
def readText (inMacro : Bool) (r : Reader) (cs : List Char) : Except Fault Reader :=
  readLines inMacro r (pieces '\n' cs)

def lineWords (line : List Char) : List String := (words line).map String.ofList

variable {r r' : Reader} {cs rest : List Char}

theorem parse_eq (s : String) :
    parse s = (readText false ⟨⟨[], none⟩, .none⟩ s.toList).map Reader.close := rfl

theorem readText_line {stop : LineEnd} {line : List Char} (inLine : '\n' ∉ line)
    (read : readWords r (lineWords line) = .ok (r', stop)) (behind : List Char) :
    readText false r (line ++ '\n' :: behind) = readText (stop = .macroLines) r' behind := by
  unfold lineWords at read
  rw [readText, pieces_line inLine, readLines, if_neg Bool.false_ne_true, read]
  rfl

/-- What is at the front of a line may be read before the rest is known. -/
theorem readText_front {front : List Char} (inLine : '\n' ∉ front)
    (read : ∀ line, line <+: rest →
      readWords r (lineWords (front ++ line)) = readWords r' (lineWords line)) :
    readText false r (front ++ rest) = readText false r' rest := by
  have same (line : List Char) (there : line <+: rest) (more : List (List Char)) :
      readLines false r ((front ++ line) :: more) = readLines false r' (line :: more) := by
    have read := read line there
    unfold lineWords at read
    rw [readLines, if_neg Bool.false_ne_true, read, readLines, if_neg Bool.false_ne_true]
  by_cases ends : '\n' ∈ rest
  · obtain ⟨line, behind, rfl, absent⟩ := List.eq_append_cons_of_mem ends
    have whole : '\n' ∉ front ++ line := fun h => (List.mem_append.mp h).elim inLine absent
    rw [← List.append_assoc, readText, readText, pieces_line whole, pieces_line absent]
    exact same line (List.prefix_append line _) _
  · have whole : '\n' ∉ front ++ rest := fun h => (List.mem_append.mp h).elim inLine ends
    rw [readText, readText, pieces_of_not_mem whole, pieces_of_not_mem ends]
    exact same rest List.prefix_rfl []

theorem readLines_concat_nil (inMacro : Bool) (r : Reader) (lines : List (List Char)) :
    readLines inMacro r (lines ++ [[]]) = readLines inMacro r lines := by
  induction lines generalizing inMacro r with
  | nil => cases inMacro <;> rfl
  | cons line lines ih =>
      rw [List.cons_append, readLines, readLines]
      split
      · exact ih _ r
      · split
        · rfl
        · exact ih _ _

theorem readText_lineEnds (inMacro : Bool) (r : Reader) (cs : List Char) (k : Nat) :
    readText inMacro r (cs ++ List.replicate k '\n') = readText inMacro r cs := by
  induction k with
  | zero => rw [List.replicate_zero, List.append_nil]
  | succ k ih =>
      rw [List.replicate_succ', ← List.append_assoc, readText, pieces_append_cons]
      exact (readLines_concat_nil inMacro r _).trans ih

/-! ## Blanks and asides -/

theorem readText_blanks (blank : ∀ c ∈ cs, isBlank c = true) (rest : List Char) :
    readText false r (cs ++ rest) = readText false r rest := by
  induction cs with
  | nil => rfl
  | cons b cs ih =>
      obtain ⟨here, later⟩ := List.forall_mem_cons.mp blank
      refine Eq.trans ?_ (ih later)
      by_cases ends : b = '\n'
      · rw [ends]
        exact readText_line List.not_mem_nil rfl (cs ++ rest)
      · refine readText_front (fun h => ends (List.mem_singleton.mp h).symm) fun line _ => ?_
        exact congrArg (fun ws => readWords r (ws.map String.ofList))
          (words_skip (List.forall_mem_singleton.mpr here) line)

theorem lineWords_front {word : String} (nonempty : word ≠ "")
    (whole : ∀ c ∈ word.toList, isBlank c = false) (apart : Apart rest) :
    lineWords (word.toList ++ rest) = word :: lineWords rest := by
  have hne : word.toList ≠ [] := fun hnil => nonempty (String.toList_eq_nil_iff.mp hnil)
  rw [lineWords, words_front hne whole apart, List.map_cons, String.ofList_toList]
  rfl

theorem lineWords_skip (blank : ∀ c ∈ cs, isBlank c = true) (rest : List Char) :
    lineWords (cs ++ rest) = lineWords rest :=
  congrArg (List.map String.ofList) (words_skip blank rest)

theorem Gap.apart (g : Gap) (rest : List Char) : Apart (g.text.toList ++ rest) :=
  apart_append (fun hnil => g.nonempty (String.toList_eq_nil_iff.mp hnil)) g.blank rest

theorem Word.inLine (w : Word) : '\n' ∉ w.text.toList := fun there =>
  absurd (w.whole _ there) (by decide)

/-! ## Comments and macros -/

theorem readWords_comment (r : Reader) (word : List Char) (more : List String) :
    readWords r (String.ofList ('#' :: word) :: more) = .ok (r, .line) := by
  have other (keyword : String) (first : keyword.toList.head? ≠ some '#') :
      String.ofList ('#' :: word) ≠ keyword := by
    rintro rfl
    exact first (by rw [String.toList_ofList]; rfl)
  have sign : "#".toList.isPrefixOf (String.ofList ('#' :: word)).toList = true := by simp
  rw [readWords.eq_def]
  simp only [if_neg (other "machine" (by decide)), if_neg (other "default" (by decide)),
    decide_eq_false (other "login" (by decide)), decide_eq_false (other "password" (by decide)),
    decide_eq_false (other "account" (by decide)), if_neg (other "macdef" (by decide)), sign,
    Bool.or_self, Bool.false_eq_true, if_false, if_true]

theorem readText_comment (text : Line) (behind : List Char) :
    readText false r ('#' :: text.val.toList ++ '\n' :: behind) = readText false r behind := by
  have inLine : '\n' ∉ '#' :: text.val.toList :=
    List.not_mem_cons_of_ne_of_not_mem (by decide) text.property
  obtain ⟨word, more, first⟩ := exists_words_cons (c := '#') rfl text.val.toList
  have read : readWords r (lineWords ('#' :: text.val.toList)) = .ok (r, .line) := by
    rw [lineWords, first]
    exact readWords_comment r word _
  exact readText_line inLine read behind

theorem readText_macroHead (name : Option (Space × Line)) (behind : List Char) :
    readText false r ((macroHead name).toList ++ behind) = readText true r behind := by
  have begins {line : List Char} (apart : Apart line) :
      readWords r (lineWords ("macdef".toList ++ line)) = .ok (r, .macroLines) := by
    rw [lineWords_front (by decide) (forall_of_all (by decide)) apart]
    unfold readWords
    simp
  have plain : '\n' ∉ "macdef".toList := by decide
  unfold macroHead
  rw [String.toList_append, String.toList_append, List.append_assoc]
  cases name with
  | none => exact readText_line (by simp) (begins apart_nil) behind
  | some n =>
      obtain ⟨space, line⟩ := n
      have inLine : '\n' ∉ "macdef".toList ++ (space.text.toList ++ line.val.toList) := by
        simp only [List.mem_append, not_or]
        exact ⟨plain, space.inLine, line.property⟩
      rw [Option.elim_some, String.toList_append]
      exact readText_line inLine (begins (space.apart _)) behind

/-- The lines of a macro are passed over, whatever words are in them. -/
theorem readText_body (body : List MacroLine) (behind : List Char) :
    readText true r ((macroBody body).toList ++ behind) = readText true r behind := by
  induction body with
  | nil => rfl
  | cons l body ih =>
      obtain ⟨⟨line, inLine⟩, c, there, other⟩ := l
      have left : trim line.toList ≠ [] := List.ne_nil_of_mem (mem_trim there other)
      refine Eq.trans ?_ ih
      simp only [macroBody, List.map_cons, String.join_cons, String.toList_append,
        List.append_assoc]
      rw [readText, show "\n".toList = ['\n'] from rfl, List.singleton_append, pieces_line inLine,
        readLines, if_pos rfl, decide_eq_true left]
      rfl

theorem readText_last {line : List Char} (inLine : '\n' ∉ line)
    (blank : ∀ c ∈ line, isBlank c = true) (behind : List Char) :
    readText true r (line ++ '\n' :: behind) = readText false r behind := by
  rw [readText, pieces_line inLine, readLines, if_pos rfl, trim_of_forall blank]
  rfl

theorem readText_aside (a : Aside) (behind : List Char) :
    readText false r (a.written.toList ++ behind) = readText false r behind := by
  cases a with
  | comment text =>
      unfold Aside.written
      rw [String.toList_append, String.toList_append, List.append_assoc]
      exact readText_comment text behind
  | definition name body last =>
      unfold Aside.written
      simp only [String.toList_append, List.append_assoc]
      rw [readText_macroHead, readText_body]
      exact readText_last last.val.property last.property behind

/-! ## Entries -/

/-- The entry that is being read, with the login so far. -/
def Head.draft : Head → Login → Draft
  | .machine _ host, l => .machine host.text l
  | .default, l => .default l

theorem readText_head (h : Head) (apart : Apart rest) :
    readText false r (h.written.toList ++ rest)
      = readText false ⟨r.close, h.draft ⟨"", ""⟩⟩ rest := by
  cases h with
  | machine space host =>
      simp only [Head.written, String.toList_append]
      refine readText_front ?_ fun line front => ?_
      · simp only [List.mem_append, not_or]
        exact ⟨⟨by decide, space.inLine⟩, host.inLine⟩
      · rw [List.append_assoc, List.append_assoc,
          lineWords_front (by decide) (forall_of_all (by decide)) (space.apart _), lineWords_skip space.blank,
          lineWords_front host.nonempty host.whole (apart.of_isPrefix front)]
        rw [readWords.eq_def]
        rfl
  | default =>
      refine readText_front (by decide) fun line front => ?_
      rw [Head.written, lineWords_front (by decide) (forall_of_all (by decide)) (apart.of_isPrefix front)]
      rw [readWords.eq_def]
      rfl

theorem readText_pair (p : Pair) {file : NetRc} (h : Head) (l : Login) (apart : Apart rest) :
    readText false ⟨file, h.draft l⟩ (p.written.toList ++ rest)
      = readText false ⟨file, h.draft (assign p.key.word p.value.text l)⟩ rest := by
  obtain ⟨key, space, value⟩ := p
  have plain : '\n' ∉ key.word.toList := by cases key <;> decide
  have nonempty : key.word ≠ "" := by cases key <;> decide
  have whole : ∀ c ∈ key.word.toList, isBlank c = false :=
    forall_of_all (by cases key <;> decide)
  simp only [Pair.written, String.toList_append]
  refine readText_front ?_ fun line front => ?_
  · simp only [List.mem_append, not_or]
    exact ⟨⟨plain, space.inLine⟩, value.inLine⟩
  · rw [List.append_assoc, List.append_assoc, lineWords_front nonempty whole (space.apart _),
      lineWords_skip space.blank,
      lineWords_front value.nonempty value.whole (apart.of_isPrefix front)]
    rw [readWords.eq_def]
    cases key <;> cases h <;> rfl

/-- How a part changes the login of its entry. -/
def Part.change (l : Login) : Part → Login
  | .pair p _ => assign p.key.word p.value.text l
  | .aside _ _ => l

theorem readText_parts (h : Head) (parts : List Part) {file : NetRc} (l : Login)
    (rest : List Char) :
    readText false ⟨file, h.draft l⟩ ((String.join (parts.map Part.written)).toList ++ rest)
      = readText false ⟨file, h.draft (parts.foldl Part.change l)⟩ rest := by
  induction parts generalizing l with
  | nil => rfl
  | cons part parts ih =>
      rw [List.map_cons, String.join_cons, String.toList_append, List.append_assoc,
        List.foldl_cons, ← ih]
      cases part with
      | pair p behind =>
          rw [Part.written, String.toList_append, List.append_assoc,
            readText_pair p h l (behind.apart _)]
          exact readText_blanks behind.blank _
      | aside a behind =>
          rw [Part.written, String.toList_append, List.append_assoc, readText_aside]
          exact readText_blanks behind.property _

theorem Part.change_eq (l : Login) (part : Part) :
    part.change l
      = ⟨(part.value? .login).getD l.username, (part.value? .password).getD l.password⟩ := by
  cases part with
  | pair p behind =>
      obtain ⟨key, space, value⟩ := p
      cases key <;> rfl
  | aside a behind => rfl

theorem lastValue_concat (key : Key) (parts : List Part) (part : Part) :
    lastValue key (parts ++ [part]) = (part.value? key).getD (lastValue key parts) := by
  unfold lastValue
  rw [List.filterMap_append, List.getLast?_append]
  cases here : part.value? key <;> simp [here]

theorem foldl_change (parts : List Part) :
    parts.foldl Part.change ⟨"", ""⟩ = ⟨lastValue .login parts, lastValue .password parts⟩ := by
  induction parts using List.reverseRecOn with
  | nil => rfl
  | append_singleton parts part ih =>
      rw [List.foldl_append, ih, List.foldl_cons, List.foldl_nil, Part.change_eq,
        lastValue_concat, lastValue_concat]

/-- An entry is read from its head to its last part, and it may go on. -/
theorem readText_entry (e : Entry) (rest : List Char) :
    readText false r (e.written.toList ++ rest)
      = readText false ⟨r.close, e.head.draft e.login⟩ rest := by
  rw [Entry.written, String.toList_append, String.toList_append, List.append_assoc,
    List.append_assoc, readText_head e.head (e.behind.apart _), readText_blanks e.behind.blank,
    readText_parts, foldl_change]
  rfl

/-! ## Files -/

/-- What is known behind a block. -/
def Block.read (r : Reader) : Block → Reader
  | .entry e => ⟨r.close, e.head.draft e.login⟩
  | .aside _ _ => r

theorem readText_blocks (blocks : List Block) (r : Reader) :
    readText false r (String.join (blocks.map Block.written)).toList
      = .ok (blocks.foldl Block.read r) := by
  induction blocks generalizing r with
  | nil => rfl
  | cons block blocks ih =>
      rw [List.map_cons, String.join_cons, String.toList_append, List.foldl_cons, ← ih]
      cases block with
      | entry e => exact readText_entry e _
      | aside a behind =>
          rw [Block.written, String.toList_append, List.append_assoc, readText_aside]
          exact readText_blanks behind.property _

def Entry.machine? (e : Entry) : Option Machine :=
  match e.head with
  | .machine _ host => some ⟨host.text, e.login⟩
  | .default => none

def Entry.default? (e : Entry) : Option Login :=
  match e.head with
  | .machine _ _ => none
  | .default => some e.login

def file (es : List Entry) : NetRc :=
  ⟨es.filterMap Entry.machine?, (es.filterMap Entry.default?).getLast?⟩

theorem close_foldl_read (blocks : List Block) :
    (blocks.foldl Block.read ⟨⟨[], none⟩, .none⟩).close = file (entries blocks) := by
  induction blocks using List.reverseRecOn with
  | nil => rfl
  | append_singleton blocks block ih =>
      rw [List.foldl_append, List.foldl_cons, List.foldl_nil, entries, List.filterMap_append]
      cases block with
      | entry e =>
          obtain ⟨head, behind, parts⟩ := e
          rw [Block.read, ih]
          cases head <;> simp [Reader.close, Head.draft, file, entries, Block.entry?,
            Entry.machine?, Entry.default?]
      | aside a behind =>
          rw [Block.read, ih, List.filterMap_cons_none rfl, List.filterMap_nil, List.append_nil]
          rfl

/-- What is written is read, with or without line ends at its end. -/
theorem parse_written {s : String} {before : Blanks} {blocks : List Block} {k : Nat}
    (written : s ++ String.ofList (List.replicate k '\n') = writtenFile before blocks) :
    parse s = .ok (file (entries blocks)) := by
  have read : readText false ⟨⟨[], none⟩, .none⟩ s.toList
      = .ok (blocks.foldl Block.read ⟨⟨[], none⟩, .none⟩) := by
    rw [← readText_lineEnds false _ s.toList k, ← String.toList_ofList (l := List.replicate k '\n'),
      ← String.toList_append, written, writtenFile, String.toList_append,
      readText_blanks before.property]
    exact readText_blocks blocks _
  rw [parse_eq, read, ← close_foldl_read]
  rfl

theorem find?_machines (es : List Entry) (host : String) :
    ((es.filterMap Entry.machine?).find? fun m => sameLetters m.host host).map (·.login)
      = (es.find? (·.isFor host)).map Entry.login := by
  have same : (fun e : Entry => e.machine?.any fun m => sameLetters m.host host)
      = fun e => e.isFor host := by
    funext e
    obtain ⟨head, behind, parts⟩ := e
    cases head <;> rfl
  rw [List.find?_filterMap, same]
  cases found : es.find? (·.isFor host) with
  | none => rfl
  | some e =>
      have its := List.find?_some found
      obtain ⟨head, behind, parts⟩ := e
      cases head with
      | machine space h => rfl
      | default => cases its

theorem filterMap_default? (es : List Entry) :
    es.filterMap Entry.default? = (es.filter (·.isDefault)).map Entry.login := by
  induction es with
  | nil => rfl
  | cons e es ih =>
      obtain ⟨head, behind, parts⟩ := e
      cases head with
      | machine space host =>
          rw [List.filterMap_cons_none rfl, List.filter_cons_of_neg Bool.false_ne_true, ih]
      | default =>
          have here : Entry.default? ⟨.default, behind, parts⟩
              = some (Entry.login ⟨.default, behind, parts⟩) := rfl
          rw [List.filterMap_cons_some here, List.filter_cons_of_pos rfl, List.map_cons, ih]

/-- Whatever blocks a file is made of, it is read, and for every host the login is found that was
written for it: the last values of the first entry for the host, else those of the last default
entry.  The line ends at the end of the file may be missing. -/
theorem credentials_of_written {s : String} {before : Blanks} {blocks : List Block} {k : Nat}
    (written : s ++ String.ofList (List.replicate k '\n') = writtenFile before blocks) :
    ∃ n, parse s = .ok n ∧ ∀ host, n.login? host = credentials blocks host := by
  refine ⟨file (entries blocks), parse_written written, fun host => ?_⟩
  rw [login?, file, find?_machines, filterMap_default?, List.getLast?_map, ← Option.map_or]
  rfl

namespace Sample

def space : Space := ⟨⟨" ", by decide, forall_of_all (by decide)⟩, by decide⟩

def lineEnd : Gap := ⟨"\n", by decide, forall_of_all (by decide)⟩

def noBlanks : Blanks := ⟨"", forall_of_all (by decide)⟩

/-- Keywords and texts that begin with `#` where values stand, comments and macros anywhere, two
entries for one machine, and two default entries. -/
def blocks : List Block :=
  let login : Word := ⟨"#a", by decide, forall_of_all (by decide)⟩
  let last : Word := ⟨"bob", by decide, forall_of_all (by decide)⟩
  let keyword : Word := ⟨"machine", by decide, forall_of_all (by decide)⟩
  let upper : Word := ⟨"Q.TEST", by decide, forall_of_all (by decide)⟩
  let lower : Word := ⟨"q.test", by decide, forall_of_all (by decide)⟩
  [.aside (.comment ⟨" personal", by decide⟩) ⟨"  ", forall_of_all (by decide)⟩,
    .entry ⟨.machine space upper, space.toGap,
      [.pair ⟨.login, space, login⟩ space.toGap, .pair ⟨.password, space, keyword⟩ lineEnd,
        .aside (.comment ⟨"login c", by decide⟩) noBlanks,
        .pair ⟨.account, space, keyword⟩ lineEnd, .pair ⟨.login, space, last⟩ lineEnd]⟩,
    .entry ⟨.default, space.toGap, [.pair ⟨.login, space, last⟩ space.toGap]⟩,
    .aside (.definition (some (space, ⟨"init", by decide⟩))
      [⟨⟨"machine q.test login d", by decide⟩, 'm', by decide, rfl⟩]
      ⟨⟨"\t", by decide⟩, forall_of_all (by decide)⟩) noBlanks,
    .entry ⟨.machine space lower, space.toGap, [.pair ⟨.login, space, login⟩ lineEnd]⟩,
    .entry ⟨.default, lineEnd, [.pair ⟨.password, space, keyword⟩ lineEnd]⟩]

def text : String :=
  "# personal\n  machine Q.TEST login #a password machine\n#login c\naccount machine\nlogin bob\n"
    ++ "default login bob macdef init\nmachine q.test login d\n\t\n"
    ++ "machine q.test login #a\ndefault\npassword machine"

end Sample

theorem credentials_of_written_of_oddities :
    Sample.text ++ "\n" = writtenFile Sample.noBlanks Sample.blocks ∧
      ∃ n, parse Sample.text = .ok n ∧
        n.login? "q.test" = some ⟨"bob", "machine"⟩ ∧ n.login? "r.test" = some ⟨"", "machine"⟩ := by
  have written : Sample.text ++ String.ofList (List.replicate 1 '\n')
      = writtenFile Sample.noBlanks Sample.blocks := by decide +kernel
  obtain ⟨n, read, found⟩ := credentials_of_written written
  refine ⟨written, n, read, ?_, ?_⟩
  · rw [found]
    decide +kernel
  · rw [found]
    decide +kernel

end HttpClient.Auth.NetRc
