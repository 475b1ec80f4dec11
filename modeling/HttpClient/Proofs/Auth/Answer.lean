/-
# Digest answers read back

The `Authorization` value of a digest answer is a list of parameters, as a challenge is.
Read as one, it says again what was asked: the realm, the nonce, the opaque text and the
algorithm of the challenge, and that the quality `auth` is used, if it is.

That is so for texts in which nothing needs protection.  The reader of challenges takes
the protecting backslashes off, and the writer of answers puts none back.  So a realm, a
nonce or an opaque text with a backslash comes back as another one, and a text that
cannot stand between quotes at all (`isQuotable`) breaks the list: `answer_reads_back`
says exactly what is read where the texts can stand between quotes, and
`answer_with_quote_unread` shows what becomes of a quote.
-/
import HttpClient.Auth.Digest
import HttpClient.Proofs.Auth.QuotedList
import HttpClient.Proofs.Text.Characters

namespace HttpClient

open Text Auth

/-! ## Texts that stand in a list as they are -/

theorem Hex.digit_plain : ∀ n < 16, isPlain (digit n) = true ∧ digit n ≠ '\\' := by decide

theorem Hex.encode_plain (bytes : Bytes) :
    ∀ c ∈ (encode bytes).toList, isPlain c = true ∧ c ≠ '\\' := by
  intro c there
  obtain ⟨n, small, rfl⟩ := exists_of_mem_encode there
  exact digit_plain n small

theorem Hex.digitChar_plain : ∀ d < 16, isPlain (Nat.digitChar d) = true := by decide

theorem Hex.padded_plain (n : Nat) :
    (padded 8 n).toList ≠ [] ∧ ∀ c ∈ (padded 8 n).toList, isPlain c = true := by
  constructor
  · intro hnil
    have lengths := congrArg List.length hnil
    simp only [padded, String.toList_ofList, List.length_append, List.length_replicate,
      List.length_nil] at lengths
    omega
  · intro c there
    obtain ⟨d, small, rfl⟩ := exists_of_mem_padded there
    exact digitChar_plain d small

theorem Auth.isPlain_of_toUpper {c : Char} (h : isPlain c.toUpper = true) : isPlain c = true := by
  unfold Char.toUpper at h
  split at h
  · rename_i lower
    exact (isPlain_of_isLower ((isLower_iff c).mpr lower)).1
  · exact h

namespace Auth

theorem Algorithm.names_plain :
    ∀ p ∈ Algorithm.names, p.1.toList ≠ [] ∧ ∀ c ∈ p.1.toList, isPlain c = true := by
  have all : ∀ p ∈ Algorithm.names, p.1.toList ≠ [] ∧ p.1.toList.all isPlain = true := by decide
  exact fun p there => ⟨(all p there).1, List.all_eq_true.mp (all p there).2⟩

theorem Algorithm.plain_of_parse {s : String} {a : Algorithm} (h : Algorithm.parse s = .ok a) :
    s.toList ≠ [] ∧ ∀ c ∈ s.toList, isPlain c = true := by
  unfold Algorithm.parse at h
  split at h
  · rename_i name _ found
    have named : name = upper s := by
      have same := List.find?_some found
      simpa using same
    obtain ⟨hne, plain⟩ := Algorithm.names_plain _ (List.mem_of_find?_eq_some found)
    have letters : name.toList = s.toList.map Char.toUpper := by
      rw [named, upper, String.toList_ofList]
    rw [letters] at hne plain
    exact ⟨mt List.map_eq_nil_iff.mpr hne, fun c there =>
      isPlain_of_toUpper (plain _ (List.mem_map_of_mem there))⟩
  · cases h

/-! ## What is written, and what is read -/

namespace Digest

namespace Answer

/-- The texts that an answer writes between quotes and that it has not made itself. -/
def quoted (a : Answer) : List String :=
  [a.username, a.realm, a.nonce, a.uri] ++ a.opaqueText.toList ++
    a.counted.toList.map (·.clientNonce)

/-- A text as it is read from between quotes. -/
def reread (s : String) : String := String.ofList (unescape s.toList)

theorem reread_eq_self_iff (s : String) : reread s = s ↔ '\\' ∉ s.toList := by
  rw [reread, ← String.toList_inj, String.toList_ofList, unescape_eq_self_iff]

/-- The parameters that are read from the fields of an answer. -/
def parameters (a : Answer) : List Challenge.Parameter :=
  [("username", reread a.username), ("realm", reread a.realm), ("nonce", reread a.nonce),
    ("uri", reread a.uri), ("response", reread a.response), ("algorithm", a.algorithm)]
  ++ (match a.opaqueText with
    | some o => [("opaque", reread o)]
    | none => [])
  ++ (match a.counted with
    | some c => [("qop", "auth"), ("nc", c.count), ("cnonce", reread c.clientNonce)]
    | none => [])

/-- The challenge that an answer is read as. -/
def asChallenge (a : Answer) : Challenge where
  realm := reread a.realm
  nonce := reread a.nonce
  opaqueText := a.opaqueText.map reread
  qop := a.counted.map fun _ => "auth"
  algorithm := a.algorithm

theorem ofParameters_parameters (a : Answer) :
    Challenge.ofParameters a.parameters = .ok a.asChallenge := by
  obtain ⟨_, _, _, _, _, _, o, counted⟩ := a
  cases o with
  | none => cases counted <;> rfl
  | some o => cases counted <;> rfl

/-- The parts of an answer that are written without quotes, or that it has made itself, are
plain. -/
structure Sound (a : Answer) : Prop where
  response : ∀ c ∈ a.response.toList, isPlain c = true ∧ c ≠ '\\'
  algorithm : a.algorithm.toList ≠ [] ∧ ∀ c ∈ a.algorithm.toList, isPlain c = true
  count : ∀ counted, a.counted = some counted →
    counted.count.toList ≠ [] ∧ ∀ c ∈ counted.count.toList, isPlain c = true

theorem reads_fields {a : Answer} (sound : a.Sound)
    (quotable : ∀ t ∈ a.quoted, isQuotable t.toList = true) :
    List.Forall₂ Reads a.fields a.parameters := by
  have quoted {name t : String} (named : isName name = true) (there : t ∈ a.quoted) :
      Reads (quotedField name t) (name, reread t) := reads_quoted named (quotable t there)
  have response : Reads (quotedField "response" a.response) ("response", reread a.response) :=
    reads_quoted (by decide) <| isQuotable_of_forall fun c there =>
      ⟨((isPlain_iff c).mp (sound.response c there).1).1, (sound.response c there).2⟩
  have algorithm : Reads ("algorithm=" ++ a.algorithm) ("algorithm", a.algorithm) :=
    @reads_plain "algorithm" _ (by decide) sound.algorithm.1 sound.algorithm.2
  unfold fields parameters
  refine List.rel_append (List.rel_append ?_ ?_) ?_
  · refine .cons (quoted (by decide) ?_) (.cons (quoted (by decide) ?_) (.cons
      (quoted (by decide) ?_) (.cons (quoted (by decide) ?_) (.cons response (.cons algorithm
      .nil)))))
    all_goals simp [Answer.quoted]
  · cases found : a.opaqueText with
    | none => exact .nil
    | some o => exact .cons (quoted (by decide) (by simp [Answer.quoted, found])) .nil
  · cases found : a.counted with
    | none => exact .nil
    | some counted =>
        obtain ⟨hne, plain⟩ := sound.count counted found
        exact .cons (@reads_plain "qop" "auth" (by decide) (by decide)
            (List.all_eq_true.mp (by decide)))
          (.cons (@reads_plain "nc" _ (by decide) hne plain)
            (.cons (quoted (by decide) (by simp [Answer.quoted, found])) .nil))

theorem parse_text {a : Answer} (sound : a.Sound)
    (quotable : ∀ t ∈ a.quoted, isQuotable t.toList = true) :
    Challenge.parse a.text = .ok a.asChallenge := by
  have hne : a.fields ≠ [] := by simp [fields]
  rw [text, parse_join (reads_fields sound quotable) hne, ofParameters_parameters]

end Answer

/-! ## Answers to challenges -/

variable {login : Login} {c : Challenge} {method uri clientNonce : String} {count : UInt32}
  {a : Answer}

theorem answer_eq_ok_iff : answer login c method uri count clientNonce = .ok a ↔
    ∃ (algorithm : Algorithm) (used : Bool),
      Algorithm.parse c.algorithm = .ok algorithm ∧ c.usesAuth = .ok used ∧
      a = { username := login.username
            realm := c.realm
            nonce := c.nonce
            uri
            response :=
              if used then
                algorithm.hash [loginHash algorithm c login clientNonce, c.nonce,
                  Hex.padded 8 count.toNat, clientNonce, "auth", algorithm.hash [method, uri]]
              else
                algorithm.hash [loginHash algorithm c login clientNonce, c.nonce,
                  algorithm.hash [method, uri]]
            algorithm := c.algorithm
            opaqueText := c.opaqueText
            counted := if used then some ⟨Hex.padded 8 count.toNat, clientNonce⟩ else none } := by
  constructor
  · intro h
    unfold answer at h
    cases named : Algorithm.parse c.algorithm with
    | error e => simp [named, bind, Except.bind] at h
    | ok algorithm =>
        cases offered : c.usesAuth with
        | error e => simp [named, offered, bind, Except.bind] at h
        | ok used =>
            simp only [named, offered, bind, Except.bind, pure, Except.pure] at h
            cases h
            exact ⟨algorithm, used, rfl, rfl, rfl⟩
  · rintro ⟨algorithm, used, named, offered, rfl⟩
    simp only [answer, named, offered, bind, Except.bind, pure, Except.pure]

theorem answer_ok (h : answer login c method uri count clientNonce = .ok a) :
    ∃ (algorithm : Algorithm) (used : Bool) (hashed : Bytes),
      Algorithm.parse c.algorithm = .ok algorithm ∧ c.usesAuth = .ok used ∧
      a = { username := login.username
            realm := c.realm
            nonce := c.nonce
            uri
            response := Hex.encode hashed
            algorithm := c.algorithm
            opaqueText := c.opaqueText
            counted := if used then some ⟨Hex.padded 8 count.toNat, clientNonce⟩ else none } := by
  obtain ⟨algorithm, used, named, offered, rfl⟩ := answer_eq_ok_iff.mp h
  cases used <;> exact ⟨algorithm, _, _, named, offered, rfl⟩

theorem answer_sound (h : answer login c method uri count clientNonce = .ok a) : a.Sound := by
  obtain ⟨algorithm, used, hashed, named, -, rfl⟩ := answer_ok h
  refine ⟨Hex.encode_plain hashed, Algorithm.plain_of_parse named, ?_⟩
  intro counted same
  cases used with
  | false => cases same
  | true =>
      cases same
      exact Hex.padded_plain count.toNat

/-- The texts of a challenge that come back in its answer between quotes. -/
def asked (c : Challenge) : List String := c.realm :: c.nonce :: c.opaqueText.toList

theorem reread_asked_iff (c : Challenge) :
    (Answer.reread c.realm = c.realm ∧ Answer.reread c.nonce = c.nonce ∧
        c.opaqueText.map Answer.reread = c.opaqueText) ↔
      ∀ t ∈ asked c, '\\' ∉ t.toList := by
  have same : c.opaqueText.map Answer.reread = c.opaqueText ↔
      ∀ t ∈ c.opaqueText.toList, '\\' ∉ t.toList := by
    cases c.opaqueText with
    | none => simp
    | some o => simp [Answer.reread_eq_self_iff]
  rw [asked, List.forall_mem_cons, List.forall_mem_cons, ← same, Answer.reread_eq_self_iff,
    Answer.reread_eq_self_iff]

/-- An answer whose texts can stand between quotes is read as a challenge with the algorithm that
was asked for and the quality that is used.  It says what was asked again exactly if nothing in it
is protected by a backslash. -/
theorem answer_reads_back (h : answer login c method uri count clientNonce = .ok a)
    (quotable : ∀ t ∈ a.quoted, isQuotable t.toList = true) :
    ∃ (read : Challenge) (used : Bool),
      Challenge.parse a.text = .ok read ∧ c.usesAuth = .ok used ∧
      read.algorithm = c.algorithm ∧ read.qop = (if used then some "auth" else none) ∧
      ((read.realm = c.realm ∧ read.nonce = c.nonce ∧ read.opaqueText = c.opaqueText) ↔
        ∀ t ∈ asked c, '\\' ∉ t.toList) := by
  have read := Answer.parse_text (answer_sound h) quotable
  obtain ⟨algorithm, used, hashed, -, offered, rfl⟩ := answer_ok h
  refine ⟨_, used, read, offered, rfl, ?_, reread_asked_iff c⟩
  cases used <;> rfl

/-- A comma and an equals sign between quotes, and a quote in the name of the user that is
protected. -/
theorem answer_reads_back_protected :
    ∃ (c : Challenge) (a : Answer) (read : Challenge) (used : Bool),
      Challenge.parse
        "Digest realm=\"a, b=c\", nonce=n, qop=\"auth-int, auth\", opaque=\"\", algorithm=md5-sess" =
          .ok c ∧
      answer ⟨"\\\"u\\\"", "p"⟩ c "GET" "/?q=1,2" 255 "cn" = .ok a ∧
      (∀ t ∈ a.quoted, isQuotable t.toList = true) ∧
      Challenge.parse a.text = .ok read ∧ c.usesAuth = .ok used ∧
      read.algorithm = c.algorithm ∧ read.qop = (if used then some "auth" else none) ∧
      ((read.realm = c.realm ∧ read.nonce = c.nonce ∧ read.opaqueText = c.opaqueText) ↔
        ∀ t ∈ asked c, '\\' ∉ t.toList) := by
  have made : answer ⟨"\\\"u\\\"", "p"⟩ ⟨"a, b=c", "n", some "", some "auth-int, auth", "md5-sess"⟩
      "GET" "/?q=1,2" 255 "cn" = .ok _ := rfl
  obtain ⟨read, used, back⟩ := answer_reads_back made (by decide +kernel)
  exact ⟨_, _, read, used, by decide +kernel, made, by decide +kernel, back⟩

/-- The quote in a realm is not protected in the answer, which cannot be read. -/
theorem answer_with_quote_unread :
    ∃ (c : Challenge) (a : Answer),
      Challenge.parse "Digest realm=\"a\\\"b\", nonce=\"n\"" = .ok c ∧
      answer ⟨"u", "p"⟩ c "GET" "/" 1 "cn" = .ok a ∧
      Challenge.parse a.text = .error .unbalancedQuotes := by
  refine ⟨_, _, rfl, rfl, ?_⟩
  decide +kernel

end Digest

end Auth

end HttpClient
