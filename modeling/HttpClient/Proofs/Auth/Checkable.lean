/-
# What a server can check of a digest answer

A server that knows the password computes the response itself, from the fields of the answer and
the method, and compares (`Answer.expected`).  All that is hashed stands in the fields then, with
one exception.  A session algorithm hashes the client nonce, but the client nonce is a field only if
the quality `auth` is used: an answer with a session algorithm and without a quality conceals what
it was made with (`Answer.Conceals`).

Any other answer is determined by what is seen of it (`checkable_or_concealed`), while one that
conceals its client nonce looks the same for every other nonce, and says something else
(`concealed_responses_differ`).
-/
import HttpClient.Proofs.Auth.Answer

namespace HttpClient.Auth.Digest

/-! ## The fields that are seen -/

namespace Answer

theorem quotedField_inj {name v w : String} :
    quotedField name v = quotedField name w ↔ v = w := by
  constructor
  · intro same
    have letters := congrArg String.toList same
    simp only [quotedField, String.toList_append, List.append_assoc] at letters
    exact String.toList_inj.mp (List.append_cancel_right
      (List.append_cancel_left (List.append_cancel_left letters)))
  · rintro rfl
    rfl

/-- The fields of an answer say all that there is in it.  How many they are tells which of the
optional ones are there. -/
theorem fields_inj {a b : Answer} (h : a.fields = b.fields) : a = b := by
  obtain ⟨username, realm, nonce, uri, response, algorithm, o, counted⟩ := a
  obtain ⟨username', realm', nonce', uri', response', algorithm', o', counted'⟩ := b
  simp only [fields, List.cons_append, List.nil_append, List.cons.injEq, quotedField_inj,
    String.append_right_inj] at h
  obtain ⟨rfl, rfl, rfl, rfl, rfl, rfl, optional⟩ := h
  have same : o = o' ∧ counted = counted' := by
    rcases o with _ | o <;> rcases o' with _ | o' <;> rcases counted with _ | ⟨nc, cnonce⟩ <;>
      rcases counted' with _ | ⟨nc', cnonce'⟩ <;>
      simp_all [quotedField_inj]
  rw [same.1, same.2]

def blank (a : Answer) : Answer := { a with response := "" }

/-- The response that a server computes which knows the password, from the fields that it sees and
the method of the request. -/
def expected (a : Answer) (password method : String) : Except ChallengeFault String := do
  let algorithm ← Algorithm.parse a.algorithm
  let plain := algorithm.hash [a.username, a.realm, password]
  let second := algorithm.hash [method, a.uri]
  match a.counted with
  | some k =>
      let first :=
        if algorithm.session then algorithm.hash [plain, a.nonce, k.clientNonce] else plain
      return algorithm.hash [first, a.nonce, k.count, k.clientNonce, "auth", second]
  | none => return algorithm.hash [plain, a.nonce, second]

theorem expected_blank (a : Answer) : a.blank.expected = a.expected := rfl

/-- The algorithm hashes the client nonce, and there is no field for it. -/
def Conceals (a : Answer) : Prop :=
  a.counted = none ∧ ∃ algorithm, Algorithm.parse a.algorithm = .ok algorithm ∧
    algorithm.session = true

theorem conceals_blank (a : Answer) : a.blank.Conceals ↔ a.Conceals := Iff.rfl

end Answer

/-! ## Answers that are made -/

variable {login : Login} {c : Challenge} {method uri clientNonce : String} {count : UInt32}
  {a : Answer}

/-- What the server computes is what is there, unless something is concealed. -/
theorem expected_of_answer (made : answer login c method uri count clientNonce = .ok a)
    (shown : ¬ a.Conceals) : a.expected login.password method = .ok a.response := by
  obtain ⟨algorithm, used, named, -, rfl⟩ := answer_eq_ok_iff.mp made
  cases used with
  | true => simp [Answer.expected, loginHash, named, bind, Except.bind, pure, Except.pure]
  | false =>
      have plain : algorithm.session = false :=
        eq_false_of_ne_true fun session => shown ⟨rfl, algorithm, named, session⟩
      simp [Answer.expected, loginHash, named, plain, bind, Except.bind, pure, Except.pure]

/-- An answer that conceals its client nonce could have been made with any other, of which nothing
would be seen but the response. -/
theorem answer_of_conceals (made : answer login c method uri count clientNonce = .ok a)
    (concealed : a.Conceals) (other : String) :
    ∃ b algorithm, answer login c method uri count other = .ok b ∧ b.blank = a.blank ∧
      Algorithm.parse a.algorithm = .ok algorithm ∧
      b.response = algorithm.hash
        [algorithm.hash [algorithm.hash [a.username, a.realm, login.password], a.nonce, other],
          a.nonce, algorithm.hash [method, uri]] := by
  obtain ⟨algorithm, used, named, offered, rfl⟩ := answer_eq_ok_iff.mp made
  obtain ⟨uncounted, algorithm', named', session⟩ := concealed
  cases named.symm.trans named'
  cases used with
  | true => cases uncounted
  | false =>
      refine ⟨_, algorithm, answer_eq_ok_iff.mpr ⟨algorithm, false, named, offered, rfl⟩, ?_, named,
        ?_⟩
      · simp only [Answer.blank, Bool.false_eq_true, if_false]
      · simp [loginHash, session]

/-- An answer is determined by the password, the method and the fields that are seen of it, and is
what a server computes from them, unless it conceals its client nonce.  Then there is an answer that
looks the same for every other client nonce, and that one is hashed into the response. -/
theorem checkable_or_concealed {login login' : Login} {c c' : Challenge}
    {method uri uri' clientNonce clientNonce' : String} {count count' : UInt32} {a b : Answer}
    (made : answer login c method uri count clientNonce = .ok a)
    (made' : answer login' c' method uri' count' clientNonce' = .ok b)
    (password : login'.password = login.password) (same : b.blank.fields = a.blank.fields) :
    (¬ a.Conceals →
      a.expected login.password method = .ok a.response ∧ b.response = a.response) ∧
    (a.Conceals → ∀ other, ∃ d algorithm,
      answer login c method uri count other = .ok d ∧ d.blank = a.blank ∧
      Algorithm.parse a.algorithm = .ok algorithm ∧
      d.response = algorithm.hash
        [algorithm.hash [algorithm.hash [a.username, a.realm, login.password], a.nonce, other],
          a.nonce, algorithm.hash [method, uri]]) := by
  refine ⟨fun shown => ?_, answer_of_conceals made⟩
  have alike : b.blank = a.blank := Answer.fields_inj same
  have shown' : ¬ b.Conceals := by
    rw [← Answer.conceals_blank, alike]
    exact shown
  have first := expected_of_answer made shown
  have second := expected_of_answer made' shown'
  rw [password, ← Answer.expected_blank, alike, Answer.expected_blank, first] at second
  exact ⟨first, (Except.ok.inj second).symm⟩

/-- Without a quality and with an algorithm that is not one for sessions, neither the client nonce
nor the count matters. -/
theorem checkable_or_concealed_of_legacy :
    ∃ a b : Answer,
      answer ⟨"u", "p"⟩ ⟨"r", "n", some "o", none, "md5"⟩ "GET" "/" 1 "x" = .ok a ∧
      answer ⟨"u", "p"⟩ ⟨"r", "n", some "o", none, "md5"⟩ "GET" "/" 2 "y" = .ok b ∧
      a.expected "p" "GET" = .ok a.response ∧ b.response = a.response := by
  have made : answer ⟨"u", "p"⟩ ⟨"r", "n", some "o", none, "md5"⟩ "GET" "/" 1 "x" = .ok _ := rfl
  have made' : answer ⟨"u", "p"⟩ ⟨"r", "n", some "o", none, "md5"⟩ "GET" "/" 2 "y" = .ok _ := rfl
  have named : Algorithm.parse "md5" = .ok ⟨.md5, false⟩ := by decide +kernel
  refine ⟨_, _, made, made', (checkable_or_concealed made made' rfl ?_).1 ?_⟩
  · decide +kernel
  · rintro ⟨-, algorithm, named', session⟩
    cases named.symm.trans named'
    cases session

/-- Two answers to one challenge that differ in nothing but the response. -/
theorem concealed_responses_differ :
    ∃ a b : Answer,
      answer ⟨"u", "p"⟩ ⟨"r", "n", none, none, "MD5-sess"⟩ "GET" "/" 1 "x" = .ok a ∧
      answer ⟨"u", "p"⟩ ⟨"r", "n", none, none, "MD5-sess"⟩ "GET" "/" 1 "y" = .ok b ∧
      b.blank.fields = a.blank.fields ∧ b.response ≠ a.response := by
  refine ⟨_, _, rfl, rfl, ?_, ?_⟩
  · decide +kernel
  · decide +kernel

end HttpClient.Auth.Digest
