/-
# Answers that can be written

An answer becomes the value of a header field, which only a text without controls can be.  The parts
of a challenge are taken from a header field themselves, and the reader of challenges only leaves
characters out, so they are legible.  What an answer is made of besides is hexadecimal, or comes
from the account and the request.  So an account whose user name and client nonces are legible can
write the answer to every challenge that can be answered at all, for every url that is coded
(`Account.answered_ok`), whatever it has been used for before (`Store.Reached.isLegible`).
-/
import HttpClient.Proofs.Auth.Answer
import HttpClient.Proofs.Auth.Signing
import HttpClient.Proofs.Auth.Unchecked
import HttpClient.Proofs.Url.Coded

namespace HttpClient

open Text Auth

/-! ## Hexadecimal -/

namespace Hex

theorem digit_legible : ∀ n < 16, isLegible (digit n) = true := by decide

theorem encode_legible (bytes : Bytes) : Legible (encode bytes) := by
  intro c there
  obtain ⟨n, small, rfl⟩ := exists_of_mem_encode there
  exact digit_legible n small

theorem digitChar_legible : ∀ d < 16, isLegible (Nat.digitChar d) = true := by decide

theorem padded_legible (width n : Nat) : Legible (padded width n) := by
  intro c there
  obtain ⟨d, small, rfl⟩ := exists_of_mem_padded there
  exact digitChar_legible d small

end Hex

namespace Auth

/-! ## Parts of a challenge -/

variable {cs part : List Char} {c : Char}

theorem mem_of_mem_scanList {q : Quoting} {ps : List (List Char)} (h : scanList q cs = some ps)
    (among : part ∈ ps) (there : c ∈ part) : c ∈ cs := by
  induction cs generalizing q ps part with
  | nil =>
      rw [scanList] at h
      split at h
      · cases h
        cases List.mem_singleton.mp among
        cases there
      · cases h
  | cons d cs ih =>
      by_cases separates : q = .outside ∧ d = ','
      · rw [scanList, if_pos (by simpa using separates)] at h
        obtain ⟨ps', found, rfl⟩ := Option.map_eq_some_iff.mp h
        rcases List.mem_cons.mp among with rfl | among
        · cases there
        · exact List.mem_cons_of_mem d (ih found among there)
      · rw [scanList_cons cs separates] at h
        obtain ⟨ps', found, rfl⟩ := Option.map_eq_some_iff.mp h
        cases ps' with
        | nil => exact absurd rfl (scanList_ne_nil found)
        | cons p ps' =>
            rcases List.mem_cons.mp among with rfl | among
            · rcases List.mem_cons.mp there with rfl | there
              · exact List.mem_cons_self
              · exact List.mem_cons_of_mem d (ih found List.mem_cons_self there)
            · exact List.mem_cons_of_mem d (ih found (List.mem_cons_of_mem p among) there)

theorem mem_of_mem_splitList {items : List (List Char)} (h : splitList cs = some items)
    (among : part ∈ items) (there : c ∈ part) : c ∈ cs := by
  obtain ⟨ps, found, rfl⟩ := Option.map_eq_some_iff.mp h
  obtain ⟨p, piece, rfl⟩ := List.mem_map.mp (List.mem_filter.mp among).1
  exact mem_of_mem_scanList found piece (mem_of_mem_trim there)

theorem mem_of_mem_unescape (h : c ∈ unescape cs) : c ∈ cs := by
  fun_induction unescape cs with
  | case1 => exact h
  | case2 => cases h
  | case3 d cs ih =>
      rcases List.mem_cons.mp h with rfl | h
      · exact List.mem_cons_of_mem _ List.mem_cons_self
      · exact List.mem_cons_of_mem _ (List.mem_cons_of_mem _ (ih h))
  | case4 d cs _ _ ih =>
      rcases List.mem_cons.mp h with rfl | h
      · exact List.mem_cons_self
      · exact List.mem_cons_of_mem _ (ih h)

theorem mem_of_mem_unquote (h : c ∈ unquote cs) : c ∈ cs := by
  refine mem_of_mem_trim ?_
  simp only [unquote, betweenQuotes?] at h
  split at h
  · rename_i inner found
    split at found
    · rename_i rest text
      split at found
      · cases found
        rw [text]
        exact List.mem_cons_of_mem _ (rest.dropLast_subset (mem_of_mem_unescape h))
      · cases found
    · cases found
  · exact h

namespace Challenge

/-- All that a challenge hands on is legible. -/
structure IsLegible (ch : Challenge) : Prop where
  realm : Legible ch.realm
  nonce : Legible ch.nonce
  opaqueText : ∀ o, ch.opaqueText = some o → Legible o
  algorithm : Legible ch.algorithm

theorem exists_of_mem_mapM {items : List (List Char)} {ps : List Parameter}
    (h : items.mapM parameter = .ok ps) : ∀ p ∈ ps, ∃ item ∈ items, parameter item = .ok p := by
  induction items generalizing ps with
  | nil =>
      cases h
      exact fun _ h => absurd h List.not_mem_nil
  | cons item items ih =>
      rw [List.mapM_cons] at h
      obtain ⟨p, first, h⟩ := Url.ok_of_bind h
      obtain ⟨others, later, h⟩ := Url.ok_of_bind h
      cases h
      refine List.forall_mem_cons.mpr ⟨⟨item, List.mem_cons_self, first⟩, fun p among => ?_⟩
      obtain ⟨item', there, read⟩ := ih later p among
      exact ⟨item', List.mem_cons_of_mem item there, read⟩

theorem mem_of_parameter {item : List Char} {p : Parameter} (h : parameter item = .ok p)
    (there : c ∈ p.2.toList) : c ∈ item := by
  unfold parameter at h
  split at h
  · cases h
  · rename_i key value found
    cases h
    rw [String.toList_ofList] at there
    rw [cut_eq found]
    exact List.mem_append_right _ (List.mem_cons_of_mem _ (mem_of_mem_unquote there))

theorem parse_ok {s : String} {ch : Challenge} (h : parse s = .ok ch) :
    ∃ ps : List Parameter, ofParameters ps = .ok ch ∧
      ∀ p ∈ ps, ∀ c ∈ p.2.toList, c ∈ s.toList := by
  simp only [parse] at h
  split at h
  · split at h
    · cases h
    · rename_i items found
      obtain ⟨ps, read, whole⟩ := Url.ok_of_bind (f := ofParameters) h
      refine ⟨ps, whole, fun p among c there => mem_of_mem_trim ?_⟩
      obtain ⟨item, listed, itself⟩ := exists_of_mem_mapM read p among
      have inside := mem_of_mem_splitList found listed (mem_of_parameter itself there)
      cases parts : cut ' ' (trim s.toList) with
      | none =>
          rw [parts] at inside
          cases inside
      | some pair =>
          rw [parts] at inside
          rw [cut_eq parts]
          exact List.mem_append_right _ (List.mem_cons_of_mem _ inside)
  · cases h

theorem exists_of_last? {name v : String} {ps : List Parameter} (h : last? name ps = some v) :
    ∃ p ∈ ps, p.2 = v := by
  obtain ⟨p, among, same⟩ := List.mem_map.mp (List.mem_of_getLast? h)
  exact ⟨p, (List.mem_filter.mp among).1, same⟩

theorem isLegible_of_parse {s : String} {ch : Challenge} (legible : Legible s)
    (h : parse s = .ok ch) : ch.IsLegible := by
  obtain ⟨ps, whole, inside⟩ := parse_ok h
  have values {name v : String} (found : last? name ps = some v) : Legible v := by
    obtain ⟨p, among, rfl⟩ := exists_of_last? found
    exact fun c there => legible c (inside p among c there)
  unfold ofParameters at whole
  split at whole
  · rename_i realm nonce found found'
    cases whole
    refine ⟨values found, values found', fun _ => values, ?_⟩
    cases named : last? "algorithm" ps with
    | none =>
        show Legible "MD5"
        decide
    | some name => exact values named
  · cases whole

end Challenge

namespace Digest

/-! ## Answers -/

/-- What an account puts into answers itself is legible. -/
structure Account.IsLegible (a : Account) : Prop where
  username : Legible a.login.username
  clientNonce : ∀ count nonce, Legible (a.clientNonce count nonce)

theorem Answer.quotedField_legible {name value : String} (hn : Legible name) (hv : Legible value) :
    Legible (quotedField name value) :=
  ((hn.append (by decide)).append hv).append (by decide)

theorem Answer.text_legible {a : Answer} (quoted : ∀ t ∈ a.quoted, Legible t)
    (response : Legible a.response) (algorithm : Legible a.algorithm)
    (count : ∀ counted, a.counted = some counted → Legible counted.count) : Legible a.text := by
  have field {name t : String} (named : Legible name) (among : t ∈ a.quoted) :
      Legible (quotedField name t) := quotedField_legible named (quoted t among)
  have fields : ∀ f ∈ a.fields, Legible f := by
    unfold Answer.fields
    refine List.forall_mem_append.mpr ⟨List.forall_mem_append.mpr ⟨?_, ?_⟩, ?_⟩
    · simp only [List.forall_mem_cons]
      exact ⟨field (by decide) (by simp [Answer.quoted]),
        field (by decide) (by simp [Answer.quoted]), field (by decide) (by simp [Answer.quoted]),
        field (by decide) (by simp [Answer.quoted]),
        quotedField_legible (by decide) response, .append (by decide) algorithm,
        fun _ h => absurd h List.not_mem_nil⟩
    · cases found : a.opaqueText with
      | none => exact fun _ h => absurd h List.not_mem_nil
      | some o =>
          refine List.forall_mem_singleton.mpr (field (by decide) ?_)
          simp [Answer.quoted, found]
    · cases found : a.counted with
      | none => exact fun _ h => absurd h List.not_mem_nil
      | some counted =>
          simp only [List.forall_mem_cons]
          exact ⟨by decide, .append (by decide) (count counted found),
            field (by decide) (by simp [Answer.quoted, found]),
            fun _ h => absurd h List.not_mem_nil⟩
  exact .append (by decide) (.join (by decide) fields)

variable {a : Account} {r : Request} {m : Remembered}

theorem Account.answer_legible {method uri : String} {answer : Answer} (account : a.IsLegible)
    (challenge : m.challenge.IsLegible) (url : Legible uri)
    (made : Digest.answer a.login m.challenge method uri m.count
      (a.clientNonce m.count m.challenge.nonce) = .ok answer) : Legible answer.text := by
  obtain ⟨algorithm, used, hashed, -, -, rfl⟩ := answer_ok made
  refine Answer.text_legible ?_ (Hex.encode_legible hashed) challenge.algorithm ?_
  · intro t among
    simp only [Answer.quoted, List.append_assoc, List.mem_append, List.mem_cons, List.not_mem_nil,
      or_false, Option.mem_toList, List.mem_map] at among
    rcases among with (rfl | rfl | rfl | rfl) | opaqueText | ⟨counted, there, rfl⟩
    · exact account.username
    · exact challenge.realm
    · exact challenge.nonce
    · exact url
    · exact challenge.opaqueText t opaqueText
    · cases used <;> cases there
      exact account.clientNonce _ _
  · intro counted there
    cases used <;> cases there
    exact Hex.padded_legible 8 _

/-! ## Credentials -/

/-- The request is sent with one value for its credentials, the answer to what is remembered. -/
def Account.Proves (a : Account) (m : Remembered) (head : RequestHead) : Prop :=
  ∃ answer v,
    Digest.answer a.login m.challenge head.method.text head.url.pathAndQuery m.count
      (a.clientNonce m.count m.challenge.nonce) = .ok answer ∧
    HeaderValue.ofText answer.text = .ok v ∧ head.headers.values .authorization = [v]

theorem Account.answered_ok (account : a.IsLegible) (answerable : m.challenge.isAnswerable = true)
    (challenge : m.challenge.IsLegible) (url : Legible r.url.pathAndQuery) :
    ∃ q, a.answered r (some m) = .ok (some q) ∧ r.Signed q ∧ a.Proves m q.head := by
  have outcome := answer_isOk a.login m.challenge r.method.text r.url.pathAndQuery m.count
    (a.clientNonce m.count m.challenge.nonce)
  rw [answerable] at outcome
  cases made : Digest.answer a.login m.challenge r.method.text r.url.pathAndQuery m.count
      (a.clientNonce m.count m.challenge.nonce) with
  | error fault =>
      rw [made] at outcome
      cases outcome
  | ok answer =>
      obtain ⟨v, written⟩ :=
        HeaderValue.ofText_of_legible (answer_legible account challenge url made)
      have signed : r.withAuthorization answer.text =
          .ok { r with headers := r.headers.set .authorization v } := by
        simp only [Request.withAuthorization, written, bind, Except.bind, pure, Except.pure]
      refine ⟨_, ?_, Request.withAuthorization_signed signed, answer, v, made, written, ?_⟩
      · simp only [answered, made, signed, Except.map]
      · show (r.headers.set .authorization v).values .authorization = [v]
        rw [Headers.values_set, if_pos rfl]

/-! ## What is remembered -/

variable {s : Store} {k : Key} {ch : Challenge} {response : Response} {value : String}

theorem legible_of_offered {headers : Headers} (h : offered? headers = some value) :
    Legible value := by
  obtain ⟨v, -, text⟩ := List.mem_filterMap.mp (List.mem_of_find?_eq_some h)
  exact HeaderValue.legible_of_text? text

/-- The store came about by uses of accounts. -/
def Store.Reached (s : Store) : Prop := ∃ uses, s = behindUses .empty uses

theorem Store.reached_empty : Store.empty.Reached := ⟨[], rfl⟩

theorem Store.Reached.after (h : s.Reached) (u : Use) : (u.after s).Reached := by
  obtain ⟨uses, rfl⟩ := h
  have one : behindUses (behindUses .empty uses) [u] = behindUses .empty (uses ++ [u]) :=
    List.foldl_append.symm
  exact ⟨uses ++ [u], one⟩

/-- Whatever is remembered was on offer in a header field. -/
theorem Store.Reached.isLegible (h : s.Reached) (found : s.challenge? k = some ch) :
    ch.IsLegible := by
  obtain ⟨uses, rfl⟩ := h
  rw [challenge?_behindUses] at found
  have found : uses.reverse.findSome? (Use.takenUpUnder k) = some ch := by
    simpa [Store.challenge?, Store.find?, Store.empty] using found
  obtain ⟨u, -, takes⟩ := List.exists_of_findSome?_eq_some found
  cases u with
  | start => cases takes
  | resume a answered j r response =>
      obtain ⟨ch', takenUp, same⟩ := Option.map_eq_some_iff.mp (Use.takenUpUnder_eq_some.mp takes)
      cases same
      unfold Account.takenUp? at takenUp
      split at takenUp
      · cases takenUp
      · obtain ⟨value, offers, read⟩ := Option.bind_eq_some_iff.mp takenUp
        cases parsed : Challenge.parse value with
        | error fault =>
            rw [parsed] at read
            cases read
        | ok ch'' =>
            rw [parsed] at read
            cases read
            exact Challenge.isLegible_of_parse (legible_of_offered offers) parsed

/-! ## What a flow does -/

/-- What is remembered behind an answer: the next count. -/
def Remembered.counted (m : Remembered) : Remembered := ⟨m.challenge, m.count + 1⟩

/-- The count of the first answer to a challenge that comes when this is remembered. -/
def countFor (ch : Challenge) : Option Remembered → UInt32
  | some m => if m.challenge.nonce = ch.nonce then m.count else 1
  | none => 1

/-- The value with a digest challenge in a response that asks for credentials. -/
def challengeIn? (response : Response) : Option String :=
  if response.status = .unauthorized then offered? response.headers else none

/-- The challenge that a text spells, if it can be answered. -/
def answerable (value : String) : Except ChallengeFault Challenge := do
  let ch ← Challenge.parse value
  let _ ← Algorithm.parse ch.algorithm
  let _ ← ch.usesAuth
  return ch

theorem answerable_ok (h : answerable value = .ok ch) :
    Challenge.parse value = .ok ch ∧ ch.isAnswerable = true := by
  obtain ⟨ch', parsed, h⟩ := Url.ok_of_bind h
  obtain ⟨algorithm, named, h⟩ := Url.ok_of_bind h
  obtain ⟨used, offered, h⟩ := Url.ok_of_bind h
  cases h
  exact ⟨parsed, by simp [Challenge.isAnswerable, named, offered, Except.isOk, Except.toBool]⟩

/-- What is wrong with a challenge is wrong with every answer. -/
theorem answer_error {fault : ChallengeFault} (parsed : Challenge.parse value = .ok ch)
    (h : answerable value = .error fault) (login : Login) (method uri : String) (count : UInt32)
    (clientNonce : String) :
    Digest.answer login ch method uri count clientNonce = .error fault := by
  unfold answerable at h
  rw [parsed] at h
  unfold Digest.answer
  cases named : Algorithm.parse ch.algorithm with
  | error fault' =>
      simp only [named, bind, Except.bind] at h ⊢
      cases h
      rfl
  | ok algorithm =>
      cases offered : ch.usesAuth with
      | error fault' =>
          simp only [named, offered, bind, Except.bind] at h ⊢
          cases h
          rfl
      | ok used => simp [named, offered, bind, Except.bind, pure, Except.pure] at h

theorem find?_after_take (s : Store) (k : Key) :
    ((Access.take k).after s).find? k = (s.find? k).map Remembered.counted := by
  cases found : s.find? k with
  | none =>
      have same : (Access.take k).after s = s := congrArg Prod.snd (apply_take_none found)
      rw [same, found]
      rfl
  | some m => exact (apply_take found).2

theorem start_digest (a : Account) (answered : Bool) (j : Journal) (r : Request) (s : Store) :
    (Flow.digest a answered).start j r s =
      (Account.readying r (a.answered r (s.find? (a.key r.url))),
        (Access.take (a.key r.url)).after s) := by
  rw [Account.start_eq_run, Account.starting, Locking.run_map, ← given_take]
  rfl

/-- A flow starts with what is remembered, if that can be answered. -/
theorem start_proves {answered : Bool} {j : Journal} (account : a.IsLegible)
    (url : Legible r.url.pathAndQuery)
    (memory : ∀ m, s.find? (a.key r.url) = some m →
      m.challenge.isAnswerable = true ∧ m.challenge.IsLegible) :
    ∃ q, ((Flow.digest a answered).start j r s).1.toExcept = .ok q ∧ r.Signed q ∧
      ∀ m, s.find? (a.key r.url) = some m → a.Proves m q.head := by
  rw [start_digest]
  cases found : s.find? (a.key r.url) with
  | none => exact ⟨r, rfl, .refl r, fun _ h => by cases h⟩
  | some m =>
      obtain ⟨answerable, challenge⟩ := memory m found
      obtain ⟨q, made, signed, proves⟩ := Account.answered_ok account answerable challenge url
      refine ⟨q, by rw [made]; rfl, signed, fun m' same => ?_⟩
      cases same
      exact proves

theorem resume_unasked {j : Journal} (h : challengeIn? response = none) :
    (Flow.digest a false).resume j r response s = ⟨.digest a false, r, s, .ok .done⟩ := by
  unfold challengeIn? at h
  simp only [Flow.resume, Bool.false_or, decide_not, Bool.not_eq_true']
  split at h
  · rename_i asks
    simp only [asks, decide_true, Bool.true_eq_false, if_false, h]
  · rename_i content
    simp only [content, decide_false, if_true]

theorem resuming_offered (h : challengeIn? response = some value) :
    a.resuming r false response = a.answering r value := by
  unfold challengeIn? at h
  split at h
  · rename_i asks
    simp [Account.resuming, asks, h]
  · cases h

/-- A flow that is challenged answers, with the count that the challenge has then. -/
theorem resume_offered {j : Journal} (offers : challengeIn? response = some value)
    (parsed : Challenge.parse value = .ok ch) :
    ∃ store, (Flow.digest a false).resume j r response s =
      Account.Reaction.resumed a (Account.reacting r
        (a.answered r (some ⟨ch, countFor ch (s.find? (a.key r.url))⟩)), store) := by
  have found : ((Access.store (a.key r.url) ch).after s).find? (a.key r.url) =
      some ⟨ch, countFor ch (s.find? (a.key r.url))⟩ := find?_after_store s _ ch
  rw [Account.resume_eq_run, resuming_offered offers, ← found, ← given_take]
  unfold Account.answering
  rw [parsed]
  exact ⟨_, congrArg (Account.Reaction.resumed a) (Locking.run_map _ _ _)⟩

theorem resume_faulty {j : Journal} {fault : ChallengeFault}
    (offers : challengeIn? response = some value) (h : answerable value = .error fault) :
    ((Flow.digest a false).resume j r response s).step = .error fault.error := by
  cases parsed : Challenge.parse value with
  | error fault' =>
      unfold answerable at h
      rw [parsed] at h
      cases h
      rw [Account.resume_eq_run, resuming_offered offers, Account.answering, parsed]
      rfl
  | ok ch =>
      obtain ⟨store, same⟩ := resume_offered (a := a) (r := r) (s := s) (j := j) offers parsed
      rw [same]
      simp only [Account.answered, answer_error parsed h]
      rfl

/-- A flow whose challenge has none proves the login, and asks for one more round. -/
theorem resume_proves {j : Journal} (account : a.IsLegible) (url : Legible r.url.pathAndQuery)
    (offers : challengeIn? response = some value) (h : answerable value = .ok ch) :
    ∃ q store, (Flow.digest a false).resume j r response s =
        ⟨.digest a true, q, store, .ok .sendRequest⟩ ∧
      r.Signed q ∧ a.Proves ⟨ch, countFor ch (s.find? (a.key r.url))⟩ q.head := by
  obtain ⟨parsed, answerable⟩ := answerable_ok h
  have challenge : ch.IsLegible := by
    refine Challenge.isLegible_of_parse ?_ parsed
    unfold challengeIn? at offers
    split at offers
    · exact legible_of_offered offers
    · cases offers
  obtain ⟨store, same⟩ := resume_offered (a := a) (r := r) (s := s) (j := j) offers parsed
  obtain ⟨q, made, signed, proves⟩ :=
    @Account.answered_ok a r ⟨ch, countFor ch (s.find? (a.key r.url))⟩ account answerable challenge
      url
  exact ⟨q, store, by rw [same, made]; rfl, signed, proves⟩

end Digest

end Auth

end HttpClient
