/-
# Calls that are challenged

The rounds of a call with digest authentication (`goes_unanswered`) are the first phase of the call,
behind its start and ahead of its redirects.  Here they are put into the whole of it: what the start
needs is had from the request and from where the session comes from, and what the rounds end with is
what the redirects begin with, or the failure of the call.
-/
import HttpClient.Proofs.Call.DigestRounds
import HttpClient.Proofs.Call.Urls

namespace HttpClient.Client

open Auth Digest Redirect Call Text

variable {c : Client} {mode : Mode} {rely : Session → Session → Prop} {s s' : Session}
  {own : Changes} {a : Account} {r : Request}

/-! ## Whole calls -/

/-- A call is made ready, goes through its rounds, and follows redirects if they succeed. -/
theorem goes_call_phases {options : Options} {result : Except Error Answer}
    (h : Goes rely (c.call mode r options) s own result s') :
    (∃ e, Goes rely (c.ready mode r options) s own (.error e) s' ∧ result = .error e) ∨
    ∃ start ready s₁ own₁ outcome s₂ legs rounds stages, own = (start ++ own₁) ++ legs ∧
      Goes rely (c.ready mode r options) s start (.ok ready) s₁ ∧
      Goes rely (c.authenticate mode ready.flow.roundsLeft ready.flow ready.request []) s₁ own₁
        outcome s₂ ∧
      c.Course mode r options (start ++ own₁) legs rounds stages result ∧
      (∀ e, outcome = .error e → legs = [] ∧ result = .error e) ∧
      ∀ last, outcome = .ok last →
        stages.head? = some ⟨c.chain last ready.follow, some last.response⟩ := by
  unfold call at h
  rcases goes_bind.mp h with ⟨e, failed, rfl⟩ | ⟨start, ready, s₁, own₂, rfl, made, on⟩
  · exact .inl ⟨e, failed, rfl⟩
  · refine .inr ⟨start, ready, s₁, ?_⟩
    rcases goes_bind.mp on with ⟨e, failed, rfl⟩ | ⟨own₁, last, s₂, legs, rfl, ended, rest⟩
    · obtain ⟨rounds, behind⟩ := goes_authenticate rfl failed
      refine ⟨own₂, .error e, s', [], rounds, [], (List.append_nil _).symm, made, failed,
        .unopened (.rounds (goes_ready made) behind), fun e' same => ?_,
        fun _ same => by cases same⟩
      cases same
      exact ⟨rfl, rfl⟩
    · have bound : (c.chain last ready.follow).maxRedirects ≤
          c.maxRedirects + (c.chain last ready.follow).history.length := Nat.le_add_right _ _
      obtain ⟨rounds, behind⟩ := goes_authenticate rfl ended
      obtain ⟨stages, follows⟩ := goes_follow bound rest
      refine ⟨own₁, .ok last, s₂, legs, rounds, stages, (List.append_assoc _ _ _).symm, made, ended,
        .opened (.rounds (goes_ready made) behind) follows, (fun _ same => by cases same),
        fun last' same => ?_⟩
      cases same
      obtain ⟨later, rfl⟩ := follows.stages_head
      rfl

theorem goes_call_of_unprepared {options : Options} {e : Error} {result : Except Error Answer}
    (failed : c.prepare r options = .error e)
    (h : Goes rely (c.call mode r options) s own result s') : own = [] ∧ result = .error e := by
  have unready {own : Changes} {s' : Session} {result : Except Error Prepared}
      (h : Goes rely (c.ready mode r options) s own result s') :
      own = [] ∧ result = .error e := by
    cases goes_ready h <;> simp_all
  rcases goes_call_phases h with ⟨e', stuck, rfl⟩ | ⟨_, _, _, _, _, _, _, _, _, -, ready, -⟩
  · obtain ⟨hnone, same⟩ := unready stuck
    cases same
    exact ⟨hnone, rfl⟩
  · cases (unready ready).2

theorem coded_of_prepare {options : Options} {prepared : Prepared} (url : r.url.Written)
    (made : c.prepare r options = .ok prepared) : prepared.request.url.Coded := by
  have web : Url.Kind.of r.url.scheme = .web := kind_of_followed (scheme_of_prepare made)
  have written : r.url.withoutLogin.Written := .edited url rfl rfl rfl
  rw [(prepare_ok made).1]
  exact written.coded web

/-- The first phase of a call, from its start on. -/
theorem goes_first_phase {options : Options} {prepared ready : Prepared} {start : Changes}
    {s₁ : Session} {bytes : Bytes} {outcome : Except Error Authenticated}
    (silent : c.requestHooks = []) (quiet : c.responseHooks = []) (account : a.IsLegible)
    (alone : LeavesAlone a rely) (made : c.prepare r options = .ok prepared)
    (flow : prepared.flow = .digest a false) (url : Legible prepared.request.url.pathAndQuery)
    (held : prepared.request.body.bytes? = some bytes)
    (memory : ∀ m, s.digests.find? (a.key prepared.request.url) = some m →
      m.challenge.isAnswerable = true ∧ m.challenge.IsLegible)
    (started : Goes rely (c.ready mode r options) s start (.ok ready) s₁)
    (ended : Goes rely (c.authenticate mode ready.flow.roundsLeft ready.flow ready.request []) s₁
      own outcome s')
    (answers : ∀ q ∈ sent own, ∀ x, q.result = .ok x → x.body.isStream = false) :
    (∃ q failed e, c.Exchanged mode q failed (.error e) ∧ failed <:+ own ∧
      Alike prepared.request.head prepared.request.body q.head q.body ∧ outcome = .error e) ∨
    ∃ first x, first.result = .ok x ∧
      Alike prepared.request.head prepared.request.body first.head first.body ∧
      (∀ m, s.digests.find? (a.key first.head.url) = some m → a.Proves m first.head) ∧
      Ended a ((s.digests.find? (a.key first.head.url)).map Remembered.counted) (start ++ own)
        first x outcome := by
  obtain ⟨q, same, signed, unsent, proves, next⟩ :=
    goes_ready_digest account alone made flow url memory started
  cases same
  have address : q.url = prepared.request.url := signed.content.url
  have ended : Goes rely (c.authenticate mode 1 (.digest a false) q []) s₁ own outcome s' := by
    dsimp only at ended
    rw [flow] at ended
    exact ended
  rcases goes_unanswered silent quiet account alone (address ▸ url)
      (signed.alike.bytes.trans held) ended answers with
    ⟨q', failed, e, exchanged, alike, within, stuck⟩ |
    ⟨first, x, answered, alike, credentials, rounds⟩
  · exact .inl ⟨q', failed, e, exchanged, within, signed.alike.trans alike, stuck⟩
  · have same : first.head.url = prepared.request.url := alike.url.trans address
    refine .inr ⟨first, x, answered, signed.alike.trans alike, ?_, ?_⟩
    · intro m found
      rw [same] at found
      exact (proves m found).congr alike credentials
    · rw [same, next] at rounds
      rw [same]
      exact rounds.behind unsent

/-- Without hooks, with bodies in memory, and while nobody else uses the account, a call with digest
authentication does in its first phase what follows, whatever came before it as long as all that is
remembered can be answered.

It sends the request, with the answer to what is remembered, if anything is.  If the response asks
for credentials and offers a digest challenge, the first such challenge counts.  One that cannot be
read or answered makes the call fail, and nothing more is sent.  To any other one the answer is
sent, with the same request but for its credentials and cookies; its count goes on if the nonce is
the one remembered, and begins anew if not.  Whatever comes then ends the phase, as does a first
response without a challenge.

Only a request that cannot be prepared is not sent at all, and only an exchange that fails is in the
way of this. -/
theorem answers_first_challenge {options : Options} {result : Except Error Answer}
    (silent : c.requestHooks = []) (quiet : c.responseHooks = [])
    (auth : options.auth.or c.auth = some (.digest a)) (account : a.IsLegible)
    (reached : s.digests.Reached)
    (answerables : ∀ authority ch, s.digests.challenge? ⟨a.name, authority⟩ = some ch →
      ch.isAnswerable = true)
    (alone : LeavesAlone a rely) (url : r.url.Written) (inMemory : r.body.isStream = false)
    (h : Goes rely (c.call mode r options) s own result s')
    (answers : ∀ q ∈ sent own, ∀ x, q.result = .ok x → x.body.isStream = false) :
    (∃ e, c.prepare r options = .error e ∧ own = [] ∧ result = .error e) ∨
    ∃ prepared opening legs rounds stages, c.prepare r options = .ok prepared ∧
      own = opening ++ legs ∧ c.Course mode r options opening legs rounds stages result ∧
      ((∃ q failed e, c.Exchanged mode q failed (.error e) ∧ failed <:+ opening ∧
        Alike prepared.request.head prepared.request.body q.head q.body ∧ legs = [] ∧
        result = .error e) ∨
      ∃ first x, first.result = .ok x ∧
        Alike prepared.request.head prepared.request.body first.head first.body ∧
        (∀ m, s.digests.find? (a.key first.head.url) = some m → a.Proves m first.head) ∧
        match challengeIn? x with
        | none => sent opening = [first] ∧ ∃ stage, stages.head? = some stage ∧
            stage.response = some (first.heard x) ∧ stage.chain.history = []
        | some value =>
          match answerable value with
          | .error fault => sent opening = [first] ∧ legs = [] ∧ result = .error fault.error
          | .ok ch => ∃ second y, sent opening = [first, second] ∧ second.result = .ok y ∧
              Alike first.head first.body second.head second.body ∧
              a.Proves ⟨ch, countFor ch
                ((s.digests.find? (a.key first.head.url)).map Remembered.counted)⟩ second.head ∧
              ∃ stage, stages.head? = some stage ∧ stage.response = some (second.heard y) ∧
                stage.chain.history.length = 1) := by
  cases made : c.prepare r options with
  | error e =>
      exact .inl ⟨e, rfl, goes_call_of_unprepared made h⟩
  | ok prepared =>
      obtain ⟨request, ⟨login, flow⟩, -⟩ := prepare_ok made
      rw [← Option.or_assoc, auth] at flow
      have flow : prepared.flow = .digest a false := flow
      have coded : prepared.request.url.Coded := coded_of_prepare url made
      obtain ⟨bytes, held⟩ : ∃ bytes, prepared.request.body.bytes? = some bytes := by
        rw [request]
        exact Body.bytes?_of_not_isStream inMemory
      have memory (m : Remembered)
          (found : s.digests.find? (a.key prepared.request.url) = some m) :
          m.challenge.isAnswerable = true ∧ m.challenge.IsLegible := by
        have known : s.digests.challenge? (a.key prepared.request.url) = some m.challenge := by
          rw [Store.challenge?, found]
          rfl
        exact ⟨answerables _ _ known, reached.isLegible known⟩
      refine .inr ⟨prepared, ?_⟩
      rcases goes_call_phases h with
        ⟨e, failed, rfl⟩ | ⟨start, ready, s₁, own₁, outcome, s₂, legs, rounds, stages, rfl, started,
          ended, course, fails, succeeds⟩
      · obtain ⟨_, impossible, -⟩ :=
          goes_ready_digest account alone made flow coded.pathAndQuery memory failed
        cases impossible
      · have answers' : ∀ q ∈ sent own₁, ∀ x, q.result = .ok x → x.body.isStream = false := by
          intro q among
          refine answers q ?_
          rw [sent_append, sent_append]
          exact List.mem_append_left _ (List.mem_append_right _ among)
        refine ⟨start ++ own₁, legs, rounds, stages, rfl, rfl, course, ?_⟩
        rcases goes_first_phase silent quiet account alone made flow coded.pathAndQuery held memory
            started ended answers' with
          ⟨q, failed, e, exchanged, within, alike, rfl⟩ | ⟨first, x, answered, alike, proves, rest⟩
        · obtain ⟨hnone, failure⟩ := fails e rfl
          exact .inl ⟨q, failed, e, exchanged, within.trans (List.suffix_append _ _), alike, hnone,
            failure⟩
        · refine .inr ⟨first, x, answered, alike, proves, ?_⟩
          cases rest with
          | unasked offers one response history =>
              rw [offers]
              exact ⟨one, _, succeeds _ rfl, congrArg some response, history⟩
          | refused offers verdict one =>
              rw [offers]
              dsimp only
              rw [verdict]
              exact ⟨one, fails _ rfl⟩
          | asked offers verdict both answered' alike' proof response history =>
              rw [offers]
              dsimp only
              rw [verdict]
              exact ⟨_, _, both, answered', alike', proof, _, succeeds _ rfl,
                congrArg some response, history⟩

/-! ## A challenge that comes again -/

section Sampled

open Sample HttpClient.Sample

/-- An account that uses one client nonce all the time. -/
def monotone : Account := ⟨"d", ⟨"u", "p"⟩, fun _ _ => "c"⟩

def question : Challenge := ⟨"r", "n", none, some "auth-int, auth", "MD5"⟩

def questionText : String := "Digest realm=r, nonce=n, qop=\"auth-int, auth\""

/-- A server that asks before it lets a request pass. -/
def suspicious : Client :=
  client [reply .unauthorized [(.wwwAuthenticate, questionText)] .empty, fine]
    (some (.digest monotone)) 9

/-- A session in which the site has asked before. -/
def acquainted : Session := { digests := ⟨[(site, ⟨question, 2⟩)]⟩ }

theorem acquainted_reached : acquainted.digests.Reached := by
  have goes : Goes Eq _ _ _ _ _ :=
    goes_send (fun _ => rfl) suspicious .blocking (request .get .empty) {} {}
  have others (t t' : Session) (same : t = t') (known : t.digests.Reached) :
      t'.digests.Reached := same ▸ known
  have same : (suspicious.send .blocking (request .get .empty) {} {}).2.digests =
      acquainted.digests := by
    decide +kernel
  rw [← same]
  exact reached_of_call others goes Store.reached_empty

theorem acquainted_answerable (authority : String) (ch : Challenge)
    (known : acquainted.digests.challenge? ⟨"d", authority⟩ = some ch) :
    ch.isAnswerable = true := by
  obtain ⟨m, found, rfl⟩ := Option.map_eq_some_iff.mp known
  obtain ⟨entry, there, rfl⟩ := Option.map_eq_some_iff.mp found
  cases List.mem_singleton.mp (List.mem_of_find?_eq_some there)
  decide +kernel

theorem place_written : (place "/a").Written := by
  have read : Url.parse "http://[::1]/a" =
      .ok ⟨"http", some ⟨"", none, some (.ipv6 [0, 0, 0, 0, 0, 0, 0, 1]), none⟩, "/a", none,
        none⟩ := by
    decide +kernel
  exact .edited (.parsed read) rfl rfl rfl

/-- A later call begins with the second count, is asked the same again, and goes on with the third
one. -/
theorem answers_first_challenge_of_asked_again :
    ∃ first second : Sent,
      sent (suspicious.changes .blocking (request .get .empty) {} acquainted) = [first, second] ∧
      monotone.Proves ⟨question, 2⟩ first.head ∧ monotone.Proves ⟨question, 3⟩ second.head ∧
      Alike first.head first.body second.head second.body := by
  have goes : Goes Eq _ _ _ _ _ :=
    goes_send (fun _ => rfl) suspicious .blocking (request .get .empty) {} acquainted
  obtain ⟨done, seen⟩ :
      (suspicious.send .blocking (request .get .empty) {} acquainted).1.isOk = true ∧
      (sent (suspicious.changes .blocking (request .get .empty) {} acquainted)).map
          (fun q => q.result.toOption.map fun x => (challengeIn? x, x.body.isStream)) =
        [some (some questionText, false), some (none, false)] := by
    decide +kernel
  have asked : answerable questionText = .ok question := by decide +kernel
  generalize suspicious.changes .blocking (request .get .empty) {} acquainted = own at goes seen ⊢
  generalize (suspicious.send .blocking (request .get .empty) {} acquainted).1 = result at goes done
  have answers : ∀ q ∈ sent own, ∀ x, q.result = .ok x → x.body.isStream = false := by
    intro q among x answered
    have there := List.mem_map_of_mem (f := fun q : Sent =>
      q.result.toOption.map fun x => (challengeIn? x, x.body.isStream)) among
    rw [seen, answered] at there
    simp only [Except.toOption, Option.map_some, List.mem_cons, Option.some.injEq, Prod.mk.injEq,
      List.not_mem_nil, or_false] at there
    exact there.elim And.right And.right
  have legible : Legible "c" := by decide
  rcases answers_first_challenge rfl rfl rfl ⟨by decide, fun _ _ => legible⟩ acquainted_reached
      acquainted_answerable (fun t t' same => by rw [same]) place_written rfl goes answers with
    ⟨_, -, hnone, -⟩ | ⟨prepared, opening, legs, rounds, stages, made, rfl, -, phase⟩
  · rw [hnone] at seen
    cases seen
  · rw [sent_append] at seen ⊢
    rcases phase with ⟨_, _, _, -, -, -, -, rfl⟩ | ⟨first, x, answered, alike, before, rest⟩
    · cases done
    · cases offer : challengeIn? x with
      | none =>
          rw [offer] at rest
          rw [rest.1, List.singleton_append, List.map_cons, answered] at seen
          simp [Except.toOption, offer] at seen
      | some value =>
          rw [offer] at rest
          dsimp only at rest
          cases verdict : answerable value with
          | error fault =>
              rw [verdict] at rest
              rw [rest.2.2] at done
              cases done
          | ok ch =>
              rw [verdict] at rest
              obtain ⟨second, y, two, -, alike', proof, -⟩ := rest
              rw [two, List.cons_append, List.singleton_append, List.map_cons, List.map_cons,
                answered] at seen
              simp only [Except.toOption, Option.map_some, offer, List.cons.injEq,
                Option.some.injEq, Prod.mk.injEq, List.map_eq_nil_iff] at seen
              obtain ⟨⟨rfl, -⟩, -, hnone⟩ := seen
              cases asked.symm.trans verdict
              have address : first.head.url = place "/a" := by
                rw [alike.url]
                show prepared.request.url = _
                rw [(prepare_ok made).1]
                rfl
              have found : acquainted.digests.find? (monotone.key first.head.url) =
                  some ⟨question, 2⟩ := by
                rw [address]
                decide
              rw [found] at proof
              exact ⟨first, second, by rw [two, hnone]; rfl, before _ found, proof, alike'⟩

end Sampled

end HttpClient.Client
