/-
# The rounds of a call with digest authentication

A flow that answers challenges sends its request once or twice.  It starts with the answer to what
is remembered, if anything is.  If the response offers a challenge, the challenge is remembered in
its turn and the request is sent once more with the answer to it; whatever comes then is the end.

What is remembered is looked at twice, at the start and behind the first response, and between the
two nothing but the flow itself touches it if nobody else uses the account (`LeavesAlone`): an
exchange does not.  So the count of the answer is told by what was remembered at the start.
-/
import HttpClient.Proofs.Auth.Answering
import HttpClient.Proofs.Call.Content
import HttpClient.Proofs.Call.Steps

namespace HttpClient

open Auth Digest Redirect Call Text

/-! ## Requests that are alike -/

/-- Two requests differ in nothing but their credentials and their cookies. -/
structure Alike (head : RequestHead) (body : Body) (head' : RequestHead) (body' : Body) : Prop where
  method : head'.method = head.method
  url : head'.url = head.url
  fields : ∀ n, n ≠ .authorization → n ≠ .cookie →
    head'.headers.values n = head.headers.values n
  bytes : body'.bytes? = body.bytes?

theorem Alike.symm {head head' : RequestHead} {body body' : Body}
    (h : Alike head body head' body') : Alike head' body' head body :=
  ⟨h.method.symm, h.url.symm, fun n other other' => (h.fields n other other').symm, h.bytes.symm⟩

theorem Alike.trans {head head' head'' : RequestHead} {body body' body'' : Body}
    (h : Alike head body head' body') (h' : Alike head' body' head'' body'') :
    Alike head body head'' body'' :=
  ⟨h'.method.trans h.method, h'.url.trans h.url,
    fun n other other' => (h'.fields n other other').trans (h.fields n other other'),
    h'.bytes.trans h.bytes⟩

theorem Request.Signed.alike {r q : Request} (h : r.Signed q) :
    Alike r.head r.body q.head q.body :=
  ⟨h.content.method, h.content.url, fun n other _ => h.fields n other, by rw [h.content.body]⟩

theorem Auth.Digest.Account.Proves.congr {a : Account} {m : Remembered} {head head' : RequestHead}
    {body body' : Body} (h : a.Proves m head) (alike : Alike head body head' body')
    (credentials : head'.headers.values .authorization = head.headers.values .authorization) :
    a.Proves m head' := by
  obtain ⟨answer, v, made, written, single⟩ := h
  rw [← alike.method, ← alike.url] at made
  exact ⟨answer, v, made, written, credentials.trans single⟩

/-- The response as the call gets it, which knows the request that it answers. -/
def Call.Sent.heard (q : Sent) (x : Response) : Response := { x with request := some q.head }

/-- What an account remembers. -/
def Auth.Digest.Account.memory (a : Account) (s : Session) : String → Option Remembered :=
  fun authority => s.digests.find? ⟨a.name, authority⟩

namespace Client

variable {c : Client} {mode : Mode} {rely : Session → Session → Prop} {s s' : Session}
  {own : Changes} {a : Account} {r : Request} {bytes : Bytes}

/-! ## Exchanges -/

theorem beforeSend_digests (c : Client) (r : Request) (s : Session) :
    (c.beforeSend r s).2.digests = s.digests := by
  unfold beforeSend
  split
  · rfl
  · split
    · rfl
    · split
      · rfl
      · rfl

theorem handOver_digests (c : Client) (mode : Mode) (t : Transport) (r : Request) (s : Session) :
    (c.handOver mode t r s).2.digests = s.digests := by
  unfold handOver
  dsimp only
  split
  · rfl
  · rfl

/-- Nobody else changes what the account remembers. -/
def LeavesAlone (a : Account) (rely : Session → Session → Prop) : Prop :=
  ∀ t t', rely t t' → a.memory t' = a.memory t

theorem exchange_memory (alone : LeavesAlone a rely)
    {result : Except Error (Request × Response)}
    (h : Goes rely (c.exchange mode r) s own result s') : a.memory s' = a.memory s := by
  have same {t t' : Session} (digests : t'.digests = t.digests) : a.memory t' = a.memory t := by
    unfold Account.memory
    rw [digests]
  have each : ∀ change ∈ own, a.memory change.2 = a.memory change.1 := by
    cases goes_exchange h with
    | @refused t t' e refused =>
        refine List.forall_mem_singleton.mpr (same ?_)
        have kept := beforeSend_digests c r t
        rwa [refused] at kept
    | @handed t t' u transport q ready =>
        refine List.forall_mem_cons.mpr ⟨same ?_, List.forall_mem_singleton.mpr (same ?_)⟩
        · have kept := beforeSend_digests c r t
          rwa [ready] at kept
        · exact handOver_digests c mode transport q u
  exact (Activity.Goes.keeps (P := fun t => a.memory t = a.memory s)
    (fun t t' step before => (alone t t' step).trans before) h
    (fun change among before => (each change among).trans before) rfl).2

/-- Without hooks an exchange that does not fail sends its request, and leaves it as it is but for
its cookies. -/
theorem Exchanged.alike {result : Except Error (Request × Response)} (silent : c.requestHooks = [])
    (quiet : c.responseHooks = []) (inMemory : r.body.bytes? = some bytes)
    (h : c.Exchanged mode r own result) :
    (∃ e, result = .error e) ∨ ∃ q x p, sent own = [q] ∧ q.result = .ok x ∧
      result = .ok (p, q.heard x) ∧
      Alike r.head r.body q.head q.body ∧ Alike r.head r.body p.head p.body ∧
      q.head.headers.values .authorization = r.headers.values .authorization := by
  rcases h.given silent quiet with ⟨-, failed⟩ | ⟨transport, q, left, -, one, given, ended⟩
  · exact .inl failed
  · obtain ⟨whole, stays⟩ := given.bytes inMemory
    rcases ended with ⟨e, -, failed⟩ | ⟨x, p, answered, kept, succeeded⟩
    · exact .inl ⟨e, failed⟩
    · refine .inr ⟨q, x, p, one, answered, succeeded, ?_, ?_, given.fields _ (by decide)⟩
      · exact ⟨given.method, given.url, fun n _ other => given.fields n other,
          whole.trans inMemory.symm⟩
      · refine ⟨kept.method, kept.url, fun n _ other => kept.fields n other, ?_⟩
        rw [kept.body]
        exact stays.trans inMemory.symm

/-! ## What is reached -/

theorem steps_reached : c.Steps mode fun s t => s.digests.Reached → t.digests.Reached where
  ready r s reached := by
    rw [beforeSend_digests]
    exact reached
  handed t r s reached := by
    rw [handOver_digests]
    exact reached
  started flow r s reached := by
    cases flow with
    | digest a answered => exact reached.after (.start a answered s.journal r)
    | _ => exact reached
  resumed flow r response s reached := by
    cases flow with
    | digest a answered => exact reached.after (.resume a answered s.journal r response)
    | plan p taken rounds => cases rounds <;> exact reached
    | _ => exact reached
  stayed s reached := reached

theorem reached_of_call {options : Options} {result : Except Error Answer}
    (others : ∀ t t', rely t t' → t.digests.Reached → t'.digests.Reached)
    (h : Goes rely (c.call mode r options) s own result s') (reached : s.digests.Reached) :
    s'.digests.Reached :=
  (Activity.Goes.keeps (P := fun t => t.digests.Reached) others h (steps_reached.call h) reached).2

/-! ## The start, and one round -/

theorem goes_ready_of_unbuffered {options : Options} {prepared : Prepared}
    {result : Except Error Prepared} (made : c.prepare r options = .ok prepared)
    (unbuffered : prepared.flow.buffersRequest = false)
    (h : Goes rely (c.ready mode r options) s own result s') :
    ∃ t, rely s t ∧ own = [(t, s')] ∧ s'.journal = t.journal ∧
      s'.digests = (prepared.flow.start t.journal prepared.request t.digests).2 ∧
      result = (prepared.flow.start t.journal prepared.request t.digests).1.toExcept.map
        fun request => { prepared with request } := by
  unfold ready at h
  rw [made] at h
  rcases goes_bind.mp h with ⟨e, failed, -⟩ | ⟨own₁, p, s₁, own₂, rfl, first, on⟩
  · obtain ⟨-, impossible, -⟩ := goes_ofExcept.mp failed
    cases impossible
  · obtain ⟨rfl, same, rfl⟩ := goes_ofExcept.mp first
    cases same
    have passes : buffer mode prepared.flow prepared.request = pure prepared.request := by
      unfold buffer
      rw [unbuffered]
      rfl
    rw [passes, pure_bind] at on
    obtain ⟨t, before, rfl, rfl, rfl⟩ := goes_act_map on
    exact ⟨t, before, rfl, rfl, rfl, rfl⟩

theorem goes_ready_digest {options : Options} {prepared : Prepared} {result : Except Error Prepared}
    (account : a.IsLegible) (alone : LeavesAlone a rely)
    (made : c.prepare r options = .ok prepared) (flow : prepared.flow = .digest a false)
    (url : Legible prepared.request.url.pathAndQuery)
    (memory : ∀ m, s.digests.find? (a.key prepared.request.url) = some m →
      m.challenge.isAnswerable = true ∧ m.challenge.IsLegible)
    (h : Goes rely (c.ready mode r options) s own result s') :
    ∃ q, result = .ok { prepared with request := q } ∧ prepared.request.Signed q ∧ sent own = [] ∧
      (∀ m, s.digests.find? (a.key prepared.request.url) = some m → a.Proves m q.head) ∧
      a.memory s' prepared.request.url.hostAndPort =
        (s.digests.find? (a.key prepared.request.url)).map Remembered.counted := by
  obtain ⟨t, before, rfl, journal, digests, ended⟩ :=
    goes_ready_of_unbuffered made (by rw [flow]; rfl) h
  have same : t.digests.find? (a.key prepared.request.url) =
      s.digests.find? (a.key prepared.request.url) := congrFun (alone s t before) _
  rw [← same] at memory ⊢
  obtain ⟨q, started, signed, proves⟩ :=
    @start_proves a prepared.request t.digests false t.journal account url memory
  rw [← flow] at started
  rw [started] at ended
  have quiet : s'.journal = t.journal ++ [] := by rw [journal, List.append_nil]
  refine ⟨q, ended, signed, sent_of_calls (calls_noted quiet (by simp)), proves, ?_⟩
  show s'.digests.find? (a.key prepared.request.url) = _
  rw [digests, flow, start_digest, find?_after_take]

theorem goes_round_of_unbuffered {flow : Flow} {result : Except Error (Resumed × Response)}
    (unbuffered : flow.buffersResponse = false)
    (h : Goes rely (c.round mode flow r) s own result s') :
    (∃ e, c.Exchanged mode r own (.error e) ∧ result = .error e) ∨
    ∃ exchange p response s₁ t, own = exchange ++ [(t, s')] ∧
      Goes rely (c.exchange mode r) s exchange (.ok (p, response)) s₁ ∧ rely s₁ t ∧
      s'.journal = t.journal ++ flow.note response ∧
      result = (flow.resume t.journal p response t.digests).step.map
        fun _ => (flow.resume t.journal p response t.digests, response) := by
  unfold round at h
  rcases goes_bind.mp h with ⟨e, failed, rfl⟩ | ⟨own₁, ⟨p, response⟩, s₁, own₂, rfl, first, on⟩
  · exact .inl ⟨e, goes_exchange failed, rfl⟩
  · simp only [unbuffered, Bool.false_eq_true, if_false, pure_bind] at on
    obtain ⟨t, before, rfl, rfl, rfl⟩ := goes_act_map on
    refine .inr ⟨own₁, p, response, s₁, t, rfl, first, before, rfl, ?_⟩
    show (Except.map _ (flow.resume t.journal p response t.digests).step).map _ = _
    cases (flow.resume t.journal p response t.digests).step <;> rfl

/-- A round of a digest flow: its request is sent and answered, and meanwhile what is remembered
stays. -/
theorem goes_round_digest {answered : Bool} {result : Except Error (Resumed × Response)}
    (silent : c.requestHooks = []) (quiet : c.responseHooks = []) (alone : LeavesAlone a rely)
    (inMemory : r.body.bytes? = some bytes)
    (h : Goes rely (c.round mode (.digest a answered) r) s own result s') :
    (∃ e, c.Exchanged mode r own (.error e) ∧ result = .error e) ∨
    ∃ (q : Sent) (x : Response) (p : Request) (t : Session), sent own = [q] ∧ q.result = .ok x ∧
      Alike r.head r.body q.head q.body ∧ Alike r.head r.body p.head p.body ∧
      q.head.headers.values .authorization = r.headers.values .authorization ∧
      a.memory t = a.memory s ∧
      result =
        (((Flow.digest a answered).resume t.journal p (q.heard x) t.digests).step.map fun _ =>
          ((Flow.digest a answered).resume t.journal p (q.heard x) t.digests, q.heard x)) := by
  rcases goes_round_of_unbuffered rfl h with
    failed | ⟨exchange, p, response, s₁, t, rfl, exchanged, before, journal, ended⟩
  · exact .inl failed
  · rcases (goes_exchange exchanged).alike silent quiet inMemory with
      ⟨_, impossible⟩ | ⟨q, x, p', one, answered, same, alike, alike', credentials⟩
    · cases impossible
    · cases same
      refine .inr ⟨q, x, p, t, ?_, answered, alike, alike', credentials, ?_, ended⟩
      · rw [sent_append, one, sent_of_calls (calls_noted_flow journal)]
        rfl
      · rw [alone _ _ before, exchange_memory alone exchanged]

/-- What a flow that has not answered yet makes of a response, by the challenge that this offers: it
is done, it fails, or it has an answer to send. -/
inductive Turned (a : Account) (r : Request) (known : Option Remembered) (first : Sent)
    (x : Response) : Except Error (Resumed × Response) → Prop
  | unasked {resumed : Resumed} : challengeIn? x = none → resumed.step = .ok .done →
      Turned a r known first x (.ok (resumed, first.heard x))
  | refused {value : String} {fault : ChallengeFault} : challengeIn? x = some value →
      answerable value = .error fault → Turned a r known first x (.error fault.error)
  | asked {value : String} {ch : Challenge} {q : Request} {store : Store} :
      challengeIn? x = some value → answerable value = .ok ch →
      Alike r.head r.body q.head q.body → a.Proves ⟨ch, countFor ch known⟩ q.head →
      Turned a r known first x (.ok (⟨.digest a true, q, store, .ok .sendRequest⟩, first.heard x))

theorem goes_round_unanswered {result : Except Error (Resumed × Response)}
    (silent : c.requestHooks = []) (quiet : c.responseHooks = []) (account : a.IsLegible)
    (alone : LeavesAlone a rely) (url : Legible r.url.pathAndQuery)
    (inMemory : r.body.bytes? = some bytes)
    (h : Goes rely (c.round mode (.digest a false) r) s own result s') :
    (∃ e, c.Exchanged mode r own (.error e) ∧ result = .error e) ∨
    ∃ first x, sent own = [first] ∧ first.result = .ok x ∧
      Alike r.head r.body first.head first.body ∧
      first.head.headers.values .authorization = r.headers.values .authorization ∧
      Turned a r (a.memory s first.head.url.hostAndPort) first x result := by
  rcases goes_round_digest silent quiet alone inMemory h with
    failed | ⟨first, x, p, t, one, answered, alike, alike', credentials, memory, ended⟩
  · exact .inl failed
  · refine .inr ⟨first, x, one, answered, alike, credentials, ?_⟩
    have address : p.url = r.url := alike'.url
    have key : t.digests.find? (a.key p.url) = a.memory s first.head.url.hostAndPort := by
      rw [← memory, alike.url, address]
      rfl
    have same : challengeIn? (first.heard x) = challengeIn? x := rfl
    cases offers : challengeIn? x with
    | none =>
        rw [resume_unasked (same.trans offers)] at ended
        rw [ended]
        exact .unasked offers rfl
    | some value =>
        cases verdict : answerable value with
        | error fault =>
            rw [resume_faulty (same.trans offers) verdict] at ended
            rw [ended]
            exact .refused offers verdict
        | ok ch =>
            have legible : Legible p.url.pathAndQuery := address ▸ url
            obtain ⟨q, store, resumed, signed, proves⟩ :=
              @resume_proves a p t.digests ch _ value t.journal account legible (same.trans offers)
                verdict
            rw [key] at proves
            rw [resumed] at ended
            rw [ended]
            exact .asked offers verdict (alike'.trans signed.alike) proves

/-! ## Two rounds -/

theorem goes_answered {history : List Response} {result : Except Error Authenticated}
    (silent : c.requestHooks = []) (quiet : c.responseHooks = []) (alone : LeavesAlone a rely)
    (inMemory : r.body.bytes? = some bytes)
    (h : Goes rely (c.authenticate mode 0 (.digest a true) r history) s own result s') :
    (∃ e, c.Exchanged mode r own (.error e) ∧ result = .error e) ∨
    ∃ q x last, sent own = [q] ∧ q.result = .ok x ∧ Alike r.head r.body q.head q.body ∧
      q.head.headers.values .authorization = r.headers.values .authorization ∧
      result = .ok last ∧ last.response = q.heard x ∧
      last.history = history := by
  unfold authenticate at h
  rcases goes_bind.mp h with ⟨e, failed, rfl⟩ | ⟨own₁, ⟨resumed, response⟩, s₁, own₂, rfl, made, on⟩
  · rcases goes_round_digest silent quiet alone inMemory failed with
      ⟨e', exchanged, same⟩ | ⟨_, _, _, _, -, -, -, -, -, -, done⟩
    · cases same
      exact .inl ⟨e, exchanged, rfl⟩
    · cases done
  · rcases goes_round_digest silent quiet alone inMemory made with
      ⟨_, -, impossible⟩ | ⟨q, x, p, t, one, answered, alike, -, credentials, -, done⟩
    · cases impossible
    · cases done
      obtain ⟨rfl, rfl, -⟩ := goes_pure.mp on
      rw [List.append_nil]
      exact .inr ⟨q, x, _, one, answered, alike, credentials, rfl, rfl, rfl⟩

/-- If the body of a response is in memory, nothing happens until the request that answers it, and
that one is the last. -/
theorem goes_answering {response : Response} {history : List Response}
    {result : Except Error Authenticated}
    (silent : c.requestHooks = []) (quiet : c.responseHooks = []) (alone : LeavesAlone a rely)
    (held : response.body.isStream = false) (inMemory : r.body.bytes? = some bytes)
    (h : Goes rely (do
        let kept ← Call.read mode response
        c.authenticate mode 0 (.digest a true) r (history ++ [kept])) s own result s') :
    (∃ e, c.Exchanged mode r own (.error e) ∧ result = .error e) ∨
    ∃ q x last, sent own = [q] ∧ q.result = .ok x ∧ Alike r.head r.body q.head q.body ∧
      q.head.headers.values .authorization = r.headers.values .authorization ∧
      result = .ok last ∧ last.response = q.heard x ∧
      last.history.length = history.length + 1 := by
  rcases goes_bind.mp h with ⟨e, broken, -⟩ | ⟨own₁, kept, s₁, own₂, rfl, made, on⟩
  · obtain ⟨text, whole⟩ := Body.bytes?_of_not_isStream held
    obtain ⟨-, impossible⟩ := goes_read broken
    simp [Response.inMemory, Response.read, Body.readAll_of_bytes? whole, Except.map] at impossible
  · obtain ⟨rfl, -⟩ := goes_read made
    rcases goes_answered silent quiet alone inMemory on with
      failed | ⟨q, x, last, one, answered, alike, credentials, ended, same, history'⟩
    · exact .inl failed
    · refine .inr ⟨q, x, last, one, answered, alike, credentials, ended, same, ?_⟩
      rw [history', List.length_append, List.length_singleton]

/-- What the rounds end with behind a first response: it is the last one, it makes them fail, or its
challenge is answered and the second one is the last. -/
inductive Ended (a : Account) (known : Option Remembered) (own : Changes) (first : Sent)
    (x : Response) : Except Error Authenticated → Prop
  | unasked {last : Authenticated} : challengeIn? x = none → sent own = [first] →
      last.response = first.heard x → last.history = [] → Ended a known own first x (.ok last)
  | refused {value : String} {fault : ChallengeFault} : challengeIn? x = some value →
      answerable value = .error fault → sent own = [first] →
      Ended a known own first x (.error fault.error)
  | asked {value : String} {ch : Challenge} {second : Sent} {y : Response}
      {last : Authenticated} : challengeIn? x = some value → answerable value = .ok ch →
      sent own = [first, second] → second.result = .ok y →
      Alike first.head first.body second.head second.body →
      a.Proves ⟨ch, countFor ch known⟩ second.head →
      last.response = second.heard y → last.history.length = 1 →
      Ended a known own first x (.ok last)

theorem Ended.behind {known : Option Remembered} {first : Sent} {x : Response} {start : Changes}
    {result : Except Error Authenticated} (h : Ended a known own first x result)
    (unsent : sent start = []) : Ended a known (start ++ own) first x result := by
  have same : sent (start ++ own) = sent own := by rw [sent_append, unsent, List.nil_append]
  cases h with
  | unasked offers one response history =>
      exact .unasked offers (same.trans one) response history
  | refused offers verdict one => exact .refused offers verdict (same.trans one)
  | asked offers verdict both answered alike proves response history =>
      exact .asked offers verdict (same.trans both) answered alike proves response history

/-- A flow that has not answered yet answers the challenge of the first response, if there is one
that it can answer. -/
theorem goes_unanswered {result : Except Error Authenticated}
    (silent : c.requestHooks = []) (quiet : c.responseHooks = []) (account : a.IsLegible)
    (alone : LeavesAlone a rely) (url : Legible r.url.pathAndQuery)
    (inMemory : r.body.bytes? = some bytes)
    (h : Goes rely (c.authenticate mode 1 (.digest a false) r []) s own result s')
    (answers : ∀ q ∈ sent own, ∀ x, q.result = .ok x → x.body.isStream = false) :
    (∃ q failed e, c.Exchanged mode q failed (.error e) ∧ Alike r.head r.body q.head q.body ∧
      failed <:+ own ∧ result = .error e) ∨
    ∃ first x, first.result = .ok x ∧ Alike r.head r.body first.head first.body ∧
      first.head.headers.values .authorization = r.headers.values .authorization ∧
      Ended a (a.memory s first.head.url.hostAndPort) own first x result := by
  have itself : Alike r.head r.body r.head r.body := (Request.Signed.refl r).alike
  unfold authenticate at h
  rcases goes_bind.mp h with ⟨e, failed, rfl⟩ | ⟨own₁, ⟨resumed, response⟩, s₁, own₂, rfl, made, on⟩
  · rcases goes_round_unanswered silent quiet account alone url inMemory failed with
      ⟨e', exchanged, same⟩ | ⟨first, x, one, answered, alike, credentials, turned⟩
    · cases same
      exact .inl ⟨r, own, e, exchanged, itself, List.suffix_refl own, rfl⟩
    · cases turned with
      | refused offers verdict =>
          exact .inr ⟨first, x, answered, alike, credentials, .refused offers verdict one⟩
  · rcases goes_round_unanswered silent quiet account alone url inMemory made with
      ⟨_, -, impossible⟩ | ⟨first, x, one, answered, alike, credentials, turned⟩
    · cases impossible
    · cases turned with
      | unasked offers step =>
          simp only [step] at on
          obtain ⟨rfl, rfl, -⟩ := goes_pure.mp on
          rw [List.append_nil]
          exact .inr ⟨first, x, answered, alike, credentials, .unasked offers one rfl rfl⟩
      | @asked _ _ q _ offers verdict alike' proves =>
          have held : (first.heard x).body.isStream = false :=
            answers first (by rw [sent_append, one]; exact List.mem_cons_self) x answered
          have same : q.body.bytes? = some bytes := alike'.bytes.trans inMemory
          rcases goes_answering silent quiet alone held same on with
            ⟨e, exchanged, rfl⟩ |
            ⟨second, y, last, other, answered', alike'', credentials', rfl, response, history⟩
          · exact .inl ⟨q, own₂, e, exchanged, alike', List.suffix_append own₁ own₂, rfl⟩
          · have both : sent (own₁ ++ own₂) = [first, second] := by
              rw [sent_append, one, other]
              rfl
            exact .inr ⟨first, x, answered, alike, credentials,
              .asked offers verdict both answered' (alike.symm.trans (alike'.trans alike''))
                (proves.congr alike'' credentials') response history⟩

end Client

end HttpClient
