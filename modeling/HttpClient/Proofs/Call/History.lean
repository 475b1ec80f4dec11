/-
# The history of a call

A call that succeeds has made one exchange more than its history has responses.  The
responses of the history belong to the exchanges before the last one, in order and
without a gap: first those of the authentication rounds, which the rounds collect, and
then those of the redirects, which the chain collects.

A response of the history is what its transport gave, save that it refers back to the
request that the transport received and holds all bytes of the body in memory
(`Sent.GaveInMemory`).  The response of the answer belongs to the last exchange.  Its
body is as the transport gave it, unless the flow wants to see responses in memory.

The two loops meet in the response with which the redirects begin: it is the last one
of the rounds, and whether it goes into the history is for the legs to decide.  So the
induction over the legs is about the requests from that response on.
-/
import HttpClient.Proofs.Call.Alone
import HttpClient.Proofs.Call.Count
import Mathlib.Data.List.Forall2

namespace HttpClient

open Auth Redirect Call

/-- The response is what the transport gave for the request, referring back to the request. -/
def Call.Sent.Gave (q : Sent) (response : Response) : Prop :=
  ∃ x, q.result = .ok x ∧ response = { x with request := some q.head }

/-- The response is that, with all that its body has to give in memory. -/
def Call.Sent.GaveInMemory (mode : Mode) (q : Sent) (response : Response) : Prop :=
  ∃ x bytes, q.result = .ok x ∧ (x.body.readAll mode).1 = .ok bytes ∧
    response = { x with request := some q.head, body := .full bytes }

/-- One or the other; the second only under a condition. -/
def Call.Sent.Returned (mode : Mode) (wanted : Prop) (q : Sent) (response : Response) : Prop :=
  q.Gave response ∨ wanted ∧ q.GaveInMemory mode response

variable {mode : Mode}

theorem Response.inMemory_ok {x response : Response} (h : x.inMemory mode = .ok response) :
    ∃ bytes, (x.body.readAll mode).1 = .ok bytes ∧ response = { x with body := .full bytes } := by
  unfold inMemory Response.read at h
  cases found : x.body.readAll mode with
  | mk outcome left =>
      cases outcome with
      | error e => simp [found, Except.map] at h
      | ok bytes =>
          simp only [found, Except.map] at h
          cases h
          exact ⟨bytes, rfl, rfl⟩

theorem texts_of_inMemory {received : List Sent} {history : List Response}
    (h : List.Forall₂ (Sent.GaveInMemory mode) received history) :
    ∀ response ∈ history, response.text?.isSome = true := by
  induction h with
  | nil => exact fun _ there => absurd there List.not_mem_nil
  | cons gave _ ih =>
      obtain ⟨x, bytes, -, -, rfl⟩ := gave
      exact List.forall_mem_cons.mpr ⟨rfl, ih⟩

theorem Call.Sent.Returned.inMemory {wanted : Prop} {q : Sent} {x response : Response}
    (h : q.Returned mode wanted x) (read : x.inMemory mode = .ok response) :
    q.GaveInMemory mode response := by
  obtain ⟨bytes, whole, rfl⟩ := Response.inMemory_ok read
  rcases h with ⟨y, gave, rfl⟩ | ⟨-, y, bytes', gave, read', rfl⟩
  · exact ⟨y, bytes, gave, whole, rfl⟩
  · cases whole
    exact ⟨y, bytes, gave, read', rfl⟩

namespace Redirect

/-- Where a chain ends: with the response that it was handed, which is a redirect only where none
are followed, and then another request would come next. -/
theorem receive_ended {chain : Sending} {response : Response} {answer : Answer}
    (h : chain.receive response = .ok (.done answer)) :
    answer.response = response ∧
      (answer.next.isSome = true ↔ chain.follow = false ∧ response.isRedirect = true) ∧
      (chain.follow = true → response.isRedirect = false) := by
  unfold Sending.receive at h
  split at h
  · rename_i other
    rw [Bool.not_eq_true'] at other
    cases h
    simp [other]
  · rename_i redirects
    rw [Bool.not_eq_true', Bool.not_eq_false] at redirects
    split at h
    · rename_i stays
      rw [Bool.not_eq_true'] at stays
      cases found : next chain.request response true with
      | error e =>
          rw [found] at h
          cases h
      | ok p =>
          rw [found] at h
          cases h
          simp [redirects, stays]
    · split at h
      · cases h
      · cases found : next chain.request response false <;> rw [found] at h <;> cases h

end Redirect

namespace Auth

theorem Flow.resume_buffersResponse (f : Flow) (j : Journal) (r : Request) (response : Response)
    (s : Digest.Store) : (f.resume j r response s).flow.buffersResponse = f.buffersResponse := by
  cases f with
  | none | once _ => rfl
  | digest account answered =>
      simp only [resume]
      split
      · rfl
      · split
        · rfl
        · unfold answer
          split
          · rfl
          · split
            · rfl
            · rfl
  | plan p taken rounds =>
      cases rounds with
      | nil => rfl
      | cons round rest =>
          simp only [resume]
          split
          · rfl
          · rfl

end Auth

namespace Client

variable {c : Client} {own : Changes}

/-! ## One exchange, and one round -/

theorem Exchanged.gave {r p : Request} {response : Response} (quiet : c.responseHooks = [])
    (h : c.Exchanged mode r own (.ok (p, response))) : ∃ q, sent own = [q] ∧ q.Gave response := by
  generalize same : Except.ok (p, response) = result at h
  cases h with
  | refused _ => cases same
  | @handed t t' u transport r' ready =>
      obtain ⟨noted, outcome⟩ := handOver_quiet quiet mode transport r' u
      rw [outcome] at same
      rcases handle_given mode transport u.journal r' with
        ⟨e, -, failed, -⟩ | ⟨q, left, got, answered, head, -, -⟩
      · rw [failed] at same
        cases same
      · rw [answered] at same
        have received : sent [(t, t'), (u, (c.handOver mode transport r' u).2)] = [q] := by
          show sent ([(t, t')] ++ [(u, (c.handOver mode transport r' u).2)]) = [q]
          rw [sent_append, sent_of_calls (calls_beforeSend ready), List.nil_append]
          unfold sent
          rw [events_single, noted, List.filterMap_cons_some got]
          rfl
        obtain ⟨x, gave, shown⟩ := ok_of_map same.symm
        cases shown
        exact ⟨q, received, x, gave, by rw [head]⟩

theorem Rounded.returned {flow : Flow} {r : Request} {resumed : Resumed} {response : Response}
    (quiet : c.responseHooks = []) (h : c.Rounded mode flow r own (.ok (resumed, response))) :
    resumed.flow.buffersResponse = flow.buffersResponse ∧
      ∃ q, sent own = [q] ∧ q.Returned mode (flow.buffersResponse = true) response := by
  obtain ⟨exchange, p, received, t, t', _, rfl, exchanged, kept, journal, rfl, -⟩ := h.ok
  obtain ⟨q, one, gave⟩ := exchanged.gave quiet
  have only : sent (exchange ++ [(t, t')]) = [q] := by
    rw [sent_append, one, sent_of_calls (calls_noted_flow journal), List.append_nil]
  refine ⟨Flow.resume_buffersResponse .., q, only, ?_⟩
  split at kept
  · rename_i wants
    have plain : q.Returned mode False received := .inl gave
    exact .inr ⟨wants, plain.inMemory kept⟩
  · cases kept
    exact .inl gave

/-! ## The two loops -/

/-- The rounds have put all responses but the last into the history. -/
theorem Rounds.history {flow : Flow} {r : Request} {history : List Response}
    {rounds : List (Resumed × Response)} {last : Authenticated} (quiet : c.responseHooks = [])
    (h : c.Rounds mode flow r history own rounds (.ok last)) :
    ∃ before q kept, sent own = before ++ [q] ∧ last.history = history ++ kept ∧
      List.Forall₂ (Sent.GaveInMemory mode) before kept ∧
      q.Returned mode (flow.buffersResponse = true) last.response := by
  generalize ended : Except.ok last = result at h
  induction h with
  | failed _ => cases ended
  | last rounded _ =>
      cases ended
      obtain ⟨-, q, one, returned⟩ := rounded.returned quiet
      exact ⟨[], q, [], one, (List.append_nil _).symm, .nil, returned⟩
  | unread _ _ _ => cases ended
  | @again _ _ history own own' resumed received response _ _ rounded _ read _ ih =>
      obtain ⟨same, first, one, returned⟩ := rounded.returned quiet
      obtain ⟨before, q, kept, rest, longer, all, final⟩ := ih ended
      rw [same] at final
      refine ⟨first :: before, q, response :: kept, ?_, ?_, ?_, final⟩
      · rw [sent_append, one, rest]
        rfl
      · rw [longer, List.append_assoc]
        rfl
      · exact .cons (returned.inMemory read) all

theorem Proceeded.history {r : Redirected} {next : Sending}
    (h : c.Proceeded mode r own (.ok next)) :
    ∃ kept, r.response.inMemory mode = .ok kept ∧
      next.history = r.chain.history ++ [kept] ∧ next.follow = r.chain.follow := by
  generalize same : Except.ok next = result at h
  cases h with
  | unread _ => cases same
  | @proceeded response t read =>
      obtain ⟨q, -, rfl⟩ := proceed_ok same.symm
      exact ⟨response, read, rfl, rfl⟩

/-- Of the requests from the one on that was answered by the first response, all but the last have
their responses in the history. -/
theorem Legs.history {chain : Sending} {response : Response} {stages : List Stage}
    {answer : Answer} {wanted : Prop} (quiet : c.responseHooks = [])
    (h : c.Legs mode chain response own stages (.ok answer)) :
    ∀ q : Sent, q.Returned mode wanted response →
    ∃ before last kept, q :: sent own = before ++ [last] ∧
      answer.history = chain.history ++ kept ∧
      List.Forall₂ (Sent.GaveInMemory mode) before kept ∧
      last.Returned mode wanted answer.response := by
  generalize ended : Except.ok answer = result at h
  induction h with
  | done received =>
      intro q returned
      cases ended
      obtain ⟨same, -, -⟩ := receive_ended received
      refine ⟨[], q, [], rfl, ?_, .nil, ?_⟩
      · rw [List.append_nil]
        exact (receive_done received).1
      · rw [same]
        exact returned
  | refused _ => cases ended
  | stuck _ _ => cases ended
  | unanswered _ _ _ => cases ended
  | @leg chain next response response' r p own own' own'' _ _ received proceeded exchanged _ ih =>
      intro q returned
      obtain ⟨-, -, -, _, -, rfl⟩ := receive_redirected received
      obtain ⟨kept, read, longer, -⟩ := proceeded.history
      obtain ⟨q', one, gave⟩ := exchanged.gave quiet
      obtain ⟨before, last, kept', rest, whole, all, final⟩ := ih ended q' (.inl gave)
      refine ⟨q :: before, last, kept :: kept', ?_, ?_, ?_, final⟩
      · rw [sent_append, sent_append, sent_of_calls proceeded.calls_eq, one, List.nil_append,
          List.singleton_append, rest]
        rfl
      · rw [whole]
        show next.history ++ kept' = _
        rw [longer, List.append_assoc]
        rfl
      · exact .cons (returned.inMemory read) all

/-- A chain that follows redirects does not end with one; a chain that does not follow them ends
with the request that would come next, if there is one. -/
theorem Legs.next {chain : Sending} {response : Response} {stages : List Stage} {answer : Answer}
    (h : c.Legs mode chain response own stages (.ok answer)) :
    (answer.next.isSome = true ↔ chain.follow = false ∧ answer.response.isRedirect = true) ∧
      (chain.follow = true → answer.response.isRedirect = false) := by
  generalize ended : Except.ok answer = result at h
  induction h with
  | done received =>
      cases ended
      obtain ⟨same, left, hnone⟩ := receive_ended received
      rw [same]
      exact ⟨left, hnone⟩
  | refused _ => cases ended
  | stuck _ _ => cases ended
  | unanswered _ _ _ => cases ended
  | @leg chain next _ _ r _ _ _ _ _ _ received proceeded _ _ ih =>
      obtain ⟨-, -, -, _, -, rfl⟩ := receive_redirected received
      obtain ⟨-, -, -, same⟩ := proceeded.history
      have later := ih ended
      simp only [same] at later
      exact later

/-! ## The whole call -/

/-- What the first phase of a call leaves to the second one. -/
theorem Opening.history {r : Request} {options : Options} {rounds : List (Resumed × Response)}
    {last : Authenticated} {follow : Bool} (quiet : c.responseHooks = [])
    (h : c.Opening mode r options own rounds (.ok (last, follow))) :
    ∃ prepared before q, c.prepare r options = .ok prepared ∧ sent own = before ++ [q] ∧
      List.Forall₂ (Sent.GaveInMemory mode) before last.history ∧
      q.Returned mode (prepared.flow.buffersResponse = true) last.response := by
  generalize ended : Except.ok (last, follow) = result at h
  cases h with
  | unready _ => cases ended
  | @rounds _ _ _ _ outcome readied rounds =>
      cases outcome with
      | error e => cases ended
      | ok last' =>
          cases ended
          obtain ⟨prepared, _, _, made, -, -, flow, -⟩ := readied.ok
          obtain ⟨before, q, kept, all, whole, inOrder, returned⟩ := rounds.history quiet
          rw [List.nil_append] at whole
          rw [← whole] at inOrder
          rw [flow] at returned
          refine ⟨prepared, before, q, made, ?_, inOrder, returned⟩
          rw [sent_append, sent_of_calls readied.calls_eq, List.nil_append, all]

/-- Of the exchanges of a call that succeeds, all but the last have their responses in the history,
in order.  Each of these has the status, the version, the url and the header fields that the
transport gave; it refers back to the method, the url and the header fields that the transport
received; and its body is in memory, with all bytes that the body from the transport had to give.
Only an answer has a history and a next request, so these responses have none.

The answer has the response of the last exchange.  It says which request would come next if and only
if the call does not follow redirects and the response is one; a call that follows redirects does
not end with one. -/
theorem history_in_order {rely : Session → Session → Prop} {s s' : Session} {r : Request}
    {options : Options} {answer : Answer} (quiet : c.responseHooks = [])
    (h : Goes rely (c.call mode r options) s own (.ok answer) s') :
    ∃ prepared before last, c.prepare r options = .ok prepared ∧
      sent own = before ++ [last] ∧ calls own = answer.history.length + 1 ∧
      List.Forall₂ (Sent.GaveInMemory mode) before answer.history ∧
      (∀ response ∈ answer.history, response.text?.isSome = true) ∧
      last.Returned mode (prepared.flow.buffersResponse = true) answer.response ∧
      (answer.next.isSome = true ↔
        options.followRedirects.getD c.followRedirects = false ∧
          [301, 302, 303, 307, 308].contains answer.response.status.code = true ∧
          answer.response.headers.contains .location = true) ∧
      (options.followRedirects.getD c.followRedirects = true →
        ¬ ([301, 302, 303, 307, 308].contains answer.response.status.code = true ∧
          answer.response.headers.contains .location = true)) := by
  obtain ⟨opening, legs, rounds, stages, rfl, course⟩ := goes_call h
  generalize ended : Except.ok answer = result at course
  cases course with
  | unopened _ => cases ended
  | opened opened behind =>
      rename_i last follow
      subst ended
      obtain ⟨count, same⟩ := opened.calls_eq
      have longer := behind.answer
      obtain ⟨prepared, before, q, made, early, inOrder, returned⟩ := opened.history quiet
      obtain ⟨between, final, kept, late, whole, inOrder', gave⟩ := behind.history quiet q returned
      have inMemory : List.Forall₂ (Sent.GaveInMemory mode) (before ++ between) answer.history := by
        rw [whole]
        exact List.rel_append inOrder inOrder'
      have redirects : answer.response.isRedirect = true ↔
          [301, 302, 303, 307, 308].contains answer.response.status.code = true ∧
            answer.response.headers.contains .location = true := Bool.and_eq_true_iff
      obtain ⟨left, hnone⟩ := behind.next
      refine ⟨prepared, before ++ between, final, made, ?_, ?_, inMemory, ?_, gave, ?_, ?_⟩
      · rw [sent_append, early, List.append_assoc, List.singleton_append, late, List.append_assoc]
      · rw [calls_append, count]
        simp only [chain] at longer
        omega
      · exact texts_of_inMemory inMemory
      · rw [left, redirects, ← same]
        rfl
      · intro follows both
        rw [← same] at follows
        have not := hnone follows
        rw [redirects.mpr both] at not
        cases not

/-! ## A challenge, a redirect, and the end -/

section Sampled

open Sample

/-- A plan that looks into all responses, and repeats the request behind a 401. -/
def curious : Plan where
  start := fun _ r => ⟨r, none⟩
  rounds := [fun _ r response => ⟨⟨r, none⟩, response.status = .unauthorized⟩]
  buffersResponse := true

/-- A server whose responses come piece by piece. -/
def dripping : Client :=
  client
    [reply .unauthorized [] (.stream (.live [.chunk [1], .chunk [2]])),
      reply found [(.location, "/b")] (.stream (.live [.chunk [3]])),
      reply okay [] (.stream (.live [.chunk [4]]))]
    (some (.plan curious)) 9

/-- The challenge and the redirect are in the history, in memory; the last response is as it
came. -/
theorem history_of_dripping :
    ∃ answer before last, (dripping.send .blocking (request .get .empty) {} {}).1 = .ok answer ∧
      answer.history.map (fun response => (response.status.code, response.body)) =
        [(401, .full [1, 2]), (302, .full [3])] ∧
      answer.response.body = .stream (.live [.chunk [4]]) ∧
      sent (dripping.changes .blocking (request .get .empty) {} {}) = before ++ [last] ∧
      List.Forall₂ (Sent.GaveInMemory .blocking) before answer.history ∧
      last.Returned .blocking True answer.response ∧ answer.next = none := by
  have there : (answer? dripping (request .get .empty)).isSome = true := by decide +kernel
  obtain ⟨answer, brought⟩ := Option.isSome_iff_exists.mp there
  have bodies : (answer? dripping (request .get .empty)).map (fun answer =>
      (answer.history.map fun response => (response.status.code, response.body),
        answer.response.body)) =
      some ([(401, .full [1, 2]), (302, .full [3])], .stream (.live [.chunk [4]])) := by
    decide +kernel
  rw [brought] at bodies
  obtain ⟨old, new⟩ := Prod.mk.inj (Option.some.inj bodies)
  have goes : Goes Eq _ _ _ _ _ :=
    goes_send (fun _ => rfl) dripping .blocking (request .get .empty) {} {}
  rw [send_of_answer? brought] at goes
  obtain ⟨prepared, before, last, -, all, -, inOrder, -, gave, next, -⟩ :=
    history_in_order rfl goes
  refine ⟨answer, before, last, send_of_answer? brought, old, new, all, inOrder, ?_, ?_⟩
  · exact gave.imp_right fun inMemory => ⟨trivial, inMemory.2⟩
  · cases left : answer.next with
    | none => rfl
    | some q =>
        obtain ⟨stays, -⟩ := next.mp (by rw [left]; rfl)
        cases stays

end Sampled

end Client

end HttpClient
