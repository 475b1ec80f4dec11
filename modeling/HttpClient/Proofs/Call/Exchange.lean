/-
# What an exchange does

An exchange changes the session at two moments: when the request is made ready, and
when it is handed over and answered.  `Exchanged` lists the ways it can go, and
`goes_exchange` says that there are no others, in whatever company.

Of the request that a transport receives it is said where its parts come from
(`Given`): without hooks everything but the cookies is as the call has it, and the
body is handed on as it is or in one piece.  A request with nothing left of its body
is never handed over.
-/
import HttpClient.Proofs.Call.Goes
import HttpClient.Proofs.Redirect.Leg

namespace HttpClient

open Call

theorem ok_of_map {ε α β : Type} {x : Except ε α} {f : α → β} {b : β} (h : x.map f = .ok b) :
    ∃ a, x = .ok a ∧ f a = b := by
  cases x with
  | error e => cases h
  | ok a => exact ⟨a, rfl, Except.ok.inj h⟩

/-! ## What hooks make of what they are shown -/

theorem showTo_rel {α : Type} {R : α → α → Prop} (refl : ∀ x, R x x)
    (trans : ∀ {x y z}, R x y → R y z → R x z) {note : Nat → α → Event} {hooks : List (Hook α)}
    (each : ∀ hook ∈ hooks, ∀ j x y, hook j x = .ok y → R x y) {index : Nat} {x y : α}
    {j : Journal} (h : (showTo note index hooks x j).1 = .ok y) : R x y := by
  induction hooks generalizing index x j with
  | nil =>
      cases h
      exact refl _
  | cons hook rest ih =>
      obtain ⟨first, others⟩ := List.forall_mem_cons.mp each
      unfold showTo at h
      cases changed : hook j x with
      | error e =>
          rw [changed] at h
          cases h
      | ok p =>
          rw [changed] at h
          exact trans (first j x p changed) (ih others h)

/-! ## What the steps write into the journal -/

theorem showTo_journal {α : Type} {note : Nat → α → Event} (index : Nat) (hooks : List (Hook α))
    (x : α) (j : Journal) (quiet : ∀ index x, (note index x).isCall = false) :
    ∃ noted : Journal, (showTo note index hooks x j).2 = j ++ noted ∧
      ∀ event ∈ noted, event.isCall = false := by
  induction hooks generalizing index x j with
  | nil => exact ⟨[], (List.append_nil j).symm, fun _ there => absurd there List.not_mem_nil⟩
  | cons hook rest ih =>
      unfold showTo
      cases hook j x with
      | error e =>
          refine ⟨[note index x], rfl, ?_⟩
          intro event there
          cases List.mem_singleton.mp there
          exact quiet index x
      | ok changed =>
          obtain ⟨noted, same, others⟩ := ih (index + 1) changed (j ++ [note index x])
          refine ⟨note index x :: noted, ?_, List.forall_mem_cons.mpr ⟨quiet index x, others⟩⟩
          show (showTo note _ rest changed _).2 = _
          rw [same, List.append_assoc, List.singleton_append]

theorem showRequest_journal (hooks : List RequestHook) (r : Request) (j : Journal) :
    ∃ noted : Journal, (showRequest hooks r j).2 = j ++ noted ∧
      ∀ event ∈ noted, event.isCall = false :=
  showTo_journal 0 hooks r j fun _ _ => rfl

theorem showResponse_journal (hooks : List ResponseHook) (r : Response) (j : Journal) :
    ∃ noted : Journal, (showResponse hooks r j).2 = j ++ noted ∧
      ∀ event ∈ noted, event.isCall = false :=
  showTo_journal 0 hooks r j fun _ _ => rfl

theorem Transport.handle_isCall (t : Transport) (mode : Mode) (j : Journal) (r : Request) :
    (t.handle mode j r).event.isCall = true := by
  unfold Transport.handle
  split
  · split
    · rfl
    · rfl
  · rfl

/-! ## Transport calls of a single change -/

theorem Call.calls_eq_zero {own : Changes} (h : ∀ event ∈ events own, event.isCall = false) :
    calls own = 0 :=
  List.countP_eq_zero.mpr fun event there => by simp [h event there]

theorem Call.events_single (change : Session × Session) : events [change] = written change := by
  simp [events]

theorem Call.calls_noted {change : Session × Session} {noted : Journal}
    (h : change.2.journal = change.1.journal ++ noted)
    (quiet : ∀ event ∈ noted, event.isCall = false) : calls [change] = 0 := by
  apply calls_eq_zero
  rw [events_single, written_of_append h]
  exact quiet

namespace Client

variable {c : Client} {mode : Mode} {r : Request} {own : Changes}
  {rely : Session → Session → Prop} {s s' t t' : Session}

theorem beforeSend_journal (c : Client) (r : Request) (t : Session) :
    ∃ noted : Journal, (c.beforeSend r t).2.journal = t.journal ++ noted ∧
      ∀ event ∈ noted, event.isCall = false := by
  have unnoted : ∃ noted : Journal, t.journal = t.journal ++ noted ∧
      ∀ event ∈ noted, event.isCall = false := ⟨[], (List.append_nil _).symm, by simp⟩
  unfold beforeSend
  split
  · exact unnoted
  · split
    · exact unnoted
    · split
      · exact unnoted
      · exact showRequest_journal _ _ _

theorem handOver_journal (c : Client) (mode : Mode) (transport : Transport) (r : Request)
    (t : Session) :
    ∃ noted : Journal, (c.handOver mode transport r t).2.journal =
        t.journal ++ (transport.handle mode t.journal r).event :: noted ∧
      ∀ event ∈ noted, event.isCall = false := by
  unfold handOver
  cases answered : (transport.handle mode t.journal r).result with
  | error e => exact ⟨[], by simp only [answered], by simp⟩
  | ok response =>
      obtain ⟨noted, same, quiet⟩ := showResponse_journal c.responseHooks
        { response with request := some r.head }
        (t.journal ++ [(transport.handle mode t.journal r).event])
      refine ⟨noted, ?_, quiet⟩
      simp only [answered]
      show (showResponse _ _ _).2 = _
      rw [same, List.append_assoc, List.singleton_append]

/-! ## The ways an exchange can go -/

/-- The ways an exchange can go: what it changes, and what it comes to. -/
inductive Exchanged (c : Client) (mode : Mode) (r : Request) :
    Changes → Except Error (Request × Response) → Prop
  | refused {t t' : Session} {e : Error} : c.beforeSend r t = (.error e, t') →
      Exchanged c mode r [(t, t')] (.error e)
  | handed {t t' u : Session} {transport : Transport} {q : Request} :
      c.beforeSend r t = (.ok (transport, q), t') →
      Exchanged c mode r [(t, t'), (u, (c.handOver mode transport q u).2)]
        (c.handOver mode transport q u).1

theorem goes_exchange {result : Except Error (Request × Response)}
    (h : Goes rely (c.exchange mode r) s own result s') : c.Exchanged mode r own result := by
  unfold exchange at h
  rcases goes_bind.mp h with ⟨e, refused, rfl⟩ | ⟨own₁, ⟨transport, q⟩, s₁, own₂, rfl, made, on⟩
  · obtain ⟨t, -, rfl, failed, -⟩ := goes_act.mp refused
    exact .refused (Prod.ext failed.symm rfl)
  · obtain ⟨t, -, rfl, ready, -⟩ := goes_act.mp made
    rcases goes_bind.mp on with ⟨e, slept, rfl⟩ | ⟨own₃, u, s₂, own₄, rfl, slept, awake⟩
    · obtain ⟨-, impossible, -⟩ := goes_sleep slept
      cases impossible
    · obtain ⟨rfl, -, -⟩ := goes_sleep slept
      rcases goes_bind.mp awake with ⟨e, waited, rfl⟩ | ⟨own₅, u, s₃, own₆, rfl, waited, last⟩
      · obtain ⟨-, impossible, -⟩ := goes_turns waited
        cases impossible
      · obtain ⟨rfl, -, -⟩ := goes_turns waited
        obtain ⟨v, -, rfl, rfl, -⟩ := goes_act.mp last
        exact .handed (Prod.ext ready.symm rfl)

/-! ## Making ready -/

theorem beforeSend_ok {transport : Transport} {q : Request}
    (h : c.beforeSend r t = (.ok (transport, q), t')) :
    r.body.isConsumed = false ∧ (c.router.route r.url t.connections).1 = .ok transport ∧
      ∃ p, r.applyJarCookie (c.cookies t) = .ok p ∧
        (showRequest c.requestHooks p t.journal).1 = .ok q := by
  unfold beforeSend at h
  split at h
  · cases h
  · rename_i unused
    split at h
    · cases h
    · rename_i found connections routed
      split at h
      · cases h
      · rename_i p written
        have shown : (showRequest c.requestHooks p t.journal).1.map (found, ·) =
            .ok (transport, q) := congrArg Prod.fst h
        cases hooked : (showRequest c.requestHooks p t.journal).1 with
        | error e =>
            rw [hooked] at shown
            cases shown
        | ok q' =>
            rw [hooked] at shown
            cases shown
            exact ⟨by simpa using unused, by rw [routed], p, written, hooked⟩

theorem Exchanged.consumed {result : Except Error (Request × Response)}
    (h : c.Exchanged mode r own result) (used : r.body.isConsumed = true) :
    result = .error .streamConsumed ∧ calls own = 0 := by
  have refused (t : Session) : c.beforeSend r t = (.error .streamConsumed, t) := by
    unfold beforeSend
    rw [if_pos used]
  cases h with
  | refused failed =>
      rw [refused] at failed
      cases failed
      exact ⟨rfl, calls_noted (List.append_nil _).symm (by simp)⟩
  | handed ready =>
      rw [refused] at ready
      cases ready

/-! ## How often a transport is called -/

theorem calls_beforeSend {outcome : Except Error (Transport × Request)}
    (h : c.beforeSend r t = (outcome, t')) : calls [(t, t')] = 0 := by
  obtain ⟨noted, same, quiet⟩ := beforeSend_journal c r t
  rw [h] at same
  exact calls_noted same quiet

theorem calls_handOver (c : Client) (mode : Mode) (transport : Transport) (r : Request)
    (t : Session) : calls [(t, (c.handOver mode transport r t).2)] = 1 := by
  obtain ⟨noted, same, quiet⟩ := handOver_journal c mode transport r t
  unfold calls
  rw [events_single, written_of_append same, List.countP_cons_of_pos
    (Transport.handle_isCall transport mode t.journal r)]
  rw [List.countP_eq_zero.mpr fun event there => by simp [quiet event there]]

/-- An exchange calls a transport at most once, and exactly once if it succeeds. -/
theorem Exchanged.calls_le {result : Except Error (Request × Response)}
    (h : c.Exchanged mode r own result) :
    calls own ≤ 1 ∧ ∀ x, result = .ok x → calls own = 1 := by
  cases h with
  | refused failed =>
      rw [calls_beforeSend failed]
      exact ⟨by omega, fun _ impossible => by cases impossible⟩
  | @handed t t' u transport q ready =>
      have one : calls [(t, t'), (u, (c.handOver mode transport q u).2)] = 1 := by
        show calls ([(t, t')] ++ [(u, (c.handOver mode transport q u).2)]) = 1
        rw [calls_append, calls_beforeSend ready, calls_handOver]
      exact ⟨by omega, fun _ _ => one⟩

/-! ## What a transport receives -/

/-- What a transport that is given a request receives, and which body it leaves, if no hook sees the
request: the cookies may be new, and the body comes as it is or in one piece. -/
structure Given (mode : Mode) (transport : Transport) (r : Request) (q : Sent) (left : Body) :
    Prop where
  method : q.head.method = r.method
  url : q.head.url = r.url
  fields : ∀ n, n ≠ .cookie → q.head.headers.values n = r.headers.values n
  body : if transport.readsBody then
      ∃ bytes, r.body.readAll mode = (.ok bytes, left) ∧ q.body = .full bytes
    else q.body = r.body ∧ left = r.body

/-- A request with another body whose cookies may be new. -/
structure Left (r p : Request) (left : Body) : Prop where
  method : p.method = r.method
  url : p.url = r.url
  fields : ∀ n, n ≠ .cookie → p.headers.values n = r.headers.values n
  body : p.body = left

/-- A transport that is given a request receives it, or fails to read its body. -/
theorem handle_given (mode : Mode) (transport : Transport) (j : Journal) (p : Request) :
    (∃ e, Sent.ofEvent? (transport.handle mode j p).event = none ∧
      (transport.handle mode j p).result = .error e ∧ (p.body.readAll mode).1 = .error e) ∨
    ∃ q left, Sent.ofEvent? (transport.handle mode j p).event = some q ∧
      (transport.handle mode j p).result = q.result ∧ q.head = p.head ∧
      (transport.handle mode j p).request = { p with body := left } ∧
      if transport.readsBody then
        ∃ bytes, p.body.readAll mode = (.ok bytes, left) ∧ q.body = .full bytes
      else q.body = p.body ∧ left = p.body := by
  unfold Transport.handle
  split
  · split
    · rename_i bytes left whole
      exact .inr ⟨⟨p.head, .full bytes, transport.respond j p.head (.full bytes)⟩, left,
        rfl, rfl, rfl, rfl, bytes, whole, rfl⟩
    · rename_i e left broken
      exact .inl ⟨e, rfl, rfl, by rw [broken]⟩
  · exact .inr ⟨⟨p.head, p.body, transport.respond j p.head p.body⟩, p.body,
      rfl, rfl, rfl, rfl, rfl, rfl⟩

theorem handOver_quiet (quiet : c.responseHooks = []) (mode : Mode) (transport : Transport)
    (p : Request) (u : Session) :
    written (u, (c.handOver mode transport p u).2) =
        [(transport.handle mode u.journal p).event] ∧
      (c.handOver mode transport p u).1 =
        (transport.handle mode u.journal p).result.map fun response =>
          ((transport.handle mode u.journal p).request,
            { response with request := some p.head }) := by
  have journal : (c.handOver mode transport p u).2.journal =
      u.journal ++ [(transport.handle mode u.journal p).event] := by
    unfold handOver
    cases answered : (transport.handle mode u.journal p).result with
    | error e => simp only [answered]
    | ok response => simp only [answered, afterReceive, quiet, showResponse, showTo]
  refine ⟨written_of_append journal, ?_⟩
  unfold handOver
  cases answered : (transport.handle mode u.journal p).result with
  | error e => simp only [answered, Except.map]
  | ok response => simp only [answered, afterReceive, quiet, showResponse, showTo, Except.map]

theorem handOver_left {transport : Transport} {p q : Request} {response : Response} {u : Session}
    (h : (c.handOver mode transport p u).1 = .ok (q, response)) :
    ∃ left, q = { p with body := left } := by
  rcases handle_given mode transport u.journal p with
    ⟨e, -, failed, -⟩ | ⟨_, left, -, -, -, same, -⟩
  · simp only [handOver, failed] at h
    cases h
  · simp only [handOver] at h
    split at h
    · cases h
    · obtain ⟨_, -, shown⟩ := ok_of_map h
      cases shown
      exact ⟨left, same⟩

/-- Without hooks an exchange that goes as far as to a transport is about the request itself. -/
theorem Exchanged.given {result : Except Error (Request × Response)} (silent : c.requestHooks = [])
    (quiet : c.responseHooks = []) (h : c.Exchanged mode r own result) :
    (sent own = [] ∧ ∃ e, result = .error e) ∨
    ∃ transport q left,
      (∃ change ∈ own, (c.router.route r.url change.1.connections).1 = .ok transport) ∧
      sent own = [q] ∧ Given mode transport r q left ∧
      ((∃ e, q.result = .error e ∧ result = .error e) ∨
        ∃ x p, q.result = .ok x ∧ Left r p left ∧
          result = .ok (p, { x with request := some q.head })) := by
  cases h with
  | refused failed =>
      exact .inl ⟨sent_of_calls (calls_beforeSend failed), _, rfl⟩
  | @handed t t' u transport p ready =>
      obtain ⟨-, routed, unseen, written, shown⟩ := beforeSend_ok ready
      rw [silent] at shown
      cases shown
      obtain ⟨method, url, body, fields⟩ := Request.applyJarCookie_ok written
      obtain ⟨noted, outcome⟩ := handOver_quiet quiet mode transport p u
      have received : sent [(t, t'), (u, (c.handOver mode transport p u).2)] =
          (Sent.ofEvent? (transport.handle mode u.journal p).event).toList := by
        show sent ([(t, t')] ++ [(u, (c.handOver mode transport p u).2)]) = _
        rw [sent_append, sent_of_calls (calls_beforeSend ready), List.nil_append]
        unfold sent
        rw [events_single, noted]
        cases got : Sent.ofEvent? (transport.handle mode u.journal p).event with
        | none => rw [List.filterMap_cons_none got]; rfl
        | some q => rw [List.filterMap_cons_some got]; rfl
      rcases handle_given mode transport u.journal p with
        ⟨e, unread, failed, -⟩ | ⟨q, left, got, answered, head, request, taken⟩
      · refine .inl ⟨by rw [received, unread]; rfl, e, ?_⟩
        rw [outcome, failed]
        rfl
      · refine .inr ⟨transport, q, left, ⟨_, List.mem_cons_self, routed⟩,
          by rw [received, got]; rfl, ⟨?_, ?_, ?_, ?_⟩, ?_⟩
        · rw [head]
          exact method
        · rw [head]
          exact url
        · intro n hn
          rw [head]
          exact fields n hn
        · rw [← body]
          exact taken
        · rw [outcome, answered, request, head]
          cases q.result with
          | error e => exact .inl ⟨e, rfl, rfl⟩
          | ok x => exact .inr ⟨x, { p with body := left }, rfl, ⟨method, url, fields, rfl⟩, rfl⟩

end Client

end HttpClient
