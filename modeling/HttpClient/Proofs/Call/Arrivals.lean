/-
# Responses that arrive, and the jar

A response arrives when a transport hands it over, and the clock shows when: that is read off the
journal (`arrivals`).  What arrives is extracted into the jar at that moment, before a hook or the
flow gets to see it, and nothing else a call does touches the jar.  So whatever the hooks are, and
whether or not the call fails later on, the jar is the one that the call began with and what
arrived (`jar_of_arrivals`), if nobody else uses it meanwhile.
-/
import HttpClient.Proofs.Call.Count
import HttpClient.Proofs.Call.Steps

namespace HttpClient

open Auth Call

/-- A response, and when it arrived. -/
structure Arrival where
  response : Response
  time : Instant

def Event.response? : Event → Option Response
  | .exchange _ _ _ (.ok response) => some response
  | _ => none

theorem Event.response?_of_not_isCall {event : Event} (h : event.isCall = false) :
    event.response? = none := by
  cases event with
  | exchange | unreadable => cases h
  | _ => rfl

/-- The jar with the cookies of what arrived, in order. -/
def Jar.withArrivals (jar : Jar) (arrived : List Arrival) : Jar :=
  arrived.foldl (fun jar a => jar.extract a.response.headers a.time) jar

theorem Jar.withArrivals_append (jar : Jar) (a b : List Arrival) :
    jar.withArrivals (a ++ b) = (jar.withArrivals a).withArrivals b :=
  List.foldl_append

namespace Client

variable {c : Client} {mode : Mode} {own : Changes} {rely : Session → Session → Prop}
  {s s' : Session}

/-! ## What arrives in a trace of changes -/

/-- What arrives in the second part of a journal, behind the first. -/
def arrivalsIn (c : Client) (j : Journal) : Journal → List Arrival
  | [] => []
  | event :: rest =>
    (event.response?.toList.map fun response => ⟨response, c.clock (j ++ [event])⟩) ++
      c.arrivalsIn (j ++ [event]) rest

def arrivals (c : Client) (own : Changes) : List Arrival :=
  own.flatMap fun change => c.arrivalsIn change.1.journal (written change)

theorem arrivals_append (c : Client) (own own' : Changes) :
    c.arrivals (own ++ own') = c.arrivals own ++ c.arrivals own' :=
  List.flatMap_append

theorem arrivals_single (c : Client) (change : Session × Session) :
    c.arrivals [change] = c.arrivalsIn change.1.journal (written change) :=
  List.append_nil _

theorem arrivalsIn_of_quiet {noted : Journal} (h : ∀ event ∈ noted, event.isCall = false)
    (j : Journal) : c.arrivalsIn j noted = [] := by
  induction noted generalizing j with
  | nil => rfl
  | cons event rest ih =>
      obtain ⟨here, later⟩ := List.forall_mem_cons.mp h
      rw [arrivalsIn, Event.response?_of_not_isCall here, ih later]
      rfl

theorem arrivals_of_calls (h : calls own = 0) : c.arrivals own = [] := by
  refine List.flatMap_eq_nil_iff.mpr fun change there => arrivalsIn_of_quiet ?_ _
  intro event among
  have hnone := List.countP_eq_zero.mp h event (List.mem_flatMap.mpr ⟨change, there, among⟩)
  exact eq_false_of_ne_true hnone

theorem Transport.handle_response? (transport : Transport) (mode : Mode) (j : Journal)
    (r : Request) : (transport.handle mode j r).event.response? =
      (transport.handle mode j r).result.toOption := by
  have answered (name : String) (head : RequestHead) (body : Body)
      (result : Except Error Response) :
      (Event.exchange name head body result).response? = result.toOption := by
    cases result <;> rfl
  unfold Transport.handle
  split
  · split
    · exact answered _ _ _ _
    · rfl
  · exact answered _ _ _ _

theorem arrivals_handOver (c : Client) (mode : Mode) (transport : Transport) (r : Request)
    (u : Session) : c.arrivals [(u, (c.handOver mode transport r u).2)] =
      (transport.handle mode u.journal r).result.toOption.toList.map fun response =>
        ⟨response, c.clock (u.journal ++ [(transport.handle mode u.journal r).event])⟩ := by
  obtain ⟨noted, same, quiet⟩ := handOver_journal c mode transport r u
  rw [arrivals_single, written_of_append same, arrivalsIn, arrivalsIn_of_quiet quiet,
    List.append_nil, Transport.handle_response?]

theorem Exchanged.arrivals_ok {r p : Request} {response : Response}
    (h : c.Exchanged mode r own (.ok (p, response))) : (c.arrivals own).length = 1 := by
  generalize same : Except.ok (p, response) = result at h
  cases h with
  | refused _ => cases same
  | @handed t t' u transport q ready =>
      show (c.arrivals ([(t, t')] ++ [(u, (c.handOver mode transport q u).2)])).length = 1
      rw [arrivals_append, arrivals_of_calls (calls_beforeSend ready), arrivals_handOver]
      cases answered : (transport.handle mode u.journal q).result with
      | error e => simp [handOver, answered] at same
      | ok response => rfl

/-! ## The jar -/

theorem beforeSend_jar (r : Request) (s : Session) : (c.beforeSend r s).2.jar = s.jar := by
  unfold beforeSend
  split
  · rfl
  · split
    · rfl
    · split
      · rfl
      · rfl

theorem jar_handOver (transport : Transport) (r : Request) (u : Session) :
    (c.handOver mode transport r u).2.jar =
      u.jar.withArrivals (c.arrivals [(u, (c.handOver mode transport r u).2)]) := by
  rw [arrivals_handOver]
  cases answered : (transport.handle mode u.journal r).result with
  | error e => simp only [handOver, answered]; rfl
  | ok response => simp only [handOver, answered, afterReceive]; rfl

/-- Each change puts what arrives in it into the jar. -/
theorem steps_arrivals :
    c.Steps mode fun t t' => t'.jar = t.jar.withArrivals (c.arrivals [(t, t')]) where
  ready r s := by
    have hzero : calls [(s, (c.beforeSend r s).2)] = 0 := calls_beforeSend (Prod.eta _).symm
    rw [beforeSend_jar, arrivals_of_calls hzero]
    rfl
  handed transport r s := jar_handOver transport r s
  started flow r s := by
    rw [arrivals_of_calls (calls_noted (List.append_nil _).symm (by simp))]
    rfl
  resumed flow r response s := by
    rw [arrivals_of_calls (calls_noted_flow rfl)]
    rfl
  stayed s := by
    rw [arrivals_of_calls (calls_noted (List.append_nil _).symm (by simp))]
    rfl

theorem withArrivals_arrivals (jar : Jar) (own : Changes) :
    own.foldl (fun jar change => jar.withArrivals (c.arrivals [change])) jar =
      jar.withArrivals (c.arrivals own) := by
  induction own generalizing jar with
  | nil => rfl
  | cons change own ih =>
      rw [List.foldl_cons, ih, ← Jar.withArrivals_append, ← arrivals_append]
      rfl

/-- The jar behind a call that is the only one to use it. -/
theorem jar_of_arrivals {r : Request} {options : Options} {result : Except Error Answer}
    (undisturbed : ∀ s t, rely s t → t.jar = s.jar)
    (h : Goes rely (c.call mode r options) s own result s') :
    s'.jar = s.jar.withArrivals (c.arrivals own) := by
  have steps : c.Steps mode _ := steps_arrivals
  have tracked := @Activity.Goes.tracks _ _ _ _ Session.jar
    (fun jar change => jar.withArrivals (c.arrivals [change])) _ _ _ _ _ undisturbed h (steps.call h)
  exact tracked.2.trans (withArrivals_arrivals s.jar own)

end Client

end HttpClient
