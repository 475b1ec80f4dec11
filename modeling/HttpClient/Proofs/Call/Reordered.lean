/-
# Responses that arrive in another order

When calls of one client run together, what arrives for them is extracted into the one jar, each
response at one moment and at its own time (`jar_together`).  In which order the responses of
different calls arrive is open.

It matters for a name only in which order those arrive that have a value for this name: the others
leave its cookie alone, and of those the last value settles it, whatever was there before
(`find?_withArrivals`).  A jar is known by what it has under each name (`ext_find?`).  So two orders
that keep these sequences, one for each name, lead to the same jar.
-/
import HttpClient.Proofs.Activity.Together
import HttpClient.Proofs.Call.Alone
import HttpClient.Proofs.Call.Arrivals
import HttpClient.Proofs.Cookie.Decisions
import Mathlib.Data.List.Sort

namespace HttpClient

open Activity SetCookie

/-! ## What arrives under a name -/

/-- A value of the response spells a cookie of this name. -/
def Arrival.Names (a : Arrival) (name : String) : Prop :=
  ∃ v ∈ a.response.headers.values .setCookie, ∃ value attributes, Spells v name value attributes

/-- What values say about a name at a time, in order. -/
def SetCookie.verdicts (name : String) (now : Instant) (values : List HeaderValue) :
    List (Option Cookie) :=
  ((values.filterMap (ofValue? · now)).filter (·.name = name)).map (·.verdict now)

/-- What a response says about a name. -/
def Arrival.verdicts (name : String) (a : Arrival) : List (Option Cookie) :=
  SetCookie.verdicts name a.time (a.response.headers.values .setCookie)

theorem SetCookie.verdicts_append (name : String) (now : Instant) (vs ws : List HeaderValue) :
    verdicts name now (vs ++ ws) = verdicts name now vs ++ verdicts name now ws := by
  unfold verdicts
  rw [List.filterMap_append, List.filter_append, List.map_append]

/-- The names for which a response has a value. -/
def Arrival.names (a : Arrival) : List String :=
  ((a.response.headers.values .setCookie).filterMap (ofValue? · a.time)).map (·.name)

/-- The time at which a value is read does not matter for its name. -/
theorem Arrival.mem_names {a : Arrival} {name : String} : name ∈ a.names ↔ a.Names name := by
  unfold Arrival.names
  simp only [List.mem_map, List.mem_filterMap]
  constructor
  · rintro ⟨c, ⟨v, among, read⟩, rfl⟩
    obtain ⟨attributes, spells, -⟩ := ofValue?_eq_some.mp read
    exact ⟨v, among, c.value, attributes, spells⟩
  · rintro ⟨v, among, value, attributes, spells⟩
    exact ⟨⟨name, value, expiry attributes a.time⟩,
      ⟨v, among, ofValue?_eq_some.mpr ⟨attributes, spells, rfl⟩⟩, rfl⟩

theorem Arrival.verdicts_eq_nil {a : Arrival} {name : String} (h : ¬ a.Names name) :
    a.verdicts name = [] := by
  unfold Arrival.verdicts SetCookie.verdicts
  rw [List.map_eq_nil_iff, List.filter_eq_nil_iff]
  intro c among same
  have named : c.name ∈ a.names := List.mem_map.mpr ⟨c, among, rfl⟩
  exact h (mem_names.mp (of_decide_eq_true same ▸ named))

/-! ## The jar, name by name -/

namespace Jar

theorem ext_find? {jar jar' : Jar} (same : ∀ name, jar.find? name = jar'.find? name) :
    jar = jar' := by
  obtain ⟨entries, ascending⟩ := jar
  obtain ⟨entries', ascending'⟩ := jar'
  have members (e : String × Cookie) : e ∈ entries ↔ e ∈ entries' := by
    obtain ⟨name, c⟩ := e
    rw [mem_entries ⟨entries, ascending⟩, mem_entries ⟨entries', ascending'⟩, same]
  have sorted : Std.Antisymm fun a b : String × Cookie => a.1 < b.1 :=
    ⟨fun _ _ below above => absurd above (String.lt_asymm below)⟩
  have strict : Std.Irrefl fun a b : String × Cookie => a.1 < b.1 :=
    ⟨fun a => String.lt_irrefl a.1⟩
  congr
  exact ascending.eq_of_mem_iff ascending' members

theorem find?_takeIn_eq (name : String) (now : Instant) (jar : Jar) (v : HeaderValue) :
    (takeIn now jar v).find? name = (verdicts name now [v]).getLast?.getD (jar.find? name) := by
  unfold takeIn verdicts
  cases read : ofValue? v now with
  | none => simp [read]
  | some c =>
      by_cases here : c.name = name
      · simp [read, find?_apply, here]
      · have other : ¬ name = c.name := fun same => here same.symm
        simp [read, find?_apply, here, other]

/-- The last value of a response that is for a name settles what is under it. -/
theorem find?_extract (name : String) (jar : Jar) (headers : Headers) (now : Instant) :
    (jar.extract headers now).find? name =
      (verdicts name now (headers.values .setCookie)).getLast?.getD (jar.find? name) := by
  rw [extract_eq]
  induction headers.values .setCookie using List.reverseRecOn with
  | nil => rfl
  | append_singleton vs v ih =>
      rw [List.foldl_append, List.foldl_cons, List.foldl_nil, find?_takeIn_eq, ih,
        verdicts_append, List.getLast?_append]
      cases (verdicts name now [v]).getLast? <;> rfl

theorem find?_withArrivals (name : String) (jar : Jar) (arrived : List Arrival) :
    (jar.withArrivals arrived).find? name =
      (arrived.flatMap (·.verdicts name)).getLast?.getD (jar.find? name) := by
  induction arrived using List.reverseRecOn with
  | nil => rfl
  | append_singleton arrived a ih =>
      rw [withArrivals_append, List.flatMap_append, List.getLast?_append]
      show ((jar.withArrivals arrived).extract a.response.headers a.time).find? name = _
      rw [find?_extract, ih, List.flatMap_singleton]
      unfold Arrival.verdicts
      cases (verdicts name a.time (a.response.headers.values .setCookie)).getLast? <;> rfl

end Jar

/-! ## Orders -/

section Orders

variable {ι : Type}

theorem not_sublist_swap {i j : ι} {order : List ι} (once : order.Nodup)
    (there : [i, j].Sublist order) : ¬ [j, i].Sublist order := by
  induction order with
  | nil => cases there
  | cons x order ih =>
      obtain ⟨new, once⟩ := List.nodup_cons.mp once
      intro back
      rcases List.sublist_cons_iff.mp there with later | ⟨_, same, later⟩
      · rcases List.sublist_cons_iff.mp back with behind | ⟨_, same, behind⟩
        · exact ih once later behind
        · cases same
          exact new (later.subset (by simp))
      · cases same
        rcases List.sublist_cons_iff.mp back with behind | ⟨_, same, behind⟩
        · exact new (behind.subset (by simp))
        · cases same
          exact new (later.subset (by simp))

/-- What is common to two orders that have it in one sequence. -/
theorem filter_eq_of_sequence {p : ι → Bool} {σ τ : List ι} (once : σ.Nodup) (same : σ.Perm τ)
    (sequence : ∀ i j, p i = true → p j = true → [i, j].Sublist τ → [i, j].Sublist σ) :
    σ.filter p = τ.filter p := by
  refine @List.Perm.eq_of_pairwise _ (fun i j => [i, j].Sublist σ) _ _ ?_ ?_ ?_ (same.filter p)
  · exact fun i j _ _ there back => absurd back (not_sublist_swap once there)
  · rw [List.pairwise_iff_forall_sublist]
    exact fun there => there.trans List.filter_sublist
  · rw [List.pairwise_iff_forall_sublist]
    intro i j there
    have counts {k : ι} (among : k ∈ [i, j]) : p k = true :=
      (List.mem_filter.mp (there.subset among)).2
    exact sequence i j (counts (by simp)) (counts (by simp)) (there.trans List.filter_sublist)

theorem flatMap_filter_of_nil {β : Type} {p : ι → Bool} {f : ι → List β} {order : List ι}
    (empty : ∀ i, p i = false → f i = []) : (order.filter p).flatMap f = order.flatMap f := by
  induction order with
  | nil => rfl
  | cons i order ih =>
      cases counts : p i with
      | true => rw [List.filter_cons_of_pos counts, List.flatMap_cons, List.flatMap_cons, ih]
      | false =>
          rw [List.filter_cons_of_neg (ne_true_of_eq_false counts), ih, List.flatMap_cons,
            empty i counts, List.nil_append]

/-- Two orders of these responses, which for each name have those in one sequence that have a value
for it. -/
structure Reordered (steps : ι → Arrival) (σ τ : List ι) : Prop where
  once : σ.Nodup
  same : σ.Perm τ
  sequence : ∀ name i j, (steps i).Names name → (steps j).Names name →
    ([i, j].Sublist σ ↔ [i, j].Sublist τ)

variable {steps : ι → Arrival} {σ τ : List ι}

theorem Reordered.verdicts (h : Reordered steps σ τ) (name : String) :
    (σ.map steps).flatMap (·.verdicts name) = (τ.map steps).flatMap (·.verdicts name) := by
  classical
  have quiet (i : ι) (hnone : decide ((steps i).Names name) = false) :
      (steps i).verdicts name = [] := Arrival.verdicts_eq_nil (of_decide_eq_false hnone)
  have common : σ.filter (fun i => decide ((steps i).Names name)) =
      τ.filter fun i => decide ((steps i).Names name) :=
    filter_eq_of_sequence h.once h.same fun i j first second =>
      (h.sequence name i j (of_decide_eq_true first) (of_decide_eq_true second)).mpr
  rw [List.flatMap_map, List.flatMap_map, ← flatMap_filter_of_nil quiet, common,
    flatMap_filter_of_nil quiet]

theorem Reordered.withArrivals (h : Reordered steps σ τ) (jar : Jar) :
    jar.withArrivals (σ.map steps) = jar.withArrivals (τ.map steps) :=
  Jar.ext_find? fun name => by
    rw [Jar.find?_withArrivals, Jar.find?_withArrivals, h.verdicts]

end Orders

/-- What arrives for different names may come in either order. -/
theorem Jar.withArrivals_comm (jar : Jar) {a b : List Arrival}
    (disjoint : ∀ x ∈ a, ∀ y ∈ b, ∀ name, x.Names name → ¬ y.Names name) :
    jar.withArrivals (a ++ b) = jar.withArrivals (b ++ a) := by
  have quiet {l : List Arrival} {name : String} (hnone : ∀ x ∈ l, ¬ x.Names name) :
      l.flatMap (·.verdicts name) = [] :=
    List.flatMap_eq_nil_iff.mpr fun x among => Arrival.verdicts_eq_nil (hnone x among)
  refine ext_find? fun name => ?_
  rw [find?_withArrivals, find?_withArrivals, List.flatMap_append, List.flatMap_append]
  by_cases named : ∃ x ∈ a, x.Names name
  · obtain ⟨x, among, names⟩ := named
    rw [quiet fun y there => disjoint x among y there name names, List.append_nil, List.nil_append]
  · rw [quiet fun x among names => named ⟨x, among, names⟩, List.append_nil, List.nil_append]

/-! ## Calls that run together -/

namespace Client

/-- A call of this client. -/
def IsCall (c : Client) (p : Activity Session (Except Error Answer)) : Prop :=
  ∃ mode r options, p = (c.call mode r options).run

variable {c : Client} {pool pool' : List (Activity Session (Except Error Answer))}
  {s s' : Session} {trace : Trace Session}

theorem jar_together (h : Together pool s trace pool' s') (calls : ∀ p ∈ pool, c.IsCall p) :
    s'.jar = s.jar.withArrivals (c.arrivals (trace.map (·.2))) := by
  have each : ∀ x ∈ trace, x.2.2.jar = x.2.1.jar.withArrivals (c.arrivals [x.2]) := by
    refine h.each (R := fun t t' => t'.jar = t.jar.withArrivals (c.arrivals [(t, t')])) ?_
    intro p among start own a last goes
    obtain ⟨mode, r, options, rfl⟩ := calls p among
    have steps : c.Steps mode _ := steps_arrivals
    exact steps.call goes
  have tracked := @Together.tracks _ _ _ _ _ _ _ _ Session.jar
    (fun jar change => jar.withArrivals (c.arrivals [change])) h each
  exact tracked.trans (withArrivals_arrivals s.jar _)

/-- Responses that are extracted in two orders lead to one jar if for each name those that have a
well-formed value for it come in the same sequence.  So it is for calls that run together: whichever
way their turns fall, if what arrives for them is ordered like that, the jar is the same in the end.
No value is lost, the last one for a name settles what is under it, and responses that have no name
in common may come in either order. -/
theorem jar_of_reordered {ι : Type} {steps : ι → Arrival} {σ τ : List ι}
    (h : Reordered steps σ τ) :
    (∀ jar : Jar, jar.withArrivals (σ.map steps) = jar.withArrivals (τ.map steps)) ∧
    (∀ (c : Client) (pool pool₁ pool' pool₁' : List (Activity Session (Except Error Answer)))
      (s s₁ s' s₁' : Session) (trace trace' : Trace Session),
      Together pool s trace pool₁ s₁ → Together pool' s' trace' pool₁' s₁' →
      (∀ p ∈ pool ++ pool', c.IsCall p) → s.jar = s'.jar →
      c.arrivals (trace.map (·.2)) = σ.map steps → c.arrivals (trace'.map (·.2)) = τ.map steps →
      s₁.jar = s₁'.jar ∧ s₁.jar = s.jar.withArrivals (σ.map steps)) ∧
    (∀ (jar : Jar) name, (jar.withArrivals (σ.map steps)).find? name =
      (σ.flatMap fun i => (steps i).verdicts name).getLast?.getD (jar.find? name)) ∧
    ∀ (jar : Jar) (a b : List Arrival),
      (∀ x ∈ a, ∀ y ∈ b, ∀ name, x.Names name → ¬ y.Names name) →
      jar.withArrivals (a ++ b) = jar.withArrivals (b ++ a) := by
  refine ⟨h.withArrivals, ?_, ?_, fun jar a b => jar.withArrivals_comm⟩
  · intro c pool pool₁ pool' pool₁' s s₁ s' s₁' trace trace' first second calls start one other
    obtain ⟨calls, calls'⟩ := List.forall_mem_append.mp calls
    have jar := jar_together first calls
    have jar' := jar_together second calls'
    rw [one] at jar
    rw [other, ← start] at jar'
    exact ⟨(jar.trans (h.withArrivals s.jar)).trans jar'.symm, jar⟩
  · intro jar name
    rw [Jar.find?_withArrivals, List.flatMap_map]

end Client

/-! ## Three responses -/

namespace Sample

def cookiesOf : String → List String
  | "/a" => ["kept=1; Max-Age=10", "mine=a"]
  | "/b" => ["other=2", "odd"]
  | _ => ["kept=; Max-Age=0", "late=3; Max-Age=1"]

/-- When the response of a place arrives. -/
def timeOf : String → Instant
  | "/a" => .ofSeconds 20 0
  | "/b" => .ofSeconds 15 0
  | _ => .ofSeconds 5 0

def setter (path : String) : Response where
  status := okay
  headers := Jar.setting (cookiesOf path)
  url := place path

/-- A client of a site that sets cookies. -/
def visitor : Client :=
  { client [] none 0 with
    router :=
      { default :=
          { name := "setter"
            readsBody := false
            delay := fun _ => none
            respond := fun _ head _ => .ok (setter head.url.path) }
        trustEnvironment := false }
    clock := fun j =>
      match j.getLast? with
      | some (.exchange _ head _ _) => timeOf head.url.path
      | _ => .epoch }

def visits : List (Activity Session (Except Error Answer)) :=
  ["/a", "/b", "/c"].map fun path =>
    (visitor.call .blocking { method := .get, url := place path } {}).run

/-- The responses to them, each at its time. -/
def visited (i : Fin 3) : Arrival :=
  ⟨setter (["/a", "/b", "/c"].get i), timeOf (["/a", "/b", "/c"].get i)⟩

/-- Each call is finished before the next one begins. -/
def inTurn : Trace Session × List (Activity Session (Except Error Answer)) × Session :=
  played [0, 0, 0, 0, 0, 1, 1, 1, 1, 1, 2, 2, 2, 2, 2] visits {}

/-- The calls run side by side, and the second one is a step ahead of the first. -/
def sideBySide : Trace Session × List (Activity Session (Except Error Answer)) × Session :=
  played [1, 0, 2, 1, 0, 2, 1, 0, 2, 1, 0, 2, 1, 0, 2] visits {}

deriving instance DecidableEq for Arrival

theorem reordered_visited : Reordered visited [0, 1, 2] [1, 0, 2] where
  once := by decide
  same := by decide
  sequence name i j first second := by
    have table : ∀ i j : Fin 3, ([i, j].Sublist [0, 1, 2] ↔ [i, j].Sublist [1, 0, 2]) ∨
        ∀ name ∈ (visited i).names, name ∉ (visited j).names := by decide +kernel
    rcases table i j with same | disjoint
    · exact same
    · exact absurd (Arrival.mem_names.mpr second) (disjoint name (Arrival.mem_names.mpr first))

/-- The cookie that the first response sets is removed by the third, whenever the second comes. -/
theorem jar_of_reordered_of_visited :
    Together visits {} inTurn.1 inTurn.2.1 inTurn.2.2 ∧
    Together visits {} sideBySide.1 sideBySide.2.1 sideBySide.2.2 ∧
    visitor.arrivals (inTurn.1.map (·.2)) = [0, 1, 2].map visited ∧
    visitor.arrivals (sideBySide.1.map (·.2)) = [1, 0, 2].map visited ∧
    inTurn.2.2.jar = sideBySide.2.2.jar ∧ inTurn.2.2.jar.find? "kept" = none ∧
    inTurn.2.2.jar.find? "other" = some ⟨"2", none⟩ := by
  have first : Together visits {} inTurn.1 inTurn.2.1 inTurn.2.2 := together_played _ _ _
  have second : Together visits {} sideBySide.1 sideBySide.2.1 sideBySide.2.2 :=
    together_played _ _ _
  have calls : ∀ p ∈ visits ++ visits, visitor.IsCall p := by
    intro p among
    have there : p ∈ visits := (List.mem_append.mp among).elim id id
    obtain ⟨path, -, rfl⟩ := List.mem_map.mp there
    exact ⟨_, _, _, rfl⟩
  have arrived : visitor.arrivals (inTurn.1.map (·.2)) = [0, 1, 2].map visited := by
    decide +kernel
  have arrived' : visitor.arrivals (sideBySide.1.map (·.2)) = [1, 0, 2].map visited := by
    decide +kernel
  obtain ⟨-, together, last, -⟩ := Client.jar_of_reordered reordered_visited
  obtain ⟨same, jar⟩ := together visitor visits _ visits _ {} _ {} _ _ _ first second calls rfl
    arrived arrived'
  refine ⟨first, second, arrived, arrived', same, ?_, ?_⟩
  · rw [jar, last]
    decide +kernel
  · rw [jar, last]
    decide +kernel

end Sample

end HttpClient
