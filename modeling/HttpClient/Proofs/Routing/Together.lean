/-
# Queries that run together

Several calls ask the router at once.  A query that is up to the environment takes three steps: it
looks whether a transport is kept under the key of its proxy; if none is, it has the connector make
one; and what was made it keeps (`Router.routing`).  Between these steps the others take theirs, so
more than one of them may miss the transport and have one made.  Whoever is first to keep one
decides: the others drop theirs and use that one, as all do that come later.

Where a query stands is told by its `Stage`.  A turn takes a query from stage to stage, and no turn
takes away what was kept, so the turns of the others leave a query at its stage.  That each stage
lasts is thus all that has to be known of an order of turns (`Together.keeps`).
-/
import HttpClient.Proofs.Activity.Together
import HttpClient.Proofs.Routing.Connections

namespace HttpClient

open Activity

/-! ## What is kept stays -/

namespace Connections

variable {T : Type} {c : Connections T} {key : String} {t : T}

theorem keep_result (c : Connections T) (key : String) (t : T) :
    (c.keep key t).1 = (c.find? key).getD t := by
  unfold keep
  split <;> rename_i found <;> rw [found] <;> rfl

theorem find?_keep_self (c : Connections T) (key : String) (t : T) :
    (c.keep key t).2.find? key = some (c.keep key t).1 := by
  rw [find?_keep, if_pos rfl, keep_result]

theorem find?_of_keep (kept : c.find? key = some t) (j : String) (u : T) :
    (c.keep j u).2.find? key = some t := by
  rw [find?_keep]
  split
  · rename_i same
    subst same
    rw [kept]
    rfl
  · exact kept

def Within (c c' : Connections T) : Prop := ∀ key t, c.find? key = some t → c'.find? key = some t

theorem Within.refl (c : Connections T) : c.Within c := fun _ _ kept => kept

theorem Within.trans {c c' c'' : Connections T} (h : c.Within c') (h' : c'.Within c'') :
    c.Within c'' := fun key t kept => h' key t (h key t kept)

end Connections

namespace Router

variable {T : Type}

/-! ## A query in steps -/

/-- Keeps what was made for a proxy. -/
def keeping (p : Proxy) (t : T) : Activity (Connections T) (Except Error T) :=
  act fun c => (.ok (c.keep p.key t).1, (c.keep p.key t).2)

/-- Goes on with what the connector has come to for a proxy. -/
def taking (p : Proxy) : Except Error T → Activity (Connections T) (Except Error T)
  | .error e => .done (.error e)
  | .ok t => keeping p t

/-- Has a transport to a proxy made, and keeps it. -/
def making (connector : Connector T) (p : Proxy) : Activity (Connections T) (Except Error T) :=
  act (fun c => c.make connector p) >>= taking p

/-- Goes on with what was found for a proxy. -/
def finding (connector : Connector T) (p : Proxy) :
    Option T → Activity (Connections T) (Except Error T)
  | some t => .done (.ok t)
  | none => making connector p

/-- Looks for the transport to a proxy, and has one made if there is none. -/
def looking (connector : Connector T) (p : Proxy) : Activity (Connections T) (Except Error T) :=
  .look fun c => finding connector p (c.find? p.key)

/-- The way of a query to its answer. -/
def routing (r : Router T) (q : Query) : Activity (Connections T) (Except Error T) :=
  match r.mounted? q.url with
  | some t => .done (.ok t)
  | none =>
    if r.trustEnvironment then
      match q.environment.proxy q.url with
      | .error e => .done (.error e)
      | .ok none => .done (.ok r.default)
      | .ok (some p) =>
        match r.connector with
        | none => .done (.ok r.default)
        | some connector => looking connector p
    else .done (.ok r.default)

section Alone

variable {r : Router T} {q : Query} {connector : Connector T} {p : Proxy}

theorem run_looking (connector : Connector T) (p : Proxy) (c : Connections T) :
    (looking connector p).run c = c.through connector p := by
  show (finding connector p (c.find? p.key)).run c = _
  unfold Connections.through
  cases c.find? p.key with
  | some t => rfl
  | none =>
      show (taking p (connector c.calls p)).run (c.make connector p).2 = _
      unfold Connections.make
      cases connector c.calls p <;> rfl

/-- A query that has the connections to itself is answered as at one moment. -/
theorem run_routing (r : Router T) (q : Query) (c : Connections T) :
    (r.routing q).run c = r.answer c q := by
  unfold routing answer route
  rw [mounted?_with r q.environment q.url]
  cases r.mounted? q.url with
  | some t => rfl
  | none =>
      cases r.trustEnvironment with
      | false => rfl
      | true =>
          simp only [if_true]
          cases q.environment.proxy q.url with
          | error e => rfl
          | ok p? =>
              cases p? with
              | none => rfl
              | some p =>
                  cases r.connector with
                  | none => rfl
                  | some connector => exact run_looking connector p c

theorem routing_of_selected (connects : r.connector = some connector)
    (chosen : r.selected? q = some p) : r.routing q = looking connector p := by
  obtain ⟨unmounted, trusted, proxy⟩ := proxy_of_selected chosen
  unfold routing
  rw [unmounted]
  simp only [trusted, proxy, connects, if_true]

theorem routing_unconnected (unconnected : r.connector = none) (chosen : r.selected? q = some p) :
    r.routing q = .done (.ok r.default) := by
  obtain ⟨unmounted, trusted, proxy⟩ := proxy_of_selected chosen
  unfold routing
  rw [unmounted]
  simp only [trusted, proxy, unconnected, if_true]

theorem routing_cases (r : Router T) (q : Query) :
    (∃ connector p, r.connector = some connector ∧ r.selected? q = some p ∧
      r.routing q = looking connector p) ∨ ∃ a, r.routing q = .done a := by
  unfold selected? routing
  cases r.mounted? q.url with
  | some t => exact .inr ⟨_, rfl⟩
  | none =>
      cases r.trustEnvironment with
      | false => exact .inr ⟨_, rfl⟩
      | true =>
          simp only [if_true, Option.isNone_none, Bool.and_self]
          cases q.environment.proxy q.url with
          | error e => exact .inr ⟨_, rfl⟩
          | ok p? =>
              cases p? with
              | none => exact .inr ⟨_, rfl⟩
              | some p =>
                  cases r.connector with
                  | none => exact .inr ⟨_, rfl⟩
                  | some connector => exact .inl ⟨connector, p, rfl, rfl, rfl⟩

end Alone

/-! ## Stages -/

/-- Where a query for a proxy stands, with these connections. -/
inductive Stage (connector : Connector T) (p : Proxy) (c : Connections T) :
    Activity (Connections T) (Except Error T) → Prop
  /-- It has not begun. -/
  | asked : Stage connector p c (looking connector p)
  /-- It has found nothing kept. -/
  | missed : Stage connector p c (making connector p)
  /-- The connector has made a transport for it. -/
  | made (t : T) : Stage connector p c (keeping p t)
  /-- The connector has failed. -/
  | failed (e : Error) : Stage connector p c (.done (.error e))
  /-- It has the transport that is kept. -/
  | answered {t : T} (kept : c.find? p.key = some t) : Stage connector p c (.done (.ok t))

/-- What a turn of a query for a proxy can do to the connections. -/
inductive Move (connector : Connector T) (p : Proxy) (c : Connections T) :
    Stretch (Connections T) (Except Error T) → Prop
  /-- It looks, or it has its answer. -/
  | none (rest : Activity (Connections T) (Except Error T)) : Move connector p c ⟨[], rest, c⟩
  /-- It calls the connector. -/
  | call : Move connector p c
      ⟨[(c, (c.make connector p).2)], taking p (connector c.calls p), (c.make connector p).2⟩
  /-- It keeps what was made, or uses what is kept. -/
  | keep (t : T) : Move connector p c
      ⟨[(c, (c.keep p.key t).2)], .done (.ok (c.keep p.key t).1), (c.keep p.key t).2⟩

section Stages

variable {connector : Connector T} {p : Proxy} {c c' : Connections T}
  {a : Activity (Connections T) (Except Error T)}

theorem turn_looking (connector : Connector T) (p : Proxy) (c : Connections T) :
    (looking connector p).turn c =
      ⟨[], finding connector p (c.find? p.key), c⟩ := by
  show (finding connector p (c.find? p.key)).onward c = _
  cases c.find? p.key <;> rfl

theorem turn_making (connector : Connector T) (p : Proxy) (c : Connections T) :
    (making connector p).turn c =
      ⟨[(c, (c.make connector p).2)], taking p (connector c.calls p), (c.make connector p).2⟩ := by
  show onward (.change (fun _ => (c.make connector p).2) (taking p (connector c.calls p))) c = _
  unfold onward
  cases connector c.calls p <;> rfl

/-- A turn takes a query from stage to stage. -/
theorem Stage.move (h : Stage connector p c a) :
    Move connector p c (a.turn c) ∧ Stage connector p (a.turn c).state (a.turn c).rest := by
  cases h with
  | asked =>
      rw [turn_looking]
      refine ⟨.none _, ?_⟩
      cases kept : c.find? p.key with
      | some t => exact .answered kept
      | none => exact .missed
  | missed =>
      rw [turn_making]
      refine ⟨.call, ?_⟩
      cases connector c.calls p with
      | error e => exact .failed e
      | ok t => exact .made t
  | made t => exact ⟨.keep t, .answered (c.find?_keep_self p.key t)⟩
  | failed e => exact ⟨.none _, .failed e⟩
  | answered kept => exact ⟨.none _, .answered kept⟩

theorem Move.within {s : Stretch (Connections T) (Except Error T)} (h : Move connector p c s) :
    c.Within s.state := by
  intro key t kept
  cases h with
  | none rest => exact kept
  | call => exact kept
  | keep u => exact Connections.find?_of_keep kept p.key u

theorem Stage.mono (h : Stage connector p c a) (on : c.Within c') : Stage connector p c' a := by
  cases h with
  | asked => exact .asked
  | missed => exact .missed
  | made t => exact .made t
  | failed e => exact .failed e
  | answered kept => exact .answered (on _ _ kept)

end Stages

/-! ## All of them -/

/-- Where one of these queries stands: one that is not for a proxy has its answer at once. -/
inductive Stands (r : Router T) (qs : List Query) (i : Nat) :
    Activity (Connections T) (Except Error T) → Connections T → Prop
  | settled {q : Query} {a : Except Error T} {c : Connections T} (asks : qs[i]? = some q)
      (answer : r.routing q = .done a) : Stands r qs i (.done a) c
  | stage {q : Query} {connector : Connector T} {p : Proxy}
      {a : Activity (Connections T) (Except Error T)} {c : Connections T}
      (asks : qs[i]? = some q) (connects : r.connector = some connector)
      (chosen : r.selected? q = some p) (h : Stage connector p c a) : Stands r qs i a c

section Pool

variable {r : Router T} {qs : List Query} {i : Nat} {a : Activity (Connections T) (Except Error T)}
  {c c' : Connections T} {pool pool' : List (Activity (Connections T) (Except Error T))}
  {trace : Trace (Connections T)} {q : Query} {connector : Connector T} {p : Proxy} {t : T}

theorem stands_of_start (c : Connections T) (there : (qs.map r.routing)[i]? = some a) :
    Stands r qs i a c := by
  rw [List.getElem?_map, Option.map_eq_some_iff] at there
  obtain ⟨q, asks, rfl⟩ := there
  rcases r.routing_cases q with ⟨connector, p, connects, chosen, looks⟩ | ⟨b, answer⟩
  · rw [looks]
    exact .stage asks connects chosen .asked
  · rw [answer]
    exact .settled asks answer

theorem Stands.mono (h : Stands r qs i a c) (on : c.Within c') : Stands r qs i a c' := by
  cases h with
  | settled asks answer => exact .settled asks answer
  | stage asks connects chosen h => exact .stage asks connects chosen (h.mono on)

theorem Stands.turn (h : Stands r qs i a c) :
    c.Within (a.turn c).state ∧ Stands r qs i (a.turn c).rest (a.turn c).state := by
  cases h with
  | settled asks answer => exact ⟨.refl c, .settled asks answer⟩
  | stage asks connects chosen h =>
      obtain ⟨move, next⟩ := h.move
      exact ⟨move.within, .stage asks connects chosen next⟩

theorem stands_together (h : Together pool c trace pool' c')
    (stand : ∀ i a, pool[i]? = some a → Stands r qs i a c) :
    c.Within c' ∧ ∀ i a, pool'[i]? = some a → Stands r qs i a c' :=
  h.keeps .refl .trans .mono (fun h => h.turn) stand

theorem Stands.kept (h : Stands r qs i (.done (.ok t)) c) (asks : qs[i]? = some q)
    (connects : r.connector = some connector) (chosen : r.selected? q = some p) :
    c.find? p.key = some t := by
  cases h with
  | settled asks' answer =>
      cases asks.symm.trans asks'
      rw [routing_of_selected connects chosen] at answer
      cases answer
  | stage asks' connects' chosen' h =>
      cases asks.symm.trans asks'
      cases chosen.symm.trans chosen'
      cases h with
      | answered kept => exact kept

theorem Stands.default (h : Stands r qs i (.done (.ok t)) c) (asks : qs[i]? = some q)
    (unconnected : r.connector = none) (chosen : r.selected? q = some p) : t = r.default := by
  cases h with
  | settled asks' answer =>
      cases asks.symm.trans asks'
      rw [routing_unconnected unconnected chosen] at answer
      cases answer
      rfl
  | stage asks' connects' chosen' h => cases unconnected.symm.trans connects'

/-- The connector is called by queries for its proxies only, and whom it fails has that error. -/
theorem call_together (h : Together pool c trace pool' c')
    (stand : ∀ i a, pool[i]? = some a → Stands r qs i a c) {b d : Connections T}
    (among : (i, (b, d)) ∈ trace) (differ : d.calls ≠ b.calls) :
    ∃ q connector p, qs[i]? = some q ∧ r.connector = some connector ∧ r.selected? q = some p ∧
      d = (b.make connector p).2 ∧
      ∀ e, connector b.calls p = .error e → pool'[i]? = some (.done (.error e)) := by
  obtain ⟨before, pool₁, c₁, a, later, first, there, own, last⟩ := h.moment among
  have inside := (List.getElem?_eq_some_iff.mp there).1
  have left : (pool₁.set i (a.turn c₁).rest)[i]? = some (a.turn c₁).rest :=
    List.getElem?_set_self inside
  cases (stands_together first stand).2 i a there with
  | settled asks answer => exact absurd own List.not_mem_nil
  | @stage q connector p _ _ asks connects chosen stage =>
      refine ⟨q, connector, p, asks, connects, chosen, ?_⟩
      have move := stage.move.1
      generalize a.turn c₁ = turn at own last left move
      cases move with
      | none rest => exact absurd own List.not_mem_nil
      | call =>
          cases List.mem_singleton.mp own
          refine ⟨rfl, fun e fails => ?_⟩
          simp only [fails, taking] at left last
          exact (last.settled left).1
      | keep t =>
          cases List.mem_singleton.mp own
          exact absurd (Connections.keep_calls _ p.key t) differ

/-- Who finds a transport kept has that one, and does nothing to the connections. By induction on
the turns; those of the others leave the transport where it is. -/
theorem found_together (h : Together pool c trace pool' c') :
    (∀ i a, pool[i]? = some a → Stands r qs i a c) → pool[i]? = some (looking connector p) →
      c.find? p.key = some t → trace.owned i = [] ∧
        (pool'[i]? = some (looking connector p) ∨ pool'[i]? = some (.done (.ok t))) := by
  induction h with
  | stop => exact fun _ there _ => ⟨rfl, .inl there⟩
  | @turn pool _ c _ a _ j there rest ih =>
      intro stand mine kept
      rw [Together.owned_append, Together.owned_map]
      by_cases same : j = i
      · subst same
        cases there.symm.trans mine
        have goes : (looking connector p).turn c = ⟨[], .done (.ok t), c⟩ := by
          rw [turn_looking, kept]
          rfl
        rw [goes] at rest ⊢
        have inside := (List.getElem?_eq_some_iff.mp there).1
        obtain ⟨last, quiet⟩ := rest.settled (List.getElem?_set_self inside)
        exact ⟨by rw [if_pos rfl, quiet]; rfl, .inr last⟩
      · obtain ⟨on, stand'⟩ := stands_together (.turn j there (.stop _ _)) stand
        have mine' : (pool.set j (a.turn c).rest)[i]? = some (looking connector p) := by
          rw [List.getElem?_set_ne same, mine]
        obtain ⟨quiet, last⟩ := ih stand' mine' (on _ _ kept)
        exact ⟨by rw [if_neg same, quiet]; rfl, last⟩

theorem goes_failed {own : List (Connections T × Connections T)} {e : Error}
    (h : Goes (fun _ _ => True) (looking connector p) c own (.error e) c') :
    ∃ b, own = [(b, (b.make connector p).2)] ∧ connector b.calls p = .error e := by
  cases h with
  | @look _ _ b _ _ _ _ h =>
      have h : Goes _ (finding connector p (b.find? p.key)) b own (.error e) c' := h
      cases kept : b.find? p.key with
      | some t =>
          rw [kept] at h
          cases h
      | none =>
          rw [kept] at h
          obtain ⟨own₁, made, d, own₂, rfl, called, rest⟩ := goes_bind.mp h
          obtain ⟨b, -, rfl, rfl, rfl⟩ := goes_act.mp called
          have rest : Goes _ (taking p (connector b.calls p)) _ own₂ (.error e) c' := rest
          cases made : connector b.calls p with
          | error e' =>
              rw [made] at rest
              cases rest
              exact ⟨b, rfl, made⟩
          | ok t =>
              rw [made, taking, keeping] at rest
              obtain ⟨d, -, -, other, -⟩ := goes_act.mp rest
              cases other

end Pool

/-- Queries in steps, taken in any order by any number of calls, from connections that may hold
anything: what is made for one key is made by whoever misses it, and still all that are answered for
that key have one transport.  What is kept stays (`Within`).  A query that the connector fails has
its error, and has done nothing to what is kept.  A query that begins when there is a transport for
its proxy uses that one, and the connector is not called for it. -/
theorem routing_together {r : Router T} {qs : List Query} {c c₁ c' : Connections T}
    {pool₁ pool' : List (Activity (Connections T) (Except Error T))}
    {before after : Trace (Connections T)} (first : Together (qs.map r.routing) c before pool₁ c₁)
    (last : Together pool₁ c₁ after pool' c') :
    (∀ q c, (r.routing q).run c = r.answer c q) ∧
    (∀ (i j : Nat) q q' p p' t t', qs[i]? = some q → qs[j]? = some q' → r.selected? q = some p →
      r.selected? q' = some p' → p.key = p'.key → pool'[i]? = some (.done (.ok t)) →
      pool'[j]? = some (.done (.ok t')) → t = t' ∧ (r.connector ≠ none → c'.find? p.key = some t)) ∧
    (∀ key t, c₁.find? key = some t → c'.find? key = some t) ∧
    (∀ i b d, (i, (b, d)) ∈ before ++ after → d.calls ≠ b.calls →
      ∃ q connector p, qs[i]? = some q ∧ r.connector = some connector ∧ r.selected? q = some p ∧
        d = { b with calls := b.calls ++ [p] } ∧
        ∀ e, connector b.calls p = .error e → pool'[i]? = some (.done (.error e))) ∧
    (∀ (i : Nat) q connector p e, qs[i]? = some q → r.connector = some connector →
      r.selected? q = some p → pool'[i]? = some (.done (.error e)) →
      ∃ b, (before ++ after).owned i = [(b, { b with calls := b.calls ++ [p] })] ∧
        connector b.calls p = .error e) ∧
    ∀ (i : Nat) q connector p t, qs[i]? = some q → r.connector = some connector →
      r.selected? q = some p → c₁.find? p.key = some t → pool₁[i]? = some (r.routing q) →
      after.owned i = [] ∧ ∀ a, pool'[i]? = some (.done a) → a = .ok t := by
  have start : ∀ i a, (qs.map r.routing)[i]? = some a → Stands r qs i a c :=
    fun i a there => stands_of_start c there
  have whole := first.append last
  obtain ⟨-, stand⟩ := stands_together first start
  obtain ⟨on, stand'⟩ := stands_together last stand
  refine ⟨run_routing r, ?_, on, fun i b d among differ => call_together whole start among differ,
    ?_, ?_⟩
  · intro i j q q' p p' t t' asks asks' chosen chosen' key mine others
    cases connects : r.connector with
    | none =>
        refine ⟨?_, fun hne => absurd rfl hne⟩
        rw [(stand' i _ mine).default asks connects chosen,
          (stand' j _ others).default asks' connects chosen']
    | some connector =>
        have kept := (stand' i _ mine).kept asks connects chosen
        have kept' := (stand' j _ others).kept asks' connects chosen'
        rw [← key, kept] at kept'
        exact ⟨Option.some.inj kept', fun _ => kept⟩
  · intro i q connector p e asks connects chosen failed
    have there : (qs.map r.routing)[i]? = some (looking connector p) := by
      rw [List.getElem?_map, asks, ← routing_of_selected connects chosen]
      rfl
    obtain ⟨_, _, goes⟩ := whole.came there failed
    exact goes_failed goes
  · intro i q connector p t asks connects chosen kept there
    rw [routing_of_selected connects chosen] at there
    obtain ⟨quiet, ended⟩ := found_together last stand there kept
    refine ⟨quiet, fun a answered => ?_⟩
    rcases ended with waits | has
    · cases waits.symm.trans answered
    · cases has.symm.trans answered
      rfl

/-- A router whose transports are numbered as they are made; the third one cannot be made. -/
def counting : Router Nat where
  default := 9
  connector := some fun made _ =>
    if made.length = 2 then .error (.connect "refused") else .ok made.length

/-- Three queries for one endpoint, and one for another port. -/
def contending : List Query :=
  [asking "http" "one@[::1]" "", asking "https" "" "two@[::1]", asking "http" "one@[::1]" "",
    asking "http" "one@[::1]:8080" ""]

/-- All but the third have their turns. -/
def contended : Trace (Connections Nat) × List (Activity (Connections Nat) (Except Error Nat)) ×
    Connections Nat :=
  played [0, 1, 1, 0, 0, 1, 3, 3] (contending.map counting.routing) {}

/-- The third one has its turn. -/
def joined : Trace (Connections Nat) × List (Activity (Connections Nat) (Except Error Nat)) ×
    Connections Nat :=
  played [2] contended.2.1 contended.2.2

/-- Two of them miss the transport, and each has one made.  The second one made is kept first, and
both use it; so does the third, which begins later and has none made.  The last one fails. -/
theorem routing_together_of_contending :
    Together (contending.map counting.routing) {} contended.1 contended.2.1 contended.2.2 ∧
    Together contended.2.1 contended.2.2 joined.1 joined.2.1 joined.2.2 ∧
    joined.2.2.calls.length = 3 ∧
    joined.2.1[0]? = some (.done (.ok 1)) ∧ joined.2.1[1]? = some (.done (.ok 1)) ∧
    joined.2.2.find? (proxyFor "one").key = some 1 ∧
    joined.1.owned 2 = [] ∧ joined.2.1[2]? = some (.done (.ok 1)) ∧
    ∃ b, (contended.1 ++ joined.1).owned 3 = [b] ∧ b.2.kept = b.1.kept := by
  have first := together_played [0, 1, 1, 0, 0, 1, 3, 3] (contending.map counting.routing) {}
  have last := together_played [2] contended.2.1 contended.2.2
  obtain ⟨-, same, -, -, failed, found⟩ := routing_together first last
  have zeroth : joined.2.1[0]? = some (.done (.ok 1)) := ended (by decide +kernel)
  have other : joined.2.1[1]? = some (.done (.ok 1)) := ended (by decide +kernel)
  have later : joined.2.1[2]? = some (.done (.ok 1)) := ended (by decide +kernel)
  have refused : joined.2.1[3]? = some (.done (.error (.connect "refused"))) :=
    ended (by decide +kernel)
  have chosen : counting.selected? (asking "http" "one@[::1]" "") = some (proxyFor "one") := by
    decide +kernel
  obtain ⟨-, kept⟩ := same 0 1 _ _ (proxyFor "one") (proxyFor "two") 1 1 rfl rfl chosen
    (by decide +kernel) (by decide +kernel) zeroth other
  obtain ⟨quiet, -⟩ := found 2 _ _ _ 1 rfl rfl chosen (by decide +kernel)
    (played_of_not_mem (by decide) _ _)
  obtain ⟨b, own, -⟩ := failed 3 _ _ _ _ rfl rfl
    (Option.get_mem (by decide +kernel : (counting.selected? _).isSome)) refused
  exact ⟨first, last, by decide +kernel, zeroth, other, kept nofun, quiet, later, _, own, rfl⟩

end Router

end HttpClient
