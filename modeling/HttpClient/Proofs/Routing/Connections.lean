/-
# Connections to proxies

The transport to a proxy is made once and kept under the key of the proxy, which tells its
scheme, its host and its port (`key_eq_iff`), but not its login.  So proxies that differ in
the login only share one transport, and this is the one that was made for whichever of them
the environment named first: it logs in there as the first one.

The environment may name another proxy at each query.  Which proxies it has named so far is
all that the connections depend on (`Holds`).
-/
import HttpClient.Proofs.Last
import HttpClient.Proofs.Text.Characters
import HttpClient.Proofs.Url.Scheme
import HttpClient.Routing.Router

namespace HttpClient

open Text

/-! ## Keys -/

namespace Proxy

/-- The two proxies are reached in the same way: by the same scheme, at the same host and port. -/
def SameEndpoint (p q : Proxy) : Prop :=
  p.url.scheme = q.url.scheme ∧ p.url.hostText = q.url.hostText ∧
    p.url.effectivePort?.getD 0 = q.url.effectivePort?.getD 0

instance (p q : Proxy) : Decidable (p.SameEndpoint q) := inferInstanceAs (Decidable (_ ∧ _ ∧ _))

theorem eq_of_append_cons {c : Char} {a a' b b' : List Char} (h : c ∉ a) (h' : c ∉ a')
    (same : a ++ c :: b = a' ++ c :: b') : a = a' ∧ b = b' := by
  have cuts := congrArg (cut c) same
  rw [cut_of_not_mem b h, cut_of_not_mem b' h'] at cuts
  simpa using cuts

theorem digits_colon (n : Nat) : ':' ∉ (toString n).toList := by
  rw [toList_toString]
  intro there
  have digit : ':'.isDigit = true := Nat.isDigit_of_mem_toDigits (by decide) (by decide) there
  exact absurd digit (by decide)

theorem digits_inj {n m : Nat} (h : (toString n).toList = (toString m).toList) : n = m := by
  rw [toList_toString, toList_toString] at h
  rw [← Nat.ofDigitChars_ten_toDigits (n := n), h, Nat.ofDigitChars_ten_toDigits]

theorem toList_key (p : Proxy) : p.key.toList =
    p.url.scheme.toList ++ ':' :: '/' :: '/' ::
      (p.url.hostText.toList ++ ':' :: (toString (p.url.effectivePort?.getD 0)).toList) := by
  rw [key, String.toList_append, String.toList_append, String.toList_append, String.toList_append,
    show "://".toList = [':', '/', '/'] from rfl, show ":".toList = [':'] from rfl]
  simp only [List.append_assoc, List.cons_append, List.nil_append]

/-- The key tells scheme, host and port: the scheme ends at the first colon of the key, and the host
at the last one. -/
theorem key_eq_iff {p q : Proxy} (h : ':' ∉ p.url.scheme.toList) (h' : ':' ∉ q.url.scheme.toList) :
    p.key = q.key ↔ p.SameEndpoint q := by
  constructor
  · intro same
    have written := congrArg String.toList same
    rw [toList_key, toList_key] at written
    obtain ⟨scheme, behind⟩ := eq_of_append_cons h h' written
    have reversed := congrArg List.reverse (List.cons.inj (List.cons.inj behind).2).2
    rw [List.reverse_append, List.reverse_append, List.reverse_cons, List.reverse_cons,
      List.append_assoc, List.append_assoc] at reversed
    obtain ⟨port, host⟩ := eq_of_append_cons (mt List.mem_reverse.mp (digits_colon _))
      (mt List.mem_reverse.mp (digits_colon _)) reversed
    exact ⟨String.toList_injective scheme, String.toList_injective (List.reverse_inj.mp host),
      digits_inj (List.reverse_inj.mp port)⟩
  · rintro ⟨scheme, host, port⟩
    rw [key, key, scheme, host, port]

theorem parse_colon {s : String} {p : Proxy} (h : parse s = .ok p) :
    ':' ∉ p.url.scheme.toList := by
  unfold parse at h
  extract_lets text full at h
  split at h
  · cases h
  · rename_i read
    split at h
    · cases h
      exact Url.parse_colon read
    · cases h

end Proxy

/-! ## One of each key -/

namespace Connections

/-- The first proxies of their keys, in order: those that a transport is made for. -/
def firsts (ps : List Proxy) : List Proxy :=
  ps.foldl (fun made p => if made.any (·.key = p.key) then made else made ++ [p]) []

/-- The proxy is the first of the list with this key, and these stand before it. -/
structure FirstUnder (key : String) (ps earlier : List Proxy) (first : Proxy) : Prop where
  key_eq : first.key = key
  other : ∀ p ∈ earlier, p.key ≠ key
  split : ∃ later, ps = earlier ++ first :: later

variable {key : String} {ps earlier : List Proxy} {p first : Proxy}

theorem firsts_concat : firsts (ps ++ [p]) =
    if (firsts ps).any (·.key = p.key) then firsts ps else firsts ps ++ [p] := by
  rw [firsts, List.foldl_append]
  rfl

theorem any_firsts : (firsts ps).any (·.key = key) = ps.any (·.key = key) := by
  induction ps using List.reverseRecOn with
  | nil => rfl
  | append_singleton ps p ih =>
      rw [firsts_concat, List.any_append, ← ih]
      split
      · rename_i there
        by_cases here : p.key = key
        · rw [here] at there
          simp [there]
        · simp [here]
      · simp

theorem FirstUnder.mem (h : FirstUnder key ps earlier first) : first ∈ ps := by
  obtain ⟨later, rfl⟩ := h.split
  exact List.mem_append_right _ List.mem_cons_self

theorem FirstUnder.find? (h : FirstUnder key ps earlier first) :
    ps.find? (·.key = key) = some first := by
  obtain ⟨later, rfl⟩ := h.split
  refine List.find?_eq_some_iff_append.mpr ⟨decide_eq_true h.key_eq, earlier, later, rfl, ?_⟩
  intro p there
  simpa using h.other p there

theorem exists_firstUnder (there : p ∈ ps) :
    ∃ earlier first, FirstUnder p.key ps earlier first := by
  have hsome : (ps.find? (·.key = p.key)).isSome = true :=
    List.find?_isSome.mpr ⟨p, there, decide_eq_true rfl⟩
  obtain ⟨first, found⟩ := Option.isSome_iff_exists.mp hsome
  obtain ⟨same, earlier, later, split, others⟩ := List.find?_eq_some_iff_append.mp found
  refine ⟨earlier, first, of_decide_eq_true same, fun o before => ?_, later, split⟩
  simpa using others o before

theorem FirstUnder.append (h : FirstUnder key ps earlier first) (more : List Proxy) :
    FirstUnder key (ps ++ more) earlier first := by
  obtain ⟨later, rfl⟩ := h.split
  exact ⟨h.key_eq, h.other, later ++ more, by simp⟩

theorem firstUnder_concat : FirstUnder key (ps ++ [p]) earlier first ↔
    FirstUnder key ps earlier first ∨
      (∀ o ∈ ps, o.key ≠ key) ∧ p.key = key ∧ earlier = ps ∧ first = p := by
  constructor
  · rintro ⟨same, others, later, split⟩
    rcases concat_eq_iff.mp split with ⟨-, rfl, rfl⟩ | ⟨rest, -, parts⟩
    · exact .inr ⟨others, same, rfl, rfl⟩
    · exact .inl ⟨same, others, rest, parts⟩
  · rintro (h | ⟨others, same, rfl, rfl⟩)
    · exact h.append [p]
    · exact ⟨same, others, [], rfl⟩

/-! ## What is kept -/

variable {T : Type} {connector : Connector T} {c : Connections T}

/-- The connections are those that come of asking for these proxies in turn: under each key there is
the transport that was made for the first of them. -/
structure Holds (connector : Connector T) (ps : List Proxy) (c : Connections T) : Prop where
  calls : c.calls = firsts ps
  found : ∀ key t, c.find? key = some t ↔
    ∃ earlier first, FirstUnder key ps earlier first ∧ connector (firsts earlier) first = .ok t

theorem holds_empty : Holds connector [] {} where
  calls := rfl
  found key t := by
    constructor
    · intro found
      cases found
    · rintro ⟨earlier, first, h, -⟩
      exact absurd h.mem List.not_mem_nil

theorem keep_calls (c : Connections T) (key : String) (t : T) :
    (c.keep key t).2.calls = c.calls := by
  unfold keep
  split <;> rfl

/-- Asking for one more proxy. -/
theorem Holds.through (succeeds : ∀ made p, ∃ t, connector made p = .ok t)
    (h : Holds connector ps c) (p : Proxy) :
    Holds connector (ps ++ [p]) (c.through connector p).2 ∧
      ∃ t, (c.through connector p).1 = .ok t ∧ (c.through connector p).2.find? p.key = some t := by
  unfold Connections.through
  cases known : c.find? p.key with
  | some t =>
      obtain ⟨earlier, first, under, -⟩ := (h.found p.key t).mp known
      have there : (firsts ps).any (·.key = p.key) = true := by
        rw [any_firsts]
        exact List.any_eq_true.mpr ⟨first, under.mem, decide_eq_true under.key_eq⟩
      refine ⟨⟨?_, fun key t' => ?_⟩, t, rfl, known⟩
      · rw [firsts_concat, if_pos there]
        exact h.calls
      · -- the proxy is not the first one of its key
        have later (earlier' : List Proxy) (first' : Proxy) :
            FirstUnder key (ps ++ [p]) earlier' first' ↔ FirstUnder key ps earlier' first' := by
          rw [firstUnder_concat]
          refine or_iff_left ?_
          rintro ⟨hnone, rfl, -, -⟩
          exact hnone first under.mem under.key_eq
        simp only [later]
        exact h.found key t'
  | none =>
      have unknown : ∀ o ∈ ps, o.key ≠ p.key := by
        intro o there same
        obtain ⟨earlier, first, under⟩ := exists_firstUnder there
        obtain ⟨t, made⟩ := succeeds (firsts earlier) first
        rw [same] at under
        rw [(h.found p.key t).mpr ⟨earlier, first, under, made⟩] at known
        cases known
      have absent : (firsts ps).any (·.key = p.key) = false := by
        rw [any_firsts]
        simpa using unknown
      obtain ⟨t, made⟩ := succeeds (firsts ps) p
      have given : connector c.calls p = .ok t := by rw [h.calls, made]
      let asked : Connections T := { c with calls := c.calls ++ [p] }
      have kept : (asked.keep p.key t).1 = t := by
        rw [keep, show asked.find? p.key = none from known]
      have found (key : String) : (asked.keep p.key t).2.find? key =
          if key = p.key then some t else c.find? key := by
        rw [find?_keep, show asked.find? p.key = none from known]
        rfl
      rw [make, given]
      refine ⟨⟨?_, fun key t' => ?_⟩, t, congrArg Except.ok kept, ?_⟩
      · rw [firsts_concat, absent, if_neg Bool.false_ne_true, ← h.calls]
        exact keep_calls asked p.key t
      · simp only [firstUnder_concat]
        rw [found]
        by_cases here : key = p.key
        · subst here
          rw [if_pos rfl]
          constructor
          · intro same
            cases same
            exact ⟨ps, p, .inr ⟨unknown, rfl, rfl, rfl⟩, made⟩
          · rintro ⟨earlier, first, under | ⟨-, -, rfl, rfl⟩, made'⟩
            · exact absurd under.key_eq (unknown first under.mem)
            · rw [made] at made'
              cases made'
              rfl
        · rw [if_neg here, h.found]
          refine exists_congr fun earlier => exists_congr fun first => and_congr_left fun _ => ?_
          exact (or_iff_left fun new => here new.2.1.symm).symm
      · rw [found, if_pos rfl]

end Connections

/-! ## Queries -/

namespace Router

open Connections

/-- A question to the router: the url, and the environment as it is at that time. -/
structure Query where
  environment : Environment
  url : Url

variable {T : Type}

/-- The answer of the router, and the connections behind it. -/
def answer (r : Router T) (c : Connections T) (q : Query) : Except Error T × Connections T :=
  { r with environment := q.environment }.route q.url c

/-- The connections behind these queries, if there were none at first. -/
def behind (r : Router T) (qs : List Query) : Connections T :=
  qs.foldl (fun c q => (r.answer c q).2) {}

/-- The answer of a router that keeps nothing, its connector having been given these proxies. -/
def afresh (r : Router T) (made : List Proxy) (q : Query) : Except Error T :=
  (r.answer { calls := made } q).1

/-- The proxy that the environment selects, where the answer is up to the environment. -/
def selected? (r : Router T) (q : Query) : Option Proxy :=
  if (r.mounted? q.url).isNone && r.trustEnvironment then
    (q.environment.proxy q.url).toOption.join
  else none

/-- The transport that answers a query behind others is the one for this proxy: of those selected so
far it is the first that is reached as the one selected now.  These were selected before it. -/
structure Serves (r : Router T) (before : List Query) (q : Query) (earlier : List Proxy)
    (first : Proxy) : Prop where
  endpoint : ∃ p, r.selected? q = some p ∧ first.SameEndpoint p
  other : ∀ p, r.selected? q = some p → ∀ o ∈ earlier, ¬ o.SameEndpoint p
  split : ∃ later, (before ++ [q]).filterMap r.selected? = earlier ++ first :: later

variable {r : Router T} {connector : Connector T} {q : Query} {p : Proxy}

theorem proxy_of_selected (h : r.selected? q = some p) :
    r.mounted? q.url = none ∧ r.trustEnvironment = true ∧
      q.environment.proxy q.url = .ok (some p) := by
  unfold selected? at h
  split at h
  · rename_i open'
    obtain ⟨hnone, trusted⟩ := Bool.and_eq_true_iff.mp open'
    refine ⟨Option.isNone_iff_eq_none.mp hnone, trusted, ?_⟩
    cases found : q.environment.proxy q.url with
    | error e =>
        rw [found] at h
        cases h
    | ok p? =>
        rw [found] at h
        exact congrArg Except.ok h
  · cases h

theorem mounted?_with (r : Router T) (env : Environment) (u : Url) :
    { r with environment := env }.mounted? u = r.mounted? u := rfl

theorem answer_of_selected (connects : r.connector = some connector) (h : r.selected? q = some p)
    (c : Connections T) : r.answer c q = c.through connector p := by
  obtain ⟨unmounted, trusted, proxy⟩ := proxy_of_selected h
  unfold answer route
  rw [mounted?_with, unmounted]
  simp only [trusted, proxy, connects, if_true]

theorem answer_of_none (h : r.selected? q = none) :
    ∃ answer, ∀ c, r.answer c q = (answer, c) := by
  unfold answer route
  unfold selected? at h
  cases mounted : r.mounted? q.url with
  | some t =>
      refine ⟨.ok t, fun c => ?_⟩
      rw [mounted?_with, mounted]
  | none =>
      rw [mounted] at h
      rw [mounted?_with, mounted]
      cases trusted : r.trustEnvironment with
      | false => exact ⟨.ok r.default, fun c => rfl⟩
      | true =>
          rw [trusted] at h
          cases found : q.environment.proxy q.url with
          | error e => exact ⟨.error e, fun c => rfl⟩
          | ok p? =>
              rw [found] at h
              cases p? with
              | none => exact ⟨.ok r.default, fun c => rfl⟩
              | some p => cases h

theorem afresh_of_selected (connects : r.connector = some connector)
    (h : r.selected? q = some p) (made : List Proxy) : r.afresh made q = connector made p := by
  rw [afresh, answer_of_selected connects h]
  cases built : connector made p with
  | error e => simp [Connections.through, Connections.find?, make, built]
  | ok t => simp [Connections.through, Connections.find?, make, built, keep]

theorem selected_colon (h : r.selected? q = some p) : ':' ∉ p.url.scheme.toList := by
  obtain ⟨-, -, named⟩ := proxy_of_selected h
  unfold Environment.proxy at named
  split at named
  · cases named
  · rename_i text _
    cases read : Proxy.parse text with
    | error e =>
        rw [read] at named
        cases named
    | ok p' =>
        rw [read] at named
        cases named
        exact Proxy.parse_colon read

theorem selected_key_eq_iff {q q' : Query} {p p' : Proxy} (h : r.selected? q = some p)
    (h' : r.selected? q' = some p') : p.key = p'.key ↔ p.SameEndpoint p' :=
  Proxy.key_eq_iff (selected_colon h) (selected_colon h')

theorem behind_concat (r : Router T) (qs : List Query) (q : Query) :
    r.behind (qs ++ [q]) = (r.answer (r.behind qs) q).2 := by
  rw [behind, List.foldl_append]
  rfl

/-- The connections behind queries hold what was made for the proxies selected there. -/
theorem holds_behind (connects : r.connector = some connector)
    (succeeds : ∀ made p, ∃ t, connector made p = .ok t) (qs : List Query) :
    Holds connector (qs.filterMap r.selected?) (r.behind qs) := by
  induction qs using List.reverseRecOn with
  | nil => exact holds_empty
  | append_singleton qs q ih =>
      rw [List.filterMap_append, behind_concat]
      cases chosen : r.selected? q with
      | none =>
          obtain ⟨a, same⟩ := answer_of_none chosen
          simpa [chosen, same] using ih
      | some p =>
          have onward := (ih.through succeeds p).1
          rw [← answer_of_selected connects chosen] at onward
          simpa [chosen] using onward

theorem serves_iff {before : List Query} {earlier : List Proxy} {first : Proxy}
    (h : r.selected? q = some p) : r.Serves before q earlier first ↔
      FirstUnder p.key ((before ++ [q]).filterMap r.selected?) earlier first := by
  have chosen {o : Proxy} (there : o ∈ (before ++ [q]).filterMap r.selected?) :
      o.key = p.key ↔ o.SameEndpoint p := by
    obtain ⟨q', -, found⟩ := List.mem_filterMap.mp there
    exact selected_key_eq_iff found h
  constructor
  · rintro ⟨⟨p', same, endpoint⟩, others, split⟩
    obtain rfl : p' = p := Option.some.inj (same.symm.trans h)
    obtain ⟨later, parts⟩ := split
    rw [parts] at chosen
    refine ⟨(chosen (by simp)).mpr endpoint, fun o there => ?_, later, parts⟩
    exact mt (chosen (by simp [there])).mp (others p' h o there)
  · rintro ⟨same, others, later, parts⟩
    rw [parts] at chosen
    refine ⟨⟨p, h, (chosen (by simp)).mp same⟩, fun p' h' o there => ?_, later, parts⟩
    obtain rfl : p' = p := Option.some.inj (h'.symm.trans h)
    exact mt (chosen (by simp [there])).mpr (others o there)

theorem answer_of_serves (connects : r.connector = some connector)
    (succeeds : ∀ made p, ∃ t, connector made p = .ok t) (before : List Query)
    (h : r.selected? q = some p) :
    ∃ earlier first t, r.Serves before q earlier first ∧
      connector (firsts earlier) first = .ok t ∧ (r.answer (r.behind before) q).1 = .ok t := by
  have held := holds_behind connects succeeds before
  obtain ⟨onward, t, answered, kept⟩ := held.through succeeds p
  obtain ⟨earlier, first, under, made⟩ := (onward.found p.key t).mp kept
  refine ⟨earlier, first, t, (serves_iff h).mpr ?_, made, ?_⟩
  · rw [List.filterMap_append]
    simpa [h] using under
  · rw [answer_of_selected connects h]
    exact answered

/-- All answers come from the proxies that were selected for them if, and only if, no two of these
are reached in the same way and differ. -/
theorem serves_itself_iff (qs : List Query) :
    (∀ before q after, qs = before ++ q :: after → ∀ p earlier first, r.selected? q = some p →
      r.Serves before q earlier first → first.url = p.url) ↔
    ∀ p ∈ qs.filterMap r.selected?, ∀ p' ∈ qs.filterMap r.selected?,
      p.SameEndpoint p' → p.url = p'.url := by
  constructor
  · intro faithful
    -- both are the first that is found of their key
    have found {p : Proxy} (there : p ∈ qs.filterMap r.selected?) :
        ∃ first, (qs.filterMap r.selected?).find? (·.key = p.key) = some first ∧
          first.url = p.url := by
      obtain ⟨q, among, chosen⟩ := List.mem_filterMap.mp there
      obtain ⟨before, after, rfl⟩ := List.append_of_mem among
      have here : p ∈ (before ++ [q]).filterMap r.selected? := by simp [chosen]
      obtain ⟨earlier, first, under⟩ := exists_firstUnder here
      refine ⟨first, ?_, faithful before q after rfl p earlier first chosen
        ((serves_iff chosen).mpr under)⟩
      rw [List.append_cons, List.filterMap_append]
      exact (under.append _).find?
    intro p there p' there' same
    obtain ⟨q, -, chosen⟩ := List.mem_filterMap.mp there
    obtain ⟨q', -, chosen'⟩ := List.mem_filterMap.mp there'
    obtain ⟨first, one, url⟩ := found there
    obtain ⟨first', other, url'⟩ := found there'
    rw [(selected_key_eq_iff chosen chosen').mpr same, other] at one
    cases one
    exact url.symm.trans url'
  · rintro distinct before q after rfl p earlier first chosen serves
    obtain ⟨p', same, endpoint⟩ := serves.endpoint
    obtain rfl : p' = p := Option.some.inj (same.symm.trans chosen)
    obtain ⟨later, parts⟩ := serves.split
    have there : first ∈ (before ++ q :: after).filterMap r.selected? := by
      rw [List.append_cons, List.filterMap_append, parts]
      simp
    have here : p' ∈ (before ++ q :: after).filterMap r.selected? := by simp [chosen]
    exact distinct first there p' here endpoint

/-- A transport to a proxy is made once for each way of reaching one, and where it is up to the
environment the answer is the one that was made for the first proxy selected so far that is reached
as the one selected now is.  So the answers are those for the selected proxies themselves exactly if
no two of these differ in anything but scheme, host and port. -/
theorem connections_by_endpoint (connects : r.connector = some connector)
    (succeeds : ∀ made p, ∃ t, connector made p = .ok t) (qs : List Query) :
    (r.behind qs).calls = firsts (qs.filterMap r.selected?) ∧
    (∀ before q after, qs = before ++ q :: after →
      (r.selected? q = none → ∀ made, (r.answer (r.behind before) q).1 = r.afresh made q) ∧
      ∀ p, r.selected? q = some p → (∀ made, r.afresh made q = connector made p) ∧
        ∃ earlier first t, r.Serves before q earlier first ∧
          connector (firsts earlier) first = .ok t ∧ (r.answer (r.behind before) q).1 = .ok t) ∧
    ((∀ before q after, qs = before ++ q :: after → ∀ p earlier first, r.selected? q = some p →
        r.Serves before q earlier first → first.url = p.url) ↔
      ∀ p ∈ qs.filterMap r.selected?, ∀ p' ∈ qs.filterMap r.selected?,
        p.SameEndpoint p' → p.url = p'.url) := by
  refine ⟨(holds_behind connects succeeds qs).calls, fun before q after _ => ⟨?_, ?_⟩,
    serves_itself_iff qs⟩
  · intro unselected made
    obtain ⟨answer, same⟩ := answer_of_none unselected
    rw [afresh, same, same]
  · intro p chosen
    exact ⟨afresh_of_selected connects chosen, answer_of_serves connects succeeds before chosen⟩

/-- A router whose transports are known by the proxies that they were made for. -/
def named : Router (Option Proxy) := { default := none, connector := some fun _ p => .ok (some p) }

/-- A url of this scheme, asked for while the environment has these proxies for the schemes. -/
def asking (scheme http https : String) : Query where
  environment name :=
    if name = "HTTP_PROXY" then some http
    else if name = "HTTPS_PROXY" then some https
    else none
  url := ⟨scheme, some ⟨"", none, some (.ipv6 [0, 0, 0, 0, 0, 0, 0, 2]), none⟩, "/", none, none⟩

/-- The proxy on this host for this user. -/
def proxyFor (user : String) : Proxy :=
  ⟨⟨"http", some ⟨user, none, some (.ipv6 [0, 0, 0, 0, 0, 0, 0, 1]), none⟩, "/", none, none⟩, rfl⟩

/-- Of two proxies that only the user tells apart, the second one is not reached. -/
theorem answer_of_other_user :
    ∃ (r : Router (Option Proxy)) (connector : Connector (Option Proxy)) (before : List Query)
      (q : Query) (p : Proxy) (t : Option Proxy),
      r.connector = some connector ∧ (∀ made p, ∃ t, connector made p = .ok t) ∧
      r.selected? q = some p ∧ (r.answer (r.behind before) q).1 = .ok t ∧
      ∀ made p', connector made p' = .ok t → p'.url ≠ p.url := by
  refine ⟨named, _, [asking "http" "one@[::1]" "two@[::1]"], asking "https" "one@[::1]" "two@[::1]",
    proxyFor "two", some (proxyFor "one"), rfl, fun _ p => ⟨some p, rfl⟩, by decide +kernel,
    by decide +kernel, ?_⟩
  rintro _ p' same
  cases same
  decide +kernel

/-- Two schemes with one proxy, and then another proxy for one of them. -/
def changing : List Query :=
  [asking "http" "one@[::1]" "one@[::1]", asking "https" "one@[::1]" "one@[::1]",
    asking "https" "one@[::1]" "two@[::1]:8080"]

/-- There the proxies are told apart by their ports, and every answer is for the one selected. -/
theorem connections_by_endpoint_of_changing :
    ∃ connector, named.connector = some connector ∧
      (∀ made p, ∃ t, connector made p = .ok t) ∧
      (named.behind changing).calls = firsts (changing.filterMap named.selected?) ∧
      (firsts (changing.filterMap named.selected?)).length = 2 ∧
      ∀ before q after, changing = before ++ q :: after → ∀ p, named.selected? q = some p →
        ∃ first, first.url = p.url ∧
          (named.answer (named.behind before) q).1 = .ok (some first) := by
  have succeeds (made : List Proxy) (p : Proxy) :
      ∃ t, (.ok (some p) : Except Error (Option Proxy)) = .ok t := ⟨some p, rfl⟩
  obtain ⟨calls, answers, faithful⟩ := connections_by_endpoint (r := named) rfl succeeds changing
  have distinct : ∀ p ∈ changing.filterMap named.selected?,
      ∀ p' ∈ changing.filterMap named.selected?, p.SameEndpoint p' → p.url = p'.url := by
    decide +kernel
  refine ⟨_, rfl, succeeds, calls, by decide +kernel, fun before q after split p chosen => ?_⟩
  obtain ⟨-, answered⟩ := answers before q after split
  obtain ⟨-, earlier, first, t, serves, made, answer⟩ := answered p chosen
  cases made
  exact ⟨first, faithful.mpr distinct before q after split p earlier first chosen serves, answer⟩

end Router

end HttpClient
