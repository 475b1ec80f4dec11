/-
# Which transport a router chooses

Where a mounted pattern admits the url, the mount with the greatest score is chosen, of equals
the first (`Wins`), and nothing else is asked: neither the environment nor the connector can
change that.  Where none does, a trusted environment may name a proxy, and only then can the
choice fail: because the named text is no proxy, or because the connector makes no transport.

The choice among the mounts is a scan that keeps the best so far, so it is what the scan makes
of the mounts before the winner (`mem_of_foldl_better`), of the winner, and of those behind it
(`foldl_better_of_le`).  What is no candidate may stand anywhere in the list, and two neighbours
may change places unless they are equals (`better_comm`).
-/
import HttpClient.Routing.Router

namespace HttpClient.Router

variable {T : Type} {mounts : List (MountPattern × T)} {u : Url}

/-! ## The better of two -/

theorem mem_of_foldl_better {scored : List (Nat × T)} {best : Option (Nat × T)} {m : Nat × T}
    (h : scored.foldl better best = some m) : m ∈ scored ∨ best = some m := by
  induction scored generalizing best with
  | nil => exact .inr h
  | cons next rest ih =>
      rcases ih h with later | here
      · exact .inl (List.mem_cons_of_mem next later)
      · unfold better at here
        split at here
        · cases here
          exact .inl List.mem_cons_self
        · split at here
          · cases here
            exact .inl List.mem_cons_self
          · exact .inr here

theorem foldl_better_of_le {scored : List (Nat × T)} {m : Nat × T} (h : ∀ n ∈ scored, n.1 ≤ m.1) :
    scored.foldl better (some m) = some m := by
  induction scored with
  | nil => rfl
  | cons next rest ih =>
      obtain ⟨here, later⟩ := List.forall_mem_cons.mp h
      rw [List.foldl_cons, better, if_neg (Nat.not_lt.mpr here)]
      exact ih later

theorem better_of_lt {best : Option (Nat × T)} {m : Nat × T}
    (h : ∀ b, best = some b → b.1 < m.1) : better best m = some m := by
  cases best with
  | none => rfl
  | some b => exact if_pos (h b rfl)

theorem better_comm (best : Option (Nat × T)) {m n : Nat × T} (h : m.1 ≠ n.1) :
    better (better best m) n = better (better best n) m := by
  rcases Nat.lt_or_gt_of_ne h with less | more
  · cases best with
    | none => simp [better, less, Nat.lt_asymm less]
    | some b =>
        by_cases overM : b.1 < m.1
        · have overN : b.1 < n.1 := Nat.lt_trans overM less
          simp [better, overM, overN, less, Nat.lt_asymm less]
        · by_cases overN : b.1 < n.1 <;> simp [better, overM, overN, Nat.lt_asymm less]
  · cases best with
    | none => simp [better, more, Nat.lt_asymm more]
    | some b =>
        by_cases overN : b.1 < n.1
        · have overM : b.1 < m.1 := Nat.lt_trans overN more
          simp [better, overM, overN, more, Nat.lt_asymm more]
        · by_cases overM : b.1 < m.1 <;> simp [better, overM, overN, Nat.lt_asymm more]

/-! ## The winner among the mounts -/

/-- The mount has this score on the url, no other mount has a greater one, and none before it has
the same. -/
structure Wins (mounts : List (MountPattern × T)) (u : Url) (m : MountPattern × T) (score : Nat) :
    Prop where
  scores : m.1.score? u = some score
  split : ∃ before after, mounts = before ++ m :: after ∧
    (∀ n ∈ before, ∀ s, n.1.score? u = some s → s < score) ∧
    ∀ n ∈ after, ∀ s, n.1.score? u = some s → s ≤ score

/-- Where a mount scores, one of them wins. By induction over the mounts: the first one wins unless
the winner of the others exceeds it. -/
theorem exists_wins (h : ∃ m ∈ mounts, (m.1.score? u).isSome = true) :
    ∃ m score, Wins mounts u m score := by
  induction mounts with
  | nil =>
      obtain ⟨m, there, -⟩ := h
      exact absurd there List.not_mem_nil
  | cons first rest ih =>
      by_cases others : ∃ m ∈ rest, (m.1.score? u).isSome = true
      · obtain ⟨m, score, scores, before, after, rfl, ahead, behind⟩ := ih others
        have exceeds : ∀ n ∈ before ++ m :: after, ∀ s, n.1.score? u = some s → s ≤ score := by
          intro n there s has
          rcases List.mem_append.mp there with there | there
          · exact Nat.le_of_lt (ahead n there s has)
          · rcases List.mem_cons.mp there with rfl | there
            · rw [scores] at has
              exact Nat.le_of_eq (Option.some.inj has).symm
            · exact behind n there s has
        by_cases leads : ∃ s, first.1.score? u = some s ∧ score ≤ s
        · obtain ⟨s, has, more⟩ := leads
          refine ⟨first, s, has, [], _, rfl, fun _ h => absurd h List.not_mem_nil, ?_⟩
          intro n there s' has'
          exact Nat.le_trans (exceeds n there s' has') more
        · refine ⟨m, score, scores, first :: before, after, rfl, ?_, behind⟩
          refine List.forall_mem_cons.mpr ⟨fun s has => ?_, ahead⟩
          exact Nat.lt_of_not_le fun more => leads ⟨s, has, more⟩
      · obtain ⟨m, there, hsome⟩ := h
        rcases List.mem_cons.mp there with rfl | there
        · obtain ⟨score, scores⟩ := Option.isSome_iff_exists.mp hsome
          refine ⟨m, score, scores, [], rest, rfl, fun _ h => absurd h List.not_mem_nil, ?_⟩
          intro n later s has
          exact absurd ⟨n, later, Option.isSome_iff_exists.mpr ⟨s, has⟩⟩ others
        · exact absurd ⟨m, there, hsome⟩ others

theorem scored_append (r : Router T) (before after : List (MountPattern × T)) :
    { r with mounts := before ++ after }.scored u =
      { r with mounts := before }.scored u ++ { r with mounts := after }.scored u :=
  List.filterMap_append

theorem scored_cons_some (r : Router T) {m : MountPattern × T} {score : Nat}
    (rest : List (MountPattern × T)) (h : m.1.score? u = some score) :
    { r with mounts := m :: rest }.scored u =
      (score, m.2) :: { r with mounts := rest }.scored u := by
  refine List.filterMap_cons_some ?_
  show (m.1.score? u).map _ = _
  rw [h]
  rfl

theorem scored_cons_none (r : Router T) {m : MountPattern × T} (rest : List (MountPattern × T))
    (h : m.1.score? u = none) :
    { r with mounts := m :: rest }.scored u = { r with mounts := rest }.scored u := by
  refine List.filterMap_cons_none ?_
  show (m.1.score? u).map _ = _
  rw [h]
  rfl

theorem mem_scored {r : Router T} {n : Nat × T} (h : n ∈ r.scored u) :
    ∃ m ∈ r.mounts, m.1.score? u = some n.1 ∧ m.2 = n.2 := by
  obtain ⟨m, there, scored⟩ := List.mem_filterMap.mp h
  obtain ⟨score, has, rfl⟩ := Option.map_eq_some_iff.mp scored
  exact ⟨m, there, has, rfl⟩

theorem mounted?_of_wins {r : Router T} {m : MountPattern × T} {score : Nat}
    (h : Wins r.mounts u m score) : r.mounted? u = some m.2 := by
  obtain ⟨scores, before, after, parts, ahead, behind⟩ := h
  have candidates : r.scored u = { r with mounts := before }.scored u ++
      (score, m.2) :: { r with mounts := after }.scored u := by
    rw [← scored_cons_some r after scores, ← scored_append, ← parts]
  have exceeded : ∀ b, ({ r with mounts := before }.scored u).foldl better none = some b →
      b.1 < score := by
    intro b found
    rcases mem_of_foldl_better found with there | hnone
    · obtain ⟨n, early, has, -⟩ := mem_scored there
      exact ahead n early b.1 has
    · cases hnone
  have unmatched : ∀ n ∈ { r with mounts := after }.scored u, n.1 ≤ score := by
    intro n there
    obtain ⟨n', late, has, -⟩ := mem_scored there
    exact behind n' late n.1 has
  rw [mounted?, candidates, List.foldl_append, List.foldl_cons, better_of_lt exceeded,
    foldl_better_of_le unmatched]
  rfl

theorem mounted?_of_none {r : Router T} (h : ∀ m ∈ r.mounts, m.1.score? u = none) :
    r.mounted? u = none := by
  have candidates : r.scored u = [] := by
    refine List.filterMap_eq_nil_iff.mpr fun m there => ?_
    show (m.1.score? u).map _ = _
    rw [h m there]
    rfl
  rw [mounted?, candidates]
  rfl

/-! ## Changes of the mounts that change nothing -/

/-- A mount that does not admit the url may be left out. -/
theorem mounted?_insert (r : Router T) {m : MountPattern × T} (h : m.1.score? u = none)
    (before after : List (MountPattern × T)) :
    { r with mounts := before ++ m :: after }.mounted? u =
      { r with mounts := before ++ after }.mounted? u := by
  rw [mounted?, mounted?, scored_append, scored_cons_none r after h, scored_append]

theorem mounted?_swap (r : Router T) {m n : MountPattern × T}
    (h : m.1.score? u ≠ n.1.score? u) (before after : List (MountPattern × T)) :
    { r with mounts := before ++ n :: m :: after }.mounted? u =
      { r with mounts := before ++ m :: n :: after }.mounted? u := by
  cases first : m.1.score? u with
  | none =>
      rw [mounted?_insert r first, List.append_cons before n (m :: after),
        mounted?_insert r first, List.append_cons before n after]
  | some s =>
      cases second : n.1.score? u with
      | none =>
          rw [mounted?_insert r second, List.append_cons before m (n :: after),
            mounted?_insert r second, List.append_cons before m after]
      | some s' =>
          have differ : s' ≠ s := by
            rintro rfl
            exact h (first.trans second.symm)
          rw [mounted?, mounted?, scored_append, scored_append, scored_cons_some r _ second,
            scored_cons_some r _ first, scored_cons_some r _ first, scored_cons_some r _ second]
          simp only [List.foldl_append, List.foldl_cons]
          rw [better_comm _ (m := (s', n.2)) (n := (s, m.2)) differ]

theorem route_congr (r : Router T) {others : List (MountPattern × T)}
    (h : { r with mounts := others }.mounted? u = r.mounted? u) (c : Connections T) :
    { r with mounts := others }.route u c = r.route u c := by
  simp only [route, h]

/-! ## Where no mount is chosen -/

/-- The environment excludes the url from proxies. -/
def Excludes (env : Environment) (u : Url) : Prop :=
  ∃ list, env.lookup "no_proxy" = some list ∧ HttpClient.excludes list u = true

/-- The value of the environment for the scheme of the url. -/
def schemeValue? (env : Environment) (u : Url) : Option String :=
  (Environment.schemeVariable? u.scheme).bind env.lookup

/-- The environment selects this text as the proxy for the url: the value for its scheme or, where
there is none, the one for all schemes. -/
def Selects (env : Environment) (u : Url) (text : String) : Prop :=
  ¬ Excludes env u ∧
    (schemeValue? env u = some text ∨
      schemeValue? env u = none ∧ env.lookup "all_proxy" = some text)

/-- The environment selects no proxy for the url. -/
def SelectsNone (env : Environment) (u : Url) : Prop :=
  Excludes env u ∨ schemeValue? env u = none ∧ env.lookup "all_proxy" = none

theorem excludes_iff (env : Environment) (u : Url) :
    (env.lookup "no_proxy").any (HttpClient.excludes · u) = true ↔ Excludes env u := by
  cases list : env.lookup "no_proxy" with
  | none => simp [Excludes, list]
  | some text => simp [Excludes, list]

theorem proxyText?_eq_some_iff {env : Environment} {text : String} :
    env.proxyText? u = some text ↔ Selects env u text := by
  by_cases excluded : Excludes env u
  · rw [Environment.proxyText?, if_pos ((excludes_iff env u).mpr excluded)]
    constructor
    · intro impossible
      cases impossible
    · intro selected
      exact absurd excluded selected.1
  · rw [Environment.proxyText?, if_neg (mt (excludes_iff env u).mp excluded)]
    exact Option.or_eq_some_iff.trans (and_iff_right excluded).symm

theorem proxyText?_eq_none_iff {env : Environment} :
    env.proxyText? u = none ↔ SelectsNone env u := by
  by_cases excluded : Excludes env u
  · rw [Environment.proxyText?, if_pos ((excludes_iff env u).mpr excluded)]
    exact ⟨fun _ => .inl excluded, fun _ => rfl⟩
  · rw [Environment.proxyText?, if_neg (mt (excludes_iff env u).mp excluded), Option.or_eq_none_iff]
    exact ⟨.inr, fun hnone => hnone.resolve_left excluded⟩

/-- There is no transport for the proxy yet, and this comes of asking the connector for one. -/
def Connects (r : Router T) (c : Connections T) (p : Proxy) (result : Except Error T) : Prop :=
  c.find? p.key = none ∧
    ∃ connector, r.connector = some connector ∧ connector c.calls p = result

theorem through_fst (connector : Connector T) (c : Connections T) (p : Proxy) :
    (c.through connector p).1 = ((c.find? p.key).map Except.ok).getD (connector c.calls p) := by
  rw [Connections.through]
  cases known : c.find? p.key with
  | some t => rfl
  | none =>
      cases made : connector c.calls p with
      | error e => simp [Connections.make, made]
      | ok t =>
          have new : Connections.find? { c with calls := c.calls ++ [p] } p.key = none := known
          simp [Connections.make, made, Connections.keep, new]

section Fallback

variable {r : Router T} {c : Connections T}

theorem route_of_mounted {t : T} (h : r.mounted? u = some t) : r.route u c = (.ok t, c) := by
  rw [route, h]

theorem route_of_distrusted (h : r.mounted? u = none) (distrusted : r.trustEnvironment = false) :
    r.route u c = (.ok r.default, c) := by
  simp [route, h, distrusted]

theorem route_of_selectsNone (h : r.mounted? u = none) (hnone : SelectsNone r.environment u) :
    r.route u c = (.ok r.default, c) := by
  simp [route, h, Environment.proxy, proxyText?_eq_none_iff.mpr hnone]

variable {text : String} (selected : Selects r.environment u text)

include selected

theorem route_of_malformed {e : Error} (h : r.mounted? u = none)
    (trusted : r.trustEnvironment = true) (malformed : Proxy.parse text = .error e) :
    r.route u c = (.error e, c) := by
  simp [route, h, trusted, Environment.proxy, proxyText?_eq_some_iff.mpr selected, malformed,
    Except.map]

variable {p : Proxy} (parsed : Proxy.parse text = .ok p)

include parsed

theorem route_of_unconnected (h : r.mounted? u = none) (unconnected : r.connector = none) :
    r.route u c = (.ok r.default, c) := by
  simp [route, h, unconnected, Environment.proxy, proxyText?_eq_some_iff.mpr selected, parsed,
    Except.map]

theorem route_of_connected {connector : Connector T} (h : r.mounted? u = none)
    (trusted : r.trustEnvironment = true) (connected : r.connector = some connector) :
    r.route u c = c.through connector p := by
  simp [route, h, trusted, connected, Environment.proxy, proxyText?_eq_some_iff.mpr selected,
    parsed, Except.map]

theorem route_eq_iff_of_connected {connector : Connector T} (h : r.mounted? u = none)
    (trusted : r.trustEnvironment = true) (connected : r.connector = some connector)
    (result : Except Error T) :
    (r.route u c).1 = result ↔
      (∃ t, c.find? p.key = some t ∧ .ok t = result) ∨ r.Connects c p result := by
  rw [route_of_connected selected parsed h trusted connected, through_fst]
  cases known : c.find? p.key with
  | some t => simp [Connects, known]
  | none => simp [Connects, known, connected]

end Fallback

/-- The choice fails exactly if the text that is selected is no proxy, or the connector fails. -/
theorem route_error_iff {r : Router T} {c : Connections T} (h : r.mounted? u = none)
    (trusted : r.trustEnvironment = true) (e : Error) :
    (r.route u c).1 = .error e ↔ ∃ text, Selects r.environment u text ∧
      (Proxy.parse text = .error e ∨
        ∃ p, Proxy.parse text = .ok p ∧ r.Connects c p (.error e)) := by
  constructor
  · intro failed
    cases text? : r.environment.proxyText? u with
    | none =>
        rw [route_of_selectsNone h (proxyText?_eq_none_iff.mp text?)] at failed
        cases failed
    | some text =>
        have selected := proxyText?_eq_some_iff.mp text?
        refine ⟨text, selected, ?_⟩
        cases parsed : Proxy.parse text with
        | error e' =>
            rw [route_of_malformed selected h trusted parsed] at failed
            cases failed
            exact .inl rfl
        | ok p =>
            cases connected : r.connector with
            | none =>
                rw [route_of_unconnected selected parsed h connected] at failed
                cases failed
            | some connector =>
                refine .inr ⟨p, rfl, ?_⟩
                rcases (route_eq_iff_of_connected selected parsed h trusted connected _).mp failed
                  with ⟨t, -, impossible⟩ | connects
                · cases impossible
                · exact connects
  · rintro ⟨text, selected, malformed | ⟨p, parsed, connects⟩⟩
    · rw [route_of_malformed selected h trusted malformed]
    · obtain ⟨connector, connected, -⟩ := connects.2
      exact (route_eq_iff_of_connected selected parsed h trusted connected _).mpr (.inr connects)

/-! ## The choice -/

/-- The choice of a router.  If a mount scores on the url, the one with the greatest score answers,
of equals the first, whatever the environment says, and whether it is trusted or connected.
Otherwise a distrusted environment leaves it to the default, and a trusted one to the proxy that it
selects: the choice fails exactly if the selected text is no proxy or the connector fails, the
transport is the one that is kept or made for the proxy if there is a connector, and it is the
default if no proxy is selected or there is no connector.  So a mount that does not score changes
nothing, and neither does the order of neighbours with different scores. -/
theorem route_by_score_or_environment (r : Router T) (u : Url) (c : Connections T) :
    ((∃ m ∈ r.mounts, (m.1.score? u).isSome = true) → ∃ m score, Wins r.mounts u m score) ∧
    (∀ m score, Wins r.mounts u m score → ∀ trusted environment connector,
      { r with trustEnvironment := trusted, environment, connector }.route u c = (.ok m.2, c)) ∧
    ((∀ m ∈ r.mounts, m.1.score? u = none) →
      (r.trustEnvironment = false → r.route u c = (.ok r.default, c)) ∧
      (r.trustEnvironment = true →
        (∀ e, (r.route u c).1 = .error e ↔ ∃ text, Selects r.environment u text ∧
          (Proxy.parse text = .error e ∨
            ∃ p, Proxy.parse text = .ok p ∧ r.Connects c p (.error e))) ∧
        (∀ text p connector, Selects r.environment u text → Proxy.parse text = .ok p →
          r.connector = some connector → ∀ t, (r.route u c).1 = .ok t ↔
            c.find? p.key = some t ∨ r.Connects c p (.ok t)) ∧
        (SelectsNone r.environment u ∨ r.connector = none ∧
            (∃ text p, Selects r.environment u text ∧ Proxy.parse text = .ok p) →
          r.route u c = (.ok r.default, c)))) ∧
    (∀ before after m, r.mounts = before ++ after → m.1.score? u = none →
      { r with mounts := before ++ m :: after }.route u c = r.route u c) ∧
    ∀ before after m n, r.mounts = before ++ m :: n :: after → m.1.score? u ≠ n.1.score? u →
      { r with mounts := before ++ n :: m :: after }.route u c = r.route u c := by
  refine ⟨exists_wins, ?_, fun unmounted => ⟨?_, fun trusted => ⟨?_, ?_, ?_⟩⟩, ?_, ?_⟩
  · intro m score wins trusted environment connector
    exact route_of_mounted (mounted?_of_wins
      (r := { r with trustEnvironment := trusted, environment, connector }) wins)
  · exact route_of_distrusted (mounted?_of_none unmounted)
  · exact route_error_iff (mounted?_of_none unmounted) trusted
  · intro text p connector selected parsed connected t
    rw [route_eq_iff_of_connected selected parsed (mounted?_of_none unmounted) trusted connected]
    simp
  · rintro (hnone | ⟨unconnected, text, p, selected, parsed⟩)
    · exact route_of_selectsNone (mounted?_of_none unmounted) hnone
    · exact route_of_unconnected selected parsed (mounted?_of_none unmounted) unconnected
  · intro before after m parts unscored
    refine route_congr r ?_ c
    rw [mounted?_insert r unscored, ← parts]
  · intro before after m n parts differ
    refine route_congr r ?_ c
    rw [mounted?_swap r differ, ← parts]

/-- Two mounts of equal score behind one that does not admit the url, and an environment whose
proxy is no proxy. -/
def contested : Router String where
  default := "default"
  mounts :=
    [(⟨"https://*", some "https", .any, none⟩, "secure"),
      (⟨"http://*", some "http", .any, none⟩, "first"),
      (⟨"http://*", some "http", .any, none⟩, "second")]
  environment name := if name = "HTTP_PROXY" then some "http://" else none

/-- The same without the mounts. -/
def deserted : Router String where
  default := "default"
  environment name := if name = "HTTP_PROXY" then some "http://" else none

def contestedUrl : Url :=
  ⟨"http", some ⟨"", none, some (.ipv6 [0, 0, 0, 0, 0, 0, 0, 1]), none⟩, "/", none, none⟩

/-- The first of the two answers, and without mounts the choice fails. -/
theorem route_by_score_or_environment_of_contested :
    contested.route contestedUrl {} = (.ok "first", {}) ∧
      ∃ e, (deserted.route contestedUrl {}).1 = .error e := by
  constructor
  · obtain ⟨-, wins, -⟩ := route_by_score_or_environment contested contestedUrl {}
    refine wins _ _ ⟨rfl, [_], [_], rfl, ?_, ?_⟩ _ _ _
    · decide +kernel
    · decide +kernel
  · obtain ⟨-, -, unmounted, -⟩ := route_by_score_or_environment deserted contestedUrl {}
    obtain ⟨fails, -, -⟩ := (unmounted fun _ h => absurd h List.not_mem_nil).2 rfl
    have selected : Selects deserted.environment contestedUrl "http://" :=
      proxyText?_eq_some_iff.mp (by decide +kernel)
    obtain ⟨e, malformed⟩ : ∃ e, Proxy.parse "http://" = .error e := ⟨_, rfl⟩
    exact ⟨e, (fails e).mpr ⟨"http://", selected, .inl malformed⟩⟩

end HttpClient.Router
