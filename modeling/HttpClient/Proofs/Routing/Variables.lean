/-
# Blank variables

Each name stands for two variables, one in upper case and one in lower case.  The lower one is asked
only if there is no upper one, and only what comes of that is tested for being blank.  So a blank
value counts as none, but the upper variable that has it still stands in front of the lower one: it
hides what the lower one says (`Environment.Hidden`).

Hidden names are all that keeps an environment from being read like the one without its blank
values.  What is read is `Environment.settled`, in which neither spelling is left of a name whose
upper variable is blank.
-/
import HttpClient.Proofs.Text.Letters
import HttpClient.Routing.Proxy

namespace HttpClient.Environment

open Text

variable {env env' : Environment} {name value : String} {u : Url}

/-- The environment without the variables whose values are blank. -/
def withoutBlanks (env : Environment) : Environment := fun name =>
  (env name).filter (!isBlankText ·)

/-- The upper variable of the name is blank, and the lower one is not. -/
def Hidden (env : Environment) (name : String) : Prop :=
  ∃ blank value, env (upper name) = some blank ∧ isBlankText blank = true ∧
    env (lower name) = some value ∧ isBlankText value = false

/-- The environment as it is read: it has no blank values, and nothing of a name whose upper
variable is blank. -/
def settled (env : Environment) : Environment := fun name =>
  if (env (upper name)).any isBlankText then none else env.withoutBlanks name

/-- The names that are looked up for a url. -/
def asked (u : Url) : List String :=
  "no_proxy" :: ((schemeVariable? u.scheme).toList ++ ["all_proxy"])

/-! ## Single names -/

theorem lookup_of_blank (h : env (upper name) = some value) (blank : isBlankText value = true) :
    env.lookup name = none := by
  rw [lookup, h]
  simp [blank]

theorem lookup_eq_some_iff : env.lookup name = some value ↔ isBlankText value = false ∧
    (env (upper name) = some value ∨ env (upper name) = none ∧ env (lower name) = some value) := by
  rw [lookup, Option.filter_eq_some_iff, Option.or_eq_some_iff, Bool.not_eq_true', and_comm]

theorem withoutBlanks_eq_some_iff :
    env.withoutBlanks name = some value ↔ env name = some value ∧ isBlankText value = false := by
  rw [withoutBlanks, Option.filter_eq_some_iff, Bool.not_eq_true']

theorem withoutBlanks_eq_none_iff :
    env.withoutBlanks name = none ↔ ∀ value, env name = some value → isBlankText value = true := by
  rw [withoutBlanks, Option.filter_eq_none_iff]
  simp

/-- Without the blanks, the lower variable counts where the upper one is none or blank. -/
theorem lookup_withoutBlanks_eq_some_iff :
    env.withoutBlanks.lookup name = some value ↔ isBlankText value = false ∧
      (env (upper name) = some value ∨
        (∀ other, env (upper name) = some other → isBlankText other = true) ∧
          env (lower name) = some value) := by
  rw [lookup_eq_some_iff, withoutBlanks_eq_some_iff, withoutBlanks_eq_some_iff,
    withoutBlanks_eq_none_iff]
  exact and_congr_right fun filled =>
    or_congr (and_iff_left filled) (and_congr_right fun _ => and_iff_left filled)

theorem Hidden.apart (h : env.Hidden name) : env.lookup name ≠ env.withoutBlanks.lookup name := by
  obtain ⟨blank, value, first, isBlank, second, filled⟩ := h
  have behind : env.withoutBlanks.lookup name = some value :=
    lookup_withoutBlanks_eq_some_iff.mpr
      ⟨filled, .inr ⟨fun other same => by cases first.symm.trans same; exact isBlank, second⟩⟩
  rw [lookup_of_blank first isBlank, behind]
  exact (Option.some_ne_none value).symm

theorem lookup_eq_withoutBlanks_iff :
    env.lookup name = env.withoutBlanks.lookup name ↔ ¬ env.Hidden name := by
  refine ⟨fun same hidden => hidden.apart same, fun plain => Option.ext fun value => ?_⟩
  rw [lookup_eq_some_iff, lookup_withoutBlanks_eq_some_iff]
  refine and_congr_right fun filled => or_congr_right ⟨?_, ?_⟩
  · rintro ⟨hnone, second⟩
    exact ⟨fun other first => (nomatch hnone.symm.trans first), second⟩
  · rintro ⟨blank, second⟩
    refine ⟨Option.eq_none_iff_forall_ne_some.mpr fun other first => ?_, second⟩
    exact plain ⟨other, value, first, blank other first, second, filled⟩

theorem lookup_settled (env : Environment) (name : String) :
    env.settled.lookup name = env.lookup name := by
  unfold lookup settled
  rw [upper_upper, upper_lower]
  cases first : env (upper name) with
  | none => simp [withoutBlanks, first, Option.filter_filter]
  | some value =>
      cases blank : isBlankText value with
      | true => simp [blank, Option.filter_some]
      | false => simp [withoutBlanks, first, blank, Option.filter_some]

/-! ## Proxies -/

/-- Environments that agree on the names that are looked up for a url send it the same way. -/
theorem proxy_congr (h : ∀ name ∈ asked u, env.lookup name = env'.lookup name) :
    env.proxy u = env'.proxy u := by
  have exclusions := h "no_proxy" List.mem_cons_self
  have every : env.lookup "all_proxy" = env'.lookup "all_proxy" := h _ (by simp [asked])
  have own : (schemeVariable? u.scheme).bind env.lookup =
      (schemeVariable? u.scheme).bind env'.lookup := by
    cases named : schemeVariable? u.scheme with
    | none => rfl
    | some name => exact h name (by simp [asked, named])
  rw [proxy, proxy, proxyText?, proxyText?, exclusions, every, own]

/-- How blank variables are read.  The lower variable of a name counts only where there is no upper
one; without the blank values it would count where the upper one is none or blank.  The two differ
exactly for the names that are hidden.  An environment sends every url as the settled one does, and
as the one without blanks does if none of the names that are looked up for the url is hidden. -/
theorem proxy_by_variables (env : Environment) (u : Url) :
    (∀ name value, env.lookup name = some value ↔ isBlankText value = false ∧
      (env (upper name) = some value ∨
        env (upper name) = none ∧ env (lower name) = some value)) ∧
    (∀ name value, env.withoutBlanks.lookup name = some value ↔
      isBlankText value = false ∧ (env (upper name) = some value ∨
        (∀ other, env (upper name) = some other → isBlankText other = true) ∧
          env (lower name) = some value)) ∧
    (∀ name, env.lookup name = env.withoutBlanks.lookup name ↔ ¬ env.Hidden name) ∧
    env.proxy u = env.settled.proxy u ∧
    ((∀ name ∈ asked u, ¬ env.Hidden name) → env.proxy u = env.withoutBlanks.proxy u) :=
  ⟨fun _ _ => lookup_eq_some_iff, fun _ _ => lookup_withoutBlanks_eq_some_iff,
    fun _ => lookup_eq_withoutBlanks_iff,
    proxy_congr fun name _ => (env.lookup_settled name).symm,
    fun plain => proxy_congr fun name there =>
      lookup_eq_withoutBlanks_iff.mpr (plain name there)⟩

/-- An address that is asked for in the clear. -/
def target : Url :=
  ⟨"http", some ⟨"", none, some (.ipv6 [0, 0, 0, 0, 0, 0, 0, 2]), none⟩, "/", none, none⟩

/-- A proxy for all schemes in lower case, next to blanks that hide nothing. -/
def spaced : Environment := fun name =>
  if name = "HTTP_PROXY" then some " "
  else if name = "no_proxy" then some ""
  else if name = "all_proxy" then some "[::1]"
  else none

/-- The blanks do not keep the proxy from being found. -/
theorem proxy_by_variables_of_spaced : spaced.proxy target = spaced.withoutBlanks.proxy target ∧
    spaced.proxyText? target = some "[::1]" := by
  obtain ⟨-, -, -, -, same⟩ := proxy_by_variables spaced target
  refine ⟨same fun name there hidden => ?_, by decide +kernel⟩
  obtain ⟨blank, value, first, isBlank, second, filled⟩ := hidden
  have names : name = "no_proxy" ∨ name = "http_proxy" ∨ name = "all_proxy" := by
    simpa [asked, schemeVariable?, target] using there
  rcases names with rfl | rfl | rfl
  · have hnone : spaced (upper "no_proxy") = none := by decide +kernel
    rw [hnone] at first
    cases first
  · have hnone : spaced (lower "http_proxy") = none := by decide +kernel
    rw [hnone] at second
    cases second
  · have hnone : spaced (upper "all_proxy") = none := by decide +kernel
    rw [hnone] at first
    cases first

/-- A proxy in lower case, hidden by a blank in upper case. -/
def shadowed : Environment := fun name =>
  if name = "HTTP_PROXY" then some ""
  else if name = "http_proxy" then some "http://[::1]:3128"
  else none

/-- The proxy that is hidden. -/
def hiddenProxy : Proxy :=
  ⟨⟨"http", some ⟨"", none, some (.ipv6 [0, 0, 0, 0, 0, 0, 0, 1]), some 3128⟩, "/", none, none⟩, rfl⟩

/-- There a url that is to go through the proxy is sent without it. -/
theorem proxy_hidden_by_blank :
    shadowed.proxy target = .ok none ∧
      shadowed.withoutBlanks.proxy target = .ok (some hiddenProxy) := by
  have unread : shadowed.proxyText? target = none := by decide +kernel
  have read : shadowed.withoutBlanks.proxyText? target = some "http://[::1]:3128" := by
    decide +kernel
  have parsed : Proxy.parse "http://[::1]:3128" = .ok hiddenProxy := by rfl
  rw [proxy, proxy, unread, read]
  exact ⟨rfl, congrArg (Except.map some) parsed⟩

end HttpClient.Environment
