/-
# What is in the jar

Whatever was done with a jar, the entry of a name is as the last operation left it that
decided about this name.  A cookie that is set without a response is stored for good, and
removing a cookie or clearing the jar deletes.  A response decides by the last of its
`Set-Cookie` values that spells this name, and that value asks for the cookie to be stored
or deleted by its attributes (`SetCookie.Asks`).  Values that spell no name decide nothing.

Both times it is the last one that counts (`LastBy`): of the operations, and of the values
of one response.  So one lemma about folds serves for both (`settles_foldl`); what it needs
to know is what a single operation and a single value do.

What has expired when it is received is deleted then, and what expires later stays in the
jar and is left out when the jar is rendered.
-/
import HttpClient.Cookie.Jar
import HttpClient.Proofs.Last
import Mathlib.Data.List.Nodup

namespace HttpClient

open Text

/-! ## Looking cookies up -/

namespace Jar

theorem find?_put (name n : String) (c : Cookie) (es : List (String × Cookie)) :
    (put name c es).find? (·.1 = n) =
      if n = name then some (name, c) else es.find? (·.1 = n) := by
  induction es with
  | nil =>
      simp only [put, List.find?_cons, List.find?_nil, eq_comm]
      split <;> simp [*]
  | cons e es ih =>
      have first (rest : List (String × Cookie)) : ((name, c) :: rest).find? (·.1 = n) =
          if n = name then some (name, c) else rest.find? (·.1 = n) := by
        rw [List.find?_cons]
        by_cases same : n = name
        · simp [same]
        · have other : ¬ name = n := fun h => same h.symm
          simp [same, other]
      simp only [put]
      split
      · exact first _
      · split
        · -- the entry of the name gives way
          rename_i itsOwn
          rw [first, List.find?_cons, ← itsOwn]
          by_cases same : n = name
          · simp [same]
          · have other : ¬ name = n := fun h => same h.symm
            simp [same, other]
        · rename_i other
          rw [List.find?_cons, List.find?_cons, ih]
          by_cases same : n = name
          · have passed : ¬ e.1 = name := fun h => other h.symm
            simp [same, passed]
          · simp [same]

theorem find?_insert (jar : Jar) (name n : String) (c : Cookie) :
    (jar.insert name c).find? n = if n = name then some c else jar.find? n := by
  unfold find? insert
  rw [find?_put]
  split <;> rfl

theorem find?_erase (jar : Jar) (name n : String) :
    (jar.erase name).find? n = if n = name then none else jar.find? n := by
  unfold find? erase
  rw [List.find?_filter]
  split
  · rename_i same
    rw [Option.map_eq_none_iff, List.find?_eq_none]
    simp [same]
  · rename_i other
    congr 2
    funext e
    by_cases here : e.1 = n <;> simp [here, other]

/-- The jar holds one cookie for each name. -/
theorem mem_entries (jar : Jar) (name : String) (c : Cookie) :
    (name, c) ∈ jar.entries ↔ jar.find? name = some c := by
  have names : (jar.entries.map (·.1)).Nodup :=
    List.pairwise_map.mpr (jar.ascending.imp String.ne_of_lt)
  unfold find?
  constructor
  · intro there
    have hsome : (jar.entries.find? (·.1 = name)).isSome = true :=
      List.find?_isSome.mpr ⟨(name, c), there, decide_eq_true rfl⟩
    obtain ⟨e, found⟩ := Option.isSome_iff_exists.mp hsome
    have here : e.1 = name := by simpa using List.find?_some found
    have same : e = (name, c) :=
      List.inj_on_of_nodup_map names (List.mem_of_find?_eq_some found) there here
    rw [found, same]
    rfl
  · intro found
    obtain ⟨e, there, rfl⟩ := Option.map_eq_some_iff.mp found
    have here : e.1 = name := by simpa using List.find?_some there
    rw [← here]
    exact List.mem_of_find?_eq_some there

end Jar

/-! ## What a value asks for -/

namespace SetCookie

/-- The value is a text that spells a cookie with this name, this value and these attributes. -/
inductive Spells (v : HeaderValue) : String → String → List Attribute → Prop
  | intro {s : String} {first key value : List Char} {segments : List (List Char)} :
      v.text? = some s → pieces ';' s.toList = first :: segments →
      cut '=' first = some (key, value) → trim key ≠ [] →
      Spells v (String.ofList (trim key)) (String.ofList (strip (· = '"') (trim value)))
        (segments.map readAttribute)

/-- The attribute is a lifetime of so many seconds. -/
def IsLifetime (a : Attribute) (seconds : Int) : Prop :=
  a.isNamed "max-age" = true ∧ int64? a.2 = some seconds

def IsDate (a : Attribute) (t : Instant) : Prop :=
  a.isNamed "expires" = true ∧ HttpDate.parse? a.2 = some t

/-- What a value that spells a name asks for at a time: a cookie to be stored, or none.  A lifetime
counts whatever the dates say, and of several of one kind the last one counts. -/
inductive Asks (now : Instant) (name : String) (v : HeaderValue) : Option Cookie → Prop
  /-- A lifetime of nothing. -/
  | ended {value : String} {attributes : List Attribute} {seconds : Int} :
      Spells v name value attributes → LastBy IsLifetime attributes seconds → seconds ≤ 0 →
      Asks now name v none
  /-- A lifetime from now on, without an end if the clock cannot show it. -/
  | lasts {value : String} {attributes : List Attribute} {seconds : Int} :
      Spells v name value attributes → LastBy IsLifetime attributes seconds → 0 < seconds →
      Asks now name v (some ⟨value, now.later? seconds.toNat⟩)
  /-- A date that has passed. -/
  | passed {value : String} {attributes : List Attribute} {t : Instant} :
      Spells v name value attributes → (∀ seconds, ¬ LastBy IsLifetime attributes seconds) →
      LastBy IsDate attributes t → t ≤ now → Asks now name v none
  /-- A date to come. -/
  | comes {value : String} {attributes : List Attribute} {t : Instant} :
      Spells v name value attributes → (∀ seconds, ¬ LastBy IsLifetime attributes seconds) →
      LastBy IsDate attributes t → now < t → Asks now name v (some ⟨value, some t⟩)
  /-- Neither a lifetime nor a date. -/
  | stays {value : String} {attributes : List Attribute} :
      Spells v name value attributes → (∀ seconds, ¬ LastBy IsLifetime attributes seconds) →
      (∀ t, ¬ LastBy IsDate attributes t) → Asks now name v (some ⟨value, none⟩)

variable {now : Instant} {name : String} {v : HeaderValue}

theorem lastBy_isLifetime {attributes : List Attribute} {seconds : Int} :
    LastBy IsLifetime attributes seconds ↔ maxAgeOf attributes = some seconds :=
  lastBy_iff_getLast?

theorem lastBy_isDate {attributes : List Attribute} {t : Instant} :
    LastBy IsDate attributes t ↔ expiresOf attributes = some t :=
  lastBy_iff_getLast?

/-- What is read from a value at a time, which has to be a text. -/
def ofValue? (v : HeaderValue) (now : Instant) : Option SetCookie := v.text?.bind (parse? · now)

theorem ofValue?_eq_some {c : SetCookie} : ofValue? v now = some c ↔
    ∃ attributes, Spells v c.name c.value attributes ∧ c.expires = expiry attributes now := by
  constructor
  · intro read
    obtain ⟨s, text, read⟩ := Option.bind_eq_some_iff.mp read
    unfold parse? at read
    split at read
    · cases read
    · rename_i first segments split
      obtain ⟨⟨name, value⟩, named, rfl⟩ := Option.map_eq_some_iff.mp read
      unfold nameAndValue? at named
      split at named
      · cases named
      · rename_i key val there
        split at named
        · cases named
        · rename_i hne
          cases named
          exact ⟨_, .intro text split there hne, rfl⟩
  · obtain ⟨name, value, expires⟩ := c
    rintro ⟨attributes, spells, ends⟩
    cases ends
    cases spells with
    | intro text split there hne =>
        refine Option.bind_eq_some_iff.mpr ⟨_, text, ?_⟩
        simp only [parse?, split, nameAndValue?, there, if_neg hne]
        rfl

/-- The cookie that is stored, unless it has expired. -/
def verdict (c : SetCookie) (now : Instant) : Option Cookie :=
  if c.expires.any (· ≤ now) then none else some ⟨c.value, c.expires⟩

theorem later?_any {seconds : Nat} (hpos : 0 < seconds) :
    (now.later? seconds).any (· ≤ now) = false := by
  have later : ¬ now.nanos + seconds * Instant.perSecond ≤ now.nanos := by
    unfold Instant.perSecond
    omega
  by_cases shown : Instant.inRange ⟨now.nanos + seconds * Instant.perSecond⟩ = true
  · rw [Instant.later?, if_pos shown]
    exact decide_eq_false later
  · rw [Instant.later?, if_neg shown]
    rfl

section Verdict

variable {value : String} {attributes : List Attribute}

theorem expiry_of_lifetime {seconds : Int} (lifetime : LastBy IsLifetime attributes seconds) :
    expiry attributes now = if seconds ≤ 0 then some .epoch else now.later? seconds.toNat := by
  rw [expiry, lastBy_isLifetime.mp lifetime]

theorem expiry_of_no_lifetime (unlimited : ∀ seconds, ¬ LastBy IsLifetime attributes seconds) :
    expiry attributes now = expiresOf attributes := by
  have hnone : maxAgeOf attributes = none :=
    Option.eq_none_iff_forall_ne_some.mpr fun t h => unlimited t (lastBy_isLifetime.mpr h)
  rw [expiry, hnone]

theorem verdict_ended {seconds : Int} (clock : .epoch ≤ now)
    (lifetime : LastBy IsLifetime attributes seconds) (nothing : seconds ≤ 0) :
    (SetCookie.mk name value (expiry attributes now)).verdict now = none := by
  rw [expiry_of_lifetime lifetime, if_pos nothing]
  exact if_pos (decide_eq_true clock)

theorem verdict_lasts {seconds : Int} (lifetime : LastBy IsLifetime attributes seconds)
    (something : 0 < seconds) :
    (SetCookie.mk name value (expiry attributes now)).verdict now =
      some ⟨value, now.later? seconds.toNat⟩ := by
  rw [expiry_of_lifetime lifetime, if_neg (Int.not_le.mpr something)]
  exact if_neg (by rw [later?_any (Int.lt_toNat.mpr something)]; exact Bool.false_ne_true)

theorem verdict_passed {t : Instant} (unlimited : ∀ seconds, ¬ LastBy IsLifetime attributes seconds)
    (date : LastBy IsDate attributes t) (passed : t ≤ now) :
    (SetCookie.mk name value (expiry attributes now)).verdict now = none := by
  rw [expiry_of_no_lifetime unlimited, lastBy_isDate.mp date]
  exact if_pos (decide_eq_true passed)

theorem verdict_comes {t : Instant} (unlimited : ∀ seconds, ¬ LastBy IsLifetime attributes seconds)
    (date : LastBy IsDate attributes t) (ahead : now < t) :
    (SetCookie.mk name value (expiry attributes now)).verdict now = some ⟨value, some t⟩ := by
  rw [expiry_of_no_lifetime unlimited, lastBy_isDate.mp date]
  exact if_neg fun passed => Int.not_le.mpr ahead (of_decide_eq_true passed)

theorem verdict_stays (unlimited : ∀ seconds, ¬ LastBy IsLifetime attributes seconds)
    (undated : ∀ t, ¬ LastBy IsDate attributes t) :
    (SetCookie.mk name value (expiry attributes now)).verdict now = some ⟨value, none⟩ := by
  have hnone : expiresOf attributes = none :=
    Option.eq_none_iff_forall_ne_some.mpr fun t h => undated t (lastBy_isDate.mpr h)
  rw [expiry_of_no_lifetime unlimited, hnone]
  rfl

end Verdict

theorem Spells.asks {value : String} {attributes : List Attribute} (clock : .epoch ≤ now)
    (h : Spells v name value attributes) :
    Asks now name v ((SetCookie.mk name value (expiry attributes now)).verdict now) := by
  by_cases limited : ∃ seconds, LastBy IsLifetime attributes seconds
  · obtain ⟨seconds, lifetime⟩ := limited
    by_cases nothing : seconds ≤ 0
    · rw [verdict_ended clock lifetime nothing]
      exact .ended h lifetime nothing
    · have something := Int.not_le.mp nothing
      rw [verdict_lasts lifetime something]
      exact .lasts h lifetime something
  · have unlimited := not_exists.mp limited
    by_cases dated : ∃ t, LastBy IsDate attributes t
    · obtain ⟨t, date⟩ := dated
      by_cases passed : t ≤ now
      · rw [verdict_passed unlimited date passed]
        exact .passed h unlimited date passed
      · have ahead : now < t := Int.not_le.mp passed
        rw [verdict_comes unlimited date ahead]
        exact .comes h unlimited date ahead
    · have undated := not_exists.mp dated
      rw [verdict_stays unlimited undated]
      exact .stays h unlimited undated

theorem Asks.verdict {w : Option Cookie} (clock : .epoch ≤ now) (h : Asks now name v w) :
    ∃ value attributes, Spells v name value attributes ∧
      (SetCookie.mk name value (expiry attributes now)).verdict now = w := by
  cases h with
  | ended spells lifetime nothing => exact ⟨_, _, spells, verdict_ended clock lifetime nothing⟩
  | lasts spells lifetime something => exact ⟨_, _, spells, verdict_lasts lifetime something⟩
  | passed spells unlimited date passed =>
      exact ⟨_, _, spells, verdict_passed unlimited date passed⟩
  | comes spells unlimited date ahead => exact ⟨_, _, spells, verdict_comes unlimited date ahead⟩
  | stays spells unlimited undated => exact ⟨_, _, spells, verdict_stays unlimited undated⟩

/-- A value asks for what is made of it once it is read. -/
theorem asks_iff (clock : .epoch ≤ now) {w : Option Cookie} :
    Asks now name v w ↔
      ∃ c, ofValue? v now = some c ∧ c.name = name ∧ c.verdict now = w := by
  constructor
  · intro asks
    obtain ⟨value, attributes, spells, same⟩ := asks.verdict clock
    exact ⟨_, ofValue?_eq_some.mpr ⟨attributes, spells, rfl⟩, rfl, same⟩
  · rintro ⟨⟨_, value, expires⟩, read, rfl, rfl⟩
    obtain ⟨attributes, spells, ends⟩ := ofValue?_eq_some.mp read
    cases ends
    exact spells.asks clock

end SetCookie

/-! ## Operations on a jar -/

namespace Jar

open SetCookie

inductive Operation where
  | set (name value : String)
  | remove (name : String)
  | clear
  /-- The cookies of a response are taken in, at a time. -/
  | extract (headers : Headers) (now : Instant)

namespace Operation

def on (jar : Jar) : Operation → Jar
  | set name value => jar.set name value
  | remove name => jar.erase name
  | clear => .empty
  | extract headers now => jar.extract headers now

/-- What an operation decides about a name: the cookie to be stored, or that there is none. -/
inductive Decides (name : String) : Operation → Option Cookie → Prop
  | set (value : String) : Decides name (.set name value) (some ⟨value, none⟩)
  | remove : Decides name (.remove name) none
  | clear : Decides name .clear none
  | extract {headers : Headers} {now : Instant} {v : Option Cookie} :
      LastBy (Asks now name) (headers.values .setCookie) v →
      Decides name (.extract headers now) v

end Operation

def behind (jar : Jar) (ops : List Operation) : Jar := ops.foldl Operation.on jar

variable {jar : Jar} {name : String} {now : Instant}

theorem find?_apply (jar : Jar) (c : SetCookie) (now : Instant) (name : String) :
    (jar.apply c now).find? name = if name = c.name then c.verdict now else jar.find? name := by
  unfold apply SetCookie.verdict
  split
  · exact find?_erase jar c.name name
  · exact find?_insert jar c.name name _

/-- The jar after one value, which may be no text. -/
def takeIn (now : Instant) (jar : Jar) (v : HeaderValue) : Jar :=
  match ofValue? v now with
  | some c => jar.apply c now
  | none => jar

theorem extract_eq (jar : Jar) (headers : Headers) (now : Instant) :
    jar.extract headers now = (headers.values .setCookie).foldl (takeIn now) jar := by
  unfold extract Headers.texts
  rw [List.foldl_filterMap]
  congr 1
  funext jar v
  unfold takeIn extractValue ofValue?
  cases v.text? <;> rfl

theorem find?_takeIn (clock : .epoch ≤ now) (v : HeaderValue) (jar : Jar) (w : Option Cookie) :
    (takeIn now jar v).find? name = w ↔
      Asks now name v w ∨ (∀ w, ¬ Asks now name v w) ∧ jar.find? name = w := by
  simp only [asks_iff clock, takeIn]
  cases ofValue? v now with
  | none => simp
  | some c =>
      by_cases here : name = c.name
      · simp [find?_apply, here]
      · have other : ¬ c.name = name := fun same => here same.symm
        simp [find?_apply, here, other]

section Decides

variable {other value : String} {headers : Headers} {v : Option Cookie}

theorem decides_set :
    (Operation.set other value).Decides name v ↔ name = other ∧ some ⟨value, none⟩ = v := by
  constructor
  · rintro ⟨⟩
    exact ⟨rfl, rfl⟩
  · rintro ⟨rfl, rfl⟩
    exact .set value

theorem decides_remove : (Operation.remove other).Decides name v ↔ name = other ∧ none = v := by
  constructor
  · rintro ⟨⟩
    exact ⟨rfl, rfl⟩
  · rintro ⟨rfl, rfl⟩
    exact .remove

theorem decides_clear : Operation.clear.Decides name v ↔ none = v := by
  constructor
  · rintro ⟨⟩
    rfl
  · rintro rfl
    exact .clear

theorem decides_extract : (Operation.extract headers now).Decides name v ↔
    LastBy (Asks now name) (headers.values .setCookie) v := by
  constructor
  · rintro ⟨⟩
    assumption
  · exact .extract

end Decides

theorem find?_on (op : Operation) (clock : ∀ headers now, op = .extract headers now → .epoch ≤ now)
    (jar : Jar) (v : Option Cookie) :
    (op.on jar).find? name = v ↔
      op.Decides name v ∨ (∀ w, ¬ op.Decides name w) ∧ jar.find? name = v := by
  cases op with
  | set other value =>
      by_cases here : name = other <;>
        simp [Operation.on, Jar.set, find?_insert, decides_set, here]
  | remove other =>
      by_cases here : name = other <;>
        simp [Operation.on, find?_erase, decides_remove, here]
  | clear => simp [Operation.on, find?, empty, decides_clear]
  | extract headers now =>
      simp only [decides_extract, forall_not_lastBy]
      rw [Operation.on, extract_eq]
      exact settles_foldl (takeIn now) (find? · name)
        (fun x _ jar v => find?_takeIn (clock headers now rfl) x jar v) jar v

/-- What a run does with the cookie of a name. -/
theorem find?_behind {ops : List Operation}
    (clock : ∀ headers now, .extract headers now ∈ ops → .epoch ≤ now) (jar : Jar)
    (v : Option Cookie) :
    (behind jar ops).find? name = v ↔
      Settles (Operation.Decides name) ops (jar.find? name) v :=
  settles_foldl Operation.on (find? · name)
    (fun op among => find?_on op fun headers now same => clock headers now (same ▸ among)) jar v

/-! ## What is sent -/

theorem ascending_live (jar : Jar) (now : Instant) : (jar.live now).Pairwise (·.1 < ·.1) :=
  List.pairwise_map.mpr (jar.ascending.filter _)

theorem isLive_iff {c : Cookie} : c.isLive now = true ↔ ∀ t, c.expires = some t → now < t := by
  obtain ⟨value, expires⟩ := c
  cases expires <;> simp [Cookie.isLive]

theorem mem_live {value : String} : (name, value) ∈ jar.live now ↔
    ∃ c, jar.find? name = some c ∧ c.value = value ∧ ∀ t, c.expires = some t → now < t := by
  simp only [live, List.mem_map, List.mem_filter, Prod.exists, mem_entries, isLive_iff,
    Prod.mk.injEq]
  constructor
  · rintro ⟨_, c, ⟨there, alive⟩, rfl, rfl⟩
    exact ⟨c, there, rfl, alive⟩
  · rintro ⟨c, there, rfl, alive⟩
    exact ⟨name, c, ⟨there, alive⟩, rfl, rfl⟩

theorem render_eq (jar : Jar) (now : Instant) :
    jar.render now =
      if jar.live now = [] then none
      else some (join "; " ((jar.live now).map fun (name, value) => name ++ "=" ++ value)) := by
  unfold render
  cases jar.live now <;> rfl

/-- Behind every run the cookie of a name is the one that the last operation decided on that decided
about this name, and at every time those are sent that have not expired by then, in ascending order
of names.  The clock may jump, as long as it stays behind the start of 1970. -/
theorem jar_by_last_decision (jar : Jar) (ops : List Operation)
    (clock : ∀ headers now, .extract headers now ∈ ops → .epoch ≤ now) :
    (∀ name v, (behind jar ops).find? name = v ↔
      LastBy (Operation.Decides name) ops v ∨
        (∀ op ∈ ops, ∀ w, ¬ op.Decides name w) ∧ jar.find? name = v) ∧
    ∀ t,
      (∀ name value, (name, value) ∈ (behind jar ops).live t ↔
        ∃ c, (behind jar ops).find? name = some c ∧ c.value = value ∧
          ∀ e, c.expires = some e → t < e) ∧
      ((behind jar ops).live t).Pairwise (·.1 < ·.1) ∧
      (behind jar ops).render t =
        if (behind jar ops).live t = [] then none
        else some (join "; "
          (((behind jar ops).live t).map fun (name, value) => name ++ "=" ++ value)) :=
  ⟨fun _ v => find?_behind clock jar v,
    fun t => ⟨fun _ _ => mem_live, ascending_live _ t, render_eq _ t⟩⟩

/-- The fields of a response that sets these cookies. -/
def setting (values : List String) : Headers :=
  ⟨values.flatMap fun s => (HeaderValue.ofText s).toOption.toList.map (HeaderName.setCookie, ·)⟩

/-- A cookie is set, a response lets one last and dates another, and one that comes earlier by the
clock takes back the first. -/
def shifting : List Operation :=
  [.set "kept" "0",
    .extract
      (setting
        ["late=1; max-age=10; Expires=0", "dated=2;expires=Thu, 01 Jan 1970 00:00:25 GMT"])
      (.ofSeconds 20 0),
    .extract (setting ["kept; max-age=9", "kept=3; Max-Age=0"]) .epoch]

theorem jar_by_last_decision_of_shifting :
    (∀ headers now, .extract headers now ∈ shifting → .epoch ≤ now) ∧
    LastBy (Operation.Decides "late") shifting (some ⟨"1", some (.ofSeconds 30 0)⟩) ∧
    (behind .empty shifting).find? "kept" = none ∧
    (behind .empty shifting).render (.ofSeconds 24 0) = some "dated=2; late=1" ∧
    ("dated", "2") ∉ (behind .empty shifting).live (.ofSeconds 25 0) := by
  have clock : ∀ headers now, .extract headers now ∈ shifting → .epoch ≤ now := by
    intro headers now among
    simp only [shifting, List.mem_cons, List.not_mem_nil, reduceCtorEq, Operation.extract.injEq,
      or_false, false_or] at among
    rcases among with ⟨-, rfl⟩ | ⟨-, rfl⟩ <;> decide
  obtain ⟨decided, sent⟩ := jar_by_last_decision .empty shifting clock
  have late := (decided "late" (some ⟨"1", some (.ofSeconds 30 0)⟩)).mp (by decide +kernel)
  obtain ⟨shown, -, -⟩ := sent (.ofSeconds 25 0)
  refine ⟨clock, late.resolve_right fun ⟨_, before⟩ => ?_, by decide +kernel, by decide +kernel, ?_⟩
  · cases before
  · rw [shown]
    rintro ⟨c, there, -, alive⟩
    have dated : (behind .empty shifting).find? "dated" =
        some ⟨"2", some (.ofSeconds 25 0)⟩ := by decide +kernel
    rw [dated] at there
    cases there
    exact absurd (alive _ rfl) (by decide)

end Jar

end HttpClient
