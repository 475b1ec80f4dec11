/-
# Whose cookies a request has

A request remembers by one mark whether its `Cookie` field is the jar's.  Applying the jar
sets the mark when it writes the field and takes it back when it leaves the field out; the
mark is what keeps the jar from replacing cookies that somebody else wrote.  Setting and
appending fields do not touch the mark.

So a field that somebody writes before the jar does stays as it is written (`after_of_own`).
Behind a field that the jar wrote, whatever is set or appended counts as the jar's, and goes
when the jar is applied again (`follow_none_of_marked`, `follow_some_of_marked`).  Which of
the two it is can be told from the steps (`fromJar_iff`), and with it what becomes of a
value (`Fate`).
-/
import HttpClient.Message.Request
import HttpClient.Proofs.Last

namespace HttpClient

/-- What is done with the fields of a request. -/
inductive HeaderStep where
  | set (name : String) (value : Bytes)
  | append (name : String) (value : Bytes)
  /-- The jar is applied, which renders as given. -/
  | jar (rendered : Option String)

namespace HeaderStep

/-- The value, where name and value make a field and it is the one of the cookies. -/
def cookie? (name : String) (value : Bytes) : Option HeaderValue :=
  (Request.field name value).toOption.bind fun (n, v) => if n = .cookie then some v else none

/-- The value that the cookies are set to. -/
def set? : HeaderStep → Option HeaderValue
  | .set name value => cookie? name value
  | _ => none

/-- The value that is appended to the cookies. -/
def appended? : HeaderStep → Option HeaderValue
  | .append name value => cookie? name value
  | _ => none

/-- Somebody else than the jar does it. -/
def isExplicit : HeaderStep → Bool
  | .jar _ => false
  | _ => true

end HeaderStep

namespace Request

/-- The request behind a step. A step that fails leaves it as it is. -/
def step (r : Request) : HeaderStep → Request
  | .set name value => (r.setHeader name value).toOption.getD r
  | .append name value => (r.appendHeader name value).toOption.getD r
  | .jar rendered => (r.applyJarCookie rendered).toOption.getD r

def after (r : Request) (steps : List HeaderStep) : Request := steps.foldl step r

end Request

/-! ## The field -/

/-- The cookies of a request, and the mark. -/
structure CookieField where
  values : List HeaderValue
  fromJar : Bool

def Request.cookieField (r : Request) : CookieField := ⟨r.headers.values .cookie, r.cookieFromJar⟩

namespace CookieField

open HeaderStep

/-- The field when the jar is applied. -/
def follow (f : CookieField) (rendered : Option String) : CookieField :=
  if f.values ≠ [] ∧ f.fromJar = false then f
  else
    match rendered with
    | none => ⟨[], false⟩
    | some s =>
      match HeaderValue.ofText s with
      | .ok v => ⟨[v], true⟩
      | .error _ => f

def on (f : CookieField) : HeaderStep → CookieField
  | .set name value => (cookie? name value).elim f fun v => ⟨[v], f.fromJar⟩
  | .append name value => (cookie? name value).elim f fun v => ⟨f.values ++ [v], f.fromJar⟩
  | .jar rendered => f.follow rendered

def after (f : CookieField) (steps : List HeaderStep) : CookieField := steps.foldl on f

variable {f : CookieField} {steps : List HeaderStep}

@[simp] theorem after_nil : f.after [] = f := rfl

@[simp] theorem after_cons (step : HeaderStep) :
    f.after (step :: steps) = (f.on step).after steps := rfl

theorem after_append (more : List HeaderStep) :
    f.after (steps ++ more) = (f.after steps).after more := List.foldl_append

end CookieField

namespace Request

open HeaderStep

theorem cookieField_write (r : Request) (name : String) (value : Bytes)
    (write : Headers → HeaderName → HeaderValue → Headers)
    (values : List HeaderValue → HeaderValue → List HeaderValue)
    (writes : ∀ h n v, (write h n v).values .cookie =
      if .cookie = n then values (h.values .cookie) v else h.values .cookie) :
    ((do
      let (n, v) ← field name value
      return { r with headers := write r.headers n v } : Except Error Request).toOption.getD
        r).cookieField =
      (cookie? name value).elim r.cookieField fun v =>
        ⟨values (r.headers.values .cookie) v, r.cookieFromJar⟩ := by
  unfold cookie?
  cases field name value with
  | error e => rfl
  | ok made =>
      obtain ⟨n, v⟩ := made
      show CookieField.mk ((write r.headers n v).values .cookie) r.cookieFromJar = _
      rw [writes]
      by_cases cookie : n = .cookie
      · simp [Except.toOption, cookie]
      · have other : ¬ HeaderName.cookie = n := fun same => cookie same.symm
        simp [Except.toOption, cookie, other, cookieField]

theorem cookieField_jar (r : Request) (rendered : Option String) :
    ((r.applyJarCookie rendered).toOption.getD r).cookieField = r.cookieField.follow rendered := by
  have itsOwn : (r.headers.contains .cookie && !r.cookieFromJar) = true ↔
      r.cookieField.values ≠ [] ∧ r.cookieField.fromJar = false := by
    rw [Bool.and_eq_true, Headers.contains_iff_values, Bool.not_eq_true']
    rfl
  unfold applyJarCookie CookieField.follow
  by_cases own : r.cookieField.values ≠ [] ∧ r.cookieField.fromJar = false
  · rw [if_pos (itsOwn.mpr own), if_pos own]
    rfl
  · rw [if_neg (mt itsOwn.mp own), if_neg own]
    cases rendered with
    | none => simp [Except.toOption, cookieField, Headers.values_erase]
    | some s =>
        cases written : HeaderValue.ofText s with
        | error e => simp [written, bind, Except.bind, Except.toOption]
        | ok v =>
            simp [written, bind, Except.bind, pure, Except.pure, Except.toOption, cookieField,
              Headers.values_set]

theorem cookieField_step (r : Request) (s : HeaderStep) :
    (r.step s).cookieField = r.cookieField.on s := by
  cases s with
  | set name value =>
      exact r.cookieField_write name value Headers.set (fun _ v => [v])
        fun _ _ _ => Headers.values_set ..
  | append name value =>
      exact r.cookieField_write name value Headers.append (fun vs v => vs ++ [v])
        fun _ _ _ => Headers.values_append ..
  | jar rendered => exact r.cookieField_jar rendered

theorem cookieField_after (r : Request) (steps : List HeaderStep) :
    (r.after steps).cookieField = r.cookieField.after steps := by
  induction steps generalizing r with
  | nil => rfl
  | cons s rest ih =>
      show ((r.step s).after rest).cookieField = (r.cookieField.on s).after rest
      rw [ih, cookieField_step]

end Request

/-! ## While the jar has not written -/

namespace CookieField

open HeaderStep

variable {f : CookieField} {steps : List HeaderStep}

theorem follow_of_own (there : f.values ≠ []) (own : f.fromJar = false)
    (rendered : Option String) : f.follow rendered = f := if_pos ⟨there, own⟩

theorem after_of_own (there : f.values ≠ []) (own : f.fromJar = false)
    (unset : ∀ s ∈ steps, s.set? = none) :
    f.after steps = ⟨f.values ++ steps.filterMap appended?, false⟩ := by
  induction steps generalizing f with
  | nil =>
      obtain ⟨values, fromJar⟩ := f
      cases own
      simp
  | cons s rest ih =>
      obtain ⟨first, others⟩ := List.forall_mem_cons.mp unset
      rw [after_cons]
      cases s with
      | set name value =>
          have foreign : cookie? name value = none := first
          simp only [on, foreign, Option.elim_none, ih there own others]
          rfl
      | append name value =>
          cases written : cookie? name value with
          | none =>
              simp only [on, written, Option.elim_none, ih there own others]
              simp [appended?, written]
          | some v =>
              have more : f.values ++ [v] ≠ [] := by simp
              simp only [on, written, Option.elim_some, ih (f := ⟨_, _⟩) more own others]
              simp [appended?, written]
      | jar rendered =>
          rw [on, follow_of_own there own, ih there own others]
          rfl

/-! ## Once the jar has written -/

theorem fromJar_on_of_isExplicit {s : HeaderStep} (h : s.isExplicit = true) :
    (f.on s).fromJar = f.fromJar := by
  cases s with
  | set name value =>
      show ((cookie? name value).elim f _).fromJar = _
      cases cookie? name value <;> rfl
  | append name value =>
      show ((cookie? name value).elim f _).fromJar = _
      cases cookie? name value <;> rfl
  | jar rendered => cases h

theorem fromJar_after_of_isExplicit (all : ∀ s ∈ steps, s.isExplicit = true) :
    (f.after steps).fromJar = f.fromJar := by
  induction steps generalizing f with
  | nil => rfl
  | cons s rest ih =>
      obtain ⟨first, others⟩ := List.forall_mem_cons.mp all
      rw [after_cons, ih others, fromJar_on_of_isExplicit first]

theorem follow_none_of_marked (marked : f.fromJar = true) : f.follow none = ⟨[], false⟩ :=
  if_neg (by simp [marked])

theorem follow_some_of_marked {s : String} {v : HeaderValue} (marked : f.fromJar = true)
    (written : HeaderValue.ofText s = .ok v) : f.follow (some s) = ⟨[v], true⟩ := by
  rw [follow, if_neg (by simp [marked])]
  simp only [written]

end CookieField

namespace Request

variable {r : Request} {steps : List HeaderStep}

/-- At some time the jar found no cookies and wrote its own, and since then it did not leave them
out. -/
def JarWrote (r : Request) (steps : List HeaderStep) : Prop :=
  ∃ earlier s v later, steps = earlier ++ .jar (some s) :: later ∧ HeaderValue.ofText s = .ok v ∧
    (r.after earlier).headers.values .cookie = [] ∧ .jar none ∉ later

theorem after_concat (r : Request) (steps : List HeaderStep) (s : HeaderStep) :
    r.after (steps ++ [s]) = (r.after steps).step s := by
  rw [after, List.foldl_append]
  rfl

theorem jarWrote_concat {x : HeaderStep} : r.JarWrote (steps ++ [x]) ↔
    r.JarWrote steps ∧ x ≠ .jar none ∨
      ∃ s v, x = .jar (some s) ∧ HeaderValue.ofText s = .ok v ∧
        (r.after steps).headers.values .cookie = [] := by
  constructor
  · rintro ⟨earlier, s, v, later, split, written, hnone, unerased⟩
    rcases concat_eq_iff.mp split with ⟨-, rfl, rfl⟩ | ⟨rest, rfl, parts⟩
    · exact .inr ⟨s, v, rfl, written, hnone⟩
    · refine .inl ⟨⟨earlier, s, v, rest, parts, written, hnone, fun there => ?_⟩, ?_⟩
      · exact unerased (List.mem_append_left _ there)
      · rintro rfl
        exact unerased (List.mem_append_right _ List.mem_cons_self)
  · rintro (⟨⟨earlier, s, v, later, rfl, written, hnone, unerased⟩, other⟩ |
      ⟨s, v, rfl, written, hnone⟩)
    · refine ⟨earlier, s, v, later ++ [x], by simp, written, hnone, fun there => ?_⟩
      rcases List.mem_append.mp there with before | last
      · exact unerased before
      · exact other (List.mem_singleton.mp last).symm
    · exact ⟨steps, s, v, [], rfl, written, hnone, List.not_mem_nil⟩

/-- The mark says that the jar wrote the field; it stays when somebody else writes it. -/
theorem fromJar_iff (fresh : r.cookieFromJar = false) :
    (r.after steps).cookieFromJar = true ↔ r.JarWrote steps := by
  induction steps using List.reverseRecOn with
  | nil =>
      constructor
      · intro marked
        exact absurd (marked.symm.trans fresh) Bool.noConfusion
      · rintro ⟨earlier, s, v, later, split, -⟩
        simp at split
  | append_singleton steps x ih =>
      have mark : (r.after (steps ++ [x])).cookieFromJar =
          ((r.after steps).cookieField.on x).fromJar := by
        rw [after_concat, ← cookieField_step]
        rfl
      rw [mark, jarWrote_concat, ← ih]
      cases x with
      | set name value | append name value =>
          rw [CookieField.fromJar_on_of_isExplicit rfl]
          simp [cookieField]
      | jar rendered =>
          show ((r.after steps).cookieField.follow rendered).fromJar = true ↔ _
          unfold CookieField.follow
          split
          · rename_i own
            obtain ⟨there, unmarked⟩ : (r.after steps).headers.values .cookie ≠ [] ∧
              (r.after steps).cookieFromJar = false := own
            simp [cookieField, there, unmarked]
          · rename_i follows
            have follows : (r.after steps).headers.values .cookie = [] ∨
                (r.after steps).cookieFromJar = true := by
              simpa [cookieField, imp_iff_not_or] using follows
            cases rendered with
            | none => simp
            | some s =>
                cases written : HeaderValue.ofText s with
                | error e => simp [cookieField, written]
                | ok v => simp [written, follows.symm]

/-! ## Until somebody else writes it again -/

theorem after_append (r : Request) (steps more : List HeaderStep) :
    r.after (steps ++ more) = (r.after steps).after more := List.foldl_append

theorem cookieField_of_write {write : HeaderStep} {v : HeaderValue}
    (writes : write.set? = some v ∨ write.appended? = some v) (r : Request) :
    v ∈ (r.step write).cookieField.values ∧
      (r.step write).cookieField.fromJar = r.cookieField.fromJar := by
  rw [cookieField_step]
  cases write with
  | set name value =>
      have written : HeaderStep.cookie? name value = some v := writes.resolve_right nofun
      simp [CookieField.on, written]
  | append name value =>
      have written : HeaderStep.cookie? name value = some v := writes.resolve_left nofun
      simp [CookieField.on, written]
  | jar rendered => simp [HeaderStep.set?, HeaderStep.appended?] at writes

/-- What becomes of a value that a step writes into the cookies of a request, behind these. -/
structure Fate (r : Request) (before : List HeaderStep) (write : HeaderStep) (v : HeaderValue) :
    Prop where
  there : v ∈ (r.after (before ++ [write])).headers.values .cookie
  /-- The cookies stay, whatever else is appended and however often the jar is applied, until they
  are set again, if, and only if, the jar had not written them before. -/
  stays : (∀ later, (∀ s ∈ later, s.set? = none) →
      (r.after (before ++ write :: later)).headers.values .cookie =
        (r.after (before ++ [write])).headers.values .cookie ++
          later.filterMap HeaderStep.appended?) ↔
    ¬ r.JarWrote before
  /-- If it had, they go when the jar is applied again, and it has the field for itself. -/
  goes : r.JarWrote before → ∀ later, (∀ s ∈ later, s.isExplicit = true) →
    (r.after (before ++ write :: later ++ [.jar none])).headers.values .cookie = [] ∧
    ∀ s w, HeaderValue.ofText s = .ok w →
      (r.after (before ++ write :: later ++ [.jar (some s)])).headers.values .cookie = [w]

theorem fate (fresh : r.cookieFromJar = false) (before : List HeaderStep) {write : HeaderStep}
    {v : HeaderValue} (writes : write.set? = some v ∨ write.appended? = some v) :
    r.Fate before write v := by
  obtain ⟨there, mark⟩ := cookieField_of_write writes (r.after before)
  rw [← after_concat] at there mark
  set q := r.after (before ++ [write]) with behind
  have onward (later : List HeaderStep) :
      (r.after (before ++ write :: later)).cookieField = q.cookieField.after later := by
    rw [List.append_cons, after_append, cookieField_after]
  have holds : q.cookieField.values ≠ [] := List.ne_nil_of_mem there
  have marked : q.cookieField.fromJar = true ↔ r.JarWrote before := by
    rw [mark]
    exact fromJar_iff fresh
  refine ⟨there, ⟨fun stays wrote => ?_, fun unwritten later unset => ?_⟩,
    fun wrote later all => ?_⟩
  · -- the jar may have nothing to send when it is applied
    have kept := stays [.jar none] (by simp [HeaderStep.set?])
    have gone := congrArg CookieField.values (onward [.jar none])
    rw [CookieField.after_cons, CookieField.on,
      CookieField.follow_none_of_marked (marked.mpr wrote)] at gone
    exact holds ((List.append_eq_nil_iff.mp (kept.symm.trans gone)).1)
  · have own : q.cookieField.fromJar = false := by
      rw [← Bool.not_eq_true, marked]
      exact unwritten
    exact (congrArg CookieField.values (onward later)).trans
      (congrArg CookieField.values (CookieField.after_of_own holds own unset))
  · have still : (q.cookieField.after later).fromJar = true := by
      rw [CookieField.fromJar_after_of_isExplicit all]
      exact marked.mpr wrote
    have applied (rendered : Option String) :
        (r.after (before ++ write :: later ++ [.jar rendered])).cookieField =
          (q.cookieField.after later).follow rendered := by
      rw [after_concat, cookieField_step, onward]
      rfl
    refine ⟨congrArg CookieField.values ((applied none).trans
      (CookieField.follow_none_of_marked still)), fun s w written => ?_⟩
    exact congrArg CookieField.values ((applied (some s)).trans
      (CookieField.follow_some_of_marked still written))

end Request

end HttpClient
