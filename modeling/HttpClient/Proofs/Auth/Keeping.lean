/-
# What a flow keeps of a request

A property of requests is kept by a way to authenticate if whatever the way makes of a
request that has it has it again.  The ways that are built in keep every property that
does not depend on the `Authorization` field; of an edit or a plan it has to be said.
-/
import HttpClient.Proofs.Auth.Signing

namespace HttpClient.Auth

variable {P : Request → Prop}

/-- An edit that does not break off keeps the property. -/
def Edited.Keeps (P : Request → Prop) (before : Request) (e : Edited) : Prop :=
  P before → ∀ q, e.toExcept = .ok q → P q

/-- All edits of a plan keep the property. -/
structure Plan.Keeps (P : Request → Prop) (start : Edit) (rounds : List Round) : Prop where
  start : ∀ j r, (start j r).Keeps P r
  rounds : ∀ round ∈ rounds, ∀ j r response, (round j r response).edited.Keeps P r

/-- The way to authenticate keeps the property, if signing a request keeps it. -/
def Keeps (P : Request → Prop) : Auth → Prop
  | .basic _ | .digest _ | .netRc _ => True
  | .edit change => ∀ j r, (change j r).Keeps P r
  | .plan p => Plan.Keeps P p.start p.rounds

namespace Flow

/-- The flow keeps the property, now and in all rounds to come, if signing a request keeps it. -/
def Keeps (P : Request → Prop) : Flow → Prop
  | .none | .digest _ _ => True
  | .once change => ∀ j r, (change j r).Keeps P r
  | .plan p _ rounds => Plan.Keeps P p.start rounds

theorem keeps_ofAuth (signed : ∀ r q : Request, r.Signed q → P r → P q) {auth : Option Auth}
    (h : ∀ a, auth = some a → a.Keeps P) : (ofAuth auth).Keeps P := by
  have builtIn (a : Auth) (itsOwn : a.isBuiltIn = true) : (ofAuth (some a)).Keeps P := by
    have signs : (ofAuth (some a)).Signs := ofAuth_signs fun _ same => by
      cases same
      exact itsOwn
    cases a with
    | basic login => exact fun j r holds q made => signed r q (signs j r q made) holds
    | digest account => trivial
    | netRc file => exact fun j r holds q made => signed r q (signs j r q made) holds
    | edit change => cases itsOwn
    | plan p => cases itsOwn
  cases auth with
  | none => trivial
  | some a =>
      cases a with
      | basic login => exact builtIn _ rfl
      | digest account => trivial
      | netRc file => exact builtIn _ rfl
      | edit change => exact h _ rfl
      | plan p => exact h _ rfl

theorem Keeps.start {f : Flow} (signed : ∀ r q : Request, r.Signed q → P r → P q)
    (keeps : f.Keeps P) {j : Journal} {r q : Request} {s : Digest.Store} (holds : P r)
    (h : (f.start j r s).1.toExcept = .ok q) : P q := by
  cases f with
  | none =>
      cases h
      exact holds
  | once change => exact keeps j r holds q h
  | digest account answered =>
      have signs : (Flow.digest account answered).Signs := trivial
      exact signed r q (start_signs signs h) holds
  | plan p taken rounds =>
      obtain ⟨start, -⟩ := keeps
      exact start j r holds q h

theorem Keeps.resume {f : Flow} (signed : ∀ r q : Request, r.Signed q → P r → P q)
    (keeps : f.Keeps P) {j : Journal} {r : Request} {response : Response} {s : Digest.Store}
    {step : Step} (holds : P r) (h : (f.resume j r response s).step = .ok step) :
    P (f.resume j r response s).request := by
  cases f with
  | none => exact holds
  | once change => exact holds
  | digest account answered =>
      have signs : (Flow.digest account answered).Signs := trivial
      obtain ⟨same, -⟩ := resume_signs signs j r response s
      exact signed _ _ same holds
  | plan p taken rounds =>
      cases rounds with
      | nil => exact holds
      | cons round rest =>
          obtain ⟨-, all⟩ := keeps
          cases made : (round j r response).edited.toExcept with
          | error e =>
              simp only [Flow.resume, made, Except.map] at h
              cases h
          | ok q =>
              obtain ⟨-, same⟩ := Edited.toExcept_ok made
              have kept := all round List.mem_cons_self j r response holds q made
              rw [← same] at kept
              exact kept

theorem Keeps.onward {f : Flow} (keeps : f.Keeps P) (j : Journal) (r : Request)
    (response : Response) (s : Digest.Store) : (f.resume j r response s).flow.Keeps P := by
  cases f with
  | none => trivial
  | once change => exact keeps
  | digest account answered =>
      simp only [Flow.resume]
      split
      · trivial
      · split
        · trivial
        · simp only [answer]
          split
          · trivial
          · split
            · trivial
            · trivial
  | plan p taken rounds =>
      cases rounds with
      | nil => exact keeps
      | cons round rest =>
          obtain ⟨start, all⟩ := keeps
          obtain ⟨-, later⟩ := List.forall_mem_cons.mp all
          simp only [Flow.resume]
          split
          · exact ⟨start, later⟩
          · exact ⟨start, all⟩

end Flow

end HttpClient.Auth
