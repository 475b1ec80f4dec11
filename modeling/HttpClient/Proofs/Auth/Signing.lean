/-
# What the built-in ways to authenticate write

Basic and digest authentication and a file of logins write one field of a request,
`Authorization`, if they write anything.  No other field is changed, and neither is
anything else that a request holds: not its content, and not whether its cookies came
from the jar.
-/
import HttpClient.Auth.Flow

namespace HttpClient

/-- Two requests have the same method, url and body. -/
structure Request.SameContent (r q : Request) : Prop where
  method : q.method = r.method
  url : q.url = r.url
  body : q.body = r.body

theorem Request.SameContent.refl (r : Request) : r.SameContent r := ⟨rfl, rfl, rfl⟩

theorem Request.SameContent.trans {r p q : Request} (h : r.SameContent p) (h' : p.SameContent q) :
    r.SameContent q :=
  ⟨h'.method.trans h.method, h'.url.trans h.url, h'.body.trans h.body⟩

/-- The second request is the first one, but for its `Authorization`. -/
structure Request.Signed (r q : Request) : Prop where
  content : r.SameContent q
  fields : ∀ n, n ≠ .authorization → q.headers.values n = r.headers.values n
  mark : q.cookieFromJar = r.cookieFromJar

theorem Request.Signed.refl (r : Request) : r.Signed r := ⟨.refl r, fun _ _ => rfl, rfl⟩

theorem Request.withAuthorization_signed {r q : Request} {value : String}
    (h : r.withAuthorization value = .ok q) : r.Signed q := by
  unfold withAuthorization at h
  cases written : HeaderValue.ofText value with
  | error e =>
      rw [written] at h
      cases h
  | ok v =>
      rw [written] at h
      cases h
      exact ⟨⟨rfl, rfl, rfl⟩, fun n other => by rw [Headers.values_set, if_neg other], rfl⟩

namespace Auth

theorem Edited.toExcept_ok {e : Edited} {q : Request} (h : e.toExcept = .ok q) :
    e.failure = none ∧ e.request = q := by
  unfold toExcept at h
  split at h
  · rename_i unbroken
    cases h
    exact ⟨unbroken, rfl⟩
  · cases h

/-- The way is one of those that are built in. -/
def isBuiltIn : Auth → Bool
  | .basic _ | .digest _ | .netRc _ => true
  | .edit _ | .plan _ => false

theorem NetRc.apply_signed {n : NetRc} {r q : Request} (h : n.apply r = .ok q) : r.Signed q := by
  unfold NetRc.apply at h
  split at h
  · exact Request.withAuthorization_signed h
  · cases h
    exact .refl r

theorem Digest.Account.authorize_signed {a : Digest.Account} {r q : Request} {s : Digest.Store}
    (h : (a.authorize r s).1 = .ok (some q)) : r.Signed q := by
  unfold authorize at h
  split at h
  · cases h
  · split at h
    · rename_i answer _
      cases made : r.withAuthorization answer.text with
      | error e =>
          rw [made] at h
          cases h
      | ok p =>
          rw [made] at h
          cases h
          exact Request.withAuthorization_signed made
    · cases h

namespace Flow

/-- The flow only signs requests, now and in all rounds to come. -/
def Signs : Flow → Prop
  | .none | .digest _ _ => True
  | .once change => ∀ j r q, (change j r).toExcept = .ok q → r.Signed q
  | .plan _ _ _ => False

theorem ofAuth_signs {auth : Option Auth} (h : ∀ a, auth = some a → a.isBuiltIn = true) :
    (ofAuth auth).Signs := by
  have once {apply : Request → Except Error Request}
      (signs : ∀ r q, apply r = .ok q → r.Signed q) :
      ∀ (_ : Journal) r q, (Edited.ofExcept r (apply r)).toExcept = .ok q → r.Signed q := by
    intro _ r q made
    cases changed : apply r with
    | error e =>
        rw [changed] at made
        cases made
    | ok q' =>
        rw [changed] at made
        cases made
        exact signs r q' changed
  cases auth with
  | none => trivial
  | some a =>
      have builtIn := h a rfl
      cases a with
      | basic login => exact once fun _ _ => Request.withAuthorization_signed
      | digest account => trivial
      | netRc file => exact once fun _ _ => NetRc.apply_signed
      | edit change => cases builtIn
      | plan p => cases builtIn

theorem start_signs {f : Flow} {j : Journal} {r q : Request} {s : Digest.Store} (signs : f.Signs)
    (h : (f.start j r s).1.toExcept = .ok q) : r.Signed q := by
  cases f with
  | none =>
      cases h
      exact .refl r
  | once change => exact signs j r q h
  | digest account answered =>
      cases found : account.authorize r s with
      | mk outcome s' =>
          simp only [start, found] at h
          cases outcome with
          | error e => cases h
          | ok answered =>
              cases answered with
              | none =>
                  cases h
                  exact .refl r
              | some p =>
                  cases h
                  exact Digest.Account.authorize_signed (by rw [found])
  | plan p taken rounds => cases signs

/-- A flow that signs requests does so when it is shown a response, and goes on as one that does. -/
theorem resume_signs {f : Flow} (signs : f.Signs) (j : Journal) (r : Request) (response : Response)
    (s : Digest.Store) :
    r.Signed (f.resume j r response s).request ∧ (f.resume j r response s).flow.Signs := by
  cases f with
  | none => exact ⟨.refl r, trivial⟩
  | once change => exact ⟨.refl r, signs⟩
  | digest account answered =>
      simp only [resume]
      split
      · exact ⟨.refl r, trivial⟩
      · split
        · exact ⟨.refl r, trivial⟩
        · simp only [answer]
          split
          · exact ⟨.refl r, trivial⟩
          · split
            · rename_i proved _ made
              refine ⟨?_, trivial⟩
              cases proved with
              | none => exact .refl r
              | some q => exact Digest.Account.authorize_signed (by rw [made]; rfl)
            · exact ⟨.refl r, trivial⟩
  | plan p taken rounds => cases signs

end Flow

end Auth

end HttpClient
