/-
# What authentication does to the content of a request

The ways to authenticate that are built in write the `Authorization` field and touch
nothing else: method, url and body of a request, its content, stay as they are.  An
edit or a plan may do with a request what it likes; those that keep its content too
are singled out by `KeepsContent`.  Such a flow keeps, of every request, that another
one has its content.
-/
import HttpClient.Proofs.Auth.Keeping

namespace HttpClient.Auth

/-- An edit that does not break off keeps the content. -/
def Edited.KeepsContent (before : Request) (e : Edited) : Prop :=
  e.failure = none → before.SameContent e.request

theorem Edited.ofExcept_keeps {r : Request} {changed : Except Error Request}
    (h : ∀ q, changed = .ok q → r.SameContent q) : (Edited.ofExcept r changed).KeepsContent r := by
  intro unbroken
  cases changed with
  | error e => cases unbroken
  | ok q => exact h q rfl

/-- A way to authenticate that leaves method, url and body of every request alone. -/
def KeepsContent : Auth → Prop
  | .basic _ | .digest _ | .netRc _ => True
  | .edit change => ∀ j r, (change j r).KeepsContent r
  | .plan p => (∀ j r, (p.start j r).KeepsContent r) ∧
      ∀ round ∈ p.rounds, ∀ j r response, (round j r response).edited.KeepsContent r

theorem keepsContent_of_isBuiltIn {a : Auth} (h : a.isBuiltIn = true) : a.KeepsContent := by
  cases a with
  | basic _ | digest _ | netRc _ => trivial
  | edit _ | plan _ => cases h

namespace Flow

/-- The flow leaves the content of the request alone, now and in all rounds to come. -/
def KeepsContent : Flow → Prop
  | .none | .digest _ _ => True
  | .once change => ∀ j r, (change j r).KeepsContent r
  | .plan p _ rounds => (∀ j r, (p.start j r).KeepsContent r) ∧
      ∀ round ∈ rounds, ∀ j r response, (round j r response).edited.KeepsContent r

theorem ofAuth_keeps {auth : Option Auth} (h : ∀ a, auth = some a → a.KeepsContent) :
    (ofAuth auth).KeepsContent := by
  cases auth with
  | none => trivial
  | some a =>
      have keeps := h a rfl
      cases a with
      | basic login =>
          refine fun _ r => Edited.ofExcept_keeps fun _ made => ?_
          exact (Request.withAuthorization_signed made).content
      | digest account => trivial
      | netRc file =>
          refine fun _ r => Edited.ofExcept_keeps fun _ made => ?_
          exact (NetRc.apply_signed made).content
      | edit change => exact keeps
      | plan p => exact keeps

theorem keepsContent_iff {f : Flow} :
    f.KeepsContent ↔ ∀ r : Request, f.Keeps (r.SameContent ·) := by
  have edited {before : Request} {e : Edited} :
      e.KeepsContent before ↔ ∀ r : Request, e.Keeps (r.SameContent ·) before := by
    constructor
    · intro keeps r same q made
      obtain ⟨unbroken, rfl⟩ := Edited.toExcept_ok made
      exact same.trans (keeps unbroken)
    · intro keeps unbroken
      exact keeps before (.refl before) e.request (by simp [Edited.toExcept, unbroken])
  cases f with
  | none | digest _ _ => exact ⟨fun _ _ => trivial, fun _ => trivial⟩
  | once change =>
      exact ⟨fun keeps r j before => edited.mp (keeps j before) r,
        fun keeps j before => edited.mpr fun r => keeps r j before⟩
  | plan p taken rounds =>
      constructor
      · rintro ⟨start, all⟩ r
        exact ⟨fun j before => edited.mp (start j before) r,
          fun round there j before response => edited.mp (all round there j before response) r⟩
      · intro keeps
        have plans (r : Request) : Plan.Keeps (r.SameContent ·) p.start rounds := keeps r
        exact ⟨fun j before => edited.mpr fun r => (plans r).start j before,
          fun round there j before response =>
            edited.mpr fun r => (plans r).rounds round there j before response⟩

theorem start_keeps {f : Flow} {j : Journal} {r q : Request} {s : Digest.Store}
    (keeps : f.KeepsContent) (h : (f.start j r s).1.toExcept = .ok q) : r.SameContent q :=
  (keepsContent_iff.mp keeps r).start (fun _ _ signed same => same.trans signed.content) (.refl r) h

/-- A flow that is shown a response keeps the content of the request, and goes on as one that
does. -/
theorem resume_keeps {f : Flow} {j : Journal} {r : Request} {response : Response}
    {s : Digest.Store} {step : Step} (keeps : f.KeepsContent)
    (h : (f.resume j r response s).step = .ok step) :
    r.SameContent (f.resume j r response s).request ∧
      (f.resume j r response s).flow.KeepsContent := by
  constructor
  · exact (keepsContent_iff.mp keeps r).resume (fun _ _ signed same => same.trans signed.content)
      (.refl r) h
  · exact keepsContent_iff.mpr fun r' => (keepsContent_iff.mp keeps r').onward j r response s

end Flow

end HttpClient.Auth
