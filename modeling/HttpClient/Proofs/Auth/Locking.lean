/-
# Going to the store one access at a time

The challenges that an account remembers are shared by all its flows, and a flow goes to
them under a lock: it stores a challenge, or it takes a count.  `Access` is what is done
while the lock is held, and `replay` is what becomes of the store access by access.

A flow starts and resumes by computations that go to the store so (`Locking`).  It answers
a challenge by two accesses, and other flows may have their turn between them.  What it
makes of the count that was handed out, it makes outside of the lock.  A computation that
is alone with the store does what the flow does (`start_eq_run`, `resume_eq_run`).

Each access concerns one key, and stays away from all others (`find?_after_of_ne`).
-/
import HttpClient.Auth.Flow

namespace HttpClient.Auth

namespace Digest

/-! ## Accesses -/

/-- What is done to the store while it is locked. -/
inductive Access where
  | store (key : Key) (challenge : Challenge)
  | take (key : Key)
deriving DecidableEq

namespace Access

def key : Access → Key
  | .store k _ => k
  | .take k => k

/-- What an access hands out, and the store behind it. -/
def apply (s : Store) : Access → Option Remembered × Store
  | .store k c => (none, s.store k c)
  | .take k => s.take k

def after (s : Store) (x : Access) : Store := (x.apply s).2

end Access

def replay (s : Store) (xs : List Access) : Store := xs.foldl Access.after s

@[simp] theorem replay_nil (s : Store) : replay s [] = s := rfl

@[simp] theorem replay_cons (s : Store) (x : Access) (xs : List Access) :
    replay s (x :: xs) = replay (x.after s) xs := rfl

@[simp] theorem replay_append (s : Store) (xs ys : List Access) :
    replay s (xs ++ ys) = replay (replay s xs) ys := List.foldl_append

/-! ## What an access does -/

section Accesses

variable {s : Store} {k : Key} {c : Challenge} {m : Remembered}

theorem find?_after_of_ne {x : Access} (s : Store) (other : x.key ≠ k) :
    (x.after s).find? k = s.find? k := by
  have elsewhere (r : Remembered) : (s.put x.key r).find? k = s.find? k := by
    rw [Store.find?_put, if_neg (Ne.symm other)]
  cases x with
  | store j c =>
      show (s.store j c).find? k = _
      unfold Store.store
      split
      · exact elsewhere _
      · exact elsewhere _
  | take j =>
      show (s.take j).2.find? k = _
      unfold Store.take
      split
      · exact elsewhere _
      · rfl

/-- A challenge with the nonce that is remembered goes on with its count, any other begins. -/
theorem find?_after_store (s : Store) (k : Key) (c : Challenge) :
    ((Access.store k c).after s).find? k =
      some ⟨c, match s.find? k with
        | some m => if m.challenge.nonce = c.nonce then m.count else 1
        | none => 1⟩ := by
  show (s.store k c).find? k = _
  cases found : s.find? k with
  | none =>
      have stored : s.store k c = s.put k ⟨c, 1⟩ := by
        unfold Store.store
        rw [found]
      rw [stored, Store.find?_put, if_pos rfl]
  | some m =>
      have stored : s.store k c =
          s.put k ⟨c, if m.challenge.nonce = c.nonce then m.count else 1⟩ := by
        unfold Store.store
        rw [found]
      rw [stored, Store.find?_put, if_pos rfl]

theorem find?_after_store_same (found : s.find? k = some m)
    (same : m.challenge.nonce = c.nonce) :
    ((Access.store k c).after s).find? k = some ⟨c, m.count⟩ := by
  rw [find?_after_store, found]
  simp only [if_pos same]

theorem apply_take (found : s.find? k = some m) :
    ((Access.take k).apply s).1 = some m ∧
      ((Access.take k).after s).find? k = some ⟨m.challenge, m.count + 1⟩ := by
  have taken : s.take k = (some m, s.put k ⟨m.challenge, m.count + 1⟩) := by
    unfold Store.take
    rw [found]
  show (s.take k).1 = some m ∧ (s.take k).2.find? k = _
  rw [taken]
  exact ⟨rfl, by rw [Store.find?_put, if_pos rfl]⟩

theorem apply_take_none (found : s.find? k = none) : (Access.take k).apply s = (none, s) := by
  show s.take k = _
  unfold Store.take
  rw [found]

theorem given_take (s : Store) (k : Key) : ((Access.take k).apply s).1 = s.find? k := by
  cases found : s.find? k with
  | none => rw [apply_take_none found]
  | some m => exact (apply_take found).1

end Accesses

/-! ## Computations -/

/-- A computation that goes to the store one access at a time. -/
inductive Locking (α : Type) where
  | done (result : α)
  /-- The computation goes on with what the access hands out. -/
  | access (what : Access) (next : Option Remembered → Locking α)

namespace Locking

variable {α β : Type}

def map (f : α → β) : Locking α → Locking β
  | done a => done (f a)
  | access what next => access what fun given => (next given).map f

/-- What comes out of a computation that is alone with the store. -/
def run (s : Store) : Locking α → α × Store
  | done a => (a, s)
  | access what next => (next (what.apply s).1).run (what.after s)

theorem run_map (f : α → β) (l : Locking α) (s : Store) :
    (l.map f).run s = (f (l.run s).1, (l.run s).2) := by
  induction l generalizing s with
  | done a => rfl
  | access what next ih => exact ih _ _

end Locking

/-! ## Flows -/

namespace Account

variable (a : Account) (r : Request)

/-- The request with the answer to what was remembered, if something was. -/
def answered : Option Remembered → Except Error (Option Request)
  | none => .ok none
  | some m =>
    match answer a.login m.challenge r.method.text r.url.pathAndQuery m.count
        (a.clientNonce m.count m.challenge.nonce) with
    | .ok answer => (r.withAuthorization answer.text).map some
    | .error f => .error f.error

/-- The count is taken under the lock, and the answer is made outside of it. -/
def authorizing : Locking (Except Error (Option Request)) :=
  .access (.take (a.key r.url)) fun given => .done (a.answered r given)

theorem run_authorizing (s : Store) : (a.authorizing r).run s = a.authorize r s := by
  show (a.answered r (s.take (a.key r.url)).1, (s.take (a.key r.url)).2) = _
  unfold authorize
  split
  · rename_i taken
    rw [taken]
    rfl
  · rename_i taken
    rw [taken]
    rfl

/-- The request that a flow starts with, depending on the answer. -/
def readying : Except Error (Option Request) → Edited
  | .ok answered => ⟨answered.getD r, none⟩
  | .error e => ⟨r, some e⟩

def starting : Locking Edited := (a.authorizing r).map (readying r)

theorem start_eq_run (answered : Bool) (j : Journal) (s : Store) :
    (Flow.digest a answered).start j r s = (a.starting r).run s := by
  rw [starting, Locking.run_map, run_authorizing, Flow.start]
  cases a.authorize r s with
  | mk outcome s' =>
      cases outcome with
      | error e => rfl
      | ok q => cases q <;> rfl

/-- What a flow makes of a response, but for the store. -/
structure Reaction where
  answered : Bool
  request : Request
  step : Except Error Step

/-- What a flow makes of a challenge, depending on the answer. -/
def reacting : Except Error (Option Request) → Reaction
  | .ok answered => ⟨true, answered.getD r, .ok .sendRequest⟩
  | .error e => ⟨false, r, .error e⟩

/-- A flow answers a challenge that is offered: it stores the challenge, then it takes a count. -/
def answering (value : String) : Locking Reaction :=
  match Challenge.parse value with
  | .error fault => .done ⟨false, r, .error fault.error⟩
  | .ok challenge =>
    .access (.store (a.key r.url) challenge) fun _ => (a.authorizing r).map (reacting r)

/-- A flow is shown a response. -/
def resuming (answered : Bool) (response : Response) : Locking Reaction :=
  if answered || response.status ≠ .unauthorized then .done ⟨answered, r, .ok .done⟩
  else
    match offered? response.headers with
    | none => .done ⟨answered, r, .ok .done⟩
    | some value => a.answering r value

/-- The reaction of a flow, with the store. -/
def Reaction.resumed (a : Account) : Reaction × Store → Resumed
  | (x, s) => ⟨.digest a x.answered, x.request, s, x.step⟩

theorem answer_eq_run (value : String) (s : Store) :
    Flow.answer a value r s = Reaction.resumed a ((a.answering r value).run s) := by
  unfold Flow.answer answering
  cases Challenge.parse value with
  | error fault => rfl
  | ok challenge =>
      simp only [Locking.run, Locking.run_map, run_authorizing]
      show _ = Reaction.resumed a (_, (a.authorize r (s.store (a.key r.url) challenge)).2)
      cases authorized : a.authorize r (s.store (a.key r.url) challenge) with
      | mk outcome s' =>
          have alone : a.authorize r ((Access.store (a.key r.url) challenge).after s) =
            (outcome, s') := authorized
          rw [alone]
          cases outcome <;> rfl

theorem resume_eq_run (answered : Bool) (j : Journal) (response : Response) (s : Store) :
    (Flow.digest a answered).resume j r response s =
      Reaction.resumed a ((a.resuming r answered response).run s) := by
  simp only [Flow.resume]
  unfold resuming
  split
  · rfl
  · cases offered? response.headers with
    | none => rfl
    | some value => exact answer_eq_run a r value s

end Account

/-! ## A flow that is challenged -/

namespace Sample

def account : Account := ⟨"d", ⟨"u", "p"⟩, Account.hashedNonce⟩

def asking : Request where
  method := .get
  url := ⟨"http", some ⟨"", none, some (.domain "q.test"), none⟩, "/", none, none⟩

def site : Key := ⟨"d", "q.test"⟩

def challenged (value : String) : Response where
  status := .unauthorized
  headers := ⟨(HeaderValue.ofText value).toOption.toList.map (.wwwAuthenticate, ·)⟩
  url := asking.url

end Sample

end Digest

end HttpClient.Auth
