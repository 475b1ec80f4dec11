/-
# Authentication flows

A way to authenticate is set for a client or for a call.  For each call it makes
a flow: the flow is started on the request, and then it is shown each response
and says whether the request, which it may have changed, is to be sent again.

A flow asks for at most `roundsLeft` more rounds, and each round that it asks for
takes one away, so a call ends whatever the server answers.  A digest flow asks
for one round, behind the first challenge; a plan asks for as many as it lists.
-/
import HttpClient.Auth.Digest
import HttpClient.Auth.NetRc
import HttpClient.Journal

namespace HttpClient.Auth

/-- A request after a change. If the change broke off, this is where it did. -/
structure Edited where
  request : Request
  failure : Option Error := none
deriving DecidableEq

namespace Edited

/-- The outcome of a change that is made as a whole or not at all. -/
def ofExcept (before : Request) : Except Error Request → Edited
  | .ok r => ⟨r, none⟩
  | .error e => ⟨before, some e⟩

/-- Makes changes one after the other up to the first that fails. -/
def chain (r : Request) : List (Request → Except Error Request) → Edited
  | [] => ⟨r, none⟩
  | change :: rest =>
    match change r with
    | .ok r => chain r rest
    | .error e => ⟨r, some e⟩

/-- The request, unless the change broke off. -/
def toExcept (e : Edited) : Except Error Request :=
  match e.failure with
  | none => .ok e.request
  | some error => .error error

end Edited

abbrev Edit := Journal → Request → Edited

/-- What a plan makes of a response. -/
structure Turn where
  /-- The request after the change that the plan makes. -/
  edited : Edited
  /-- The request is to be sent again. -/
  again : Bool
deriving DecidableEq

abbrev Round := Journal → Request → Response → Turn

/-- A way to authenticate that is not built in. -/
structure Plan where
  start : Edit
  /-- The rounds, in the order in which they are taken. -/
  rounds : List Round
  /-- The request body has to be in memory. -/
  buffersRequest : Bool := false
  /-- The response bodies have to be in memory. -/
  buffersResponse : Bool := false

end Auth

open Auth in
/-- A way to authenticate. -/
inductive Auth where
  /-- The login is sent with every request. -/
  | basic (login : Login)
  /-- The login is proved to whoever challenges. -/
  | digest (account : Digest.Account)
  /-- The login for the host is looked up. -/
  | netRc (file : NetRc)
  /-- The request is changed once, before it is sent. -/
  | edit (change : Edit)
  | plan (plan : Plan)

namespace Auth

def describe : Auth → String
  | .basic l => "Basic(" ++ Login.describe "BasicAuth" l.username ++ ")"
  | .digest a => "Digest(" ++ Login.describe "DigestAuth" a.login.username ++ ")"
  | .netRc _ => "NetRc"
  | .edit _ => "Function"
  | .plan _ => "Custom"

/-- The authentication of one call under way. -/
inductive Flow where
  /-- There is none. -/
  | none
  /-- The request is changed when the flow starts. -/
  | once (change : Edit)
  /-- Challenges are answered, unless one was answered already. -/
  | digest (account : Digest.Account) (answered : Bool)
  /-- A plan with these rounds left, so many being taken. -/
  | plan (plan : Plan) (taken : Nat) (rounds : List Round)

/-- Whether a request is to be sent again. -/
inductive Step where
  | sendRequest
  | done
deriving DecidableEq, Repr

/-- What a flow makes of a response. -/
structure Resumed where
  flow : Flow
  request : Request
  store : Digest.Store
  step : Except Error Step

namespace Flow

/-- The flow of one call. -/
def ofAuth : Option Auth → Flow
  | .none => .none
  | some (.basic l) => .once fun _ r => .ofExcept r (l.apply r)
  | some (.digest a) => .digest a false
  | some (.netRc n) => .once fun _ r => .ofExcept r (n.apply r)
  | some (.edit change) => .once change
  | some (.plan p) => .plan p 0 p.rounds

/-- The flow needs the request body in memory. -/
def buffersRequest : Flow → Bool
  | .plan p _ _ => p.buffersRequest
  | _ => false

/-- The flow needs the response bodies in memory. -/
def buffersResponse : Flow → Bool
  | .plan p _ _ => p.buffersResponse
  | _ => false

/-- How many more rounds the flow can ask for. -/
def roundsLeft : Flow → Nat
  | .none | .once _ => 0
  | .digest _ answered => if answered then 0 else 1
  | .plan _ _ rounds => rounds.length

/-- Starts the flow on a request. -/
def start (f : Flow) (j : Journal) (r : Request) (s : Digest.Store) : Edited × Digest.Store :=
  match f with
  | .none => (⟨r, Option.none⟩, s)
  | .once change => (change j r, s)
  | .digest a _ =>
    match a.authorize r s with
    | (.ok (some r), s) => (⟨r, Option.none⟩, s)
    | (.ok Option.none, s) => (⟨r, Option.none⟩, s)
    | (.error e, s) => (⟨r, some e⟩, s)
  | .plan p _ _ => (p.start j r, s)

/-- Answers a challenge: it is remembered before it is known whether it can be answered. -/
def answer (a : Digest.Account) (value : String) (r : Request) (s : Digest.Store) : Resumed :=
  match Challenge.parse value with
  | .error fault => ⟨.digest a false, r, s, .error fault.error⟩
  | .ok challenge =>
    match a.authorize r (s.store (a.key r.url) challenge) with
    | (.ok answered, s) => ⟨.digest a true, answered.getD r, s, .ok .sendRequest⟩
    | (.error e, s) => ⟨.digest a false, r, s, .error e⟩

/-- Shows the flow a response to the request. -/
def resume (f : Flow) (j : Journal) (r : Request) (response : Response) (s : Digest.Store) :
    Resumed :=
  match f with
  | .digest a answered =>
    if answered || response.status ≠ .unauthorized then ⟨f, r, s, .ok .done⟩
    else
      match Digest.offered? response.headers with
      | Option.none => ⟨f, r, s, .ok .done⟩
      | some value => answer a value r s
  | .plan p taken (round :: rounds) =>
    let turn := round j r response
    ⟨if turn.again then .plan p (taken + 1) rounds else f, turn.edited.request, s,
      turn.edited.toExcept.map fun _ => if turn.again then .sendRequest else .done⟩
  | _ => ⟨f, r, s, .ok .done⟩

/-- What is written into the journal when the flow is shown a response. -/
def note (f : Flow) (response : Response) : Journal :=
  match f with
  | .plan _ taken _ => [.planned taken response]
  | _ => []

/-- Every round that the flow asks for takes one away. -/
theorem roundsLeft_resume (f : Flow) (j : Journal) (r : Request) (response : Response)
    (s : Digest.Store) (h : (f.resume j r response s).step = .ok .sendRequest) :
    (f.resume j r response s).flow.roundsLeft + 1 = f.roundsLeft := by
  unfold resume at h ⊢
  split at h
  · split at h
    · simp at h
    · rename_i _ a answered hc
      simp only [Bool.or_eq_true, not_or, Bool.not_eq_true] at hc
      split at h
      · simp at h
      · simp only [hc.1, hc.2, Bool.false_or, Bool.false_eq_true, if_false]
        unfold answer at h ⊢
        split at h
        · simp at h
        · split at h
          · simp [roundsLeft]
          · simp at h
  · rename_i p taken round rounds
    cases again : (round j r response).again with
    | true => simp [roundsLeft, again]
    | false =>
      exfalso
      simp only [again, Bool.false_eq_true, if_false] at h
      cases made : (round j r response).edited.toExcept <;> simp [made, Except.map] at h
  · simp at h

end Flow

end HttpClient.Auth
