/-
# Challenges are remembered unchecked

A flow that is shown a challenge stores it before it tries to answer it.  So a challenge
that cannot be answered, since its algorithm is unknown or the quality `auth` is not on
offer (`isAnswerable`), is remembered as any other is, the call that has met it fails, and
so does every later one that finds it (`unanswerable_remembered`).

`remembered_unchecked` says what holds of all uses of an account: what is remembered is the
challenge taken up last, and a use fails because of a challenge exactly if the one that it
finds cannot be answered.  All that is remembered can be answered exactly if all that was
taken up can.  A malformed challenge is not taken up.
-/
import HttpClient.Proofs.Auth.Locking
import Mathlib.Data.List.Induction

namespace HttpClient

open Auth Digest

/-- The failure is one of those that a challenge is to blame for. -/
def Error.blamesChallenge : Error → Bool
  | .protocol _ | .unimplemented _ => true
  | _ => false

/-- What something failed with. -/
def Error.of? {α : Type} : Except Error α → Option Error
  | .ok _ => none
  | .error e => some e

theorem Error.of?_eq_some {α : Type} {x : Except Error α} {e : Error} :
    of? x = some e ↔ x = .error e := by
  cases x <;> simp [of?]

namespace Auth

theorem ChallengeFault.error_blamesChallenge (f : ChallengeFault) :
    f.error.blamesChallenge = true := by
  cases f <;> rfl

/-- The algorithm is known, and the quality `auth` can be used if any quality is asked for. -/
def Challenge.isAnswerable (c : Challenge) : Bool :=
  (Algorithm.parse c.algorithm).isOk && c.usesAuth.isOk

namespace Digest

/-! ## Answers -/

theorem answer_isOk (login : Login) (c : Challenge) (method uri : String) (count : UInt32)
    (clientNonce : String) :
    (answer login c method uri count clientNonce).isOk = c.isAnswerable := by
  unfold answer Challenge.isAnswerable
  cases Algorithm.parse c.algorithm with
  | error f => rfl
  | ok a =>
      cases c.usesAuth with
      | error f => rfl
      | ok used => rfl

theorem withAuthorization_error {r : Request} {value : String} {e : Error}
    (h : r.withAuthorization value = .error e) : e.blamesChallenge = false := by
  unfold Request.withAuthorization HeaderValue.ofText HeaderValue.parse at h
  cases written : HeaderValue.ofBytes? (Text.utf8 value) with
  | none =>
      rw [written] at h
      cases h
      rfl
  | some v =>
      rw [written] at h
      cases h

/-- A challenge is blamed exactly if there is one that cannot be answered. -/
theorem Account.answered_blames (a : Account) (r : Request) (given : Option Remembered) :
    (∃ e, a.answered r given = .error e ∧ e.blamesChallenge = true) ↔
      ∃ m, given = some m ∧ m.challenge.isAnswerable = false := by
  cases given with
  | none => simp [answered]
  | some m =>
      have outcome := answer_isOk a.login m.challenge r.method.text r.url.pathAndQuery m.count
        (a.clientNonce m.count m.challenge.nonce)
      simp only [answered, Option.some.injEq, exists_eq_left', ← outcome]
      cases answer a.login m.challenge r.method.text r.url.pathAndQuery m.count
          (a.clientNonce m.count m.challenge.nonce) with
      | error f => simp [Except.isOk, Except.toBool, ChallengeFault.error_blamesChallenge]
      | ok x =>
          -- a challenge that can be answered is not to blame
          refine iff_of_false ?_ (by simp [Except.isOk, Except.toBool])
          rintro ⟨e, failed, blames⟩
          have failed : (r.withAuthorization x.text).map some = .error e := failed
          cases written : r.withAuthorization x.text with
          | error e' =>
              rw [written] at failed
              cases failed
              rw [withAuthorization_error written] at blames
              cases blames
          | ok q =>
              rw [written] at failed
              cases failed

/-! ## What is remembered -/

def Store.challenge? (s : Store) (k : Key) : Option Challenge := (s.find? k).map (·.challenge)

theorem challenge?_after (s : Store) (k : Key) (x : Access) :
    (x.after s).challenge? k =
      match x with
      | .store j c => if j = k then some c else s.challenge? k
      | .take _ => s.challenge? k := by
  by_cases here : x.key = k
  · subst here
    cases x with
    | store j c =>
        have stored := find?_after_store s j c
        simp only [Store.challenge?, Access.key, stored, if_true]
        rfl
    | take j =>
        cases found : s.find? j with
        | none => exact congrArg (Store.challenge? · j) (congrArg Prod.snd (apply_take_none found))
        | some m =>
            obtain ⟨-, next⟩ := apply_take found
            simp only [Store.challenge?, Access.key, next, found]
            rfl
  · have same : (x.after s).challenge? k = s.challenge? k :=
      congrArg (Option.map _) (find?_after_of_ne s here)
    cases x with
    | store j c =>
        have other : ¬ j = k := here
        simpa only [if_neg other] using same
    | take j => exact same

/-! ## Uses of an account -/

namespace Account

variable (a : Account) (r : Request) (answered : Bool) (response : Response)

/-- The challenge of a response that a flow takes up. -/
def takenUp? : Option Challenge :=
  if answered || response.status ≠ .unauthorized then none
  else (offered? response.headers).bind fun value => (Challenge.parse value).toOption

/-- A flow that is shown a response takes up a challenge, or it does not go to the store. -/
theorem resuming_cases :
    (takenUp? answered response = none ∧ ∃ x, a.resuming r answered response = .done x ∧
      ∀ e, x.step = .error e → ∃ value fault, offered? response.headers = some value ∧
        Challenge.parse value = .error fault ∧ e = fault.error) ∨
    (∃ c, takenUp? answered response = some c ∧
      a.resuming r answered response =
        .access (.store (a.key r.url) c) fun _ => (a.authorizing r).map (reacting r)) := by
  unfold takenUp? resuming
  split
  · exact .inl ⟨rfl, _, rfl, fun _ failed => by cases failed⟩
  · cases offered? response.headers with
    | none => exact .inl ⟨rfl, _, rfl, fun _ failed => by cases failed⟩
    | some value =>
        simp only [Option.bind_some, answering]
        cases read : Challenge.parse value with
        | error fault =>
            refine .inl ⟨rfl, _, rfl, fun e failed => ?_⟩
            cases failed
            exact ⟨value, fault, rfl, read, rfl⟩
        | ok c => exact .inr ⟨c, rfl, rfl⟩

end Account

/-- One use of a flow: it starts on a request, or it is shown a response. -/
inductive Use where
  | start (a : Account) (answered : Bool) (j : Journal) (r : Request)
  | resume (a : Account) (answered : Bool) (j : Journal) (r : Request) (response : Response)

namespace Use

/-- The challenge that the use takes up, and what it is remembered under. -/
def takesUp : Use → Option (Key × Challenge)
  | .start _ _ _ _ => none
  | .resume a answered _ r response => (Account.takenUp? answered response).map (a.key r.url, ·)

def after (s : Store) : Use → Store
  | .start a answered j r => ((Flow.digest a answered).start j r s).2
  | .resume a answered j r response => ((Flow.digest a answered).resume j r response s).store

def failure? (s : Store) : Use → Option Error
  | .start a answered j r => ((Flow.digest a answered).start j r s).1.failure
  | .resume a answered j r response =>
    Error.of? ((Flow.digest a answered).resume j r response s).step

def accesses : Use → List Access
  | .start a _ _ r => [.take (a.key r.url)]
  | .resume a answered j r response =>
    match (resume a answered j r response).takesUp with
    | none => []
    | some (k, c) => [.store k c, .take k]

theorem after_eq_replay (s : Store) (u : Use) : u.after s = replay s u.accesses := by
  cases u with
  | start a answered j r =>
      rw [after, Account.start_eq_run, Account.starting, Locking.run_map]
      rfl
  | resume a answered j r response =>
      rw [after, Account.resume_eq_run, accesses, takesUp]
      obtain ⟨hnone, x, done, -⟩ | ⟨c, takenUp, accesses⟩ := a.resuming_cases r answered response
      · rw [hnone, done]
        rfl
      · rw [takenUp, accesses, Locking.run, Locking.run_map]
        rfl

theorem start_blames (a : Account) (answered : Bool) (j : Journal) (r : Request) (s : Store) :
    (∃ e, (start a answered j r).failure? s = some e ∧ e.blamesChallenge = true) ↔
      ∃ c, s.challenge? (a.key r.url) = some c ∧ c.isAnswerable = false := by
  have failure : (start a answered j r).failure? s =
      Error.of? (a.answered r (s.find? (a.key r.url))) := by
    rw [failure?, Account.start_eq_run, Account.starting, Locking.run_map, ← given_take]
    show (Account.readying r (a.answered r _)).failure = _
    cases a.answered r _ <;> rfl
  simp only [failure, Error.of?_eq_some, Account.answered_blames, Store.challenge?,
    Option.map_eq_some_iff]
  constructor
  · rintro ⟨m, found, unanswerable⟩
    exact ⟨m.challenge, ⟨m, found, rfl⟩, unanswerable⟩
  · rintro ⟨_, ⟨m, found, rfl⟩, unanswerable⟩
    exact ⟨m, found, unanswerable⟩

variable {a : Account} {answered : Bool} {j : Journal} {r : Request} {response : Response}

theorem takesUp_resume {k : Key} {c : Challenge}
    (takes : (resume a answered j r response).takesUp = some (k, c)) :
    k = a.key r.url ∧ a.resuming r answered response =
      .access (.store k c) fun _ => (a.authorizing r).map (Account.reacting r) := by
  obtain ⟨d, takenUp, same⟩ := Option.map_eq_some_iff.mp takes
  cases same
  obtain ⟨hnone, -⟩ | ⟨c', takenUp', accesses⟩ := a.resuming_cases r answered response
  · rw [hnone] at takenUp
    cases takenUp
  · rw [takenUp'] at takenUp
    cases takenUp
    exact ⟨rfl, accesses⟩

theorem resume_blames {k : Key} {c : Challenge}
    (takes : (resume a answered j r response).takesUp = some (k, c)) (s : Store) :
    (∃ e, (resume a answered j r response).failure? s = some e ∧ e.blamesChallenge = true) ↔
      c.isAnswerable = false := by
  obtain ⟨rfl, accesses⟩ := takesUp_resume takes
  have failure : (resume a answered j r response).failure? s =
      Error.of? (a.answered r
        (((Access.store (a.key r.url) c).after s).find? (a.key r.url))) := by
    rw [failure?, Account.resume_eq_run, accesses, Locking.run, Locking.run_map, ← given_take]
    show Error.of? (Account.reacting r (a.answered r _)).step = _
    cases a.answered r _ <;> rfl
  rw [find?_after_store] at failure
  simp only [failure, Error.of?_eq_some, Account.answered_blames]
  simp

theorem resume_malformed (takes : (resume a answered j r response).takesUp = none) {s : Store}
    {e : Error} (failed : (resume a answered j r response).failure? s = some e) :
    ∃ value fault, offered? response.headers = some value ∧
      Challenge.parse value = .error fault ∧ e = fault.error := by
  obtain ⟨-, x, done, malformed⟩ | ⟨c, takenUp, -⟩ := a.resuming_cases r answered response
  · rw [failure?, Account.resume_eq_run, done] at failed
    exact malformed e (Error.of?_eq_some.mp failed)
  · rw [takesUp, takenUp] at takes
    cases takes

/-- A response changes what is remembered exactly if a challenge is taken up from it. -/
theorem after_resume_eq_iff (s : Store) :
    (resume a answered j r response).after s = s ↔
      (resume a answered j r response).takesUp = none := by
  rw [after_eq_replay, accesses]
  cases takes : (resume a answered j r response).takesUp with
  | none => exact iff_of_true rfl rfl
  | some kc =>
      obtain ⟨k, c⟩ := kc
      refine iff_of_false (fun same => ?_) (by simp)
      -- the count that is found is one too high, or it began anew
      obtain ⟨-, taken⟩ := apply_take (find?_after_store s k c)
      have found : s.find? k = _ := (congrArg (Store.find? · k) same).symm.trans taken
      cases before : s.find? k with
      | none =>
          rw [before] at found
          cases found
      | some m =>
          rw [before, Option.some.injEq] at found
          have sameChallenge : m.challenge = c := congrArg Remembered.challenge found
          have counts : m.count = _ := congrArg Remembered.count found
          simp only [sameChallenge, if_true] at counts
          have wide := congrArg UInt32.toNat counts
          rw [UInt32.toNat_add] at wide
          have small := m.count.toNat_lt
          have one : (1 : UInt32).toNat = 1 := rfl
          omega

end Use

/-! ## Runs -/

/-- The challenge that a use takes up under a key. -/
def Use.takenUpUnder (k : Key) (u : Use) : Option Challenge :=
  (u.takesUp.filter (·.1 = k)).map (·.2)

theorem Use.takenUpUnder_eq_some {k : Key} {u : Use} {c : Challenge} :
    u.takenUpUnder k = some c ↔ u.takesUp = some (k, c) := by
  unfold takenUpUnder
  cases u.takesUp with
  | none => simp
  | some kc =>
      obtain ⟨j, d⟩ := kc
      by_cases here : j = k <;> simp [Option.filter, here]

def behindUses (s : Store) (uses : List Use) : Store := uses.foldl Use.after s

theorem challenge?_use (s : Store) (k : Key) (u : Use) :
    (u.after s).challenge? k = (u.takenUpUnder k).or (s.challenge? k) := by
  rw [Use.after_eq_replay]
  cases u with
  | start a answered j r => exact challenge?_after s k _
  | resume a answered j r response =>
      rw [Use.accesses, Use.takenUpUnder]
      cases (Use.resume a answered j r response).takesUp with
      | none => rfl
      | some kc =>
          obtain ⟨i, c⟩ := kc
          show ((Access.take i).after ((Access.store i c).after s)).challenge? k = _
          rw [challenge?_after, challenge?_after]
          by_cases here : i = k <;> simp [Option.filter, here]

/-- What is remembered is what was taken up last. -/
theorem challenge?_behindUses (s : Store) (k : Key) (uses : List Use) :
    (behindUses s uses).challenge? k =
      (uses.reverse.findSome? (Use.takenUpUnder k)).or (s.challenge? k) := by
  induction uses using List.reverseRecOn with
  | nil => rfl
  | append_singleton uses u ih =>
      have last : behindUses s (uses ++ [u]) = u.after (behindUses s uses) := List.foldl_append
      rw [last, challenge?_use, ih, List.reverse_append, List.reverse_singleton,
        List.singleton_append, List.findSome?_cons]
      cases u.takenUpUnder k <;> rfl

/-- Everything that is ever remembered can be answered exactly if everything that is taken up can. -/
theorem answerable_iff (uses : List Use) :
    (∀ n k c, (behindUses .empty (uses.take n)).challenge? k = some c → c.isAnswerable = true) ↔
      ∀ u ∈ uses, ∀ k c, u.takesUp = some (k, c) → c.isAnswerable = true := by
  constructor
  · intro always u there k c takes
    obtain ⟨n, found⟩ := List.getElem?_of_mem there
    have upTo : uses.take (n + 1) = uses.take n ++ [u] := by
      rw [List.take_add_one, found]
      rfl
    refine always (n + 1) k c ?_
    rw [challenge?_behindUses, upTo, List.reverse_append, List.reverse_singleton,
      List.singleton_append, List.findSome?_cons, Use.takenUpUnder_eq_some.mpr takes]
    rfl
  · intro all n k c found
    rw [challenge?_behindUses] at found
    have found : (uses.take n).reverse.findSome? (Use.takenUpUnder k) = some c := by
      simpa [Store.challenge?, Store.find?, Store.empty] using found
    obtain ⟨u, there, takes⟩ := List.exists_of_findSome?_eq_some found
    exact all u (List.mem_of_mem_take (List.mem_reverse.mp there)) k c
      (Use.takenUpUnder_eq_some.mp takes)

/-- Whatever an account has been used for:

* what is remembered under a key is the challenge that was taken up last;
* everything that was ever remembered could be answered exactly if everything taken up could;
* a response leaves what is remembered as it was exactly if no challenge is taken up from it: if one
  is, this use fails because of a challenge exactly if that one cannot be answered, and if none is, it
  fails only if the challenge on offer is malformed;
* starting fails because of a challenge exactly if the one that is remembered cannot be answered. -/
theorem remembered_unchecked (uses : List Use) :
    (∀ k, (behindUses .empty uses).challenge? k =
      uses.reverse.findSome? (Use.takenUpUnder k)) ∧
    ((∀ n k c, (behindUses .empty (uses.take n)).challenge? k = some c → c.isAnswerable = true) ↔
      ∀ u ∈ uses, ∀ k c, u.takesUp = some (k, c) → c.isAnswerable = true) ∧
    (∀ a answered j r response,
      let u := Use.resume a answered j r response
      (u.after (behindUses .empty uses) = behindUses .empty uses ↔ u.takesUp = none) ∧
      (∀ k c, u.takesUp = some (k, c) →
          ((∃ e, u.failure? (behindUses .empty uses) = some e ∧ e.blamesChallenge = true) ↔
            c.isAnswerable = false)) ∧
      (u.takesUp = none → ∀ e, u.failure? (behindUses .empty uses) = some e →
        ∃ value fault, offered? response.headers = some value ∧
          Challenge.parse value = .error fault ∧ e = fault.error)) ∧
    (∀ a answered j r,
      (∃ e, (Use.start a answered j r).failure? (behindUses .empty uses) = some e ∧
          e.blamesChallenge = true) ↔
        ∃ c, (behindUses .empty uses).challenge? (a.key r.url) = some c ∧
          c.isAnswerable = false) := by
  refine ⟨fun k => ?_, answerable_iff uses, fun a answered j r response => ?_,
    fun a answered j r => Use.start_blames a answered j r _⟩
  · rw [challenge?_behindUses]
    exact Option.or_none
  · exact ⟨Use.after_resume_eq_iff _, fun k c takes => Use.resume_blames takes _,
      fun takes e failed => Use.resume_malformed takes failed⟩

section Sampled

open Sample

/-- A call meets a challenge, and a later one starts. -/
theorem remembered_unchecked_of_unknown :
    ∃ (u v : Use), u.takesUp = some (site, ⟨"r", "n", none, none, "MD4"⟩) ∧
      ∃ e, v.failure? (behindUses .empty [u]) = some e ∧ e.blamesChallenge = true := by
  let u := Use.resume account false [] asking (challenged "Digest realm=r, nonce=n, algorithm=MD4")
  obtain ⟨-, -, -, starts⟩ := remembered_unchecked [u]
  exact ⟨u, _, by decide +kernel, (starts account false [] asking).mpr
    ⟨⟨"r", "n", none, none, "MD4"⟩, by decide +kernel, by decide +kernel⟩⟩

/-- A call is shown a challenge that it cannot answer and fails. It is remembered all the same, and
the next call fails before it is sent. -/
theorem unanswerable_remembered :
    ∃ (u v : Use) (c : Challenge),
      u.failure? .empty = some (.unimplemented "digest qop auth-int") ∧
      (behindUses .empty [u]).challenge? site = some c ∧ c.isAnswerable = false ∧
      v.failure? (behindUses .empty [u]) = some (.unimplemented "digest qop auth-int") := by
  refine ⟨.resume account false [] asking
      (challenged "Digest realm=\"r\", nonce=\"n\", qop=\"auth-int\""),
    .start account false [] asking, ⟨"r", "n", none, some "auth-int", "MD5"⟩, ?_⟩
  decide +kernel

end Sampled

end Digest

end Auth

end HttpClient
