/-
# Nonce counts in the order of the lock

Flows that share a store go to it when it is their turn, and any of them may be the next
(`Interleaved`).  An `Event` is one access with what it handed out, and the events of a run
stand in the order in which the lock was held.

Between two changes of the nonce that is remembered under a key, the counts handed out for
this key are 1, 2, 3 and so on, whichever flows take them (`counts_in_lock_order`).  The
invariant is that what is remembered holds the next count: a take hands it out and leaves
the one behind it, a challenge with the same nonce keeps it, and what is done under other
keys does not touch it (`handed_of_steady`).  The first count is 1, since only a challenge
with another nonce changes the nonce (`begins_of_changed`).
-/
import HttpClient.Proofs.Auth.Answer
import HttpClient.Proofs.Auth.Locking

namespace HttpClient.Auth.Digest

/-! ## Flows that take turns -/

structure Event where
  access : Access
  given : Option Remembered
deriving DecidableEq

def behind (s : Store) (es : List Event) : Store := replay s (es.map (·.access))

@[simp] theorem behind_cons (s : Store) (e : Event) (es : List Event) :
    behind s (e :: es) = behind (e.access.after s) es := rfl

@[simp] theorem behind_append (s : Store) (es fs : List Event) :
    behind s (es ++ fs) = behind (behind s es) fs := by
  rw [behind, List.map_append, replay_append]
  rfl

/-- A flow, with the accesses that it has begun with and not made yet. -/
structure Party where
  account : Account
  /-- What comes out is whether the flow has answered a challenge. -/
  pending : Locking Bool

/-- What a flow may do when it is its turn.  Requests and responses may be any. -/
inductive Move : Party → Store → List Event → Party → Store → Prop
  | starts (a : Account) (answered : Bool) (r : Request) (s : Store) :
      Move ⟨a, .done answered⟩ s [] ⟨a, (a.starting r).map fun _ => answered⟩ s
  | resumes (a : Account) (answered : Bool) (r : Request) (response : Response) (s : Store) :
      Move ⟨a, .done answered⟩ s [] ⟨a, (a.resuming r answered response).map (·.answered)⟩ s
  | accesses (a : Account) (what : Access) (next : Option Remembered → Locking Bool) (s : Store) :
      Move ⟨a, .access what next⟩ s [⟨what, (what.apply s).1⟩] ⟨a, next (what.apply s).1⟩
        (what.after s)

/-- Flows that share a store take turns, in any order. -/
inductive Interleaved : List Party → Store → List Event → List Party → Store → Prop
  | stop (pool : List Party) (s : Store) : Interleaved pool s [] pool s
  | turn {pool pool' : List Party} {s s' s'' : Store} {now later : List Event} {p p' : Party}
      (i : Nat) (there : pool[i]? = some p) (move : Move p s now p' s')
      (rest : Interleaved (pool.set i p') s' later pool' s'') :
      Interleaved pool s (now ++ later) pool' s''

/-- Each event hands out what its access does, where it stands. -/
def Happens (s : Store) : List Event → Prop
  | [] => True
  | e :: es => e.given = (e.access.apply s).1 ∧ Happens (e.access.after s) es

theorem happens_append (s : Store) (es fs : List Event) :
    Happens s (es ++ fs) ↔ Happens s es ∧ Happens (behind s es) fs := by
  induction es generalizing s with
  | nil => exact ⟨fun h => ⟨trivial, h⟩, fun h => h.2⟩
  | cons e es ih =>
      rw [List.cons_append, Happens, Happens, ih, and_assoc]
      rfl

variable {pool pool' : List Party} {s s' : Store} {trace : List Event}

theorem Move.happens {p p' : Party} {now : List Event} (h : Move p s now p' s') :
    Happens s now ∧ s' = behind s now := by
  cases h with
  | starts => exact ⟨trivial, rfl⟩
  | resumes => exact ⟨trivial, rfl⟩
  | accesses => exact ⟨⟨rfl, trivial⟩, rfl⟩

theorem Interleaved.happens (h : Interleaved pool s trace pool' s') :
    Happens s trace ∧ s' = behind s trace := by
  induction h with
  | stop => exact ⟨trivial, rfl⟩
  | turn i there move rest ih =>
      obtain ⟨here, rfl⟩ := move.happens
      obtain ⟨later, rfl⟩ := ih
      exact ⟨(happens_append _ _ _).mpr ⟨here, later⟩, (behind_append _ _ _).symm⟩

/-! ## Counts -/

variable {k : Key}

def Store.nonce? (s : Store) (k : Key) : Option String := (s.find? k).map (·.challenge.nonce)

/-- The nonces and counts that are handed out for a key, in order. -/
def handed (k : Key) (es : List Event) : List (String × UInt32) :=
  (es.filter (·.access = .take k)).filterMap fun e =>
    e.given.map fun m => (m.challenge.nonce, m.count)

def takes (k : Key) (es : List Event) : Nat := es.countP (·.access = .take k)

/-- No event changes the nonce that is remembered under the key. -/
def Steady (k : Key) (s : Store) : List Event → Prop
  | [] => True
  | e :: es => (e.access.after s).nonce? k = s.nonce? k ∧ Steady k (e.access.after s) es

/-- So many counts of a nonce, from this one on. -/
def countsFrom (nonce : String) (first : UInt32) (n : Nat) : List (String × UInt32) :=
  (List.range n).map fun i => (nonce, first + UInt32.ofNat i)

theorem countsFrom_succ (nonce : String) (first : UInt32) (n : Nat) :
    countsFrom nonce first (n + 1) = (nonce, first) :: countsFrom nonce (first + 1) n := by
  unfold countsFrom
  rw [List.range_succ_eq_map, List.map_cons, List.map_map]
  congr 1
  · simp
  · refine List.map_congr_left fun i _ => ?_
    simp [Nat.succ_eq_add_one, UInt32.ofNat_add, UInt32.add_assoc, UInt32.add_comm]

theorem handed_take (m : Remembered) (es : List Event) :
    handed k (⟨.take k, some m⟩ :: es) = (m.challenge.nonce, m.count) :: handed k es := by
  simp [handed]

theorem handed_of_ne {e : Event} (es : List Event) (other : e.access ≠ .take k) :
    handed k (e :: es) = handed k es ∧ takes k (e :: es) = takes k es := by
  simp [handed, takes, other]

section Step

variable {m : Remembered} {x : Access}

theorem nonce?_of_find? (found : s.find? k = some m) : s.nonce? k = some m.challenge.nonce := by
  rw [Store.nonce?, found]
  rfl

theorem count_of_unchanged (found : s.find? k = some m) (other : x ≠ .take k)
    (same : (x.after s).nonce? k = s.nonce? k) :
    ∃ c : Challenge, (x.after s).find? k = some ⟨c, m.count⟩ ∧ c.nonce = m.challenge.nonce := by
  by_cases here : x.key = k
  · subst here
    cases x with
    | take j => exact absurd rfl other
    | store j c =>
        have stored := nonce?_of_find? (find?_after_store s j c)
        have same : c.nonce = m.challenge.nonce :=
          Option.some.inj (stored.symm.trans (same.trans (nonce?_of_find? found)))
        exact ⟨c, find?_after_store_same found same.symm, same⟩
  · exact ⟨m.challenge, (find?_after_of_ne s here).trans found, rfl⟩

/-- Only a challenge with another nonce changes the nonce, and its count begins at 1. -/
theorem begins_of_changed (changed : (x.after s).nonce? k ≠ s.nonce? k) :
    ∃ c : Challenge, (x.after s).find? k = some ⟨c, 1⟩ := by
  have here : x.key = k := Decidable.byContradiction fun other =>
    changed (congrArg (Option.map _) (find?_after_of_ne s other))
  subst here
  cases x with
  | take j =>
      exfalso
      cases found : s.find? j with
      | none =>
          have same : (Access.take j).after s = s := congrArg Prod.snd (apply_take_none found)
          exact changed (congrArg (Store.nonce? · j) same)
      | some m =>
          obtain ⟨-, next⟩ := apply_take found
          exact changed ((nonce?_of_find? next).trans (nonce?_of_find? found).symm)
  | store j c =>
      cases found : s.find? j with
      | none =>
          have stored := find?_after_store s j c
          rw [found] at stored
          exact ⟨c, stored⟩
      | some m =>
          have other : m.challenge.nonce ≠ c.nonce := fun same => changed <|
            (nonce?_of_find? (find?_after_store s j c)).trans
              ((congrArg some same.symm).trans (nonce?_of_find? found).symm)
          have stored := find?_after_store s j c
          simp only [found, if_neg other] at stored
          exact ⟨c, stored⟩

end Step

/-- What is remembered holds the next count that is handed out. -/
theorem handed_of_steady {es : List Event} {m : Remembered} (happens : Happens s es)
    (found : s.find? k = some m) (steady : Steady k s es) :
    handed k es = countsFrom m.challenge.nonce m.count (takes k es) := by
  induction es generalizing s m with
  | nil => rfl
  | cons e es ih =>
      obtain ⟨given, happens⟩ := happens
      obtain ⟨same, steady⟩ := steady
      by_cases take : e.access = .take k
      · -- the count goes out, and the one behind it is remembered
        obtain ⟨access, out⟩ := e
        subst take
        obtain ⟨now, next⟩ := apply_take found
        obtain rfl : out = some m := given.trans now
        rw [handed_take, ih happens next steady, ← countsFrom_succ]
        simp [takes]
      · obtain ⟨others, fewer⟩ := handed_of_ne es take
        obtain ⟨c, found, sameNonce⟩ := count_of_unchanged found take same
        rw [others, fewer, ih happens found steady, ← sameNonce]

/-- A count comes again only when all others have been there. -/
theorem countsFrom_no_repeat {nonce : String} {first : UInt32} {n i j : Nat} (order : i < j)
    (near : j < i + UInt32.size) (there : j < n) :
    (countsFrom nonce first n)[i]? ≠ (countsFrom nonce first n)[j]? := by
  have at_ (l : Nat) (h : l < n) :
      (countsFrom nonce first n)[l]? = some (nonce, first + UInt32.ofNat l) := by
    simp [countsFrom, h]
  rw [at_ i (by omega), at_ j there]
  intro same
  simp only [Option.some.injEq, Prod.mk.injEq, true_and] at same
  have same : UInt32.ofNat i = UInt32.ofNat j := UInt32.add_right_inj first |>.mp same
  have same := congrArg UInt32.toNat same
  simp only [UInt32.toNat_ofNat'] at same
  have size : UInt32.size = 2 ^ 32 := rfl
  omega

/-! ## The order of the lock -/

/-- Whatever flows share a store, and in whatever order they have their turns: between two changes
of the nonce that is remembered under a key, the counts handed out for the key are those from 1 on,
each with that nonce, and none comes again before all others have been there; a challenge with the
nonce that is remembered keeps the count; and nothing done under other keys touches it. -/
theorem counts_in_lock_order (run : Interleaved pool s trace pool' s') (k : Key) :
    s' = behind s trace ∧
    (∀ before change stretch later, trace = before ++ change :: (stretch ++ later) →
      (behind s (before ++ [change])).nonce? k ≠ (behind s before).nonce? k →
      Steady k (behind s (before ++ [change])) stretch →
      ∃ nonce, (behind s (before ++ [change])).nonce? k = some nonce ∧
        handed k stretch = countsFrom nonce 1 (takes k stretch) ∧
        ∀ i j, i < j → j < i + UInt32.size → j < takes k stretch →
          (handed k stretch)[i]? ≠ (handed k stretch)[j]?) ∧
    (∀ before c given later m, trace = before ++ ⟨.store k c, given⟩ :: later →
      (behind s before).find? k = some m → m.challenge.nonce = c.nonce →
      (behind s (before ++ [⟨.store k c, given⟩])).find? k = some ⟨c, m.count⟩) ∧
    (∀ before e later, trace = before ++ e :: later → e.access.key ≠ k →
      (behind s (before ++ [e])).find? k = (behind s before).find? k) := by
  obtain ⟨happens, same⟩ := run.happens
  refine ⟨same, ?_, ?_, ?_⟩
  · rintro before change stretch later rfl changed steady
    obtain ⟨-, -, happens⟩ := (happens_append _ _ _).mp happens
    obtain ⟨happens, -⟩ := (happens_append _ _ _).mp happens
    rw [behind_append] at changed steady ⊢
    obtain ⟨c, found⟩ := begins_of_changed changed
    have counts := handed_of_steady happens found steady
    refine ⟨c.nonce, nonce?_of_find? found, counts, fun i j order near there => ?_⟩
    rw [counts]
    exact countsFrom_no_repeat order near there
  · rintro before c given later m rfl found sameNonce
    rw [behind_append]
    exact find?_after_store_same found sameNonce
  · rintro before e later rfl other
    rw [behind_append]
    exact find?_after_of_ne _ other

namespace TwoFlows

open Sample

def challenge : Challenge := ⟨"r", "n", none, none, "MD5"⟩

def flows : List Party := [⟨account, .done false⟩, ⟨account, .done false⟩]

def response : Response := challenged "Digest realm=r, nonce=n"

/-- Both flows store the challenge before either takes a count. -/
def turns : List Event :=
  [⟨.store site challenge, none⟩, ⟨.store site challenge, none⟩, ⟨.take site, some ⟨challenge, 1⟩⟩,
    ⟨.take site, some ⟨challenge, 2⟩⟩]

end TwoFlows

open TwoFlows Sample in
/-- The second flow does not begin anew. -/
theorem counts_of_two_flows :
    ∃ pool' s', Interleaved flows .empty turns pool' s' ∧
      handed site turns.tail = [("n", 1), ("n", 2)] := by
  have run : Interleaved flows .empty turns _ _ :=
    .turn 0 rfl (.resumes account false asking response _) <|
    .turn 1 rfl (.resumes account false asking response _) <|
    .turn 0 rfl (.accesses account _ _ _) <|
    .turn 1 rfl (.accesses account _ _ _) <|
    .turn 1 rfl (.accesses account _ _ _) <|
    .turn 0 rfl (.accesses account _ _ _) <|
    .stop _ _
  obtain ⟨-, between, -⟩ := counts_in_lock_order run site
  obtain ⟨nonce, here, counts, -⟩ := between [] ⟨.store site challenge, none⟩ turns.tail []
    (List.append_nil _).symm
    (by decide +kernel) ⟨by decide +kernel, by decide +kernel, by decide +kernel, trivial⟩
  have nonce_eq : some "n" = some nonce := here
  cases nonce_eq
  exact ⟨_, _, run, counts⟩

end HttpClient.Auth.Digest
