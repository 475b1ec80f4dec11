/-
# Crowds come to an end

Each move of a crowd makes something else of one member.  What it can make of it
is `Moved`, and no member moves for ever, because every activity is a well-founded
tree.  Hence a list of members in which one after the other moves comes to an end
as well, whatever the order (`OneMoved.wellFounded`).
-/
import HttpClient.Crowd.Member

namespace HttpClient

namespace Member

variable {σ α : Type}

/-- What one move can make of a member. -/
inductive Moved : Member σ α → Member σ α → Prop where
  | reported (a : α) : Moved (.finished a) (.early a)
  | asked (deadline : Nat) (due : Moment) (p : Activity σ α) :
    Moved (.waiting due p) (.queued deadline p)
  | admitted (behind : Pause → Moment) (deadline : Nat) (p : Activity σ α) (s : σ) :
    Moved (ofStop behind (p.advance s).1) (.queued deadline p)
  | called (behind : Pause → Moment) (deadline : Moment) (p : Activity σ α) (s : σ) :
    Moved (ofStop behind (p.advance s).1) (.waiting deadline p)
  | refused (deadline : Nat) (p : Activity σ α) (a : α) : Moved (.finished a) (.queued deadline p)
  | expired (deadline : Moment) (p : Activity σ α) (a : α) :
    Moved (.finished a) (.waiting deadline p)
  | advanced (behind : Pause → Moment) (due : Moment) (p : Activity σ α) (s : σ) :
    Moved (ofStop behind (p.advance s).1) (.running due p)

theorem acc_finished (a : α) : Acc Moved (.finished a : Member σ α) :=
  .intro _ fun _ h => nomatch h

theorem acc_ofStop (p : Activity σ α) (behind : Pause → Moment) (s : σ) :
    Acc Moved (ofStop behind (p.advance s).1) := by
  induction p generalizing behind s with
  | done a => exact acc_finished a
  | look next ih => exact ih s behind s
  | change update next ih => exact ih behind (update s)
  | wait pause next ih =>
    refine .intro _ fun m h => ?_
    cases h with
    | advanced behind' _ _ s' => exact ih behind' s'

theorem acc_waiting (deadline : Moment) (p : Activity σ α) : Acc Moved (.waiting deadline p) := by
  refine .intro _ fun m h => ?_
  cases h with
  | called behind _ _ s => exact acc_ofStop p behind s
  | expired _ _ a => exact acc_finished a

/-- No member moves for ever. -/
theorem acc (m : Member σ α) : Acc Moved m := by
  cases m with
  | early a => exact .intro _ fun m h => by cases h with | reported => exact acc_finished a
  | queued deadline p =>
    refine .intro _ fun m h => ?_
    cases h with
    | asked _ due _ => exact acc_waiting due p
    | admitted behind _ _ s => exact acc_ofStop p behind s
    | refused _ _ a => exact acc_finished a
  | waiting deadline p => exact acc_waiting deadline p
  | running due p =>
    refine .intro _ fun m h => ?_
    cases h with
    | advanced behind _ _ s => exact acc_ofStop p behind s
  | finished a => exact acc_finished a
  | cancelled => exact .intro _ fun _ h => nomatch h

end Member

/-- One element of a list has moved. -/
inductive OneMoved {α : Type} (r : α → α → Prop) : List α → List α → Prop where
  | head {a b : α} (l : List α) (h : r a b) : OneMoved r (a :: l) (b :: l)
  | tail (a : α) {k l : List α} (h : OneMoved r k l) : OneMoved r (a :: k) (a :: l)

namespace OneMoved

variable {α : Type} {r : α → α → Prop}

theorem acc_cons {a : α} {l : List α} (ha : Acc r a) (hl : Acc (OneMoved r) l) :
    Acc (OneMoved r) (a :: l) := by
  induction ha generalizing l with
  | intro a _ iha =>
    induction hl with
    | intro l hl ihl =>
      refine .intro _ fun k h => ?_
      cases h with
      | head _ h => exact iha _ h (.intro l hl)
      | tail _ h => exact ihl _ h

theorem wellFounded (h : ∀ a, Acc r a) : WellFounded (OneMoved r) := by
  refine ⟨fun l => ?_⟩
  induction l with
  | nil => exact .intro _ fun k h => nomatch h
  | cons a l ih => exact acc_cons (h a) ih

theorem of_set {l : List α} {i : Nat} {a b : α} (hi : l[i]? = some b) (h : r a b) :
    OneMoved r (l.set i a) l := by
  induction l generalizing i with
  | nil => simp at hi
  | cons x l ih =>
    cases i with
    | zero =>
      have e : x = b := by simpa using hi
      exact e ▸ .head l h
    | succ i => exact .tail x (ih (by simpa using hi))

end OneMoved

end HttpClient
