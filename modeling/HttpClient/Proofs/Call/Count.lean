/-
# Counting exchanges

Every round and every leg calls a transport once, unless the call ends with it; and
each of them, the last round apart, puts one response into the history.  So the
length of a history and the number of transport calls go together: at the end of the
rounds there is one call more than responses in the history, and every followed
redirect adds one to both.
-/
import HttpClient.Proofs.Call.Course

namespace HttpClient.Client

open Auth Redirect Call

variable {c : Client} {mode : Mode} {own : Changes}

/-! ## The first phase -/

theorem Readied.calls_eq {r : Request} {options : Options} {result : Except Error Prepared}
    (h : c.Readied mode r options own result) : calls own = 0 := by
  cases h with
  | unprepared _ => rfl
  | unread _ _ _ => rfl
  | @started _ _ t t' _ _ journal _ =>
      exact calls_noted (by rw [journal, List.append_nil]) (by simp)

theorem calls_noted_flow {flow : Flow} {response : Response} {t t' : Session}
    (h : t'.journal = t.journal ++ flow.note response) : calls [(t, t')] = 0 := by
  refine calls_noted h ?_
  cases flow <;> simp [Flow.note, Event.isCall]

theorem Rounded.calls_le {flow : Flow} {r : Request} {result : Except Error (Resumed × Response)}
    (h : c.Rounded mode flow r own result) :
    calls own ≤ 1 ∧ ∀ x, result = .ok x → calls own = 1 := by
  cases h with
  | unanswered exchanged => exact ⟨exchanged.calls_le.1, fun _ same => by cases same⟩
  | unread exchanged _ => exact ⟨exchanged.calls_le.1, fun _ same => by cases same⟩
  | resumed exchanged _ journal _ =>
      have one := exchanged.calls_le.2 _ rfl
      rw [calls_append, calls_noted_flow journal, one]
      exact ⟨Nat.le_refl 1, fun _ _ => rfl⟩

/-- Each round but the last has put its response into the history. -/
theorem Rounds.calls_eq {flow : Flow} {r : Request} {history : List Response}
    {rounds : List (Resumed × Response)} {last : Authenticated}
    (h : c.Rounds mode flow r history own rounds (.ok last)) :
    history.length + calls own = last.history.length + 1 := by
  generalize ended : Except.ok last = result at h
  induction h with
  | failed _ => cases ended
  | last rounded _ =>
      cases ended
      rw [rounded.calls_le.2 _ rfl]
  | unread _ _ _ => cases ended
  | again rounded _ _ _ ih =>
      have rest := ih ended
      rw [calls_append, rounded.calls_le.2 _ rfl]
      rw [List.length_append, List.length_singleton] at rest
      omega

/-- Behind its rounds a call has one transport call more than responses in its history. -/
theorem Opening.calls_eq {r : Request} {options : Options} {rounds : List (Resumed × Response)}
    {last : Authenticated} {follow : Bool}
    (h : c.Opening mode r options own rounds (.ok (last, follow))) :
    calls own = last.history.length + 1 ∧
      follow = options.followRedirects.getD c.followRedirects := by
  generalize ended : Except.ok (last, follow) = result at h
  cases h with
  | unready _ => cases ended
  | @rounds own own' ready _ result readied rounds =>
      cases result with
      | error e => cases ended
      | ok last =>
          cases ended
          refine ⟨?_, ?_⟩
          · rw [calls_append, readied.calls_eq, Nat.zero_add, ← rounds.calls_eq, List.length_nil,
              Nat.zero_add]
          · obtain ⟨prepared, _, _, made, -, -, -, follow⟩ := readied.ok
            rw [follow]
            exact (prepare_ok made).2.2

theorem Rounds.calls_le {flow : Flow} {r : Request} {history : List Response}
    {rounds : List (Resumed × Response)} {result : Except Error Authenticated}
    (h : c.Rounds mode flow r history own rounds result) :
    calls own ≤ flow.roundsLeft + 1 := by
  induction h with
  | failed rounded => exact Nat.le_add_left_of_le rounded.calls_le.1
  | last rounded _ => exact Nat.le_add_left_of_le rounded.calls_le.1
  | unread rounded _ _ => exact Nat.le_add_left_of_le rounded.calls_le.1
  | again rounded asks _ _ ih =>
      have fewer := rounded.roundsLeft asks
      rw [calls_append, rounded.calls_le.2 _ rfl]
      omega

/-- However a call opens, it makes no more exchanges than its flow allows. -/
theorem Opening.calls_le {r : Request} {options : Options} {prepared : Prepared}
    {rounds : List (Resumed × Response)} {result : Except Error (Authenticated × Bool)}
    (made : c.prepare r options = .ok prepared) (h : c.Opening mode r options own rounds result) :
    calls own ≤ prepared.flow.roundsLeft + 1 := by
  cases h with
  | unready readied =>
      rw [readied.calls_eq]
      exact Nat.zero_le _
  | rounds readied rounds =>
      obtain ⟨prepared', _, _, made', -, -, flow, -⟩ := readied.ok
      rw [made] at made'
      cases made'
      rw [calls_append, readied.calls_eq, Nat.zero_add, ← flow]
      exact rounds.calls_le

/-! ## The second phase -/

theorem Proceeded.calls_eq {r : Redirected} {result : Except Error Sending}
    (h : c.Proceeded mode r own result) : calls own = 0 := by
  cases h with
  | unread _ => rfl
  | proceeded _ => exact calls_noted (List.append_nil _).symm (by simp)

/-- Stage `i` stands behind `i` redirects, each of which has put one response into the history. -/
theorem Legs.stages {chain : Sending} {response : Response} {stages : List Stage}
    {result : Except Error Answer} (h : c.Legs mode chain response own stages result) :
    ∀ (i : Nat) (stage : Stage), stages[i]? = some stage →
      stage.chain.redirects = chain.redirects + i ∧
        stage.chain.history.length = chain.history.length + i := by
  induction h with
  | done _ | refused _ | stuck _ _ =>
      intro i stage found
      cases i with
      | zero =>
          cases found
          exact ⟨rfl, rfl⟩
      | succ i => simp at found
  | unanswered received proceeded _ =>
      intro i stage found
      have hop := proceeded.hop received
      match i with
      | 0 =>
          cases found
          exact ⟨rfl, rfl⟩
      | 1 =>
          cases found
          exact ⟨hop.count, hop.length⟩
      | i + 2 => simp at found
  | leg received proceeded _ _ ih =>
      intro i stage found
      have hop := proceeded.hop received
      cases i with
      | zero =>
          cases found
          exact ⟨rfl, rfl⟩
      | succ i =>
          obtain ⟨redirects, length⟩ := ih i stage (by simpa using found)
          simp only [hop.count, hop.length] at redirects length
          omega

/-- There are no more exchanges than there is room in the history. -/
theorem Legs.calls_le {chain : Sending} {response : Response} {stages : List Stage}
    {result : Except Error Answer} (h : c.Legs mode chain response own stages result) :
    calls own ≤ chain.maxRedirects - chain.history.length := by
  induction h with
  | done _ => exact Nat.zero_le _
  | refused _ => exact Nat.zero_le _
  | stuck _ proceeded =>
      rw [proceeded.calls_eq]
      exact Nat.zero_le _
  | unanswered received proceeded exchanged =>
      have room := (proceeded.hop received).room
      have one := exchanged.calls_le.1
      rw [calls_append, proceeded.calls_eq]
      omega
  | leg received proceeded exchanged _ ih =>
      have hop := proceeded.hop received
      have room := hop.room
      simp only [hop.length, hop.bound] at ih
      rw [calls_append, calls_append, proceeded.calls_eq, exchanged.calls_le.2 _ rfl]
      omega

theorem Legs.answer {chain : Sending} {response : Response} {stages : List Stage} {answer : Answer}
    (h : c.Legs mode chain response own stages (.ok answer)) :
    answer.history.length = chain.history.length + calls own := by
  generalize ended : Except.ok answer = result at h
  induction h with
  | done received =>
      cases ended
      rw [(receive_done received).1]
      rfl
  | refused _ => cases ended
  | stuck _ _ => cases ended
  | unanswered _ _ _ => cases ended
  | leg received proceeded exchanged _ ih =>
      have longer := (proceeded.hop received).length
      rw [ih ended, calls_append, calls_append, proceeded.calls_eq, exchanged.calls_le.2 _ rfl]
      simp only [longer]
      omega

end HttpClient.Client
