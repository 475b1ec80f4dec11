/-
# A producer that is awaited is read like one that is not

Reading a guard is written three times: for callers that block, for callers that await a chunk or
all of it, and for a stream that is polled for its items.  Here each has its own definition.  The
guard that blocks asks a source that always has something to say (`BlockingGuard`).  The others
poll a source that may have nothing ready, and then they are polled again later, where they stopped
(`Future`): the item of a stream looks at the mark each time (`pollItem`), the read for a chunk
looks at it only when it begins (`pollChunk`), and the read to the end keeps what it has got so far
and takes as many chunks in one poll as are ready (`pollAll`).

Run until they are ready, they all do what is said of a guard elsewhere (`run_nextItem`,
`run_nextChunk`, `run_allLeft`), wherever the source pauses.  And the guard that blocks keeps in
step with it over the same source without its pauses (`Mirrors`), use by use, in what comes of the
use and in the mark.
-/
import HttpClient.Proofs.Message.Guard

namespace HttpClient

open Producer

/-! ## Reading by blocking -/

/-- What a source gives: a chunk, or the report of a failure. -/
abbrev Given := Except String Bytes

/-- What an item gives, if the source has something ready. -/
def ProducerItem.given? : ProducerItem → Option Given
  | .chunk b => some (.ok b)
  | .failure d => some (.error d)
  | .pause => none

/-- What holds a source that is read by blocking. -/
structure BlockingGuard where
  source : Option (List Given)
  isDrained : Bool

namespace BlockingGuard

def new (given : List Given) : BlockingGuard := ⟨some given, false⟩

def release (g : BlockingGuard) : BlockingGuard := { g with source := none, isDrained := true }

def left (g : BlockingGuard) : Nat := (g.source.map List.length).getD 0

def next (g : BlockingGuard) : Except Error (Option Bytes) × BlockingGuard :=
  if g.isDrained then (.error .streamConsumed, g)
  else
    match g.source with
    | none => (.error .streamConsumed, g)
    | some [] => (.ok none, g.release)
    | some (.ok b :: rest) => (.ok (some b), { g with source := some rest })
    | some (.error d :: _) => (.error (.read d), g.release)

theorem left_next {g g' : BlockingGuard} {b : Bytes} (h : g.next = (.ok (some b), g')) :
    g'.left < g.left := by
  unfold next at h
  split at h
  · cases h
  · split at h
    · cases h
    · cases h
    · rename_i held
      cases h
      simp [left, held]
    · cases h

/-- All that is left, behind the bytes that were read before. -/
def collect (g : BlockingGuard) (bytes : Bytes) : Except Error Bytes × BlockingGuard :=
  match _h : g.next with
  | (.ok (some b), g') => g'.collect (bytes ++ b)
  | (.ok none, g') => (.ok bytes, g')
  | (.error e, g') => (.error e, g')
termination_by g.left
decreasing_by exact left_next _h

theorem collect_eq (g : BlockingGuard) (bytes : Bytes) :
    g.collect bytes =
      match g.next with
      | (.ok (some b), g') => g'.collect (bytes ++ b)
      | (.ok none, g') => (.ok bytes, g')
      | (.error e, g') => (.error e, g') := by
  rw [collect]
  split <;> rename_i read <;> rw [read]

def readAll (g : BlockingGuard) : Except Error Bytes × BlockingGuard := g.collect []

/-- The use of a guard: what comes of it, and the guard as it is left. -/
def use (g : BlockingGuard) : Use → Outcome × BlockingGuard
  | .next => (.ofNext g.next.1, g.next.2)
  | .iterate => (.ofItem (itemOf g.next.1), g.next.2)
  | .readAll => (.ofAll g.readAll.1, g.readAll.2)
  | .release => (.released, g.release)

def behindUses (g : BlockingGuard) (uses : List Use) : BlockingGuard :=
  uses.foldl (fun g u => (g.use u).2) g

def outcomes (g : BlockingGuard) : List Use → List Outcome
  | [] => []
  | u :: uses => (g.use u).1 :: outcomes (g.use u).2 uses

end BlockingGuard

/-! ## Awaiting -/

/-- What a poll comes to. -/
inductive Polled (α : Type) where
  | pending
  | ready (result : α)

/-- Something that is polled until it is ready, and that gets nearer each time it is not. -/
structure Future (α : Type) where
  State : Type
  poll : State → Polled α × State
  left : State → Nat
  nearer : ∀ {s s'}, poll s = (.pending, s') → left s' < left s

/-- Polls until the result is ready. -/
def Future.run {α : Type} (f : Future α) (s : f.State) : α × f.State :=
  match _h : f.poll s with
  | (.ready a, s') => (a, s')
  | (.pending, s') => f.run s'
termination_by f.left s
decreasing_by exact f.nearer _h

theorem Future.run_ready {α : Type} {f : Future α} {s s' : f.State} {a : α}
    (h : f.poll s = (.ready a, s')) : f.run s = (a, s') := by
  rw [Future.run]
  split
  · rename_i same
    rw [h] at same
    cases same
    rfl
  · rename_i same
    rw [h] at same
    cases same

theorem Future.run_pending {α : Type} {f : Future α} {s s' : f.State}
    (h : f.poll s = (.pending, s')) : f.run s = f.run s' := by
  rw [Future.run]
  split
  · rename_i same
    rw [h] at same
    cases same
  · rename_i same
    rw [h] at same
    cases same
    rfl

theorem Future.run_congr {α : Type} {f : Future α} {s t : f.State} (h : f.poll s = f.poll t) :
    f.run s = f.run t := by
  cases polled : f.poll t with
  | mk result t' =>
      rw [polled] at h
      cases result with
      | ready a => rw [run_ready h, run_ready polled]
      | pending => rw [run_pending h, run_pending polled]

namespace Guard

def left (g : Guard) : Nat := (g.source.map List.length).getD 0

/-- Polls a guard for the next item of its stream. -/
def pollItem (g : Guard) : Polled (Option (Except Error Bytes)) × Guard :=
  if g.isDrained then (.ready (some (.error .streamConsumed)), g)
  else
    match g.source with
    | none => (.ready (some (.error .streamConsumed)), g)
    | some [] => (.ready none, (g.polled []).release)
    | some (.chunk b :: rest) => (.ready (some (.ok b)), g.polled rest)
    | some (.failure d :: rest) => (.ready (some (.error (.read d))), (g.polled rest).release)
    | some (.pause :: rest) => (.pending, g.polled rest)

/-- Polls a read for the next chunk. One that has begun awaits the source, and does not look at the
mark again. -/
def pollChunk (begun : Bool) (g : Guard) : Polled (Except Error (Option Bytes)) × Bool × Guard :=
  if !begun && g.isDrained then (.ready (.error .streamConsumed), begun, g)
  else
    match g.source with
    | none => (.ready (.error .streamConsumed), begun, g)
    | some [] => (.ready (.ok none), begun, (g.polled []).release)
    | some (.chunk b :: rest) => (.ready (.ok (some b)), begun, g.polled rest)
    | some (.failure d :: rest) => (.ready (.error (.read d)), begun, (g.polled rest).release)
    | some (.pause :: rest) => (.pending, true, g.polled rest)

/-- A poll that finds nothing ready has used up one pause of the source, and nothing else. -/
theorem pollItem_pending {g g' : Guard} (h : g.pollItem = (.pending, g')) :
    ∃ rest, g.source = some (.pause :: rest) ∧ g' = g.polled rest := by
  unfold pollItem at h
  split at h
  · cases h
  · split at h
    · cases h
    · cases h
    · cases h
    · cases h
    · rename_i held
      cases h
      exact ⟨_, held, rfl⟩

theorem pollChunk_pending {begun begun' : Bool} {g g' : Guard}
    (h : pollChunk begun g = (.pending, begun', g')) :
    ∃ rest, g.source = some (.pause :: rest) ∧ g' = g.polled rest := by
  unfold pollChunk at h
  split at h
  · cases h
  · split at h
    · cases h
    · cases h
    · cases h
    · cases h
    · rename_i held
      cases h
      exact ⟨_, held, rfl⟩

theorem pollChunk_chunk {begun begun' : Bool} {b : Bytes} {g g' : Guard}
    (h : pollChunk begun g = (.ready (.ok (some b)), begun', g')) :
    ∃ rest, g.source = some (.chunk b :: rest) ∧ g' = g.polled rest := by
  unfold pollChunk at h
  split at h
  · cases h
  · split at h
    · cases h
    · cases h
    · rename_i held
      cases h
      exact ⟨_, held, rfl⟩
    · cases h
    · cases h

theorem left_polled {g : Guard} {item : ProducerItem} {rest : List ProducerItem}
    (held : g.source = some (item :: rest)) : (g.polled rest).left < g.left := by
  simp [left, held, polled]

theorem left_pollItem {g g' : Guard} (h : g.pollItem = (.pending, g')) : g'.left < g.left := by
  obtain ⟨rest, held, rfl⟩ := pollItem_pending h
  exact left_polled held

theorem left_pollChunk {begun begun' : Bool} {g g' : Guard}
    (h : pollChunk begun g = (.pending, begun', g')) : g'.left < g.left := by
  obtain ⟨rest, held, rfl⟩ := pollChunk_pending h
  exact left_polled held

/-- A read to the end: what was read so far, and the read for the next chunk. -/
structure Reading where
  bytes : Bytes
  begun : Bool
  guard : Guard

/-- Polls a read to the end. -/
def pollAll (r : Reading) : Polled (Except Error Bytes) × Reading :=
  match _h : pollChunk r.begun r.guard with
  | (.pending, begun, guard) => (.pending, { r with begun, guard })
  | (.ready (.ok (some b)), _, guard) => pollAll ⟨r.bytes ++ b, false, guard⟩
  | (.ready (.ok none), begun, guard) => (.ready (.ok r.bytes), { r with begun, guard })
  | (.ready (.error e), begun, guard) => (.ready (.error e), { r with begun, guard })
termination_by r.guard.left
decreasing_by
  obtain ⟨rest, held, rfl⟩ := pollChunk_chunk _h
  exact left_polled held

/-- A poll of a read to the end that finds nothing ready has taken the chunks before the pause, and
they are among the bytes that it keeps. -/
theorem pollAll_pending {r r' : Reading} (h : pollAll r = (.pending, r')) :
    ∃ (chunks : List Bytes) (rest : List ProducerItem),
      r.guard.source = some (chunks.map .chunk ++ .pause :: rest) ∧
      r'.guard.source = some rest ∧ r'.guard.isDrained = r.guard.isDrained ∧
      r'.bytes = r.bytes ++ chunks.flatten := by
  fun_induction pollAll r with
  | case1 r begun guard polled =>
      cases h
      obtain ⟨rest, held, rfl⟩ := pollChunk_pending polled
      exact ⟨[], rest, held, rfl, rfl, (List.append_nil _).symm⟩
  | case2 r b _ guard polled ih =>
      obtain ⟨behind, held, rfl⟩ := pollChunk_chunk polled
      obtain ⟨chunks, rest, there, left, mark, bytes⟩ := ih h
      cases there
      exact ⟨b :: chunks, rest, held, left, mark, by simp [bytes]⟩
  | case3 r begun guard polled => cases h
  | case4 r e begun guard polled => cases h

theorem left_pollAll {r r' : Reading} (h : pollAll r = (.pending, r')) :
    r'.guard.left < r.guard.left := by
  obtain ⟨chunks, rest, held, left, -⟩ := pollAll_pending h
  simp only [Guard.left, held, left, Option.map_some, Option.getD_some, List.length_append,
    List.length_cons]
  omega

def nextItem : Future (Option (Except Error Bytes)) where
  State := Guard
  poll := pollItem
  left := left
  nearer := left_pollItem

def nextChunk : Future (Except Error (Option Bytes)) where
  State := Bool × Guard
  poll s := pollChunk s.1 s.2
  left s := s.2.left
  nearer := left_pollChunk

def allLeft : Future (Except Error Bytes) where
  State := Reading
  poll := pollAll
  left r := r.guard.left
  nearer := left_pollAll

/-! ## Polling until it is ready -/

variable {g : Guard}

def holding (items : List ProducerItem) (polls : Nat) : Guard := ⟨some items, false, polls⟩

theorem drained_or_holding (g : Guard) :
    (g.isDrained = true ∨ g.source = none) ∨ ∃ items polls, g = holding items polls := by
  obtain ⟨source, mark, polls⟩ := g
  cases mark with
  | true => exact .inl (.inl rfl)
  | false =>
      cases source with
      | none => exact .inl (.inr rfl)
      | some items => exact .inr ⟨items, polls, rfl⟩

theorem pollChunk_holding (begun : Bool) (items : List ProducerItem) (polls : Nat) :
    pollChunk begun (holding items polls) =
      match items with
      | [] => (.ready (.ok none), begun, (holding [] (polls + 1)).release)
      | .chunk b :: rest => (.ready (.ok (some b)), begun, holding rest (polls + 1))
      | .failure d :: rest => (.ready (.error (.read d)), begun, (holding rest (polls + 1)).release)
      | .pause :: rest => (.pending, true, holding rest (polls + 1)) := by
  rcases items with _ | ⟨_ | _ | _, rest⟩ <;> cases begun <;> rfl

theorem pollAll_eq (r : Reading) :
    pollAll r =
      match pollChunk r.begun r.guard with
      | (.pending, begun, guard) => (.pending, { r with begun, guard })
      | (.ready (.ok (some b)), _, guard) => pollAll ⟨r.bytes ++ b, false, guard⟩
      | (.ready (.ok none), begun, guard) => (.ready (.ok r.bytes), { r with begun, guard })
      | (.ready (.error e), begun, guard) => (.ready (.error e), { r with begun, guard }) := by
  rw [pollAll]
  split <;> rename_i polled <;> rw [polled]

theorem pollAll_holding (bytes : Bytes) (begun : Bool) (items : List ProducerItem) (polls : Nat) :
    pollAll ⟨bytes, begun, holding items polls⟩ =
      match items with
      | [] => (.ready (.ok bytes), ⟨bytes, begun, (holding [] (polls + 1)).release⟩)
      | .chunk b :: rest => pollAll ⟨bytes ++ b, false, holding rest (polls + 1)⟩
      | .failure d :: rest =>
        (.ready (.error (.read d)), ⟨bytes, begun, (holding rest (polls + 1)).release⟩)
      | .pause :: rest => (.pending, ⟨bytes, true, holding rest (polls + 1)⟩) := by
  rw [pollAll_eq, pollChunk_holding]
  rcases items with _ | ⟨_ | _ | _, rest⟩ <;> rfl

theorem run_chunk_holding (begun : Bool) (items : List ProducerItem) (polls : Nat) :
    ∃ begun', nextChunk.run (begun, holding items polls) =
      (((holding items polls).take items).1, begun', ((holding items polls).take items).2) := by
  induction items generalizing begun polls with
  | nil => exact ⟨begun, Future.run_ready (f := nextChunk) (pollChunk_holding begun [] polls)⟩
  | cons item rest ih =>
      have polled := pollChunk_holding begun (item :: rest) polls
      cases item with
      | chunk b => exact ⟨begun, Future.run_ready (f := nextChunk) polled⟩
      | failure d => exact ⟨begun, Future.run_ready (f := nextChunk) polled⟩
      | pause =>
          obtain ⟨begun', run⟩ := ih true (polls + 1)
          have waits : nextChunk.poll (begun, holding (.pause :: rest) polls) =
              (.pending, true, holding rest (polls + 1)) := polled
          exact ⟨begun', (Future.run_pending waits).trans run⟩

theorem run_item_holding (items : List ProducerItem) (polls : Nat) :
    nextItem.run (holding items polls) =
      (itemOf ((holding items polls).take items).1, ((holding items polls).take items).2) := by
  induction items generalizing polls with
  | nil => exact Future.run_ready (f := nextItem) rfl
  | cons item rest ih =>
      cases item with
      | chunk b => exact Future.run_ready (f := nextItem) rfl
      | failure d => exact Future.run_ready (f := nextItem) rfl
      | pause => exact (Future.run_pending (f := nextItem) rfl).trans (ih (polls + 1))

theorem run_all_holding (bytes : Bytes) (begun : Bool) (items : List ProducerItem) (polls : Nat) :
    ∃ r : Reading, allLeft.run ⟨bytes, begun, holding items polls⟩ =
      (((holding items polls).collect bytes items).1, r) ∧
      r.guard = ((holding items polls).collect bytes items).2 := by
  induction items generalizing bytes begun polls with
  | nil => exact ⟨_, Future.run_ready (f := allLeft) (pollAll_holding bytes begun [] polls), rfl⟩
  | cons item rest ih =>
      have polled := pollAll_holding bytes begun (item :: rest) polls
      cases item with
      | chunk b =>
          obtain ⟨r, run, left⟩ := ih (bytes ++ b) false (polls + 1)
          exact ⟨r, (Future.run_congr (f := allLeft) polled).trans run, left⟩
      | failure d => exact ⟨_, Future.run_ready (f := allLeft) polled, rfl⟩
      | pause =>
          obtain ⟨r, run, left⟩ := ih bytes true (polls + 1)
          exact ⟨r, (Future.run_pending (f := allLeft) polled).trans run, left⟩

theorem reads_of_drained {α : Type} (h : g.isDrained = true ∨ g.source = none)
    (read : List ProducerItem → Except Error α × Guard) :
    g.reads read = (.error .streamConsumed, g) := by
  unfold reads
  split
  · rfl
  · rename_i unmarked
    rw [h.resolve_left unmarked]

theorem pollChunk_of_drained (h : g.isDrained = true ∨ g.source = none) :
    pollChunk false g = (.ready (.error .streamConsumed), false, g) := by
  unfold pollChunk
  split
  · rfl
  · rename_i unmarked
    rw [h.resolve_left unmarked]

theorem pollItem_of_drained (h : g.isDrained = true ∨ g.source = none) :
    g.pollItem = (.ready (some (.error .streamConsumed)), g) := by
  unfold pollItem
  split
  · rfl
  · rename_i unmarked
    rw [h.resolve_left unmarked]

theorem run_nextChunk (g : Guard) :
    ∃ begun, nextChunk.run (false, g) = (g.next.1, begun, g.next.2) := by
  rcases g.drained_or_holding with drained | ⟨items, polls, rfl⟩
  · refine ⟨false, ?_⟩
    rw [Guard.next, reads_of_drained drained]
    exact Future.run_ready (f := nextChunk) (pollChunk_of_drained drained)
  · exact run_chunk_holding false items polls

theorem run_nextItem (g : Guard) : nextItem.run g = (itemOf g.next.1, g.next.2) := by
  rcases g.drained_or_holding with drained | ⟨items, polls, rfl⟩
  · rw [Guard.next, reads_of_drained drained]
    exact Future.run_ready (f := nextItem) (pollItem_of_drained drained)
  · exact run_item_holding items polls

theorem run_allLeft (g : Guard) :
    ∃ r : Reading, allLeft.run ⟨[], false, g⟩ = (g.readAll.1, r) ∧ r.guard = g.readAll.2 := by
  rcases g.drained_or_holding with drained | ⟨items, polls, rfl⟩
  · refine ⟨⟨[], false, g⟩, ?_, ?_⟩
    · rw [readAll, reads_of_drained drained]
      refine Future.run_ready (f := allLeft) ?_
      show pollAll _ = _
      rw [pollAll_eq, pollChunk_of_drained drained]
      rfl
    · rw [readAll, reads_of_drained drained]
  · exact run_all_holding [] false items polls

/-! ## Uses that are awaited -/

/-- The use of a guard that is awaited: what comes of it, and the guard as it is left. -/
def await (g : Guard) : Use → Outcome × Guard
  | .next =>
    let (read, _, left) := nextChunk.run (false, g)
    (.ofNext read, left)
  | .iterate =>
    let (item, left) := nextItem.run g
    (.ofItem item, left)
  | .readAll =>
    let (read, reading) := allLeft.run ⟨[], false, g⟩
    (.ofAll read, reading.guard)
  | .release => (.released, g.release)

def behindAwaited (g : Guard) (uses : List Use) : Guard := uses.foldl (fun g u => (g.await u).2) g

/-- What comes of these uses, each of which is awaited. -/
def awaited (g : Guard) : List Use → List Outcome
  | [] => []
  | u :: uses => (g.await u).1 :: awaited (g.await u).2 uses

/-- However it is polled, what comes of a use is what is said of a guard. -/
theorem await_eq (g : Guard) (u : Use) : g.await u = g.use u := by
  cases u with
  | next =>
      obtain ⟨begun, run⟩ := run_nextChunk g
      simp only [await, run]
      rfl
  | iterate =>
      simp only [await, run_nextItem]
      rfl
  | readAll =>
      obtain ⟨r, run, left⟩ := run_allLeft g
      simp only [await, run, left]
      rfl
  | release => rfl

theorem behindAwaited_eq (g : Guard) (uses : List Use) :
    g.behindAwaited uses = g.behindUses uses := by
  simp only [behindAwaited, behindUses, await_eq]

theorem awaited_eq (g : Guard) (uses : List Use) : g.awaited uses = g.outcomes uses := by
  induction uses generalizing g with
  | nil => rfl
  | cons u uses ih => rw [awaited, await_eq, ih, outcomes]

end Guard

/-! ## The two guards -/

theorem ProducerItem.filterMap_given? (items : List ProducerItem) :
    (items.filter (· ≠ .pause)).filterMap (·.given?) = items.filterMap (·.given?) := by
  rw [List.filterMap_filter]
  congr 1
  funext item
  cases item <;> rfl

open Guard in
/-- The guard that blocks has the same mark, and its source gives the same without the pauses. -/
structure Mirrors (g : Guard) (b : BlockingGuard) : Prop where
  mark : b.isDrained = g.isDrained
  source : b.source = g.source.map (List.filterMap ProducerItem.given?)

namespace Mirrors

open Guard

variable {g : Guard} {b : BlockingGuard}

theorem new (items : List ProducerItem) :
    Mirrors (.new items) (.new (items.filterMap (·.given?))) := ⟨rfl, rfl⟩

theorem release (g : Guard) : Mirrors g.release ⟨none, true⟩ := ⟨rfl, rfl⟩

theorem holding (items : List ProducerItem) (polls : Nat) :
    Mirrors (.holding items polls) (.new (items.filterMap (·.given?))) := ⟨rfl, rfl⟩

theorem of_holding {items : List ProducerItem} {polls : Nat}
    (h : Mirrors (.holding items polls) b) :
    b = .new (items.filterMap (·.given?)) := by
  obtain ⟨source, mark⟩ := b
  obtain ⟨same, there⟩ := h
  cases same
  cases there
  rfl

theorem drained (h : Mirrors g b) (drained : g.isDrained = true ∨ g.source = none) :
    b.next = (.error .streamConsumed, b) := by
  unfold BlockingGuard.next
  rcases drained with marked | gone
  · rw [if_pos (h.mark.trans marked)]
  · split
    · rfl
    · rw [show b.source = none by rw [h.source, gone]; rfl]

theorem next (h : Mirrors g b) : b.next.1 = g.next.1 ∧ Mirrors g.next.2 b.next.2 := by
  rcases g.drained_or_holding with drained | ⟨items, polls, rfl⟩
  · rw [h.drained drained, Guard.next, reads_of_drained drained]
    exact ⟨rfl, h⟩
  · obtain rfl := h.of_holding
    show _ = ((Guard.holding items polls).take items).1 ∧
      Mirrors ((Guard.holding items polls).take items).2 _
    clear h
    induction items generalizing polls with
    | nil => exact ⟨rfl, release _⟩
    | cons item rest ih =>
        cases item with
        | chunk b => exact ⟨rfl, holding rest (polls + 1)⟩
        | failure d => exact ⟨rfl, release _⟩
        | pause => exact ih (polls + 1)

theorem readAll (h : Mirrors g b) :
    b.readAll.1 = g.readAll.1 ∧ Mirrors g.readAll.2 b.readAll.2 := by
  unfold BlockingGuard.readAll
  rcases g.drained_or_holding with drained | ⟨items, polls, rfl⟩
  · rw [BlockingGuard.collect_eq, h.drained drained, Guard.readAll, reads_of_drained drained]
    exact ⟨rfl, h⟩
  · obtain rfl := h.of_holding
    show _ = ((Guard.holding items polls).collect [] items).1 ∧
      Mirrors ((Guard.holding items polls).collect [] items).2 _
    clear h
    generalize ([] : Bytes) = bytes
    induction items generalizing polls bytes with
    | nil =>
        rw [BlockingGuard.collect_eq]
        exact ⟨rfl, release _⟩
    | cons item rest ih =>
        cases item with
        | chunk b =>
            rw [BlockingGuard.collect_eq]
            exact ih (polls + 1) (bytes ++ b)
        | failure d =>
            rw [BlockingGuard.collect_eq]
            exact ⟨rfl, release _⟩
        | pause => exact ih (polls + 1) bytes

/-- A use of both comes to the same, and they are in step behind it. -/
theorem use (h : Mirrors g b) (u : Use) :
    (b.use u).1 = (g.use u).1 ∧ Mirrors (g.use u).2 (b.use u).2 := by
  cases u with
  | next => exact ⟨congrArg Outcome.ofNext h.next.1, h.next.2⟩
  | iterate => exact ⟨congrArg (fun read => Outcome.ofItem (itemOf read)) h.next.1, h.next.2⟩
  | readAll => exact ⟨congrArg Outcome.ofAll h.readAll.1, h.readAll.2⟩
  | release => exact ⟨rfl, release g⟩

theorem uses (h : Mirrors g b) (uses : List Use) :
    b.outcomes uses = g.outcomes uses ∧ Mirrors (g.behindUses uses) (b.behindUses uses) := by
  induction uses generalizing g b with
  | nil => exact ⟨rfl, h⟩
  | cons u uses ih =>
      obtain ⟨come, step⟩ := h.use u
      obtain ⟨comes, last⟩ := ih step
      exact ⟨by rw [BlockingGuard.outcomes, Guard.outcomes, come, comes], last⟩

theorem exists_mirror (g : Guard) : ∃ b, Mirrors g b :=
  ⟨⟨g.source.map (List.filterMap ProducerItem.given?), g.isDrained⟩, rfl, rfl⟩

theorem polled {rest : List ProducerItem} (h : Mirrors g b)
    (held : g.source = some (.pause :: rest)) : Mirrors (g.polled rest) b :=
  ⟨h.mark, by rw [h.source, held]; rfl⟩

end Mirrors

/-! ## The whole -/

open Guard in
/-- However often the source has nothing ready, and wherever: what comes of uses that are awaited is
what comes of them, one by one, by blocking, over the same source without its pauses, and the mark
is the same behind each of them.  Both are what is said of producers.

A poll for an item or for a chunk that finds nothing ready leaves the guard with the same mark and
the same source behind the pause, and all that comes later is the same.  A read to the end has then
only taken the chunks that it keeps.  And a body that is read by blocking is read by those who await
in the same way. -/
theorem awaited_as_blocking (items : List ProducerItem) (uses : List Use) :
    (Guard.new items).awaited uses =
      (BlockingGuard.new (items.filterMap (·.given?))).outcomes uses ∧
    (∀ n, ((Guard.new items).behindAwaited (uses.take n)).isDrained =
      ((BlockingGuard.new (items.filterMap (·.given?))).behindUses (uses.take n)).isDrained) ∧
    (Guard.new items).awaited uses = Producer.outcomes (.live items) uses ∧
    (BlockingGuard.new (items.filterMap (·.given?))).outcomes uses =
      Producer.outcomes (.live (items.filter (· ≠ .pause))) uses ∧
    (∀ n, ((Guard.new items).behindAwaited (uses.take n)).isDrained =
        (Producer.behindUses (.live items) (uses.take n)).isDrained ∧
      ((BlockingGuard.new (items.filterMap (·.given?))).behindUses (uses.take n)).isDrained =
        (Producer.behindUses (.live (items.filter (· ≠ .pause))) (uses.take n)).isDrained) ∧
    (∀ g g' : Guard,
      g.pollItem = (.pending, g') ∨ (∃ begun begun', pollChunk begun g = (.pending, begun', g')) →
      g'.isDrained = g.isDrained ∧
      (∃ rest, g.source = some (.pause :: rest) ∧ g'.source = some rest) ∧
      ∀ later, g'.awaited later = g.awaited later) ∧
    (∀ r r' : Reading, pollAll r = (.pending, r') →
      r'.guard.isDrained = r.guard.isDrained ∧
      ∃ (chunks : List Bytes) (rest : List ProducerItem),
      r.guard.source = some (chunks.map .chunk ++ .pause :: rest) ∧
        r'.guard.source = some rest ∧ r'.bytes = r.bytes ++ chunks.flatten) ∧
    ∀ source, (Body.stream source).readAll .async = (Body.stream source).readAll .blocking := by
  have fresh (items : List ProducerItem) : (Guard.new items).InStep := rfl
  have mirrors := Mirrors.new items
  have mirrors' := Mirrors.new (items.filter (· ≠ .pause))
  rw [ProducerItem.filterMap_given?] at mirrors'
  refine ⟨?_, fun n => ?_, ?_, ?_, fun n => ⟨?_, ?_⟩, ?_, ?_, fun _ => rfl⟩
  · rw [awaited_eq, (mirrors.uses uses).1]
  · rw [behindAwaited_eq, (mirrors.uses _).2.mark]
  · rw [awaited_eq]
    exact (behindUses_eq (fresh items) uses).1
  · rw [(mirrors'.uses uses).1]
    exact (behindUses_eq (fresh _) uses).1
  · rw [behindAwaited_eq]
    obtain ⟨-, state, step⟩ := behindUses_eq (fresh items) (uses.take n)
    rw [← step.isDrained_producer, state]
    rfl
  · rw [(mirrors'.uses _).2.mark]
    obtain ⟨-, state, step⟩ := behindUses_eq (fresh (items.filter (· ≠ .pause))) (uses.take n)
    rw [← step.isDrained_producer, state]
    rfl
  · intro g g' waits
    have paused : ∃ rest, g.source = some (.pause :: rest) ∧ g' = g.polled rest := by
      rcases waits with item | ⟨_, _, chunk⟩
      · exact pollItem_pending item
      · exact pollChunk_pending chunk
    obtain ⟨rest, held, rfl⟩ := paused
    refine ⟨rfl, ⟨rest, held, rfl⟩, fun later => ?_⟩
    obtain ⟨b, step⟩ := Mirrors.exists_mirror g
    rw [awaited_eq, awaited_eq, ← (step.uses later).1, ((step.polled held).uses later).1]
  · intro r r' waits
    obtain ⟨chunks, rest, held, left, mark, bytes⟩ := pollAll_pending waits
    exact ⟨mark, chunks, rest, held, left, bytes⟩

/-- Gives a chunk, stops twice, fails, and is not asked for the chunk behind the failure. -/
def halting : List ProducerItem :=
  [.chunk [1], .pause, .pause, .failure "x", .chunk [2]]

open Guard in
/-- The failure comes out of the read to the end, behind two polls that find nothing ready. -/
theorem awaited_as_blocking_of_halting :
    (Guard.new halting).awaited [.iterate, .readAll, .next, .release] =
      [.chunk [1], .failed (.read "x"), .failed .streamConsumed, .released] ∧
    (BlockingGuard.new [.ok [1], .error "x", .ok [2]]).outcomes
        [.iterate, .readAll, .next, .release] =
      [.chunk [1], .failed (.read "x"), .failed .streamConsumed, .released] ∧
    pollItem (holding (halting.drop 1) 1) =
      (.pending, holding (halting.drop 2) 2) ∧
    (holding (halting.drop 2) 2).awaited [.next, .next] =
      (holding (halting.drop 1) 1).awaited [.next, .next] ∧
    ∃ (chunks : List Bytes) (rest : List ProducerItem),
      halting = chunks.map .chunk ++ .pause :: rest ∧ chunks.flatten = [1] := by
  obtain ⟨both, -, awaited, -, -, polled, all, -⟩ :=
    awaited_as_blocking halting [.iterate, .readAll, .next, .release]
  have come : Producer.outcomes (.live halting) [.iterate, .readAll, .next, .release] =
      [.chunk [1], .failed (.read "x"), .failed .streamConsumed, .released] := by decide
  have waits : pollItem (holding (halting.drop 1) 1) =
      (.pending, holding (halting.drop 2) 2) := rfl
  obtain ⟨-, -, later⟩ := polled _ _ (.inl waits)
  have reads : pollAll ⟨[], false, (Guard.new halting)⟩ =
      (.pending, ⟨[1], true, holding (halting.drop 2) 2⟩) := by
    show pollAll ⟨[], false, holding halting 0⟩ = _
    rw [pollAll_holding]
    exact pollAll_holding [1] false (halting.drop 1) 1
  obtain ⟨-, chunks, rest, held, -, bytes⟩ := all _ _ reads
  exact ⟨awaited.trans come, both.symm.trans (awaited.trans come), waits, later [.next, .next],
    chunks, rest, Option.some.inj held, bytes.symm⟩

end HttpClient
