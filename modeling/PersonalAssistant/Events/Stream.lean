import PersonalAssistant.Coro.Machine
import PersonalAssistant.Domain.Models

/-!
# The stream of task events

`PostgresEventStream` numbers an event when its row is inserted; a reader sees the row once its
transaction has committed, and asks only for what is above the last number it has. A transaction
that commits after the reader has passed one of its numbers is not seen.
-/

namespace PersonalAssistant

open List

/-- A row of `task_events`. -/
structure TaskEvent where
  sequence : Nat
  type : String
  taskId : String
  data : Value
  occurredAt : Time

namespace EventStream

/-- The table as the publishing transactions and one reader find it. -/
structure State where
  /-- The number of the next inserted row. -/
  next : Nat
  /-- The rows of the open transactions. -/
  pending : List (Nat × TaskEvent)
  /-- The committed rows. -/
  events : List TaskEvent
  /-- The last sequence the reader received. -/
  cursor : Nat
  received : List TaskEvent
  /-- Whether the reader is in `wait_after`, past its first query. -/
  waiting : Bool

/-- An empty table and a reader that asks for what is above `first`. -/
def State.start (first : Nat) : State := ⟨1, [], [], first, [], false⟩

inductive Input where
  /-- `publish` inserts a row in a transaction; alone it commits it at once. -/
  | publish (transaction : Nat) (type taskId : String) (data : Value) (occurredAt : Time)
  | commit (transaction : Nat)
  | abort (transaction : Nat)
  | after
  | waitAfter
  /-- A notification sets `_wake` while the reader waits for it. -/
  | woken
  | timedOut

/-- `ORDER BY sequence`. -/
abbrev Ordered : TaskEvent → TaskEvent → Prop := Order.Preimage TaskEvent.sequence (· ≤ ·)

/-- `PostgresEventStream.after`. -/
def after (s : State) (sequence : Nat) : List TaskEvent :=
  (s.events.filter (sequence < ·.sequence)).insertionSort Ordered

/-- The reader takes what a call returned; its cursor is the last number of it. -/
def State.receive (s : State) (rows : List TaskEvent) : State :=
  { s with
    received := s.received ++ rows, cursor := rows.foldl (fun _ event => event.sequence) s.cursor, waiting := false }

def State.rowsOf (s : State) (transaction : Nat) : List (Nat × TaskEvent) :=
  s.pending.filter (·.1 == transaction)

def State.rowsWithout (s : State) (transaction : Nat) : List (Nat × TaskEvent) :=
  s.pending.filter (!·.1 == transaction)

/-- One statement of a transaction, or one step of the reader; the answer is what its call returns.
`wait_after` asks once, and again when it is woken. -/
def step : Machine State Input (Option (List TaskEvent))
  | s, .publish transaction type taskId data occurredAt =>
    (none, { s with
      next := s.next + 1
      pending := s.pending ++ [(transaction, ⟨s.next, type, taskId, data, occurredAt⟩)] })
  | s, .commit transaction =>
    (none, { s with events := s.events ++ (s.rowsOf transaction).map Prod.snd, pending := s.rowsWithout transaction })
  | s, .abort transaction => (none, { s with pending := s.rowsWithout transaction })
  | s, .after => if s.waiting then (none, s) else (some (after s s.cursor), s.receive (after s s.cursor))
  | s, .waitAfter =>
    if s.waiting then (none, s)
    else match after s s.cursor with
      | [] => (none, { s with waiting := true })
      | existing => (some existing, s.receive existing)
  | s, .woken => if s.waiting then (some (after s s.cursor), s.receive (after s s.cursor)) else (none, s)
  | s, .timedOut => if s.waiting then (some [], { s with waiting := false }) else (none, s)

/-- What a step does to the table and to the reader. -/
theorem step_cases (s : State) (i : Input) :
    (∃ transaction event, i = .publish transaction event.type event.taskId event.data event.occurredAt ∧
      event.sequence = s.next ∧
      (step s i).2 = { s with next := s.next + 1, pending := s.pending ++ [(transaction, event)] }) ∨
    (∃ transaction, i = .commit transaction ∧
      (step s i).2 = { s with
        events := s.events ++ (s.rowsOf transaction).map Prod.snd, pending := s.rowsWithout transaction }) ∨
    (∃ transaction, i = .abort transaction ∧ (step s i).2 = { s with pending := s.rowsWithout transaction }) ∨
    ((∀ transaction, i ≠ .commit transaction) ∧
      ((step s i).2 = s.receive (after s s.cursor) ∨ ∃ waiting, (step s i).2 = { s with waiting := waiting })) := by
  cases i with
  | publish transaction type taskId data occurredAt =>
    exact .inl ⟨transaction, ⟨s.next, type, taskId, data, occurredAt⟩, rfl, rfl, rfl⟩
  | commit transaction => exact .inr (.inl ⟨transaction, rfl, rfl⟩)
  | abort transaction => exact .inr (.inr (.inl ⟨transaction, rfl, rfl⟩))
  | after | woken | timedOut =>
    refine .inr (.inr (.inr ⟨by simp, ?_⟩))
    simp only [step]
    split
    all_goals first | exact .inl rfl | exact .inr ⟨_, rfl⟩
  | waitAfter =>
    refine .inr (.inr (.inr ⟨by simp, ?_⟩))
    simp only [step]
    split
    · exact .inr ⟨_, rfl⟩
    · split
      · exact .inr ⟨true, rfl⟩
      · exact .inl rfl

variable {first : Nat} {s : State}

theorem mem_after {sequence : Nat} {event : TaskEvent} :
    event ∈ after s sequence ↔ event ∈ s.events ∧ sequence < event.sequence := by
  simp [after]

theorem le_foldl_sequence {rows : List TaskEvent} (cursor : Nat) (above : ∀ event ∈ rows, cursor < event.sequence)
    (increasing : rows.Pairwise (·.sequence < ·.sequence)) :
    cursor ≤ rows.foldl (fun _ event => event.sequence) cursor ∧
      ∀ event ∈ rows, event.sequence ≤ rows.foldl (fun _ event => event.sequence) cursor := by
  induction rows generalizing cursor with
  | nil => simp
  | cons head rest ih =>
    obtain ⟨first, increasing⟩ := pairwise_cons.mp increasing
    obtain ⟨lower, upper⟩ := ih head.sequence first increasing
    have := above head mem_cons_self
    constructor
    · simp only [foldl_cons]
      omega
    · exact forall_mem_cons.mpr ⟨lower, upper⟩

/-- What holds at every moment, whatever the transactions do. -/
structure Sound (first : Nat) (s : State) : Prop where
  apart : (s.events ++ s.pending.map Prod.snd).Pairwise (·.sequence ≠ ·.sequence)
  numbered : ∀ event ∈ s.events ++ s.pending.map Prod.snd, event.sequence < s.next
  increasing : s.received.Pairwise (·.sequence < ·.sequence)
  past : ∀ event ∈ s.received, event ∈ s.events ∧ first < event.sequence ∧ event.sequence ≤ s.cursor
  begun : first ≤ s.cursor

/-- A query returns different rows in increasing order. -/
theorem Sound.after_increasing (sound : Sound first s) (sequence : Nat) :
    (after s sequence).Pairwise (·.sequence < ·.sequence) := by
  have apart : (after s sequence).Pairwise (·.sequence ≠ ·.sequence) := by
    refine (List.Perm.pairwise_iff (fun differ => differ.symm) (perm_insertionSort _ _)).mpr ?_
    exact (pairwise_append.mp sound.apart).1.filter _
  refine ((pairwise_insertionSort Ordered _).and apart).imp ?_
  rintro a b ⟨ordered, differ⟩
  exact Nat.lt_of_le_of_ne ordered differ

theorem rows_perm (s : State) (transaction : Nat) :
    (s.events ++ (s.rowsOf transaction).map Prod.snd ++ (s.rowsWithout transaction).map Prod.snd).Perm
      (s.events ++ s.pending.map Prod.snd) := by
  rw [append_assoc, ← map_append]
  exact ((filter_append_perm _ s.pending).map _).append_left _

/-- Every step keeps what the reader has sound, whoever commits late. -/
theorem Sound.step (sound : Sound first s) (i : Input) : Sound first (step s i).2 := by
  rcases step_cases s i with ⟨transaction, event, -, number, result⟩ | ⟨transaction, -, result⟩ |
    ⟨transaction, -, result⟩ |
      ⟨-, result | ⟨waiting, result⟩⟩ <;> rw [result]
  · refine { sound with apart := ?_, numbered := ?_ }
    · simp only [map_append, ← append_assoc, map_cons, map_nil]
      refine pairwise_append.mpr ⟨sound.apart, pairwise_singleton _ _, ?_⟩
      intro other member new fresh
      have := sound.numbered other member
      simp only [mem_singleton.mp fresh]
      omega
    · intro other member
      simp only [map_append, ← append_assoc, map_cons, map_nil, mem_append,
        mem_singleton] at member
      have := sound.numbered other
      simp only [mem_append] at this
      grind
  · refine { sound with apart := ?_, numbered := ?_, past := ?_ }
    · exact (List.Perm.pairwise_iff (fun differ => differ.symm) (rows_perm s transaction)).mpr sound.apart
    · intro event member
      exact sound.numbered event ((rows_perm s transaction).mem_iff.mp member)
    · intro event member
      obtain ⟨committed, above⟩ := sound.past event member
      exact ⟨mem_append_left _ committed, above⟩
  · have fewer : (s.events ++ (s.rowsWithout transaction).map Prod.snd).Sublist (s.events ++ s.pending.map Prod.snd) :=
      (filter_sublist.map _).append_left _
    exact { sound with
      apart := sound.apart.sublist fewer
      numbered := fun event member => sound.numbered event (fewer.subset member) }
  · obtain ⟨lower, upper⟩ := le_foldl_sequence s.cursor (fun event member => (mem_after.mp member).2)
     (sound.after_increasing s.cursor)
    refine { sound with increasing := ?_, past := ?_, begun := sound.begun.trans lower }
    · refine pairwise_append.mpr ⟨sound.increasing, sound.after_increasing s.cursor, ?_⟩
      intro old earlier new later
      exact Nat.lt_of_le_of_lt (sound.past old earlier).2.2 (mem_after.mp later).2
    · intro event member
      rcases mem_append.mp member with member | member
      · obtain ⟨committed, above, upTo⟩ := sound.past event member
        exact ⟨committed, above, upTo.trans lower⟩
      · obtain ⟨committed, above⟩ := mem_after.mp member
        exact ⟨committed, Nat.lt_of_le_of_lt sound.begun above, upper event member⟩
  · exact { sound with }

/-- No committed row has been passed over. -/
def Reachable (first : Nat) (s : State) : Prop :=
  ∀ event ∈ s.events, first < event.sequence → event ∈ s.received ∨ s.cursor < event.sequence

/-- A transaction does not commit once the reader has received a number above one of its own. -/
def Timely (first : Nat) (s : State) : Input → Prop
  | .commit transaction => ∀ row ∈ s.rowsOf transaction, first < row.2.sequence → s.cursor < row.2.sequence
  | _ => True

/-- What the reader has received, followed by what its next query returns, is every committed event
above the number it began with, each once and in increasing order. -/
def Delivered (first : Nat) (s : State) : Prop :=
  (s.received ++ after s s.cursor).Pairwise (·.sequence < ·.sequence) ∧
    ∀ event, event ∈ s.received ++ after s s.cursor ↔ event ∈ s.events ∧ first < event.sequence

/-- A reader whose rows are sound gets all exactly if none is out of reach. -/
theorem Sound.delivered_iff (sound : Sound first s) : Delivered first s ↔ Reachable first s := by
  constructor
  · rintro ⟨-, all⟩ event committed above
    rcases mem_append.mp ((all event).mpr ⟨committed, above⟩) with old | next
    · exact .inl old
    · exact .inr (mem_after.mp next).2
  · intro reachable
    refine ⟨pairwise_append.mpr ⟨sound.increasing, sound.after_increasing _, ?_⟩, fun event => ?_⟩
    · intro old earlier new later
      exact Nat.lt_of_le_of_lt (sound.past old earlier).2.2 (mem_after.mp later).2
    · rw [mem_append, mem_after]
      constructor
      · rintro (old | ⟨committed, above⟩)
        · exact ⟨(sound.past event old).1, (sound.past event old).2.1⟩
        · exact ⟨committed, Nat.lt_of_le_of_lt sound.begun above⟩
      · rintro ⟨committed, above⟩
        exact (reachable event committed above).imp_right fun later => ⟨committed, later⟩

/-- A step passes over a row only if it commits one the reader is past. -/
theorem Sound.reachable_step (sound : Sound first s) (i : Input) :
    Reachable first (EventStream.step s i).2 ↔ Reachable first s ∧ Timely first s i := by
  rcases step_cases s i with ⟨transaction, event, rfl, -, result⟩ | ⟨transaction, rfl, result⟩ |
    ⟨transaction, rfl, result⟩ |
      ⟨other, result⟩
  · simp [result, Reachable, Timely]
  · rw [result]
    constructor
    · intro reachable
      refine ⟨fun event committed => reachable event (mem_append_left _ committed), ?_⟩
      intro row mine above
      have committed : row.2 ∈ s.events ++ (s.rowsOf transaction).map Prod.snd :=
        mem_append_right _ (mem_map_of_mem mine)
      rcases reachable row.2 committed above with old | later
      · -- a received row is committed, so it is not one of an open transaction
        exact absurd rfl ((pairwise_append.mp sound.apart).2.2 row.2 (sound.past _ old).1 row.2
          (mem_map_of_mem (mem_of_mem_filter mine)))
      · exact later
    · rintro ⟨reachable, timely⟩ event committed above
      rcases mem_append.mp committed with committed | mine
      · exact reachable event committed above
      · obtain ⟨row, own, rfl⟩ := mem_map.mp mine
        exact .inr (timely row own above)
  · simp [result, Reachable, Timely]
  · have timely : Timely first s i := by
      cases i <;> simp_all [Timely]
    rcases result with result | ⟨waiting, result⟩ <;> rw [result, and_iff_left timely]
    · have lower := (le_foldl_sequence s.cursor (fun event member => (mem_after.mp member).2)
       (sound.after_increasing s.cursor)).1
      constructor
      · intro reachable event committed above
        rcases reachable event committed above with received | later
        · rcases mem_append.mp received with old | new
          · exact .inl old
          · exact .inr (mem_after.mp new).2
        · exact .inr (Nat.lt_of_le_of_lt lower later)
      · intro reachable event committed above
        rcases reachable event committed above with old | later
        · exact .inl (mem_append_left _ old)
        · exact .inl (mem_append_right _ (mem_after.mpr ⟨committed, later⟩))
    · exact Iff.rfl

theorem Sound.start (first : Nat) : Sound first (State.start first) := by
  constructor <;> simp [State.start]

theorem Sound.of_run {tr : List (Input × Option (List TaskEvent))}
    (run : Machine.Run EventStream.step (fun _ _ _ => True) [] (State.start first) tr s) : Sound first s :=
  run.invariant (P := fun _ => Sound first) (.start first) fun _ _ i sound _ => sound.step i

/-- In a run of any transactions and a reader, the reader gets every committed event, each once and
in increasing order, exactly if every commit was timely. -/
theorem delivered_iff_timely {tr : List (Input × Option (List TaskEvent))}
    (run : Machine.Run step (fun _ _ _ => True) [] (State.start first) tr s) :
    Delivered first s ↔ Machine.Run step (fun _ => Timely first) [] (State.start first) tr s := by
  rw [(Sound.of_run run).delivered_iff]
  constructor
  · intro reachable
    induction run with
    | start => exact .start
    | @step tr s run i _ ih =>
      obtain ⟨reachable, timely⟩ := ((Sound.of_run run).reachable_step i).mp reachable
      exact (ih reachable).step i timely
  · intro timely
    refine (timely.invariant (P := fun _ s => Sound first s ∧ Reachable first s)
      ⟨.start first, by simp [Reachable, State.start]⟩ ?_).2
    rintro _ s i ⟨sound, reachable⟩ timely
    exact ⟨sound.step i, (sound.reachable_step i).mpr ⟨reachable, timely⟩⟩

/-- Two transactions publish an event each; the second one commits and the reader gets its event, then
the first one commits. -/
def overtaking : List Input :=
  [.publish 1 "task.queued" "a" (.dict []) 0, .publish 2 "task.queued" "b" (.dict []) 0, .commit 2, .after, .commit 1]

def overtaken : State := (step.feed [] (State.start 0) overtaking).2

/-- Whatever commits late, what a reader gets is committed, new and in order. -/
theorem reader_sound {tr} (run : Machine.Run step (fun _ _ _ => True) [] (State.start first) tr s) : Sound first s :=
  .of_run run

/-- The reader of the sample, although a commit overtook another. -/
theorem reader_sound_sample : Sound 0 overtaken := reader_sound (.feed overtaking fun _ _ _ _ => trivial)

/-- The transactions commit in the order of their numbers, and the reader asks after each. -/
def inTurn : List Input :=
  [.publish 1 "task.queued" "a" (.dict []) 0, .publish 2 "task.queued" "b" (.dict []) 0, .commit 1, .after, .commit 2,
    .after]

/-- Both events of the sample are delivered. -/
theorem delivered_sample : Delivered 0 (step.feed [] (State.start 0) inTurn).2 := by
  refine (delivered_iff_timely (.feed inTurn fun _ _ _ _ => trivial)).mpr ?_
  refine .step (.step (.step (.step (.step (.step .start _ trivial) _ trivial) (Input.commit 1) ?_) _ trivial)
    (Input.commit 2) ?_) _ trivial
  · show ∀ row ∈ State.rowsOf _ 1, 0 < row.2.sequence → _ < row.2.sequence
    decide
  · show ∀ row ∈ State.rowsOf _ 2, 0 < row.2.sequence → _ < row.2.sequence
    decide

/-- The event of the first transaction is committed and no later query returns it. -/
theorem delivered_overtaken :
    ∃ tr s event, Machine.Run step (fun _ _ _ => True) [] (State.start 0) tr s ∧
      event ∈ s.events ∧ event ∉ s.received ++ after s s.cursor ∧ ¬Delivered 0 s := by
  have run : Machine.Run step (fun _ _ _ => True) [] (State.start 0) _ overtaken :=
    .feed overtaking fun _ _ _ _ => trivial
  let event : TaskEvent := ⟨1, "task.queued", "a", .dict [], 0⟩
  have committed : event ∈ overtaken.events := mem_cons_of_mem _ mem_cons_self
  have missed : event ∉ overtaken.received ++ after overtaken overtaken.cursor := by
    simp [event, overtaken, overtaking, Machine.feed, step, State.start, State.rowsOf, State.rowsWithout,
      State.receive, after]
  exact ⟨_, _, event, run, committed, missed, fun delivered =>
    missed ((delivered.2 event).mpr ⟨committed, Nat.zero_lt_one⟩)⟩

end EventStream

end PersonalAssistant
