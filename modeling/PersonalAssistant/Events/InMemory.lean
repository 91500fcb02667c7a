import PersonalAssistant.Events.Stages

/-!
# Collection over the store in memory

The record of an event is there from the moment it is put, before the sink has the event. If
the sink accepts every event, all that is recorded was delivered whenever no command runs; if
it refuses one, the record stays, the next collection takes the event for delivered, and the
cursor moves past it.
-/

namespace PersonalAssistant

open Function List MemorySystem

namespace EventCollector

variable (c : EventCollector) (turn : Turn Value)

/-- The store in memory, with a list of jobs for each task. -/
def memoryStart (jobs : Nat → List (Value × String)) : MemorySystem Value CollectOp Value :=
  { tasks := fun i => ⟨c.collectAll (jobs i), []⟩ }

/-- The sink does not fail. -/
def SinkAccepts (sys : MemorySystem Value CollectOp Value) (turn : Turn Value) : Prop :=
  ∀ event identity next, (sys.tasks turn.task).focus = .call (.sink event identity) next → ∃ a, turn.answer = .ok a

/-- The invariant, with what each task owes to the sink. -/
structure InMemory (tr : CollectHistory) (sys : MemorySystem Value CollectOp Value)
    (owes : Nat → Option (String × Value)) : Prop where
  working : ∀ i, c.Working tr (owes i) (sys.tasks i)
  owner : ∀ i, (sys.tasks i).frames ≠ [] → sys.owner = some i
  records : ∀ entry ∈ sys.tables.records,
    c.Accounted tr (fun identity value => ∃ i, owes i = some (identity, value)) entry
  collected : ∀ d ∈ sys.log, ∀ key digest response, d.item = .receipt key digest response → c.Collected tr d.frames

namespace InMemory

variable {c} {tr : CollectHistory} {sys sys' : MemorySystem Value CollectOp Value}
  {owes : Nat → Option (String × Value)}
  {i : Nat} {task : Task Value CollectOp Value}

variable (inv : c.InMemory tr sys owes)

include inv

/-- A turn of one task, after which it owes something else. -/
theorem of_update (more : CollectHistory) (owed : Option (String × Value))
    (tasks : sys'.tasks = update sys.tasks i task) (working : c.Working (tr ++ more) owed task)
    (owner : ∀ j, (sys'.tasks j).frames ≠ [] → sys'.owner = some j)
    (records : ∀ entry ∈ sys'.tables.records, entry ∈ sys.tables.records ∨
      c.Accounted tr (fun identity value => owed = some (identity, value)) entry)
    (paid : ∀ identity value, owes i = some (identity, value) → owed = some (identity, value) ∨
      c.Delivered (tr ++ more) identity value)
    (collected : ∀ d ∈ sys'.log, d ∈ sys.log ∨ ∀ key digest response, d.item = .receipt key digest response →
      c.Collected tr d.frames) :
    c.InMemory (tr ++ more) sys' (update owes i owed) where
  working j := by
    rw [tasks, update_apply, update_apply]
    split_ifs
    · exact working
    · exact (inv.working j).append more
  owner := owner
  records entry mem := by
    rcases records entry mem with old | new
    · refine (inv.records entry old).later more ?_
      rintro identity value ⟨j, owing⟩
      by_cases this : j = i
      · subst this
        rcases paid identity value owing with still | delivered
        · exact .inr ⟨j, by rw [update_self]; exact still⟩
        · exact .inl delivered
      · exact .inr ⟨j, by rw [update_of_ne this]; exact owing⟩
    · exact new.later more fun identity value owing => .inr ⟨i, by rw [update_self]; exact owing⟩
  collected d mem key digest response item := by
    rcases collected d mem with old | new
    · exact (inv.collected d old key digest response item).append more
    · exact (new key digest response item).append more

/-- A task that goes on with the tables and the log as they are. -/
theorem go (more : CollectHistory) {focus : CollectAction} {frames : List (Frame Value CollectOp Value)}
    (same : (sys.tasks i).frames = frames) (owed : Option (String × Value))
    (working : c.Working (tr ++ more) owed ⟨focus, frames⟩)
    (paid : ∀ identity value, owes i = some (identity, value) → owed = some (identity, value) ∨
      c.Delivered (tr ++ more) identity value) :
    ∃ owes', c.InMemory (tr ++ more) (sys.go i focus frames) owes' :=
  ⟨_, inv.of_update (i := i) more owed rfl working (owner_update inv.owner same) (fun _ mem => .inl mem) paid
    fun _ mem => .inl mem⟩

variable {identity : String} {jobs : List (Value × String)} {record : Rec Value} {value : Value}

/-- Where a task is inside a command, what another would owe is nothing. -/
theorem only (inside : (sys.tasks i).frames ≠ []) {j : Nat} (owing : owes j = some (identity, value)) : j = i := by
  rcases inv.working j with ⟨none_, _⟩ | ⟨focus, frame, jobs, at_, _⟩
  · rw [owing] at none_
    cases none_
  · have there : (sys.tasks j).frames ≠ [] := by rw [at_]; exact cons_ne_nil _ _
    exact Option.some.inj ((inv.owner j there).symm.trans (inv.owner i inside))

/-- A record that a task inside a command finds was delivered, unless the task owes it. -/
theorem found (inside : (sys.tasks i).frames ≠ []) (free : owes i = none)
    (mem : (("domain-events", identity), record) ∈ sys.tables.records) :
    c.Delivered tr identity record.value := by
  rcases (inv.records _ mem).event with delivered | ⟨j, owing⟩
  · exact delivered
  · rw [inv.only inside owing, free] at owing
    cases owing

/-- A turn of a task outside every command. -/
theorem outside (free : owes turn.task = none)
    (at_ : sys.tasks turn.task = ⟨c.collectAll jobs, []⟩) (more : CollectHistory) :
    ∃ owes', c.InMemory (tr ++ more) (sys.advance c.fingerprint turn) owes' := by
  have same : (sys.tasks turn.task).frames = [] := by rw [at_]
  have goes : ∀ rest, ∃ owes', c.InMemory (tr ++ more) (sys.go turn.task (c.collectAll rest) []) owes' := by
    intro rest
    exact inv.go more same none (.inl ⟨rfl, rest, rfl⟩) (unpaid free)
  have stays : ∃ owes', c.InMemory (tr ++ more) sys owes' := by
    have self : sys.go turn.task (c.collectAll jobs) [] = sys := by
      unfold MemorySystem.go
      rw [← at_, update_eq_self]
    exact self ▸ goes jobs
  unfold MemorySystem.advance
  rw [at_]
  rcases c.collectAll_cases jobs with done | ⟨b, key, payload, rest, command⟩
  · rw [done]
    exact stays
  · rw [command]
    simp only [act]
    cases commandDigest c.fingerprint key payload with
    | error e => exact goes rest
    | ok digest =>
      simp only [enter]
      split_ifs with waits
      · cases turn.fault with
        | none => exact stays
        | some e => exact goes rest
      · cases sys.tables.commands.lookup key with
        | some receipt => exact goes rest
        | none =>
          have alone : sys.owner = none := by
            by_contra held
            exact waits ⟨trivial, held⟩
          refine ⟨_, inv.of_update (i := turn.task) more none rfl ?_ ?_ (fun _ mem => .inl mem) (unpaid free)
            fun _ mem => .inl mem⟩
          · exact .inr ⟨c.apply b, _, rest, rfl, rfl, .start b⟩
          · intro j inside
            simp only [MemorySystem.go, update_apply] at inside
            split_ifs at inside with this
            · rw [this]
              rfl
            · rw [inv.owner j inside] at alone
              cases alone

/-- A `put` of a poll: the row is written under the lock, or the poll raises. -/
theorem put {frame : Frame Value CollectOp Value}
    {bucket key : String} {expectedVersion : Nat} {next : Except Exn (Rec Value) → CollectAction}
    (at_ : sys.tasks i = ⟨.put bucket key value expectedVersion next, [frame]⟩)
    (returns : frame.next = fun _ => c.collectAll jobs)
    (stage : c.Stage tr [frame.id] (owes i) (.put bucket key value expectedVersion next)) (more : CollectHistory) :
    ∃ owes', c.InMemory (tr ++ more) (sys.put i [frame] bucket key value expectedVersion next) owes' := by
  have same : (sys.tasks i).frames = [frame] := by rw [at_]
  obtain ⟨free, errors, _⟩ := stage.put rfl
  unfold MemorySystem.put
  cases checked : checkedRecord (sys.tables.records.lookup (bucket, key)) key value expectedVersion with
  | error e => exact inv.go more same none (.inr ⟨_, frame, jobs, rfl, returns, (errors e).append more⟩) (unpaid free)
  | ok record =>
    obtain ⟨owed, goes, accounted, _⟩ := stage.written checked
    refine ⟨_, inv.of_update (i := i) more owed rfl (.inr ⟨_, frame, jobs, rfl, returns, goes.append more⟩)
      (owner_update inv.owner same) ?_
      (unpaid free) ?_⟩
    · intro entry mem
      rcases mem_dictSet mem with rfl | old
      · exact .inr accounted
      · exact .inl old
    · exact forall_mem_append.mpr ⟨fun _ old => .inl old, forall_mem_singleton.mpr (.inr nofun)⟩

theorem leave (free : owes i = none) (inside : (sys.tasks i).frames ≠ []) (more : CollectHistory)
    (tasks : sys'.tasks = update sys.tasks i ⟨c.collectAll jobs, []⟩)
    (records : sys'.tables.records = sys.tables.records)
    (log : ∀ d ∈ sys'.log, d ∈ sys.log ∨ ∀ key digest response, d.item = .receipt key digest response →
      c.Collected tr d.frames) :
    ∃ owes', c.InMemory (tr ++ more) sys' owes' := by
  refine ⟨_, inv.of_update (i := i) more none tasks (.inl ⟨rfl, jobs, rfl⟩) ?_ ?_ (unpaid free) log⟩
  · intro j still
    rw [tasks, update_apply] at still
    split_ifs at still with this
    · exact absurd rfl still
    · have mine : some j = some i := (inv.owner j still).symm.trans (inv.owner i inside)
      exact absurd (Option.some.inj mine) this
  · exact fun _ mem => .inl (records ▸ mem)

/-- Every turn in which the sink accepts keeps the invariant. -/
theorem advance (accepts : SinkAccepts sys turn) :
    ∃ owes', c.InMemory (tr ++ [(turn, (sys.tasks turn.task).called turn.answer)])
      (sys.advance c.fingerprint turn) owes' := by
  rcases inv.working turn.task with ⟨free, jobs, at_⟩ | ⟨focus, frame, jobs, at_, returns, stage⟩
  · exact inv.outside turn free at_ _
  · have same : (sys.tasks turn.task).frames = [frame] := by rw [at_]
    have inside : (sys.tasks turn.task).frames ≠ [] := by rw [at_]; exact cons_ne_nil _ _
    unfold MemorySystem.advance
    cases focus with
    | done result =>
      obtain ⟨free, collected⟩ := stage.head.2.2.1 result rfl
      have tasks : (sys.finish turn.task frame [] result).tasks = update sys.tasks turn.task
        ⟨c.collectAll jobs, []⟩ := by
        simp only [finish, MemorySystem.go, release, returns]
      rw [at_]
      refine inv.leave free inside _ tasks rfl ?_
      exact forall_mem_append.mpr ⟨fun _ old => .inl old, forall_mem_singleton.mpr (.inr fun _ _ _ _ => collected)⟩
    | raise e =>
      have free := stage.head.2.2.2 e rfl
      have tasks : (sys.abandon turn.task frame [] e).tasks = update sys.tasks turn.task ⟨c.collectAll jobs, []⟩ := by
        simp only [abandon, MemorySystem.go, release, returns]
      rw [at_]
      exact inv.leave free inside _ tasks rfl fun d mem => .inl mem
    | get bucket key next =>
      have free := (stage.get rfl (.error .cancelled) fun _ answer _ => by cases answer).1
      have goes := (stage.get rfl (.ok (sys.tables.records.lookup (bucket, key))) ?_).2
      · have stages := goes.append [(turn, (sys.tasks turn.task).called turn.answer)]
        rw [at_] at stages ⊢
        exact inv.go _ same none (.inr ⟨_, frame, jobs, rfl, returns, stages⟩) (unpaid free)
      · rintro record answer rfl
        exact inv.found inside free (mem_of_lookup_eq_some (Except.ok.inj answer))
    | list bucket next => exact absurd rfl (stage.head.2.1 bucket next)
    | put bucket key value expectedVersion next =>
      obtain ⟨free, errors, _⟩ := stage.put rfl
      rw [at_]
      simp only [act]
      cases c.fingerprint value with
      | error e =>
        exact inv.go _ same none (.inr ⟨_, frame, jobs, rfl, returns, (errors e).append _⟩) (unpaid free)
      | ok digest => exact inv.put at_ returns stage _
    | command key request action next => exact absurd rfl (stage.head.1 key request action next)
    | call op next =>
      obtain ⟨goes, pays⟩ := stage.call rfl turn turn.answer
      rw [at_]
      refine inv.go _ same none (.inr ⟨_, frame, jobs, rfl, returns, goes⟩) ?_
      intro identity value owing
      obtain ⟨⟨event, rfl⟩, ⟨e, failed, _⟩ | delivered⟩ := pays identity value owing
      · obtain ⟨a, accepted⟩ := accepts event identity next (by rw [at_])
        rw [accepted] at failed
        cases failed
      · exact .inr delivered

/-- A stored event stays in the table as it is. -/
theorem kept (found : sys.tables.records.lookup ("domain-events", identity) = some record) :
    (sys.advance c.fingerprint turn).tables.records.lookup ("domain-events", identity) = some record := by
  unfold MemorySystem.advance
  rcases inv.working turn.task with ⟨_, jobs, at_⟩ | ⟨focus, frame, jobs, at_, returns, stage⟩
  · rw [at_]
    rcases c.collectAll_cases jobs with done | ⟨b, key, payload, rest, command⟩
    · rw [done]
      exact found
    · rw [command]
      simp only [act]
      split
      · exact found
      · unfold enter
        split_ifs <;> split <;> exact found
  · rw [at_]
    cases focus with
    | done result => exact found
    | raise e => exact found
    | get bucket key next => exact found
    | list bucket next => exact found
    | put bucket key value expectedVersion next =>
      simp only [act]
      split
      · exact found
      · unfold MemorySystem.put
        cases checked : checkedRecord (sys.tables.records.lookup (bucket, key)) key value expectedVersion with
        | error e => exact found
        | ok written =>
          obtain ⟨_, _, _, fresh⟩ := stage.written checked
          refine Eq.trans (lookup_dictSet_of_ne ?_ _ _) found
          -- an event is written under a key that has none
          rintro ⟨rfl, rfl⟩
          have positive : 0 < record.version := (inv.records _ (mem_of_lookup_eq_some found)).1
          have zero : record.version = 0 := fresh rfl record found
          omega
    | command key request action next => exact absurd rfl (stage.head.1 key request action next)
    | call op next => exact found

end InMemory

/-- What the runs of collectors over the store in memory come to, if the sink accepts. -/
theorem inMemory_of_run {jobs : Nat → List (Value × String)} {tr : CollectHistory}
    {sys : MemorySystem Value CollectOp Value}
    (run : Machine.Run (memorySystem c.fingerprint).step (fun _ sys turn => SinkAccepts sys turn) []
      (c.memoryStart jobs) tr sys) :
    ∃ owes, c.InMemory tr sys owes := by
  refine run.invariant (P := fun tr sys => ∃ owes, c.InMemory tr sys owes) ?_ ?_
  · refine ⟨fun _ => none, ?_, ?_, ?_, ?_⟩
    · exact fun i => .inl ⟨rfl, jobs i, rfl⟩
    · exact fun i inside => absurd rfl inside
    · exact fun _ mem => absurd mem not_mem_nil
    · exact fun _ mem => absurd mem not_mem_nil
  · rintro tr sys turn ⟨owes, inv⟩ accepts
    exact inv.advance turn accepts

namespace InMemory

variable {c} {tr : CollectHistory} {sys : MemorySystem Value CollectOp Value} {owes : Nat → Option (String × Value)}

theorem recorded (inv : c.InMemory tr sys owes) : c.Recorded tr sys.tables sys.log where
  cursors _ _ mem := (inv.records _ mem).cursor
  collected := inv.collected

theorem delivers (inv : c.InMemory tr sys owes) (idle : sys.owner = none) : c.Delivers tr sys.tables sys.log where
  toRecorded := inv.recorded
  events identity record mem := by
    rcases (inv.records _ mem).event with delivered | ⟨i, owing⟩
    · exact delivered
    · rcases inv.working i with ⟨none_, _⟩ | ⟨focus, frame, jobs, at_, _⟩
      · rw [owing] at none_
        cases none_
      · have held := inv.owner i (by rw [at_]; exact cons_ne_nil _ _)
        rw [idle] at held
        cases held

end InMemory

end EventCollector

end PersonalAssistant
