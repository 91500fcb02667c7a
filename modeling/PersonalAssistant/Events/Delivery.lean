import PersonalAssistant.Events.Postgres

/-!
# What the collector promises

Over the store in PostgreSQL no failure makes the collector lose an event. Over the store in
memory none does but that of the sink: the record of the event is put before the sink has it
and stays there, so that the retry takes the event for delivered.
-/

namespace PersonalAssistant

namespace EventCollector

/-- Any number of collectors with any jobs, over each of the stores: what is recorded as
collected was accepted by the sink, and the content of a stored event stays as it is. -/
theorem collector_delivers (c : EventCollector) (jobs : Nat → List (Value × String)) :
    (∀ tr sys, Machine.Run (memorySystem c.fingerprint).step (fun _ sys turn => SinkAccepts sys turn) []
      (c.memoryStart jobs) tr sys →
      c.Recorded tr sys.tables sys.log ∧ (sys.owner = none → c.Delivers tr sys.tables sys.log) ∧
      ∀ tr' sys', Machine.Run (memorySystem c.fingerprint).step
        (fun _ sys turn => SinkAccepts sys turn) tr sys tr' sys' →
        ∀ identity record, sys.tables.records.lookup ("domain-events", identity) = some record →
          sys'.tables.records.lookup ("domain-events", identity) = some record) ∧
    (∀ tr sys, Machine.Run (postgresSystem c.fingerprint).step (fun _ _ _ => True) [] (c.postgresStart jobs) tr sys →
      c.Delivers tr sys.tables sys.log ∧
      ∀ tr' sys', Machine.Run (postgresSystem c.fingerprint).step (fun _ _ _ => True) tr sys tr' sys' →
        ∀ identity record, sys.tables.records.lookup ("domain-events", identity) = some record →
          sys'.tables.records.lookup ("domain-events", identity) = some record) := by
  constructor
  · intro tr sys run
    obtain ⟨owes, inv⟩ := c.inMemory_of_run run
    refine ⟨inv.recorded, inv.delivers, ?_⟩
    intro tr' sys' more identity record found
    refine (more.invariant (P := fun tr sys => (∃ owes, c.InMemory tr sys owes) ∧
      sys.tables.records.lookup ("domain-events", identity) = some record) ⟨⟨owes, inv⟩, found⟩ ?_).2
    rintro tr sys turn ⟨⟨owes, inv⟩, found⟩ accepts
    exact ⟨inv.advance turn accepts, inv.kept turn found⟩
  · intro tr sys run
    obtain ⟨owes, inv⟩ := c.inPostgres_of_run run
    refine ⟨inv.delivers, ?_⟩
    intro tr' sys' more identity record found
    refine (more.invariant (P := fun tr sys => (∃ owes, c.InPostgres tr sys owes) ∧
      sys.tables.records.lookup ("domain-events", identity) = some record) ⟨⟨owes, inv⟩, found⟩ ?_).2
    rintro tr sys turn ⟨⟨owes, inv⟩, found⟩ _
    exact ⟨inv.advance turn, inv.kept turn found⟩

/-- A collector that names an event by its canonical text. -/
def sampleCollector : EventCollector := ⟨canonicalJson, fun _ _ => true, fun _ => true⟩

/-- A source. -/
def samplePayload : Value :=
      .dict [("extension_id", .str "mail"), ("extension_version", .str "1"), ("source_id", .str "inbox")]

/-- A batch of one event. -/
def sampleBatch : Value :=
  .dict [("events", .list [.dict [("type", .str "mail.received"), ("source_dedupe_key", .str "k"),
      ("occurred_at", .str "2026-01-01T00:00:00+00:00"), ("payload", .dict [])]]),
    ("source_dedupe_keys", .list [.str "k"]), ("next_cursor", .str "c1")]

/-- The jobs of the first task: one poll, and its retry. -/
def sampleJobs : Nat → List (Value × String)
  | 0 => [(samplePayload, "1"), (samplePayload, "2")]
  | _ => []

/-- Turns of the first task in which the source and the sink answer with the batch. -/
def answered (n : Nat) : List (Turn Value) := List.replicate n ⟨0, .ok sampleBatch, none, true⟩

/-- Turns of the first task in which the sink refuses the event of the first poll. -/
def refusedTurns : List (Turn Value) := answered 5 ++ ⟨0, .error (.other "ConnectionError"), none, true⟩ :: answered 7

/-- The runs in which the sink accepts the event. -/
theorem collector_delivers_sample :
    sampleCollector.Delivers
      ((memorySystem sampleCollector.fingerprint).step.feed [] (sampleCollector.memoryStart sampleJobs) (answered 14)).1
      ((memorySystem sampleCollector.fingerprint).step.feed [] (sampleCollector.memoryStart sampleJobs)
        (answered 14)).2.tables
      ((memorySystem sampleCollector.fingerprint).step.feed [] (sampleCollector.memoryStart sampleJobs)
        (answered 14)).2.log ∧
    sampleCollector.Delivers
      ((postgresSystem sampleCollector.fingerprint).step.feed []
        (sampleCollector.postgresStart sampleJobs) refusedTurns).1
      ((postgresSystem sampleCollector.fingerprint).step.feed []
        (sampleCollector.postgresStart sampleJobs) refusedTurns).2.tables
      ((postgresSystem sampleCollector.fingerprint).step.feed []
        (sampleCollector.postgresStart sampleJobs) refusedTurns).2.log := by
  obtain ⟨memory, postgres⟩ := collector_delivers sampleCollector sampleJobs
  constructor
  · refine (memory _ _ (Machine.Run.feed (answered 14) ?_)).2.1 (by rfl)
    intro turn mem tr sys event identity next _
    rw [List.eq_of_mem_replicate mem]
    exact ⟨_, rfl⟩
  · exact (postgres _ _ (Machine.Run.feed refusedTurns fun _ _ _ _ => trivial)).1

/-- In memory: the sink refuses the event, the retry finds it stored and moves the cursor, and
no call of the sink has succeeded. -/
theorem refused_event_is_skipped :
    ∃ tr sys, Machine.Run (memorySystem sampleCollector.fingerprint).step (fun _ _ _ => True) []
        (sampleCollector.memoryStart sampleJobs) tr sys ∧
      sys.owner = none ∧
      sys.tables.records.lookup ("event-cursors", "mail:inbox") =
        some ⟨"mail:inbox", 1, .dict [("cursor", .str "c1"), ("extension_version", .str "1")]⟩ ∧
      (∃ digest, sys.tables.commands.lookup "poll-job:2" =
        some (digest, .dict [("added", .int 0), ("source", .str "mail:inbox")])) ∧
      ∀ call ∈ answeredCalls tr, ∀ event identity a, call.op = .sink event identity → call.answer ≠ .ok a := by
  refine ⟨_, _, Machine.Run.feed refusedTurns fun _ _ _ _ => trivial, by rfl, by rfl, ⟨_, by rfl⟩, ?_⟩
  have calls : answeredCalls
    ((memorySystem sampleCollector.fingerprint).step.feed [] (sampleCollector.memoryStart sampleJobs)
      refusedTurns).1 = [⟨_, .poll _ _ _, _⟩, ⟨_, .sink _ _, .error _⟩, ⟨_, .poll _ _ _, _⟩] := rfl
  intro call mem event identity a sink
  rcases List.mem_cons.mp mem with rfl | mem
  · cases sink
  rcases List.mem_cons.mp mem with rfl | mem
  · exact fun accepted => by cases accepted
  rcases List.mem_singleton.mp mem with rfl
  cases sink

end EventCollector

end PersonalAssistant
