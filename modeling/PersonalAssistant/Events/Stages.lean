import PersonalAssistant.Events.Collector

/-!
# What a collection knows at each point

The points of `EventCollector.apply`, with what the history of the calls shows there: which
batch was polled, which of its events the sink has accepted, and which event is stored and
still owed to the sink. What a step from a point needs of the store is one thing: that an event
it finds stored was delivered.
-/

namespace PersonalAssistant

open List

/-- The turns of a run, with the calls they answered. -/
abbrev CollectHistory : Type := List (Turn Value × Option (CallAnswer CollectOp Value))

/-- The answered calls. -/
def answeredCalls (tr : CollectHistory) : List (CallAnswer CollectOp Value) := tr.filterMap Prod.snd

variable {tr : CollectHistory}

theorem mem_answeredCalls_append {call : CallAnswer CollectOp Value} (mem : call ∈ answeredCalls tr)
    (more : CollectHistory) : call ∈ answeredCalls (tr ++ more) := by
  unfold answeredCalls
  rw [filterMap_append]
  exact mem_append_left _ mem

theorem mem_answeredCalls_snoc (tr : CollectHistory) (turn : Turn Value) (call : CallAnswer CollectOp Value) :
    call ∈ answeredCalls (tr ++ [(turn, some call)]) := by
  unfold answeredCalls
  rw [filterMap_append]
  exact mem_append_right _ mem_cons_self

theorem buckets_ne : "event-cursors" ≠ "domain-events" := by decide

namespace EventCollector

variable (c : EventCollector) {owed : Option (String × Value)} {next : Except Exn (Rec Value) → CollectAction}
  {expectedVersion : Nat} {source bucket key : String} {value : Value}

/-- The stored event was accepted by the sink, under its identity. -/
def Delivered (tr : CollectHistory) (identity : String) (value : Value) : Prop :=
  ∃ b event frames answer, value = Binding.eventRecord b event ∧ c.identity b event = .ok identity ∧
    ⟨frames, .sink (b.sinkEvent event) identity, .ok answer⟩ ∈ answeredCalls tr

/-- Two documents of one fingerprint. -/
def Collision (v w : Value) : Prop := v ≠ w ∧ ∃ digest, c.fingerprint v = .ok digest ∧ c.fingerprint w = .ok digest

/-- The event, or one that equals it, was accepted by the sink for the same source and dedupe
key, unless their fingerprint collides with that of another pair. -/
def Covered (tr : CollectHistory) (b : Binding) (event : PolledEvent) : Prop :=
  ∃ b' event' identity frames answer, c.identity b event = .ok identity ∧
    (event' = event ∨ c.equal (.dict event'.entries) (.dict event.entries) = true) ∧
    ((Binding.source b' = b.source ∧ event'.dedupe = event.dedupe) ∨
      c.Collision (b'.identityDoc event') (b.identityDoc event)) ∧
    ⟨frames, .sink (b'.sinkEvent event') identity, .ok answer⟩ ∈ answeredCalls tr

/-- The batch was polled for the binding, inside the commands. -/
def Polled (tr : CollectHistory) (frames : List (Nat × Nat)) (b : Binding) (batch : Batch) : Prop :=
  ∃ cursor raw, ⟨frames, .poll b.extensionId b.extensionVersion (b.request cursor), .ok raw⟩ ∈ answeredCalls tr ∧
    c.checkBatch raw = .ok batch

/-- The batch that was polled inside the commands was delivered. -/
def Collected (tr : CollectHistory) (frames : List (Nat × Nat)) : Prop :=
  ∃ b batch, c.Polled tr frames b batch ∧ ∀ event ∈ batch.events, c.Covered tr b event

/-- The cursor is that of a batch that was delivered. -/
def CursorCovered (tr : CollectHistory) (source : String) (value : Value) : Prop :=
  ∃ b batch frames, Binding.source b = source ∧ value = b.cursorRecord batch ∧ c.Polled tr frames b batch ∧
    ∀ event ∈ batch.events, c.Covered tr b event

/-- What a run of collectors has recorded as collected. -/
structure Recorded (tr : CollectHistory) (tables : RecordTables Value) (log : List (Durable Value)) : Prop where
  /-- A stored cursor is that of a batch all of whose events the sink has accepted. -/
  cursors : ∀ source record, (("event-cursors", source), record) ∈ tables.records →
    c.CursorCovered tr source record.value
  /-- A job with a receipt polled a batch, and the sink has accepted all its events. -/
  collected : ∀ d ∈ log, ∀ key digest response, d.item = .receipt key digest response → c.Collected tr d.frames

/-- Moreover, a stored event was accepted by the sink. -/
structure Delivers (tr : CollectHistory) (tables : RecordTables Value) (log : List (Durable Value)) : Prop
    extends c.Recorded tr tables log where
  events : ∀ identity record, (("domain-events", identity), record) ∈ tables.records →
    c.Delivered tr identity record.value

section
variable {c} {tr : CollectHistory} (more : CollectHistory) {frames : List (Nat × Nat)} {b : Binding}
  {event : PolledEvent} {identity : String} {value : Value}

theorem Delivered.append (h : c.Delivered tr identity value) : c.Delivered (tr ++ more) identity value := by
  obtain ⟨b, event, frames, answer, record, same, mem⟩ := h
  exact ⟨b, event, frames, answer, record, same, mem_answeredCalls_append mem more⟩

theorem Covered.append (h : c.Covered tr b event) : c.Covered (tr ++ more) b event := by
  obtain ⟨b', event', identity, frames, answer, same, equal, source, mem⟩ := h
  exact ⟨b', event', identity, frames, answer, same, equal, source, mem_answeredCalls_append mem more⟩

theorem Polled.append {batch : Batch} (h : c.Polled tr frames b batch) : c.Polled (tr ++ more) frames b batch := by
  obtain ⟨cursor, raw, mem, checked⟩ := h
  exact ⟨cursor, raw, mem_answeredCalls_append mem more, checked⟩

theorem Collected.append (h : c.Collected tr frames) : c.Collected (tr ++ more) frames := by
  obtain ⟨b, batch, polled, covered⟩ := h
  exact ⟨b, batch, polled.append more, fun event mem => (covered event mem).append more⟩

theorem CursorCovered.append (h : c.CursorCovered tr source value) : c.CursorCovered (tr ++ more) source value := by
  obtain ⟨b, batch, frames, of, record, polled, covered⟩ := h
  exact ⟨b, batch, frames, of, record, polled.append more, fun event mem => (covered event mem).append more⟩

/-- An event that is found stored and equal was delivered. -/
theorem covered_of_stored {record stored : Value}
    (same : c.identity b event = .ok identity) (delivered : c.Delivered tr identity record)
    (found : record.get? "event" = some stored) (equal : c.equal stored (.dict event.entries) = true) :
    c.Covered tr b event := by
  obtain ⟨b', event', frames, answer, rfl, same', mem⟩ := delivered
  have entries : stored = .dict event'.entries := (Option.some.inj found).symm
  rw [entries] at equal
  refine ⟨b', event', identity, frames, answer, same, .inr equal, ?_, mem⟩
  by_cases docs : b'.identityDoc event' = b.identityDoc event
  · left
    simpa [Binding.identityDoc] using docs
  · exact .inr ⟨docs, identity, same', same⟩

end

/-- Store the event, give it to the sink, and go on. -/
def sinkThen (b : Binding) (old : Option (Rec Value)) (batch : Batch) (event : PolledEvent) (events : List PolledEvent)
    (added : Nat) (identity : String) : CollectAction :=
  .call (.sink (b.sinkEvent event) identity) (orRaise fun _ => c.deliver b old batch events (added + 1))

/-- The points of an action, with the record that is owed to the sink there. -/
inductive Stage (tr : CollectHistory) (frames : List (Nat × Nat)) : Option (String × Value) → CollectAction → Prop where
  | start (b : Binding) : Stage tr frames none (c.apply b)
  | polling (b : Binding) (old : Option (Rec Value)) (cursor : Value) : Stage tr frames none (c.pollFrom b old cursor)
  | loop (b : Binding) (old : Option (Rec Value)) (batch : Batch) (before events : List PolledEvent) (added : Nat)
      (polled : c.Polled tr frames b batch) (split : batch.events = before ++ events)
      (covered : ∀ event ∈ before, c.Covered tr b event) : Stage tr frames none (c.deliver b old batch events added)
  | writing (b : Binding) (old : Option (Rec Value)) (batch : Batch) (before : List PolledEvent) (event : PolledEvent)
      (events : List PolledEvent) (added : Nat) (identity : String) (polled : c.Polled tr frames b batch)
      (split : batch.events = before ++ event :: events) (covered : ∀ event ∈ before, c.Covered tr b event)
      (same : c.identity b event = .ok identity) :
      Stage tr frames none (.put "domain-events" identity (b.eventRecord event) 0
        (orRaise fun _ => c.sinkThen b old batch event events added identity))
  | sinking (b : Binding) (old : Option (Rec Value)) (batch : Batch) (before : List PolledEvent) (event : PolledEvent)
      (events : List PolledEvent) (added : Nat) (identity : String) (polled : c.Polled tr frames b batch)
      (split : batch.events = before ++ event :: events) (covered : ∀ event ∈ before, c.Covered tr b event)
      (same : c.identity b event = .ok identity) :
      Stage tr frames (some (identity, b.eventRecord event)) (c.sinkThen b old batch event events added identity)
  | returned (result : Value) (collected : c.Collected tr frames) : Stage tr frames none (.done result)
  | raised (e : Exn) : Stage tr frames none (.raise e)

namespace Stage

variable {c} {tr : CollectHistory} {frames : List (Nat × Nat)} {owed : Option (String × Value)} {focus : CollectAction}

theorem append (stage : c.Stage tr frames owed focus) (more : CollectHistory) :
    c.Stage (tr ++ more) frames owed focus := by
  cases stage with
  | start b => exact .start b
  | polling b old cursor => exact .polling b old cursor
  | loop b old batch before events added polled split covered =>
    exact .loop b old batch before events added (polled.append more) split fun event mem =>
      (covered event mem).append more
  | writing b old batch before event events added identity polled split covered same =>
    exact .writing b old batch before event events added identity (polled.append more) split
      (fun event mem => (covered event mem).append more) same
  | sinking b old batch before event events added identity polled split covered same =>
    exact .sinking b old batch before event events added identity (polled.append more) split
      (fun event mem => (covered event mem).append more) same
  | returned result collected => exact .returned result (collected.append more)
  | raised e => exact .raised e

theorem orRaise {α : Type} {next : α → CollectAction} (answer : Except Exn α)
    (goes : ∀ a, answer = .ok a → c.Stage tr frames owed (next a))
    (none_ : owed = none) : c.Stage tr frames owed (EventCollector.orRaise next answer) := by
  cases answer with
  | error e =>
    subst none_
    exact .raised e
  | ok a => exact goes a rfl

/-- The loop reads the next event, or fails to identify it, or closes. -/
theorem deliver_cases (b : Binding) (old : Option (Rec Value)) (batch : Batch) (events : List PolledEvent)
    (added : Nat) :
    (events = [] ∧ c.deliver b old batch events added = close b old batch added) ∨
    (∃ e, c.deliver b old batch events added = .raise e) ∨
    ∃ event rest identity, events = event :: rest ∧ c.identity b event = .ok identity ∧
      c.deliver b old batch events added = .get "domain-events" identity (EventCollector.orRaise fun existing =>
        match existing with
        | some existing =>
          match existing.value.get? "event" with
          | some stored =>
            if c.equal stored (.dict event.entries) then c.deliver b old batch rest added
            else .raise (validationError "immutable domain event changed")
          | none => .raise (.runtime .keyError "event")
        | none => .put "domain-events" identity (b.eventRecord event) 0
            (EventCollector.orRaise fun _ => c.sinkThen b old batch event rest added identity)) := by
  cases events with
  | nil => exact .inl ⟨rfl, rfl⟩
  | cons event rest =>
    cases same : c.identity b event with
    | error e =>
      refine .inr (.inl ⟨e, ?_⟩)
      simp only [deliver, same]
    | ok identity =>
      refine .inr (.inr ⟨event, rest, identity, rfl, same, ?_⟩)
      simp only [deliver, same]
      rfl

variable (stage : c.Stage tr frames owed focus)

include stage

/-- From a read: an event that is stored counts as covered if it was delivered. -/
theorem get {next : Except Exn (Option (Rec Value)) → CollectAction}
    (at_ : focus = .get bucket key next) (answer : Except Exn (Option (Rec Value)))
    (stored : ∀ record, answer = .ok (some record) → bucket = "domain-events" → c.Delivered tr key record.value) :
    owed = none ∧ c.Stage tr frames none (next answer) := by
  cases stage with
  | start b =>
    cases at_
    refine ⟨rfl, orRaise answer ?_ rfl⟩
    intro old _
    cases old with
    | none => exact .polling b none .none
    | some record =>
      simp only
      split
      · exact .polling b (some record) _
      · exact .raised _
  | loop b old batch before events added polled split covered =>
    rcases deliver_cases b old batch events added with ⟨_, eq⟩ | ⟨e, eq⟩ | ⟨event, rest, identity, rfl, same, eq⟩
    · rw [eq] at at_
      cases at_
    · rw [eq] at at_
      cases at_
    · rw [eq] at at_
      cases at_
      refine ⟨rfl, orRaise answer ?_ rfl⟩
      intro existing answered
      cases existing with
      | none => exact .writing b old batch before event rest added key polled split covered same
      | some record =>
        simp only
        split
        · rename_i value found
          split_ifs with equal
          · have delivered := stored record answered rfl
            refine .loop b old batch (before ++ [event]) rest added polled (by simp [split]) ?_
            exact forall_mem_append.mpr
              ⟨covered, forall_mem_singleton.mpr (covered_of_stored same delivered found equal)⟩
          · exact .raised _
        · exact .raised _
  | polling | writing | sinking | returned | raised => cases at_

/-- From a write: of an event, which is then owed to the sink, or of the cursor of a delivered
batch. -/
theorem put (at_ : focus = .put bucket key value expectedVersion next) :
    owed = none ∧ (∀ e, c.Stage tr frames none (next (.error e))) ∧
      ((bucket = "domain-events" ∧ expectedVersion = 0 ∧
        ∀ record, c.Stage tr frames (some (key, value)) (next (.ok record))) ∨
        (bucket = "event-cursors" ∧ c.CursorCovered tr key value ∧
          ∀ record, c.Stage tr frames none (next (.ok record)))) := by
  cases stage with
  | loop b old batch before events added polled split covered =>
    rcases deliver_cases b old batch events added with ⟨rfl, eq⟩ | ⟨e, eq⟩ | ⟨event, rest, identity, _, same, eq⟩
    · rw [eq] at at_
      cases at_
      rw [append_nil] at split
      refine ⟨rfl, fun e => .raised e,
        .inr ⟨rfl, ⟨b, batch, frames, rfl, rfl, polled, split ▸ covered⟩, fun record => ?_⟩⟩
      exact .returned _ ⟨b, batch, polled, split ▸ covered⟩
    · rw [eq] at at_
      cases at_
    · rw [eq] at at_
      cases at_
  | writing b old batch before event events added identity polled split covered same =>
    cases at_
    refine ⟨rfl, fun e => .raised e, .inl ⟨rfl, rfl, fun record => ?_⟩⟩
    exact .sinking b old batch before event events added _ polled split covered same
  | start | polling | sinking | returned | raised => cases at_

/-- From a call: of the source, or of the sink for the event that is owed. -/
theorem call {op : CollectOp} {next : Except Exn Value → CollectAction}
    (at_ : focus = .call op next) (turn : Turn Value) (answer : Except Exn Value) :
    c.Stage (tr ++ [(turn, some ⟨frames, op, answer⟩)]) frames none (next answer) ∧
      ∀ identity value, owed = some (identity, value) → (∃ event, op = .sink event identity) ∧
        ((∃ e, answer = .error e ∧ next answer = .raise e) ∨
          c.Delivered (tr ++ [(turn, some ⟨frames, op, answer⟩)]) identity value) := by
  cases stage with
  | polling b old cursor =>
    cases at_
    refine ⟨orRaise answer ?_ rfl, fun _ _ none_ => by cases none_⟩
    rintro raw rfl
    unfold receive
    cases checked : c.checkBatch raw with
    | error e => exact .raised e
    | ok batch =>
      refine .loop b old batch [] batch.events 0 ?_ rfl fun _ mem => absurd mem not_mem_nil
      exact ⟨cursor, raw, mem_answeredCalls_snoc tr turn _, checked⟩
  | sinking b old batch before event events added identity polled split covered same =>
    cases at_
    cases answer with
    | error e =>
      refine ⟨.raised e, ?_⟩
      intro identity' value owes
      cases owes
      exact ⟨⟨_, rfl⟩, .inl ⟨e, rfl, rfl⟩⟩
    | ok a =>
      have mem := mem_answeredCalls_snoc tr turn ⟨frames, .sink (b.sinkEvent event) identity, .ok a⟩
      constructor
      · refine .loop b old batch (before ++ [event]) events (added + 1) (polled.append _) (by simp [split]) ?_
        refine forall_mem_append.mpr
          ⟨fun other earlier => (covered other earlier).append _, forall_mem_singleton.mpr ?_⟩
        exact ⟨b, event, identity, frames, a, same, .inl rfl, .inl ⟨rfl, rfl⟩, mem⟩
      · intro identity' value owes
        cases owes
        exact ⟨⟨_, rfl⟩, .inr ⟨b, event, frames, a, rfl, same, mem⟩⟩
  | loop b old batch before events added polled split covered =>
    rcases deliver_cases b old batch events added with ⟨_, eq⟩ | ⟨e, eq⟩ | ⟨event, rest, identity, _, same, eq⟩
    all_goals
      rw [eq] at at_
      cases at_
  | start | writing | returned | raised => cases at_

/-- No point of an action begins a command or lists records, and one that returns has
collected its batch. -/
theorem head :
    (∀ key request action next, focus ≠ .command key request action next) ∧ (∀ bucket next, focus ≠ .list bucket next) ∧
      (∀ result, focus = .done result → owed = none ∧ c.Collected tr frames) ∧ ∀ e, focus = .raise e → owed = none := by
  cases stage with
  | loop b old batch before events added polled split covered =>
    rcases deliver_cases b old batch events added with ⟨_, eq⟩ | ⟨e, eq⟩ | ⟨event, rest, identity, _, same, eq⟩
    all_goals
      rw [eq]
      refine ⟨fun _ _ _ _ at_ => ?_, fun _ _ at_ => ?_, fun _ at_ => ?_, fun _ _ => rfl⟩
      all_goals cases at_
  | returned result collected =>
    refine ⟨fun _ _ _ _ at_ => ?_, fun _ _ at_ => ?_, fun _ _ => ⟨rfl, collected⟩, fun _ _ => rfl⟩
    all_goals cases at_
  | sinking =>
    refine ⟨fun _ _ _ _ at_ => ?_, fun _ _ at_ => ?_, fun _ at_ => ?_, fun _ at_ => ?_⟩
    all_goals cases at_
  | start | polling | writing | raised =>
    refine ⟨fun _ _ _ _ at_ => ?_, fun _ _ at_ => ?_, fun _ at_ => ?_, fun _ _ => rfl⟩
    all_goals cases at_

end Stage

/-- What a stored record stands for: an event that was delivered or is owed, or the cursor of a
delivered batch. -/
def Accounted (tr : CollectHistory) (owing : String → Value → Prop) (entry : (String × String) × Rec Value) : Prop :=
  0 < entry.2.version ∧
    ((entry.1.1 = "domain-events" ∧ (c.Delivered tr entry.1.2 entry.2.value ∨ owing entry.1.2 entry.2.value)) ∨
      (entry.1.1 = "event-cursors" ∧ c.CursorCovered tr entry.1.2 entry.2.value))

section
variable {c} {tr : CollectHistory} {owing owing' : String → Value → Prop} {entry : (String × String) × Rec Value}
  {record : Rec Value}

theorem Accounted.later (h : c.Accounted tr owing entry) (more : CollectHistory)
    (pays : ∀ identity value, owing identity value → c.Delivered (tr ++ more) identity value ∨ owing' identity value) :
    c.Accounted (tr ++ more) owing' entry := by
  obtain ⟨positive, ⟨bucket, delivered | owed⟩ | ⟨bucket, covered⟩⟩ := h
  · exact ⟨positive, .inl ⟨bucket, .inl (delivered.append more)⟩⟩
  · exact ⟨positive, .inl ⟨bucket, pays _ _ owed⟩⟩
  · exact ⟨positive, .inr ⟨bucket, covered.append more⟩⟩

theorem Accounted.event {identity : String} (h : c.Accounted tr owing (("domain-events", identity), record)) :
    c.Delivered tr identity record.value ∨ owing identity record.value := by
  obtain ⟨_, ⟨_, delivered⟩ | ⟨bucket, _⟩⟩ := h
  · exact delivered
  · exact absurd bucket.symm buckets_ne

theorem Accounted.cursor (h : c.Accounted tr owing (("event-cursors", source), record)) :
    c.CursorCovered tr source record.value := by
  obtain ⟨_, ⟨bucket, _⟩ | ⟨_, covered⟩⟩ := h
  · exact absurd bucket buckets_ne
  · exact covered

/-- A write that passed its check: the record stands for what is owed now, and an event was not
there before. -/
theorem Stage.written {frames : List (Nat × Nat)}
    (stage : c.Stage tr frames owed (.put bucket key value expectedVersion next)) {old : Option (Rec Value)}
    (checked : checkedRecord old key value expectedVersion = .ok record) :
    ∃ owed', c.Stage tr frames owed' (next (.ok record)) ∧
      c.Accounted tr (fun identity value => owed' = some (identity, value)) ((bucket, key), record) ∧
      (bucket = "domain-events" → ∀ r ∈ old, r.version = 0) := by
  unfold checkedRecord at checked
  split_ifs at checked with version
  cases checked
  obtain ⟨_, _, ⟨domain, zero, goes⟩ | ⟨cursors, covered, goes⟩⟩ := stage.put rfl
  · refine ⟨some (key, value), goes _, ⟨Nat.succ_pos _, .inl ⟨domain, .inr rfl⟩⟩, fun _ r there => ?_⟩
    rw [Option.mem_def.mp there, zero] at version
    exact not_not.mp version
  · exact ⟨none, goes _, ⟨Nat.succ_pos _, .inr ⟨cursors, covered⟩⟩, fun domain =>
      absurd (cursors.symm.trans domain) buckets_ne⟩

end

/-- What a task of a collector is at: outside its commands, or at a point of an action. -/
def Working (tr : CollectHistory) (owed : Option (String × Value)) (task : Task Value CollectOp Value) : Prop :=
  (owed = none ∧ ∃ jobs, task = ⟨c.collectAll jobs, []⟩) ∨
    ∃ focus frame jobs, task = ⟨focus, [frame]⟩ ∧ frame.next = (fun _ => c.collectAll jobs) ∧
      c.Stage tr [frame.id] owed focus

theorem Working.append {c : EventCollector}
    {task : Task Value CollectOp Value} (h : c.Working tr owed task) (more : CollectHistory) :
    c.Working (tr ++ more) owed task := by
  rcases h with outside | ⟨focus, frame, jobs, at_, next, stage⟩
  · exact .inl outside
  · exact .inr ⟨focus, frame, jobs, at_, next, stage.append more⟩

/-- A list of jobs is at the command of its first valid one, or at its end. -/
theorem collectAll_cases (jobs : List (Value × String)) :
    c.collectAll jobs = .done .none ∨ ∃ b key payload rest, c.collectAll jobs = .command key payload
      (c.apply b) fun _ => c.collectAll rest := by
  induction jobs with
  | nil => exact .inl rfl
  | cons job jobs ih =>
    simp only [collectAll, collect]
    cases Binding.parse job.1 with
    | error e => exact ih
    | ok b => exact .inr ⟨b, _, _, jobs, rfl⟩

/-- A task that owes nothing has nothing to deliver. -/
theorem unpaid {P : String → Value → Prop} (free : owed = none) (identity : String) (value : Value)
    (owing : owed = some (identity, value)) : P identity value := by
  rw [free] at owing
  cases owing

end EventCollector

end PersonalAssistant
