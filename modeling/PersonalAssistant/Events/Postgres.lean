import PersonalAssistant.Events.InMemory

/-!
# Collection over the store in PostgreSQL

The record of an event is in the transaction of its collection until that commits, and it
commits only when the action returns. So whatever fails in between, a record that is committed
was delivered.
-/

namespace PersonalAssistant

open Function List PostgresSystem

namespace EventCollector

variable (c : EventCollector)

/-- The store in PostgreSQL, with a list of jobs for each task. -/
def postgresStart (jobs : Nat → List (Value × String)) : PostgresSystem Value CollectOp Value :=
  { tasks := fun i => ⟨c.collectAll (jobs i), []⟩ }

/-- What a transaction has written: events that are delivered or owed, unless the action has
failed, and cursors of delivered batches. It holds the rows, and an event is not committed. -/
structure Writes (tr : CollectHistory) (tables : RecordTables Value) (rows : String × String → Option Nat) (i : Nat)
    (owed : Option (String × Value)) (task : Task Value CollectOp Value) (tx : Transaction Value) : Prop where
  outside : task.frames = [] → tx = {}
  records : ∀ entry ∈ tx.records, c.Accounted tr (fun identity value => owed = some (identity, value) ∨
    ∃ e, task.focus = .raise e) entry
  pending : ∀ d ∈ tx.pending, ∀ key digest response, d.item ≠ .receipt key digest response
  commands : tx.commands = []
  held : ∀ entry ∈ tx.records, rows entry.1 = some i
  absent : ∀ entry ∈ tx.records, entry.1.1 = "domain-events" → tables.records.lookup entry.1 = none

/-- The invariant, with what each task owes to the sink. -/
structure InPostgres (tr : CollectHistory) (sys : PostgresSystem Value CollectOp Value)
    (owes : Nat → Option (String × Value)) : Prop where
  working : ∀ i, c.Working tr (owes i) (sys.tasks i)
  writes : ∀ i, c.Writes tr sys.tables sys.rows i (owes i) (sys.tasks i) (sys.transactions i)
  records : ∀ entry ∈ sys.tables.records, c.Accounted tr (fun _ _ => False) entry
  collected : ∀ d ∈ sys.log, ∀ key digest response, d.item = .receipt key digest response → c.Collected tr d.frames

section
variable {c} {tr : CollectHistory} {sys sys' : PostgresSystem Value CollectOp Value}
  {owes : Nat → Option (String × Value)}
  {i j : Nat} {task : Task Value CollectOp Value} {tx : Transaction Value} {owed : Option (String × Value)}

variable {tables : RecordTables Value} {rows : String × String → Option Nat} {record : Rec Value} {identity : String}

theorem Writes.later {tables' : RecordTables Value} {rows' : String × String → Option Nat}
    (h : c.Writes tr tables rows j owed task tx) (more : CollectHistory)
    (held : ∀ row, rows row = some j → rows' row = some j)
    (absent : ∀ row, rows row = some j → tables.records.lookup row = none → tables'.records.lookup row = none) :
    c.Writes (tr ++ more) tables' rows' j owed task tx where
  outside := h.outside
  records entry mem := (h.records entry mem).later more fun _ _ owing => .inr owing
  pending := h.pending
  commands := h.commands
  held entry mem := held _ (h.held entry mem)
  absent entry mem domain := absent _ (h.held entry mem) (h.absent entry mem domain)

theorem Writes.empty : c.Writes tr tables rows i owed task {} where
  outside _ := rfl
  records _ mem := absurd mem not_mem_nil
  pending _ mem := absurd mem not_mem_nil
  commands := rfl
  held _ mem := absurd mem not_mem_nil
  absent _ mem := absurd mem not_mem_nil

/-- A transaction whose task goes on: what it owed is delivered or still owed, or the failure is
let out. -/
theorem Writes.move {focus focus' : CollectAction}
    {frame : Frame Value CollectOp Value} {owed' : Option (String × Value)}
    (h : c.Writes tr tables rows i owed ⟨focus, [frame]⟩ tx) (more : CollectHistory) (runs : ∀ e, focus ≠ .raise e)
    (pays : ∀ identity value, owed = some (identity, value) → c.Delivered (tr ++ more) identity value ∨
      owed' = some (identity, value) ∨ ∃ e, focus' = .raise e) (aborted : Bool) :
    c.Writes (tr ++ more) tables rows i owed' ⟨focus', [frame]⟩ { tx with aborted := aborted } where
  outside none_ := absurd none_ (cons_ne_nil _ _)
  records entry mem := by
    refine (h.records entry mem).later more ?_
    rintro identity value (owing | ⟨e, raising⟩)
    · exact pays identity value owing
    · exact absurd raising (runs e)
  pending := h.pending
  commands := h.commands
  held := h.held
  absent := h.absent

/-- An event that the task sees was delivered, unless it owes it. -/
theorem InPostgres.found (inv : c.InPostgres tr sys owes) (free : owes i = none)
    (runs : ∀ e, (sys.tasks i).focus ≠ .raise e) (mem : (("domain-events", identity), record) ∈ sys.visible i) :
    c.Delivered tr identity record.value := by
  rcases mem_dictUpdate mem with committed | pending
  · rcases (inv.records _ committed).event with delivered | none_
    · exact delivered
    · exact none_.elim
  · rcases ((inv.writes i).records _ pending).event with delivered | owing | ⟨e, raising⟩
    · exact delivered
    · rw [free] at owing
      cases owing
    · exact absurd raising (runs e)

theorem InPostgres.positive (inv : c.InPostgres tr sys owes) {entry : (String × String) × Rec Value}
    (mem : entry ∈ sys.visible i) :
    0 < entry.2.version := by
  rcases mem_dictUpdate mem with committed | pending
  · exact (inv.records entry committed).1
  · exact ((inv.writes i).records entry pending).1

namespace InPostgres

theorem release_rows (sys : PostgresSystem Value CollectOp Value) {row : String × String} (ne : j ≠ i)
    (held : sys.rows row = some j) :
    (if sys.rows row = some i then none else sys.rows row) = some j := by
  rw [if_neg, held]
  rw [held]
  exact fun same => ne (Option.some.inj same)

variable (inv : c.InPostgres tr sys owes)

include inv

/-- A turn of one task, after which it owes something else. -/
theorem of_update (more : CollectHistory) (owed : Option (String × Value))
    (tasks : sys'.tasks = update sys.tasks i task) (transactions : sys'.transactions = update sys.transactions i tx)
    (working : c.Working (tr ++ more) owed task) (writes : c.Writes (tr ++ more) sys'.tables sys'.rows i owed task tx)
    (held : ∀ j row, j ≠ i → sys.rows row = some j → sys'.rows row = some j)
    (absent : ∀ j row, j ≠ i → sys.rows row = some j → sys.tables.records.lookup row = none →
      sys'.tables.records.lookup row = none)
    (records : ∀ entry ∈ sys'.tables.records, entry ∈ sys.tables.records ∨
      c.Accounted (tr ++ more) (fun _ _ => False) entry)
    (collected : ∀ d ∈ sys'.log, d ∈ sys.log ∨ ∀ key digest response, d.item = .receipt key digest response →
      c.Collected tr d.frames) :
    c.InPostgres (tr ++ more) sys' (update owes i owed) where
  working j := by
    rw [tasks, update_apply, update_apply]
    split_ifs
    · exact working
    · exact (inv.working j).append more
  writes j := by
    rw [tasks, transactions, update_apply, update_apply, update_apply]
    split_ifs with this
    · rw [this]
      exact writes
    · exact (inv.writes j).later more (fun row => held j row this) fun row => absent j row this
  records entry mem := by
    rcases records entry mem with old | new
    · exact (inv.records entry old).later more fun _ _ owing => .inr owing
    · exact new
  collected d mem key digest response item := by
    rcases collected d mem with old | new
    · exact (inv.collected d old key digest response item).append more
    · exact (new key digest response item).append more

theorem quiet (more : CollectHistory) (owed : Option (String × Value))
    (tasks : sys'.tasks = update sys.tasks i task) (transactions : sys'.transactions = update sys.transactions i tx)
    (tables : sys'.tables = sys.tables) (rows : sys'.rows = sys.rows) (log : sys'.log = sys.log)
    (working : c.Working (tr ++ more) owed task) (writes : c.Writes (tr ++ more) sys.tables sys.rows i owed task tx) :
    ∃ owes', c.InPostgres (tr ++ more) sys' owes' := by
  refine ⟨_, inv.of_update more owed tasks transactions working ?_ ?_ ?_ ?_ ?_⟩
  · rw [tables, rows]
    exact writes
  · exact fun _ _ _ held => rows ▸ held
  · exact fun _ _ _ _ absent => tables ▸ absent
  · exact fun _ mem => .inl (tables ▸ mem)
  · exact fun _ mem => .inl (log ▸ mem)

theorem wait (more : CollectHistory) : ∃ owes', c.InPostgres (tr ++ more) sys owes' := by
  refine ⟨owes, fun i => (inv.working i).append more, fun i => ?_, fun entry mem => ?_,
    fun d mem key digest response item => ?_⟩
  · exact (inv.writes i).later more (fun _ held => held) fun _ _ absent => absent
  · exact (inv.records entry mem).later more fun _ _ owing => .inr owing
  · exact (inv.collected d mem key digest response item).append more

/-- A turn of a task outside every command. -/
theorem outside (turn : Turn Value) {jobs : List (Value × String)}
    (at_ : sys.tasks turn.task = ⟨c.collectAll jobs, []⟩) (more : CollectHistory) :
    ∃ owes', c.InPostgres (tr ++ more) (sys.advance c.fingerprint turn) owes' := by
  have clean : sys.transactions turn.task = {} := (inv.writes turn.task).outside (by rw [at_])
  have self : sys.transactions = update sys.transactions turn.task {} := by
    rw [← clean, update_eq_self]
  have goes : ∀ rest, ∃ owes', c.InPostgres (tr ++ more) (sys.go turn.task (c.collectAll rest) []) owes' := by
    intro rest
    exact inv.quiet (i := turn.task) more none rfl self rfl rfl rfl (.inl ⟨rfl, rest, rfl⟩) .empty
  unfold PostgresSystem.advance
  rw [at_]
  rcases c.collectAll_cases jobs with done | ⟨b, key, payload, rest, command⟩
  · rw [done]
    exact inv.wait more
  · rw [command]
    simp only [act]
    cases commandDigest c.fingerprint key payload with
    | error e => exact goes rest
    | ok digest =>
      simp only [enter]
      cases sys.failure turn.task turn with
      | some e => exact goes rest
      | none =>
        split_ifs with waits
        · exact inv.wait more
        · cases (sys.tables.commands ++ (sys.transactions turn.task).commands).lookup key with
          | some receipt => exact goes rest
          | none =>
            exact inv.quiet (i := turn.task) more none rfl self rfl rfl rfl
              (.inr ⟨c.apply b, _, rest, rfl, rfl, .start b⟩) .empty

variable {focus focus' : CollectAction} {frame : Frame Value CollectOp Value} {jobs : List (Value × String)}

section

variable (more : CollectHistory) (at_ : sys.tasks i = ⟨focus, [frame]⟩) (runs : ∀ e, focus ≠ .raise e)
  (returns : frame.next = fun _ => c.collectAll jobs) (goes : c.Stage (tr ++ more) [frame.id] owed focus')
  (pays : ∀ identity value, owes i = some (identity, value) → c.Delivered (tr ++ more) identity value ∨
    owed = some (identity, value) ∨ ∃ e, focus' = .raise e)

include at_ runs returns goes pays

/-- A task at a point of its action goes on to another; its statement may have failed. -/
theorem goWith (aborted : Bool) : ∃ owes', c.InPostgres (tr ++ more)
      ((sys.setTransaction i { sys.transactions i with aborted := aborted }).go i focus' [frame]) owes' := by
  have writes := inv.writes i
  rw [at_] at writes
  exact inv.quiet (i := i) more owed rfl rfl rfl rfl rfl (.inr ⟨focus', frame, jobs, rfl, returns, goes⟩)
    (writes.move more runs pays aborted)

theorem go : ∃ owes', c.InPostgres (tr ++ more) (sys.go i focus' [frame]) owes' := by
  have with_ := inv.goWith more at_ runs returns goes pays (sys.transactions i).aborted
  rwa [setTransaction_self] at with_

theorem stumble (turn : Turn Value) :
    ∃ owes', c.InPostgres (tr ++ more) ((sys.stumble i turn [frame]).go i focus' [frame]) owes' := by
  unfold PostgresSystem.stumble
  exact inv.goWith more at_ runs returns goes pays _

end

/-- A `put` of a poll: the row is written in the transaction, or the poll raises. -/
theorem put {bucket key : String} {value : Value} {expectedVersion : Nat}
    {next : Except Exn (Rec Value) → CollectAction}
    (at_ : sys.tasks i = ⟨.put bucket key value expectedVersion next, [frame]⟩)
    (returns : frame.next = fun _ => c.collectAll jobs)
    (stage : c.Stage tr [frame.id] (owes i) (.put bucket key value expectedVersion next)) (more : CollectHistory)
    (turn : Turn Value) :
    ∃ owes', c.InPostgres (tr ++ more) (sys.put turn i [frame] bucket key value expectedVersion next) owes' := by
  obtain ⟨free, errors, _⟩ := stage.put rfl
  unfold PostgresSystem.put
  cases sys.failure i turn with
  | some e => exact inv.stumble more at_ nofun returns ((errors e).append more) (unpaid free) turn
  | none =>
    split_ifs with waits
    · exact inv.wait more
    · cases checked : checkedRecord ((sys.visible i).lookup (bucket, key)) key value expectedVersion with
      | error e => exact inv.go more at_ nofun returns ((errors e).append more) (unpaid free)
      | ok record =>
        obtain ⟨owed, goes, accounted, fresh⟩ := stage.written checked
        have writes := inv.writes i
        rw [at_] at writes
        unfold write
        simp only [if_neg (cons_ne_nil frame [])]
        refine ⟨_, inv.of_update (i := i) more owed rfl rfl
          (.inr ⟨_, frame, jobs, rfl, returns, goes.append more⟩) ?_ ?_
          (fun _ _ _ _ absent => absent) (fun _ mem => .inl mem) fun _ mem => .inl mem⟩
        · constructor
          · exact fun none_ => absurd none_ (cons_ne_nil _ _)
          · intro entry mem
            rcases mem_dictSet mem with rfl | old
            · exact accounted.later more fun _ _ owing => .inr (.inl owing)
            · refine (writes.records entry old).later more ?_
              rintro identity value (owing | ⟨e, raising⟩)
              · cases free.symm.trans owing
              · cases raising
          · exact forall_mem_append.mpr ⟨writes.pending, forall_mem_singleton.mpr nofun⟩
          · exact writes.commands
          · intro entry mem
            simp only [PostgresSystem.go, update_apply]
            split_ifs with this
            · rfl
            · rcases mem_dictSet mem with rfl | old
              · exact absurd rfl this
              · exact writes.held entry old
          · intro entry mem domain
            rcases mem_dictSet mem with rfl | old
            · -- a key that the task does not see is not committed
              cases found : (sys.visible i).lookup (bucket, key) with
              | some old =>
                have positive : 0 < old.version := inv.positive (mem_of_lookup_eq_some found)
                have zero : old.version = 0 := fresh domain old found
                omega
              | none =>
                refine lookup_eq_none_iff_keys.mpr fun there => ?_
                exact lookup_eq_none_iff_keys.mp found (mem_keys_dictUpdate there)
            · exact writes.absent entry old domain
        · intro j row ne held
          simp only [PostgresSystem.go, update_apply]
          split_ifs with this
          · subst this
            rw [held] at waits
            simp [ne] at waits
          · exact held

theorem rollback (returns : frame.next = fun _ => c.collectAll jobs) (more : CollectHistory)
    (tx : Transaction Value) (e : Exn) :
    ∃ owes', c.InPostgres (tr ++ more) ((sys.setTransaction i tx).abandon i frame [] e) owes' := by
  refine ⟨_, inv.of_update (i := i) more none rfl ?_ (.inl ⟨rfl, jobs, by simp only [returns]⟩) .empty ?_
    (fun _ _ _ _ absent => absent) (fun _ mem => .inl mem) fun _ mem => .inl mem⟩
  · exact update_idem _ _ _
  · exact fun _ _ ne held => release_rows sys ne held

theorem abandon (returns : frame.next = fun _ => c.collectAll jobs) (more : CollectHistory) (e : Exn) :
    ∃ owes', c.InPostgres (tr ++ more) (sys.abandon i frame [] e) owes' := by
  have end_ := inv.rollback (i := i) returns more (sys.transactions i) e
  rwa [setTransaction_self] at end_

/-- The end of a transaction that is committed: the action returned, so nothing is owed. -/
theorem commit {result : Value} (at_ : sys.tasks i = ⟨.done result, [frame]⟩)
    (returns : frame.next = fun _ => c.collectAll jobs) (free : owes i = none) (collected : c.Collected tr [frame.id])
    (more : CollectHistory) (turn : Turn Value) :
    ∃ owes', c.InPostgres (tr ++ more) (sys.finish turn i frame [] result) owes' := by
  have writes := inv.writes i
  rw [at_, free] at writes
  unfold finish
  cases sys.failure i turn with
  | some e => exact inv.abandon returns more e
  | none =>
    simp only
    cases (sys.tables.commands ++ (sys.transactions i).commands).lookup frame.key with
    | some receipt => exact inv.rollback returns more _ _
    | none =>
      refine ⟨_, inv.of_update (i := i) more none rfl (update_idem _ _ _)
        (.inl ⟨rfl, jobs, by simp only [returns]⟩) .empty
        ?_ ?_ ?_ ?_⟩
      · exact fun _ _ ne held => release_rows sys ne held
      · intro j row ne held absent
        show (dictUpdate sys.tables.records (update sys.transactions i _ i).records).lookup row = none
        rw [update_self, lookup_dictUpdate_of_ne, absent]
        rintro entry mem rfl
        rw [writes.held entry mem] at held
        exact ne (Option.some.inj held).symm
      · intro entry mem
        have there : entry ∈ dictUpdate sys.tables.records (update sys.transactions i _ i).records := mem
        rw [update_self] at there
        rcases mem_dictUpdate there with committed | pending
        · exact .inl committed
        · refine .inr ((writes.records entry pending).later more ?_)
          rintro identity value (owing | ⟨e, raising⟩)
          · cases owing
          · cases raising
      · intro d mem
        have there : d ∈ sys.log ++ (update sys.transactions i _ i).pending := mem
        rw [update_self] at there
        rcases mem_append.mp there with old | pending
        · exact .inl old
        · rcases mem_append.mp pending with wrote | receipt
          · exact .inr fun key digest response item => absurd item (writes.pending d wrote key digest response)
          · rw [mem_singleton.mp receipt]
            exact .inr fun _ _ _ _ => collected

/-- A turn of a task inside its transaction. -/
theorem inside (turn : Turn Value) (at_ : sys.tasks turn.task = ⟨focus, [frame]⟩)
    (returns : frame.next = fun _ => c.collectAll jobs) (stage : c.Stage tr [frame.id] (owes turn.task) focus) :
    ∃ owes', c.InPostgres (tr ++ [(turn, (sys.tasks turn.task).called turn.answer)])
      (sys.advance c.fingerprint turn) owes' := by
  unfold PostgresSystem.advance
  cases focus with
  | done result =>
    obtain ⟨free, collected⟩ := stage.head.2.2.1 result rfl
    rw [at_]
    exact inv.commit at_ returns free collected _ turn
  | raise e =>
    rw [at_]
    exact inv.abandon returns _ e
  | get bucket key next =>
    have runs : ∀ e, Action.get bucket key next ≠ .raise e := by
      intro e same
      cases same
    have free := (stage.get rfl (.error .cancelled) fun _ answer _ => by cases answer).1
    have goes := (stage.get rfl (.ok ((sys.visible turn.task).lookup (bucket, key))) ?_).2
    · rw [at_]
      simp only [act]
      cases sys.failure turn.task turn with
      | some e =>
        have fails := (stage.get rfl (.error e) fun _ answer _ => by cases answer).2
        exact inv.stumble _ at_ runs returns (fails.append _) (unpaid free) turn
      | none => exact inv.go _ at_ runs returns (goes.append _) (unpaid free)
    · rintro record answer rfl
      refine inv.found free ?_ (mem_of_lookup_eq_some (Except.ok.inj answer))
      rw [at_]
      exact runs
  | list bucket next => exact absurd rfl (stage.head.2.1 bucket next)
  | put bucket key value expectedVersion next =>
    obtain ⟨free, errors, _⟩ := stage.put rfl
    rw [at_]
    simp only [act]
    cases c.fingerprint value with
    | error e => exact inv.go _ at_ (fun _ same => by cases same) returns ((errors e).append _) (unpaid free)
    | ok digest => exact inv.put at_ returns stage _ turn
  | command key request action next => exact absurd rfl (stage.head.1 key request action next)
  | call op next =>
    obtain ⟨goes, pays⟩ := stage.call rfl turn turn.answer
    rw [at_]
    refine inv.go _ at_ (fun _ same => by cases same) returns goes ?_
    intro identity value owing
    obtain ⟨_, ⟨e, _, raises⟩ | delivered⟩ := pays identity value owing
    · exact .inr (.inr ⟨e, raises⟩)
    · exact .inl delivered

theorem advance (turn : Turn Value) :
    ∃ owes', c.InPostgres (tr ++ [(turn, (sys.tasks turn.task).called turn.answer)])
      (sys.advance c.fingerprint turn) owes' := by
  rcases inv.working turn.task with ⟨_, jobs, at_⟩ | ⟨focus, frame, jobs, at_, returns, stage⟩
  · exact inv.outside turn at_ _
  · exact inv.inside turn at_ returns stage

/-- A stored event stays in the table as it is. -/
theorem kept (turn : Turn Value) (found : sys.tables.records.lookup ("domain-events", identity) = some record) :
    (sys.advance c.fingerprint turn).tables.records.lookup ("domain-events", identity) = some record := by
  have stumbles : ∀ i frames, (sys.stumble i turn frames).tables = sys.tables := by
    intro i frames
    unfold PostgresSystem.stumble
    split_ifs <;> rfl
  unfold PostgresSystem.advance
  rcases inv.working turn.task with ⟨_, jobs, at_⟩ | ⟨focus, frame, jobs, at_, returns, stage⟩
  · rw [at_]
    rcases c.collectAll_cases jobs with done | ⟨b, key, payload, rest, command⟩
    · rw [done]
      exact found
    · rw [command]
      simp only [act]
      split
      · exact found
      · unfold enter
        split
        · exact found
        · simp only [if_true]
          split
          · exact found
          · split <;> exact found
  · rw [at_]
    cases focus with
    | done result =>
      simp only [act, finish]
      split
      · exact found
      · split
        · exact found
        · simp only [if_true]
          show (dictUpdate sys.tables.records (update sys.transactions turn.task _ turn.task).records).lookup _ = _
          rw [update_self, lookup_dictUpdate_of_ne, found]
          -- an event that the transaction wrote was not committed before
          intro entry wrote same
          have absent := (inv.writes turn.task).absent entry wrote (by rw [← same])
          rw [← same, found] at absent
          cases absent
    | raise e => exact found
    | get bucket key next =>
      simp only [act]
      split
      · exact (stumbles _ _).symm ▸ found
      · exact found
    | list bucket next => exact absurd rfl (stage.head.2.1 bucket next)
    | put bucket key value expectedVersion next =>
      simp only [act]
      split
      · exact found
      · unfold PostgresSystem.put
        split
        · exact (stumbles _ _).symm ▸ found
        · split_ifs
          · exact found
          · split
            · exact found
            · unfold write
              exact found
    | command key request action next => exact absurd rfl (stage.head.1 key request action next)
    | call op next => exact found

theorem delivers : c.Delivers tr sys.tables sys.log where
  cursors _ _ mem := (inv.records _ mem).cursor
  collected := inv.collected
  events _ _ mem := (inv.records _ mem).event.resolve_right fun none_ => none_

end InPostgres

end

/-- What the runs of collectors over the store in PostgreSQL come to. -/
theorem inPostgres_of_run {jobs : Nat → List (Value × String)} {tr : CollectHistory}
    {sys : PostgresSystem Value CollectOp Value}
    (run : Machine.Run (postgresSystem c.fingerprint).step (fun _ _ _ => True) [] (c.postgresStart jobs) tr sys) :
    ∃ owes, c.InPostgres tr sys owes := by
  refine run.invariant (P := fun tr sys => ∃ owes, c.InPostgres tr sys owes) ?_ ?_
  · refine ⟨fun _ => none, fun i => .inl ⟨rfl, jobs i, rfl⟩, fun i => .empty, ?_, ?_⟩
    · exact fun _ mem => absurd mem not_mem_nil
    · exact fun _ mem => absurd mem not_mem_nil
  · rintro tr sys turn ⟨owes, inv⟩ _
    exact inv.advance turn

end EventCollector

end PersonalAssistant
