import PersonalAssistant.Scheduling.Evaluation

/-!
# What a tick does

In every state that is reached, the command of a tick has no receipt yet and the jobs it
enqueues are not there, so a tick goes through the schedules in the order of their listing and
each of them waits, fires, or ends the tick by a failed evaluation.
-/

namespace PersonalAssistant

open List

/-! ## Keys -/

theorem split_at_colon {xs xs' ys ys' : List Char} (left : ':' ∉ xs) (right : ':' ∉ xs')
    (same : xs ++ ':' :: ys = xs' ++ ':' :: ys') :
    xs = xs' ∧ ys = ys' := by
  -- otherwise the longer of the two has the colon of the other
  rcases append_eq_append_iff.mp same with ⟨more, rfl, tail⟩ | ⟨more, rfl, tail⟩
  · cases more <;> simp_all
  · cases more <;> simp_all

theorem colon_not_mem {id : String} (name : isName id) : ':' ∉ id.toList := by
  intro mem
  unfold isName at name
  simp only [Bool.and_eq_true, all_eq_true] at name
  have char := name.2 ':' mem
  revert char
  decide

/-- A key that has a name before its second colon is of that name only. -/
theorem named_key_inj {kind id id' rest rest' : String} (name : isName id) (name' : isName id')
    (same : kind ++ id ++ ":" ++ rest = kind ++ id' ++ ":" ++ rest') : id = id' ∧ rest = rest' := by
  have chars := congrArg String.toList same
  simp only [String.toList_append, append_assoc] at chars
  have tail := append_cancel_left chars
  obtain ⟨ids, rests⟩ := split_at_colon (colon_not_mem name) (colon_not_mem name') tail
  exact ⟨String.toList_injective ids, String.toList_injective rests⟩

/-- The schedule is enabled and due. -/
def Schedule.Due (s : Schedule) (now : Int) : Prop := s.enabled = true ∧ s.nextAt ≤ now

namespace SchedulerTables

variable {host : SchedulerHost} {t : SchedulerTables} {id id' : String}

theorem tickKey_inj {v v' : Nat} (name : isName id) (name' : isName id') (same : tickKey id v = tickKey id' v') :
    id = id' ∧ v = v' := by
  obtain ⟨ids, versions⟩ := named_key_inj name name' same
  have numbers := congrArg (fun s => Nat.ofDigitChars 10 s.toList 0) versions
  simp only [Nat.toString_eq_repr, Nat.toList_repr, Nat.ofDigitChars_ten_toDigits] at numbers
  exact ⟨ids, numbers⟩

theorem pollKey_inj {time time' : Int} (name : isName id) (name' : isName id')
    (same : pollKey host id time = pollKey host id' time') :
    id = id' ∧ time = time' := by
  obtain ⟨ids, times⟩ := named_key_inj name name' same
  exact ⟨ids, host.isoformat_injective times⟩

theorem tickKey_ne_scheduled (id : String) (v : Nat) (key : String) : tickKey id v ≠ "scheduled:" ++ key := by
  intro same
  have chars := congrArg (fun s => s.toList.take 9) same
  simp [tickKey] at chars

theorem tickKey_ne_state (id : String) (v : Nat) (key : String) : tickKey id v ≠ "schedule-state:" ++ key := by
  intro same
  have chars := congrArg (fun s => s.toList.take 10) same
  simp [tickKey] at chars

/-! ## The tables that are reached -/

/-- The schedules have ids of their own and times at which they can be due; what the ticks have left, receipts
and jobs, is of earlier versions and earlier times. -/
structure Tidy (host : SchedulerHost) (t : SchedulerTables) : Prop where
  ids : (t.schedules.map Schedule.id).Nodup
  starts : ∀ s ∈ t.schedules, s.definition.Starts host.toCalendar s.nextAt
  receipts : ∀ key ∈ t.receipts.map Prod.fst, ∀ id v, isName id → key = tickKey id v →
    ∃ s ∈ t.schedules, s.id = id ∧ v < s.version
  polls : ∀ row ∈ t.jobs.rows, row.kind = "event.poll" → ∃ s ∈ t.schedules, ∃ time < s.nextAt,
    row.idempotencyKey = pollKey host s.id time

/-- The job of an occurrence. -/
def pollJob (host : SchedulerHost) (d : ScheduleDefinition) (clock : Time) (newId : Int → String) (time : Int) :
    Job PollPayload :=
  Job.enqueued (newId time) "event.poll" d.payload (pollKey host d.id time) none 5 clock

/-- A schedule that has fired. -/
def advanced (s : Schedule) (next : Int) : Schedule := { s with nextAt := next, version := s.version + 1 }

/-- The tables after a schedule has fired. -/
def fired (host : SchedulerHost) (t : SchedulerTables) (s : Schedule) (clock : Time) (newId : String → Int → String)
    (times : List Int) (next : Int) : SchedulerTables where
  schedules := t.schedules.map fun r => if r.id = s.id then advanced s next else r
  receipts := t.receipts ++ [(tickKey s.id s.version, (host.tickDigest next times, .fired times.length))]
  jobs := ⟨t.jobs.rows ++ times.map (pollJob host s.definition clock (newId s.id))⟩

variable {s s' : Schedule} {jobs : PostgresJobQueue PollPayload} {times : List Int} {next : Int}

theorem Tidy.unique (tidy : Tidy host t) (mem : s ∈ t.schedules) (mem' : s' ∈ t.schedules) (same : s.id = s'.id) :
    s = s' := inj_on_of_nodup_map tidy.ids mem mem' same

theorem Tidy.no_receipt (tidy : Tidy host t) (mem : s ∈ t.schedules) :
    t.receipts.lookup (tickKey s.id s.version) = none := by
  rw [lookup_eq_none_iff_keys]
  intro there
  obtain ⟨s', mem', same, less⟩ := tidy.receipts _ there s.id s.version s.definition.named rfl
  rw [tidy.unique mem' mem same] at less
  omega

theorem isBlank_pollKey (host : SchedulerHost) (id : String) (time : Int) : isBlank (pollKey host id time) = false := by
  simp [isBlank, pollKey, isPySpace]

/-- New occurrences are enqueued one after the other, each as a job of its own. -/
theorem enqueueAll_eq (host : SchedulerHost) (d : ScheduleDefinition) (clock : Time) (newId : Int → String)
    (times : List Int) (jobs : PostgresJobQueue PollPayload) (distinct : times.Nodup)
    (absent : ∀ row ∈ jobs.rows, row.kind = "event.poll" →
      ∀ time ∈ times, row.idempotencyKey ≠ pollKey host d.id time) :
    enqueueAll host d clock newId times jobs = .ok ⟨jobs.rows ++ times.map (pollJob host d clock newId)⟩ := by
  induction times generalizing jobs with
  | nil => simp [enqueueAll]
  | cons time times ih =>
    obtain ⟨new, distinct⟩ := nodup_cons.mp distinct
    have none_ : jobs.rows.find? (fun row => row.kind = "event.poll" ∧ row.idempotencyKey = pollKey host d.id time) =
      none := by
      rw [List.find?_eq_none]
      intro row mem found
      obtain ⟨kind, key⟩ := of_decide_eq_true found
      exact absent row mem kind time mem_cons_self key
    unfold enqueueAll PostgresJobQueue.enqueue
    rw [isBlank_pollKey, none_]
    refine (ih ⟨jobs.rows ++ [pollJob host d clock newId time]⟩ distinct ?_).trans ?_
    rotate_left
    · simp
    · refine forall_mem_append.mpr
        ⟨fun row old kind other later => ?_, forall_mem_singleton.mpr fun _ other later same => ?_⟩
      · exact absent row old kind other (mem_cons_of_mem _ later)
      · obtain ⟨_, rfl⟩ := pollKey_inj d.named d.named same
        exact new later

section

variable (tidy : Tidy host t)

include tidy

theorem Tidy.find (mem : s ∈ t.schedules) : t.schedules.find? (·.id = s.id) = some s :=
  find?_of_mem tidy.ids mem

theorem receipted_fire (mem : s ∈ t.schedules)
    (orderly : ScheduleDefinition.Orderly s.nextAt times next) (clock : Time) (newId : String → Int → String) :
    t.receipted (tickKey s.id s.version) (host.tickDigest next times) (t.fire host s clock newId times next) =
      (.ok (.fired times.length), t.fired host s clock newId times next) := by
  have jobs := enqueueAll_eq host s.definition clock (newId s.id) times t.jobs orderly.sorted.nodup ?_
  · unfold receipted fire
    rw [tidy.no_receipt mem, jobs]
    simp only [bind, Except.bind, update, tidy.find mem, ne_eq, not_true_eq_false, if_false]
    rfl
  · intro row there kind time occurs same
    obtain ⟨s', mem', time', before, key⟩ := tidy.polls row there kind
    obtain ⟨ids, rfl⟩ := pollKey_inj s'.definition.named s.definition.named (key.symm.trans same)
    rw [tidy.unique mem' mem ids] at before
    have from_ := (orderly.bounds time' occurs).1
    omega

/-- Schedules that change keep their ids and do not go back. -/
theorem Tidy.mapped {f : Schedule → Schedule} (ids : ∀ r ∈ t.schedules, (f r).id = r.id)
    (versions : ∀ r ∈ t.schedules, r.version ≤ (f r).version) (nexts : ∀ r ∈ t.schedules, r.nextAt ≤ (f r).nextAt)
    (starts : ∀ r ∈ t.schedules, (f r).definition.Starts host.toCalendar (f r).nextAt) :
    Tidy host { t with schedules := t.schedules.map f } where
  ids := by
    have same : (t.schedules.map f).map Schedule.id = t.schedules.map Schedule.id := by
      rw [map_map]
      exact map_congr_left ids
    rw [same]
    exact tidy.ids
  starts := forall_mem_map.mpr starts
  receipts key mem id v name same := by
    obtain ⟨r, old, rfl, less⟩ := tidy.receipts key mem id v name same
    exact ⟨f r, mem_map_of_mem old, ids r old, less.trans_le (versions r old)⟩
  polls row mem kind := by
    obtain ⟨r, old, time, before, key⟩ := tidy.polls row mem kind
    exact ⟨f r, mem_map_of_mem old, time, before.trans_le (nexts r old), (ids r old).symm ▸ key⟩

theorem Tidy.replaced (mem : s ∈ t.schedules) (id : s'.id = s.id)
    (version : s.version ≤ s'.version) (next : s.nextAt ≤ s'.nextAt)
    (starts : s'.definition.Starts host.toCalendar s'.nextAt) :
    Tidy host { t with schedules := t.schedules.map fun r => if r.id = s.id then s' else r } := by
  apply tidy.mapped
  all_goals
    intro r old
    split_ifs with same
  · exact id.trans same.symm
  · rfl
  · exact tidy.unique old mem same ▸ version
  · exact le_rfl
  · exact tidy.unique old mem same ▸ next
  · exact le_rfl
  · exact starts
  · exact tidy.starts r old

/-- The tables stay tidy when a schedule fires. -/
theorem Tidy.fired (mem : s ∈ t.schedules)
    (orderly : ScheduleDefinition.Orderly s.nextAt times next) (starts : s.definition.Starts host.toCalendar next)
    (clock : Time) (newId : String → Int → String) : Tidy host (t.fired host s clock newId times next) := by
  have there : advanced s next ∈ (t.fired host s clock newId times next).schedules :=
    mem_map.mpr ⟨s, mem, if_pos rfl⟩
  have moved : Tidy host { t with schedules := t.schedules.map fun r => if r.id = s.id then advanced s next else r } :=
    tidy.replaced mem rfl (Nat.le_succ _) orderly.later.le starts
  constructor
  · exact moved.ids
  · exact moved.starts
  · intro key new id v name same
    unfold SchedulerTables.fired at new
    rw [map_append, mem_append] at new
    rcases new with old | this
    · exact moved.receipts key old id v name same
    · have keys : key = tickKey s.id s.version := mem_singleton.mp this
      obtain ⟨rfl, rfl⟩ := tickKey_inj name s.definition.named (same.symm.trans keys)
      exact ⟨_, there, rfl, Nat.lt_succ_self _⟩
  · intro row new kind
    rcases mem_append.mp new with old | this
    · exact moved.polls row old kind
    · obtain ⟨time, occurs, rfl⟩ := mem_map.mp this
      exact ⟨_, there, time, (orderly.bounds time occurs).2, rfl⟩

/-! ## The loop -/

end

/-- What becomes of a schedule that does not end the tick: it waits or fires. -/
inductive Outcome (host : SchedulerHost) (now : Int) : Schedule → Schedule → List Int → Prop where
  | waits (s : Schedule) (early : ¬ s.Due now) : Outcome host now s s []
  | fires (s : Schedule) (due : s.Due now) (times : List Int) (next : Int)
      (value : s.definition.evaluate host.toCalendar s.nextAt now = .ok (times, next)) :
      Outcome host now s (advanced s next) times

/-- What becomes of the schedules that a tick goes through, and what it enqueues. -/
inductive Passed (host : SchedulerHost) (now : Int) : List Schedule → List Schedule → List (String × Int) → Prop where
  | nil : Passed host now [] [] []
  | cons {s s' : Schedule} {times : List Int} {rest rest' : List Schedule} {enqueued : List (String × Int)}
      (outcome : Outcome host now s s' times) (passed : Passed host now rest rest' enqueued) :
      Passed host now (s :: rest) (s' :: rest') (times.map (s.id, ·) ++ enqueued)

/-- A schedule ends the tick. -/
def Ends (host : SchedulerHost) (now : Int) (s : Schedule) (e : Exn) : Prop :=
  s.Due now ∧ s.definition.evaluate host.toCalendar s.nextAt now = .error e

/-- The schedules after one of them has fired. -/
theorem fired_schedules {before rest : List Schedule} (tidy : Tidy host t) (table : t.schedules = before ++ s :: rest)
    (clock : Time) (newId : String → Int → String) (times : List Int) (next : Int) :
    (t.fired host s clock newId times next).schedules = before ++ advanced s next :: rest := by
  have ids := tidy.ids
  rw [table, map_append, map_cons, nodup_append] at ids
  obtain ⟨_, later, apart⟩ := ids
  have left : ∀ r ∈ before, r.id ≠ s.id := fun r mem => apart _ (mem_map_of_mem mem) _ mem_cons_self
  have right : ∀ r ∈ rest, r.id ≠ s.id := by
    intro r mem same
    exact (nodup_cons.mp later).1 (same ▸ mem_map_of_mem mem)
  unfold fired
  simp only [table, map_append, map_cons, if_true]
  congr 1
  · rw [map_congr_left (g := id)]
    · exact map_id _
    · exact fun r mem => if_neg (left r mem)
  · congr 1
    rw [map_congr_left (g := id)]
    · exact map_id _
    · exact fun r mem => if_neg (right r mem)

/-- The keys of the poll jobs. -/
def pollKeys (t : SchedulerTables) : List String := (t.jobs.rows.filter (·.kind = "event.poll")).map Job.idempotencyKey

theorem pollKeys_fired (host : SchedulerHost) (t : SchedulerTables) (s : Schedule) (clock : Time)
    (newId : String → Int → String) (times : List Int) (next : Int) :
    (t.fired host s clock newId times next).pollKeys = t.pollKeys ++ times.map (pollKey host s.id) := by
  unfold pollKeys fired
  rw [filter_append, map_append]
  congr 1
  rw [filter_eq_self.mpr, map_map]
  · rfl
  · intro row mem
    obtain ⟨time, _, rfl⟩ := mem_map.mp mem
    rfl

/-- A schedule that does not end the tick is put in its place, with its occurrences enqueued. -/
theorem tickOne_cases (tidy : Tidy host t) (mem : s ∈ t.schedules) (now : Int) (clock : Time)
    (newId : String → Int → String) :
    (∃ e, Ends host now s e ∧ t.tickOne host now clock newId s = (.error e, t)) ∨
    ∃ times s' t', Outcome host now s s' times ∧ t.tickOne host now clock newId s = (.ok (times.length, times), t') ∧
      Tidy host t' ∧ t'.pollKeys = t.pollKeys ++ times.map (pollKey host s.id) ∧
      ∀ before rest, t.schedules = before ++ s :: rest → t'.schedules = before ++ s' :: rest := by
  unfold tickOne
  by_cases due : s.Due now
  · rw [if_neg (by simp [due.1]), if_neg (not_lt.mpr due.2)]
    cases value : s.definition.evaluate host.toCalendar s.nextAt now with
    | error e => exact .inl ⟨e, ⟨due, value⟩, rfl⟩
    | ok result =>
      obtain ⟨times, next⟩ := result
      have orderly := ScheduleDefinition.evaluate_ok (tidy.starts s mem).low due.2 value
      have starts := ScheduleDefinition.evaluate_starts (tidy.starts s mem) due.2 value
      refine .inr ⟨times, _, _, .fires s due times next value, ?_, tidy.fired mem orderly starts clock newId,
        pollKeys_fired .., fun _ _ table => fired_schedules tidy table ..⟩
      simp only [receipted_fire tidy mem orderly, tidy.no_receipt mem]
      rfl
  · refine .inr ⟨[], s, t, .waits s due, ?_, tidy, by simp, fun _ _ => id⟩
    split_ifs with disabled early
    · rfl
    · rfl
    · exact absurd ⟨Bool.eq_true_of_not_eq_false disabled, not_lt.mp early⟩ due

/-- The loop, over a part of the table: it passes the schedules up to the end of the part, or up
to one that ends the tick. -/
theorem tickAll_spec {before rest tail : List Schedule} (tidy : Tidy host t)
    (table : t.schedules = before ++ (rest ++ tail)) (now : Int) (clock : Time) (newId : String → Int → String) :
    ∃ gone gone' left, rest = gone ++ left ∧
      Passed host now gone gone' (tickAll host now clock newId rest t).1.enqueued ∧
      (tickAll host now clock newId rest t).2.schedules = before ++ (gone' ++ (left ++ tail)) ∧
      Tidy host (tickAll host now clock newId rest t).2 ∧
      (tickAll host now clock newId rest t).2.pollKeys =
        t.pollKeys ++ (tickAll host now clock newId rest t).1.enqueued.map (fun x => pollKey host x.1 x.2) ∧
      ((left = [] ∧ ∃ count, (tickAll host now clock newId rest t).1.result = .ok count) ∨
        ∃ s later e, left = s :: later ∧ Ends host now s e ∧ (tickAll host now clock newId rest t).1.result =
          .error e) := by
  induction rest generalizing before t with
  | nil => exact ⟨[], [], [], rfl, .nil, by simpa [tickAll] using table, tidy, by simp [tickAll], .inl ⟨rfl, 0, rfl⟩⟩
  | cons s rest ih =>
    have mem : s ∈ t.schedules := by
      rw [table]
      exact mem_append_right _ mem_cons_self
    rcases tickOne_cases tidy mem now clock newId with ⟨e, ends, one⟩ |
      ⟨times, s', t', outcome, one, tidy', enqueued, moved⟩
    · refine ⟨[], [], s :: rest, rfl, ?_, ?_, ?_, ?_, ?_⟩
      all_goals simp only [tickAll, one]
      · exact .nil
      · simpa using table
      · exact tidy
      · simp
      · exact .inr ⟨s, rest, e, rfl, ends, rfl⟩
    · have table' := moved before (rest ++ tail) table
      rw [append_cons] at table'
      obtain ⟨gone, gone', left, split, passed, schedules, tidy'', keys, result⟩ := ih tidy' table'
      refine ⟨s :: gone, s' :: gone', left, by rw [split]; rfl, ?_, ?_, ?_, ?_, ?_⟩
      all_goals simp only [tickAll, one]
      · exact .cons outcome passed
      · simpa using schedules
      · exact tidy''
      · rw [keys, enqueued]
        simp
      · rcases result with ⟨none_, count, done⟩ | ⟨r, later, e, split', ends, failed⟩
        · exact .inl ⟨none_, times.length + count, by rw [done]; rfl⟩
        · exact .inr ⟨r, later, e, split', ends, by rw [failed]; rfl⟩

/-- A tick passes some of the schedules and leaves the others as they are; one that does not die
passes all of them, or all before one that ends it. -/
theorem tick_spec (tidy : Tidy host t) (now : Int) (clock : Time) (newId : String → Int → String) (dies : Option Nat) :
    ∃ gone gone' left, t.schedules = gone ++ left ∧
    Passed host now gone gone' (t.tick host now clock newId dies).1.enqueued ∧
      (t.tick host now clock newId dies).2.schedules = gone' ++ left ∧ Tidy host (t.tick host now clock newId dies).2 ∧
      (t.tick host now clock newId dies).2.pollKeys =
        t.pollKeys ++ (t.tick host now clock newId dies).1.enqueued.map (fun x => pollKey host x.1 x.2) ∧
      (dies = none → (left = [] ∧ ∃ count, (t.tick host now clock newId dies).1.result = .ok count) ∨
        ∃ s later e, left = s :: later ∧ Ends host now s e ∧ (t.tick host now clock newId dies).1.result =
          .error e) := by
  cases dies with
  | none =>
    have table : t.schedules = [] ++ (t.schedules ++ []) := by simp
    obtain ⟨gone, gone', left, split, passed, schedules, tidy', keys, result⟩ := tickAll_spec tidy table now clock newId
    rw [nil_append, append_nil] at schedules
    exact ⟨gone, gone', left, split, passed, schedules, tidy', keys, fun _ => result⟩
  | some count =>
    have table : t.schedules = [] ++ (t.schedules.take count ++ t.schedules.drop count) := by simp
    obtain ⟨gone, gone', left, split, passed, schedules, tidy', keys, _⟩ := tickAll_spec tidy table now clock newId
    refine ⟨gone, gone', left ++ t.schedules.drop count, ?_, passed, schedules, tidy', keys, fun none_ =>
      by cases none_⟩
    rw [← append_assoc, ← split, take_append_drop]

/-! ## The other steps -/

theorem lookup_hit (t : SchedulerTables) (key digest : String)
    (action : Except Exn (SchedulerReply × SchedulerTables)) :
    (t.command key digest action).2 = t ∨ ∃ reply t', action = .ok (reply, t') ∧
      (t.command key digest action).2 = { t' with receipts := t'.receipts ++ [(key, (digest, reply))] } := by
  unfold command receipted
  split_ifs
  · exact .inl rfl
  cases t.receipts.lookup key with
  | some receipt =>
    left
    simp only
    split_ifs <;> rfl
  | none =>
    cases action with
    | error e => exact .inl rfl
    | ok result => exact .inr ⟨result.1, result.2, rfl, rfl⟩

/-- `configure` leaves the tables, or adds a schedule under a new id. -/
theorem configure_cases (host : SchedulerHost) (t : SchedulerTables) (definition : Value) (key : String) (now : Int) :
    (t.configure host definition key now).2 = t ∨ ∃ d due reply, d.firstDue host.toCalendar now = .ok due ∧
      (∀ s ∈ t.schedules, s.id ≠ d.id) ∧ (t.configure host definition key now).2 = { t with
        schedules := t.schedules.orderedInsert (fun a b => host.listedBefore a.id b.id) ⟨d, due, true, 1⟩
        receipts := t.receipts ++ [("scheduled:" ++ key, reply)] } := by
  unfold SchedulerTables.configure
  split
  · exact .inl rfl
  · rename_i d _
    cases first : d.firstDue host.toCalendar now with
    | error e => exact .inl rfl
    | ok due =>
      refine (lookup_hit t _ _ _).imp_right ?_
      rintro ⟨reply, t', created, same⟩
      unfold create at created
      split_ifs at created with exists_
      cases created
      refine ⟨d, due, _, first, fun s mem named => ?_, same⟩
      exact exists_ (any_eq_true.mpr ⟨s, mem, by simpa using named⟩)

/-- `schedule_state` leaves the tables, or writes the schedule of the version asked for. -/
theorem setEnabled_cases (host : SchedulerHost) (t : SchedulerTables) (id : String) (enabled : Bool) (version : Nat)
    (key : String) :
    (t.setEnabled host id enabled version key).2 = t ∨ ∃ s ∈ t.schedules, ∃ reply, s.id = id ∧ s.version = version ∧
      (t.setEnabled host id enabled version key).2 = { t with
        schedules := t.schedules.map fun r => if r.id = id then { s with enabled, version := version + 1 } else r
        receipts := t.receipts ++ [("schedule-state:" ++ key, reply)] } := by
  unfold SchedulerTables.setEnabled
  refine (lookup_hit t _ _ _).imp_right ?_
  rintro ⟨reply, t', written, same⟩
  split_ifs at written
  unfold update at written
  split at written
  · cases written
  · rename_i s found
    split_ifs at written with versions
    cases written
    exact ⟨s, mem_of_find?_eq_some found, _, by simpa using List.find?_some found, not_not.mp versions, same⟩

theorem Tidy.receipt (tidy : Tidy host t) {key : String} (other : ∀ id v, tickKey id v ≠ key)
    (value : String × SchedulerReply) :
    Tidy host { t with receipts := t.receipts ++ [(key, value)] } where
  ids := tidy.ids
  starts := tidy.starts
  receipts key' mem id v name same := by
    rw [map_append, mem_append] at mem
    rcases mem with old | new
    · exact tidy.receipts key' old id v name same
    · have this : key' = key := mem_singleton.mp new
      exact absurd (same.symm.trans this) (other id v)
  polls := tidy.polls

/-- `configure` keeps the tables tidy. -/
theorem Tidy.configure (tidy : Tidy host t) (definition : Value) (key : String) (now : Int) :
    Tidy host (t.configure host definition key now).2 := by
  rcases configure_cases host t definition key now with same | ⟨d, due, reply, first, new, same⟩
  · rw [same]
    exact tidy
  · rw [same]
    suffices added : Tidy host { t with
        schedules := t.schedules.orderedInsert (fun a b => host.listedBefore a.id b.id) ⟨d, due, true, 1⟩ } from
      added.receipt (tickKey_ne_scheduled · · key) reply
    have perm := perm_orderedInsert (fun a b : Schedule => host.listedBefore a.id b.id) ⟨d, due, true, 1⟩ t.schedules
    have starts : d.Starts host.toCalendar due := by
      unfold ScheduleDefinition.firstDue at first
      split at first
      · rename_i n cadence
        refine ⟨(shift_eq_ok first).2.1, fun expression other => ?_⟩
        rw [cadence] at other
        cases other
      · rename_i expression cadence
        obtain ⟨isCron, low, _⟩ := cronNext_ok first
        refine ⟨low, fun other same => ?_⟩
        rw [cadence] at same
        cases same
        exact isCron
    constructor
    · rw [(perm.map Schedule.id).nodup_iff, map_cons, nodup_cons]
      refine ⟨fun mem => ?_, tidy.ids⟩
      obtain ⟨s, mem, same⟩ := mem_map.mp mem
      exact new s mem same
    · intro s mem
      rcases mem_cons.mp (perm.mem_iff.mp mem) with rfl | old
      · exact starts
      · exact tidy.starts s old
    · intro key' mem id v name same
      obtain ⟨s, old, rest⟩ := tidy.receipts key' mem id v name same
      exact ⟨s, perm.mem_iff.mpr (mem_cons_of_mem _ old), rest⟩
    · intro row mem kind
      obtain ⟨s, old, rest⟩ := tidy.polls row mem kind
      exact ⟨s, perm.mem_iff.mpr (mem_cons_of_mem _ old), rest⟩

theorem Tidy.setEnabled (tidy : Tidy host t) (id : String) (enabled : Bool) (version : Nat) (key : String) :
    Tidy host (t.setEnabled host id enabled version key).2 := by
  rcases setEnabled_cases host t id enabled version key with same | ⟨s, mem, reply, rfl, rfl, same⟩
  · rw [same]
    exact tidy
  · rw [same]
    have moved : Tidy host { t with schedules := t.schedules.map fun r =>
        if r.id = s.id then { s with enabled, version := s.version + 1 } else r } :=
      tidy.replaced mem rfl (Nat.le_succ _) le_rfl (tidy.starts s mem)
    exact moved.receipt (tickKey_ne_state · · key) reply

/-- A call of a worker that enqueues nothing. -/
def IsWork (call : QueueCall PollPayload) : Prop :=
  ∀ kind payload key availableAt maxAttempts, call ≠ .enqueue kind payload key availableAt maxAttempts

/-- A change of the jobs that keeps their kinds and keys. -/
def Relabels (jobs jobs' : PostgresJobQueue PollPayload) : Prop :=
  jobs'.rows.map (fun row => (row.kind, row.idempotencyKey)) = jobs.rows.map fun row => (row.kind, row.idempotencyKey)

theorem relabels_update {which : Job PollPayload → Prop} [DecidablePred which]
    {set : Job PollPayload → Job PollPayload} (kind : ∀ row, (set row).kind = row.kind)
    (key : ∀ row, (set row).idempotencyKey = row.idempotencyKey) : Relabels jobs (jobs.update which set).2 := by
  unfold Relabels PostgresJobQueue.update
  rw [map_map]
  apply map_congr_left
  intro row _
  simp only [Function.comp]
  split_ifs
  · rw [kind, key]
  · rfl

/-- What the workers do to the jobs keeps their kinds and keys. -/
theorem relabels_work {s : QueueStep PollPayload} (work : IsWork s.call) :
    Relabels jobs (PostgresJobQueue.step jobs s).2 := by
  unfold PostgresJobQueue.step
  cases call : s.call with
  | enqueue kind payload key availableAt maxAttempts => exact absurd call (work _ _ _ _ _)
  | claim workerId leaseSeconds =>
    simp only [PostgresJobQueue.claim]
    have expired : Relabels jobs (jobs.expired s.now s.locked) := relabels_update (fun _ => rfl) fun _ => rfl
    split_ifs
    · rfl
    · split
      · exact expired
      · exact Eq.trans (relabels_update (fun _ => rfl) fun _ => rfl) expired
  | act jobId workerId action =>
    simp only [PostgresJobQueue.act]
    have updated : Relabels jobs
      (jobs.update (fun row => row.id = jobId ∧ row.LeasedTo workerId s.now)
      (PostgresJobQueue.set s.now action)).2 := by
      apply relabels_update
      · intro row
        cases action <;> rfl
      · intro row
        cases action <;> rfl
    split <;> exact updated

theorem pollKeys_relabels (same : Relabels t.jobs jobs) : { t with jobs }.pollKeys = t.pollKeys := by
  have general : ∀ rows : List (Job PollPayload), (rows.filter (·.kind = "event.poll")).map Job.idempotencyKey =
      ((rows.map fun row => (row.kind, row.idempotencyKey)).filter (·.1 = "event.poll")).map Prod.snd := by
    intro rows
    rw [filter_map, map_map]
    rfl
  unfold pollKeys
  rw [general, general, same]

theorem Tidy.work (tidy : Tidy host t) (same : Relabels t.jobs jobs) : Tidy host { t with jobs } where
  ids := tidy.ids
  starts := tidy.starts
  receipts := tidy.receipts
  polls row mem kind := by
    have there : (row.kind, row.idempotencyKey) ∈ jobs.rows.map fun row => (row.kind, row.idempotencyKey) :=
      mem_map_of_mem mem
    rw [same] at there
    obtain ⟨old, mem', labels⟩ := mem_map.mp there
    obtain ⟨s, this, time, before, key⟩ := tidy.polls old mem' ((congrArg Prod.fst labels).trans kind)
    exact ⟨s, this, time, before, (congrArg Prod.snd labels).symm.trans key⟩

end SchedulerTables

end PersonalAssistant
