import PersonalAssistant.Scheduling.Contract

/-!
# A schedule that cannot be evaluated

A failed evaluation ends the tick, and since nothing is written it fails again in every later
one. The schedules that are listed before it are evaluated each time; those that are listed
after it never are.
-/

namespace PersonalAssistant

open List

namespace SchedulerTables

variable {host : SchedulerHost} {t : SchedulerTables} {now : Int}

/-- A tick, without the process dying. -/
structure TickInput where
  now : Int
  clock : Time
  newId : String → Int → String

/-- The tables after some ticks. -/
def ticks (host : SchedulerHost) (t : SchedulerTables) (inputs : List TickInput) : SchedulerTables :=
  inputs.foldl (fun t x => (t.tick host x.now x.clock x.newId none).2) t

/-- The schedule is evaluated and moves on, in the tick at the clock or in a later one, whatever
the clocks and the new ids of the ticks are. -/
def FiresEventually (host : SchedulerHost) (t : SchedulerTables) (now : Int) (s : Schedule) : Prop :=
  ∀ history : Nat → TickInput, (history 0).now = now →
    ∃ n, ∃ s' ∈ (ticks host t ((range n).map history)).schedules, s'.id = s.id ∧ s.version < s'.version

variable {start : Int} {before later : List Schedule} {f s : Schedule}

/-- A schedule that has failed at a clock is as it was after any later tick, and so are those
that are listed after it. -/
theorem tick_blocked (tidy : Tidy host t) (table : t.schedules = before ++ f :: later) (due : f.Due start)
    (fails : f.definition.Fails host.toCalendar f.nextAt start) (le : start ≤ now) (clock : Time)
    (newId : String → Int → String) :
    ∃ before', (t.tick host now clock newId none).2.schedules = before' ++ f :: later := by
  obtain ⟨gone, gone', left, split, passed, schedules, _⟩ := tick_spec tidy now clock newId none
  have mem : f ∈ t.schedules := table ▸ mem_append_right _ mem_cons_self
  obtain ⟨e, failing⟩ := fails.later (tidy.starts f mem).low due.2 le
  have notGone : f ∉ gone := by
    intro there
    have ids := tidy.ids
    rw [split, map_append, nodup_append] at ids
    obtain ⟨s', _, outcome⟩ := passed.outcome ids.1 f there
    generalize timesOf f.id (t.tick host now clock newId none).1.enqueued = times at outcome
    cases outcome with
    | waits early => exact early ⟨due.1, due.2.trans le⟩
    | fires _ times next value =>
      rw [failing] at value
      cases value
  rw [schedules]
  rw [table] at split
  rcases append_eq_append_iff.mp split with ⟨middle, gone_eq, left_eq⟩ | ⟨middle, before_eq, left_eq⟩
  · cases middle with
    | nil => exact ⟨gone', by rw [← nil_append left, left_eq]⟩
    | cons g middle =>
      rw [cons_append, List.cons.injEq] at left_eq
      exact absurd (gone_eq ▸ mem_append_right _ (left_eq.1 ▸ mem_cons_self)) notGone
  · exact ⟨gone' ++ middle, by rw [left_eq, append_assoc]⟩

theorem ticks_blocked (tidy : Tidy host t) (table : t.schedules = before ++ f :: later) (due : f.Due start)
    (fails : f.definition.Fails host.toCalendar f.nextAt start) (inputs : List TickInput)
    (late : ∀ x ∈ inputs, start ≤ x.now) :
    Tidy host (ticks host t inputs) ∧ ∃ before', (ticks host t inputs).schedules = before' ++ f :: later := by
  induction inputs generalizing t before with
  | nil => exact ⟨tidy, before, table⟩
  | cons x inputs ih =>
    obtain ⟨before', table'⟩ := tick_blocked tidy table due fails (late x mem_cons_self) x.clock x.newId
    obtain ⟨_, _, _, _, _, _, tidy', _⟩ := tick_spec tidy x.now x.clock x.newId none
    exact ih tidy' table' fun y mem => late y (mem_cons_of_mem _ mem)

/-- A schedule after one that has failed is kept as it is. -/
theorem ticks_keep_blocked (tidy : Tidy host t) (table : t.schedules = before ++ f :: later) (due : f.Due start)
    (fails : f.definition.Fails host.toCalendar f.nextAt start) (mem : s ∈ later) (inputs : List TickInput)
    (late : ∀ x ∈ inputs, start ≤ x.now) : ∀ s' ∈ (ticks host t inputs).schedules, s'.id = s.id → s' = s := by
  obtain ⟨tidy', before', table'⟩ := ticks_blocked tidy table due fails inputs late
  intro s' mem' same
  refine tidy'.unique mem' ?_ same
  rw [table']
  exact mem_append_right _ (mem_cons_of_mem _ mem)

/-- A schedule that is due and can be evaluated moves on in the tick, unless one that cannot be
evaluated is listed before it. -/
theorem tick_fires (tidy : Tidy host t) (mem : s ∈ t.schedules) (due : s.Due now)
    (ok : ¬ s.definition.Fails host.toCalendar s.nextAt now)
    (ahead : ∀ before f later, t.schedules = before ++ f :: later → f.Due now →
      f.definition.Fails host.toCalendar f.nextAt now → s ∉ later)
    (clock : Time) (newId : String → Int → String) :
    ∃ s' ∈ (t.tick host now clock newId none).2.schedules, s'.id = s.id ∧ s.version < s'.version := by
  obtain ⟨gone, gone', left, split, passed, schedules, _, _, ended⟩ := tick_spec tidy now clock newId none
  have there : s ∈ gone := by
    have both := split ▸ mem
    rcases mem_append.mp both with there | later
    · exact there
    · exfalso
      rcases ended rfl with ⟨rfl, _⟩ | ⟨f, after, e, rfl, ends, _⟩
      · exact not_mem_nil later
      · rcases mem_cons.mp later with rfl | last
        · exact ok ⟨e, ends.2⟩
        · exact ahead gone f after split ends.1 ⟨e, ends.2⟩ last
  have ids := tidy.ids
  rw [split, map_append, nodup_append] at ids
  obtain ⟨s', mem', outcome⟩ := passed.outcome ids.1 s there
  refine ⟨s', schedules ▸ mem_append_left _ mem', outcome.id_eq, ?_⟩
  generalize timesOf s.id (t.tick host now clock newId none).1.enqueued = times at outcome
  cases outcome with
  | waits early => exact absurd due early
  | fires _ times next value => exact Nat.lt_succ_self _

/-- **Who fires.** In every state that is reached, at every clock: every schedule that is due and can
be evaluated fires in every history of ticks from that clock on if and only if none that is due and
cannot be evaluated is listed before one of them. Those that are listed after such a one stay as
they are in every history. -/
theorem due_schedules_fire_iff (host : SchedulerHost) (tr : History) (t : SchedulerTables)
    (run : Machine.Run (scheduler host) (fun _ _ step => OnlyTicksEnqueue step) [] {} tr t) (now : Int) :
    ((∀ s ∈ t.schedules, s.Due now → ¬ s.definition.Fails host.toCalendar s.nextAt now → FiresEventually host t now s) ↔
      ∀ before f later, t.schedules = before ++ f :: later → f.Due now →
        f.definition.Fails host.toCalendar f.nextAt now →
        ∀ s ∈ later, s.Due now → s.definition.Fails host.toCalendar s.nextAt now) ∧
    ∀ before f later, t.schedules = before ++ f :: later → f.Due now → f.definition.Fails host.toCalendar f.nextAt now →
      ∀ s ∈ later, ∀ inputs : List TickInput, (∀ x ∈ inputs, now ≤ x.now) →
        ∀ s' ∈ (ticks host t inputs).schedules, s'.id = s.id → s' = s := by
  have tidy := tidy_of_run (fun _ _ _ only => only) run
  refine ⟨⟨?_, ?_⟩, fun before f later table due fails s mem => ticks_keep_blocked tidy table due fails mem⟩
  · intro fires before f later table due fails s mem due'
    by_contra ok
    have inTable : s ∈ t.schedules := table ▸ mem_append_right _ (mem_cons_of_mem _ mem)
    -- a clock that stands still is late enough
    obtain ⟨n, s', mem', same, less⟩ := fires s inTable due' ok (fun _ => ⟨now, 0, fun _ _ => ""⟩) rfl
    have late : ∀ x ∈ (range n).map fun _ => (⟨now, 0, fun _ _ => ""⟩ : TickInput), now ≤ x.now :=
      forall_mem_map.mpr fun _ _ => le_rfl
    rw [ticks_keep_blocked tidy table due fails mem _ late s' mem' same] at less
    exact Nat.lt_irrefl _ less
  · rintro ahead s mem due ok history rfl
    refine ⟨1, tick_fires tidy mem due ok ?_ _ _⟩
    exact fun before f later table due' fails last => ok (ahead before f later table due' fails s last due)

/-! ## A sample -/

theorem intervalSchedule_ok (due : intervalSchedule.nextAt ≤ now) (soon : now < 2 ^ 53) :
    ¬ intervalSchedule.definition.Fails sampleHost.toCalendar intervalSchedule.nextAt now := by
  rintro ⟨e, fails⟩
  have limits : intervalSchedule.definition.Manageable sampleHost.toCalendar intervalSchedule.nextAt now := by
    show (now - 60000000 < 2 ^ 53) ∧
      (60000000 + 60 * ((now - 60000000) / (60 * 1000000) + 1) * 1000000 ≤ (253402300799999999 : Int))
    omega
  obtain ⟨times, next, value, _⟩ := ScheduleDefinition.evaluate_of_manageable ⟨by decide, by rintro _ ⟨⟩⟩ due limits
  rw [fails] at value
  cases value

/-- The calendar of the sample, with a collation that lists the later letter first. -/
def reversedHost : SchedulerHost := { sampleHost with listedBefore := fun a b => b ≤ a }

/-- Both schedules, the cron schedule last. -/
def cronLast : SchedulerTables := (scheduler reversedHost intervalTables cronStep).2

theorem cronLast_schedules : cronLast.schedules = [intervalSchedule, cronSchedule] := by
  unfold cronLast cronStep scheduler configure
  simp only [reversedHost, cronSchedule_parsed, cronSchedule_firstDue]
  rfl

/-- The cron schedule has missed a day and ends each tick, after the other one has fired. -/
theorem due_schedules_fire_sample :
    cronSchedule.definition.Fails reversedHost.toCalendar cronSchedule.nextAt 86400000000 ∧
    FiresEventually reversedHost cronLast 86400000000 intervalSchedule := by
  have run : Machine.Run (scheduler reversedHost) (fun _ _ step => OnlyTicksEnqueue step) [] {} _ cronLast :=
    (Machine.Run.start.step intervalStep trivial).step cronStep trivial
  have due : intervalSchedule.Due 86400000000 := ⟨rfl, by decide⟩
  have ok := intervalSchedule_ok due.2 (by decide)
  refine ⟨cronSchedule_fails le_rfl,
    (due_schedules_fire_iff reversedHost _ _ run 86400000000).1.mpr ?_ intervalSchedule ?_ due ok⟩
  · intro before f later table _ fails s mem
    rw [cronLast_schedules] at table
    rcases before with _ | ⟨first, before⟩
    · cases table
      exact absurd fails ok
    · rw [cons_append, List.cons.injEq] at table
      rcases before with _ | ⟨second, before⟩
      · cases table.2
        exact absurd mem not_mem_nil
      · exact absurd (List.cons.inj table.2).2.symm (append_ne_nil_of_right_ne_nil _ (cons_ne_nil _ _))
  · rw [cronLast_schedules]
    exact mem_cons_self

/-- Both schedules, the cron schedule first. -/
def bothTables : SchedulerTables := (scheduler sampleHost cronTables intervalStep).2

theorem bothTables_schedules : bothTables.schedules = [cronSchedule, intervalSchedule] := rfl

/-- The cron schedule has missed a day; the other one is due and can be evaluated. It is as it
was after any number of ticks. -/
theorem blocked_schedule_never_fires :
    (∃ tr, Machine.Run (scheduler sampleHost) (fun _ _ step => OnlyTicksEnqueue step) [] {} tr bothTables) ∧
      intervalSchedule ∈ bothTables.schedules ∧ intervalSchedule.Due 86400000000 ∧
      ¬ intervalSchedule.definition.Fails sampleHost.toCalendar intervalSchedule.nextAt 86400000000 ∧
      ∀ inputs : List TickInput, (∀ x ∈ inputs, 86400000000 ≤ x.now) →
        ∀ s ∈ (ticks sampleHost bothTables inputs).schedules, s.id = "b" → s = intervalSchedule := by
  have first : Machine.Run (scheduler sampleHost) (fun _ _ step => OnlyTicksEnqueue step) [] {} _ _ :=
    Machine.Run.start.step cronStep trivial
  rw [cronStep_eq] at first
  have run := first.step intervalStep trivial
  have tidy : Tidy sampleHost bothTables := tidy_of_run (fun _ _ _ only => only) run
  refine ⟨⟨_, run⟩, ?_, ⟨rfl, by decide⟩, intervalSchedule_ok (by decide) (by decide), ?_⟩
  · rw [bothTables_schedules]
    exact mem_cons_of_mem _ mem_cons_self
  · intro inputs late s mem same
    exact ticks_keep_blocked tidy (show bothTables.schedules = [] ++ _ from bothTables_schedules) ⟨rfl, by decide⟩
      (cronSchedule_fails le_rfl) mem_cons_self
      inputs late s mem same

end SchedulerTables

end PersonalAssistant
