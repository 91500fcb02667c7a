import PersonalAssistant.Scheduling.Ticks

/-!
# What the scheduler promises

In every run in which the evaluations meet none of their limits, each occurrence is enqueued at
most once and in order, a tick enqueues of the missed occurrences what the policy asks for, and
a schedule then waits for its first occurrence after the clock. A cron schedule that has missed
too many periods is not evaluated any more.
-/

namespace PersonalAssistant

open List ScheduleDefinition

namespace SchedulerTables

variable {host : SchedulerHost} {t t' : SchedulerTables} {now time : Int} {enqueued : List (String × Int)}
  {times : List Int}

/-- The steps of a run, with what came of them. -/
abbrev History : Type := List (SchedulerStep × SchedulerAnswer)

/-- What a step enqueued. -/
def enqueuedBy : SchedulerAnswer → List (String × Int)
  | .ticked report => report.enqueued
  | _ => []

/-- What a run has enqueued. -/
def enqueuedIn (tr : History) : List (String × Int) := tr.flatMap fun x => enqueuedBy x.2

/-- The occurrences of one schedule. -/
def timesOf (id : String) (enqueued : List (String × Int)) : List Int := (enqueued.filter (·.1 = id)).map Prod.snd

/-- Every schedule that is due is within the limits of its evaluation. -/
def WithinLimits (host : SchedulerHost) (now : Int) (t : SchedulerTables) : Prop :=
  ∀ s ∈ t.schedules, s.Due now → s.definition.Manageable host.toCalendar s.nextAt now

/-- Workers do not enqueue poll jobs. -/
def OnlyTicksEnqueue : SchedulerStep → Prop
  | .work s => IsWork s.call
  | _ => True

/-- The steps for which the scheduler keeps its promises. -/
def Within (host : SchedulerHost) (t : SchedulerTables) (step : SchedulerStep) : Prop :=
  OnlyTicksEnqueue step ∧ ∀ now clock newId dies, step = .tick now clock newId dies → WithinLimits host now t

/-- What has been enqueued in a run: each occurrence once, in order and not before its time. -/
structure EnqueuedOnce (host : SchedulerHost) (tr : History) (t : SchedulerTables) : Prop where
  increasing : ∀ id, (timesOf id (enqueuedIn tr)).Pairwise (· < ·)
  jobs : t.pollKeys = (enqueuedIn tr).map fun x => pollKey host x.1 x.2
  onTime : ∀ now clock newId dies report, (.tick now clock newId dies, .ticked report) ∈ tr →
    ∀ x ∈ report.enqueued, x.2 ≤ now

/-- What a tick has done with every schedule. -/
def TickDone (host : SchedulerHost) (t : SchedulerTables) (now : Int) (report : TickReport) (t' : SchedulerTables) :
    Prop :=
  (∃ count, report.result = .ok count) ∧ ∀ s ∈ t.schedules, ∃ s' ∈ t'.schedules, s'.id = s.id ∧
    (s.enabled = true → now < s'.nextAt) ∧
    (¬ s.Due now → s' = s ∧ timesOf s.id report.enqueued = []) ∧
    (s.Due now → s.definition.Evaluation host.toCalendar s.nextAt now (timesOf s.id report.enqueued) s'.nextAt)

/-! ## What one tick enqueues -/

theorem timesOf_append (id : String) (a b : List (String × Int)) :
    timesOf id (a ++ b) = timesOf id a ++ timesOf id b := by
  unfold timesOf
  rw [filter_append, map_append]

theorem mem_timesOf {id : String} : time ∈ timesOf id enqueued ↔ (id, time) ∈ enqueued := by
  simp [timesOf]

theorem timesOf_own (id : String) (times : List Int) : timesOf id (times.map (id, ·)) = times := by
  unfold timesOf
  rw [filter_eq_self.mpr, map_map]
  · exact map_id _
  · intro x mem
    obtain ⟨time, _, rfl⟩ := mem_map.mp mem
    exact decide_eq_true rfl

theorem timesOf_other {id id' : String} (ne : id' ≠ id) (times : List Int) : timesOf id (times.map (id', ·)) = [] := by
  unfold timesOf
  rw [filter_eq_nil_iff.mpr, map_nil]
  intro x mem
  obtain ⟨time, _, rfl⟩ := mem_map.mp mem
  simpa using ne

namespace Outcome

variable {s s' : Schedule} {times : List Int}

variable (outcome : Outcome host now s s' times)

include outcome

theorem id_eq : s'.id = s.id := by
  cases outcome <;> rfl

theorem of_early (early : ¬ s.Due now) : s' = s ∧ times = [] := by
  cases outcome with
  | waits _ => exact ⟨rfl, rfl⟩
  | fires due _ _ _ => exact absurd due early

theorem orderly (low : datetimeMin ≤ s.nextAt) :
    times.Pairwise (· < ·) ∧ (∀ time ∈ times, s.nextAt ≤ time ∧ time < s'.nextAt) ∧ s.nextAt ≤ s'.nextAt := by
  cases outcome with
  | waits early => exact ⟨.nil, fun _ mem => absurd mem not_mem_nil, le_rfl⟩
  | fires due times next value =>
    have orderly := evaluate_ok low due.2 value
    exact ⟨orderly.sorted, orderly.bounds, orderly.later.le⟩

end Outcome

/-- Each schedule that a tick passes has its own outcome. -/
theorem Passed.outcome {gone gone' : List Schedule} (passed : Passed host now gone gone' enqueued)
    (ids : (gone.map Schedule.id).Nodup) :
    ∀ s ∈ gone, ∃ s' ∈ gone', Outcome host now s s' (timesOf s.id enqueued) := by
  induction passed with
  | nil => exact fun s mem => absurd mem not_mem_nil
  | @cons s s' times rest rest' enqueued outcome passed ih =>
    obtain ⟨new, ids⟩ := nodup_cons.mp ids
    have own : timesOf s.id enqueued = [] := by
      -- the others have other ids
      have strangers : ∀ {gone gone' : List Schedule} {enqueued : List (String × Int)},
        Passed host now gone gone' enqueued →
          s.id ∉ gone.map Schedule.id → timesOf s.id enqueued = [] := by
        intro gone gone' enqueued passed absent
        induction passed with
        | nil => rfl
        | cons _ _ ih' =>
          rw [map_cons, mem_cons, not_or] at absent
          rw [timesOf_append, timesOf_other (Ne.symm absent.1), ih' absent.2]
          rfl
      exact strangers passed new
    intro r mem
    rcases mem_cons.mp mem with rfl | later
    · refine ⟨s', mem_cons_self, ?_⟩
      rw [timesOf_append, timesOf_own, own, append_nil]
      exact outcome
    · obtain ⟨r', mem', outcome'⟩ := ih ids r later
      refine ⟨r', mem_cons_of_mem _ mem', ?_⟩
      rw [timesOf_append, timesOf_other, nil_append]
      · exact outcome'
      · rintro same
        exact new (same ▸ mem_map_of_mem later)

theorem Passed.source {gone gone' : List Schedule} (passed : Passed host now gone gone' enqueued) :
    ∀ x ∈ enqueued, ∃ s ∈ gone, s.id = x.1 := by
  induction passed with
  | nil => exact fun x mem => absurd mem not_mem_nil
  | @cons s s' times rest rest' enqueued outcome passed ih =>
    intro x mem
    rcases mem_append.mp mem with own | later
    · obtain ⟨time, _, rfl⟩ := mem_map.mp own
      exact ⟨s, mem_cons_self, rfl⟩
    · obtain ⟨r, there, same⟩ := ih x later
      exact ⟨r, mem_cons_of_mem _ there, same⟩

/-- After a tick, every schedule is there: as it was, or with its outcome. -/
theorem tick_outcome (tidy : Tidy host t) (now : Int) (clock : Time) (newId : String → Int → String)
    (dies : Option Nat) :
    ∀ s ∈ t.schedules, ∃ s' ∈ (t.tick host now clock newId dies).2.schedules,
      Outcome host now s s' (timesOf s.id (t.tick host now clock newId dies).1.enqueued) ∨
        (s' = s ∧ timesOf s.id (t.tick host now clock newId dies).1.enqueued = []) := by
  obtain ⟨gone, gone', left, split, passed, schedules, _⟩ := tick_spec tidy now clock newId dies
  have ids := tidy.ids
  rw [split, map_append, nodup_append] at ids
  intro s mem
  rw [split] at mem
  rw [schedules]
  rcases mem_append.mp mem with there | later
  · obtain ⟨s', mem', outcome⟩ := passed.outcome ids.1 s there
    exact ⟨s', mem_append_left _ mem', .inl outcome⟩
  · refine ⟨s, mem_append_right _ later, .inr ⟨rfl, ?_⟩⟩
    rw [eq_nil_iff_forall_not_mem]
    intro time occurs
    obtain ⟨r, there, same⟩ := passed.source _ (mem_timesOf.mp occurs)
    exact ids.2.2 r.id (mem_map_of_mem there) s.id (mem_map_of_mem later) same

/-- What a tick enqueued is of a schedule with its outcome. -/
theorem tick_source (tidy : Tidy host t) {clock : Time} {newId : String → Int → String} {dies : Option Nat}
    {x : String × Int} (mem : x ∈ (t.tick host now clock newId dies).1.enqueued) :
    ∃ s ∈ t.schedules, s.id = x.1 ∧ ∃ s' ∈ (t.tick host now clock newId dies).2.schedules,
      Outcome host now s s' (timesOf x.1 (t.tick host now clock newId dies).1.enqueued) := by
  obtain ⟨gone, gone', left, split, passed, _⟩ := tick_spec tidy now clock newId dies
  obtain ⟨s, there, same⟩ := passed.source x mem
  have inTable : s ∈ t.schedules := split ▸ mem_append_left _ there
  obtain ⟨s', there', outcome | ⟨_, none_⟩⟩ := tick_outcome tidy now clock newId dies s inTable
  · exact ⟨s, inTable, same, s', there', same ▸ outcome⟩
  · have occurs := mem_timesOf.mpr mem
    rw [← same, none_] at occurs
    exact absurd occurs not_mem_nil

/-! ## Runs -/

theorem Tidy.empty (host : SchedulerHost) : Tidy host {} where
  ids := nodup_nil
  starts _ mem := absurd mem not_mem_nil
  receipts _ mem := absurd mem not_mem_nil
  polls _ mem := absurd mem not_mem_nil

theorem Tidy.step (tidy : Tidy host t) {step : SchedulerStep} (only : OnlyTicksEnqueue step) :
    Tidy host (scheduler host t step).2 := by
  cases step with
  | configure definition key now => exact tidy.configure definition key now
  | setEnabled id enabled version key => exact tidy.setEnabled id enabled version key
  | work call => exact tidy.work (relabels_work only)
  | tick now clock newId dies =>
    obtain ⟨_, _, _, _, _, _, tidy', _⟩ := tick_spec tidy now clock newId dies
    exact tidy'

theorem tidy_of_run {E : History → SchedulerTables → SchedulerStep → Prop} {tr : History}
    (only : ∀ tr t step, E tr t step → OnlyTicksEnqueue step) (run : Machine.Run (scheduler host) E [] {} tr t) :
    Tidy host t := by
  refine run.invariant (P := fun _ t => Tidy host t) (.empty host) ?_
  intro tr t step tidy env
  exact tidy.step (only tr t step env)

/-- What a step other than a tick leaves of the schedules and the jobs. -/
theorem step_quiet (t : SchedulerTables) {step : SchedulerStep} (only : OnlyTicksEnqueue step)
    (other : ∀ now clock newId dies, step ≠ .tick now clock newId dies) :
    enqueuedBy (scheduler host t step).1 = [] ∧ (scheduler host t step).2.pollKeys = t.pollKeys := by
  cases step with
  | tick now clock newId dies => exact absurd rfl (other now clock newId dies)
  | work call => exact ⟨rfl, pollKeys_relabels (relabels_work only)⟩
  | setEnabled id enabled version key =>
    refine ⟨rfl, ?_⟩
    rcases setEnabled_cases host t id enabled version key with same | ⟨_, _, _, _, _, same⟩ <;>
      exact (congrArg pollKeys same).trans rfl
  | configure definition key now =>
    refine ⟨rfl, ?_⟩
    rcases configure_cases host t definition key now with same | ⟨_, _, _, _, _, same⟩ <;>
      exact (congrArg pollKeys same).trans rfl

/-- A schedule later on: it does not go back, and an interval stays on its grid. -/
structure Later (s s' : Schedule) : Prop where
  definition : s'.definition = s.definition
  le : s.nextAt ≤ s'.nextAt
  grid : ∀ n, s.definition.cadence = .interval n → ∃ k : Nat, s'.nextAt = s.nextAt + seconds (n * (k : Int))

theorem Later.of_same {s s' : Schedule} (definition : s'.definition = s.definition) (same : s'.nextAt = s.nextAt) :
    Later s s' where
  definition := definition
  le := same.ge
  grid n _ := ⟨0, by simp [same, seconds]⟩

theorem Later.trans {r s s' : Schedule} (first : Later r s) (second : Later s s') : Later r s' where
  definition := second.definition.trans first.definition
  le := first.le.trans second.le
  grid n cadence := by
    obtain ⟨k, at_⟩ := first.grid n cadence
    obtain ⟨k', at_'⟩ := second.grid n (first.definition ▸ cadence)
    refine ⟨k + k', ?_⟩
    rw [at_', at_]
    unfold seconds
    push_cast
    ring

theorem Outcome.later {s s' : Schedule} (outcome : Outcome host now s s' times) (low : datetimeMin ≤ s.nextAt) :
    Later s s' where
  definition := by cases outcome <;> rfl
  le := (outcome.orderly low).2.2
  grid n cadence := by
    cases outcome with
    | waits early => exact ⟨0, by simp [seconds]⟩
    | fires due times next value => exact evaluate_multiple cadence due.2 value

/-- No step removes a schedule or takes it back. -/
theorem step_later (tidy : Tidy host t) (step : SchedulerStep) :
    ∀ s ∈ t.schedules, ∃ s' ∈ (scheduler host t step).2.schedules, Later s s' := by
  intro s mem
  cases step with
  | tick now clock newId dies =>
    obtain ⟨s', mem', outcome | ⟨rfl, _⟩⟩ := tick_outcome tidy now clock newId dies s mem
    · exact ⟨s', mem', outcome.later (tidy.starts s mem).low⟩
    · exact ⟨s', mem', .of_same rfl rfl⟩
  | work call => exact ⟨s, mem, .of_same rfl rfl⟩
  | setEnabled id enabled version key =>
    show ∃ s' ∈ (t.setEnabled host id enabled version key).2.schedules, Later s s'
    rcases setEnabled_cases host t id enabled version key with same | ⟨r, there, _, rfl, rfl, same⟩ <;> rw [same]
    · exact ⟨s, mem, .of_same rfl rfl⟩
    · by_cases named : s.id = r.id
      · have self := tidy.unique mem there named
        exact ⟨_, mem_map.mpr ⟨s, mem, if_pos named⟩, .of_same (by rw [self]) (by rw [self])⟩
      · exact ⟨s, mem_map.mpr ⟨s, mem, if_neg named⟩, .of_same rfl rfl⟩
  | configure definition key now =>
    show ∃ s' ∈ (t.configure host definition key now).2.schedules, Later s s'
    rcases configure_cases host t definition key now with same | ⟨_, _, _, _, _, same⟩ <;> rw [same]
    · exact ⟨s, mem, .of_same rfl rfl⟩
    · exact ⟨s, (perm_orderedInsert _ _ _).mem_iff.mpr (mem_cons_of_mem _ mem), .of_same rfl rfl⟩

/-- What holds in every run: what was enqueued is before the next time of its schedule. -/
structure Enqueues (host : SchedulerHost) (tr : History) (t : SchedulerTables) : Prop where
  tidy : Tidy host t
  increasing : ∀ id, (timesOf id (enqueuedIn tr)).Pairwise (· < ·)
  before : ∀ x ∈ enqueuedIn tr, ∃ s ∈ t.schedules, s.id = x.1 ∧ x.2 < s.nextAt
  jobs : t.pollKeys = (enqueuedIn tr).map fun x => pollKey host x.1 x.2

theorem enqueuedIn_snoc (tr : History) (x : SchedulerStep × SchedulerAnswer) :
    enqueuedIn (tr ++ [x]) = enqueuedIn tr ++ enqueuedBy x.2 := by
  simp [enqueuedIn]

/-- A step keeps the account of what was enqueued. -/
theorem Enqueues.step {tr : History} (h : Enqueues host tr t) {step : SchedulerStep} (only : OnlyTicksEnqueue step) :
    Enqueues host (tr ++ [(step, (scheduler host t step).1)]) (scheduler host t step).2 := by
  have tidy' := h.tidy.step only
  have old : ∀ x ∈ enqueuedIn tr, ∃ s' ∈ (scheduler host t step).2.schedules, s'.id = x.1 ∧ x.2 < s'.nextAt := by
    intro x mem
    obtain ⟨s, there, id_, less⟩ := h.before x mem
    obtain ⟨s', there', later⟩ := step_later h.tidy step s there
    refine ⟨s', there', ?_, less.trans_le later.le⟩
    rw [← id_]
    exact congrArg ScheduleDefinition.id later.definition
  by_cases other : ∀ now clock newId dies, step ≠ .tick now clock newId dies
  · obtain ⟨none_, keys⟩ := step_quiet t only other
    constructor
    · exact tidy'
    all_goals rw [enqueuedIn_snoc, none_, append_nil]
    · exact h.increasing
    · exact old
    · rw [keys]
      exact h.jobs
  · simp only [not_forall, not_not] at other
    obtain ⟨now, clock, newId, dies, rfl⟩ := other
    obtain ⟨_, _, _, _, _, _, _, keys, _⟩ := tick_spec h.tidy now clock newId dies
    -- what is new is of a schedule, between its old and its new time
    have new : ∀ x ∈ (t.tick host now clock newId dies).1.enqueued, ∃ s ∈ t.schedules, s.id = x.1 ∧
        ∃ s' ∈ (t.tick host now clock newId dies).2.schedules, s'.id = x.1 ∧
          (timesOf x.1 (t.tick host now clock newId dies).1.enqueued).Pairwise (· < ·) ∧ s.nextAt ≤ x.2 ∧
            x.2 < s'.nextAt := by
      intro x mem
      obtain ⟨s, there, same, s', there', outcome⟩ := tick_source h.tidy mem
      obtain ⟨sorted, bounds, _⟩ := outcome.orderly (h.tidy.starts s there).low
      exact ⟨s, there, same, s', there', outcome.id_eq.trans same, sorted, bounds x.2 (mem_timesOf.mpr mem)⟩
    constructor
    · exact tidy'
    all_goals rw [enqueuedIn_snoc]
    · intro id
      rw [timesOf_append, pairwise_append]
      refine ⟨h.increasing id, ?_, ?_⟩
      · cases times : timesOf id (enqueuedBy (scheduler host t (.tick now clock newId dies)).1) with
        | nil => exact .nil
        | cons time rest =>
          have mem : (id, time) ∈ (t.tick host now clock newId dies).1.enqueued := by
            apply mem_timesOf.mp
            show time ∈ timesOf id (enqueuedBy (scheduler host t (.tick now clock newId dies)).1)
            rw [times]
            exact mem_cons_self
          obtain ⟨_, _, _, _, _, _, sorted, _⟩ := new _ mem
          rw [← times]
          exact sorted
      · intro earlier mem later mem'
        obtain ⟨s, there, id_, less⟩ := h.before (id, earlier) (mem_timesOf.mp mem)
        obtain ⟨r, there', id_', _, _, _, _, from_, _⟩ := new (id, later) (mem_timesOf.mp mem')
        rw [h.tidy.unique there there' (id_.trans id_'.symm)] at less
        exact less.trans_le from_
    · intro x mem
      rcases mem_append.mp mem with earlier | this
      · exact old x earlier
      · obtain ⟨_, _, _, s', there', id_, _, _, less⟩ := new x this
        exact ⟨s', there', id_, less⟩
    · rw [map_append, ← h.jobs]
      exact keys

/-- Within the limits a tick evaluates every schedule that is due. -/
theorem outcome_evaluation (tidy : Tidy host t) (limits : WithinLimits host now t) {s s' : Schedule}
    (mem : s ∈ t.schedules) (outcome : Outcome host now s s' times) (due : s.Due now) :
    s.definition.Evaluation host.toCalendar s.nextAt now times s'.nextAt := by
  cases outcome with
  | waits early => exact absurd due early
  | fires _ _ next value =>
    obtain ⟨times', next', value', evaluation⟩ :=
      evaluate_of_manageable (tidy.starts s mem) due.2 (limits s mem due)
    rw [value] at value'
    cases value'
    exact evaluation

/-- A tick within the limits goes through all schedules. -/
theorem tick_done (tidy : Tidy host t) (limits : WithinLimits host now t) (clock : Time)
    (newId : String → Int → String) :
    TickDone host t now (t.tick host now clock newId none).1 (t.tick host now clock newId none).2 := by
  obtain ⟨gone, gone', left, split, passed, schedules, _, _, ended⟩ := tick_spec tidy now clock newId none
  rcases ended rfl with ⟨rfl, count, done⟩ | ⟨s, later, e, rfl, ⟨due, fails⟩, _⟩
  · refine ⟨⟨count, done⟩, ?_⟩
    rw [append_nil] at split schedules
    intro s mem
    obtain ⟨s', mem', outcome⟩ := passed.outcome (split ▸ tidy.ids) s (split ▸ mem)
    refine ⟨s', schedules ▸ mem', outcome.id_eq, ?_, outcome.of_early, outcome_evaluation tidy limits mem outcome⟩
    intro enabled
    by_cases due : s.Due now
    · exact (outcome_evaluation tidy limits mem outcome due).after
    · have early : now < s.nextAt := not_le.mp fun le => due ⟨enabled, le⟩
      exact early.trans_le (outcome.orderly (tidy.starts s mem).low).2.2
  · -- an evaluation within its limits does not fail
    have mem : s ∈ t.schedules := split ▸ mem_append_right _ mem_cons_self
    obtain ⟨times, next, value, _⟩ := evaluate_of_manageable (tidy.starts s mem) due.2 (limits s mem due)
    rw [fails] at value
    cases value

/-- What a tick within the limits enqueues is not after the clock. -/
theorem tick_onTime (tidy : Tidy host t) (limits : WithinLimits host now t) (clock : Time)
    (newId : String → Int → String)
    (dies : Option Nat) : ∀ x ∈ (t.tick host now clock newId dies).1.enqueued, x.2 ≤ now := by
  intro x mem
  obtain ⟨s, there, -, s', -, outcome⟩ := tick_source tidy mem
  have occurs := mem_timesOf.mpr mem
  by_cases due : s.Due now
  · exact (outcome_evaluation tidy limits there outcome due).le x.2 occurs
  · rw [(outcome.of_early due).2] at occurs
    exact absurd occurs not_mem_nil

/-- In every run of the scheduler and its surroundings whose ticks are within the limits: each
occurrence is enqueued once, in order and not before its time; the next tick within the limits
does with every schedule what its policy asks for; and whatever comes later, a schedule keeps
its definition, does not go back, and stays on the grid of its interval. -/
theorem ticks_keep_schedules (host : SchedulerHost) (tr : History) (t : SchedulerTables)
    (run : Machine.Run (scheduler host) (fun _ t step => Within host t step) [] {} tr t) :
    EnqueuedOnce host tr t ∧
      (∀ now clock newId, WithinLimits host now t →
        TickDone host t now (t.tick host now clock newId none).1 (t.tick host now clock newId none).2) ∧
      ∀ tr' t', Machine.Run (scheduler host) (fun _ t step => Within host t step) tr t tr' t' →
        ∀ s ∈ t.schedules, ∃ s' ∈ t'.schedules, Later s s' := by
  have tidy := tidy_of_run (fun _ _ _ within => within.1) run
  refine ⟨?_, fun now clock newId limits => tick_done tidy limits clock newId, ?_⟩
  · have invariant := run.invariant (P := fun tr t => Enqueues host tr t ∧ ∀ now clock newId dies report,
        (SchedulerStep.tick now clock newId dies, SchedulerAnswer.ticked report) ∈ tr →
          ∀ x ∈ report.enqueued, x.2 ≤ now) ?_ ?_
    · exact ⟨invariant.1.increasing, invariant.1.jobs, invariant.2⟩
    · refine ⟨⟨.empty host, fun id => .nil, fun x mem => ?_, rfl⟩, fun _ _ _ _ _ mem => ?_⟩
      · exact absurd mem not_mem_nil
      · exact absurd mem not_mem_nil
    · rintro tr t step ⟨enqueues, onTime⟩ ⟨only, limits⟩
      refine ⟨enqueues.step only, ?_⟩
      intro now clock newId dies report mem
      rcases mem_append.mp mem with earlier | this
      · exact onTime now clock newId dies report earlier
      · have same := mem_singleton.mp this
        obtain ⟨rfl, answer⟩ := Prod.mk.inj same
        cases answer
        exact tick_onTime enqueues.tidy (limits now clock newId dies rfl) clock newId dies
  · intro tr' t' more
    refine (more.invariant (P := fun _ t' => Tidy host t' ∧ ∀ s ∈ t.schedules, ∃ s' ∈ t'.schedules, Later s s') ?_ ?_).2
    · exact ⟨tidy, fun s mem => ⟨s, mem, .of_same rfl rfl⟩⟩
    · rintro tr t' step ⟨tidy', kept⟩ ⟨only, _⟩
      refine ⟨tidy'.step only, ?_⟩
      intro s mem
      obtain ⟨s', mem', later⟩ := kept s mem
      obtain ⟨s'', mem'', later'⟩ := step_later tidy' step s' mem'
      exact ⟨s'', mem'', later.trans later'⟩

/-! ## A sample -/

/-- A calendar in which every day is the first of January, a Monday, with a zone west of UTC. -/
def sampleHost : SchedulerHost where
  decimal := asciiDigit
  zoneInfo name := .ok {
    localTime := fun _ => ⟨0, 0, 1, 1, 0⟩
    first := if name = "UTC" then datetimeMin else datetimeMin + 300 * oneMinute
    last := datetimeMax }
  isoformat time := Nat.repr (Equiv.intEquivNat time)
  isoformat_injective a b same := by
    have numbers := congrArg (fun s => Nat.ofDigitChars 10 s.toList 0) same
    simp only [Nat.toList_repr, Nat.ofDigitChars_ten_toDigits] at numbers
    exact Equiv.intEquivNat.injective numbers
  configureDigest _ := "definition"
  enableDigest _ _ _ := "enable"
  tickDigest _ _ := "tick"
  listedBefore a b := a ≤ b

/-- A definition under an id. -/
def sampleDefinition (id : String) (cadence : String × Value) : Value :=
  .dict [("id", .str id), ("source_id", .str "inbox"), ("extension_id", .str "mail"), ("extension_version", .str "1"),
    cadence, ("timezone", .str "UTC"), ("misfire_policy", .str "coalesce")]

/-- Every minute by an interval. -/
def intervalStep : SchedulerStep := .configure (sampleDefinition "b" ("interval_seconds", .int 60)) "k1" 0

/-- Every minute by a cron expression. -/
def cronStep : SchedulerStep := .configure (sampleDefinition "a" ("cron", .str "* * * * *")) "k2" 0

/-- The table after the first. -/
def intervalTables : SchedulerTables := (scheduler sampleHost {} intervalStep).2

/-- The schedule that is every minute by an interval. -/
def intervalSchedule : Schedule where
  definition := {
    id := "b", sourceId := "inbox", extensionId := "mail", extensionVersion := "1", cadence := .interval 60,
      timezone := "UTC"
    policy := .coalesce, maxCatchUp := 1, named := by decide +kernel
    interval_bounds := by rintro _ ⟨⟩; decide
    catchUp_bounds := by decide }
  nextAt := 60000000
  enabled := true
  version := 1

theorem intervalTables_schedules : intervalTables.schedules = [intervalSchedule] := rfl

/-- A tick of that schedule, a minute late. -/
theorem ticks_keep_schedules_sample : WithinLimits sampleHost 120000000 intervalTables ∧
      TickDone sampleHost intervalTables 120000000
        (intervalTables.tick sampleHost 120000000 0 (fun _ _ => "job") none).1
        (intervalTables.tick sampleHost 120000000 0 (fun _ _ => "job") none).2 := by
  have limits : WithinLimits sampleHost 120000000 intervalTables := by
    intro s mem _
    rw [intervalTables_schedules, mem_singleton] at mem
    subst mem
    show (120000000 - 60000000 : Int) < 2 ^ 53 ∧ _
    decide
  have within : Within sampleHost {} intervalStep := ⟨trivial, fun _ _ _ _ same => by cases same⟩
  exact ⟨limits, (ticks_keep_schedules sampleHost _ _ (Machine.Run.start.step intervalStep within)).2.1 _ _ _ limits⟩

/-! ## A cron schedule that is not evaluated any more -/

/-- A tick whose first schedule cannot be evaluated does nothing. -/
theorem tick_of_first_fails {s : Schedule} {rest : List Schedule} {e : Exn} (table : t.schedules = s :: rest)
    (ends : Ends host now s e) (clock : Time) (newId : String → Int → String) :
    t.tick host now clock newId none = (⟨[], .error e⟩, t) := by
  have one : t.tickOne host now clock newId s = (.error e, t) := by
    unfold tickOne
    rw [if_neg (by rw [ends.1.1]; decide), if_neg (not_lt.mpr ends.1.2), ends.2]
  simp only [tick, table, tickAll, one]

/-- The schedule that is every minute by a cron expression. -/
def cronSchedule : Schedule where
  definition := {
    id := "a", sourceId := "inbox", extensionId := "mail", extensionVersion := "1", cadence := .cron "* * * * *",
      timezone := "UTC"
    policy := .coalesce, maxCatchUp := 1, named := by decide +kernel
    interval_bounds := by rintro _ ⟨⟩
    catchUp_bounds := by decide }
  nextAt := 60000000
  enabled := true
  version := 1

theorem cronNext_sample (low : -62135596800000000 ≤ time) (high : time ≤ 253402300739999999) :
    cronNext sampleHost.toCalendar "* * * * *" time "UTC" = .ok (wholeMinute time + oneMinute) := by
  obtain ⟨fields, parsed, isMatch⟩ : ∃ fields, cronFields sampleHost.toCalendar "* * * * *" = .ok fields ∧
      fields.matches ⟨0, 0, 1, 1, 0⟩ = true := ⟨_, rfl, by decide +kernel⟩
  have first : datetimeMin ≤ wholeMinute time + oneMinute := by
    unfold datetimeMin wholeMinute oneMinute
    omega
  have last : wholeMinute time + oneMinute ≤ datetimeMax := by
    unfold datetimeMax wholeMinute oneMinute
    omega
  unfold cronNext
  rw [parsed, shift_ok first last]
  exact cronSearch_here (by decide) ((matchesIn_of_range first last).trans (congrArg _ isMatch))

/-- In the middle of the calendar the promise is kept. -/
theorem cronNext_promise_sample : CronPromise sampleHost.toCalendar "* * * * *" "UTC" 0 :=
  (cronNext_promise_iff rfl rfl (by decide)).mpr ⟨by decide, .inr (by decide)⟩

/-- After the last minute of the calendar there is no time, and at its start the zone has no local
time: `cron_next` does not say so. -/
theorem cronNext_overflows :
    cronNext sampleHost.toCalendar "* * * * *" datetimeMax "UTC" = .error (.other "OverflowError") ∧
      cronNext sampleHost.toCalendar "* * * * *" datetimeMin "America/New_York" = .error (.other "OverflowError") := by
  refine ⟨rfl, ?_⟩
  rfl

/-- A loop that finds an occurrence in every minute comes to its end. -/
theorem cronLoop_exhausted (next : Int → Except Exn Int) (now start : Int) (count limit : Nat)
    (step : ∀ k : Nat, k < limit → next (start + k * oneMinute) = .ok (start + (k + 1 : Nat) * oneMinute))
    (late : start + limit * oneMinute ≤ now + oneMinute) {fuel done : Nat} (total : done + fuel = limit)
    (kept : List Int) :
    ∃ e, cronLoop next now count fuel kept (start + done * oneMinute) = .error e := by
  induction fuel generalizing done kept with
  | zero => exact ⟨_, rfl⟩
  | succ fuel ih =>
    unfold cronLoop
    rw [if_neg, step done (by omega)]
    · exact ih (by omega) _
    · unfold oneMinute at *
      omega

/-- From a day after its first occurrence on, it cannot be evaluated. -/
theorem cronSchedule_fails (late : 86400000000 ≤ now) :
    cronSchedule.definition.Fails sampleHost.toCalendar cronSchedule.nextAt now := by
  rw [fails_iff_missed]
  have total : 0 + cronLimit = cronLimit := Nat.zero_add _
  have end_ : (60000000 : Int) + cronLimit * oneMinute ≤ now + oneMinute := by
    unfold cronLimit oneMinute
    omega
  have step : ∀ k : Nat, k < cronLimit → cronNext sampleHost.toCalendar "* * * * *" (60000000 + k * oneMinute) "UTC" =
      .ok (60000000 + (k + 1 : Nat) * oneMinute) := by
    intro k less
    unfold cronLimit at less
    rw [cronNext_sample]
    · congr 1
      unfold wholeMinute oneMinute
      omega
    all_goals
      unfold oneMinute
      omega
  obtain ⟨e, loop⟩ := cronLoop_exhausted
    (fun after => cronNext sampleHost.toCalendar "* * * * *" after "UTC") now 60000000 1
    cronLimit step end_ total []
  refine ⟨e, ?_⟩
  have start : (60000000 : Int) + (0 : Nat) * oneMinute = 60000000 := by decide
  rw [start] at loop
  unfold missed
  show (cronLoop (fun after => cronNext sampleHost.toCalendar "* * * * *" after "UTC") now 1
    cronLimit [] 60000000 >>= _) = _
  rw [loop]
  rfl

/-- The tables after the cron schedule is configured. -/
def cronTables : SchedulerTables where
  schedules := [cronSchedule]
  receipts := [("scheduled:k2", ("definition", .record cronSchedule))]

theorem cronSchedule_parsed : parse sampleHost.toCalendar (sampleDefinition "a" ("cron", .str "* * * * *")) =
    .ok cronSchedule.definition := rfl

theorem cronSchedule_firstDue : cronSchedule.definition.firstDue sampleHost.toCalendar 0 = .ok 60000000 :=
  cronNext_sample (by decide) (by decide)

theorem cronStep_eq : scheduler sampleHost {} cronStep = (.replied (.ok (.record cronSchedule)), cronTables) := by
  unfold cronStep scheduler configure
  simp only [cronSchedule_parsed, cronSchedule_firstDue]
  rfl

/-- A cron schedule that is due every minute and was not looked at for a day: the tick raises,
enqueues nothing and leaves the next time before the clock. -/
theorem missed_day_is_never_enqueued :
    ∃ report t, Machine.Run (scheduler sampleHost) (fun _ _ step => OnlyTicksEnqueue step) [] {}
        [(cronStep, .replied (.ok (.record cronSchedule))),
          (.tick 86400000000 0 (fun _ _ => "job") none, .ticked report)] t ∧
      (∃ e, report.result = .error e) ∧ report.enqueued = [] ∧ t.jobs.rows = [] ∧
      ∃ s ∈ t.schedules, s.enabled = true ∧ s.definition.policy = .coalesce ∧ s.nextAt < 86400000000 := by
  obtain ⟨e, fails⟩ := cronSchedule_fails le_rfl
  have ends : Ends sampleHost 86400000000 cronSchedule e := ⟨⟨rfl, by decide⟩, fails⟩
  have first : Machine.Run (scheduler sampleHost) (fun _ _ step => OnlyTicksEnqueue step) [] {} [(cronStep, _)] _ :=
    Machine.Run.start.step cronStep trivial
  rw [cronStep_eq] at first
  have second := first.step (.tick 86400000000 0 (fun _ _ => "job") none) trivial
  simp only [scheduler, tick_of_first_fails (t := cronTables) rfl ends] at second
  exact ⟨⟨[], .error e⟩, cronTables, second, ⟨e, rfl⟩, rfl, rfl, cronSchedule, mem_cons_self, rfl, rfl, by decide⟩

end SchedulerTables

end PersonalAssistant
