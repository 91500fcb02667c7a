import PersonalAssistant.Scheduling.Scheduler

/-!
# What the evaluation of a schedule computes

The occurrences of a schedule from the time it is due are the multiples of its interval, or the
cron times. A closed formula in floating point counts the missed ones of an interval, and a
bounded loop goes through those of a cron expression; where neither meets its limits, the times
to enqueue and the next time are the ones the policy asks for.
-/

namespace PersonalAssistant

open List

namespace ScheduleDefinition

variable {cal : Calendar} {d : ScheduleDefinition} {due now : Int}

/-! ## Occurrences -/

/-- The times at which a schedule occurs, from a time at which it is due. -/
def Occurs (cal : Calendar) (d : ScheduleDefinition) (due time : Int) : Prop :=
  match d.cadence with
  | .interval n => ∃ k : Nat, time = due + seconds (n * k)
  | .cron expression => time = due ∨ (due < time ∧ IsCronTime cal expression d.timezone time)

/-- A time at which a schedule can be due: a `datetime`, and for a cron expression a cron time. -/
structure Starts (cal : Calendar) (d : ScheduleDefinition) (due : Int) : Prop where
  low : datetimeMin ≤ due
  isCron : ∀ expression, d.cadence = .cron expression → IsCronTime cal expression d.timezone due

/-- The occurrences up to the clock, in their order. -/
structure Missed (cal : Calendar) (d : ScheduleDefinition) (due now : Int) (times : List Int) : Prop where
  sorted : times.Pairwise (· < ·)
  mem : ∀ time, time ∈ times ↔ Occurs cal d due time ∧ time ≤ now

/-- What a tick should do with a schedule that is due: enqueue of the missed occurrences those
that the policy asks for, and wait for the first one after the clock. -/
structure Evaluation (cal : Calendar) (d : ScheduleDefinition) (due now : Int) (times : List Int) (next : Int) :
    Prop where
  occurs : Occurs cal d due next
  after : now < next
  first : ∀ time, Occurs cal d due time → now < time → next ≤ time
  selects : ∃ all latest, Missed cal d due now all ∧ all.getLast? = some latest ∧
    times = match d.policy with
      | .skip => if seconds 60 < now - due then [] else [latest]
      | .coalesce => [latest]
      | .catchUp => lastOf (min all.length d.maxCatchUp) all

/-- The evaluation meets none of its limits: an interval that has been missed for less than
`2 ^ 53` microseconds and whose next time is a `datetime`; a cron expression with fewer than 1440
occurrences up to the clock, each of them followed by another within the horizon. -/
def Manageable (cal : Calendar) (d : ScheduleDefinition) (due now : Int) : Prop :=
  match d.cadence with
  | .interval n => now - due < 2 ^ 53 ∧ due + seconds (n * ((now - due) / (n * 1000000) + 1)) ≤ datetimeMax
  | .cron expression =>
    (∀ time, Occurs cal d due time → time ≤ now → ∃ later, IsCronTime cal expression d.timezone later ∧ time < later ∧
      later ≤ wholeMinute time + cronHorizon * oneMinute ∧ later ≤ datetimeMax) ∧
    ∀ times : List Int, times.Pairwise (· < ·) → (∀ time ∈ times, Occurs cal d due time ∧ time ≤ now) →
      times.length < cronLimit

/-! ## The last of a list -/

variable {α : Type} {count n : Nat} {occurrences : List Int}

theorem lastOf_concat (pos : 1 ≤ count) (items : List α) (item : α) :
    lastOf count (lastOf count items ++ [item]) = lastOf count (items ++ [item]) := by
  unfold lastOf
  simp only [length_append, length_drop, length_singleton]
  by_cases short : items.length ≤ count
  · rw [Nat.sub_eq_zero_of_le short, drop_zero, Nat.sub_zero]
  · rw [drop_append_of_le_length (by simp only [length_drop]; omega),
      drop_append_of_le_length (by omega), drop_drop]
    congr 2
    omega

theorem lastOf_subset {items : List α} {item : α} (mem : item ∈ lastOf count items) : item ∈ items :=
  mem_of_mem_drop mem

theorem getLast?_lastOf (pos : 1 ≤ count) (items : List α) : (lastOf count items).getLast? = items.getLast? := by
  unfold lastOf
  rw [List.getLast?_drop]
  split_ifs with short
  · have empty : items = [] := eq_nil_of_length_eq_zero (by omega)
    rw [empty]
    rfl
  · rfl

theorem lastOf_min (count : Nat) (items : List α) : lastOf (min items.length count) items = lastOf count items := by
  unfold lastOf
  congr 1
  omega

theorem evaluate_eq {latest next : Int} (h : d.missed cal due now = .ok (occurrences, latest, next)) :
    d.evaluate cal due now = .ok (d.select due now occurrences latest, next) := by
  unfold evaluate
  rw [h]
  rfl

/-! ## Intervals -/

theorem missedPeriods_nonneg (le : due ≤ now) (n : Nat) : 0 ≤ missedPeriods due now n := by
  unfold missedPeriods
  apply Int.floor_nonneg.mpr
  apply div_nonneg
  · apply double_nonneg
    have gap : (0 : ℚ) ≤ ((now - due : Int) : ℚ) := by exact_mod_cast Int.sub_nonneg_of_le le
    positivity
  · positivity

theorem missedPeriods_mono {later : Int} (due_le : due ≤ now) (le : now ≤ later) (n : Nat) :
    missedPeriods due now n ≤ missedPeriods due later n := by
  unfold missedPeriods
  apply Int.floor_le_floor
  apply div_le_div_of_nonneg_right _ (by positivity)
  have gap : (0 : ℚ) ≤ ((now - due : Int) : ℚ) := by exact_mod_cast Int.sub_nonneg_of_le due_le
  apply double_mono (by positivity)
  apply div_le_div_of_nonneg_right _ (by norm_num)
  exact_mod_cast Int.sub_le_sub_right le due

/-- Below `2 ^ 53` microseconds the count is exact: the rounding error is less than a
microsecond, and a whole number of seconds is not rounded. -/
theorem missedPeriods_eq (pos : 0 < n) (le : due ≤ now) (small : now - due < 2 ^ 53) :
    missedPeriods due now n = (now - due) / (n * 1000000) := by
  obtain ⟨gap, gap_eq⟩ := Int.eq_ofNat_of_zero_le (Int.sub_nonneg_of_le le)
  have gap_lt : gap < 2 ^ 53 := by omega
  have posq : (0 : ℚ) < n := by exact_mod_cast pos
  set k : Nat := gap / (n * 1000000) with k_def
  have low : k * (n * 1000000) ≤ gap := Nat.div_mul_le_self gap _
  have high : gap < (k + 1) * (n * 1000000) := by
    have := Nat.lt_div_mul_add (a := gap) (show 0 < n * 1000000 by omega)
    rw [Nat.add_mul, Nat.one_mul]
    exact this
  have quotient : (now - due) / (n * 1000000) = (k : Int) := by
    rw [gap_eq, k_def]
    push_cast
    rfl
  unfold missedPeriods
  rw [quotient, gap_eq, Int.floor_eq_iff, le_div_iff₀ posq, div_lt_iff₀ posq]
  simp only [Int.cast_natCast]
  have gapq : (gap : ℚ) < 2 ^ 53 := by exact_mod_cast gap_lt
  have nonneg : (0 : ℚ) ≤ (gap : ℚ) / 1000000 := by positivity
  have near := abs_le.mp (abs_double_sub_le nonneg)
  have error : (gap : ℚ) / 1000000 / 2 ^ 53 < 1 / 1000000 := by
    rw [div_div, div_lt_div_iff₀ (by positivity) (by norm_num)]
    linarith
  constructor
  · rcases low.lt_or_eq with less | same
    · have lessq : (k : ℚ) * (n * 1000000) + 1 ≤ gap := by exact_mod_cast less
      have below : (k : ℚ) * n + 1 / 1000000 ≤ gap / 1000000 := by
        rw [le_div_iff₀ (by norm_num)]
        linarith
      linarith [near.1]
    · have whole : (gap : ℚ) / 1000000 = ((k * n : Nat) : ℚ) := by
        rw [← same]
        push_cast
        ring
      have bound : k * n < 2 ^ 53 := by
        apply lt_of_le_of_lt _ gap_lt
        rw [← same]
        nlinarith [Nat.zero_le (k * n)]
      rw [whole, double_natCast bound]
      push_cast
      exact le_rfl
  · have highq : (gap : ℚ) + 1 ≤ (k + 1) * (n * 1000000) := by exact_mod_cast high
    have above : (gap : ℚ) / 1000000 ≤ (k + 1) * n - 1 / 1000000 := by
      rw [div_le_iff₀ (by norm_num)]
      linarith
    linarith [near.2]

theorem seconds_mul_le {a b : Int} (le : a ≤ b) : seconds (n * a) ≤ seconds (n * b) := by
  have scaled : (n : Int) * a ≤ n * b := Int.mul_le_mul_of_nonneg_left le (Int.natCast_nonneg n)
  show (n * a * 1000000 : Int) ≤ n * b * 1000000
  omega

theorem seconds_pos (pos : 0 < n) : 0 < seconds n := by
  show (0 : Int) < n * 1000000
  omega

theorem seconds_mul_nonneg (n k : Nat) : (0 : Int) ≤ seconds (n * (k : Int)) := by
  show (0 : Int) ≤ n * k * 1000000
  positivity

theorem interval_pos (cadence : d.cadence = .interval n) : 0 < n := by
  have bounds := d.interval_bounds n cadence
  omega

theorem sorted_multiples (pos : 0 < n) (due : Int) (k : Nat) :
    ((List.range k).map fun i : Nat => due + seconds (n * (i : Int))).Pairwise (· < ·) := by
  rw [pairwise_map]
  apply List.Pairwise.imp _ pairwise_lt_range
  intro a b less
  have step : (n : Int) * a < n * b := Int.mul_lt_mul_of_pos_left (by omega) (by omega)
  unfold seconds
  omega

/-- The list of the last multiples of an interval, counted down from the latest. -/
theorem countdown_eq (n k count : Nat) (le : count ≤ k + 1) :
    ((List.range count).reverse.map fun i : Nat => due + seconds (n * (k : Int)) - seconds (n * (i : Int))) =
      lastOf count ((List.range (k + 1)).map fun i : Nat => due + seconds (n * (i : Int))) := by
  apply ext_getElem
  · simp only [lastOf, length_map, length_reverse, length_range, length_drop]
    omega
  · intro j left right
    simp only [length_map, length_reverse, length_range] at left
    simp only [lastOf, getElem_map, getElem_reverse, getElem_range, length_range, getElem_drop,
      length_map]
    have index : ((k + 1 - count + j : Nat) : Int) = k - ((count - 1 - j : Nat) : Int) := by omega
    rw [index]
    unfold seconds
    ring

section
variable {n k : Nat}

/-- The times that an interval missed. -/
theorem missed_interval (cal : Calendar) (cadence : d.cadence = .interval n) (pos : 0 < n)
    (count : (k : Int) = (now - due) / (n * 1000000)) :
    Missed cal d due now ((List.range (k + 1)).map fun i : Nat => due + seconds (n * (i : Int))) where
  sorted := sorted_multiples pos due _
  mem time := by
    have unit : (0 : Int) < n * 1000000 := by omega
    simp only [mem_map, mem_range, Occurs, cadence]
    constructor
    · rintro ⟨i, less, rfl⟩
      refine ⟨⟨i, rfl⟩, ?_⟩
      have scaled : (i : Int) * (n * 1000000) ≤ now - due := by
        apply (Int.le_ediv_iff_mul_le unit).mp
        omega
      unfold seconds
      linarith
    · rintro ⟨⟨i, rfl⟩, before⟩
      refine ⟨i, ?_, rfl⟩
      have bound : (i : Int) ≤ (now - due) / (n * 1000000) := by
        apply (Int.le_ediv_iff_mul_le unit).mpr
        unfold seconds at before
        linarith
      omega

/-- What the closed formula computes, where its times are in range. -/
theorem missed_eq_interval (cal : Calendar) (cadence : d.cadence = .interval n) (count : missedPeriods due now n = k)
    (low : datetimeMin ≤ due) (high : due + seconds (n * (k : Int)) + seconds n ≤ datetimeMax) :
    d.missed cal due now = .ok (
      lastOf (min (k + 1) d.maxCatchUp) ((List.range (k + 1)).map fun i : Nat => due + seconds (n * (i : Int))),
      due + seconds (n * (k : Int)), due + seconds (n * (k : Int)) + seconds n) := by
  have one : (0 : Int) < seconds n := seconds_pos (interval_pos cadence)
  have up := seconds_mul_nonneg n k
  have number : (min ((k : Int) + 1) d.maxCatchUp).toNat = min (k + 1) d.maxCatchUp := by omega
  simp only [missed, cadence, count, number]
  rw [shift_ok (by linarith) (by linarith)]
  simp only [bind, Except.bind]
  rw [shift_ok (by linarith) (by linarith)]
  simp only [pure, Except.pure]
  rw [countdown_eq n k _ (by omega)]

/-- The formula returns the latest multiple and the one after it. -/
theorem of_missed_interval (cadence : d.cadence = .interval n) (count : missedPeriods due now n = k) {latest next : Int}
    (ok : d.missed cal due now = .ok (occurrences, latest, next)) :
    latest = due + seconds (n * (k : Int)) ∧ next = latest + seconds n ∧ next ≤ datetimeMax := by
  simp only [missed, cadence, count] at ok
  obtain ⟨_, first, ok⟩ := bind_eq_ok ok
  obtain ⟨_, second, ok⟩ := bind_eq_ok ok
  cases ok
  exact ⟨(shift_eq_ok first).1, (shift_eq_ok second).1, (shift_eq_ok second).2.2⟩

/-- An interval within its limits is evaluated as the policy asks for. -/
theorem evaluate_interval (cadence : d.cadence = .interval n) (low : datetimeMin ≤ due) (le : due ≤ now)
    (ok : Manageable cal d due now) :
    ∃ times next, d.evaluate cal due now = .ok (times, next) ∧ Evaluation cal d due now times next := by
  have pos := interval_pos cadence
  simp only [Manageable, cadence] at ok
  obtain ⟨small, range⟩ := ok
  obtain ⟨k, k_eq⟩ := Int.eq_ofNat_of_zero_le (missedPeriods_nonneg le n)
  have count : (k : Int) = (now - due) / (n * 1000000) := k_eq.symm.trans (missedPeriods_eq pos le small)
  have all := missed_interval cal cadence pos count
  have next_eq : due + seconds (n * (k : Int)) + seconds n = due + seconds (n * ((k + 1 : Nat) : Int)) := by
    unfold seconds
    push_cast
    ring
  have high : due + seconds (n * (k : Int)) + seconds n ≤ datetimeMax := by
    rw [next_eq]
    push_cast
    rw [count]
    exact range
  have value := missed_eq_interval cal cadence k_eq low high
  have occurs : Occurs cal d due (due + seconds (n * (k : Int)) + seconds n) := by
    simp only [Occurs, cadence]
    exact ⟨k + 1, next_eq⟩
  refine ⟨_, _, evaluate_eq value, occurs, ?_, ?_, _, due + seconds (n * (k : Int)), all, ?_, ?_⟩
  · -- the next multiple is not among the missed ones
    by_contra before
    have mem := (all.mem _).mpr ⟨occurs, not_lt.mp before⟩
    obtain ⟨i, less, same⟩ := mem_map.mp mem
    have less' := mem_range.mp less
    have step : seconds (n * (i : Int)) ≤ seconds (n * (k : Int)) := seconds_mul_le (by omega)
    have one : (0 : Int) < seconds n := seconds_pos pos
    linarith
  · intro time occurs after
    simp only [Occurs, cadence] at occurs
    obtain ⟨i, rfl⟩ := occurs
    by_cases more : k + 1 ≤ i
    · rw [next_eq]
      have step : seconds (n * ((k + 1 : Nat) : Int)) ≤ seconds (n * (i : Int)) := seconds_mul_le (by omega)
      linarith
    · have mem := (all.mem (due + seconds (n * (i : Int)))).mp
        (mem_map.mpr ⟨i, mem_range.mpr (by omega), rfl⟩)
      exact absurd mem.2 (not_le.mpr after)
  · rw [range_succ, map_append, map_singleton, List.getLast?_concat]
  · unfold select
    cases d.policy with
    | skip => rfl
    | coalesce => rfl
    | catchUp => simp only [length_map, length_range]

end

/-! ## Cron expressions -/

section
variable {expression : String} {visited occurrences : List Int} {cursor : Int} {fuel : Nat}

/-- The loop is at a cursor: the occurrences before it, and the cursor is one. -/
structure Reached (cal : Calendar) (d : ScheduleDefinition) (due : Int) (visited : List Int) (cursor : Int) : Prop where
  sorted : visited.Pairwise (· < ·)
  mem : ∀ time, time ∈ visited ↔ Occurs cal d due time ∧ time < cursor
  occurs : Occurs cal d due cursor

theorem occurs_ge (cadence : d.cadence = .cron expression) {time : Int} (occurs : Occurs cal d due time) :
    due ≤ time := by
  simp only [Occurs, cadence] at occurs
  rcases occurs with same | ⟨later, _⟩ <;> omega

theorem Reached.start (cal : Calendar) (cadence : d.cadence = .cron expression) (due : Int) :
    Reached cal d due [] due where
  sorted := .nil
  mem time := by
    constructor
    · exact fun mem => absurd mem not_mem_nil
    · rintro ⟨occurs, before⟩
      have from_ := occurs_ge cadence occurs
      omega
  occurs := by
    unfold Occurs
    rw [cadence]
    exact .inl rfl

variable (cadence : d.cadence = .cron expression)

include cadence

/-- The next occurrence the loop reaches. -/
theorem Reached.next {later : Int}
    (h : Reached cal d due visited cursor) (next : cronNext cal expression cursor d.timezone = .ok later) :
    Reached cal d due (visited ++ [cursor]) later := by
  obtain ⟨isCron, _, ⟨after, _⟩, least⟩ := cronNext_ok next
  have from_ := occurs_ge cadence h.occurs
  refine ⟨?_, ?_, ?_⟩
  · rw [pairwise_append]
    refine ⟨h.sorted, pairwise_singleton _ _, ?_⟩
    intro time mem last same
    rw [mem_singleton.mp same]
    exact ((h.mem time).mp mem).2
  · intro time
    rw [mem_append, mem_singleton, h.mem]
    constructor
    · rintro (⟨occurs, before⟩ | rfl)
      · exact ⟨occurs, by omega⟩
      · exact ⟨h.occurs, after⟩
    · rintro ⟨occurs, before⟩
      rcases lt_trichotomy time cursor with less | same | more
      · exact .inl ⟨occurs, less⟩
      · exact .inr same
      · -- between the cursor and the next cron time there is none
        simp only [Occurs, cadence] at occurs
        rcases occurs with rfl | ⟨_, between⟩
        · omega
        · exact absurd between (least time more before)
  · simp only [Occurs, cadence]
    exact .inr ⟨by omega, isCron⟩

/-- What the cron loop returns: the occurrences by now, and the next one. -/
theorem cronLoop_ok {next : Int}
    (h : Reached cal d due visited cursor) (before : ∀ time ∈ visited, time ≤ now)
    (ok : cronLoop (fun after => cronNext cal expression after d.timezone) now d.maxCatchUp fuel
      (lastOf d.maxCatchUp visited) cursor =
      .ok (occurrences, next)) :
    ∃ all, Reached cal d due all next ∧ (∀ time ∈ all, time ≤ now) ∧ occurrences = lastOf d.maxCatchUp all ∧
    now < next := by
  induction fuel generalizing visited cursor with
  | zero => cases ok
  | succ fuel ih =>
    unfold cronLoop at ok
    by_cases done : now < cursor
    · rw [if_pos done] at ok
      cases ok
      exact ⟨visited, h, before, rfl, done⟩
    · rw [if_neg done] at ok
      cases step : cronNext cal expression cursor d.timezone with
      | error e =>
        simp only [step] at ok
        cases ok
      | ok later =>
        simp only [step] at ok
        rw [lastOf_concat d.catchUp_bounds.1] at ok
        exact ih (h.next cadence step) (forall_mem_append.mpr ⟨before, forall_mem_singleton.mpr (not_lt.mp done)⟩) ok

/-- The cron loop returns under the limits. -/
theorem cronLoop_returns (starts : Starts cal d due) (ok : Manageable cal d due now)
    (h : Reached cal d due visited cursor)
    (before : ∀ time ∈ visited, time ≤ now) (enough : cronLimit ≤ visited.length + fuel) (kept : List Int) :
    ∃ result, cronLoop (fun after => cronNext cal expression after d.timezone) now d.maxCatchUp fuel kept cursor =
      .ok result := by
  have limits := ok
  simp only [Manageable, cadence] at limits
  obtain ⟨follows, few⟩ := limits
  induction fuel generalizing visited cursor kept with
  | zero =>
    have short := few visited h.sorted fun time mem => ⟨((h.mem time).mp mem).1, before time mem⟩
    omega
  | succ fuel ih =>
    unfold cronLoop
    by_cases done : now < cursor
    · rw [if_pos done]
      exact ⟨_, rfl⟩
    · rw [if_neg done]
      have from_ := occurs_ge cadence h.occurs
      obtain ⟨later, isCron, after, reach, high⟩ := follows cursor h.occurs (not_lt.mp done)
      have here : IsCronTime cal expression d.timezone cursor := by
        have occurs := h.occurs
        simp only [Occurs, cadence] at occurs
        rcases occurs with rfl | ⟨_, isCron⟩
        · exact starts.isCron expression cadence
        · exact isCron
      obtain ⟨found, step⟩ := cronNext_of_match isCron ⟨after, reach, high⟩ (starts.low.trans from_) here
      simp only [step]
      refine ih (h.next cadence step) (forall_mem_append.mpr ⟨before, forall_mem_singleton.mpr (not_lt.mp done)⟩) ?_ _
      rw [length_append, length_singleton]
      omega

/-- The times that a cron schedule missed. -/
theorem missed_cron (le : due ≤ now) {next : Int}
    (ok : cronLoop (fun after => cronNext cal expression after d.timezone) now d.maxCatchUp cronLimit [] due =
      .ok (occurrences, next)) :
    ∃ all latest, Missed cal d due now all ∧ all.getLast? = some latest ∧ Reached cal d due all next ∧ now < next ∧
      d.missed cal due now = .ok (lastOf d.maxCatchUp all, latest, next) := by
  have none_ : lastOf d.maxCatchUp ([] : List Int) = [] := drop_nil
  obtain ⟨all, reached, before, rfl, after⟩ := cronLoop_ok cadence (.start cal cadence due)
    (fun _ mem => absurd mem not_mem_nil) (none_.symm ▸ ok)
  have mem_due : due ∈ all := (reached.mem due).mpr ⟨(Reached.start cal cadence due).occurs, by omega⟩
  have last := List.getLast?_eq_some_getLast (ne_nil_of_mem mem_due)
  refine ⟨all, _, ⟨reached.sorted, fun time => ?_⟩, last, reached, after, ?_⟩
  · rw [reached.mem]
    constructor
    · rintro ⟨occurs, less⟩
      exact ⟨occurs, before time ((reached.mem time).mpr ⟨occurs, less⟩)⟩
    · rintro ⟨occurs, le⟩
      exact ⟨occurs, by omega⟩
  · simp only [missed, cadence, ok, bind, Except.bind, getLast?_lastOf d.catchUp_bounds.1, last]
    rfl

/-- A cron expression within its limits is evaluated as the policy asks for. -/
theorem evaluate_cron (starts : Starts cal d due) (le : due ≤ now)
    (ok : Manageable cal d due now) :
    ∃ times next, d.evaluate cal due now = .ok (times, next) ∧ Evaluation cal d due now times next := by
  obtain ⟨⟨occurrences, next⟩, loop⟩ := cronLoop_returns cadence starts ok (.start cal cadence due)
    (fun _ mem => absurd mem not_mem_nil) (Nat.le_add_left cronLimit _) []
  obtain ⟨all, latest, missed, last, reached, after, value⟩ := missed_cron cadence le loop
  refine ⟨_, _, evaluate_eq value, reached.occurs, after, ?_, all, latest, missed, last, ?_⟩
  · intro time occurs more
    by_contra before
    have mem := (reached.mem time).mpr ⟨occurs, not_le.mp before⟩
    have early := ((missed.mem time).mp mem).2
    omega
  · unfold select
    cases d.policy with
    | skip => rfl
    | coalesce => rfl
    | catchUp => simp only [lastOf_min]

end

/-- A schedule within its limits is evaluated as its policy asks for. -/
theorem evaluate_of_manageable (starts : Starts cal d due) (le : due ≤ now) (ok : Manageable cal d due now) :
    ∃ times next, d.evaluate cal due now = .ok (times, next) ∧ Evaluation cal d due now times next := by
  cases cadence : d.cadence with
  | interval n => exact evaluate_interval cadence starts.low le ok
  | cron expression => exact evaluate_cron cadence starts le ok

/-! ## Any evaluation -/

/-- Whatever the clock, the times of an evaluation lie between the time it was due and the next. -/
structure Orderly (due : Int) (times : List Int) (next : Int) : Prop where
  sorted : times.Pairwise (· < ·)
  bounds : ∀ time ∈ times, due ≤ time ∧ time < next
  later : due < next

variable {next : Int} {times : List Int}

/-- The times that were missed are in order, from the first that is due. -/
theorem missed_ok (low : datetimeMin ≤ due) (le : due ≤ now) {latest : Int}
    (ok : d.missed cal due now = .ok (occurrences, latest, next)) :
    Orderly due occurrences next ∧ due ≤ latest ∧ latest < next := by
  cases cadence : d.cadence with
  | interval n =>
    obtain ⟨k, count⟩ := Int.eq_ofNat_of_zero_le (missedPeriods_nonneg le n)
    have one : (0 : Int) < seconds n := seconds_pos (interval_pos cadence)
    have up := seconds_mul_nonneg n k
    obtain ⟨rfl, rfl, high⟩ := of_missed_interval cadence count ok
    rw [missed_eq_interval cal cadence count low high] at ok
    cases ok
    refine ⟨⟨?_, ?_, by linarith⟩, by linarith, by linarith⟩
    · exact (sorted_multiples (interval_pos cadence) due _).sublist (drop_sublist _ _)
    · intro time mem
      obtain ⟨i, less, rfl⟩ := mem_map.mp (lastOf_subset mem)
      have below := mem_range.mp less
      have up := seconds_mul_nonneg n i
      have down : seconds (n * (i : Int)) ≤ seconds (n * (k : Int)) := seconds_mul_le (by omega)
      constructor <;> linarith
  | cron expression =>
    have loop := ok
    simp only [missed, cadence] at loop
    obtain ⟨⟨found, next'⟩, loop, _⟩ := bind_eq_ok loop
    obtain ⟨all, latest', missed, last, reached, after, value⟩ := missed_cron cadence le loop
    rw [value] at ok
    cases ok
    have bounds : ∀ time ∈ all, due ≤ time ∧ time < next := by
      intro time mem
      obtain ⟨occurs, before⟩ := (reached.mem time).mp mem
      exact ⟨occurs_ge cadence occurs, before⟩
    have latest_mem := bounds latest (mem_of_getLast? last)
    refine ⟨⟨?_, ?_, by omega⟩, latest_mem.1, latest_mem.2⟩
    · exact reached.sorted.sublist (drop_sublist _ _)
    · exact fun time mem => bounds time (lastOf_subset mem)

/-- What an evaluation returns. -/
theorem evaluate_ok (low : datetimeMin ≤ due) (le : due ≤ now)
    (ok : d.evaluate cal due now = .ok (times, next)) : Orderly due times next := by
  unfold evaluate at ok
  obtain ⟨⟨occurrences, latest, next'⟩, value, ok⟩ := bind_eq_ok ok
  cases ok
  obtain ⟨orderly, from_, before⟩ := missed_ok low le value
  have single : Orderly due [latest] next :=
    ⟨pairwise_singleton _ _, forall_mem_singleton.mpr ⟨from_, before⟩, orderly.later⟩
  unfold select
  cases d.policy with
  | skip =>
    simp only
    split_ifs
    · exact ⟨.nil, fun _ mem => absurd mem not_mem_nil, orderly.later⟩
    · exact single
  | coalesce => exact single
  | catchUp => exact orderly

/-- The next time of a schedule is again one at which it can be due. -/
theorem evaluate_starts (starts : Starts cal d due) (le : due ≤ now)
    (ok : d.evaluate cal due now = .ok (times, next)) : Starts cal d next where
  low := starts.low.trans (evaluate_ok starts.low le ok).later.le
  isCron expression cadence := by
    unfold evaluate at ok
    obtain ⟨⟨occurrences, latest, next'⟩, value, ok⟩ := bind_eq_ok ok
    cases ok
    have loop := value
    simp only [missed, cadence] at loop
    obtain ⟨⟨found, next'⟩, loop, _⟩ := bind_eq_ok loop
    obtain ⟨_, _, _, _, reached, after, missed⟩ := missed_cron cadence le loop
    rw [missed] at value
    cases value
    have occurs := reached.occurs
    simp only [Occurs, cadence] at occurs
    rcases occurs with same | ⟨_, isCron⟩
    · omega
    · exact isCron

/-- The next time of an interval is a multiple of it away. -/
theorem evaluate_multiple (cadence : d.cadence = .interval n) (le : due ≤ now)
    (ok : d.evaluate cal due now = .ok (times, next)) : ∃ k : Nat, next = due + seconds (n * (k : Int)) := by
  unfold evaluate at ok
  obtain ⟨⟨occurrences, latest, next'⟩, value, ok⟩ := bind_eq_ok ok
  cases ok
  obtain ⟨k, count⟩ := Int.eq_ofNat_of_zero_le (missedPeriods_nonneg le n)
  obtain ⟨rfl, rfl, -⟩ := of_missed_interval cadence count value
  refine ⟨k + 1, ?_⟩
  unfold seconds
  push_cast
  ring

/-- What an evaluation within its limits enqueues is not after the clock. -/
theorem Evaluation.le (h : Evaluation cal d due now times next) : ∀ time ∈ times, time ≤ now := by
  obtain ⟨all, latest, missed, last, selected⟩ := h.selects
  have latest_le : latest ≤ now := ((missed.mem latest).mp (mem_of_getLast? last)).2
  have single : ∀ time ∈ [latest], time ≤ now := forall_mem_singleton.mpr latest_le
  intro time mem
  rw [selected] at mem
  cases policy : d.policy with
  | skip =>
    simp only [policy] at mem
    split_ifs at mem
    · exact absurd mem not_mem_nil
    · exact single time mem
  | coalesce =>
    simp only [policy] at mem
    exact single time mem
  | catchUp =>
    simp only [policy] at mem
    exact ((missed.mem time).mp (lastOf_subset mem)).2

/-- An evaluation fails. -/
def Fails (cal : Calendar) (d : ScheduleDefinition) (due now : Int) : Prop := ∃ e, d.evaluate cal due now = .error e

theorem fails_iff_missed : d.Fails cal due now ↔ ∃ e, d.missed cal due now = .error e := by
  unfold Fails evaluate
  cases d.missed cal due now with
  | error e => exact ⟨fun _ => ⟨e, rfl⟩, fun _ => ⟨e, rfl⟩⟩
  | ok result =>
    constructor
    · rintro ⟨e, fails⟩
      cases fails
    · rintro ⟨e, fails⟩
      cases fails

/-- A cron loop that fails now fails at every later clock. -/
theorem cronLoop_fails_later {next : Int → Except Exn Int} {later : Int} (le : now ≤ later) {fuel : Nat}
    {kept : List Int} {cursor : Int} (fails : ∃ e, cronLoop next now count fuel kept cursor = .error e) :
    ∃ e, cronLoop next later count fuel kept cursor = .error e := by
  induction fuel generalizing kept cursor with
  | zero => exact ⟨_, rfl⟩
  | succ fuel ih =>
    obtain ⟨e, fails⟩ := fails
    unfold cronLoop at fails ⊢
    by_cases done : now < cursor
    · rw [if_pos done] at fails
      cases fails
    · rw [if_neg done] at fails
      rw [if_neg (by omega)]
      cases step : next cursor with
      | error e => exact ⟨e, rfl⟩
      | ok found =>
        rw [step] at fails
        exact ih ⟨e, fails⟩

/-- An evaluation that fails goes on to fail: nothing that it depends on changes but the clock. -/
theorem Fails.later (low : datetimeMin ≤ due) (due_le : due ≤ now) {later : Int} (le : now ≤ later)
    (fails : d.Fails cal due now) : d.Fails cal due later := by
  rw [fails_iff_missed] at fails ⊢
  cases cadence : d.cadence with
  | interval n =>
    obtain ⟨k, count⟩ := Int.eq_ofNat_of_zero_le (missedPeriods_nonneg due_le n)
    obtain ⟨k', count'⟩ := Int.eq_ofNat_of_zero_le (missedPeriods_nonneg (due_le.trans le) n)
    have more := missedPeriods_mono due_le le n
    have up : seconds (n * (k : Int)) ≤ seconds (n * (k' : Int)) := seconds_mul_le (by omega)
    cases value : d.missed cal due later with
    | error e => exact ⟨e, rfl⟩
    | ok result =>
      exfalso
      obtain ⟨latest, next, high⟩ := of_missed_interval cadence count' value
      rw [next, latest] at high
      obtain ⟨e, fails⟩ := fails
      rw [missed_eq_interval cal cadence count low (by linarith)] at fails
      cases fails
  | cron expression =>
    obtain ⟨e, fails⟩ := fails
    have loop : ∃ e, cronLoop (fun after => cronNext cal expression after d.timezone) now d.maxCatchUp cronLimit
      [] due = .error e := by
      cases loop : cronLoop (fun after => cronNext cal expression after d.timezone) now d.maxCatchUp cronLimit
        [] due with
      | error e => exact ⟨e, rfl⟩
      | ok result =>
        obtain ⟨_, _, _, _, _, _, value⟩ := missed_cron cadence due_le loop
        rw [value] at fails
        cases fails
    obtain ⟨e, loop⟩ := cronLoop_fails_later le loop
    refine ⟨e, ?_⟩
    simp only [missed, cadence, loop]
    rfl

end ScheduleDefinition

end PersonalAssistant
