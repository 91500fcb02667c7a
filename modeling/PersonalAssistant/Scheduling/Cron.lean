import PersonalAssistant.Domain.Models

/-!
# Cron expressions

`cron_fields` and `cron_next` of `core/scheduling.py`. An expression is parsed into five sets
of numbers; the next occurrence is found by trying one minute after the other in the time zone
of the schedule, for at most one leap year. A time is an instant in microseconds. The time zone
database, the decimal digits of Unicode and `isoformat` are those of the Python library.
-/

namespace PersonalAssistant

/-- What a cron expression is compared with: a time in a zone. -/
structure LocalTime where
  minute : Nat
  hour : Nat
  day : Nat
  month : Nat
  /-- `weekday()`: Monday is 0. -/
  weekday : Nat
  deriving DecidableEq, Repr

/-- A time zone: its local times, and the first and the last time whose local time is a `datetime`. -/
structure Zone where
  localTime : Int → LocalTime
  first : Int
  last : Int

/-- `time.astimezone(zone)`. -/
def Zone.astimezone (zone : Zone) (time : Int) : Except Exn LocalTime :=
  if zone.first ≤ time ∧ time ≤ zone.last then .ok (zone.localTime time) else .error (.other "OverflowError")

/-- What the scheduler takes from the Python library. -/
structure Calendar where
  /-- The value of a character for which `str.isdecimal` holds. -/
  decimal : Char → Option Nat
  /-- `ZoneInfo(name)`. -/
  zoneInfo : String → Except Exn Zone
  /-- `isoformat` of a time in UTC. -/
  isoformat : Int → String
  isoformat_injective : Function.Injective isoformat

/-- `datetime.min` and `datetime.max` in UTC. -/
def datetimeMin : Int := -62135596800000000

@[inherit_doc datetimeMin]
def datetimeMax : Int := 253402300799999999

/-- `time + delta`. -/
def shift (time delta : Int) : Except Exn Int :=
  if datetimeMin ≤ time + delta ∧
    time + delta ≤ datetimeMax then .ok (time + delta) else .error (.other "OverflowError")

/-- `timedelta(minutes=1)`. -/
def oneMinute : Int := 60000000

/-- `replace(second=0, microsecond=0)`. -/
def wholeMinute (time : Int) : Int := time - time % oneMinute

/-! ## The expression -/

/-- The value of an ASCII digit. -/
def asciiDigit (c : Char) : Option Nat := if '0' ≤ c ∧ c ≤ '9' then some (c.toNat - 48) else none

/-- `int(text)` of a text of one or more digits. -/
def decimalValue (digit : Char → Option Nat) (text : List Char) : Option Nat :=
  if text = [] then none else text.foldlM (fun n c => (digit c).map (10 * n + ·)) 0

variable (cal : Calendar)

/-- The step of an item, after the first slash. -/
def cronStep (high : Nat) (item : List Char) : Except Exn Nat :=
  if item.contains '/' then
    match decimalValue cal.decimal ((item.dropWhile (· ≠ '/')).drop 1) with
    | some step => if 1 ≤ step ∧ step ≤ high + 1 then .ok step else .error (validationError "invalid cron step")
    | none => .error (validationError "invalid cron step")
  else .ok 1

/-- The range of an item, before the first slash. -/
def cronBase (low high : Nat) (base : List Char) : Except Exn (Nat × Nat) :=
  if base = ['*'] then .ok (low, high)
  else match (base.splitOn '-').map (decimalValue asciiDigit) with
  | [some first, some last] => .ok (first, last)
  | _ => match decimalValue cal.decimal base with
    | some n => .ok (n, n)
    | none => .error (validationError "unsupported cron syntax")

/-- The numbers of one item. -/
def cronItem (low high : Nat) (item : List Char) : Except Exn (List Nat) := do
  let step ← cronStep cal high item
  let (first, last) ← cronBase cal low high (item.takeWhile (· ≠ '/'))
  if low ≤ first ∧ first ≤ last ∧ last ≤ high then
    return List.range' first ((last - first) / step + 1) step
  else .error (validationError "cron range is invalid")

/-- The set of numbers of one field, without repetitions. -/
def cronField (low high : Nat) (field : List Char) : Except Exn (List Nat) := do
  let items ← (field.splitOn ',').mapM (cronItem cal low high)
  let result := items.foldl (fun result item => result ∪ item) []
  if result = [] then .error (validationError "empty cron field") else return result

/-- The five fields of an expression. -/
structure CronFields where
  minutes : List Nat
  hours : List Nat
  days : List Nat
  months : List Nat
  weekdays : List Nat
  deriving DecidableEq, Repr

/-- `cron_fields`. -/
def cronFields (expression : String) : Except Exn CronFields :=
  match words expression.toList with
  | [minutes, hours, days, months, weekdays] =>
    if 128 < expression.length then .error (validationError "cron must have five numeric fields")
    else do
      return {
        minutes := ← cronField cal 0 59 minutes
        hours := ← cronField cal 0 23 hours
        days := ← cronField cal 1 31 days
        months := ← cronField cal 1 12 months
        weekdays := ← cronField cal 0 6 weekdays }
  | _ => .error (validationError "cron must have five numeric fields")

/-- A local time matches: where both the days and the weekdays are restricted, one of them is
enough. -/
def CronFields.matches (fields : CronFields) (time : LocalTime) : Bool :=
  let day := fields.days.contains time.day
  let weekday := fields.weekdays.contains ((time.weekday + 1) % 7)
  fields.minutes.contains time.minute && fields.hours.contains time.hour && fields.months.contains time.month &&
    (if fields.days.length ≠ 31 ∧ fields.weekdays.length ≠ 7 then day || weekday else day && weekday)

/-! ## The next occurrence -/

/-- How many minutes `cron_next` tries. -/
def cronHorizon : Nat := 527040

/-- A time matches in a zone. -/
def CronFields.matchesIn (fields : CronFields) (zone : Zone) (time : Int) : Except Exn Bool :=
  (zone.astimezone time).map fields.matches

/-- The loop of `cron_next`. -/
def cronSearch (fields : CronFields) (zone : Zone) : Nat → Int → Except Exn Int
  | 0, _ => .error (validationError "cron has no occurrence within the supported one-year horizon")
  | n + 1, cursor =>
    match fields.matchesIn zone cursor with
    | .error e => .error e
    | .ok true => .ok cursor
    | .ok false =>
      match shift cursor oneMinute with
      | .error e => .error e
      | .ok later => cronSearch fields zone n later

/-- `cron_next`. -/
def cronNext (expression : String) (after : Int) (timezone : String) : Except Exn Int := do
  let fields ← cronFields cal expression
  let zone ← cal.zoneInfo timezone
  let cursor ← shift (wholeMinute after) oneMinute
  cronSearch fields zone cronHorizon cursor

/-- A time at which a cron schedule is due: a whole minute that matches in its zone. -/
def IsCronTime (expression timezone : String) (time : Int) : Prop :=
  ∃ fields zone, cronFields cal expression = .ok fields ∧ cal.zoneInfo timezone = .ok zone ∧
    time % oneMinute = 0 ∧ fields.matchesIn zone time = .ok true

/-- A time of the horizon, within the calendar. -/
def WithinHorizon (after time : Int) : Prop :=
  after < time ∧ time ≤ wholeMinute after + cronHorizon * oneMinute ∧ time ≤ datetimeMax

/-- What `cron_next` is for: the first cron time after a time, or a `ValidationError` where the
horizon has none. -/
def CronPromise (expression timezone : String) (after : Int) : Prop :=
  (∃ time, cronNext cal expression after timezone = .ok time ∧ IsCronTime cal expression timezone time ∧
      WithinHorizon after time ∧
      ∀ earlier, after < earlier → earlier < time → ¬ IsCronTime cal expression timezone earlier) ∨
    (∃ message, cronNext cal expression after timezone = .error (validationError message)) ∧
      ∀ time, WithinHorizon after time → ¬ IsCronTime cal expression timezone time

section
variable {fields : CronFields} {zone : Zone} {n : Nat} {cursor time delta : Int}

theorem shift_eq_ok {later : Int} (h : shift time delta = .ok later) :
    later = time + delta ∧ datetimeMin ≤ later ∧ later ≤ datetimeMax := by
  unfold shift at h
  split_ifs at h with range
  cases h
  exact ⟨rfl, range⟩

theorem shift_ok (low : datetimeMin ≤ time + delta) (high : time + delta ≤ datetimeMax) :
    shift time delta = .ok (time + delta) := if_pos ⟨low, high⟩

theorem shift_overflow (late : ¬ time + delta ≤ datetimeMax) : shift time delta = .error (.other "OverflowError") :=
  if_neg fun range => late range.2

theorem overflow_ne : ¬ ∃ message, Exn.other "OverflowError" = validationError message := by
  rintro ⟨message, same⟩
  cases same

theorem matchesIn_of_range (first : zone.first ≤ time) (last : time ≤ zone.last) :
    fields.matchesIn zone time = .ok (fields.matches (zone.localTime time)) := by
  unfold CronFields.matchesIn Zone.astimezone
  rw [if_pos ⟨first, last⟩]
  rfl

theorem range_of_matchesIn {b : Bool} (h : fields.matchesIn zone time = .ok b) : zone.first ≤ time ∧
    time ≤ zone.last := by
  by_contra outside
  unfold CronFields.matchesIn Zone.astimezone at h
  rw [if_neg outside] at h
  cases h

theorem matchesIn_error {e : Exn} (h : fields.matchesIn zone time = .error e) :
    e = .other "OverflowError" ∧ ¬ (zone.first ≤ time ∧ time ≤ zone.last) := by
  refine ⟨?_, fun range => ?_⟩
  · unfold CronFields.matchesIn Zone.astimezone at h
    split_ifs at h
    · cases h
    · exact (Except.error.inj h).symm
  · rw [matchesIn_of_range range.1 range.2] at h
    cases h

theorem cronSearch_here (pos : n ≠ 0) (here : fields.matchesIn zone cursor = .ok true) :
    cronSearch fields zone n cursor = .ok cursor := by
  cases n with
  | zero => exact absurd rfl pos
  | succ n =>
    unfold cronSearch
    rw [here]

/-- The search has tried the whole minutes before a bound, and none matched. -/
def Missed (fields : CronFields) (zone : Zone) (cursor bound : Int) : Prop :=
  ∀ time, cursor ≤ time → time < bound → time % oneMinute = 0 → fields.matchesIn zone time = .ok false

theorem Missed.cons {bound : Int} (miss : fields.matchesIn zone cursor = .ok false) (whole : cursor % oneMinute = 0)
    (rest : Missed fields zone (cursor + oneMinute) bound) : Missed fields zone cursor bound := by
  intro time from_ until_ aligned
  by_cases same : time = cursor
  · rw [same]
    exact miss
  · apply rest time _ until_ aligned
    unfold oneMinute at *
    omega

theorem next_whole (whole : cursor % oneMinute = 0) : (cursor + oneMinute) % oneMinute = 0 := by
  unfold oneMinute at *
  omega

/-- How a search ends: at a match, at its bound, or at a minute that the zone cannot convert or
after which the calendar ends. -/
inductive Stops (fields : CronFields) (zone : Zone) (bound stop : Int) : Except Exn Int → Prop where
  | found (here : fields.matchesIn zone stop = .ok true) (within : stop < bound) :
      Stops fields zone bound stop (.ok stop)
  | missed (last : stop = bound) : Stops fields zone bound stop
      (.error (validationError "cron has no occurrence within the supported one-year horizon"))
  | overflow (within : stop < bound)
      (cause : ¬ (zone.first ≤ stop ∧ stop ≤ zone.last) ∨
        fields.matchesIn zone stop = .ok false ∧ datetimeMax < stop + oneMinute) :
      Stops fields zone bound stop (.error (.other "OverflowError"))

/-- The search stops at a whole minute, and no minute before it matched. -/
theorem cronSearch_stops (fields : CronFields) (zone : Zone) (n : Nat) (whole : cursor % oneMinute = 0)
    (low : datetimeMin ≤ cursor) (range : cursor ≤ datetimeMax) :
    ∃ stop, cursor ≤ stop ∧ stop ≤ datetimeMax ∧ stop % oneMinute = 0 ∧ Missed fields zone cursor stop ∧
      Stops fields zone (cursor + n * oneMinute) stop (cronSearch fields zone n cursor) := by
  have nothing : Missed fields zone cursor cursor := fun time from_ until_ => by omega
  induction n generalizing cursor with
  | zero => exact ⟨cursor, le_rfl, range, whole, nothing, .missed (by omega)⟩
  | succ n ih =>
    have within : cursor < cursor + (n + 1 : Nat) * oneMinute := by
      unfold oneMinute
      omega
    unfold cronSearch
    cases here : fields.matchesIn zone cursor with
    | error e =>
      obtain ⟨rfl, outside⟩ := matchesIn_error here
      exact ⟨cursor, le_rfl, range, whole, nothing, .overflow within (.inl outside)⟩
    | ok b =>
      cases b with
      | true => exact ⟨cursor, le_rfl, range, whole, nothing, .found here within⟩
      | false =>
        by_cases room : cursor + oneMinute ≤ datetimeMax
        · have start : datetimeMin ≤ cursor + oneMinute := by
            unfold oneMinute
            omega
          have ends : cursor + (n + 1 : Nat) * oneMinute = cursor + oneMinute + n * oneMinute := by
            unfold oneMinute
            omega
          obtain ⟨stop, from_, last, aligned, missed, stops⟩ := ih (next_whole whole) start room fun time => by omega
          rw [shift_ok start room, ends]
          refine ⟨stop, ?_, last, aligned, missed.cons here whole, stops⟩
          unfold oneMinute at from_
          omega
        · rw [shift_overflow room]
          exact ⟨cursor, le_rfl, range, whole, nothing, .overflow within (.inr ⟨here, not_le.mp room⟩)⟩

end

section
variable {cal : Calendar} {expression timezone : String} {after time : Int} {fields : CronFields} {zone : Zone}

theorem wholeMinute_mod (time : Int) : (wholeMinute time + oneMinute) % oneMinute = 0 := by
  unfold wholeMinute oneMinute
  omega

/-- A whole minute after a time is at least the next whole minute. -/
theorem next_minute_le {earlier : Int} (less : after < earlier) (whole : earlier % oneMinute = 0) :
    wholeMinute after + oneMinute ≤ earlier := by
  unfold wholeMinute oneMinute at *
  omega

theorem lt_next_minute (after : Int) : after < wholeMinute after + oneMinute := by
  unfold wholeMinute oneMinute
  omega

theorem isCronTime_iff (parsed : cronFields cal expression = .ok fields) (known : cal.zoneInfo timezone = .ok zone) :
    IsCronTime cal expression timezone time ↔ time % oneMinute = 0 ∧ fields.matchesIn zone time = .ok true := by
  simp [IsCronTime, parsed, known]

/-- None of the minutes that the search has missed is a cron time. -/
theorem Missed.not_isCronTime {bound : Int} (missed : Missed fields zone (wholeMinute after + oneMinute) bound)
    (parsed : cronFields cal expression = .ok fields) (known : cal.zoneInfo timezone = .ok zone)
    (less : after < time) (more : time < bound) : ¬ IsCronTime cal expression timezone time := by
  intro due
  obtain ⟨whole, matches_⟩ := (isCronTime_iff parsed known).mp due
  rw [missed time (next_minute_le less whole) more whole] at matches_
  cases matches_

/-- `cron_next` gives the first cron time after a time. -/
theorem cronNext_ok (h : cronNext cal expression after timezone = .ok time) :
    IsCronTime cal expression timezone time ∧ datetimeMin ≤ time ∧ WithinHorizon after time ∧
      ∀ earlier, after < earlier → earlier < time → ¬ IsCronTime cal expression timezone earlier := by
  unfold cronNext at h
  obtain ⟨fields, parsed, h⟩ := bind_eq_ok h
  obtain ⟨zone, known, h⟩ := bind_eq_ok h
  obtain ⟨cursor, shifted, h⟩ := bind_eq_ok h
  obtain ⟨rfl, low, range⟩ := shift_eq_ok shifted
  obtain ⟨stop, from_, last, whole, missed, stops⟩ :=
    cronSearch_stops fields zone cronHorizon (wholeMinute_mod after) low range
  rw [h] at stops
  cases stops with
  | found here within =>
    have later := lt_next_minute after
    refine ⟨⟨fields, zone, parsed, known, whole, here⟩, low.trans from_, ⟨by omega, ?_, last⟩, ?_⟩
    · unfold wholeMinute oneMinute at *
      omega
    · exact fun earlier less more => missed.not_isCronTime parsed known less more

variable (parsed : cronFields cal expression = .ok fields) (known : cal.zoneInfo timezone = .ok zone)
  (low : datetimeMin ≤ after)

include parsed known low

/-- The search of `cron_next`, where the next minute is in the calendar. -/
theorem cronNext_stops (room : wholeMinute after + oneMinute ≤ datetimeMax) :
    ∃ stop, wholeMinute after + oneMinute ≤ stop ∧ stop ≤ datetimeMax ∧ stop % oneMinute = 0 ∧
      Missed fields zone (wholeMinute after + oneMinute) stop ∧
      Stops fields zone (wholeMinute after + (cronHorizon + 1) * oneMinute) stop
        (cronNext cal expression after timezone) := by
  have start : datetimeMin ≤ wholeMinute after + oneMinute := low.trans (lt_next_minute after).le
  have bound : wholeMinute after + (cronHorizon + 1) * oneMinute =
    wholeMinute after + oneMinute + cronHorizon * oneMinute := by
    unfold oneMinute
    omega
  unfold cronNext
  rw [parsed, known, shift_ok start room, bound]
  exact cronSearch_stops fields zone cronHorizon (wholeMinute_mod after) start room

/-- The promise is kept where no conversion fails before the first cron time, or in the whole horizon. -/
theorem cronNext_promise (first : zone.first ≤ wholeMinute after + oneMinute)
    (left : (∃ time, WithinHorizon after time ∧ IsCronTime cal expression timezone time) ∨
      wholeMinute after + cronHorizon * oneMinute ≤ zone.last ∧
        wholeMinute after + (cronHorizon + 1) * oneMinute ≤ datetimeMax) :
    CronPromise cal expression timezone after := by
  have room : wholeMinute after + oneMinute ≤ datetimeMax := by
    rcases left with ⟨time, ⟨less, _, last⟩, _, _, _, _, whole, _⟩ | ⟨_, last⟩
    · exact (next_minute_le less whole).trans last
    · unfold cronHorizon oneMinute at *
      omega
  obtain ⟨stop, from_, top, aligned, missed, stops⟩ := cronNext_stops parsed known low room
  unfold CronPromise
  cases result : cronNext cal expression after timezone with
  | ok time =>
    obtain ⟨isCron, _, within, least⟩ := cronNext_ok result
    exact .inl ⟨time, rfl, isCron, within, least⟩
  | error e =>
    rw [result] at stops
    cases stops with
    | missed last =>
      refine .inr ⟨⟨_, rfl⟩, fun time ⟨less, reach, _⟩ => missed.not_isCronTime parsed known less ?_⟩
      unfold oneMinute at *
      omega
    | overflow within cause =>
      exfalso
      rcases left with ⟨time, ⟨less, _, high⟩, due⟩ | ⟨zoned, last⟩
      · -- the search has gone past the cron time
        have early : ¬ time < stop := fun more => missed.not_isCronTime parsed known less more due
        obtain ⟨whole, here⟩ := (isCronTime_iff parsed known).mp due
        rcases cause with outside | ⟨miss, end_⟩
        · exact outside ⟨by omega, (not_lt.mp early).trans (range_of_matchesIn here).2⟩
        · have same : time = stop := by
            unfold oneMinute at *
            omega
          rw [same, miss] at here
          cases here
      · rcases cause with outside | ⟨_, end_⟩
        · refine outside ⟨by omega, ?_⟩
          unfold wholeMinute oneMinute at *
          omega
        · unfold wholeMinute oneMinute at *
          omega

/-- **`cron_next` keeps its promise exactly where its zone can convert the next minute, and a cron
time is left in the horizon or neither the zone nor the calendar ends in it.** -/
theorem cronNext_promise_iff : CronPromise cal expression timezone after ↔
      zone.first ≤ wholeMinute after + oneMinute ∧
        ((∃ time, WithinHorizon after time ∧ IsCronTime cal expression timezone time) ∨
          wholeMinute after + cronHorizon * oneMinute ≤ zone.last ∧
            wholeMinute after + (cronHorizon + 1) * oneMinute ≤ datetimeMax) := by
  refine ⟨fun promise => ?_, fun ⟨first, left⟩ => cronNext_promise parsed known low first left⟩
  have room : wholeMinute after + oneMinute ≤ datetimeMax := by
    by_contra late
    have overflow : cronNext cal expression after timezone = .error (.other "OverflowError") := by
      unfold cronNext
      rw [parsed, known, shift_overflow late]
      rfl
    rcases promise with ⟨time, result, _⟩ | ⟨⟨message, result⟩, _⟩ <;> rw [overflow] at result
    · cases result
    · exact overflow_ne ⟨message, Except.error.inj result⟩
  obtain ⟨stop, from_, top, _, missed, stops⟩ := cronNext_stops parsed known low room
  have tried {time : Int} (least : wholeMinute after + oneMinute ≤ time) (more : time < stop)
    (whole : time % oneMinute = 0) :=
    range_of_matchesIn (missed time least more whole)
  rcases promise with ⟨time, result, isCron, within, _⟩ | ⟨⟨message, result⟩, _⟩ <;> rw [result] at stops
  · cases stops with
    | found here _ =>
      refine ⟨?_, .inl ⟨_, within, isCron⟩⟩
      rcases from_.eq_or_lt with same | less
      · rw [same]
        exact (range_of_matchesIn here).1
      · exact (tried le_rfl less (wholeMinute_mod after)).1
  · cases stops with
    | missed last =>
      have whole : (wholeMinute after + cronHorizon * oneMinute) % oneMinute = 0 := by
        unfold wholeMinute oneMinute
        omega
      rw [last] at tried top
      refine ⟨(tried le_rfl ?_ (wholeMinute_mod after)).1, .inr ⟨(tried ?_ ?_ whole).2, top⟩⟩ <;>
      · unfold cronHorizon oneMinute
        omega

end

/-- From a time that is a cron time itself, another one in the horizon makes `cron_next` succeed. -/
theorem cronNext_of_match {cal : Calendar} {expression timezone : String} {after time : Int}
    (due : IsCronTime cal expression timezone time) (within : WithinHorizon after time) (low : datetimeMin ≤ after)
    (here : IsCronTime cal expression timezone after) : ∃ found, cronNext cal expression after timezone =
      .ok found := by
  obtain ⟨fields, zone, parsed, known, _, converted⟩ := here
  have first : zone.first ≤ wholeMinute after + oneMinute :=
    (range_of_matchesIn converted).1.trans (lt_next_minute after).le
  rcases cronNext_promise parsed known low first (.inl ⟨time, within, due⟩) with ⟨found, ok, _⟩ | ⟨_, none_⟩
  · exact ⟨found, ok⟩
  · exact absurd due (none_ time within)

end PersonalAssistant
