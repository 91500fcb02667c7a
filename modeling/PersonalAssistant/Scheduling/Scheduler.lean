import PersonalAssistant.Arith.Double
import PersonalAssistant.Jobs.Queue
import PersonalAssistant.Records.Action
import PersonalAssistant.Scheduling.Cron

/-!
# The durable scheduler

`DurableScheduler` over the records and the job queue in PostgreSQL, as the two workers run it.
The action of a command and the jobs it enqueues are one transaction, so a command is applied
as a whole or not at all; a tick is a loop of such commands over the schedules as they were
listed, and it ends where one of them raises or the process dies.
-/

namespace PersonalAssistant

/-! ## Definitions of schedules -/

/-- `misfire_policy`. -/
inductive MisfirePolicy where
  | skip
  | coalesce
  | catchUp
  deriving DecidableEq, Repr

/-- When a schedule is due: every so many seconds, or by a cron expression. -/
inductive Cadence where
  | interval (seconds : Nat)
  | cron (expression : String)
  deriving DecidableEq, Repr

/-- The characters of `[A-Za-z0-9_.-]`. -/
def isNameChar (c : Char) : Bool := c.isAlphanum || c = '_' || c = '.' || c = '-'

/-- `re.fullmatch(r"[A-Za-z0-9_.-]{1,128}", text)`. -/
def isName (text : String) : Bool := 1 ≤ text.length && text.length ≤ 128 && text.toList.all isNameChar

/-- A definition that `configure` accepted. -/
structure ScheduleDefinition where
  id : String
  sourceId : String
  extensionId : String
  extensionVersion : String
  cadence : Cadence
  timezone : String
  policy : MisfirePolicy
  maxCatchUp : Nat
  named : isName id
  interval_bounds : ∀ n, cadence = .interval n → 30 ≤ n ∧ n ≤ 31536000
  catchUp_bounds : 1 ≤ maxCatchUp ∧ maxCatchUp ≤ 10

/-- What a poll job is about. -/
structure PollPayload where
  extensionId : String
  extensionVersion : String
  sourceId : String
  deriving DecidableEq, Repr

variable (cal : Calendar) (d : ScheduleDefinition)

/-- The payload of the jobs of a schedule. -/
def ScheduleDefinition.payload : PollPayload := ⟨d.extensionId, d.extensionVersion, d.sourceId⟩

/-- A record of the bucket `schedules`, under the id of its definition. -/
structure Schedule where
  definition : ScheduleDefinition
  nextAt : Int
  enabled : Bool
  version : Nat

abbrev Schedule.id (s : Schedule) : String := s.definition.id

namespace ScheduleDefinition

/-- A name under a key. -/
def nameAt (definition : Value) (key : String) : Option String :=
  match definition.get? key with
  | some (.str s) => if isName s then some s else none
  | _ => none

/-- The policy under `misfire_policy`; a list or a dictionary cannot be looked for in a set. -/
def policyOf (definition : Value) : Except Exn MisfirePolicy :=
  match definition.get? "misfire_policy" with
  | some (.str "skip") => .ok .skip
  | some (.str "coalesce") => .ok .coalesce
  | some (.str "catch_up") => .ok .catchUp
  | some (.list _) => .error (.other "TypeError")
  | some (.dict _) => .error (.other "TypeError")
  | _ => .error (validationError "unsupported misfire policy")

/-- `definition.get(key)`, where a missing entry is `None`. -/
def entryOrNone (definition : Value) (key : String) : Value := (definition.get? key).getD .none

/-- Exactly one of `interval_seconds` and `cron`, and the interval within its bounds. The type of
the expression is checked after the time zone. -/
def intervalOf (definition : Value) : Except Exn (Option { n : Nat // 30 ≤ n ∧ n ≤ 31536000 }) :=
  match entryOrNone definition "interval_seconds", entryOrNone definition "cron" with
  | .none, .none => .error (validationError "choose one interval or cron expression")
  | .none, _ => .ok none
  | .int n, .none =>
    if bounds : 30 ≤ n ∧ n ≤ 31536000 then .ok (some ⟨n.toNat, by omega⟩)
    else .error (validationError "interval must be from 30 seconds to one year")
  | _, .none => .error (validationError "interval must be from 30 seconds to one year")
  | _, _ => .error (validationError "choose one interval or cron expression")

theorem catchUp_toNat {n : Int} (bounds : 1 ≤ n ∧ n ≤ 10) : 1 ≤ n.toNat ∧ n.toNat ≤ 10 := by omega

/-- `max_catch_up`, 1 if it is missing. -/
def catchUpOf (definition : Value) : Except Exn { n : Nat // 1 ≤ n ∧ n ≤ 10 } :=
  match (definition.get? "max_catch_up").getD (.int 1) with
  | .int n =>
    if bounds : 1 ≤ n ∧ n ≤ 10 then .ok ⟨n.toNat, catchUp_toNat bounds⟩
    else .error (validationError "catch-up must be bounded to one to ten polls")
  | _ => .error (validationError "catch-up must be bounded to one to ten polls")

/-- The time zone, which must be known. -/
def timezoneOf (definition : Value) : Except Exn String :=
  match definition.get? "timezone" with
  | some (.str timezone) =>
    match cal.zoneInfo timezone with
    | .ok _ => .ok timezone
    | .error (.other "ZoneInfoNotFoundError") => .error (validationError "unknown timezone")
    | .error (.runtime .valueError _) => .error (validationError "unknown timezone")
    | .error e => .error e
  | _ => .error (validationError "an IANA timezone is required")

/-- The keys of a definition. -/
def allowed : List String :=
  ["id", "source_id", "extension_id", "extension_version", "interval_seconds", "cron", "timezone", "misfire_policy",
    "max_catch_up"]

/-- The interval, or else the expression, which must be a string. -/
def cadenceOf (definition : Value) (interval : Option { n : Nat // 30 ≤ n ∧ n ≤ 31536000 }) :
    Except Exn { cadence : Cadence // ∀ n, cadence = .interval n → 30 ≤ n ∧ n ≤ 31536000 } :=
  match interval with
  | some n => .ok ⟨.interval n.1, by rintro _ ⟨⟩; exact n.2⟩
  | none =>
    match entryOrNone definition "cron" with
    | .str expression => .ok ⟨.cron expression, by rintro _ ⟨⟩⟩
    | _ => .error (validationError "cron must be a string")

/-- The checks of `configure`, in their order. -/
def parse (definition : Value) : Except Exn ScheduleDefinition :=
  let unbound : Exn := validationError "schedule must target a declared read-only event source"
  match definition with
  | .dict entries =>
    match h : nameAt definition "id", nameAt definition "source_id", nameAt definition "extension_id",
      nameAt definition "extension_version" with
    | some id, some sourceId, some extensionId, some extensionVersion =>
      if entries.all fun entry => allowed.contains entry.1 then do
        let policy ← policyOf definition
        let interval ← intervalOf definition
        let catchUp ← catchUpOf definition
        let timezone ← timezoneOf cal definition
        let cadence ← cadenceOf definition interval
        return {
          id, sourceId, extensionId, extensionVersion, timezone, policy
          cadence := cadence.1
          maxCatchUp := catchUp.1
          named := by
            unfold nameAt at h
            split at h
            · split_ifs at h with name
              cases h
              exact name
            · cases h
          interval_bounds := cadence.2
          catchUp_bounds := catchUp.2 }
      else .error unbound
    | _, _, _, _ => .error unbound
  | _ => .error unbound

/-- The first time a schedule is due. -/
def firstDue (now : Int) : Except Exn Int :=
  match d.cadence with
  | .interval n => shift now (seconds n)
  | .cron expression => cronNext cal expression now d.timezone

/-! ## The evaluation of a schedule -/

/-- `(current - due).total_seconds() // interval`: the quotient is a double, and the floor of its
division by a small integer is exact. -/
def missedPeriods (due now : Int) (interval : Nat) : Int := ⌊double (((now - due : Int) : ℚ) / 1000000) / interval⌋

/-- `occurrences[-count:]`. -/
def lastOf {α : Type} (count : Nat) (items : List α) : List α := items.drop (items.length - count)

/-- The loop over the missed cron times, with those found so far. -/
def cronLoop (next : Int → Except Exn Int) (now : Int) (maxCatchUp : Nat) : Nat → List Int → Int →
    Except Exn (List Int × Int)
  | 0, _, _ => .error (validationError "too many missed cron periods; explicit review required")
  | n + 1, occurrences, cursor =>
    if now < cursor then .ok (occurrences, cursor)
    else match next cursor with
    | .error e => .error e
    | .ok later => cronLoop next now maxCatchUp n (lastOf maxCatchUp (occurrences ++ [cursor])) later

/-- How many cron times the loop goes through. -/
def cronLimit : Nat := 1440

/-- The occurrences to catch up, the latest one, and the next. -/
def missed (due now : Int) : Except Exn (List Int × Int × Int) :=
  match d.cadence with
  | .interval n => do
    let count := missedPeriods due now n
    let latest ← shift due (seconds (n * count))
    let next ← shift latest (seconds n)
    let occurrences := (List.range (min (count + 1) d.maxCatchUp).toNat).reverse.map fun i : Nat =>
      latest - seconds (n * (i : Int))
    return (occurrences, latest, next)
  | .cron expression => do
    let (occurrences, next) ← cronLoop
      (fun after => cronNext cal expression after d.timezone) now d.maxCatchUp cronLimit [] due
    match occurrences.getLast? with
    | some latest => return (occurrences, latest, next)
    | none => .error (.other "IndexError")

/-- Which of the missed times are enqueued. -/
def select (due now : Int) (occurrences : List Int) (latest : Int) : List Int :=
  match d.policy with
  | .skip => if seconds 60 < now - due then [] else [latest]
  | .coalesce => [latest]
  | .catchUp => occurrences

/-- The times to enqueue, and the next time at which the schedule is due. -/
def evaluate (due now : Int) : Except Exn (List Int × Int) := do
  let (occurrences, latest, next) ← missed cal d due now
  return (d.select due now occurrences latest, next)

end ScheduleDefinition

/-! ## The tables -/

/-- The response of a command: the record that `configure` or the API wrote, or how many jobs a
tick enqueued. -/
inductive SchedulerReply where
  | record (schedule : Schedule)
  | fired (count : Nat)

/-- The schedules in the order of their listing, the receipts of the commands, and the jobs. -/
structure SchedulerTables where
  schedules : List Schedule := []
  receipts : List (String × (String × SchedulerReply)) := []
  jobs : PostgresJobQueue PollPayload := {}

/-- What the scheduler takes from its surroundings: the calendar, and the fingerprints of the
requests of its commands. -/
structure SchedulerHost extends Calendar where
  configureDigest : Value → String
  enableDigest : String → Bool → Nat → String
  tickDigest : Int → List Int → String
  /-- The order of `ORDER BY record_id`. -/
  listedBefore : String → String → Bool

namespace SchedulerTables

variable (host : SchedulerHost) (t : SchedulerTables)

/-- A command whose key is bounded: the action is applied with its receipt, or nothing is. -/
def receipted (key digest : String) (action : Except Exn (SchedulerReply × SchedulerTables)) :
    Except Exn SchedulerReply × SchedulerTables :=
  match t.receipts.lookup key with
  | some receipt =>
    if receipt.1 ≠ digest then (.error (concurrentModification "command key belongs to another request"), t)
    else (.ok receipt.2, t)
  | none =>
    match action with
    | .error e => (.error e, t)
    | .ok (reply, t') => (.ok reply, { t' with receipts := t'.receipts ++ [(key, (digest, reply))] })

/-- `RecordStore.command`. -/
def command (key digest : String) (action : Except Exn (SchedulerReply × SchedulerTables)) :
    Except Exn SchedulerReply × SchedulerTables :=
  if key = "" ∨ 256 < key.length then (.error (validationError "a bounded command key is required"), t)
  else t.receipted key digest action

/-- `RecordStore.put` of a schedule that exists. -/
def update (id : String) (version : Nat) (f : Schedule → Schedule) : Except Exn (SchedulerReply × SchedulerTables) :=
  match t.schedules.find? (·.id = id) with
  | none => .error (concurrentModification "record version changed")
  | some s =>
    if s.version ≠ version then .error (concurrentModification "record version changed")
    else
      let written := { f s with version := version + 1 }
      .ok (.record written, { t with schedules := t.schedules.map fun s => if s.id = id then written else s })

/-- The action of `configure`. -/
def create (s : Schedule) : Except Exn (SchedulerReply × SchedulerTables) :=
  if t.schedules.any (·.id = s.id) then
    .error (validationError "schedule already exists; disable it before replacement")
  else .ok (.record s, { t with schedules := t.schedules.orderedInsert (fun a b => host.listedBefore a.id b.id) s })

/-- `configure`, with the key that the API gives it. -/
def configure (definition : Value) (idempotencyKey : String) (now : Int) :
    Except Exn SchedulerReply × SchedulerTables :=
  match ScheduleDefinition.parse host.toCalendar definition with
  | .error e => (.error e, t)
  | .ok d =>
    match d.firstDue host.toCalendar now with
    | .error e => (.error e, t)
    | .ok due =>
      t.command ("scheduled:" ++ idempotencyKey) (host.configureDigest definition) (t.create host ⟨d, due, true, 1⟩)

/-- `schedule_state` of the API: enable or disable a schedule. -/
def setEnabled (id : String) (enabled : Bool) (version : Nat) (idempotencyKey : String) :
    Except Exn SchedulerReply × SchedulerTables :=
  t.command ("schedule-state:" ++ idempotencyKey) (host.enableDigest id enabled version)
    (if t.schedules.any (·.id = id) then t.update id version fun s => { s with enabled }
    else .error (validationError "schedule is not configured"))

/-! ## The tick -/

/-- The key of the job of an occurrence. -/
def pollKey (id : String) (time : Int) : String := "schedule:" ++ id ++ ":" ++ host.isoformat time

/-- The key of the command of a tick. -/
def tickKey (id : String) (version : Nat) : String := "schedule-tick:" ++ id ++ ":" ++ toString version

/-- The jobs of some occurrences, each with the clock and the id that the queue gives it. -/
def enqueueAll (d : ScheduleDefinition) (clock : Time) (newId : Int → String) :
    List Int → PostgresJobQueue PollPayload → Except Exn (PostgresJobQueue PollPayload)
  | [], jobs => .ok jobs
  | time :: times, jobs =>
    match jobs.enqueue "event.poll" d.payload (pollKey host d.id time) none 5 clock (newId time) with
    | (.error e, _) => .error e
    | (.ok _, jobs) => enqueueAll d clock newId times jobs

/-- The action of a tick for one schedule. -/
def fire (s : Schedule) (clock : Time) (newId : String → Int → String) (times : List Int) (next : Int) :
    Except Exn (SchedulerReply × SchedulerTables) := do
  let jobs ← enqueueAll host s.definition clock (newId s.id) times t.jobs
  let (_, written) ← { t with jobs }.update s.id s.version fun _ => { s with nextAt := next }
  return (.fired times.length, written)

/-- What became of one schedule in a tick: the number in the response and the times that were
enqueued. -/
def tickOne (now : Int) (clock : Time) (newId : String → Int → String) (s : Schedule) :
    Except Exn (Nat × List Int) × SchedulerTables :=
  if s.enabled = false then (.ok (0, []), t)
  else if now < s.nextAt then (.ok (0, []), t)
  else match s.definition.evaluate host.toCalendar s.nextAt now with
  | .error e => (.error e, t)
  | .ok (times, next) =>
    let key := tickKey s.id s.version
    -- an id has at most 128 characters and a version is an integer column, so the key is bounded
    match t.receipted key (host.tickDigest next times) (t.fire host s clock newId times next) with
    | (.error e, t') => (.error e, t')
    | (.ok (.record _), t') => (.error (.runtime .keyError "fired"), t')
    | (.ok (.fired count), t') => (.ok (count, if (t.receipts.lookup key).isSome then [] else times), t')

end SchedulerTables

/-- What a tick did: the occurrences it enqueued, and what it returned or raised. -/
structure TickReport where
  enqueued : List (String × Int)
  result : Except Exn Nat

namespace SchedulerTables

variable (host : SchedulerHost)

/-- The loop of a tick. -/
def tickAll (now : Int) (clock : Time) (newId : String → Int → String) : List Schedule → SchedulerTables →
    TickReport × SchedulerTables
  | [], t => (⟨[], .ok 0⟩, t)
  | s :: rest, t =>
    match t.tickOne host now clock newId s with
    | (.error e, t') => (⟨[], .error e⟩, t')
    | (.ok (count, times), t') =>
      let (report, t'') := tickAll now clock newId rest t'
      (⟨times.map (s.id, ·) ++ report.enqueued, report.result.map (count + ·)⟩, t'')

/-- A tick; where the process dies, only the first of the schedules are gone through. -/
def tick (t : SchedulerTables) (now : Int) (clock : Time) (newId : String → Int → String) (dies : Option Nat) :
    TickReport × SchedulerTables :=
  match dies with
  | none => tickAll host now clock newId t.schedules t
  | some count =>
    let (report, t') := tickAll host now clock newId (t.schedules.take count) t
    ({ report with result := .error .cancelled }, t')

end SchedulerTables

/-! ## The system -/

/-- What happens to the tables: calls of the API, calls of the workers to the queue, and ticks. -/
inductive SchedulerStep where
  | configure (definition : Value) (idempotencyKey : String) (now : Int)
  | setEnabled (id : String) (enabled : Bool) (version : Nat) (idempotencyKey : String)
  | work (call : QueueStep PollPayload)
  | tick (now : Int) (clock : Time) (newId : String → Int → String) (dies : Option Nat)

/-- What comes of it. -/
inductive SchedulerAnswer where
  | replied (reply : Except Exn SchedulerReply)
  | worked (answer : QueueAnswer PollPayload)
  | ticked (report : TickReport)

/-- The scheduler and its surroundings. -/
def scheduler (host : SchedulerHost) : Machine SchedulerTables SchedulerStep SchedulerAnswer := fun t step =>
  match step with
  | .configure definition idempotencyKey now =>
    let (reply, t') := t.configure host definition idempotencyKey now
    (.replied reply, t')
  | .setEnabled id enabled version idempotencyKey =>
    let (reply, t') := t.setEnabled host id enabled version idempotencyKey
    (.replied reply, t')
  | .work call =>
    let (answer, jobs) := PostgresJobQueue.step t.jobs call
    (.worked answer, { t with jobs })
  | .tick now clock newId dies =>
    let (report, t') := t.tick host now clock newId dies
    (.ticked report, t')

end PersonalAssistant
