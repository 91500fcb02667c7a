import PersonalAssistant.Coro.Machine
import PersonalAssistant.Domain.Models

/-!
# The job queue

`PostgresJobQueue`, in which the ticks of the scheduler leave the polls and from which the
workers take them. A call runs in one transaction, so it is one step; its statements select and
update rows by their conditions, and are written here as they are there.

A time is an instant, so `require_aware` has nothing to refuse. A document is a JSON object that
a `jsonb` column gives back as it was, of which the queue only needs equality.
-/

namespace PersonalAssistant

/-- `JobState`. -/
inductive JobState where
  | ready
  | leased
  | succeeded
  | failed
  | deadLetter
  | waitingReconciliation
  deriving DecidableEq, Repr

/-- `Job`, without the metadata, which no queue writes. -/
structure Job (Doc : Type) where
  id : String
  kind : String
  payload : Doc
  idempotencyKey : String
  createdAt : Time
  availableAt : Time
  state : JobState := .ready
  attempts : Nat := 0
  maxAttempts : Int := 5
  leaseOwner : Option String := none
  leaseUntil : Option Time := none
  result : Option Doc := none
  errorCode : Option String := none
  version : Nat := 0
  deriving DecidableEq, Repr

/-- What the owner of a lease may do with its job. -/
inductive LeaseAction (Doc : Type) where
  | heartbeat (leaseSeconds : Int)
  | complete (result : Doc)
  | release
  | fail (errorCode : String) (retryable : Bool) (retryAt : Option Time)
  | markUnknown (diagnosticCode : String)
  deriving DecidableEq, Repr

/-- A call of a queue. -/
inductive QueueCall (Doc : Type) where
  | enqueue (kind : String) (payload : Doc) (idempotencyKey : String) (availableAt : Option Time) (maxAttempts : Int)
  | claim (workerId : String) (leaseSeconds : Int)
  | act (jobId workerId : String) (action : LeaseAction Doc)
  deriving DecidableEq, Repr

/-- A call and what it meets: the clock, the id `uuid4` gives, and the rows that transactions of
other calls have locked. -/
structure QueueStep (Doc : Type) where
  call : QueueCall Doc
  now : Time
  newId : String
  locked : List String := []
  deriving DecidableEq, Repr

/-- The job a call returns, none for an empty claim, or what it raises. -/
abbrev QueueAnswer (Doc : Type) : Type := Except Exn (Option (Job Doc))

/-- `timedelta(seconds=count)`. -/
def seconds (count : Int) : Time := count * 1000000

/-- `ValueError`. -/
abbrev valueError (message : String) : Exn := .runtime .valueError message

/-- `LeaseConflict`, with the quotes of `repr` but not its escapes. -/
def leaseConflict (workerId jobId : String) : Exn :=
  .runtime .leaseConflict ("worker '" ++ workerId ++ "' does not own job '" ++ jobId ++ "'")

namespace Job

variable {Doc : Type}

/-- The order of `(available_at, created_at, id)`. -/
def Before (a b : Job Doc) : Prop :=
  a.availableAt < b.availableAt ∨ (a.availableAt = b.availableAt ∧
    (a.createdAt < b.createdAt ∨ (a.createdAt = b.createdAt ∧ a.id ≤ b.id)))

instance (a b : Job Doc) : Decidable (a.Before b) := inferInstanceAs (Decidable (_ ∨ _))

/-- The worker holds a lease on the job that has not expired. -/
def LeasedTo (job : Job Doc) (workerId : String) (now : Time) : Prop :=
  job.state = .leased ∧ job.leaseOwner = some workerId ∧ ∃ deadline ∈ job.leaseUntil, now < deadline

instance (job : Job Doc) (workerId : String) (now : Time) : Decidable (job.LeasedTo workerId now) :=
  inferInstanceAs (Decidable (_ ∧ _ ∧ _))

/-- The lease of the job has run out. -/
def LeaseExpired (job : Job Doc) (now : Time) : Prop :=
  job.state = .leased ∧ ∃ deadline ∈ job.leaseUntil, deadline ≤ now

instance (job : Job Doc) (now : Time) : Decidable (job.LeaseExpired now) :=
  inferInstanceAs (Decidable (_ ∧ _))

/-- The job may be claimed. -/
def Claimable (job : Job Doc) (now : Time) : Prop := job.state = .ready ∧ job.availableAt ≤ now

instance (job : Job Doc) (now : Time) : Decidable (job.Claimable now) := inferInstanceAs (Decidable (_ ∧ _))

/-- A new job. -/
def enqueued (id kind : String) (payload : Doc) (idempotencyKey : String) (availableAt : Option Time)
    (maxAttempts : Int) (now : Time) : Job Doc :=
  { id, kind, payload, idempotencyKey, maxAttempts, createdAt := now, availableAt := availableAt.getD now }

end Job

/-- The rows of the table `jobs`. -/
structure PostgresJobQueue (Doc : Type) where
  rows : List (Job Doc) := []

namespace PostgresJobQueue

variable {Doc : Type} [DecidableEq Doc] (table : PostgresJobQueue Doc)

/-- `UPDATE jobs SET … WHERE … RETURNING *`: the rows that were changed, and the table. -/
def update (which : Job Doc → Prop) [DecidablePred which] (set : Job Doc → Job Doc) :
    List (Job Doc) × PostgresJobQueue Doc :=
  ((table.rows.filter which).map set, ⟨table.rows.map fun row => if which row then set row else row⟩)

/-- `enqueue`: insert unless the kind and key are taken, or else return their row. The column
`max_attempts` is an `integer`, and the driver refuses a larger argument. -/
def enqueue (kind : String) (payload : Doc) (idempotencyKey : String) (availableAt : Option Time) (maxAttempts : Int)
    (now : Time) (newId : String) : QueueAnswer Doc × PostgresJobQueue Doc :=
  if isBlank idempotencyKey then (.error (valueError "idempotency_key is required"), table)
  else if maxAttempts < 1 then (.error (valueError "max_attempts must be positive"), table)
  else if 2147483648 ≤ maxAttempts then (.error (.other "DataError"), table)
  else match table.rows.find? fun row => row.kind = kind ∧ row.idempotencyKey = idempotencyKey with
  | none =>
    let row := Job.enqueued newId kind payload idempotencyKey availableAt maxAttempts now
    (.ok (some row), ⟨table.rows ++ [row]⟩)
  | some existing =>
    if existing.payload ≠ payload then
      (.error (valueError "idempotency key was reused with a different job payload"), table)
    else (.ok (some existing), table)

/-- The first statement of `claim`; a row another transaction holds is changed there or not at
all. -/
def expired (now : Time) (locked : List String) : PostgresJobQueue Doc :=
  (table.update (fun row => row.id ∉ locked ∧ row.LeaseExpired now)
    fun row => { row with state := .ready, leaseOwner := none, leaseUntil := none }).2

/-- The second statement of `claim`: `ORDER BY … FOR UPDATE SKIP LOCKED LIMIT 1`. -/
def select (now : Time) (locked : List String) : Option (Job Doc) :=
  ((table.rows.filter fun row => row.id ∉ locked ∧ row.Claimable now).insertionSort Job.Before).head?

/-- `claim`. -/
def claim (workerId : String) (leaseSeconds : Int) (now : Time) (locked : List String) :
    QueueAnswer Doc × PostgresJobQueue Doc :=
  if leaseSeconds < 1 then (.error (valueError "lease_seconds must be positive"), table)
  else
    match (table.expired now locked).select now locked with
    | none => (.ok none, table.expired now locked)
    | some row =>
      let updated := (table.expired now locked).update (fun other => other.id = row.id) fun row => { row with
        state := .leased, leaseOwner := some workerId, leaseUntil := some (now + seconds leaseSeconds)
        attempts := row.attempts + 1, version := row.version + 1 }
      (.ok updated.1.head?, updated.2)

/-- The `SET` clause of each statement. -/
def set (now : Time) (action : LeaseAction Doc) (row : Job Doc) : Job Doc :=
  match action with
  | .heartbeat leaseSeconds => { row with
      leaseUntil := some (now + seconds leaseSeconds), version := row.version + 1 }
  | .release => { row with
      state := .ready, availableAt := now, leaseOwner := none, leaseUntil := none, version := row.version + 1 }
  | .complete result => { row with
      state := .succeeded, result := some result, leaseOwner := none, leaseUntil := none, version := row.version + 1 }
  | .fail errorCode retryable retryAt => { row with
      state := if retryable ∧ row.attempts < row.maxAttempts then .ready
        else if retryable then .deadLetter else .failed
      availableAt := if retryable ∧ row.attempts < row.maxAttempts then retryAt.getD now else row.availableAt
      errorCode := some errorCode, leaseOwner := none, leaseUntil := none, version := row.version + 1 }
  | .markUnknown diagnosticCode => { row with
      state := .waitingReconciliation, errorCode := some diagnosticCode, leaseOwner := none, leaseUntil := none
      version := row.version + 1 }

/-- `heartbeat`, `complete`, `release`, `fail` and `mark_unknown`. -/
def act (jobId workerId : String) (action : LeaseAction Doc) (now : Time) : QueueAnswer Doc × PostgresJobQueue Doc :=
  let updated := table.update (fun row => row.id = jobId ∧ row.LeasedTo workerId now) (set now action)
  match updated.1.head? with
  | none => (.error (leaseConflict workerId jobId), updated.2)
  | some row => (.ok (some row), updated.2)

/-- One call. -/
def step : Machine (PostgresJobQueue Doc) (QueueStep Doc) (QueueAnswer Doc) := fun table s =>
  match s.call with
  | .enqueue kind payload idempotencyKey availableAt maxAttempts =>
    table.enqueue kind payload idempotencyKey availableAt maxAttempts s.now s.newId
  | .claim workerId leaseSeconds => table.claim workerId leaseSeconds s.now s.locked
  | .act jobId workerId action => table.act jobId workerId action s.now

end PostgresJobQueue

end PersonalAssistant
