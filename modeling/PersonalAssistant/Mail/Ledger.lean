import PersonalAssistant.Domain.Models

/-!
# The delivery ledger

The transport ledger of `core/mail/ports.py`, with the operations that
`PostgresMailDeliveryLedger` and `InMemoryMailDeliveryLedger` share: one row for each local
action, PREPARED, then EXECUTING under an owner's lease, then terminal. Each operation is
atomic. A duration is in microseconds, as a time is.
-/

namespace PersonalAssistant

open Function

/-- `MailDeliveryStatus`. -/
inductive MailDeliveryStatus where
  | prepared
  | executing
  | succeeded
  | partialDelivery
  | failed
  | unknown
  deriving DecidableEq, Repr

namespace MailDeliveryStatus

/-- The persisted value of a status. -/
def value : MailDeliveryStatus → String
  | prepared => "PREPARED"
  | executing => "EXECUTING"
  | succeeded => "SUCCEEDED"
  | partialDelivery => "PARTIAL"
  | failed => "FAILED"
  | unknown => "UNKNOWN"

/-- `MailDeliveryStatus.terminal`. -/
def terminal : MailDeliveryStatus → Bool
  | succeeded | partialDelivery | failed | unknown => true
  | prepared | executing => false

end MailDeliveryStatus

/-- `MailRecipientStatus`. -/
inductive MailRecipientStatus where
  | accepted
  | rejected
  | unknown
  deriving DecidableEq, Repr

/-- The persisted value of a recipient's status. -/
def MailRecipientStatus.value : MailRecipientStatus → String
  | .accepted => "ACCEPTED"
  | .rejected => "REJECTED"
  | .unknown => "UNKNOWN"

/-- `MailRecipientResult`. -/
structure MailRecipientResult where
  recipient : String
  status : MailRecipientStatus
  errorCode : Option String := none
  deriving DecidableEq, Repr

/-- `MailDeliveryRecord`. -/
structure MailDeliveryRecord where
  localActionId : String
  accountId : String
  messageId : String
  status : MailDeliveryStatus
  envelopeDigest : String
  mimeSha256 : String
  recipientResults : List MailRecipientResult := []
  serverCode : Option String := none
  diagnosticCode : Option String := none
  ownerId : Option String := none
  leaseExpiresAt : Option Time := none
  deriving DecidableEq, Repr

/-- What `finalize` writes besides the status. -/
structure DeliveryResult where
  status : MailDeliveryStatus
  recipientResults : List MailRecipientResult := []
  serverCode : Option String := none
  diagnosticCode : Option String := none
  deriving DecidableEq, Repr

/-- The rows, each under its local action id. -/
structure Ledger where
  rows : String → Option MailDeliveryRecord
  keyed : ∀ id row, rows id = some row → row.localActionId = id

namespace Ledger

/-- A ledger without rows. -/
def empty : Ledger := ⟨fun _ => none, by simp⟩

/-- Put a row under its id. -/
def put (l : Ledger) (row : MailDeliveryRecord) : Ledger where
  rows := update l.rows row.localActionId (some row)
  keyed id found h := by
    by_cases hid : id = row.localActionId
    · subst hid
      rw [update_self] at h
      exact (Option.some.inj h) ▸ rfl
    · rw [update_of_ne hid] at h
      exact l.keyed id found h

/-- The state of a row, if it exists. -/
def status? (l : Ledger) (id : String) : Option MailDeliveryStatus := (l.rows id).map (·.status)

@[simp] theorem put_self (l : Ledger) (row : MailDeliveryRecord) : (l.put row).rows row.localActionId = some row := by
  simp [put]

variable {id : String} {l : Ledger}

theorem put_of_ne (l : Ledger) (row : MailDeliveryRecord) (h : id ≠ row.localActionId) :
    (l.put row).rows id = l.rows id := by
  simp [put, update_of_ne h]

theorem put_found {row new : MailDeliveryRecord} (found : l.rows id = some row)
    (same : new.localActionId = row.localActionId) : (l.put new).rows id = some new := by
  rw [← l.keyed id row found, ← same]
  exact l.put_self new

theorem status?_put {row new : MailDeliveryRecord} (found : l.rows id = some row)
    (same : new.localActionId = row.localActionId) : (l.put new).status? id = some new.status :=
  congrArg (Option.map _) (put_found found same)

/-- The envelope of an existing row differs. -/
def conflict : Exn :=
  .runtime .mailLedgerConflict "the local action id is already bound to a different envelope"

/-- `MailDeliveryLedger.prepare`: insert PREPARED, or report the state of the row that exists. -/
def prepare (l : Ledger) (record : MailDeliveryRecord) : Except Exn MailDeliveryStatus × Ledger :=
  match l.rows record.localActionId with
  | none => (.ok .prepared, l.put { record with status := .prepared })
  | some existing =>
    if existing.envelopeDigest ≠ record.envelopeDigest then (.error conflict, l)
    else (.ok existing.status, l)

/-- The leases the ledger grants: one second to one day. -/
def leaseGrantable (ownerId : String) (leaseSeconds : Int) : Bool :=
  ownerId ≠ "" ∧ 1000000 ≤ leaseSeconds ∧ leaseSeconds ≤ 86400 * 1000000

/-- `MailDeliveryLedger.begin_execution`: PREPARED becomes EXECUTING under the owner's lease.
A row in any other state, a live EXECUTING one included, is reported as it is. -/
def beginExecution (l : Ledger) (now : Time) (id envelopeDigest ownerId : String) (leaseSeconds : Int) :
    Except Exn MailDeliveryStatus × Ledger :=
  if leaseGrantable ownerId leaseSeconds = false then
    (.error (.runtime .mailLedgerState "invalid execution lease"), l)
  else match l.rows id with
  | none => (.error (.runtime .mailLedgerState "unknown local action id"), l)
  | some row =>
    if row.envelopeDigest ≠ envelopeDigest then (.error conflict, l)
    else if row.status = .prepared then
      (.ok .executing, l.put { row with
        status := .executing, ownerId := some ownerId, leaseExpiresAt := some (now + leaseSeconds) })
    else (.ok row.status, l)

/-- `MailDeliveryLedger.finalize`: EXECUTING becomes terminal; a terminal row stays and is
reported. -/
def finalize (l : Ledger) (id envelopeDigest : String) (result : DeliveryResult) :
    Except Exn MailDeliveryStatus × Ledger :=
  if result.status.terminal = false then
    (.error (.runtime .mailLedgerState "finalize requires a terminal status"), l)
  else match l.rows id with
  | none => (.error (.runtime .mailLedgerState "unknown local action id"), l)
  | some row =>
    if row.envelopeDigest ≠ envelopeDigest then (.error conflict, l)
    else if row.status.terminal then (.ok row.status, l)
    else if row.status ≠ .executing then
      (.error (.runtime .mailLedgerState "the ledger row is not EXECUTING"), l)
    else
      (.ok result.status, l.put { row with
        status := result.status, recipientResults := result.recipientResults,
        serverCode := result.serverCode, diagnosticCode := result.diagnosticCode })

/-- `MailDeliveryLedger.reconcile`: only an UNKNOWN row of the same account and message is
lifted. -/
def reconcile (l : Ledger) (id accountId messageId : String) (status : MailDeliveryStatus)
    (diagnosticCode : Option String) : Except Exn MailDeliveryStatus × Ledger :=
  if status.terminal = false then
    (.error (.runtime .mailLedgerState "reconciliation requires a terminal status"), l)
  else match l.rows id with
  | none => (.error (.runtime .mailLedgerState "unknown local action id"), l)
  | some row =>
    if row.status = .unknown ∧ row.accountId = accountId ∧ row.messageId = messageId then
      (.ok status, l.put { row with
        status := status, serverCode := pyOr row.serverCode (some "SENT_RECONCILED"),
        diagnosticCode := diagnosticCode })
    else (.ok row.status, l)

/-- `MailDeliveryLedger.heartbeat`: the owner renews its lease on an EXECUTING row. -/
def heartbeat (l : Ledger) (now : Time) (id ownerId : String) (leaseSeconds : Int) : Except Exn Bool × Ledger :=
  if leaseGrantable ownerId leaseSeconds = false then
    (.error (.runtime .mailLedgerState "invalid execution lease"), l)
  else match l.rows id with
  | some row =>
    if row.status = .executing ∧ row.ownerId = some ownerId then
      (.ok true, l.put { row with leaseExpiresAt := some (now + leaseSeconds) })
    else (.ok false, l)
  | none => (.ok false, l)

/-- Whether the recovery sweep takes a row: EXECUTING, its lease run out, its owner not among
the live ones. -/
def stale (now : Time) (activeOwners : List String) (row : MailDeliveryRecord) : Bool :=
  row.status = .executing && row.leaseExpiresAt.any (· ≤ now) && row.ownerId.all (· ∉ activeOwners)

/-- `MailDeliveryLedger.recover_stale_executions`: stale rows become UNKNOWN. -/
def recoverStaleExecutions (l : Ledger) (now : Time) (activeOwners : List String) : Ledger where
  rows id := (l.rows id).map fun row =>
    if stale now activeOwners row then
      { row with status := .unknown, diagnosticCode := some "EXECUTION_LEASE_EXPIRED" }
    else row
  keyed id found h := by
    obtain ⟨row, hrow, rfl⟩ := Option.map_eq_some_iff.mp h
    split <;> exact l.keyed id row hrow

end Ledger

end PersonalAssistant
