import PersonalAssistant.Coro.World
import PersonalAssistant.Mail.Ledger

/-!
# What the mail executor awaits

The data of `core/mail/ports.py` that `MailSendExecutor` handles, its requests, and the world
that answers them: the ledger, together with a record of who the mail servers accepted a
message for, which the program cannot see. The broker answers anything, and any recipients
may accept the message while it does.
-/

namespace PersonalAssistant

open Coro

/-- `bytes`. -/
abbrev Bytes : Type := List UInt8

/-- What the executor takes from the Python library and from `mime.py`. -/
structure MailHost extends Host where
  /-- `str.lower`. -/
  lower : String → String
  /-- `hashlib.sha256(data).hexdigest()`. -/
  sha256Bytes : Bytes → String

/-- The fields of `parse_envelope` that `_verify_envelope` reads. -/
structure ParsedEnvelope where
  messageId : Option String
  subject : String
  fromAddress : Option String
  toAddresses : List String
  ccAddresses : List String
  attachmentHashes : List String
  deriving DecidableEq, Repr

/-- `MailAccountRecord`. -/
structure MailAccountRecord where
  accountId : String
  address : String
  imapHost : String
  smtpHost : String
  secretHandleId : String
  imapPort : Int := 993
  smtpPort : Int := 465
  displayName : String := ""
  readEnabled : Bool := true
  sendEnabled : Bool := false
  tlsMode : String := "auto"
  generation : Int := 0
  deriving DecidableEq, Repr

/-- `MailAccountRecord.fingerprint`. -/
def MailAccountRecord.fingerprint (host : Host) (account : MailAccountRecord) : Except Exn String :=
  canonicalSha256 host (.dict [
    ("account_id", .str account.accountId),
    ("address", .str account.address),
    ("imap_host", .str account.imapHost),
    ("imap_port", .int account.imapPort),
    ("smtp_host", .str account.smtpHost),
    ("smtp_port", .int account.smtpPort),
    ("secret_handle_id", .str account.secretHandleId),
    ("display_name", .str account.displayName),
    ("read_enabled", .bool account.readEnabled),
    ("send_enabled", .bool account.sendEnabled),
    ("tls_mode", .str account.tlsMode),
    ("generation", .int account.generation)])

/-- `MailDeliveryRequest`. -/
structure MailDeliveryRequest where
  localActionId : String
  messageId : String
  fromAddress : String
  to_ : List String
  cc : List String := []
  bcc : List String := []
  subject : String := ""
  mimeBytes : Bytes := []
  deriving DecidableEq, Repr

/-- `MailDeliveryReceipt`. -/
structure MailDeliveryReceipt where
  localActionId : String
  messageId : String
  status : MailDeliveryStatus
  recipientResults : List MailRecipientResult := []
  serverCode : Option String := none
  deriving DecidableEq, Repr

/-- `MailDeliveryReceipt.accepted`. -/
def MailDeliveryReceipt.accepted (receipt : MailDeliveryReceipt) : List String :=
  (receipt.recipientResults.filter (·.status = .accepted)).map (·.recipient)

/-- The requests. `parseEnvelope` is the parser of `mime.py`, which raises on messages beyond
its bounds; the heartbeat task is started and drained, and its renewals are steps of the
environment. -/
inductive MailOp where
  | prepare (record : MailDeliveryRecord)
  | beginExecution (id envelopeDigest ownerId : String) (leaseSeconds : Int)
  | finalize (id envelopeDigest : String) (result : DeliveryResult)
  | send (accountId : String) (request : MailDeliveryRequest)
  | resolveAccount (accountId : String)
  | invokeTool (extensionId toolId : String) (arguments : List (String × Value))
      (taskId runId idempotencyKey : String) (deadlineSeconds : Int)
  | readAsHost (artifactId : String)
  | parseEnvelope (raw : Bytes)
  | sendAvailable
  | uuid4
  | monotonic
  | registerOwner (ownerId : String)
  | unregisterOwner (ownerId : String)
  | startHeartbeat (id ownerId : String)
  | drainHeartbeat

/-- The type of each answer. -/
@[reducible] def MailOp.Ans : MailOp → Type
  | prepare _ => MailDeliveryStatus
  | beginExecution _ _ _ _ => MailDeliveryStatus
  | finalize _ _ _ => MailDeliveryStatus
  | send _ _ => MailDeliveryReceipt
  | resolveAccount _ => MailAccountRecord
  | invokeTool _ _ _ _ _ _ _ => Value
  | readAsHost _ => Bytes
  | parseEnvelope _ => ParsedEnvelope
  | sendAvailable => Bool
  | uuid4 => String
  | monotonic => Time
  | registerOwner _ => Unit
  | unregisterOwner _ => Unit
  | startHeartbeat _ _ => Unit
  | drainHeartbeat => Unit

/-- The port of the mail executor. -/
abbrev MailPort : Port := ⟨MailOp, MailOp.Ans⟩

/-- A coroutine of the mail executor. -/
abbrev MailM (α : Type) : Type := Prog MailPort Exn α

/-- Await one request of the mail executor. -/
abbrev mail (op : MailOp) : MailM op.Ans := Prog.perform (P := MailPort) op

/-- An answered request of the mail executor. -/
abbrev MailEvent : Type := Event MailPort Exn

/-- The ledger, and the recipients that accepted the message of each action. -/
structure Post where
  ledger : Ledger
  accepted : List (String × String)

/-- The recipients that accepted the message of an action. -/
def Post.acceptedFor (p : Post) (id : String) : List String := (p.accepted.filter (·.1 = id)).map (·.2)

/-- What an effect depends on: the clock of the ledger, and who accepts a message. -/
structure PostTurn where
  now : Time
  accepting : List String

/-- The ledger and the servers as the world of the mail executor. -/
def mailWorld : World MailPort Exn Post PostTurn where
  effect turn p
    | .prepare record =>
      let result := p.ledger.prepare record
      some (result.1, { p with ledger := result.2 })
    | .beginExecution id digest owner lease =>
      let result := p.ledger.beginExecution turn.now id digest owner lease
      some (result.1, { p with ledger := result.2 })
    | .finalize id digest terminal =>
      let result := p.ledger.finalize id digest terminal
      some (result.1, { p with ledger := result.2 })
    | _ => none
  drift turn p
    | .send _ request =>
      { p with accepted := p.accepted ++ turn.accepting.map (request.localActionId, ·) }
    | _ => p
  total
    | .sendAvailable | .uuid4 | .monotonic | .registerOwner _ | .unregisterOwner _ | .startHeartbeat _ _
    | .drainHeartbeat => true
    | _ => false

theorem mailWorld_own (turn : PostTurn) (p : Post) (op : MailOp) (h : mailWorld.total op) :
    mailWorld.effect turn p op = none := by
  cases op <;> first | rfl | cases h

/-- The requests that neither the ledger nor the mail servers answer. -/
def MailOp.ofHost : MailOp → Bool
  | prepare _ | beginExecution _ _ _ _ | finalize _ _ _ | send _ _ => false
  | _ => true

theorem MailOp.inert_ofHost {op : MailOp} (h : op.ofHost) : mailWorld.Inert op := by
  intro turn p
  cases op <;> first | exact ⟨rfl, rfl⟩ | cases h

/-- What other parts of the host do to the ledger: renew a lease, lift an UNKNOWN row, sweep
the stale ones. -/
inductive LedgerUpkeep : Post → Post → Prop where
  | heartbeat (p : Post) (now : Time) (id ownerId : String) (leaseSeconds : Int) :
      LedgerUpkeep p { p with ledger := (p.ledger.heartbeat now id ownerId leaseSeconds).2 }
  | reconcile (p : Post) (id accountId messageId : String) (status : MailDeliveryStatus)
      (diagnosticCode : Option String) :
      LedgerUpkeep p { p with ledger := (p.ledger.reconcile id accountId messageId status diagnosticCode).2 }
  | recover (p : Post) (now : Time) (activeOwners : List String) :
      LedgerUpkeep p { p with ledger := p.ledger.recoverStaleExecutions now activeOwners }

end PersonalAssistant
