import PersonalAssistant.Mail.Port

/-!
# `MailSendExecutor.execute`

The coroutine of `infrastructure/mail/executor.py`. It checks the approved arguments against
the account registry, the materialized draft and the message bytes, claims the ledger row,
hands the message to the broker and records what came of it.
-/

namespace PersonalAssistant

open Coro Coro.Prog

/-- `raise DefinitiveToolFailure(message)`. -/
abbrev definitive (message : String) : Exn := .definitiveToolFailure message false

/-- The part of `MailPolicy` the executor reads. -/
structure MailPolicy where
  allowedRecipients : List String

variable (x : MailSendExecutor) (expectations : Expectations) (host : MailHost) (value : Option Value)
  (materialized : Value)

/-- `MailPolicy.recipient_allowed`. -/
def MailPolicy.recipientAllowed (policy : MailPolicy) (address : String) : Bool :=
  host.lower (strip address) ∈ policy.allowedRecipients

/-- `MailSendExecutor`; durations in microseconds. -/
structure MailSendExecutor where
  host : MailHost
  policy : Option MailPolicy
  callDeadline : Int
  leaseOverride : Option Int
  hasOwners : Bool
  ownerId : String

/-- `_Expectations`. -/
structure Expectations where
  localActionId : String
  accountId : String
  accountFingerprint : String
  draftId : String
  draftVersion : Int
  messageId : String
  fromAddress : String
  to_ : List String
  cc : List String
  bcc : List String
  subject : String
  mimeSha256 : String
  attachmentHashes : List String
  deriving DecidableEq, Repr

/-! ## Arguments

The helpers that read an argument fail with the text of their `ValueError`. -/

/-- `_text`. -/
def textOf (allowEmpty : Bool) : Except String String :=
  match value with
  | some (.str s) =>
    if isBlank s ∧ allowEmpty = false then .error "expected a non-empty string"
    else if 512 < s.length then .error "value is too long"
    else if '\r' ∈ s.toList ∨ '\n' ∈ s.toList then .error "value must not contain CR/LF"
    else .ok s
  | _ => .error "expected a non-empty string"

/-- `_digest`. -/
def digestOf : Except String String :=
  match value with
  | some (.str s) =>
    if s.length ≠ 64 then .error "sha256 digest is required"
    else if s.toList.all (fun c => "0123456789abcdef".toList.contains c) then .ok s
    else .error "sha256 digest must be lowercase hexadecimal"
  | _ => .error "sha256 digest is required"

/-- `_digests`. -/
def digestsOf (value : Value) : Except String (List String) :=
  match value with
  | .list items | .tuple items =>
    if 64 < items.length then .error "too many attachments"
    else items.mapM fun item => digestOf (some item)
  | _ => .error "expected a list of sha256 digests"

/-- The loop of `_addresses`: the first spelling of each address, in order. -/
def addressLoop (host : MailHost) : List Value → List String → List String → Except String (List String)
  | [], _, normalized => .ok normalized
  | item :: items, seen, normalized => do
    let address ← textOf (some item) false
    if '@' ∉ address.toList then .error "recipient is not an email address"
    else if host.lower address ∈ seen then addressLoop host items seen normalized
    else addressLoop host items (host.lower address :: seen) (normalized ++ [address])

/-- `_addresses`; a missing value is `None`. -/
def addressesOf : Except String (List String) := do
  let items ← match value with
    | none | some .none => .ok []
    | some (.str s) => .ok [.str s]
    | some (.list items) | some (.tuple items) => .ok items
    | some _ => .error "recipients must be a list of addresses"
  let normalized ← addressLoop host items [] []
  if 100 < normalized.length then .error "too many recipients" else return normalized

/-- The `draft_version` of the arguments: an integer from 1 on, and not a Boolean. -/
def draftVersionOf : Except String Int :=
  match value with
  | some (.int n) => if n < 1 then .error "draft_version is invalid" else .ok n
  | _ => .error "draft_version is invalid"

/-- The `try` of `_expectations`. -/
def readExpectations (arguments : Value) : Except String Expectations := do
  let localActionId ← textOf (arguments.get? "local_action_id") false
  let accountId ← textOf (arguments.get? "account_id") false
  let accountFingerprint ← digestOf (arguments.get? "account_fingerprint")
  let draftId ← textOf (arguments.get? "draft_id") false
  let draftVersion ← draftVersionOf (arguments.get? "draft_version")
  let messageId ← textOf (arguments.get? "message_id") false
  let fromAddress ← textOf (arguments.get? "from_address") false
  let to_ ← addressesOf host (arguments.get? "to")
  let cc ← addressesOf host (arguments.get? "cc")
  let bcc ← addressesOf host (arguments.get? "bcc")
  let subject ← textOf (arguments.get? "subject") true
  let mimeSha256 ← digestOf (arguments.get? "mime_sha256")
  let attachmentHashes ← digestsOf ((arguments.get? "attachment_hashes").getD (.list []))
  return {
    localActionId, accountId, accountFingerprint, draftId, draftVersion, messageId, fromAddress,
    to_, cc, bcc, subject, mimeSha256, attachmentHashes }

/-- `_expectations`. -/
def expectationsOf (arguments : List (String × Value)) (context : ToolExecutionContext) : Except Exn Expectations :=
  match readExpectations host (.dict arguments) with
  | .error message => .error (definitive ("invalid send arguments: " ++ message))
  | .ok expectations =>
    if context.idempotencyKey ≠ expectations.localActionId then
      .error (definitive "the local action id must equal the gateway idempotency key")
    else if expectations.to_ = [] ∧ expectations.cc = [] ∧ expectations.bcc = [] then
      .error (definitive "at least one recipient is required")
    else .ok expectations

/-- `_normalized`, as a list whose order does not count. -/
def normalizedSet (items : List String) : List String :=
  ((items.map strip).filter (· ≠ "")).map host.lower

/-- Equality of two `set`s. -/
def sameSet (a b : List String) : Bool := a.all (· ∈ b) && b.all (· ∈ a)

/-- The comparisons of `_verify_envelope`. -/
def compareEnvelope (actual : ParsedEnvelope) (materialized : Value)
    (expectations : Expectations) : Except Exn Unit :=
  if actual.messageId ≠ some expectations.messageId then
    .error (definitive "the message id does not match the approval")
  else if actual.subject ≠ expectations.subject then
    .error (definitive "the subject does not match the approval")
  else if host.lower (actual.fromAddress.getD "") ≠ host.lower expectations.fromAddress then
    .error (definitive "the sender does not match the approval")
  else if sameSet (normalizedSet host actual.toAddresses) (normalizedSet host expectations.to_) = false then
    .error (definitive "the To recipients do not match the approval")
  else if sameSet (normalizedSet host actual.ccAddresses) (normalizedSet host expectations.cc) = false then
    .error (definitive "the Cc recipients do not match the approval")
  else match addressesOf host (materialized.get? "bcc") with
  | .error _ => .error (definitive "the materialized Bcc list is invalid")
  | .ok extensionBcc =>
    if sameSet (normalizedSet host extensionBcc) (normalizedSet host expectations.bcc) = false then
      .error (definitive "the Bcc recipients do not match the approval")
    else match digestsOf ((materialized.get? "attachment_hashes").getD (.list [])) with
    | .error _ => .error (definitive "the materialized attachment list is invalid")
    | .ok extensionHashes =>
      if sameSet extensionHashes expectations.attachmentHashes = false ∨
          sameSet (normalizedSet host actual.attachmentHashes) expectations.attachmentHashes = false then
        .error (definitive "the attachment hashes do not match the approval")
      else .ok ()

/-- The fields that `_view` and `_replay_view` have in common. -/
def viewFields : List (String × Value) :=
  let artifact := match materialized.get? "mime_artifact_id" with | some (.str id) => id | _ => ""
  let texts (l : List String) : Value := .list (l.map .str)
  [("draft_id", .str expectations.draftId),
   ("draft_version", .int expectations.draftVersion),
   ("account_id", .str expectations.accountId),
   ("account_fingerprint", .str expectations.accountFingerprint),
   ("from_address", .str expectations.fromAddress),
   ("mime_artifact_id", .str artifact),
   ("mime_sha256", .str expectations.mimeSha256),
   ("to", texts expectations.to_),
   ("cc", texts expectations.cc),
   ("bcc", texts expectations.bcc),
   ("subject", .str expectations.subject),
   ("attachment_hashes", texts expectations.attachmentHashes)]

/-- `_view`. -/
def viewOf (receipt : MailDeliveryReceipt) (ledgerStatus : MailDeliveryStatus) (expectations : Expectations)
    (materialized : Value) : Value :=
  .dict (viewFields expectations materialized ++ [
    ("local_action_id", .str receipt.localActionId),
    ("message_id", .str receipt.messageId),
    ("status", .str receipt.status.value),
    ("ledger_status", .str ledgerStatus.value),
    ("accepted_recipients", .list (receipt.accepted.map .str)),
    ("recipient_results", .list (receipt.recipientResults.map fun item => .dict [
      ("recipient", .str item.recipient),
      ("status", .str item.status.value),
      ("error_code", .ofOption item.errorCode)])),
    ("server_code", .ofOption receipt.serverCode),
    ("ledger_recorded", .bool true)])

/-- `_replay_view`: what is known of an action that reached a terminal state before. -/
def replayView (state : MailDeliveryStatus) : Except Exn Value :=
  match state with
  | .unknown => .error (.outcomeUnknown expectations.localActionId "the recorded transport outcome is unknown")
  | .failed | .partialDelivery =>
    .error (definitive "the local action id already reached a terminal transport state")
  | _ => .ok (.dict (viewFields expectations materialized ++ [
      ("local_action_id", .str expectations.localActionId),
      ("message_id", .str expectations.messageId),
      ("status", .str state.value),
      ("ledger_status", .str state.value),
      ("accepted_recipients", .list []),
      ("recipient_results", .list []),
      ("server_code", .none),
      ("ledger_recorded", .bool true),
      ("idempotent_replay", .bool true)]))

namespace MailSendExecutor

/-- `_resolve_account` and `_reconfirm_account`, which differ in their texts. -/
def lookupAccount (missing changed : String) : MailM MailAccountRecord := do
  match ← attempt (mail (.resolveAccount expectations.accountId)) with
  | .error (.runtime .mailAccountNotFound _) => raise (definitive missing)
  | .error exc => raise exc
  | .ok account =>
    let fingerprint ← ofExcept (account.fingerprint x.host.toHost)
    if fingerprint ≠ expectations.accountFingerprint then raise (definitive changed) else return account

/-- `MailSendExecutor._resolve_account`. -/
def resolveAccount : MailM MailAccountRecord :=
  x.lookupAccount expectations "the account is not registered with the host"
    "the account binding does not match the host registry"

/-- `MailSendExecutor._reconfirm_account`. -/
def reconfirmAccount : MailM MailAccountRecord :=
  x.lookupAccount expectations "the account was removed from the host registry"
    "the account binding changed after this action was approved"

/-- `MailSendExecutor._materialize`. -/
def materialize (x : MailSendExecutor) (descriptor : ToolDescriptor) (arguments : List (String × Value))
    (context : ToolExecutionContext) : MailM Value := do
  match ← attempt (mail (.invokeTool descriptor.extensionId descriptor.id arguments context.taskId
      context.attemptId context.idempotencyKey x.callDeadline)) with
  | .error .cancelled => raise .cancelled
  | .error _ => raise (definitive "the owning extension could not materialize the approved draft")
  | .ok (.dict result) =>
    match Value.get? (.dict result) "outcome" with
    | some (.str "NEEDS_USER_ACTION") =>
      raise (.userActionRequired "the extension requires user action before this send")
    | some (.str "SUCCEEDED") =>
      match Value.get? (.dict result) "output" with
      | some (.dict output) => return .dict output
      | _ => raise (definitive "the extension returned no send material")
    | _ => raise (definitive "the extension refused to materialize the approved draft version")
  | .ok _ => raise (.other "AttributeError")

/-- `MailSendExecutor._verify_bytes`. -/
def verifyBytes (expectations : Expectations) : MailM Bytes := do
  match materialized.get? "mime_artifact_id" with
  | some (.str artifactId) =>
    if artifactId = "" then raise (definitive "the extension returned no message artifact")
    else match materialized.get? "mime_sha256" with
    | some (.str sha) =>
      if sha ≠ expectations.mimeSha256 then
        raise (definitive "the materialized draft version does not match the approved snapshot")
      else match ← attempt (mail (.readAsHost artifactId)) with
      | .error .cancelled => raise .cancelled
      | .error _ => raise (definitive "the approved message artifact is unavailable")
      | .ok data =>
        if x.host.sha256Bytes data ≠ expectations.mimeSha256 then
          raise (definitive "the approved message bytes failed integrity verification")
        else return data
    | _ => raise (definitive "the materialized draft version does not match the approved snapshot")
  | _ => raise (definitive "the extension returned no message artifact")

/-- What `execute` has when it opens the ledger. -/
structure Checked where
  expectations : Expectations
  materialized : Value
  mimeBytes : Bytes
  account : MailAccountRecord
  envelopeDigest : String

/-- The recipients the policy turns down. -/
def deniedRecipients : List String :=
  match x.policy with
  | none => []
  | some policy => (expectations.to_ ++ expectations.cc ++ expectations.bcc).filter fun recipient =>
      policy.recipientAllowed x.host recipient = false

/-- `execute` up to the ledger: every check of the arguments, the account, the draft and the
bytes. -/
def verify (descriptor : ToolDescriptor) (arguments : List (String × Value))
    (context : ToolExecutionContext) : MailM Checked := do
  if "mail.send" ∉ descriptor.requiredCapabilities then
    raise (definitive "this executor only handles tools that declare the send capability")
  else
    let expectations ← ofExcept (expectationsOf x.host arguments context)
    let resolved ← x.resolveAccount expectations
    if x.host.lower resolved.address ≠ x.host.lower expectations.fromAddress then
      raise (definitive "the sender does not match the registered account")
    else if x.deniedRecipients expectations ≠ [] then
      raise (definitive "recipient is not on the controlled test allowlist")
    else
      let materialized ← x.materialize descriptor arguments context
      let mimeBytes ← x.verifyBytes materialized expectations
      let actual ← mail (.parseEnvelope mimeBytes)
      ofExcept (compareEnvelope x.host actual materialized expectations)
      -- the account may have changed while the extension was asked
      let account ← x.reconfirmAccount expectations
      if account.sendEnabled = false then
        raise (definitive "sending is not enabled for this account")
      else
        let available : Bool ← mail .sendAvailable
        if available = false then raise (definitive "mail sending is disabled by host policy")
        else
          let envelopeDigest ← ofExcept (canonicalSha256 x.host.toHost (.dict arguments))
          return { expectations, materialized, mimeBytes, account, envelopeDigest }

/-- `MailSendExecutor._prepare`. -/
def prepare (record : MailDeliveryRecord) : MailM MailDeliveryStatus := do
  match ← attempt (mail (.prepare record)) with
  | .ok status => return status
  | .error (.runtime .mailLedgerConflict _) =>
    raise (definitive "the local action id is already bound to a different envelope")
  | .error (.runtime .mailLedgerState _) => raise (definitive "the transport ledger rejected the dispatch")
  | .error .cancelled => raise .cancelled
  | .error _ => raise (.outcomeUnknown record.localActionId "the transport ledger is unavailable")

/-- `MailSendExecutor._lease_seconds`. -/
def leaseSeconds : Int :=
  match x.leaseOverride with
  | some lease => max lease 500000
  | none => min (max (x.callDeadline * 2) (120 * 1000000)) (3600 * 1000000)

/-- `MailSendExecutor._begin`. -/
def begin_ (id envelopeDigest ownerId : String) : MailM MailDeliveryStatus := do
  match ← attempt (mail (.beginExecution id envelopeDigest ownerId x.leaseSeconds)) with
  | .ok status => return status
  | .error .cancelled => raise .cancelled
  | .error _ => raise (.outcomeUnknown id "the transport ledger could not record dispatch")

/-- `MailSendExecutor._finalize_failure`: an error of the ledger is dropped. -/
def finalizeFailure (id envelopeDigest diagnosticCode : String) : MailM Unit := do
  match ← attempt (mail (.finalize id envelopeDigest {
      status := .failed, diagnosticCode := some diagnosticCode })) with
  | .error .cancelled => raise .cancelled
  | _ => return ()

/-- The `try` around `broker.send` and its handler. -/
def submit (id envelopeDigest accountId : String) (delivery : MailDeliveryRequest) : MailM MailDeliveryReceipt := do
  match ← attempt (mail (.send accountId delivery)) with
  | .ok receipt => return receipt
  | .error (.runtime kind message) =>
    match kind.mailCode? with
    | some code =>
      finalizeFailure id envelopeDigest code.value
      if code.needsUserAction then
        raise (.userActionRequired "the mail account needs user action before sending")
      else raise (definitive "the mail transport refused the message before submission")
    | none => raise (.runtime kind message)
  | .error exc => raise exc

/-- That `try` with its `finally`: the heartbeat is drained and the owner unregistered however
the submission ends. -/
def transport (id envelopeDigest ownerId accountId : String) (delivery : MailDeliveryRequest) :
    MailM MailDeliveryReceipt := do
  (if x.hasOwners then mail (.registerOwner ownerId) else pure () : MailM Unit)
  mail (.startHeartbeat id ownerId)
  let outcome ← attempt (submit id envelopeDigest accountId delivery)
  mail .drainHeartbeat
  (if x.hasOwners then mail (.unregisterOwner ownerId) else pure () : MailM Unit)
  ofExcept outcome

/-- `MailSendExecutor._complete`. -/
def complete (receipt : MailDeliveryReceipt) (envelopeDigest : String)
    (materialized : Value) : MailM Value := do
  match ← attempt (mail (.finalize receipt.localActionId envelopeDigest {
      status := receipt.status, recipientResults := receipt.recipientResults,
      serverCode := receipt.serverCode })) with
  | .error .cancelled => raise .cancelled
  | .error _ => raise (.outcomeUnknown receipt.localActionId
      "the transport result could not be recorded; outcome is unknown")
  | .ok final =>
    if final.terminal ∧ final ≠ receipt.status then
      raise (.outcomeUnknown receipt.localActionId
        "the transport ledger already held a different terminal state")
    else match receipt.status with
    | .unknown => raise (.outcomeUnknown receipt.localActionId
        "the mail transport could not confirm acceptance; outcome is unknown")
    | .partialDelivery => raise (definitive "the mail transport accepted only part of the recipient list")
    | .failed => raise (definitive "the mail transport rejected the message before delivery")
    | _ => return viewOf receipt final expectations materialized

/-- `execute` from the durable claim on. -/
def dispatch (x : MailSendExecutor) (checked : Checked) (ownerId : String) (claimStarted : Time) : MailM Value := do
  let expectations := checked.expectations
  let account ← x.reconfirmAccount expectations
  if account.sendEnabled = false then
    finalizeFailure expectations.localActionId checked.envelopeDigest MailErrorCode.accountDisabled.value
    raise (definitive "sending was disabled before dispatch")
  else
    let now : Time ← mail .monotonic
    -- the guard counts from the claim, not from here
    if claimStarted + max x.leaseSeconds 0 ≤ now then
      raise (.outcomeUnknown expectations.localActionId "the transport lease expired before dispatch")
    else
      let receipt ← x.transport expectations.localActionId checked.envelopeDigest ownerId account.accountId {
        localActionId := expectations.localActionId
        messageId := expectations.messageId
        fromAddress := expectations.fromAddress
        to_ := expectations.to_
        cc := expectations.cc
        bcc := expectations.bcc
        subject := expectations.subject
        mimeBytes := checked.mimeBytes }
      complete expectations receipt checked.envelopeDigest checked.materialized

/-- `execute` from the ledger on. -/
def deliver (checked : Checked) : MailM Value := do
  let expectations := checked.expectations
  let found ← prepare {
    localActionId := expectations.localActionId
    accountId := checked.account.accountId
    messageId := expectations.messageId
    status := .prepared
    envelopeDigest := checked.envelopeDigest
    mimeSha256 := expectations.mimeSha256 }
  if found.terminal then ofExcept (replayView expectations checked.materialized found)
  else if found = .executing then
    raise (.outcomeUnknown expectations.localActionId
      "a previous dispatch attempt was interrupted; outcome is unknown")
  else
    let hex ← mail .uuid4
    let ownerId := x.ownerId ++ "-" ++ hex
    let claimStarted : Time ← mail .monotonic
    let claimed ← x.begin_ expectations.localActionId checked.envelopeDigest ownerId
    if claimed.terminal then ofExcept (replayView expectations checked.materialized claimed)
    else if claimed ≠ .executing then
      raise (.outcomeUnknown expectations.localActionId "the transport ledger is not executable")
    else x.dispatch checked ownerId claimStarted

/-- `MailSendExecutor.execute`. -/
def execute (descriptor : ToolDescriptor) (arguments : List (String × Value))
    (context : ToolExecutionContext) : MailM Value := do
  let checked ← x.verify descriptor arguments context
  x.deliver checked

end MailSendExecutor

/-- The requests of the checks before the ledger. -/
def MailOp.reads : MailOp → Bool
  | resolveAccount _ | invokeTool _ _ _ _ _ _ _ | readAsHost _ | parseEnvelope _ | sendAvailable => true
  | _ => false

namespace MailSendExecutor

variable {σ : Type} {H : Handler MailPort Exn σ} {G : σ → MailEvent → Prop} {R : σ → σ → Prop} [IsPreorder σ R]
  {x : MailSendExecutor} {expectations : Expectations} {arguments : List (String × Value)}
  {context : ToolExecutionContext} {descriptor : ToolDescriptor}

variable (reads : ∀ op : MailOp, op.reads → Keeps H G R (mail op))

include reads

theorem lookupAccount_keeps {missing changed : String} :
    Keeps H G R (x.lookupAccount expectations missing changed) := by
  refine .bind (.attempt (reads _ rfl)) fun outcome => ?_
  split
  · exact .done _
  · exact .done _
  · exact .bind (.done _) fun _ => .ite (fun _ => .done _) fun _ => .done _

theorem materialize_keeps :
    Keeps H G R (x.materialize descriptor arguments context) := by
  refine .bind (.attempt (reads _ rfl)) fun outcome => ?_
  split
  · exact .done _
  · exact .done _
  · split
    · exact .done _
    · split <;> exact .done _
    · exact .done _
  · exact .done _

theorem verifyBytes_keeps {materialized : Value} :
    Keeps H G R (x.verifyBytes materialized expectations) := by
  unfold verifyBytes
  split
  · refine .ite (fun _ => .done _) fun _ => ?_
    split
    · refine .ite (fun _ => .done _) fun _ => .bind (.attempt (reads _ rfl)) fun outcome => ?_
      split
      · exact .done _
      · exact .done _
      · exact .ite (fun _ => .done _) fun _ => .done _
    · exact .done _
  · exact .done _

/-- The checks before the ledger keep whatever their reads keep. -/
theorem verify_keeps :
    Keeps H G R (x.verify descriptor arguments context) := by
  refine .ite (fun _ => .done _) fun _ => .bind (.done _) fun expectations => ?_
  refine .bind (lookupAccount_keeps reads) fun resolved => .ite (fun _ => .done _) fun _ =>
    .ite (fun _ => .done _) fun _ => ?_
  refine .bind (materialize_keeps reads) fun materialized => .bind (verifyBytes_keeps reads) fun mime => ?_
  refine .bind (reads _ rfl) fun actual => .bind (.done _) fun _ => ?_
  refine .bind (lookupAccount_keeps reads) fun account => .ite (fun _ => .done _) fun _ => ?_
  refine .bind (reads _ rfl) fun available => .ite (fun _ => .done _) fun _ => ?_
  exact .bind (.done _) fun _ => .done _

end MailSendExecutor

/-! ## A small call

One message on a host whose library functions are constant, for runs on fixed inputs. -/

/-- A digest. -/
def sampleDigest : String := "0000000000000000000000000000000000000000000000000000000000000000"

/-- Every digest is zero. -/
def sampleMailHost : MailHost where
  sha256Hex _ := sampleDigest
  jsonLoads _ := .ok .none
  formatG _ := "60"
  sha256Hex_length _ := by decide
  sha256Hex_hex _ := by decide
  lower s := s
  sha256Bytes _ := sampleDigest

/-- An executor with a deadline of a minute. -/
def sampleExecutor : MailSendExecutor where
  host := sampleMailHost
  policy := none
  callDeadline := 60 * 1000000
  leaseOverride := none
  hasOwners := true
  ownerId := "mail-send"

theorem sendTool_identified : ¬ isBlank "mail.send" ∧ ¬ isBlank "1" ∧ ¬ isBlank "mail" ∧ ¬ isBlank "1" := by decide

theorem sendTool_bounded : 0 < (60 : Rat) ∧ (60 : Rat) ≤ 15 * 60 := by constructor <;> norm_num

/-- The send tool. -/
def sampleSendTool : ToolDescriptor where
  id := "mail.send"
  version := "1"
  extensionId := "mail"
  inputSchema := .dict []
  outputSchema := .dict []
  risk := .externalWrite
  extensionVersion := "1"
  requiredCapabilities := ["mail.send"]
  timeoutSeconds := 60
  identified := sendTool_identified
  bounded := sendTool_bounded

/-- The approved arguments. -/
def sampleMailArguments : List (String × Value) := [
  ("local_action_id", .str "action"), ("account_id", .str "account"),
  ("account_fingerprint", .str sampleDigest), ("draft_id", .str "draft"), ("draft_version", .int 1),
  ("message_id", .str "message"), ("from_address", .str "owner@host"),
  ("to", .list [.str "first@host", .str "second@host"]), ("subject", .str "subject"),
  ("mime_sha256", .str sampleDigest)]

/-- The context of the call. -/
def sampleMailContext : ToolExecutionContext where
  attemptId := "attempt"
  taskId := "task"
  idempotencyKey := "action"
  approvalId := some "a"

/-- The account of the owner. -/
def sampleAccount : MailAccountRecord where
  accountId := "account"
  address := "owner@host"
  imapHost := "imap"
  smtpHost := "smtp"
  secretHandleId := "secret"
  sendEnabled := true

/-- Answers of the host: the registry and the broker answer as given, everything else is
fine. -/
def sampleMailAnswers (account : Except Exn MailAccountRecord) (broker : Except Exn MailDeliveryReceipt) :
    (op : MailOp) → Except Exn op.Ans
  | .prepare _ | .beginExecution _ _ _ _ | .finalize _ _ _ => .ok .prepared
  | .send _ _ => broker
  | .resolveAccount _ => account
  | .invokeTool _ _ _ _ _ _ _ => .ok (.dict [("outcome", .str "SUCCEEDED"),
      ("output", .dict [("mime_artifact_id", .str "artifact"), ("mime_sha256", .str sampleDigest)])])
  | .readAsHost _ => .ok []
  | .parseEnvelope _ => .ok {
      messageId := some "message", subject := "subject", fromAddress := some "owner@host",
      toAddresses := ["first@host", "second@host"], ccAddresses := [], attachmentHashes := [] }
  | .sendAvailable => .ok true
  | .uuid4 => .ok "hex"
  | .monotonic => .ok (0 : Int)
  | .registerOwner _ | .unregisterOwner _ | .startHeartbeat _ _ | .drainHeartbeat => .ok ()

theorem sampleMailAnswers_total (account : Except Exn MailAccountRecord) (broker : Except Exn MailDeliveryReceipt)
    (op : MailOp) (h : mailWorld.total op) : ∃ x, sampleMailAnswers account broker op = .ok x := by
  cases op <;> first | exact ⟨_, rfl⟩ | cases h

/-- The receipt of a message that both recipients accepted. -/
def sampleReceipt : MailDeliveryReceipt where
  localActionId := "action"
  messageId := "message"
  status := .succeeded
  recipientResults := [{ recipient := "first@host", status := .accepted },
    { recipient := "second@host", status := .accepted }]

end PersonalAssistant
