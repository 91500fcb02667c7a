import PersonalAssistant.Gateway.Port

/-!
# The approval service

`ApprovalService` of `core/approvals/service.py` and `InMemorySideEffectOutbox` of
`infrastructure/memory/outbox.py`, which is written over it. Every await on the repository,
the clock or a random source is a request; `now` arguments are the optional ones of the
source.
-/

namespace PersonalAssistant

open Coro.Prog

namespace ApprovalService

/-- `MAX_APPROVAL_TTL`, five minutes. -/
def maxApprovalTtl : Int := 5 * 60 * 1000000

/-- `now or utc_now()`. -/
def orNow : Option Time → GatewayM Time
  | some now => pure now
  | none => request .utcNow

/-- `ApprovalService._expire`. -/
def expire (record : ApprovalRecord) : GatewayM ApprovalRecord :=
  if record.isExpirable then do
    ofExcept (record.state.ensureTransition .expired)
    request (.saveApproval { record with
      state := .expired, completedAt := some record.expiresAt,
      failureReason := some "approval expired" } record.version)
  else pure record

/-- `ApprovalService.prepare`. -/
def prepare (host : Host) (binding : ApprovalBinding) (now : Option Time) (ttl : Int) :
    GatewayM ApprovalRecord := do
  let currentTime ← orNow now
  if ttl ≤ 0 ∨ maxApprovalTtl < ttl then
    raise (validationError "approval ttl must be positive and at most 5 minutes")
  else
    let normalized ← ofExcept (normalizeJson "$" binding.envelope)
    let encoded ← ofExcept (canonicalJson normalized)
    let id ← request .uuid4
    let fingerprint ← ofExcept (canonicalSha256 host normalized)
    let nonce ← request .tokenUrlsafe
    let record : ApprovalRecord := {
      id := id, state := .waitingApproval, actionFingerprint := fingerprint,
      canonicalAction := encoded, nonce := nonce, createdAt := currentTime,
      expiresAt := currentTime + ttl }
    request (.createApproval record)
    return record

/-- `ApprovalService.get`. -/
def get (id : String) (now : Option Time) (refreshExpiry : Bool) : GatewayM ApprovalRecord := do
  let record ← request (.getApproval id)
  let currentTime ← orNow now
  if refreshExpiry ∧ record.hasExpired currentTime then expire record
  else return record

/-- `ApprovalService.approve`. -/
def approve (id nonce actorId : String) (now : Option Time) : GatewayM ApprovalRecord := do
  let currentTime ← orNow now
  let record ← request (.getApproval id)
  if record.hasExpired currentTime then
    let _ ← expire record
    raise (.domain .approvalExpired ("approval expired: " ++ id))
  else if record.state ≠ .waitingApproval then
    raise (.domain .approvalState ("approval " ++ id ++ " is " ++ record.state.value ++ ", not waiting"))
  else if isBlank actorId then
    raise (validationError "actor_id is required")
  else if record.nonce ≠ nonce then
    raise (.domain .invalidApprovalNonce "approval nonce does not match")
  else
    ofExcept (record.state.ensureTransition .approved)
    request (.saveApproval { record with
      state := .approved, approvedAt := some currentTime, approvedBy := some actorId } record.version)

/-- `ApprovalService.reject`. -/
def reject (id : String) (now : Option Time) (reason : Option String) : GatewayM ApprovalRecord := do
  let record ← request (.getApproval id)
  if record.state ≠ .waitingApproval ∧ record.state ≠ .approved then
    raise (.domain .approvalState ("approval cannot be rejected from " ++ record.state.value))
  else
    ofExcept (record.state.ensureTransition .cancelled)
    let completedAt ← orNow now
    request (.saveApproval { record with
      state := .cancelled, completedAt := some completedAt,
      failureReason := pyOr reason (some "rejected by user") } record.version)

/-- `ApprovalService.consume_for_execution`. -/
def consumeForExecution (host : Host) (id : String) (binding : ApprovalBinding) (now : Option Time) :
    GatewayM ApprovalRecord := do
  let currentTime ← orNow now
  let record ← request (.getApproval id)
  if record.hasExpired currentTime then
    let _ ← expire record
    raise (.domain .approvalExpired ("approval expired: " ++ id))
  else if record.state ≠ .approved then
    raise (.domain .approvalState ("approval " ++ id ++ " is " ++ record.state.value ++ ", not approved"))
  else
    let presented ← ofExcept (canonicalSha256 host binding.envelope)
    let same ← ofExcept (compareDigest record.actionFingerprint presented)
    if same = false then
      -- drift burns the approval
      ofExcept (record.state.ensureTransition .cancelled)
      let _ ← request (.saveApproval { record with
        state := .cancelled, completedAt := some currentTime,
        failureReason := some "approved action changed after preview" } record.version)
      raise (.domain .approvalBindingMismatch "target, payload, attachment or extension version changed")
    else
      ofExcept (record.state.ensureTransition .executing)
      request (.saveApproval { record with
        state := .executing, consumedAt := some currentTime } record.version)

/-- `ApprovalService._finish`. -/
def finish (id : String) (target : ApprovalState) (now : Option Time)
    (resultReference failureReason : Option String) : GatewayM ApprovalRecord := do
  let record ← request (.getApproval id)
  if record.state ≠ .executing then
    raise (.domain .approvalState ("approval action cannot finish from " ++ record.state.value))
  else
    ofExcept (record.state.ensureTransition target)
    let completedAt ← orNow now
    request (.saveApproval { record with
      state := target, completedAt := some completedAt,
      resultReference := resultReference, failureReason := failureReason } record.version)

/-- `ApprovalService.mark_succeeded`. -/
def markSucceeded (id resultReference : String) : GatewayM ApprovalRecord :=
  finish id .succeeded none (some resultReference) none

/-- `ApprovalService.mark_failed`. -/
def markFailed (id reason : String) : GatewayM ApprovalRecord :=
  finish id .failed none none (some reason)

/-- `ApprovalService.mark_unknown`. -/
def markUnknown (id referenceId : String) : GatewayM ApprovalRecord :=
  finish id .unknown none (some referenceId) none

/-- The last branch of `_finalize_external_impl`, which the in-memory outbox repeats in its
`finalize`: the approval is marked by the state of the intent. -/
def markTerminal (id : String) (terminal : TerminalRecord) : GatewayM ApprovalRecord :=
  match terminal.state with
  | .succeeded => markSucceeded id (terminal.resultReference.getD "")
  | .failed => markFailed id ((pyOr terminal.failureReason none).getD "failed")
  | _ => markUnknown id ((pyOr terminal.resultReference none).getD "unknown")

end ApprovalService

namespace InMemorySideEffectOutbox

/-- `action[key]` where the binding needs a string: a missing key is a `KeyError`, another
type fails on `.strip()`. -/
def stringField (action : Value) (key : String) : Except Exn String :=
  match action.get? key with
  | some (.str s) => .ok s
  | some _ => .error (.other "AttributeError")
  | none => .error (.other "KeyError")

/-- One attachment of `_binding_from_record`. -/
def attachmentOf (item : Value) : Except Exn AttachmentDigest := do
  match item.get? "name", item.get? "sha256", item.get? "size_bytes" with
  | some (.str name), some (.str sha256), some (.int size) => AttachmentDigest.make name sha256 size
  | some _, some _, some _ => .error (.other "AttributeError")
  | _, _, _ => .error (.other "KeyError")

/-- `_binding_from_record`. -/
def bindingFromRecord (host : Host) (record : ApprovalRecord) : Except Exn ApprovalBinding := do
  let action ← host.jsonLoads record.canonicalAction
  let attachments ← match action.get? "attachments" with
    | some (.list items) => items.mapM attachmentOf
    | _ => .ok []
  ApprovalBinding.check {
    actionType := ← stringField action "action_type"
    taskId := ← stringField action "task_id"
    toolId := ← stringField action "tool_id"
    toolVersion := ← stringField action "tool_version"
    extensionId := ← stringField action "extension_id"
    extensionVersion := ← stringField action "extension_version"
    target := (action.get? "target").getD .none
    payload := (action.get? "payload").getD .none
    attachments := attachments
    formVersion := (action.get? "form_version").getD .none }

/-- `async with self._lock`: the lock is released however the body ends. -/
def withLock {α : Type} (body : GatewayM α) : GatewayM α := do
  request .acquireLock
  let outcome ← attempt body
  request .releaseLock
  ofExcept outcome

/-- The body of `create_with_approval_consumption` under the lock. -/
def consumeLocked (host : Host) (intent : SideEffectIntent) : GatewayM Unit := do
  let used : Bool ← request (.keyUsed (intent.toolId, intent.idempotencyKey))
  if used then
    raise (validationError "side-effect intent idempotency key was reused")
  else
    let record ← ApprovalService.get intent.approvalId none true
    if record.state = .expired then
      raise (.domain .approvalExpired ("approval expired: " ++ intent.approvalId))
    else if record.state ≠ .approved then
      raise (.domain .approvalState
        ("approval " ++ intent.approvalId ++ " is " ++ record.state.value ++ ", not approved"))
    else
      let same ← ofExcept (compareDigest record.actionFingerprint intent.actionFingerprint)
      if same = false ∨ Store.boundToTask host record intent.taskId = false then
        let _ ← ApprovalService.reject intent.approvalId none (some "approved action changed after preview")
        raise (.domain .approvalBindingMismatch "target, payload, attachment or extension version changed")
      else
        let binding ← ofExcept (bindingFromRecord host record)
        let _ ← ApprovalService.consumeForExecution host intent.approvalId binding none
        request (.rememberIntent intent)

/-- `InMemorySideEffectOutbox.create_with_approval_consumption`. -/
def createWithApprovalConsumption (host : Host) (intent : SideEffectIntent) : GatewayM Unit :=
  if intent.actionFingerprint = "" then
    raise (validationError "side-effect intent requires the complete action fingerprint")
  else withLock (consumeLocked host intent)

/-- `InMemorySideEffectOutbox.finalize`: the intent first, then the approval. -/
def finalize (intentId approvalId : String) (terminal : TerminalRecord) : GatewayM Unit := do
  withLock (request (.finishIntent intentId terminal.state terminal.receipt))
  let _ ← ApprovalService.markTerminal approvalId terminal
  return ()

/-- `InMemorySideEffectOutbox.mark_succeeded`. -/
def markSucceeded (intentId : String) (receipt : List (String × Value)) : GatewayM Unit :=
  withLock (request (.finishIntent intentId .succeeded (some receipt)))

/-- `InMemorySideEffectOutbox.mark_failed`; the error code is dropped. -/
def markFailed (intentId _errorCode : String) : GatewayM Unit :=
  withLock (request (.finishIntent intentId .failed none))

/-- `InMemorySideEffectOutbox.mark_unknown`; the diagnostic code is dropped. -/
def markUnknown (intentId _diagnosticCode : String) : GatewayM Unit :=
  withLock (request (.finishIntent intentId .unknown none))

end InMemorySideEffectOutbox

end PersonalAssistant
