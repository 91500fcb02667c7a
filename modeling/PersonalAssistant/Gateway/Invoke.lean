import PersonalAssistant.Approvals.Service

/-!
# `ToolGateway.invoke`

The coroutine of `core/tools/gateway.py`, with the policy check of `core/tools/policy.py` and
the result limits of `core/tools/result_sanitizer.py`. A `try` statement is an `attempt` and
a match on its outcome in the order of the `except` clauses. `asyncio.wait_for` around the
executor is part of the request `execute`: its deadline is one more exception the answer
may be.
-/

namespace PersonalAssistant

open Coro.Prog

/-- The outbox a gateway is composed with, if any. -/
inductive OutboxKind where
  | absent
  | inMemory
  | postgres
  deriving DecidableEq, Repr

/-- `ToolGateway`, with the schema validator it calls: it raises `SchemaValidationError`, or
an error of the Python library on a malformed schema. -/
structure ToolGateway where
  host : Host
  validateJsonSchema : Value → Value → Except Exn Unit
  outbox : OutboxKind
  hasNotifier : Bool
  schemaErrors : ∀ value schema e, validateJsonSchema value schema = .error e →
    (∃ message, e = .domain .schemaValidation message) ∨ ∃ name, e = .other name

/-- `assert value is not None`. -/
def assertSome {α : Type} : Option α → Except Exn α
  | some a => .ok a
  | none => .error (.other "AssertionError")

variable (g : ToolGateway) (descriptor : ToolDescriptor) (call : ToolCall) (context : ToolExecutionContext)
  (intent : Option SideEffectIntent) (binding : ApprovalBinding)

/-- `ToolPolicy.check`. The switch and the frozen probe are read for external writes only. -/
def ToolPolicy.check : GatewayM Unit :=
  let missing := descriptor.requiredCapabilities.filter (· ∉ call.grantedCapabilities)
  if descriptor.id ∉ call.workflowAllowedTools then
    raise (.domain .toolPolicyDenied ("workflow does not allow tool " ++ descriptor.id))
  else if missing ≠ [] then
    raise (.domain .toolPolicyDenied
      ("missing capability grant(s): " ++ ", ".intercalate (missing.insertionSort (· ≤ ·))))
  else if descriptor.risk = .prohibited then
    raise (.domain .prohibitedTool ("R3 tool is permanently prohibited: " ++ descriptor.id))
  else if descriptor.risk = .externalWrite then do
    let stopped : Bool ← request .externalWritesStopped
    if stopped then
      raise (.domain .toolPolicyDenied "external side effects are disabled by the kill switch")
    else return ()
  else pure ()

/-- `DEFAULT_MAX_RESULT_BYTES`. -/
def defaultMaxResultBytes : Nat := 256 * 1024

/-- `sanitize_result`. -/
def sanitizeResult (value : Value) : Except Exn Value := do
  let normalized ← normalizeJson "$" value
  let encoded ← jsonDumps normalized
  if defaultMaxResultBytes < encoded.utf8ByteSize then
    .error (validationError ("tool result is " ++ toString encoded.utf8ByteSize ++
      " bytes; maximum is " ++ toString defaultMaxResultBytes))
  else return normalized

theorem sanitizeResult_encodes {value result : Value} (h : sanitizeResult value = .ok result) :
    ∃ encoded, jsonDumps result = .ok encoded := by
  obtain ⟨normalized, -, h⟩ := bind_eq_ok h
  obtain ⟨encoded, hencoded, h⟩ := bind_eq_ok h
  split at h
  · cases h
  · cases h
    exact ⟨encoded, hencoded⟩

/-- `_finish_terminal_recording`: a started terminal write is finished before a cancellation
of the caller is raised, and the cancellation hides what the write raised. -/
def finishTerminalRecording (recording : GatewayM Unit) : GatewayM Unit := do
  let outcome ← attempt (shield recording)
  let cancelled : Bool ← request .cancelRequested
  if cancelled then raise .cancelled else ofExcept outcome

namespace ToolGateway

/-- `ToolGateway._approval_binding`. -/
def approvalBinding : Except Exn (Option ApprovalBinding) :=
  if descriptor.risk ≠ .externalWrite then .ok none
  else match call.target with
  | .none => .error (validationError "R2 external writes require an explicit target")
  | target => do
    let binding ← ApprovalBinding.check {
      actionType := descriptor.id
      taskId := call.taskId
      toolId := descriptor.id
      toolVersion := descriptor.version
      extensionId := descriptor.extensionId
      extensionVersion := descriptor.extensionVersion
      target := target
      payload := .dict call.arguments
      attachments := call.attachments
      formVersion := .ofOption call.formVersion }
    return some binding

/-- The first `try` of `invoke`. -/
def admitCall : GatewayM (ToolDescriptor × Option ApprovalBinding) := do
  let snapshot : RegistrySnapshot ← request .registrySnapshot
  let descriptor ← ofExcept (snapshot.resolve call.toolId call.toolVersion)
  ofExcept (g.validateJsonSchema (.dict call.arguments) descriptor.inputSchema)
  ToolPolicy.check descriptor call
  let binding ← ofExcept (approvalBinding descriptor call)
  return (descriptor, binding)

/-- The notification of a prepared approval: delivery that fails changes only the notice. -/
def notifyPending (g : ToolGateway) (call : ToolCall) (notice : String) : GatewayM String :=
  if g.hasNotifier then do
    match ← attempt (request (.notifyPending call.taskId "R2")) with
    | .ok _ => return notice
    | .error .cancelled => raise .cancelled
    | .error _ => return notice ++ "; notification delivery is unconfirmed"
  else pure notice

/-- The exit of `invoke` for an external call without an approval: one is prepared. -/
def prepareApproval : GatewayM ToolOutcome := do
  let approval ← ApprovalService.prepare g.host binding none ApprovalService.maxApprovalTtl
  let message ← g.notifyPending call "exact approval is required before this action"
  return {
    kind := .approvalRequired
    approvalId := some approval.id
    referenceId := some approval.id
    message := some message }

/-- `call.idempotency_key or call.approval_id or str(uuid.uuid4())`. -/
def idempotencyKey (call : ToolCall) : GatewayM String :=
  match pyOr (pyOr call.idempotencyKey call.approvalId) none with
  | some key => pure key
  | none => request .uuid4

/-- `ToolGateway._side_effect_intent`. -/
def sideEffectIntent : GatewayM SideEffectIntent := do
  let id ← request .uuid4
  let key ← idempotencyKey call
  let payloadSha256 ← ofExcept (canonicalSha256 g.host (.dict call.arguments))
  let createdAt ← request .utcNow
  let fingerprint ← ofExcept (canonicalSha256 g.host binding.envelope)
  return {
    id := id
    taskId := call.taskId
    toolId := descriptor.id
    idempotencyKey := key
    approvalId := call.approvalId.getD ""
    canonicalPayloadSha256 := payloadSha256
    state := .prepared
    createdAt := createdAt
    actionFingerprint := fingerprint }

/-- The `try` of `invoke` that consumes the approval: the intent, when there is an outbox. -/
def consume (approvalId : String) : GatewayM (Option SideEffectIntent) := do
  match g.outbox with
  | .absent =>
    let _ ← ApprovalService.consumeForExecution g.host approvalId binding none
    return none
  | .inMemory =>
    let intent ← g.sideEffectIntent descriptor call binding
    InMemorySideEffectOutbox.createWithApprovalConsumption g.host intent
    return some intent
  | .postgres =>
    let intent ← g.sideEffectIntent descriptor call binding
    request (.createWithApprovalConsumption intent)
    return some intent

/-- `ToolGateway._finalize_external_impl`. -/
def finalizeExternalImpl (approvalId : String) (intent : Option SideEffectIntent)
    (terminal : TerminalRecord) : GatewayM Unit :=
  match intent, g.outbox with
  | some intent, .postgres => request (.finalize intent.id approvalId terminal)
  | some intent, .inMemory => InMemorySideEffectOutbox.finalize intent.id approvalId terminal
  | _, _ => do
    let _ ← ApprovalService.markTerminal approvalId terminal
    return ()

/-- `ToolGateway._finalize_external`. -/
def finalizeExternal (approvalId : String) (intent : Option SideEffectIntent)
    (terminal : TerminalRecord) : GatewayM Unit :=
  finishTerminalRecording (g.finalizeExternalImpl approvalId intent terminal)

/-- `ToolGateway._mark_unknown_external`. -/
def markUnknownExternal (referenceId : String)
    (intent : Option SideEffectIntent) : GatewayM Unit :=
  match call.approvalId with
  | none => pure ()
  | some approvalId => g.finalizeExternal approvalId intent {
      state := .unknown, resultReference := some referenceId, diagnosticCode := some referenceId }

/-- `ToolGateway._mark_definitive_external_failure`. Unlike `_unknown`, it does not look at
the risk of the tool. -/
def markDefinitiveExternalFailure (reason : String)
    (intent : Option SideEffectIntent) : GatewayM Unit :=
  match call.approvalId with
  | none => pure ()
  | some approvalId => g.finalizeExternal approvalId intent {
      state := .failed, failureReason := some reason, diagnosticCode := some (takeChars 200 reason) }

/-- An `InvocationAuditEvent` of a call, stamped with the clock, and its append. -/
def audit (eventType : String) (detail : Value) : GatewayM Unit := do
  let occurredAt ← request .utcNow
  request (.appendAudit {
    eventType := eventType
    attemptId := context.attemptId
    taskId := call.taskId
    toolId := descriptor.id
    toolVersion := descriptor.version
    extensionId := descriptor.extensionId
    risk := descriptor.risk.value
    occurredAt := occurredAt
    detail := detail })

/-- `ToolGateway._audit_outcome`. -/
def auditOutcome (eventType message : String) : GatewayM Unit :=
  audit descriptor call context eventType (.dict [("message", .str (takeChars 500 message))])

/-- `ToolGateway._unknown`. -/
def unknown (g : ToolGateway) (descriptor : ToolDescriptor) (call : ToolCall)
    (context : ToolExecutionContext) (referenceId message : String)
    (intent : Option SideEffectIntent) : GatewayM ToolOutcome := do
  (if descriptor.risk = .externalWrite ∧ call.approvalId ≠ none then
    g.markUnknownExternal call referenceId intent
  else pure () : GatewayM Unit)
  auditOutcome descriptor call context "OUTCOME_UNKNOWN" message
  return .unknown referenceId (some message)

/-- `ToolGateway._failed`. -/
def failed (descriptor : ToolDescriptor) (call : ToolCall) (context : ToolExecutionContext)
    (message : String) (retryable : Bool) : GatewayM ToolOutcome := do
  auditOutcome descriptor call context "FAILED" message
  return .failed message retryable

/-- The inner `try` of `invoke`: the policy is checked again just before the execution. -/
def recheckPolicy : GatewayM Unit := do
  match ← attempt (ToolPolicy.check descriptor call) with
  | .ok _ => return ()
  | .error exc =>
    if exc.isDomainError then
      raise (.definitiveToolFailure "host policy changed before execution" false)
    else raise exc

/-- The body of the second `try` of `invoke`. -/
def dispatch : GatewayM Value := do
  recheckPolicy descriptor call
  let raw ← request (.execute descriptor call.arguments context)
  let result ← ofExcept (sanitizeResult raw)
  ofExcept (g.validateJsonSchema result descriptor.outputSchema)
  return result

/-- The `except` clauses of the second `try` of `invoke`, in their order. -/
def recover : Exn → GatewayM ToolOutcome
  | .outcomeUnknown referenceId message =>
    g.unknown descriptor call context referenceId message intent
  | .timeout _ _ =>
    if descriptor.risk = .externalWrite then
      g.unknown descriptor call context ("unknown:" ++ context.attemptId)
        "external action timed out after execution began" intent
    else
      failed descriptor call context
        ("tool timed out after " ++ g.host.formatG descriptor.timeoutSeconds ++ " seconds") true
  | .userActionRequired message => do
    g.markDefinitiveExternalFailure call message intent
    auditOutcome descriptor call context "USER_ACTION_REQUIRED" message
    return {
      kind := .userActionRequired, message := some message, referenceId := some context.attemptId }
  | .extensionUnavailable extensionId message => do
    g.markDefinitiveExternalFailure call message intent
    auditOutcome descriptor call context "EXTENSION_UNAVAILABLE" message
    return {
      kind := .extensionUnavailable, message := some message, extensionId := some extensionId,
      referenceId := some context.attemptId }
  | .definitiveToolFailure message retryable => do
    g.markDefinitiveExternalFailure call message intent
    failed descriptor call context message (retryable && descriptor.risk ≠ .externalWrite)
  | .cancelled => do
    (if descriptor.risk = .externalWrite then
      g.markUnknownExternal call ("unknown:" ++ context.attemptId) intent
    else pure () : GatewayM Unit)
    raise .cancelled
  | exc =>
    if descriptor.risk = .externalWrite then
      g.unknown descriptor call context ("unknown:" ++ context.attemptId)
        "executor failed after external execution began; outcome is unknown" intent
    else failed descriptor call context ("executor error: " ++ exc.typeName) true

/-- The lines of `invoke` after the second `try`. -/
def conclude (result : Value) : GatewayM ToolOutcome := do
  request (.encodeResult result)
  let encoded ← ofExcept (jsonDumps result)
  let resultReference := "result:" ++ g.host.sha256Hex encoded
  (match descriptor.risk, call.approvalId with
    | .externalWrite, some approvalId => g.finalizeExternal approvalId intent {
        state := .succeeded, resultReference := some resultReference,
          receipt := some [("reference", .str resultReference)] }
    | _, _ => pure () : GatewayM Unit)
  auditOutcome descriptor call context "SUCCEEDED" resultReference
  return { kind := .success, result := result, referenceId := some resultReference }

/-- `invoke` from the attempt id on, with the approval consumed where one is needed. -/
def perform : GatewayM ToolOutcome := do
  let attemptId ← request .uuid4
  let context : ToolExecutionContext := {
    attemptId := attemptId
    taskId := call.taskId
    idempotencyKey := (pyOr (pyOr call.idempotencyKey call.approvalId) none).getD attemptId
    approvalId := call.approvalId }
  -- this append stands outside every `try`
  audit descriptor call context "INTENT_RECORDED" (.dict [("approval_id", .ofOption call.approvalId)])
  match ← attempt (g.dispatch descriptor call context) with
  | .ok result => g.conclude descriptor call context intent result
  | .error exc => g.recover descriptor call context intent exc

/-- `ToolGateway.invoke`. -/
def invoke : GatewayM ToolOutcome := do
  match ← attempt (g.admitCall call) with
  | .error exc => if exc.isDomainError then return .failed exc.codeAndText else raise exc
  | .ok (descriptor, binding) =>
    if descriptor.risk = .externalWrite then
      let binding ← ofExcept (assertSome binding)
      match call.approvalId with
      | none => g.prepareApproval call binding
      | some approvalId =>
        match ← attempt (g.consume descriptor call binding approvalId) with
        | .error exc => if exc.isDomainError then return .failed exc.codeAndText else raise exc
        | .ok intent => g.perform descriptor call intent
    else g.perform descriptor call none

end ToolGateway

/-! ## A small host

One external tool on a host whose library functions are constant, for runs on fixed inputs. -/

/-- Every digest is zero, and every JSON text is an action of the task. -/
def sampleHost : Host where
  sha256Hex _ := "0000000000000000000000000000000000000000000000000000000000000000"
  jsonLoads _ := .ok (.dict [("task_id", .str "task")])
  formatG _ := "60"
  sha256Hex_length _ := by decide
  sha256Hex_hex _ := by decide

/-- A tool of the given risk. -/
def sampleTool (risk : RiskLevel) : ToolDescriptor where
  id := "mail.send"
  version := "1"
  extensionId := "mail"
  inputSchema := .dict []
  outputSchema := .dict []
  risk := risk
  extensionVersion := "1"
  requiredCapabilities := []
  timeoutSeconds := 60
  identified := by decide
  bounded := by constructor <;> norm_num

/-- A call of that tool, with the approval it names. -/
def sampleCall (approvalId : Option String) : ToolCall where
  toolId := "mail.send"
  toolVersion := "1"
  arguments := [("to", .str "recipient")]
  taskId := "task"
  target := .str "recipient"
  attachments := []
  grantedCapabilities := []
  workflowAllowedTools := ["mail.send"]
  approvalId := approvalId
  idempotencyKey := none
  formVersion := none
  identified := by decide

/-- A gateway that accepts every schema. -/
def sampleGateway (outbox : OutboxKind) : ToolGateway where
  host := sampleHost
  validateJsonSchema _ _ := .ok ()
  outbox := outbox
  hasNotifier := false
  schemaErrors := nofun

/-- Answers of that host: the executor and the audit log answer as given, everything else is
fine, and every fresh id is the same. -/
def sampleAnswers (risk : RiskLevel) (executor : Except Exn Value) (audit : String → Except Exn Unit) :
    (op : GatewayOp) → Except Exn op.Ans
  | .createApproval _ | .createWithApprovalConsumption _ | .finalize _ _ _ | .acquireLock | .releaseLock
  | .rememberIntent _ | .finishIntent _ _ _ | .notifyPending _ _ | .encodeResult _ => .ok ()
  | .getApproval id => .error (notFoundError id)
  | .saveApproval record _ => .ok record
  | .keyUsed _ => .ok false
  | .utcNow => .ok (0 : Int)
  | .uuid4 => .ok "a"
  | .tokenUrlsafe => .ok "nonce"
  | .registrySnapshot => .ok { generation := 1, tools := [sampleTool risk] }
  | .externalWritesStopped => .ok false
  | .appendAudit event => audit event.eventType
  | .execute _ _ _ => executor
  | .cancelRequested => .ok false

theorem sampleAnswers_total (risk : RiskLevel) (executor : Except Exn Value) (audit : String → Except Exn Unit)
    (op : GatewayOp) (h : op.total) : ∃ x, sampleAnswers risk executor audit op = .ok x := by
  cases op <;> first | exact ⟨_, rfl⟩ | cases h

end PersonalAssistant
