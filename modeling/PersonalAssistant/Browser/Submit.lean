import PersonalAssistant.Browser.Broker

/-!
# Submission and reconciliation

The rest of `BrowserSessionBroker`: `execute_submit`, which saves EXECUTING, clicks once and
records every doubt as UNKNOWN, `reconcile`, which proves success by a reference that was not
on the tracking page before, and the ways a session is closed; then `browser.submit` of
`BrowserActionExecutor`, which renames what the broker raises for the gateway.
-/

namespace PersonalAssistant

open Coro.Prog

/-- `form_payload_sha256`: the digest of the pairs in order. -/
def formPayloadSha256 (host : Host) (pairs : List (String × String)) : String :=
  let sorted := pairs.insertionSort fun a b => a.1 < b.1 ∨ (a.1 = b.1 ∧ a.2 ≤ b.2)
  host.sha256Hex ("[" ++ ",".intercalate (sorted.map fun (key, value) =>
    "[" ++ quoteJson key ++ "," ++ quoteJson value ++ "]") ++ "]")

namespace BrowserSessionBroker

variable (broker : BrowserSessionBroker) (record : BrowserSessionRecord) (descriptor : TransactionAdapterDescriptor)
  (executing : BrowserSessionRecord)

/-! ## The tracking page -/

/-- The references among the matches a companion collected, each cut to 128 characters. -/
def collectedMatches (collected : Value) : Except Exn (List String) := do
  let items ← ((collected.get? "matches").getD (.tuple [])).iterate
  return items.filterMap fun
    | .str s => some (takeChars 128 s)
    | _ => none

/-- The URL of the tracking page, if the adapter declares one; it must be allowed. -/
def trackingUrl : Except Exn (String × String) := do
  match descriptor.allowedOrigins with
  | [] => .error (.other "IndexError")
  | origin :: _ =>
    let url := origin ++ descriptor.trackingPath
    let decision ← broker.evaluate descriptor.adapterPaths url
    if !decision.allowed then .error (navigationDeniedError decision.reason) else return (origin, url)

/-- What was read of the tracking page: whether it is the declared one, the references on it
and whether some were left out. -/
structure TrackingRead where
  declared : Bool
  references : List String
  truncated : Bool
  deriving DecidableEq, Repr

/-- What the broker makes of the matches collected on the tracking page. -/
def readTracking (origin tracking : String) (answer : Value) : Except Exn TrackingRead := do
  let collected ← requireMapping answer "tracking matches"
  let url ← collected.requireText "url" "tracking url" 2048
  if !(← broker.host.trackingUrlMatches url origin tracking) then return ⟨false, [], false⟩
  return ⟨true, ← collectedMatches collected, ((collected.get? "truncated").getD (.bool false)).truthy⟩

/-- `_tracking_baseline`. -/
def trackingBaseline (sessionId : String) (descriptor : TransactionAdapterDescriptor) : BrowserM ReceiptBaseline := do
  if descriptor.trackingPath = "" ∨ descriptor.receiptPattern = "" then return baselineDocument [] false
  else
    let (origin, url) ← ofExcept (broker.trackingUrl descriptor)
    let answer ← web (.collectMatches sessionId descriptor.receiptPattern 128 url)
    let read ← ofExcept (broker.readTracking origin descriptor.trackingPath answer)
    if read.declared then
      return baselineDocument (read.references.map broker.receiptHash) read.truncated
    else raise (browserPolicyError "TRACKING_URL_MISMATCH" "the tracking page redirected away from its declared target")

/-- The references that were not there before the click, each once. -/
def freshReferences (baseline : ReceiptBaseline) (references : List String) : List String :=
  (references.filter fun item => broker.receiptHash item ∉ baseline.hashes).reverse.dedup.reverse

/-- How `reconcile` judges what it read. -/
inductive Judgement where
  | unsafe_
  | notFound
  | ambiguous
  | found (reference : String)
  deriving DecidableEq, Repr

/-- The judgement: only with both reads complete does one fresh reference prove success. -/
def judgeTracking (baseline : Option ReceiptBaseline) (read : TrackingRead) : Judgement :=
  match baseline with
  | none => .unsafe_
  | some before =>
    if !read.declared || before.truncated || read.truncated then .unsafe_
    else match broker.freshReferences before read.references with
    | [] => .notFound
    | [reference] => .found reference
    | _ => .ambiguous

/-- The receipt that proves a submission. -/
def receiptFor (now : Time)
    (reference : String) : BrowserReceipt :=
  ⟨reference, record.sessionId, record.transactionId, descriptor.adapterId, descriptor.adapterVersion,
    broker.receiptHash reference, now⟩

/-- The save at the end of `reconcile`. -/
def saveJudgement (judgement : Judgement) : BrowserM BrowserSessionRecord := do
  let now : Time ← web .now
  match judgement with
  | .unsafe_ => save { record with updatedAt := now, diagnosticCode := "RECONCILE_UNSAFE" }
  | .notFound => save { record with updatedAt := now, diagnosticCode := "RECONCILE_NOT_FOUND" }
  | .ambiguous => save { record with updatedAt := now, diagnosticCode := "RECONCILE_AMBIGUOUS" }
  | .found reference =>
    let replaced ← ofExcept (record.replaceState .succeeded now)
    save { replaced with
      outcome := "SUCCEEDED", receipt := some (broker.receiptFor record descriptor now reference)
      diagnosticCode := "RECONCILED" }

/-- `reconcile`. -/
def reconcile (sessionId extensionId : String) : BrowserM BrowserSessionRecord := do
  let record ← getSession sessionId extensionId
  if record.state ≠ .unknown then raise (browserSessionStateError "only an UNKNOWN session can be reconciled")
  else
    let descriptor ← requireAdapterFor record record.adapterId record.adapterVersion
    if descriptor.trackingPath = "" ∨ descriptor.receiptPattern = "" then
      raise (browserPolicyError "TRACKING_NOT_CONFIGURED" "the adapter declares no tracking page")
    else
      let (origin, url) ← ofExcept (broker.trackingUrl descriptor)
      let answer ← web (.collectMatches sessionId descriptor.receiptPattern 256 url)
      let read ← ofExcept (broker.readTracking origin descriptor.trackingPath answer)
      broker.saveJudgement record descriptor (broker.judgeTracking record.receiptBaseline read)

/-! ## The click -/

/-- `_converge_submission`. -/
def convergeSubmission (sessionId extensionId : String) : BrowserM SubmissionOutcome := do
  match ← attempt (broker.reconcile sessionId extensionId) with
  | .error .cancelled => raise .cancelled
  | .error _ => return { state := .unknown, diagnosticCode := "SUBMIT_UNVERIFIED" }
  | .ok record =>
    match record.state, record.receipt with
    | .succeeded, some receipt =>
      return { state := .succeeded, receipt := some receipt, reference := receipt.reference }
    | _, _ => return {
        state := .unknown
        diagnosticCode := if record.diagnosticCode = "" then "SUBMIT_OUTCOME_UNKNOWN" else record.diagnosticCode }

/-- `_mark_submit_unknown_and_converge`. -/
def markSubmitUnknownAndConverge (sessionId extensionId diagnosticCode : String) : BrowserM SubmissionOutcome := do
  match ← attempt (saveState executing .unknown fun r => { r with diagnosticCode }) with
  | .error .cancelled => raise .cancelled
  | .error _ => raise (.runtime (.browser .unknownOutcome "")
      "the submit may have reached the site; UNKNOWN persistence failed")
  | .ok _ => broker.convergeSubmission sessionId extensionId

/-- `_settle_submit_outcome`: the settlement is shielded from the caller's cancellation, which
is raised after it. -/
def settleSubmitOutcome (sessionId extensionId diagnosticCode : String) : BrowserM SubmissionOutcome := do
  let outcome ← attempt (shield (broker.markSubmitUnknownAndConverge executing sessionId extensionId diagnosticCode))
  let interrupted : Bool ← web .interrupted
  if interrupted then raise .cancelled else ofExcept outcome

/-- The target of the click. -/
def clickTarget (final : AdapterActionSpec) (preview : TransactionPreview) : ClickTarget where
  actionId := final.actionId
  locator := final.locator
  receiptLocator := descriptor.receiptLocator
  expectedMethod := final.method
  expectedOrigin := final.targetOrigin
  expectedPath := final.targetPath
  expectedPayloadSha256 := formPayloadSha256 broker.host.toHost
    (preview.fields.map fun change => (change.locator, change.newValue))
  expectedPayloadLocators := ",".intercalate (preview.fields.map (·.locator))

/-- The `try` of `execute_submit`: the click, and a definitive rejection. -/
def clickFinal (sessionId : String) (target : ClickTarget) : BrowserM (Option SubmissionOutcome) := do
  let raw ← web (.click sessionId target)
  let outcome ← ofExcept (do
    let result ← requireMapping raw "click result"
    requireStr ((result.get? "outcome").getD (.str "UNKNOWN")) "click outcome" 32)
  if outcome = "REJECTED" then
    let _ ← saveState executing .failed fun r => { r with outcome := "FAILED", diagnosticCode := "SERVER_REJECTED" }
    return some { state := .failed, diagnosticCode := "SERVER_REJECTED" }
  else return none

/-- `execute_submit` once EXECUTING is saved. -/
def submitClick (sessionId extensionId : String) (target : ClickTarget) : BrowserM SubmissionOutcome := do
  match ← attempt (clickFinal executing sessionId target) with
  | .ok (some rejected) => return rejected
  | .ok none => broker.settleSubmitOutcome executing sessionId extensionId "SUBMIT_OUTCOME_UNKNOWN"
  | .error .cancelled =>
    -- the browser may have released the request before the cancellation
    let _ ← attempt (shield
      (broker.markSubmitUnknownAndConverge executing sessionId extensionId "SUBMIT_CANCELLED_AFTER_START"))
    raise .cancelled
  | .error _ => broker.settleSubmitOutcome executing sessionId extensionId "SUBMIT_OUTCOME_LOST"

/-- The tests of `execute_submit` on the stored session. -/
def checkPreview (taskId previewHash previewNonce : String) : Except Exn TransactionPreview :=
  if record.taskId ≠ taskId then .error (browserSessionStateError "the session belongs to another task")
  else if record.state ≠ .previewReady then
    .error (browserSessionStateError "submit requires a preview-ready session")
  else if !broker.submitEnabled then
    .error (browserPolicyError "SUBMIT_DISABLED" "real browser submission is disabled on this host")
  else match record.preview with
  | none => .error (browserSessionStateError "the session has no stored preview")
  | some preview =>
    if record.previewHash = "" ∨ record.previewNonce = "" then
      .error (browserSessionStateError "the session has no stored preview")
    else if record.previewHash ≠ previewHash then
      .error (previewExpiredError "the submitted preview hash does not match")
    else if record.previewNonce ≠ previewNonce then
      .error (previewExpiredError "the submitted preview nonce does not match")
    else .ok preview

/-- The final action, if it is the one asked for. -/
def finalActionFor (actionId : String) : Except Exn AdapterActionSpec :=
  match descriptor.finalAction with
  | none => .error (browserPolicyError "ACTION_NOT_ALLOWED" "the action is not the final submit")
  | some final =>
    if final.actionId ≠ actionId then
      .error (browserPolicyError "ACTION_NOT_ALLOWED" "the action is not the final submit")
    else if final.risk = .prohibited then
      .error (prohibitedTransactionError "PROHIBITED_SEMANTICS" "PROHIBITED_SEMANTICS")
    else .ok final

/-- The preview is of another target than the adapter declares. -/
def targetDrifted (preview : TransactionPreview) (final : AdapterActionSpec) : Bool :=
  preview.targetActionId ≠ final.actionId || broker.host.upper preview.targetMethod ≠ broker.host.upper final.method ||
    preview.targetOrigin ≠ final.targetOrigin || preview.targetPath ≠ final.targetPath

/-- `execute_submit` once the page was verified: APPROVED, EXECUTING, click. -/
def approveAndClick (extensionId ownerId : String) (now : Time)
    (baseline : ReceiptBaseline) (target : ClickTarget) : BrowserM SubmissionOutcome := do
  let replaced ← ofExcept (record.replaceState .approved now)
  let approved ← save replaced
  let executing ← saveState approved .executing fun r =>
    { r with submitCount := record.submitCount + 1, ownerId, receiptBaseline := some baseline }
  broker.submitClick executing record.sessionId extensionId target

/-- `execute_submit` once the page was read. -/
def submitPage (extensionId ownerId : String) (now : Time)
    (descriptor : TransactionAdapterDescriptor) (final : AdapterActionSpec) (preview : TransactionPreview)
    (baseline : ReceiptBaseline) (snapshot : PageSnapshot) : BrowserM SubmissionOutcome :=
  if snapshot.fingerprint ≠ preview.pageFingerprint then
    pauseAndRaise record "PAGE_FINGERPRINT_DRIFT" (pageDriftError "the page changed after the preview was generated")
  else if preview.fields.any fun change =>
      (snapshot.fieldById change.fieldId).map (·.value) ≠ some change.newValue then
    pauseAndRaise record "PREVIEW_DRIFT" (pageDriftError "a field changed after the preview was generated")
  else if (pageRisk descriptor snapshot).aboveDeclared descriptor.declaredRisk then
    pauseAndRaise record "PROHIBITED_SEMANTICS"
      (prohibitedTransactionError "PROHIBITED_SEMANTICS" "PROHIBITED_SEMANTICS")
  else broker.approveAndClick record extensionId ownerId now baseline (broker.clickTarget descriptor final preview)

/-- `execute_submit`. -/
def executeSubmit (sessionId taskId extensionId previewHash previewNonce actionId ownerId : String) :
    BrowserM SubmissionOutcome := do
  let record ← getSession sessionId extensionId
  let preview ← ofExcept (broker.checkPreview record taskId previewHash previewNonce)
  let now : Time ← web .now
  ofExcept (preview.requireFresh now)
  let descriptor ← requireAdapterFor record record.adapterId record.adapterVersion
  let final ← ofExcept (finalActionFor descriptor actionId)
  if broker.targetDrifted preview final then
    pauseAndRaise record "SUBMIT_TARGET_DRIFT" (pageDriftError "the submission target changed after the preview")
  else
    let baseline ← broker.trackingBaseline record.sessionId descriptor
    let snapshot ← broker.snapshotImpl record (some descriptor) record.transactionId
    broker.submitPage record extensionId ownerId now descriptor final preview baseline snapshot

/-! ## The end of a session -/

/-- `close_session` and `cancel_session`, with the request to the companion and the outcome. -/
def endSession (sessionId extensionId outcome : String) (request : BrowserM Unit) : BrowserM Unit := do
  let record ← getSession sessionId extensionId
  let ended ← attempt request
  if .cancelled ∈ record.state.allowedTransitions then
    let _ ← saveState record .cancelled fun r => { r with outcome }
    ofExcept ended
  else ofExcept ended

/-- `close_session`. -/
def closeSession (sessionId extensionId : String) : BrowserM Unit :=
  endSession sessionId extensionId "CLOSED" (web (.closePage sessionId))

/-- `cancel_session`. -/
def cancelSession (sessionId extensionId : String) : BrowserM Unit :=
  endSession sessionId extensionId "CANCELLED" (web (.cancelPage sessionId))

/-- `recover_stale_sessions`. -/
def recoverStaleSessions (activeOwners : List String) : BrowserM (List String) :=
  web (.recoverStaleExecutions activeOwners)

end BrowserSessionBroker

/-! ## The executor -/

namespace BrowserActionExecutor

variable (broker : BrowserSessionBroker)

/-- `_text` of a required argument. -/
def text (arguments : List (String × Value)) (name : String) : Except Exn String :=
  match (Value.dict arguments).get? name with
  | some (.str value) =>
    if value.length > 2048 then
      .error (.definitiveToolFailure ("BROWSER_ARGUMENTS_INVALID: " ++ name ++ " is too long") false)
    else if value = "" then
      .error (.definitiveToolFailure ("BROWSER_ARGUMENTS_INVALID: " ++ name ++ " is required") false)
    else .ok value
  | _ => .error (.definitiveToolFailure ("BROWSER_ARGUMENTS_INVALID: " ++ name ++ " must be a string") false)

/-- `_code` of a browser error. -/
def code (kind : BrowserErrorKind) (reason : String) : String := if reason = "" then kind.code else reason

/-- `_message` of a browser error. -/
def message (shown : String) : String := if shown = "" then "the browser action failed" else takeChars 300 shown

/-- `asyncio.wait_for`: the deadline cancels the body, and its cancellation leaves as
`TimeoutError`. -/
def waitFor {α : Type} (body : BrowserM α) : BrowserM α := do
  match ← attempt body with
  | .error .cancelled =>
    let expired : Bool ← web .expired
    if expired then raise (.timeout "TimeoutError") else raise .cancelled
  | outcome => ofExcept outcome

/-- The document of a receipt. -/
def receiptDocument (host : BrowserHost) (receipt : BrowserReceipt) : Value :=
  .dict [
    ("reference", .str receipt.reference), ("issued_by", .str "host_tracking"), ("session_id", .str receipt.sessionId),
    ("transaction_id", .str receipt.transactionId), ("adapter_id", .str receipt.adapterId),
    ("adapter_version", .str receipt.adapterVersion), ("reference_sha256", .str receipt.referenceSha256),
    ("observed_at", .str (host.isoformat receipt.observedAt))]

/-- What `_submit` makes of the outcome of the broker. -/
def submitResult (sessionId : String) : Except Exn SubmissionOutcome → Except Exn Value
  | .error (.timeout _ _) =>
    .error (.outcomeUnknown ("browser-submit:" ++ sessionId) "the submission did not finish inside the deadline")
  | .error (.runtime (.browser .unknownOutcome _) _) =>
    .error (.outcomeUnknown ("browser-submit:" ++ sessionId)
      "the submission may have reached the site; reconcile read-only")
  | .error (.runtime (.browser kind reason) shown) =>
    .error (.definitiveToolFailure (code kind reason ++ ": " ++ message shown) false)
  | .error e => .error e
  | .ok outcome =>
    match outcome.state with
    | .unknown => .error (.outcomeUnknown ("browser-submit:" ++ sessionId)
        "the submission outcome is unknown; reconcile read-only")
    | .failed => .error (.definitiveToolFailure ("BROWSER_SUBMIT_FAILED: " ++
        if outcome.diagnosticCode = "" then "server rejected" else outcome.diagnosticCode) false)
    | state => .ok (.dict [
        ("state", .str state.value), ("reference", .str outcome.reference),
        ("receipt", (outcome.receipt.map (receiptDocument broker.host)).getD .none)])

/-- `_submit`. -/
def submit (descriptor : ToolDescriptor) (arguments : List (String × Value)) (context : ToolExecutionContext) :
    BrowserM Value := do
  let sessionId ← ofExcept (text arguments "session_id")
  let previewHash ← ofExcept (text arguments "preview_hash")
  let previewNonce ← ofExcept (text arguments "preview_nonce")
  let actionId ← ofExcept (text arguments "action_id")
  let outcome ← attempt (waitFor (broker.executeSubmit sessionId context.taskId descriptor.extensionId previewHash
    previewNonce actionId context.attemptId))
  ofExcept (submitResult broker sessionId outcome)

end BrowserActionExecutor

end PersonalAssistant
