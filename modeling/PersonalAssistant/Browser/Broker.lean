import PersonalAssistant.Browser.Port

/-!
# The session broker

`BrowserSessionBroker` of `core/browser/session.py` as coroutines over the port: sessions are
created, read, driven through navigation and fill to a preview, submitted by one click, and
reconciled by reading the tracking page. Each operation reads the session, works on its copy,
and saves it under the version it read.
-/

namespace PersonalAssistant

open Coro.Prog

namespace BrowserSessionBroker

variable (broker : BrowserSessionBroker) (record : BrowserSessionRecord) (descriptor : TransactionAdapterDescriptor)
  (plan : FillPlan) (sessionId extensionId transactionId : String)

/-! ## Reading and saving a session -/

/-- `_save`: under the version of the copy in hand. -/
def save : BrowserM BrowserSessionRecord :=
  web (.saveSession record record.version)

/-- `_save(_replace_state(record, target, now, **updates), {})`. -/
def saveState (target : BrowserSessionState)
    (update : BrowserSessionRecord → BrowserSessionRecord) : BrowserM BrowserSessionRecord := do
  let now : Time ← web .now
  let replaced ← ofExcept (record.replaceState target now)
  save (update replaced)

/-- `_expire`. -/
def expire (code : String) : BrowserM BrowserSessionRecord := do
  if record.state.terminal then return record
  else match ← attempt (web (.closePage record.sessionId)) with
  | .error .cancelled => raise .cancelled
  | _ => saveState record .cancelled fun r => { r with outcome := "EXPIRED", diagnosticCode := code }

/-- `get_session`. -/
def getSession (sessionId extensionId : String) : BrowserM BrowserSessionRecord := do
  match ← web (.getSession sessionId) with
  | none => raise (browserSessionStateError "unknown browser session")
  | some record =>
    if record.extensionId ≠ extensionId then
      raise (browserSessionStateError "the session belongs to another extension")
    else if record.state.expirable then
      let now : Time ← web .now
      if record.isExpired now then expire record "SESSION_EXPIRED" else return record
    else return record

/-- `_require_active`. -/
def requireActive : BrowserM Unit := do
  let inactive : Exn := browserSessionStateError "the supervised session is not active for this step"
  if record.state.terminal ∨ record.state = .waitingUser then raise inactive
  else if record.state.expirable then
    let now : Time ← web .now
    if record.isExpired now then raise inactive else return ()
  else return ()

/-- `_pause`. -/
def pause (code : String) : BrowserM Unit := do
  if record.state = .safetyPaused then return ()
  else
    let _ ← saveState record .safetyPaused fun r => { r with diagnosticCode := code }
    return ()

/-- `_pause`, then the exception. -/
def pauseAndRaise {α : Type} (record : BrowserSessionRecord) (code : String) (e : Exn) : BrowserM α := do
  pause record code
  raise e

/-- `_fail`, then the exception. -/
def failAndRaise {α : Type} (record : BrowserSessionRecord) (code : String) (e : Exn) : BrowserM α := do
  if record.state.terminal then raise e
  else
    let _ ← saveState record .failed fun r => { r with diagnosticCode := code }
    raise e

/-- The candidate that `max(candidates, key=updated_at)` picks: the first of the latest. -/
def latestAdapter : List BrowserAdapterRecord → Option BrowserAdapterRecord
  | [] => none
  | item :: rest =>
    match latestAdapter rest with
    | none => some item
    | some best => some (if item.updatedAt < best.updatedAt then best else item)

/-- `_require_adapter`. -/
def requireAdapterFor (adapterId adapterVersion : String) : BrowserM TransactionAdapterDescriptor := do
  if adapterId = "" then raise (browserPolicyError "UNKNOWN_ADAPTER" "an adapter id is required")
  else if record.adapterId ≠ "" ∧ adapterId ≠ record.adapterId then
    raise (browserPolicyError "UNKNOWN_ADAPTER" "another adapter owns this session")
  else
    let version := if adapterVersion = "" then record.adapterVersion else adapterVersion
    let registered ← (if version ≠ "" then web (.getAdapter record.extensionId adapterId version) else do
      let items ← web (.listAdapters record.extensionId)
      return latestAdapter (items.filter (·.adapterId = adapterId)) : BrowserM (Option BrowserAdapterRecord))
    match registered with
    | none => raise (browserPolicyError "UNKNOWN_ADAPTER" "the adapter is not registered")
    | some registered =>
      if registered.descriptor.extensionVersion ≠ record.extensionVersion then
        raise (browserSessionStateError "the extension was upgraded during a supervised session")
      else return registered.descriptor

/-! ## Reading the page -/

/-- `_snapshot_impl` once the page passed its tests: the session follows the page. -/
def followPage (page : RawPage) (origin : String) : BrowserM BrowserSessionRecord := do
  let loginPage := ((page.raw.get? "login_page").getD (.bool false)).truthy
  let state := stateAfterRead record.state loginPage
  if state ≠ record.state ∨ record.url ≠ page.url ∨ record.origin ≠ origin then
    saveState record state fun r => { r with url := page.url, origin }
  else return record

/-- The `PageSnapshot` of a page; links, digest and size are looked at last. -/
def pageSnapshot (page : RawPage) (origin : String) (now : Time) (fields : List PageField)
    (descriptor : Option TransactionAdapterDescriptor) : Except Exn PageSnapshot := do
  let path ← broker.host.pathOnly page.url
  let links ← parseLinks page.links
  let textDigest ← page.raw.requireText "text_digest" "text digest" 64
  let byteSize ← broker.host.getInt page.raw "byte_size"
  let flag (key : String) : Bool := ((page.raw.get? key).getD (.bool false)).truthy
  return {
    sessionId, url := page.url, origin, path, title := page.title, fingerprint := page.fingerprint, capturedAt := now
    fields, actions := broker.parseActions ((page.raw.get? "actions").getD (.tuple [])) descriptor
    signals := broker.parseSignals ((page.raw.get? "signals").getD (.tuple []))
    links, textDigest, byteSize, truncated := flag "truncated", scanIncomplete := flag "scan_incomplete"
    authenticated := !flag "login_page" }

/-- `_snapshot_impl` after the page was judged. -/
def acceptPage (descriptor : Option TransactionAdapterDescriptor) (page : RawPage) : BrowserM PageSnapshot := do
  let fields ← ofExcept (broker.pageFields descriptor page.controls)
  let now : Time ← web .now
  let origin ← ofExcept (broker.host.originOf page.url)
  let record ← followPage record page origin
  ofExcept (broker.pageSnapshot record.sessionId page origin now fields descriptor)

/-- `_snapshot_impl` once the page was read: only a transaction page of the adapter is pinned
to its verified versions. -/
def judgePage (descriptor : Option TransactionAdapterDescriptor) (transactionId : String)
    (page : RawPage) : BrowserM PageSnapshot :=
  match descriptor with
  | none => broker.acceptPage record none page
  | some adapter =>
    if adapter.isTransactionPage transactionId page.decision.path ∧
        page.fingerprint ∉ adapter.allowedPageFingerprints then
      pauseAndRaise record "UNKNOWN_PAGE_VERSION" (prohibitedTransactionError "UNKNOWN_PAGE_VERSION"
        "the live page version is not in the adapter's verified fingerprint set")
    else if ((page.raw.get? "scan_incomplete").getD (.bool false)).truthy then
      pauseAndRaise record "PAGE_TEXT_SCAN_INCOMPLETE" (prohibitedTransactionError "PAGE_TEXT_SCAN_INCOMPLETE"
        "the page text could not be fully scanned; failing closed")
    else broker.acceptPage record (some adapter) page

/-- `_snapshot_impl`. -/
def snapshotImpl (descriptor : Option TransactionAdapterDescriptor)
    (transactionId : String) : BrowserM PageSnapshot := do
  let answer ← web (.snapshot record.sessionId ((descriptor.map (·.forbiddenTerms)).getD []) descriptor.isSome
    ((descriptor.map (·.loginPaths)).getD []))
  let page ← ofExcept (broker.readPage descriptor answer)
  broker.judgePage record descriptor transactionId page

/-! ## Sessions -/

/-- The tests of `create_session`. -/
def checkCreate (taskId extensionId purpose : String) : Except Exn Unit := do
  if broker.originMode = .allowlist ∧ broker.allowedOrigins = [] then
    .error (browserPolicyError "NO_ALLOWED_ORIGINS" "no browser origin is allow-listed; refusing to open a session")
  if taskId = "" ∨ extensionId = "" then
    .error (browserPolicyError "INVALID_SESSION_REQUEST" "task and extension are required")
  if purpose = "" ∨ purpose.length > 500 then
    .error (browserPolicyError "INVALID_SESSION_REQUEST" "a purpose is required")

/-- The sessions of the task that are still there; an expired one is released. -/
def liveCandidates (now : Time) : List BrowserSessionRecord → BrowserM (List BrowserSessionRecord)
  | [] => return []
  | candidate :: rest => do
    if candidate.state.terminal then liveCandidates now rest
    else if candidate.state.expirable ∧ candidate.isExpired now then
      let _ ← expire candidate "SESSION_EXPIRED"
      liveCandidates now rest
    else return candidate :: (← liveCandidates now rest)

/-- A session that is there already, for the extension that asks. -/
def adoptSession : BrowserM BrowserSessionRecord :=
  if record.extensionId ≠ extensionId then raise (browserLimitError "a task already owns an active browser session")
  else return record

/-- `create_session` once the record is stored: the companion opens the page. -/
def openSession (created : BrowserSessionRecord) : BrowserM BrowserSessionRecord := do
  match ← attempt (web (.openPage created.sessionId created.purpose created.taskId created.extensionId)) with
  | .error e =>
    let _ ← saveState created .cancelled id
    raise e
  | .ok payload =>
    let (url, origin) ← ofExcept (do
      if !payload.isMapping then throw (.other "AttributeError")
      let url ← payload.requireText "url" "session url" 2048
      let origin ← payload.requireText "origin" "session origin" 255
      if url ≠ "" ∧ url ≠ "about:blank" then
        let _ ← broker.evaluate [] url
      return (url, origin))
    save { created with url, origin }

/-- `create_session`. -/
def createSession (taskId extensionId extensionVersion purpose ownerId : String) : BrowserM BrowserSessionRecord := do
  ofExcept (broker.checkCreate taskId extensionId purpose)
  let now : Time ← web .now
  let candidates ← web (.findActiveForTask taskId)
  match ← liveCandidates now candidates with
  | record :: _ => adoptSession record extensionId
  | [] =>
    let sessionId : String ← web .newId
    let record : BrowserSessionRecord := {
      sessionId, taskId, extensionId, extensionVersion, purpose, state := .requested, createdAt := now, updatedAt := now
      expiresAt := now + 30 * 60 * 1000000, ownerId }
    match ← attempt (web (.createSession record)) with
    | .ok created => broker.openSession created
    | .error (.domain .alreadyExists message) =>
      -- a concurrent creator won
      let candidates ← web (.findActiveForTask taskId)
      match candidates.find? fun candidate => !candidate.state.terminal && !candidate.isExpired now with
      | some candidate => adoptSession candidate extensionId
      | none => raise (.domain .alreadyExists message)
    | .error e => raise e

/-- `register_adapter`. -/
def registerAdapter : BrowserM BrowserAdapterRecord := do
  ofExcept (broker.host.validateAdapterDescriptor broker.allowedOrigins broker.originMode descriptor)
  let now : Time ← web .now
  let existing ← web (.getAdapter descriptor.extensionId descriptor.adapterId descriptor.adapterVersion)
  web (.upsertAdapter {
    extensionId := descriptor.extensionId, extensionVersion := descriptor.extensionVersion
    adapterId := descriptor.adapterId, adapterVersion := descriptor.adapterVersion, descriptor
    createdAt := (existing.map (·.createdAt)).getD now, updatedAt := now
    version := (existing.map (·.version + 1)).getD 0 })

/-- The state of a session after a navigation. -/
def stateAfterNavigation (state : BrowserSessionState) (loginPage : Bool) : BrowserSessionState :=
  match state, loginPage with
  | .requested, true | .authenticated, true => .waitingUser
  | .waitingUser, false => .authenticated
  | _, _ => state

/-- `navigate`. -/
def navigate (sessionId extensionId adapterId transactionId url : String) : BrowserM PageSnapshot := do
  let record ← getSession sessionId extensionId
  if record.state.terminal then
    raise (browserSessionStateError "the supervised session is not active for this step")
  else
    let descriptor ← requireAdapterFor record adapterId ""
    let decision ← ofExcept (broker.evaluate descriptor.adapterPaths url)
    let repeated := record.visitedPaths.contains decision.path
    if !decision.allowed then raise (navigationDeniedError decision.reason)
    else if repeated ∧ broker.limits.maxRenavigations ≤ record.reNavigations then
      raise (browserLimitError "the session reached its re-navigation limit")
    else
      let answer ← web (.navigate sessionId url descriptor.loginPaths)
      let payload ← ofExcept (requireMapping answer "navigation")
      let loginPage := ((payload.get? "login_page").getD (.bool false)).truthy
      let landed ← ofExcept (requireStr ((payload.get? "url").getD (.str url)) "navigation url" 2048)
      let saved ← saveState record (stateAfterNavigation record.state loginPage) fun r =>
        { r with
          url := landed, origin := decision.origin
          reNavigations := record.reNavigations + if repeated then 1 else 0
          visitedPaths := if repeated then record.visitedPaths else record.visitedPaths ++ [decision.path] }
      broker.snapshotImpl saved (some descriptor) transactionId

/-- `snapshot`. -/
def snapshot (sessionId extensionId adapterId transactionId : String) : BrowserM (PageSnapshot × RiskAssessment) := do
  let record ← getSession sessionId extensionId
  requireActive record
  if adapterId = "" then
    let snapshot ← broker.snapshotImpl record none transactionId
    return (snapshot, assessRisk .read [] [])
  else
    let descriptor ← requireAdapterFor record adapterId ""
    let snapshot ← broker.snapshotImpl record (some descriptor) transactionId
    let (matches_, others) := splitSignals snapshot.signals
    return (snapshot, assessRisk descriptor.declaredRisk matches_ others)

/-- `record_discovery`. -/
def recordDiscovery (appCount : Int) : BrowserM BrowserSessionRecord := do
  let record ← getSession sessionId extensionId
  if appCount < 0 ∨ appCount > 500 then raise (browserLimitError "invalid discovered app count")
  else match record.state with
  | .requested | .authenticated | .discovered => saveState record .discovered fun r => { r with appsCount := appCount }
  | _ => raise (browserSessionStateError "discovery is not valid in the current state")

/-- `record_preparation`. -/
def recordPreparation (adapterId adapterVersion appId transactionId pageFingerprint : String)
    (plannedFields : Int) : BrowserM BrowserSessionRecord := do
  let record ← getSession sessionId extensionId
  requireActive record
  if plannedFields < 0 ∨ plannedFields > broker.limits.maxFields then
    raise (browserLimitError "invalid planned field count")
  else match ← web (.getAdapter extensionId adapterId adapterVersion) with
  | none => raise (browserPolicyError "UNKNOWN_ADAPTER" "the adapter version is not registered")
  | some _ => match record.state with
    | .authenticated | .discovered | .preparing | .previewReady | .safetyPaused =>
      saveState record .preparing fun r =>
        { r with
          adapterId, adapterVersion, appId, transactionId, pageFingerprint
          previewHash := "", previewNonce := "", preview := none }
    | _ => raise (browserSessionStateError "preparation is not valid in the current state")

/-! ## Navigation and fill -/

/-- The tests of `execute_navigation` before the page is read. -/
def navigationActionFor : Except Exn AdapterActionSpec :=
  if transactionId ∉ descriptor.transactionIds then
    .error (browserPolicyError "UNKNOWN_TRANSACTION" "the transaction is not registered")
  else match descriptor.navigationAction transactionId with
  | none => .error (browserPolicyError "NAVIGATION_NOT_DECLARED"
      "the adapter declares no navigation action for this transaction")
  | some action => .ok action

/-- What `execute_navigation` answers. -/
structure NavigationResult where
  sessionId : String
  transactionId : String
  url : String
  path : String
  pageFingerprint : String
  state : BrowserSessionState
  deriving DecidableEq, Repr

/-- `execute_navigation` once the landing page was read. -/
def bindTransaction (descriptor : TransactionAdapterDescriptor)
    (adapterId : String) (action : AdapterActionSpec) (landing : PageSnapshot) : BrowserM NavigationResult := do
  -- the snapshot may have saved the session, so it is read again
  let record ← getSession sessionId extensionId
  let now : Time ← web .now
  let _ ← save { record with
    url := landing.url, adapterId, adapterVersion := descriptor.adapterVersion, transactionId
    pageFingerprint := landing.fingerprint
    visitedPaths := if record.visitedPaths.contains action.navigatesToPath then record.visitedPaths
      else record.visitedPaths ++ [action.navigatesToPath]
    updatedAt := now }
  return ⟨sessionId, transactionId, landing.url, action.navigatesToPath, landing.fingerprint, record.state⟩

/-- `execute_navigation` once the action was found on the live page. -/
def activateTransaction (descriptor : TransactionAdapterDescriptor) (adapterId : String) (action : AdapterActionSpec) :
    BrowserM NavigationResult := do
  let answer ← web (.activate sessionId action.locator action.navigatesToPath)
  let raw ← ofExcept (requireMapping answer "navigation activation")
  let blocked ← ofExcept (broker.host.getInt raw "blocked_mutating_requests")
  if blocked > 0 then
    pauseAndRaise record "NAVIGATION_WRITE_BLOCKED" (browserPolicyError "NAVIGATION_WRITE_BLOCKED"
      "a page-initiated write was blocked during the navigation action")
  else
    let landed ← ofExcept (raw.requireText "url" "landing url" 2048)
    let landingPath ← ofExcept (broker.host.navigationPath landed)
    if landingPath ≠ action.navigatesToPath then
      pauseAndRaise record "NAVIGATION_MISMATCH"
        (pageDriftError "the navigation action landed on an unexpected path")
    else
      let landing ← broker.snapshotImpl record (some descriptor) transactionId
      let livePath ← ofExcept (broker.host.navigationPath landing.url)
      if livePath ≠ action.navigatesToPath then
        pauseAndRaise record "NAVIGATION_MISMATCH" (pageDriftError "the live page moved after the navigation action")
      else bindTransaction sessionId extensionId transactionId descriptor adapterId action landing

/-- `execute_navigation`. -/
def executeNavigation (adapterId transactionId : String) : BrowserM NavigationResult := do
  let record ← getSession sessionId extensionId
  requireActive record
  if record.state ≠ .authenticated ∧ record.state ≠ .discovered then
    raise (browserSessionStateError "opening a transaction requires an authenticated or discovered session")
  else
    let descriptor ← requireAdapterFor record adapterId ""
    let action ← ofExcept (navigationActionFor descriptor transactionId)
    let snapshot ← broker.snapshotImpl record (some descriptor) ""
    if (snapshot.actions.find? (·.locator = action.locator)).map (·.label) ≠ some action.label then
      pauseAndRaise record "NAVIGATION_ACTION_DRIFT"
        (pageDriftError "the navigation action is not on the live page as declared")
    else broker.activateTransaction record sessionId extensionId transactionId descriptor adapterId action

/-- `_field_document`. -/
def fieldDocument (host : BrowserHost) (change : FieldChange) : Value := .dict [
  ("field_id", .str change.fieldId), ("locator", .str change.locator), ("label", .str change.label),
  ("old_value", .str change.oldValue), ("new_value", .str change.newValue), ("source", .str change.source.value),
  ("confidence", .float (host.roundSix change.confidence)), ("validation", .str change.validation.value),
  ("evidence_sha256", .ofOption change.evidenceSha256)]

/-- `_attachment_document`. -/
def attachmentDocument (item : AttachmentPreview) : Value := .dict [
  ("name", .str item.name), ("size_bytes", .int item.sizeBytes), ("sha256", .str item.sha256),
  ("media_type", .str item.mediaType)]

/-- The `field_documents` of `canonical_preview_sha256`. -/
def fieldDocuments (host : BrowserHost) (fields : List FieldChange) : List Value :=
  (fields.insertionSort fun a b => a.fieldId < b.fieldId ∨ (a.fieldId = b.fieldId ∧ a.locator ≤ b.locator)).map
    (fieldDocument host)

/-- The `attachment_documents` of `canonical_preview_sha256`. -/
def attachmentDocuments (attachments : List AttachmentPreview) : List Value :=
  (attachments.insertionSort fun a b => a.name < b.name ∨ (a.name = b.name ∧
    (a.sha256 < b.sha256 ∨ (a.sha256 = b.sha256 ∧ a.sizeBytes ≤ b.sizeBytes)))).map attachmentDocument

/-- The document a preview digest is taken of. -/
def previewPayload (host : BrowserHost) (preview : TransactionPreview) : Value := .dict [
  ("origin", .str preview.origin), ("app_id", .str preview.appId), ("transaction_id", .str preview.transactionId),
  ("adapter_id", .str preview.adapterId), ("adapter_version", .str preview.adapterVersion),
  ("extension_id", .str preview.extensionId), ("extension_version", .str preview.extensionVersion),
  ("page_fingerprint", .str preview.pageFingerprint), ("risk", .str preview.risk.value),
  ("consequences", .str preview.consequences), ("fields", .list (fieldDocuments host preview.fields)),
  ("attachments", .list (attachmentDocuments preview.attachments)),
  ("target_action_id", .str preview.targetActionId), ("target_method", .str preview.targetMethod),
  ("target_origin", .str preview.targetOrigin), ("target_path", .str preview.targetPath)]

/-- The `changes` of `_build_preview`. -/
def plannedChanges : List FieldChange :=
  plan.fields.map fun item =>
    { item with
      label := if item.label = "" then descriptor.labelFor item.fieldId else item.label
      validation := if item.newValue = "" then .missing else .valid }

/-- The `attachments` of `_build_preview`. -/
def plannedAttachments : List AttachmentPreview :=
  plan.attachments.map fun item => { item with sha256 := broker.host.lower item.sha256 }

/-- The `consequences` of `_build_preview`. -/
def plannedConsequences : String := if plan.consequences = "" then descriptor.consequences else plan.consequences

/-- `_build_preview`. -/
def buildPreview (snapshot : PageSnapshot) (now : Time) (nonce : String) : Except Exn TransactionPreview := do
  let final := descriptor.finalAction
  let draft : TransactionPreview := {
    sessionId := record.sessionId, origin := snapshot.origin, appId := plan.appId, transactionId := plan.transactionId
    adapterId := descriptor.adapterId, adapterVersion := descriptor.adapterVersion
    extensionId := descriptor.extensionId, extensionVersion := descriptor.extensionVersion
    pageFingerprint := snapshot.fingerprint, risk := descriptor.declaredRisk
    consequences := plannedConsequences descriptor plan
    fields := plannedChanges descriptor plan
    missingFields := (descriptor.fields.filter fun spec =>
      spec.required ∧ spec.fieldId ∉ plan.fields.map (·.fieldId)).map (·.fieldId)
    attachments := broker.plannedAttachments plan
    canonicalPayloadHash := "", nonce, generatedAt := now, expiresAt := now + 300 * 1000000
    targetActionId := (final.map (·.actionId)).getD "", targetMethod := (final.map (·.method)).getD ""
    targetOrigin := (final.map (·.targetOrigin)).getD "", targetPath := (final.map (·.targetPath)).getD "" }
  let digest ← canonicalSha256 broker.host.toHost (previewPayload broker.host draft)
  { draft with canonicalPayloadHash := digest }.check

/-- The fields that a fill changes. -/
def changedFields : List (String × String) :=
  (plan.fields.filter fun item => item.newValue ≠ item.oldValue).map fun item => (item.locator, item.newValue)

/-- Every changed field has its new value on the page. -/
def fillVerified (after : PageSnapshot) : Bool :=
  plan.fields.all fun item => item.newValue = item.oldValue ∨
    (after.fieldById item.fieldId).map (·.value) = some item.newValue

/-- The end of `execute_fill`: the preview of what is on the page is stored. -/
def storePreview (snapshot : PageSnapshot) : BrowserM TransactionPreview := do
  let generated : Time ← web .now
  let nonce : String ← web .newNonce
  let preview ← ofExcept (broker.buildPreview record descriptor plan snapshot generated nonce)
  let _ ← saveState record .previewReady fun r =>
    { r with
      pageFingerprint := snapshot.fingerprint, preview := some preview, previewHash := preview.canonicalPayloadHash
      previewNonce := preview.nonce, fillCount := record.fillCount + 1 }
  return preview

/-- `execute_fill` once the plan was verified: the values are typed and read back. -/
def typeFields (snapshot : PageSnapshot) : BrowserM TransactionPreview := do
  if changedFields plan = [] then broker.storePreview record descriptor plan snapshot
  else
    let _ ← web (.fill record.sessionId (changedFields plan))
    let after ← broker.snapshotImpl record (some descriptor) plan.transactionId
    if fillVerified plan after then broker.storePreview record descriptor plan after
    else failAndRaise record "FILL_VERIFICATION_FAILED" (browserPolicyError "FILL_VERIFICATION_FAILED"
      "the page did not accept a planned value")

/-- The risk of a page as the broker sees it. -/
def pageRisk (snapshot : PageSnapshot) : RiskAssessment :=
  assessRisk descriptor.declaredRisk (splitSignals snapshot.signals).1 (splitSignals snapshot.signals).2

/-- `execute_fill` once the page was read. -/
def fillPage (snapshot : PageSnapshot) : BrowserM TransactionPreview := do
  let decision ← ofExcept (broker.evaluate descriptor.adapterPaths snapshot.url)
  if !decision.allowed then raise (navigationDeniedError decision.reason)
  else if decision.origin ≠ plan.expectedOrigin then
    raise (pageDriftError "the page origin changed since the preview was planned")
  else if snapshot.fingerprint ≠ plan.expectedPageFingerprint then
    pauseAndRaise record "PAGE_FINGERPRINT_DRIFT" (pageDriftError "the page structure changed since it was inspected")
  else if (pageRisk descriptor snapshot).aboveDeclared descriptor.declaredRisk then
    pauseAndRaise record "PROHIBITED_SEMANTICS"
      (prohibitedTransactionError "PROHIBITED_SEMANTICS" "PROHIBITED_SEMANTICS")
  else match broker.verifyFields descriptor plan snapshot with
  | .error (.runtime (.browser .policy "UNKNOWN_FIELD") message) =>
    pauseAndRaise record "UNKNOWN_FIELD" (browserPolicyError "UNKNOWN_FIELD" message)
  | .error e => raise e
  | .ok _ => broker.typeFields record descriptor plan snapshot

/-- `execute_fill` of a session with a preview, once the session was read. -/
def storedFill : BrowserM TransactionPreview :=
  match record.preview with
  | some stored =>
    if record.previewHash = "" then raise (browserSessionStateError "the session has no stored preview")
    else if planMatchesPreview plan stored then return stored
    else pauseAndRaise record "REPEATED_FILL_DRIFT" (pageDriftError "a repeated fill does not match the stored preview")
  | none => raise (browserSessionStateError "the session has no stored preview")

/-- `execute_fill`. -/
def executeFill (taskId extensionId : String) (plan : FillPlan) : BrowserM TransactionPreview := do
  let record ← getSession sessionId extensionId
  if record.taskId ≠ taskId then raise (browserSessionStateError "the session belongs to another task")
  else match record.state with
  | .previewReady | .approved => storedFill record plan
  | .preparing =>
    let descriptor ← requireAdapterFor record plan.adapterId plan.adapterVersion
    if plan.transactionId ∉ descriptor.transactionIds then
      raise (browserPolicyError "UNKNOWN_TRANSACTION" "the transaction is not registered")
    else
      let snapshot ← broker.snapshotImpl record (some descriptor) plan.transactionId
      broker.fillPage record descriptor plan snapshot
  | _ => raise (browserSessionStateError "fill requires a prepared session")

end BrowserSessionBroker

end PersonalAssistant
