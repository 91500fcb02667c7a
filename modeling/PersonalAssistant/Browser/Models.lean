import PersonalAssistant.Domain.Models

/-!
# Supervised browser sessions: states and records

The value objects of `core/browser/models.py` and `core/browser/ports.py`: the session
lifecycle with its transition table, the fields of a page, the plan of a fill, the preview of
a submission, the adapter descriptor and the persisted session record. A preview and a
descriptor are stored as JSON documents; here the record holds the object the document is of.
-/

namespace PersonalAssistant

/-- `BrowserSessionState`. -/
inductive BrowserSessionState where
  | requested
  | waitingUser
  | authenticated
  | discovered
  | preparing
  | previewReady
  | approved
  | executing
  | succeeded
  | failed
  | unknown
  | cancelled
  | safetyPaused
  deriving DecidableEq, Repr

namespace BrowserSessionState

/-- The persisted value of a state. -/
def value : BrowserSessionState → String
  | requested => "REQUESTED"
  | waitingUser => "WAITING_USER"
  | authenticated => "AUTHENTICATED"
  | discovered => "DISCOVERED"
  | preparing => "PREPARING"
  | previewReady => "PREVIEW_READY"
  | approved => "APPROVED"
  | executing => "EXECUTING"
  | succeeded => "SUCCEEDED"
  | failed => "FAILED"
  | unknown => "UNKNOWN"
  | cancelled => "CANCELLED"
  | safetyPaused => "SAFETY_PAUSED"

/-- `BrowserSessionState.terminal`; the other states hold the session of their task. -/
def terminal : BrowserSessionState → Bool
  | succeeded | failed | cancelled => true
  | _ => false

/-- `_EXPIRABLE_STATES`: an action that may have been sent out is left to reconciliation. -/
def expirable : BrowserSessionState → Bool
  | succeeded | failed | cancelled | unknown | executing => false
  | _ => true

/-- `allowed_browser_transitions`. -/
def allowedTransitions : BrowserSessionState → List BrowserSessionState
  | requested => [waitingUser, authenticated, discovered, cancelled, safetyPaused, unknown]
  | waitingUser => [authenticated, cancelled, safetyPaused, unknown]
  | authenticated => [waitingUser, discovered, preparing, cancelled, safetyPaused, unknown]
  | discovered => [preparing, waitingUser, cancelled, safetyPaused, unknown]
  | preparing => [previewReady, discovered, waitingUser, cancelled, safetyPaused, failed, unknown]
  | previewReady => [approved, preparing, waitingUser, cancelled, safetyPaused, failed, unknown]
  | approved => [executing, cancelled, safetyPaused, failed, unknown]
  | executing => [succeeded, failed, unknown]
  | unknown => [succeeded, failed]
  | succeeded => []
  | failed => []
  | cancelled => []
  | safetyPaused => [preparing, discovered, cancelled]

end BrowserSessionState

/-- `raise BrowserPolicyError(reason, message)`; an empty message shows the reason. -/
abbrev browserPolicyError (reason message : String) : Exn := .runtime (.browser .policy reason) message

/-- `raise NavigationDeniedError(reason)`. -/
abbrev navigationDeniedError (reason : String) : Exn := .runtime (.browser .navigationDenied reason) reason

/-- `raise ProhibitedTransactionError(reason, message)`. -/
abbrev prohibitedTransactionError (reason message : String) : Exn :=
  .runtime (.browser .prohibitedTransaction reason) message

/-- `raise BrowserSessionStateError(message)`. -/
abbrev browserSessionStateError (message : String) : Exn := .runtime (.browser .sessionState "") message

/-- `raise PageDriftError(message)`. -/
abbrev pageDriftError (message : String) : Exn := .runtime (.browser .pageDrift "") message

/-- `raise PreviewExpiredError(message)`. -/
abbrev previewExpiredError (message : String) : Exn := .runtime (.browser .previewExpired "") message

/-- `raise BrowserLimitError(message)`. -/
abbrev browserLimitError (message : String) : Exn := .runtime (.browser .limit "") message

/-- `ensure_browser_transition`. -/
def ensureBrowserTransition (current target : BrowserSessionState) : Except Exn Unit :=
  if target ∈ current.allowedTransitions then .ok ()
  else .error (browserSessionStateError
    ("invalid browser session transition " ++ current.value ++ " -> " ++ target.value))

/-- `FieldValueSource`. -/
inductive FieldValueSource where
  | page
  | userInput
  | evidence
  | template
  | default
  | unknown
  deriving DecidableEq, Repr

/-- The persisted value of a source. -/
def FieldValueSource.value : FieldValueSource → String
  | .page => "PAGE"
  | .userInput => "USER_INPUT"
  | .evidence => "EVIDENCE"
  | .template => "TEMPLATE"
  | .default => "DEFAULT"
  | .unknown => "UNKNOWN"

/-- `FieldValidation`. -/
inductive FieldValidation where
  | valid
  | missing
  | invalid
  | unknown
  deriving DecidableEq, Repr

/-- The persisted value of a validation. -/
def FieldValidation.value : FieldValidation → String
  | .valid => "VALID"
  | .missing => "MISSING"
  | .invalid => "INVALID"
  | .unknown => "UNKNOWN"

/-- `BrowserLimits`, the caps that the broker reads. -/
structure BrowserLimits where
  maxRenavigations : Nat := 3
  maxSnapshotBytes : Nat := 1048576
  maxFields : Nat := 128
  maxAttachments : Nat := 20
  maxAttachmentBytes : Nat := 8 * 1024 * 1024
  deriving DecidableEq, Repr

/-- `RiskSignal`. -/
structure RiskSignal where
  code : String
  detail : String
  risk : RiskLevel
  deriving DecidableEq, Repr

/-- `PageField`: one live form control. -/
structure PageField where
  fieldId : String
  locator : String
  kind : String
  value : String
  name : String
  required : Bool
  readonly : Bool
  options : List String
  maxLength : Int
  known : Bool
  deriving DecidableEq, Repr

/-- `PageAction`. -/
structure PageAction where
  actionId : String
  locator : String
  label : String
  kind : String
  risk : RiskLevel
  known : Bool
  deriving DecidableEq, Repr

/-- `PageLink`. -/
structure PageLink where
  text : String
  path : String
  deriving DecidableEq, Repr

/-- `PageSnapshot`. -/
structure PageSnapshot where
  sessionId : String
  url : String
  origin : String
  path : String
  title : String
  fingerprint : String
  capturedAt : Time
  fields : List PageField
  actions : List PageAction
  signals : List RiskSignal
  links : List PageLink
  textDigest : String
  byteSize : Int
  truncated : Bool
  scanIncomplete : Bool
  authenticated : Bool
  deriving DecidableEq, Repr

/-- `PageSnapshot.field_by_id`. -/
def PageSnapshot.fieldById (snapshot : PageSnapshot) (fieldId : String) : Option PageField :=
  snapshot.fields.find? (·.fieldId = fieldId)

/-- `FieldChange`. The confidence is named by its `repr`, as every float is; `__post_init__` keeps
it between 0 and 1, so it is finite. -/
structure FieldChange where
  fieldId : String
  locator : String
  label : String
  oldValue : String
  newValue : String
  source : FieldValueSource := .userInput
  confidence : PyFloat := .finite "1.0"
  validation : FieldValidation := .valid
  evidenceSha256 : Option String := none
  confident : confidence.isFinite := by rfl
  deriving DecidableEq, Repr

/-- `AttachmentPreview`. -/
structure AttachmentPreview where
  name : String
  sizeBytes : Nat
  sha256 : String
  mediaType : String
  deriving DecidableEq, Repr

/-- `FillPlan`; what `__post_init__` checks is a field. -/
structure FillPlan where
  adapterId : String
  adapterVersion : String
  transactionId : String
  expectedOrigin : String
  expectedPageFingerprint : String
  fields : List FieldChange
  appId : String := ""
  attachments : List AttachmentPreview := []
  consequences : String := ""
  bounded : fields.length ≤ 128 ∧ attachments.length ≤ 20
  identified : adapterId ≠ "" ∧ adapterVersion ≠ "" ∧ transactionId ≠ ""
  sourced : fields.all (·.source ≠ .unknown)

/-- `TransactionPreview`. -/
structure TransactionPreview where
  sessionId : String
  origin : String
  appId : String
  transactionId : String
  adapterId : String
  adapterVersion : String
  extensionId : String
  extensionVersion : String
  pageFingerprint : String
  risk : RiskLevel
  consequences : String
  fields : List FieldChange
  missingFields : List String
  attachments : List AttachmentPreview
  canonicalPayloadHash : String
  nonce : String
  generatedAt : Time
  expiresAt : Time
  targetActionId : String
  targetMethod : String
  targetOrigin : String
  targetPath : String
  deriving DecidableEq, Repr

/-- `TransactionPreview.__post_init__`. -/
def TransactionPreview.check (preview : TransactionPreview) : Except Exn TransactionPreview :=
  if preview.fields.length > 128 then .error (browserLimitError "preview exceeds the field limit")
  else if preview.attachments.length > 20 then .error (browserLimitError "preview exceeds the attachment limit")
  else if preview.risk = .prohibited then
    .error (browserLimitError "a prohibited transaction can never reach a preview")
  else if preview.nonce = "" then .error (browserLimitError "a preview requires a nonce")
  else if preview.expiresAt ≤ preview.generatedAt then
    .error (browserLimitError "preview expiry must be after generation")
  else .ok preview

/-- `TransactionPreview.require_fresh`. -/
def TransactionPreview.requireFresh (preview : TransactionPreview) (now : Time) : Except Exn Unit :=
  if preview.expiresAt ≤ now then .error (previewExpiredError "the transaction preview has expired") else .ok ()

/-- The receipt that `reconcile` issues. -/
structure BrowserReceipt where
  reference : String
  sessionId : String
  transactionId : String
  adapterId : String
  adapterVersion : String
  referenceSha256 : String
  observedAt : Time
  deriving DecidableEq, Repr

/-- `SubmissionOutcome`. -/
structure SubmissionOutcome where
  state : BrowserSessionState
  receipt : Option BrowserReceipt := none
  reference : String := ""
  diagnosticCode : String := ""
  deriving DecidableEq, Repr

/-- `AdapterFieldSpec`. -/
structure AdapterFieldSpec where
  fieldId : String
  label : String
  kind : String := "text"
  required : Bool := true
  maxLength : Int := 0
  pattern : String := ""
  locator : String := ""
  source : FieldValueSource := .userInput
  deriving DecidableEq, Repr

/-- `AdapterActionSpec`. -/
structure AdapterActionSpec where
  actionId : String
  locator : String
  label : String
  kind : String := "submit"
  risk : RiskLevel := .externalWrite
  final : Bool := false
  method : String := ""
  targetOrigin : String := ""
  targetPath : String := ""
  transactionId : String := ""
  navigatesToPath : String := ""
  deriving DecidableEq, Repr

/-- `TransactionAdapterDescriptor`. -/
structure TransactionAdapterDescriptor where
  extensionId : String
  extensionVersion : String
  adapterId : String
  adapterVersion : String
  displayName : String
  allowedOrigins : List String
  allowedPaths : List String
  declaredRisk : RiskLevel
  transactionIds : List String
  fields : List AdapterFieldSpec := []
  actions : List AdapterActionSpec := []
  loginPaths : List String := []
  forbiddenTerms : List String := []
  discoveryPath : String := ""
  trackingPath : String := ""
  receiptLocator : String := ""
  consequences : String := ""
  allowedPageFingerprints : List String := []
  receiptPattern : String := ""
  deriving DecidableEq, Repr

namespace TransactionAdapterDescriptor

variable (descriptor : TransactionAdapterDescriptor)

/-- `final_action`. -/
def finalAction : Option AdapterActionSpec := descriptor.actions.find? (·.final)

/-- `field_spec`. -/
def fieldSpec (fieldId : String) : Option AdapterFieldSpec := descriptor.fields.find? (·.fieldId = fieldId)

/-- `field_spec_by_locator`. -/
def fieldSpecByLocator (locator : String) : Option AdapterFieldSpec := descriptor.fields.find? (·.locator = locator)

/-- `action_by_locator`. -/
def actionByLocator (locator : String) : Option AdapterActionSpec := descriptor.actions.find? (·.locator = locator)

/-- `navigation_action`. -/
def navigationAction (transactionId : String) : Option AdapterActionSpec :=
  descriptor.actions.find? fun action => action.kind = "navigate" ∧ action.transactionId = transactionId

/-- `_label_for`. -/
def labelFor (fieldId : String) : String := ((descriptor.fieldSpec fieldId).map (·.label)).getD fieldId

/-- `_adapter_paths`: the paths a session of the adapter may be on. -/
def adapterPaths : List String :=
  (descriptor.loginPaths ++ [descriptor.discoveryPath, descriptor.trackingPath]).foldl
    (fun paths extra => if extra ≠ "" ∧ extra ∉ paths then paths ++ [extra] else paths) descriptor.allowedPaths

/-- `_is_transaction_page`: the page is pinned to its verified versions. -/
def isTransactionPage (transactionId path : String) : Bool :=
  transactionId ≠ "" ∧ transactionId ∈ descriptor.transactionIds ∧ path ∈ descriptor.allowedPaths

end TransactionAdapterDescriptor

/-- `BrowserAdapterRecord`. -/
structure BrowserAdapterRecord where
  extensionId : String
  extensionVersion : String
  adapterId : String
  adapterVersion : String
  descriptor : TransactionAdapterDescriptor
  createdAt : Time
  updatedAt : Time
  version : Nat := 0
  deriving DecidableEq, Repr

/-- The document of a receipt baseline: the digests of the references on the tracking page
before the click, and whether all of them were read. -/
structure ReceiptBaseline where
  hashes : List String
  truncated : Bool
  deriving DecidableEq, Repr

/-- `BrowserSessionRecord`. -/
structure BrowserSessionRecord where
  sessionId : String
  taskId : String
  extensionId : String
  extensionVersion : String
  purpose : String
  state : BrowserSessionState
  createdAt : Time
  updatedAt : Time
  expiresAt : Time
  version : Nat := 0
  origin : String := ""
  url : String := ""
  adapterId : String := ""
  adapterVersion : String := ""
  appId : String := ""
  transactionId : String := ""
  pageFingerprint : String := ""
  previewHash : String := ""
  previewNonce : String := ""
  preview : Option TransactionPreview := none
  outcome : String := ""
  receipt : Option BrowserReceipt := none
  diagnosticCode : String := ""
  reNavigations : Nat := 0
  visitedPaths : List String := []
  receiptBaseline : Option ReceiptBaseline := none
  fillCount : Nat := 0
  submitCount : Nat := 0
  appsCount : Int := 0
  ownerId : String := ""
  deriving DecidableEq, Repr

namespace BrowserSessionRecord

/-- `_is_expired`. -/
def isExpired (record : BrowserSessionRecord) (now : Time) : Bool :=
  !record.state.terminal && record.expiresAt ≤ now

/-- `_replace_state`, before the other updates. -/
def replaceState (record : BrowserSessionRecord) (target : BrowserSessionState) (now : Time) :
    Except Exn BrowserSessionRecord := do
  if target ≠ record.state then ensureBrowserTransition record.state target
  return { record with state := target, updatedAt := now }

end BrowserSessionRecord

end PersonalAssistant
