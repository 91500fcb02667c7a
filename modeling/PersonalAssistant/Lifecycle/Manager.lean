import PersonalAssistant.Lifecycle.Port

/-!
# `LifecycleManager` and the supervisor

The operations of `core/extensions/lifecycle.py` on an installed extension, and the two
functions of `core/extensions/supervision.py` that change a record outside them: the
quarantine after a broken worker and the recovery after a restart.
-/

namespace PersonalAssistant.Lifecycle

open Coro.Prog

/-- The value of a state. -/
def stateValue : ExtensionState → String
  | .discovered => "DISCOVERED"
  | .staged => "STAGED"
  | .rejected => "REJECTED"
  | .installedDisabled => "INSTALLED_DISABLED"
  | .starting => "STARTING"
  | .enabled => "ENABLED"
  | .quarantined => "QUARANTINED"
  | .draining => "DRAINING"
  | .disabled => "DISABLED"
  | .uninstalling => "UNINSTALLING"
  | .uninstalled => "UNINSTALLED"
  | .upgrading => "UPGRADING"
  | .rolledBack => "ROLLED_BACK"

/-- `with contextlib.suppress(Exception)`. -/
def suppress {α : Type} (body : LifeM α) : LifeM Unit := do
  match ← attempt body with
  | .ok _ => pure ()
  | .error .cancelled => raise .cancelled
  | .error _ => pure ()

variable (extensionId : String) (record starting : ExtensionRecord)

/-- `_require`. -/
def require : LifeM ExtensionRecord := do
  match ← life (.getRecord extensionId) with
  | some record => pure record
  | none => raise (extensionError ("unknown extension: " ++ extensionId))

/-- `_require_state`. -/
def requireState (allowed : List ExtensionState) (operation : String) : LifeM Unit :=
  if record.state ∈ allowed then pure ()
  else
    raise (.runtime (.extension .invalidLifecycleTransition) ("cannot " ++ operation ++ " " ++ record.id ++ " from " ++
      stateValue record.state ++ "; expected " ++
      String.intercalate ", " ((allowed.map stateValue).mergeSort fun x y => x ≤ y)))

/-- The handler of `_start_and_publish`, after the registry has been cleared. -/
def giveUp (exc : Exn) : LifeM ExtensionRecord := do
  let _ ← (life (.stop starting)).shield
  let _ ← (life (.saveRecord (starting.as .quarantined) none)).shield
  raise exc

/-- The body of the `try` in `_start_and_publish`, up to the publication. -/
def bringUp : LifeM Unit := do
  let _ ← life (.start starting)
  let healthy : Bool ← life (.health starting)
  if healthy then life (.registryEnable (starting.as .enabled))
  else raise (operationError "HEALTHCHECK_FAILED" "extension healthcheck failed")

/-- `_start_and_publish`. -/
def startAndPublish : LifeM ExtensionRecord := do
  let starting := record.as .starting
  let _ ← life (.saveRecord starting none)
  match ← attempt (bringUp starting) with
  | .error exc => giveUp starting exc
  | .ok () =>
    match ← attempt (life (.saveRecord (starting.as .enabled) none)) with
    | .ok _ => pure (starting.as .enabled)
    | .error exc => do
      let _ ← life (.registryDisable record.id)
      giveUp starting exc

/-- `enable`. -/
def enable (extensionId : String) : LifeM ExtensionRecord := do
  let record ← require extensionId
  let _ ← requireState record [.installedDisabled, .disabled, .rolledBack, .quarantined] "enable"
  startAndPublish record

/-- `LifecycleManager.recover`. -/
def recover (extensionId : String) : LifeM ExtensionRecord := do
  let record ← require extensionId
  let _ ← requireState record [.enabled] "recover"
  startAndPublish record

/-- `drained is False or (isinstance(active, int) and active > 0)`; a Python `bool` is an
`int`. -/
def callsLeft (report : List (String × Value)) : Bool :=
  (match report.lookup "drained" with
    | some (.bool false) => true
    | _ => false) ||
  match report.lookup "active_calls" with
  | some (.int n) => 0 < n
  | some (.bool b) => b
  | _ => false

/-- The message of an exception that a drain timeout shows. -/
def timeoutText : Exn → String
  | .timeout _ message => message
  | exc => exc.typeName

/-- `disable` after the drain: the worker is stopped, and the drain's error raised at the
end. -/
def finishDisable (draining : ExtensionRecord) (report : Option (List (String × Value))) (drainError : Option Exn) :
    LifeM ExtensionRecord := do
  let _ ← (life (.stop draining)).shield
  let _ ← (life (.saveRecord (draining.as .disabled) none)).shield
  if report.any callsLeft then
    raise (operationError "DRAIN_TIMEOUT" "extension reported in-flight calls when the drain deadline expired")
  else
    match drainError with
    | some exc => raise exc
    | none => pure (draining.as .disabled)

/-- `disable`. -/
def disable (extensionId : String) (deadlineEpoch : Rat) : LifeM ExtensionRecord := do
  let record ← require extensionId
  let _ ← requireState record [.enabled] "disable"
  let _ ← life (.registryDisable extensionId)
  let draining := record.as .draining
  let _ ← life (.saveRecord draining none)
  match ← attempt (life (.drain draining deadlineEpoch)) with
  | .ok report => finishDisable draining report none
  | .error exc =>
    if exc.isRpcTimeout then
      finishDisable draining none
        (some (operationError "DRAIN_TIMEOUT" ("extension did not drain before the deadline: " ++ timeoutText exc)))
    else if exc.isExtensionError then finishDisable draining none (some exc)
    else do
      -- not caught: only the `finally` clause runs
      let _ ← (life (.stop draining)).shield
      raise exc

/-- The first step of an operation that needs the extension disabled. -/
def standDown : LifeM ExtensionRecord :=
  if record.state = .enabled then do
    let time : Rat ← life .timestamp
    disable extensionId (time + 30)
  else pure record

/-- The record of an uninstalled extension. -/
def ExtensionRecord.removed : ExtensionRecord :=
  { record with state := .uninstalled, installPath := none, dataRetained := true, tombstone := true }

/-- `uninstall`, once the extension is disabled. -/
def takeOut : LifeM ExtensionRecord := do
  let _ ← requireState record [.installedDisabled, .disabled, .quarantined, .rolledBack] "uninstall"
  let _ ← life (.registryDisable extensionId)
  let uninstalling := record.as .uninstalling
  let _ ← life (.saveRecord uninstalling none)
  let _ ← life (.stop uninstalling)
  let _ ← life (.uninstallCode uninstalling)
  let _ ← life (.saveRecord uninstalling.removed none)
  pure uninstalling.removed

/-- `uninstall`. -/
def uninstall : LifeM ExtensionRecord := do
  let found ← require extensionId
  let record ← standDown extensionId found
  takeOut extensionId record

/-- `prepare_purge`. -/
def preparePurge : LifeM PurgePreview := do
  let record ← require extensionId
  let _ ← requireState record [.uninstalled] "purge"
  let namespaces : List String ← life (.namespaces extensionId)
  let nonce : String ← life .tokenUrlsafe
  let hash : String ← life (.hashPayload (.dict
    [("extension_id", .str extensionId), ("namespaces", .tuple (namespaces.map .str)), ("nonce", .str nonce),
     ("warning", .str "永久清除不可恢复；卸载本身不会删除这些数据。")]))
  let _ ← life (.rememberPurge extensionId ⟨nonce, hash⟩)
  pure ⟨nonce, hash⟩

/-- What `purge` reads of a `PurgeConfirmation` besides the extension. -/
structure PurgeConfirmation where
  confirmationNonce : String
  previewHash : String
  actor : String

/-- `purge`. -/
def purge (extensionId : String) (confirmation : PurgeConfirmation) : LifeM ExtensionRecord := do
  match ← life (.pendingPurge extensionId) with
  | none => raise (confirmationRequired "prepare a purge preview first")
  | some preview =>
    if confirmation.confirmationNonce ≠ preview.confirmationNonce ∨ confirmation.previewHash ≠ preview.previewHash ∨
        isBlank confirmation.actor then
      raise (confirmationRequired "purge confirmation does not match its preview")
    else do
      let record ← require extensionId
      let _ ← requireState record [.uninstalled] "purge"
      let _ ← life (.forgetPurge extensionId)
      let _ ← life (.purgeData extensionId)
      let _ ← life (.saveRecord { record with dataRetained := false } none)
      pure { record with dataRetained := false }

/-- The end of a compensation: the original is started again if it was enabled. -/
def reopen (original : ExtensionRecord) : LifeM Unit :=
  if original.state = .enabled then suppress (enable original.id) else pure ()

/-- `_compensate_failed_upgrade` and `_compensate_failed_rollback`, which differ in the state
the original is saved in. -/
def compensate (original other : ExtensionRecord) (state : ExtensionState) : LifeM Unit := do
  let _ ← suppress (life (.registryDisable original.id))
  let _ ← suppress (life (.stop other))
  let _ ← suppress (life (.saveRecord (original.as state) none))
  reopen original

/-- `_compensate_failed_upgrade`. -/
def compensateFailedUpgrade (original candidate : ExtensionRecord) : LifeM Unit :=
  compensate original candidate .rolledBack

/-- `_compensate_failed_rollback`. -/
def compensateFailedRollback (original restored : ExtensionRecord) : LifeM Unit :=
  compensate original restored .disabled

/-- A `try` whose handler runs a shielded compensation and raises again. -/
def orElse (body : LifeM ExtensionRecord) (compensation : LifeM Unit) : LifeM ExtensionRecord := do
  match ← attempt body with
  | .ok record => pure record
  | .error exc => do
    let _ ← compensation.shield
    raise exc

/-- The body of the `try` in `upgrade`. -/
def tryUpgrade (original candidate : ExtensionRecord) : LifeM ExtensionRecord := do
  let current ← standDown extensionId original
  let upgrading := current.as .upgrading
  let _ ← life (.saveRecord upgrading none)
  let _ ← life (.activate upgrading candidate)
  let _ ← life (.saveRecord (candidate.as .disabled) none)
  if original.state = .enabled then enable extensionId else pure (candidate.as .disabled)

/-- `upgrade`. -/
def upgrade (extensionId : String) (candidate : ExtensionRecord) : LifeM ExtensionRecord := do
  let original ← require extensionId
  let _ ← requireState original [.enabled, .disabled, .installedDisabled, .quarantined, .rolledBack] "upgrade"
  if candidate.id ≠ extensionId then raise (extensionError "upgrade candidate has a different extension id")
  else if candidate.state ≠ .installedDisabled then
    raise (extensionError "upgrade candidate must be installed and contract-tested")
  else orElse (tryUpgrade extensionId original candidate) (compensateFailedUpgrade original candidate)

/-- The body of the `try` in `rollback`. -/
def tryRollback (original restored : ExtensionRecord) : LifeM ExtensionRecord := do
  let _ ← standDown extensionId original
  let rolledBack := restored.as .rolledBack
  let _ ← life (.saveRecord rolledBack none)
  if original.state = .enabled then startAndPublish rolledBack else pure rolledBack

/-- `rollback`. -/
def rollback (extensionId : String) : LifeM ExtensionRecord := do
  let original ← require extensionId
  let _ ← requireState original [.enabled, .disabled, .quarantined] "rollback"
  let restored : ExtensionRecord ← life (.rollbackVersion original)
  if restored.id ≠ extensionId then raise (extensionError "rollback restored a different extension id")
  else orElse (tryRollback extensionId original restored) (compensateFailedRollback original restored)

/-- The operations of the manager on one extension. -/
inductive Operation where
  | enable
  | recover
  | disable (deadlineEpoch : Rat)
  | uninstall
  | preparePurge
  | purge (confirmation : PurgeConfirmation)
  | upgrade (candidate : ExtensionRecord)
  | rollback

/-- What an operation awaits. -/
def Operation.program : Operation → LifeM Unit
  | .enable => do let _ ← Lifecycle.enable extensionId
  | .recover => do let _ ← Lifecycle.recover extensionId
  | .disable deadlineEpoch => do let _ ← Lifecycle.disable extensionId deadlineEpoch
  | .uninstall => do let _ ← Lifecycle.uninstall extensionId
  | .preparePurge => do let _ ← Lifecycle.preparePurge extensionId
  | .purge confirmation => do let _ ← Lifecycle.purge extensionId confirmation
  | .upgrade candidate => do let _ ← Lifecycle.upgrade extensionId candidate
  | .rollback => do let _ ← Lifecycle.rollback extensionId

/-! ## The supervisor -/

/-- `DIAGNOSTIC_CODES`. -/
def diagnosticCodes : List String :=
  ["CONFIRMATION_REQUIRED", "PLAN_NOT_FOUND", "PLAN_MODE_MISMATCH", "PLAN_BASELINE_CHANGED", "MANIFEST_INVALID",
   "STATE_CONFLICT", "EXTENSION_NOT_FOUND", "EXTENSION_NOT_ENABLED", "CAPABILITY_NOT_PUBLISHED", "INSTALL_CONFLICT",
   "INSTALL_PATH_MISSING", "INSTALL_FAILED", "UPGRADE_FAILED", "ENABLE_FAILED", "DISABLE_FAILED", "DRAIN_TIMEOUT",
   "UNINSTALL_FAILED", "UNINSTALL_PATH_UNSAFE", "ROLLBACK_FAILED", "ROLLBACK_INCOMPATIBLE", "ROLLBACK_NO_CANDIDATE",
   "HEALTHCHECK_FAILED", "REQUIRED_CAPABILITY_UNAVAILABLE", "HANDSHAKE_MISMATCH", "WORKER_RPC_ERROR",
   "WORKER_TIMEOUT", "WORKER_CRASHED", "PURGE_NOT_IMPLEMENTED", "OPERATION_NOT_FOUND", "OPERATION_EXISTS",
   "OPERATION_CANCELLED", "OPERATION_FAILED", "OPERATION_IN_PROGRESS", "IDEMPOTENCY_CONFLICT", "RECOVERY_FAILED",
   "SUPERVISOR_RESTART"]

/-- The code of a failure no other clause of `_diagnostic` names. -/
def failedCode (kind : String) : String :=
  if kind.toUpper ++ "_FAILED" ∈ diagnosticCodes then kind.toUpper ++ "_FAILED" else "OPERATION_FAILED"

/-- `_diagnostic`. -/
def diagnostic (kind : String) : Exn → String
  | .runtime (.extensionOperation code) _ => if code ∈ diagnosticCodes then code else failedCode kind
  | .runtime (.rpcCall code) _ => if code = -32095 then "HANDSHAKE_MISMATCH" else "WORKER_CRASHED"
  | .runtime (.extension .confirmationRequired) _ => "CONFIRMATION_REQUIRED"
  | .runtime (.extension .invalidLifecycleTransition) _ => "STATE_CONFLICT"
  | exc => if exc.isRpcTimeout then "WORKER_TIMEOUT" else failedCode kind

/-- `_record_operation`. -/
def recordOperation (kind : String) (diagnosticCode : Option String) : LifeM Unit :=
  suppress (life (.createOperation extensionId kind diagnosticCode))

/-- The record is still the enabled version that failed. -/
def ownsFailure (version : String) (record : ExtensionRecord) : Bool :=
  record.state = .enabled ∧ record.manifest.version = version

/-- The registration of a record that a quarantine found changed. -/
def restore : Option ExtensionRecord → LifeM Unit
  | some record => if record.state = .enabled then life (.registryEnable record) else pure ()
  | none => pure ()

/-- `_quarantine` once both reads agree: the save that only replaces the record they saw. -/
def demote (after : ExtensionRecord) (exc : Exn) : LifeM Unit := do
  let applied : Bool ← life (.saveRecord (after.as .quarantined) (some (.enabled, after.manifest.version)))
  if applied then recordOperation extensionId "quarantine" (some (diagnostic "quarantine" exc))
  else do
    let fresh : Option ExtensionRecord ← life (.getRecord extensionId)
    restore fresh

/-- `_quarantine` of the extension at the version of the worker that failed. -/
def quarantine (version : String) (exc : Exn) : LifeM Unit := do
  let current : Option ExtensionRecord ← life (.getRecord extensionId)
  if current.any (ownsFailure version) then do
    let _ ← life (.registryDisable extensionId)
    let after : Option ExtensionRecord ← life (.getRecord extensionId)
    match after with
    | some record => if ownsFailure version record then demote extensionId record exc else restore (some record)
    | none => pure ()
  else pure ()

/-- `_quarantine_recovered`. -/
def quarantineRecovered (exc : Exn) : LifeM ExtensionRecord := do
  let _ ← suppress (life (.stop starting))
  let _ ← suppress (life (.saveRecord (starting.as .quarantined) none))
  let _ ← recordOperation record.id "recover" (some (diagnostic "recover" exc))
  pure (starting.as .quarantined)

/-- The worker of an enabled record, started again. -/
def restart (starting : ExtensionRecord) : LifeM Unit := do
  let _ ← life (.start starting)
  let healthy : Bool ← life (.health starting)
  if healthy then pure ()
  else raise (operationError "HEALTHCHECK_FAILED" "extension healthcheck failed after restart")

/-- An `except Exception` handler. -/
def onException {α : Type} (handler : Exn → LifeM α) : Exn → LifeM α
  | .cancelled => raise .cancelled
  | exc => handler exc

/-- `_recover_record` of an enabled record. -/
def recoverEnabled : LifeM ExtensionRecord :=
  if record.installPath.all fun path => path = "" then do
    let _ ← life (.saveRecord (record.as .quarantined) none)
    let _ ← recordOperation record.id "recover" (some "INSTALL_PATH_MISSING")
    pure (record.as .quarantined)
  else do
    let starting := record.as .starting
    let _ ← life (.saveRecord starting none)
    match ← attempt (restart starting) with
    | .error exc => onException (quarantineRecovered record starting) exc
    | .ok () =>
      match ← attempt (life (.saveRecord (starting.as .enabled) none)) with
      | .error exc => onException (quarantineRecovered record starting) exc
      | .ok _ => pure (starting.as .enabled)

/-- `_TRANSIENT_MAPPING`. -/
def transientMapping : ExtensionState → Option ExtensionState
  | .discovered | .staged => some .rejected
  | .starting => some .quarantined
  | .draining | .upgrading => some .disabled
  | _ => none

/-- The exceptions of the operating system that a handler may meet by name. -/
def osErrors : List String :=
  ["OSError", "FileNotFoundError", "FileExistsError", "PermissionError", "NotADirectoryError", "IsADirectoryError",
   "BlockingIOError", "ConnectionError", "BrokenPipeError", "ConnectionResetError", "InterruptedError",
   "ProcessLookupError"]

/-- `isinstance(exc, OSError)`; a `TimeoutError` is one. -/
def isOSError : Exn → Bool
  | .timeout _ _ => true
  | .other typeName => typeName ∈ osErrors
  | _ => false

/-- `_discard_staged`. -/
def discardStaged (staged : StagedArtifact) : LifeM Unit := do
  match ← attempt (life (.discard staged)) with
  | .ok () => pure ()
  | .error exc => if exc.isExtensionError || isOSError exc then pure () else raise exc

/-- `discard_staged_record`. -/
def discardStagedRecord : LifeM Unit :=
  if record.installPath.isSome then pure ()
  else do
    let exists_ : Bool ← life (.isDirectory record.manifest.root)
    if exists_ then discardStaged ⟨record.id, record.manifest.root, record.artifactHash⟩ else pure ()

/-- `_recover_record`. -/
def recoverRecord : LifeM ExtensionRecord :=
  match record.state with
  | .enabled => recoverEnabled record
  | .uninstalling => do
    let installed : Bool ← (match record.installPath with
      | some path => life (.isDirectory path)
      | none => pure false)
    let mapped := if installed then record.as .disabled else record.removed
    let _ ← life (.saveRecord mapped none)
    pure mapped
  | state =>
    match transientMapping state with
    | some mapped => do
      let _ ← (if state = .staged then discardStagedRecord record else pure ())
      let _ ← life (.saveRecord (record.as mapped) none)
      pure (record.as mapped)
    | none => pure record

/-- One turn of the loop of `recover`. -/
def recoverOne : LifeM ExtensionRecord := do
  match ← attempt (recoverRecord record) with
  | .ok recovered => pure recovered
  | .error exc => onException (fun _ => do
      let _ ← suppress (life (.stop record))
      let _ ← life (.saveRecord (record.as .quarantined) none)
      let _ ← recordOperation record.id "recover" (some "RECOVERY_FAILED")
      pure (record.as .quarantined)) exc

/-- The loop of `recover`: the records that came back enabled. -/
def recoverEach : List ExtensionRecord → LifeM (List ExtensionRecord)
  | [] => pure []
  | record :: records => do
    let recovered ← recoverOne record
    let enabled ← recoverEach records
    pure (if recovered.state = .enabled then recovered :: enabled else enabled)

/-- `ExtensionSupervisorService.recover`. -/
def recoverAll : LifeM Unit := do
  let _ ← life (.interruptRunning "SUPERVISOR_RESTART")
  let records : List ExtensionRecord ← life .allRecords
  let enabled ← recoverEach records
  life (.registryReplaceAll enabled)

end PersonalAssistant.Lifecycle
