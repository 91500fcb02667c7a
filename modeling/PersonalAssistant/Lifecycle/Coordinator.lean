import PersonalAssistant.Lifecycle.Manager

/-!
# `InstallCoordinator`

Staging, confirmation and installation of `core/extensions/lifecycle.py`. A plan is prepared
against the stored state, kept in memory, and later executed or rejected.
-/

namespace PersonalAssistant.Lifecycle

open Coro.Prog

/-- `_INSTALLABLE_STATES`. -/
def installableStates : List ExtensionState := [.uninstalled, .rejected, .staged]

/-- The zeros of the decimal digits of Unicode 15, which `\d` matches and `int` reads. -/
def decimalZeros : List Nat :=
  [0x30, 0x660, 0x6f0, 0x7c0, 0x966, 0x9e6, 0xa66, 0xae6, 0xb66, 0xbe6, 0xc66, 0xce6, 0xd66, 0xde6,
   0xe50, 0xed0, 0xf20, 0x1040, 0x1090, 0x17e0, 0x1810, 0x1946, 0x19d0, 0x1a80, 0x1a90, 0x1b50,
   0x1bb0, 0x1c40, 0x1c50, 0xa620, 0xa8d0, 0xa900, 0xa9d0, 0xa9f0, 0xaa50, 0xabf0, 0xff10, 0x104a0,
   0x10d30, 0x11066, 0x110f0, 0x11136, 0x111d0, 0x112f0, 0x11450, 0x114d0, 0x11650, 0x116c0,
   0x11730, 0x118e0, 0x11950, 0x11c50, 0x11d50, 0x11da0, 0x11f50, 0x16a60, 0x16ac0, 0x16b50,
   0x1d7ce, 0x1d7d8, 0x1d7e2, 0x1d7ec, 0x1d7f6, 0x1e140, 0x1e2f0, 0x1e4f0, 0x1e950, 0x1fbf0]

/-- The value of a decimal digit. -/
def decimal? (c : Char) : Option Nat :=
  (decimalZeros.find? fun first => first ≤ c.toNat ∧ c.toNat < first + 10).map (c.toNat - ·)

/-- One number of a version, and the text after it. -/
def takeNumber (text : List Char) : Option (Nat × List Char) :=
  match text.takeWhile (decimal? · |>.isSome) with
  | [] => none
  | digits => some ((digits.filterMap decimal?).foldl (fun n digit => 10 * n + digit) 0,
      text.dropWhile (decimal? · |>.isSome))

/-- `_semver_key`: the numbers of `^(\d+)\.(\d+)\.(\d+)`. -/
def semverKey (version : String) : Nat × Nat × Nat :=
  match takeNumber version.toList with
  | some (major, '.' :: text) =>
    match takeNumber text with
    | some (minor, '.' :: text) =>
      match takeNumber text with
      | some (patch, _) => (major, minor, patch)
      | none => (0, 0, 0)
    | _ => (0, 0, 0)
  | _ => (0, 0, 0)

/-- The order of the tuples. -/
def keyLe (x y : Nat × Nat × Nat) : Bool :=
  x.1 < y.1 || x.1 == y.1 && (x.2.1 < y.2.1 || x.2.1 == y.2.1 && x.2.2 ≤ y.2.2)

/-- `_require_upgrade_target`: the version to be replaced. -/
def requireUpgradeTarget (existing : Option ExtensionRecord) (manifest : ExtensionManifest) : Except Exn String :=
  match existing with
  | none => .error (extensionError ("no installed extension to upgrade: " ++ manifest.id))
  | some record =>
    if record.state = .uninstalled then .error (extensionError ("no installed extension to upgrade: " ++ manifest.id))
    else if record.state ∉ [.enabled, .disabled, .installedDisabled, .quarantined, .rolledBack] then
      .error (.runtime (.extension .invalidLifecycleTransition)
        ("cannot stage an upgrade from " ++ stateValue record.state))
    else if keyLe (semverKey manifest.version) (semverKey record.manifest.version) then
      .error (extensionError ("upgrade candidate must declare a version newer than " ++ record.manifest.version))
    else if manifest.stateSchemaVersion < record.manifest.stateSchemaVersion then
      .error (extensionError ("upgrade candidate would move the extension data schema backwards; " ++
        "use rollback for retained older versions"))
    else .ok record.manifest.version

/-- `existing is None or existing.state in _INSTALLABLE_STATES`. -/
def installable (existing : Option ExtensionRecord) : Bool :=
  existing.all fun record => record.state ∈ installableStates

/-- The mode of a plan, and the version it replaces, by the mode that was asked for and the
stored record. -/
def planFor (mode : Option PlanMode) (existing : Option ExtensionRecord) (manifest : ExtensionManifest) :
    Except Exn (PlanMode × Option String) :=
  match mode with
  | some .install =>
    if installable existing then .ok (.install, none)
    else .error (extensionError ("extension is already installed: " ++ manifest.id))
  | some .upgrade => (requireUpgradeTarget existing manifest).map fun replaced => (.upgrade, some replaced)
  | none =>
    if installable existing then .ok (.install, none)
    else (requireUpgradeTarget existing manifest).map fun replaced => (.upgrade, some replaced)

variable (plan : PendingInstall) (staged : StagedArtifact)

/-- `TRUST_WARNING`. -/
def trustWarning : String :=
  "安装即表示你信任此扩展以当前操作系统用户身份运行；独立 venv、Worker 和 " ++
    "JSON-RPC 仅隔离依赖与崩溃，不是恶意代码安全沙箱。"

/-- `_make_install_preview`. -/
def makeInstallPreview (manifest : ExtensionManifest) (expiresAt : Int) (mode : PlanMode)
    (replacesVersion : Option String) : LifeM InstallationPreview := do
  let token : String ← life .tokenUrlsafe
  let nonce : String ← life .tokenUrlsafe
  let planId := "install_" ++ token
  let hash : String ← life (.hashPayload (.dict
    [("plan_id", .str planId), ("nonce", .str nonce), ("expires_at", .int expiresAt), ("source", .str staged.source),
     ("artifact_hash", .str staged.artifactHash), ("extension_id", .str manifest.id),
     ("extension_name", .str manifest.name), ("extension_version", .str manifest.version),
     ("entrypoint", .str manifest.entrypoint),
     ("slots", .dict (manifest.slots.map fun slot => (slot.1, .list (slot.2.map .str)))),
     ("tool_risks", .dict (manifest.toolRisks.map fun tool => (tool.1, .str tool.2))),
     ("required_capabilities", .list (manifest.requiredCapabilities.map .str)),
     ("optional_capabilities", .list (manifest.optionalCapabilities.map .str)), ("warning", .str trustWarning),
     ("mode", .str mode.value), ("replaces_version", replacesVersion.elim .none .str)]))
  pure ⟨planId, nonce, expiresAt, staged.artifactHash, hash, mode, replacesVersion⟩

/-- `confirmation_ttl`. -/
def confirmationTtl : Int := 15 * 60 * 1000000

/-- The plan in the mode that was decided on. -/
def draft (manifest : ExtensionManifest) (planned : PlanMode × Option String) : LifeM PendingInstall := do
  let now : Int ← life .now
  let preview ← makeInstallPreview staged manifest (now + confirmationTtl) planned.1 planned.2
  pure { staged := staged, manifest := manifest, preview := preview }

/-- The body of the `try` in `_prepare`. -/
def inspect (mode : Option PlanMode) : LifeM PendingInstall := do
  let manifest : ExtensionManifest ← life (.parse staged.root)
  let existing : Option ExtensionRecord ← life (.getRecord manifest.id)
  let planned ← ofExcept (planFor mode existing manifest)
  draft staged manifest planned

/-- The loop of `_drop_pending`. -/
def dropEach : List String → LifeM Unit
  | [] => pure ()
  | planId :: planIds => do
    let found : Option PendingInstall ← life (.popPlan planId)
    let _ ← (match found with
      | some plan => if plan.consumed then pure () else discardStaged plan.staged
      | none => pure ())
    dropEach planIds

/-- `_drop_pending`. -/
def dropPending (extensionId : String) : LifeM Unit := do
  let stale : List String ← life (.stalePlans extensionId)
  dropEach stale

/-- The record of a plan that is not installed. -/
def PendingInstall.record (state : ExtensionState) : ExtensionRecord :=
  { manifest := plan.manifest, artifactHash := plan.staged.artifactHash, state := state }

/-- `_prepare` once the artifact has been inspected. -/
def registerPrepared : LifeM InstallationPreview := do
  let _ ← dropPending plan.manifest.id
  let _ ← life (.registerPlan plan)
  if plan.preview.mode = .install then do
    let _ ← life (.saveRecord (plan.record .staged) none)
    pure plan.preview
  else pure plan.preview

/-- The handler of `_prepare`. -/
def discardAndRaise {α : Type} (staged : StagedArtifact) (exc : Exn) : LifeM α := do
  let _ ← life (.discard staged)
  raise exc

/-- `_prepare`; `prepare`, `prepare_upgrade` and `prepare_auto` are its three modes. -/
def prepare (source : String) (mode : Option PlanMode) : LifeM InstallationPreview := do
  let staged : StagedArtifact ← life (.stage source)
  let computed : String ← life (.computeHash staged.root)
  if computed ≠ staged.artifactHash then do
    let _ ← life (.discard staged)
    raise (extensionError "staged artifact hash does not match its content")
  else
    match ← attempt (inspect staged mode) with
    | .ok plan => registerPrepared plan
    | .error exc => onException (discardAndRaise staged) exc

/-- `reject`. -/
def reject (planId : String) : LifeM ExtensionRecord := do
  match ← life (.popPlan planId) with
  | none => raise (operationError "PLAN_NOT_FOUND" "installation plan is missing or already consumed")
  | some plan =>
    if plan.consumed then raise (operationError "PLAN_NOT_FOUND" "installation plan is missing or already consumed")
    else do
      let _ ← life (.discard plan.staged)
      match plan.preview.mode with
      | .upgrade => do
        match ← life (.getRecord plan.manifest.id) with
        | none => raise (extensionError ("extension is no longer installed: " ++ plan.manifest.id))
        | some current => pure current
      | .install => do
        let _ ← life (.saveRecord (plan.record .rejected) none)
        pure (plan.record .rejected)

/-- The record of an installed plan. -/
def PendingInstall.installed (plan : PendingInstall) (installed : InstalledArtifact) : ExtensionRecord :=
  { manifest := { plan.manifest with root := installed.runtimeRoot.getD installed.installPath },
    artifactHash := plan.staged.artifactHash, state := .installedDisabled, installPath := some installed.installPath }

/-- `_abort_install`. -/
def abortInstall (installed : Option InstalledArtifact) (persist : Bool) : LifeM Unit := do
  let _ ← (match installed with
    | some installed => suppress (life (.removeVersion (plan.installed installed)))
    | none => pure ())
  let _ ← suppress (life (.cleanFailedInstall plan.staged))
  let _ ← discardStaged plan.staged
  if persist then suppress (life (.saveRecord (plan.record .rejected) none)) else pure ()

/-- `_verify_upgrade_baseline`. -/
def verifyUpgradeBaseline : LifeM Unit := do
  match ← life (.getRecord plan.manifest.id) with
  | none =>
    raise (operationError "PLAN_BASELINE_CHANGED" "the extension is no longer installed; create a new plan")
  | some current =>
    if current.state = .uninstalled then
      raise (operationError "PLAN_BASELINE_CHANGED" "the extension is no longer installed; create a new plan")
    else if plan.preview.replacesVersion ≠ some current.manifest.version then
      raise (operationError "PLAN_BASELINE_CHANGED"
        ("active version changed to '" ++ current.manifest.version ++ "' after the preview"))
    else if keyLe (semverKey plan.manifest.version) (semverKey current.manifest.version) then
      raise (operationError "PLAN_BASELINE_CHANGED" "upgrade candidate is no longer newer than the active version")
    else if plan.manifest.stateSchemaVersion < current.manifest.stateSchemaVersion then
      raise (operationError "PLAN_BASELINE_CHANGED" "upgrade candidate would move the extension data schema backwards")
    else pure ()

/-- The `try` of `_execute_install` as far as `installed` is assigned. -/
def unpack (mode : PlanMode) : LifeM InstalledArtifact := do
  let _ ← (match mode with
    | .install => life (.removeOrphanVersion plan.manifest.id plan.manifest.version)
    | .upgrade => pure ())
  life (.install plan.staged plan.manifest)

/-- The rest of it. -/
def finishInstall (installed : InstalledArtifact) (persist : Bool) : LifeM ExtensionRecord := do
  let _ ← life (.verify installed plan.manifest)
  let _ ← discardStaged plan.staged
  if persist then do
    let _ ← life (.saveRecord (plan.installed installed) none)
    pure (plan.installed installed)
  else pure (plan.installed installed)

/-- `_execute_install` of a plan that may be executed. -/
def carryOut (mode : PlanMode) (persist : Bool) : LifeM ExtensionRecord := do
  match ← attempt (unpack plan mode) with
  | .error exc => do
    let _ ← (abortInstall plan none persist).shield
    raise exc
  | .ok installed =>
    match ← attempt (finishInstall plan installed persist) with
    | .ok record => pure record
    | .error exc => do
      let _ ← (abortInstall plan (some installed) persist).shield
      raise exc

/-- `_execute_install`. -/
def executeInstall (planId : String) (confirmation : Option InstallationConfirmation) (mode : PlanMode)
    (persist : Bool) : LifeM ExtensionRecord := do
  match ← life (.claimPlan planId confirmation mode) with
  | .changed staged => do
    let _ ← discardStaged staged
    raise (confirmationRequired "staged artifact changed after preview; confirm the new content explicitly")
  | .granted plan =>
    match mode with
    | .install => carryOut plan .install persist
    | .upgrade => do
      let _ ← verifyUpgradeBaseline plan
      let _ ← life (.consumePlan planId)
      carryOut plan .upgrade persist

/-- `install`. -/
def install (planId : String) (confirmation : Option InstallationConfirmation) : LifeM ExtensionRecord :=
  executeInstall planId confirmation .install true

/-- `install_candidate`. -/
def installCandidate (planId : String) (confirmation : Option InstallationConfirmation) : LifeM ExtensionRecord :=
  executeInstall planId confirmation .upgrade false

end PersonalAssistant.Lifecycle
