import PersonalAssistant.Coro.Faults
import PersonalAssistant.Lifecycle.Registry

/-!
# What the extension lifecycle awaits

The requests of `InstallCoordinator`, `LifecycleManager` and `ExtensionSupervisorService` to
everything outside them, and the state that answers some of them: the lifecycle store, the
registry, and the plans and purge previews kept in memory. The runtime, the stager, the
installer, the verifier, the version operator and the data store answer anything.

The registry and the memory are not awaited in the source; a request to them is a stretch of
code between two awaits. `claimPlan` is the one that `_execute_install` begins with: nothing
runs between its look at the plan and the mark that the plan is consumed.
-/

namespace PersonalAssistant.Lifecycle

open Coro

/-- `StagedArtifact`. -/
structure StagedArtifact where
  source : String
  root : String
  artifactHash : String
  deriving DecidableEq, Repr

/-- `InstalledArtifact`. -/
structure InstalledArtifact where
  installPath : String
  runtimeKey : String
  runtimeRoot : Option String := none
  deriving DecidableEq, Repr

/-- The mode of a plan. -/
inductive PlanMode where
  | install
  | upgrade
  deriving DecidableEq, Repr

/-- The text of a mode. -/
def PlanMode.value : PlanMode → String
  | install => "install"
  | upgrade => "upgrade"

/-- What the coordinator reads of an `InstallationPreview`. -/
structure InstallationPreview where
  planId : String
  confirmationNonce : String
  expiresAt : Int
  artifactHash : String
  previewHash : String
  mode : PlanMode
  replacesVersion : Option String
  deriving DecidableEq, Repr

/-- `InstallationConfirmation`. -/
structure InstallationConfirmation where
  planId : String
  confirmationNonce : String
  previewHash : String
  actor : String
  confirmedAt : Int
  acceptedWarning : Bool
  deriving DecidableEq, Repr

/-- `_PendingInstall`. -/
structure PendingInstall where
  staged : StagedArtifact
  manifest : ExtensionManifest
  preview : InstallationPreview
  consumed : Bool := false
  deriving DecidableEq, Repr

/-- What `purge` compares of a `PurgePreview`. -/
structure PurgePreview where
  confirmationNonce : String
  previewHash : String
  deriving DecidableEq, Repr

/-- What the first stretch of `_execute_install` ends with, where it raises nothing: the
artifact changed since the preview, or the plan may be executed. -/
inductive Claim where
  | changed (staged : StagedArtifact)
  | granted (plan : PendingInstall)

/-- The requests. -/
inductive LifeOp where
  | getRecord (extensionId : String)
  | allRecords
  | saveRecord (record : ExtensionRecord) (expected : Option (ExtensionState × String))
  | registryEnable (record : ExtensionRecord)
  | registryDisable (extensionId : String)
  | registryReplaceAll (records : List ExtensionRecord)
  | pendingPurge (extensionId : String)
  | rememberPurge (extensionId : String) (preview : PurgePreview)
  | forgetPurge (extensionId : String)
  | stalePlans (extensionId : String)
  | popPlan (planId : String)
  | registerPlan (plan : PendingInstall)
  | claimPlan (planId : String) (confirmation : Option InstallationConfirmation) (mode : PlanMode)
  | consumePlan (planId : String)
  | start (record : ExtensionRecord)
  | health (record : ExtensionRecord)
  | drain (record : ExtensionRecord) (deadlineEpoch : Rat)
  | stop (record : ExtensionRecord)
  | activate (old candidate : ExtensionRecord)
  | rollbackVersion (current : ExtensionRecord)
  | stage (source : String)
  | computeHash (root : String)
  | parse (root : String)
  | discard (staged : StagedArtifact)
  | install (staged : StagedArtifact) (manifest : ExtensionManifest)
  | verify (installed : InstalledArtifact) (manifest : ExtensionManifest)
  | uninstallCode (record : ExtensionRecord)
  | removeVersion (record : ExtensionRecord)
  | removeOrphanVersion (extensionId version : String)
  | cleanFailedInstall (staged : StagedArtifact)
  | isDirectory (path : String)
  | namespaces (extensionId : String)
  | purgeData (extensionId : String)
  | createOperation (extensionId kind : String) (diagnosticCode : Option String)
  | interruptRunning (diagnosticCode : String)
  | hashPayload (payload : Value)
  | tokenUrlsafe
  | now
  | timestamp

/-- The type of each answer. -/
@[reducible] def LifeOp.Ans : LifeOp → Type
  | getRecord _ => Option ExtensionRecord
  | allRecords => List ExtensionRecord
  | saveRecord _ _ => Bool
  | registryEnable _ | registryDisable _ | registryReplaceAll _ => Unit
  | pendingPurge _ => Option PurgePreview
  | rememberPurge _ _ | forgetPurge _ => Unit
  | stalePlans _ => List String
  | popPlan _ => Option PendingInstall
  | registerPlan _ => Unit
  | claimPlan _ _ _ => Claim
  | consumePlan _ => Unit
  | start _ | stop _ | activate _ _ => Unit
  | health _ => Bool
  | drain _ _ => Option (List (String × Value))
  | rollbackVersion _ => ExtensionRecord
  | stage _ => StagedArtifact
  | computeHash _ => String
  | parse _ => ExtensionManifest
  | install _ _ => InstalledArtifact
  | discard _ | verify _ _ | uninstallCode _ | removeVersion _ | removeOrphanVersion _ _ | cleanFailedInstall _ => Unit
  | isDirectory _ => Bool
  | namespaces _ => List String
  | purgeData _ | createOperation _ _ _ | interruptRunning _ => Unit
  | hashPayload _ | tokenUrlsafe => String
  | now => Int
  | timestamp => Rat

/-- The port of the lifecycle. -/
abbrev LifePort : Port := ⟨LifeOp, LifeOp.Ans⟩

/-- A coroutine of the lifecycle. -/
abbrev LifeM (α : Type) : Type := Prog LifePort Exn α

/-- Await one request. -/
abbrev life (op : LifeOp) : LifeM op.Ans := Prog.perform (P := LifePort) op

/-- An answered request. -/
abbrev LifeEvent : Type := Event LifePort Exn

/-- A fault at a request. -/
abbrev LifeFault : Type := Fault LifePort Exn

/-- `ConfirmationRequiredError(message)`. -/
abbrev confirmationRequired (message : String) : Exn := .runtime (.extension .confirmationRequired) message

/-- `ExtensionOperationError(code, message)`. -/
abbrev operationError (code message : String) : Exn := .runtime (.extensionOperation code) message

/-- `_validate_confirmation` at the time `now`. -/
def validateConfirmation (now : Int) (preview : InstallationPreview) : Option InstallationConfirmation → Except Exn Unit
  | none => .error (confirmationRequired "explicit installation confirmation is required")
  | some confirmation =>
    if confirmation.acceptedWarning = false then
      .error (confirmationRequired "the trusted-code warning was not accepted")
    else if isBlank confirmation.actor then .error (confirmationRequired "confirmation actor is required")
    else if (confirmation.planId, confirmation.confirmationNonce, confirmation.previewHash) ≠
        (preview.planId, preview.confirmationNonce, preview.previewHash) then
      .error (confirmationRequired "confirmation does not match the exact preview")
    else if confirmation.confirmedAt > now + 60 * 1000000 then
      .error (confirmationRequired "confirmation timestamp is in the future")
    else if confirmation.confirmedAt > preview.expiresAt ∨ now > preview.expiresAt then
      .error (confirmationRequired "installation confirmation has expired")
    else .ok ()

/-- The plans of a coordinator, by their id. -/
abbrev Plans : Type := List (String × PendingInstall)

/-- `plan.consumed = True`. -/
def Plans.consume (plans : Plans) (planId : String) : Plans :=
  plans.map fun entry => if entry.1 = planId then (entry.1, { entry.2 with consumed := true }) else entry

/-- `_pending.pop(plan_id, None)`. -/
def Plans.pop (plans : Plans) (planId : String) : Plans := plans.filter fun entry => entry.1 ≠ planId

/-- `_execute_install` as far as its first await: at the time `now`, with the artifact's hash
computed again. Only an install is consumed here; an upgrade is first compared with the
stored version. -/
def Plans.claim (plans : Plans) (now : Int) (hash : String) (planId : String)
    (confirmation : Option InstallationConfirmation) (mode : PlanMode) : Except Exn Claim × Plans :=
  match plans.lookup planId with
  | none => (.error (confirmationRequired "installation plan is missing or already consumed"), plans)
  | some plan =>
    if plan.consumed then (.error (confirmationRequired "installation plan is missing or already consumed"), plans)
    else if plan.preview.mode ≠ mode then
      (.error (operationError "PLAN_MODE_MISMATCH"
        ("plan mode is '" ++ plan.preview.mode.value ++ "', expected '" ++ mode.value ++ "'")), plans)
    else
      match validateConfirmation now plan.preview confirmation with
      | .error e => (.error e, plans)
      | .ok () =>
        if hash ≠ plan.preview.artifactHash then (.ok (.changed plan.staged), plans.pop plan.preview.planId)
        else
          match mode with
          | .install => (.ok (.granted plan), plans.consume planId)
          | .upgrade => (.ok (.granted plan), plans)

/-- The state behind the requests: the stored records, the registry, and the memory of the
manager and of the coordinator. -/
structure System where
  store : Published
  registry : Registry
  purges : List (String × PurgePreview)
  plans : Plans

/-- What a claim depends on besides the plans. -/
structure Reading where
  now : Int
  hash : String

/-- A change of the registry, and its answer. -/
def System.publish (s : System) : Except Exn Registry → Except Exn Unit × System
  | .ok registry => (.ok (), { s with registry := registry })
  | .error e => (.error e, s)

/-- `save`: unconditional, or only over the state and version that are expected. -/
def System.save (s : System) (record : ExtensionRecord) (expected : Option (ExtensionState × String)) : Bool × System :=
  match expected with
  | none => (true, { s with store := s.store.put record })
  | some (state, version) =>
    match s.store.get record.id with
    | some current =>
      if current.state = state ∧ current.manifest.version = version then (true, { s with store := s.store.put record })
      else (false, s)
    | none => (false, s)

/-- What a request does to the state, and its answer; `none` for a request to the outside. -/
def LifeOp.effect (k : Reading) (s : System) : (op : LifeOp) → Option (Except Exn op.Ans × System)
  | getRecord id => some (.ok (s.store.get id), s)
  | allRecords => some (.ok ((s.store.items.mergeSort fun x y => x.1 ≤ y.1).map Prod.snd), s)
  | saveRecord record expected => some (.ok (s.save record expected).1, (s.save record expected).2)
  | registryEnable record => some (s.publish (s.registry.enable record))
  | registryDisable id => some (s.publish (s.registry.disable id))
  | registryReplaceAll records => some (s.publish (s.registry.replaceAll records))
  | pendingPurge id => some (.ok (s.purges.lookup id), s)
  | rememberPurge id preview => some (.ok (), { s with purges := dictSet id preview s.purges })
  | forgetPurge id => some (.ok (), { s with purges := s.purges.filter fun entry => entry.1 ≠ id })
  | stalePlans id => some (.ok ((s.plans.filter fun entry => entry.2.manifest.id = id).map Prod.fst), s)
  | popPlan planId => some (.ok (s.plans.lookup planId), { s with plans := s.plans.pop planId })
  | registerPlan plan => some (.ok (), { s with plans := dictSet plan.preview.planId plan s.plans })
  | claimPlan planId confirmation mode =>
    let claimed := s.plans.claim k.now k.hash planId confirmation mode
    some (claimed.1, { s with plans := claimed.2 })
  | consumePlan planId => some (.ok (), { s with plans := s.plans.consume planId })
  | start _ | health _ | drain _ _ | stop _ | activate _ _ | rollbackVersion _ | stage _ | computeHash _ | parse _
  | discard _ | install _ _ | verify _ _ | uninstallCode _ | removeVersion _ | removeOrphanVersion _ _
  | cleanFailedInstall _ | isDirectory _ | namespaces _ | purgeData _ | createOperation _ _ _ | interruptRunning _
  | hashPayload _ | tokenUrlsafe | now | timestamp => none

/-- The requests to the outside. Unless a fault strikes, they answer. -/
def LifeOp.outside : LifeOp → Bool
  | getRecord _ | allRecords | saveRecord _ _ | registryEnable _ | registryDisable _ | registryReplaceAll _
  | pendingPurge _ | rememberPurge _ _ | forgetPurge _ | stalePlans _ | popPlan _ | registerPlan _
  | claimPlan _ _ _ | consumePlan _ => false
  | _ => true

/-- The world of the lifecycle. -/
def world : World LifePort Exn System Reading where
  effect := LifeOp.effect
  drift _ s _ := s
  total := LifeOp.outside

/-- How the requests are answered where nothing fails. -/
abbrev answers : Answers LifePort Exn System := world.Reliable

/-- The requests to the registry, which run without an await. -/
def LifeOp.toRegistry : LifeOp → Bool
  | registryEnable _ | registryDisable _ | registryReplaceAll _ => true
  | _ => false

/-- The requests that are a call of a port: the store, the registry, the runtime and the
rest of the infrastructure, but not the memory of the process, its clock or its tokens. -/
def LifeOp.toPort : LifeOp → Bool
  | pendingPurge _ | rememberPurge _ _ | forgetPurge _ | stalePlans _ | popPlan _ | registerPlan _ | claimPlan _ _ _
  | consumePlan _ | hashPayload _ | tokenUrlsafe | now | timestamp => false
  | _ => true

/-- A failure or a cancellation of one port call. A shield keeps a cancellation away, and so
does code without an await; the registry raises before it changes anything. -/
structure Injected (shielded : Bool) (fault : LifeFault) : Prop where
  port : fault.op.toPort
  shield : shielded → fault.exn ≠ .cancelled
  registry : fault.op.toRegistry → fault.exn ≠ .cancelled ∧ fault.applied = false

end PersonalAssistant.Lifecycle
