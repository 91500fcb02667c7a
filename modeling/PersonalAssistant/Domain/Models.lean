import PersonalAssistant.Domain.Value

/-!
# Tools, calls and outcomes

The value objects of `domain/models.py` and `domain/enums.py` that the gateway, the runtime
and the approval service share. What `__post_init__` checks is a field of the structure, so
that a descriptor or a call in hand is one the constructor accepted. A `frozenset` is the
list of its members.
-/

namespace PersonalAssistant

/-- A reading of the clock, in microseconds. -/
abbrev Time := Int

/-- `RiskLevel`: assigned by deterministic policy, never by the model. -/
inductive RiskLevel where
  | read
  | internalWrite
  | externalWrite
  | prohibited
  deriving DecidableEq, Repr

/-- The persisted value of a risk level. -/
def RiskLevel.value : RiskLevel → String
  | .read => "READ"
  | .internalWrite => "INTERNAL_WRITE"
  | .externalWrite => "EXTERNAL_WRITE"
  | .prohibited => "PROHIBITED"

/-- Attachment identity used by an exact approval snapshot. -/
structure AttachmentDigest where
  name : String
  sha256 : String
  sizeBytes : Nat
  name_ne : name ≠ ""
  sha256_hex : sha256.length = 64 ∧ ∀ c ∈ sha256.toList, c ∈ "0123456789abcdef".toList
  deriving DecidableEq, Repr

/-- `AttachmentDigest(name, sha256, size_bytes)`: the digest is lowered before it is checked. -/
def AttachmentDigest.make (name sha256 : String) (sizeBytes : Int) : Except Exn AttachmentDigest :=
  let digest := String.ofList (sha256.toList.map Char.toLower)
  if hname : name = "" then .error (validationError "attachment name is required")
  else if hhex : digest.length = 64 ∧ ∀ c ∈ digest.toList, c ∈ "0123456789abcdef".toList then
    if sizeBytes < 0 then .error (validationError "attachment size_bytes cannot be negative")
    else .ok ⟨name, digest, sizeBytes.toNat, hname, hhex⟩
  else .error (validationError "attachment sha256 must be 64 hexadecimal characters")

/-- `ToolDescriptor`: a capability declaration published in a registry snapshot. The
extension version has its default, the tool version, filled in. -/
structure ToolDescriptor where
  id : String
  version : String
  extensionId : String
  inputSchema : Value
  outputSchema : Value
  risk : RiskLevel
  extensionVersion : String
  requiredCapabilities : List String
  timeoutSeconds : Rat
  identified : ¬ isBlank id ∧ ¬ isBlank version ∧ ¬ isBlank extensionId ∧ ¬ isBlank extensionVersion
  bounded : 0 < timeoutSeconds ∧ timeoutSeconds ≤ 15 * 60

/-- `ToolCall`: a planner candidate; the gateway still performs all checks. -/
structure ToolCall where
  toolId : String
  toolVersion : String
  arguments : List (String × Value)
  taskId : String
  target : Value
  attachments : List AttachmentDigest
  grantedCapabilities : List String
  workflowAllowedTools : List String
  approvalId : Option String
  idempotencyKey : Option String
  formVersion : Option String
  identified : toolId ≠ "" ∧ toolVersion ≠ "" ∧ taskId ≠ ""

/-- `ToolOutcomeKind`. -/
inductive ToolOutcomeKind where
  | success
  | approvalRequired
  | userActionRequired
  | extensionUnavailable
  | outcomeUnknown
  | safetyPause
  | failed
  deriving DecidableEq, Repr

/-- `ToolOutcome`. -/
structure ToolOutcome where
  kind : ToolOutcomeKind
  result : Value := .none
  message : Option String := none
  referenceId : Option String := none
  approvalId : Option String := none
  extensionId : Option String := none
  retryable : Bool := false

/-- `ToolOutcome.failed`. -/
def ToolOutcome.failed (message : String) (retryable : Bool := false) : ToolOutcome :=
  { kind := .failed, message := some message, retryable := retryable }

/-- `ToolOutcome.unknown`. -/
def ToolOutcome.unknown (referenceId : String) (message : Option String) : ToolOutcome :=
  { kind := .outcomeUnknown, message := message, referenceId := some referenceId }

/-- `ToolExecutionContext`. -/
structure ToolExecutionContext where
  attemptId : String
  taskId : String
  idempotencyKey : String
  approvalId : Option String
  deriving DecidableEq, Repr

/-- `RegistrySnapshot`: the published tools, looked up by exact version. -/
structure RegistrySnapshot where
  generation : Nat
  tools : List ToolDescriptor

/-- `RegistrySnapshot.resolve`. -/
def RegistrySnapshot.resolve (snapshot : RegistrySnapshot) (toolId version : String) :
    Except Exn ToolDescriptor :=
  match snapshot.tools.find? fun tool => tool.id = toolId ∧ tool.version = version with
  | some tool => .ok tool
  | none => .error (notFoundError ("tool not registered: " ++ toolId ++ "@" ++ version))

end PersonalAssistant
