import PersonalAssistant.Domain.Models

/-!
# Approval records

The states of an approval and their transitions (`core/approvals/state_machine.py`), the
binding an approval is for, its record, and the repository both as the in-memory and as the
PostgreSQL adapter implement it: every write is a compare-and-set on the version.
-/

namespace PersonalAssistant

open List

/-- `hmac.compare_digest` of two strings, which must be ASCII. -/
def compareDigest (a b : String) : Except Exn Bool :=
  if a.toList.all Char.isAscii ∧ b.toList.all Char.isAscii then .ok (decide (a = b)) else .error (.other "TypeError")

theorem compareDigest_true {a b : String} (h : compareDigest a b = .ok true) : a = b := by
  unfold compareDigest at h
  split at h
  · exact of_decide_eq_true (Except.ok.inj h)
  · cases h

theorem strip_sha256Hex (host : Host) (text : String) :
    strip (host.sha256Hex text) = host.sha256Hex text := by
  have visible : ∀ c ∈ (host.sha256Hex text).toList, isPySpace c = false := by
    intro c hc
    have hex := all_eq_true.mp (host.sha256Hex_hex text) c hc
    have shown : "0123456789abcdef".toList.all (fun c => !isPySpace c) := by decide
    simpa using all_eq_true.mp shown c (contains_iff_mem.mp hex)
  have keep : ∀ l : List Char, (∀ c ∈ l, isPySpace c = false) → l.dropWhile isPySpace = l := by
    intro l hl
    cases l with
    | nil => rfl
    | cons c l => simp [hl c mem_cons_self]
  unfold strip
  rw [keep _ visible, keep _ fun c hc => visible c (mem_reverse.mp hc), reverse_reverse,
    String.ofList_toList]

theorem sha256Hex_ascii (host : Host) (text : String) : (host.sha256Hex text).toList.all Char.isAscii := by
  refine all_eq_true.mpr fun c mem => ?_
  have hex := all_eq_true.mp (host.sha256Hex_hex text) c mem
  have ascii : "0123456789abcdef".toList.all Char.isAscii := by decide
  exact all_eq_true.mp ascii c (contains_iff_mem.mp hex)

theorem compareDigest_ascii {a b : String} (left : a.toList.all Char.isAscii) (right : b.toList.all Char.isAscii) :
    compareDigest a b = .ok (decide (a = b)) := if_pos ⟨left, right⟩

theorem compareDigest_error {a b : String} (right : ¬ b.toList.all Char.isAscii) :
    compareDigest a b = .error (.other "TypeError") := if_neg fun both => right both.2

/-- `ApprovalState`. -/
inductive ApprovalState where
  | draft
  | prepared
  | waitingApproval
  | approved
  | executing
  | succeeded
  | failed
  | unknown
  | expired
  | cancelled
  deriving DecidableEq, Repr

namespace ApprovalState

/-- The persisted value of a state. -/
def value : ApprovalState → String
  | draft => "DRAFT"
  | prepared => "PREPARED"
  | waitingApproval => "WAITING_APPROVAL"
  | approved => "APPROVED"
  | executing => "EXECUTING"
  | succeeded => "SUCCEEDED"
  | failed => "FAILED"
  | unknown => "UNKNOWN"
  | expired => "EXPIRED"
  | cancelled => "CANCELLED"

/-- `_ALLOWED`, the transition table. -/
def allowed : ApprovalState → List ApprovalState
  | draft => [prepared, cancelled]
  | prepared => [waitingApproval, cancelled]
  | waitingApproval => [approved, expired, cancelled]
  | approved => [executing, expired, cancelled]
  | executing => [succeeded, failed, unknown]
  | succeeded | failed | unknown | expired | cancelled => []

/-- `ensure_approval_transition`. -/
def ensureTransition (current target : ApprovalState) : Except Exn Unit :=
  if target ∈ allowed current then .ok ()
  else .error (.domain .invalidStateTransition
    ("state transition is not allowed: " ++ current.value ++ " -> " ++ target.value))

/-- The states in which an approval was handed to an execution: it is executing or that
execution ended. -/
def consumed : ApprovalState → Bool
  | executing | succeeded | failed | unknown => true
  | _ => false

end ApprovalState

/-- `ApprovalBinding`: every user-visible field whose change invalidates an approval. -/
structure ApprovalBinding where
  actionType : String
  taskId : String
  toolId : String
  toolVersion : String
  extensionId : String
  extensionVersion : String
  target : Value
  payload : Value
  attachments : List AttachmentDigest
  formVersion : Value

namespace ApprovalBinding

/-- `__post_init__`: the identity fields must not be blank. -/
def check (binding : ApprovalBinding) : Except Exn ApprovalBinding :=
  if [binding.actionType, binding.taskId, binding.toolId, binding.toolVersion, binding.extensionId,
      binding.extensionVersion].any isBlank then
    .error (validationError "approval binding identity fields are required")
  else .ok binding

/-- `ApprovalBinding.envelope`: the complete canonicalizable action snapshot. -/
def envelope (binding : ApprovalBinding) : Value :=
  .dict [("action_type", .str binding.actionType), ("task_id", .str binding.taskId),
    ("tool_id", .str binding.toolId), ("tool_version", .str binding.toolVersion),
    ("extension_id", .str binding.extensionId), ("extension_version", .str binding.extensionVersion),
    ("target", binding.target), ("payload", binding.payload),
    ("attachments", .list (binding.attachments.map fun item =>
      .dict [("name", .str item.name), ("sha256", .str item.sha256), ("size_bytes", .int item.sizeBytes)])),
    ("form_version", binding.formVersion)]

end ApprovalBinding

/-- `ApprovalRecord`. -/
structure ApprovalRecord where
  id : String
  state : ApprovalState
  actionFingerprint : String
  canonicalAction : String
  nonce : String
  createdAt : Time
  expiresAt : Time
  version : Nat := 0
  approvedAt : Option Time := none
  approvedBy : Option String := none
  consumedAt : Option Time := none
  completedAt : Option Time := none
  resultReference : Option String := none
  failureReason : Option String := none
  deriving DecidableEq, Repr

namespace ApprovalRecord

/-- `ApprovalService._is_expirable`. -/
def isExpirable (record : ApprovalRecord) : Bool :=
  record.state = .waitingApproval ∨ record.state = .approved

/-- The condition under which `get`, `approve` and `consume_for_execution` expire a record. -/
def hasExpired (record : ApprovalRecord) (now : Time) : Bool :=
  record.isExpirable ∧ record.expiresAt ≤ now

/-- The fields no operation changes after `prepare`. -/
structure SameAction (a b : ApprovalRecord) : Prop where
  id : a.id = b.id
  actionFingerprint : a.actionFingerprint = b.actionFingerprint
  canonicalAction : a.canonicalAction = b.canonicalAction
  nonce : a.nonce = b.nonce
  expiresAt : a.expiresAt = b.expiresAt

theorem SameAction.rfl {a : ApprovalRecord} : SameAction a a := ⟨.refl _, .refl _, .refl _, .refl _, .refl _⟩

theorem SameAction.trans {a b c : ApprovalRecord} (h : SameAction a b) (h' : SameAction b c) :
    SameAction a c :=
  ⟨h.id.trans h'.id, h.actionFingerprint.trans h'.actionFingerprint,
    h.canonicalAction.trans h'.canonicalAction, h.nonce.trans h'.nonce, h.expiresAt.trans h'.expiresAt⟩

end ApprovalRecord

end PersonalAssistant
