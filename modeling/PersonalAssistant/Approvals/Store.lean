import PersonalAssistant.Approvals.Lifecycle

/-!
# The approval and intent stores

The shared state of the approval service and the side-effect outbox, and the operations that
are atomic on it: the approval repository (`InMemoryApprovalRepository`, and
`PostgresApprovalRepository` with the same contract), the two transactions of
`PostgresSideEffectOutbox`, and the reads and writes that `InMemorySideEffectOutbox` makes
without an await in between.
-/

namespace PersonalAssistant

open Function

/-- `SideEffectState`. -/
inductive SideEffectState where
  | prepared
  | executing
  | succeeded
  | failed
  | unknown
  deriving DecidableEq, Repr

namespace SideEffectState

/-- `SideEffectState.terminal`. -/
def terminal : SideEffectState → Bool
  | succeeded | failed | unknown => true
  | prepared | executing => false

/-- `ApprovalState(state.value)`, the approval state of the same name. -/
def toApprovalState : SideEffectState → ApprovalState
  | prepared => .prepared
  | executing => .executing
  | succeeded => .succeeded
  | failed => .failed
  | unknown => .unknown

end SideEffectState

/-- `SideEffectIntent`, with the `diagnostic_code` column of its table. -/
structure SideEffectIntent where
  id : String
  taskId : String
  toolId : String
  idempotencyKey : String
  approvalId : String
  canonicalPayloadSha256 : String
  state : SideEffectState
  createdAt : Time
  actionFingerprint : String
  receipt : List (String × Value) := []
  diagnosticCode : Option String := none
  deriving Repr

/-- The arguments of `SideEffectOutboxPort.finalize` after the two ids. -/
structure TerminalRecord where
  state : SideEffectState
  resultReference : Option String := none
  failureReason : Option String := none
  diagnosticCode : Option String := none
  receipt : Option (List (String × Value)) := none
  deriving Repr

/-- The approvals, each under its id, the intents, and the keys and the lock of the in-memory
outbox. -/
structure Store where
  approvals : String → Option ApprovalRecord
  intents : List SideEffectIntent
  keys : List (String × String)
  locked : Bool
  keyed : ∀ id record, approvals id = some record → record.id = id

namespace Store

/-- A store with nothing in it. -/
def empty : Store := ⟨fun _ => none, [], [], false, by simp⟩

/-- Put a record under its id. -/
def putApproval (s : Store) (record : ApprovalRecord) : Store :=
  { s with
    approvals := update s.approvals record.id (some record)
    keyed := by
      intro id found h
      by_cases hid : id = record.id
      · subst hid
        rw [update_self] at h
        exact (Option.some.inj h) ▸ rfl
      · rw [update_of_ne hid] at h
        exact s.keyed id found h }

/-- The intent of an id. -/
def intent? (s : Store) (id : String) : Option SideEffectIntent :=
  s.intents.find? (·.id = id)

/-- Replace the intents of an id. -/
def putIntent (s : Store) (intent : SideEffectIntent) : Store :=
  { s with intents := s.intents.map fun row => if row.id = intent.id then intent else row }

variable (s : Store) (r : ApprovalRecord)

@[simp] theorem putApproval_intents : (s.putApproval r).intents = s.intents := rfl

@[simp] theorem putApproval_keys : (s.putApproval r).keys = s.keys := rfl

@[simp] theorem putApproval_self : (s.putApproval r).approvals r.id = some r := by
  simp [putApproval]

variable {rows : List SideEffectIntent} {id : String}

theorem putApproval_of_ne (h : id ≠ r.id) :
    (s.putApproval r).approvals id = s.approvals id := by
  simp [putApproval, update_of_ne h]

@[simp] theorem putIntent_approvals (i : SideEffectIntent) :
    (s.putIntent i).approvals = s.approvals := rfl

/-- `ApprovalRepository.create`. -/
def createApproval (s : Store) (record : ApprovalRecord) : Except Exn Unit × Store :=
  match s.approvals record.id with
  | some _ => (.error (.domain .alreadyExists ("approval already exists: " ++ record.id)), s)
  | none => (.ok (), s.putApproval record)

/-- `ApprovalRepository.get`. -/
def getApproval (s : Store) (id : String) : Except Exn ApprovalRecord :=
  match s.approvals id with
  | some record => .ok record
  | none => .error (notFoundError ("approval not found: " ++ id))

/-- `ApprovalRepository.save`: a compare-and-set on the version. -/
def saveApproval (s : Store) (record : ApprovalRecord) (expectedVersion : Nat) :
    Except Exn ApprovalRecord × Store :=
  match s.approvals record.id with
  | none => (.error (notFoundError ("approval not found: " ++ record.id)), s)
  | some current =>
    if current.version ≠ expectedVersion then
      (.error (.domain .concurrentModification ("approval " ++ record.id ++ " expected version " ++
        toString expectedVersion ++ ", found " ++ toString current.version)), s)
    else
      let saved := { record with version := expectedVersion + 1 }
      (.ok saved, s.putApproval saved)

/-- The value of a field of `ApprovalRecord.action`; it is also the `task_id` column that the
PostgreSQL repository derives from the action. -/
def actionField (host : Host) (record : ApprovalRecord) (key : String) : Option Value :=
  match host.jsonLoads record.canonicalAction with
  | .ok action => action.get? key
  | .error _ => none

/-- Whether an action was prepared for the task. -/
def boundToTask (host : Host) (record : ApprovalRecord) (taskId : String) : Bool :=
  match actionField host record "task_id" with
  | some (.str task) => task = taskId
  | _ => false

/-- `PostgresSideEffectOutbox.create_with_approval_consumption`: one transaction at the
database time `now`. A drifted or expired approval is burnt and the burn is committed before
the error; a reused key rolls the consumption back. -/
def createWithApprovalConsumption (host : Host) (s : Store) (now : Time) (intent : SideEffectIntent) :
    Except Exn Unit × Store :=
  if intent.actionFingerprint = "" then
    (.error (validationError "side-effect intent requires the complete action fingerprint"), s)
  else match s.approvals intent.approvalId with
  | none => (.error (notFoundError ("approval not found: " ++ intent.approvalId)), s)
  | some approval =>
    if approval.state ≠ .approved then
      (.error (.domain .approvalState
        ("approval " ++ intent.approvalId ++ " is " ++ approval.state.value ++ ", not approved")), s)
    else match compareDigest (strip approval.actionFingerprint) intent.actionFingerprint with
    | .error e => (.error e, s)
    | .ok same =>
      if approval.expiresAt ≤ now then
        (.error (.domain .approvalExpired ("approval expired: " ++ intent.approvalId)),
          s.putApproval { approval with
            state := .expired, version := approval.version + 1, completedAt := some approval.expiresAt,
            failureReason := some "approval expired", resultReference := none })
      else if same = false ∨ boundToTask host approval intent.taskId = false then
        (.error (.domain .approvalBindingMismatch "target, payload, attachment or extension version changed"),
          s.putApproval { approval with
            state := .cancelled, version := approval.version + 1, completedAt := some now,
            failureReason := some "approved action changed after preview", resultReference := none })
      else if s.intents.any fun row => row.id = intent.id ∨
          (row.toolId = intent.toolId ∧ row.idempotencyKey = intent.idempotencyKey) then
        (.error (validationError "side-effect intent idempotency key was reused"), s)
      else
        (.ok (), { s.putApproval { approval with
            state := .executing, version := approval.version + 1, consumedAt := some now } with
          intents := s.intents ++ [intent] })

/-- `PostgresSideEffectOutbox.finalize`: the terminal result on both rows in one transaction. -/
def finalize (s : Store) (now : Time) (intentId approvalId : String) (terminal : TerminalRecord) :
    Except Exn Unit × Store :=
  if terminal.state.terminal = false then
    (.error (validationError "finalize requires a terminal side-effect state"), s)
  else match s.approvals approvalId with
  | none => (.error (notFoundError ("approval not found: " ++ approvalId)), s)
  | some approval =>
    if approval.state ≠ .executing then
      (.error (.domain .approvalState
        ("approval " ++ approvalId ++ " is " ++ approval.state.value ++ ", not executing")), s)
    else match s.intent? intentId with
    | none => (.error (notFoundError ("side-effect intent not found: " ++ intentId)), s)
    | some intent =>
      if intent.approvalId ≠ approvalId then
        (.error (validationError "intent and approval do not belong together"), s)
      else if intent.state.terminal then
        (.error (validationError ("side-effect intent " ++ intentId ++ " is already finalized")), s)
      else
        let finished := if terminal.state = .succeeded then
            { intent with state := terminal.state, receipt := terminal.receipt.getD [], diagnosticCode := none }
          else
            { intent with
              state := terminal.state
              diagnosticCode := pyOr terminal.diagnosticCode terminal.failureReason }
        (.ok (), (s.putIntent finished).putApproval { approval with
          state := terminal.state.toApprovalState, version := approval.version + 1,
          completedAt := some now, resultReference := terminal.resultReference,
          failureReason := terminal.failureReason })

/-- `PostgresSideEffectOutbox._finish`: the row is updated whatever its state. -/
def finishRow (s : Store) (intentId : String) (state : SideEffectState) (receipt : Option (List (String × Value)))
    (diagnostic : Option String) : Except Exn Unit × Store :=
  match s.intent? intentId with
  | none => (.error (notFoundError ("side-effect intent not found: " ++ intentId)), s)
  | some intent =>
    (.ok (), s.putIntent { intent with
      state := state, receipt := receipt.getD intent.receipt, diagnosticCode := diagnostic })

/-- `PostgresSideEffectOutbox.mark_succeeded`. -/
def markSucceeded (s : Store) (intentId : String) (receipt : List (String × Value)) : Except Exn Unit × Store :=
  s.finishRow intentId .succeeded (some receipt) none

/-- `PostgresSideEffectOutbox.mark_failed`. -/
def markFailed (s : Store) (intentId errorCode : String) : Except Exn Unit × Store :=
  s.finishRow intentId .failed none (some errorCode)

/-- `PostgresSideEffectOutbox.mark_unknown`. -/
def markUnknown (s : Store) (intentId diagnosticCode : String) : Except Exn Unit × Store :=
  s.finishRow intentId .unknown none (some diagnosticCode)

/-- The last lines of the in-memory `create_with_approval_consumption`: remember the key and
the intent. -/
def rememberIntent (s : Store) (intent : SideEffectIntent) : Store :=
  { s with
    keys := (intent.toolId, intent.idempotencyKey) :: s.keys
    intents := s.intents.filter (·.id ≠ intent.id) ++ [intent] }

/-- The body of the in-memory `_finish`: the state is replaced whatever it was. -/
def finishIntent (s : Store) (intentId : String) (state : SideEffectState)
    (receipt : Option (List (String × Value))) :
    Except Exn Unit × Store :=
  match s.intent? intentId with
  | none => (.error (notFoundError ("side-effect intent not found: " ++ intentId)), s)
  | some intent =>
    (.ok (), s.putIntent { intent with state := state, receipt := receipt.getD intent.receipt })

theorem intent?_putIntent {s : Store} {row new : SideEffectIntent} (found : s.intent? id = some row)
    (h : new.id = row.id) : (s.putIntent new).intent? id = some new := by
  have hid : row.id = id := by simpa using List.find?_some found
  obtain rfl : new.id = id := h.trans hid
  exact find?_map_set found

/-- A new intent at the end is found, when no other has its id. -/
theorem find?_intent_append {intent : SideEffectIntent}
    (fresh : ∀ row ∈ rows, row.id ≠ intent.id) : (rows ++ [intent]).find? (·.id = intent.id) = some intent := by
  rw [List.find?_append, List.find?_eq_none.mpr (by simpa using fresh)]
  simp

section Cases

variable {host : Host} {s s' : Store} {now : Time} {terminal : TerminalRecord} {record : ApprovalRecord}
  {approvalId : String}

theorem saveApproval_cases {version : Nat} {a : Except Exn ApprovalRecord}
    (h : (a, s') = s.saveApproval record version) :
    (s' = s ∧ ∃ e, a = .error e) ∨
      ∃ current, s.approvals record.id = some current ∧ current.version = version ∧
        a = .ok { record with version := version + 1 } ∧
        s' = s.putApproval { record with version := version + 1 } := by
  unfold saveApproval at h
  split at h
  · cases h
    exact .inl ⟨rfl, _, rfl⟩
  · rename_i current found
    split at h
    · cases h
      exact .inl ⟨rfl, _, rfl⟩
    · rename_i hv
      cases h
      exact .inr ⟨current, found, not_not.mp hv, rfl, rfl⟩

variable {a : Except Exn Unit} {intent : SideEffectIntent} {intentId : String}

theorem createApproval_cases (h : (a, s') = s.createApproval record) :
    (s' = s ∧ ∃ e, a = .error e) ∨ s.approvals record.id = none ∧ s' = s.putApproval record := by
  unfold createApproval at h
  split at h
  · cases h
    exact .inl ⟨rfl, _, rfl⟩
  · rename_i free
    cases h
    exact .inr ⟨free, rfl⟩

/-- A consumption in the outbox's transaction: nothing, a burn, or the one lawful change to
EXECUTING together with the new intent. -/
theorem createWithApprovalConsumption_cases (h : (a, s') = s.createWithApprovalConsumption host now intent) :
    (s' = s ∧ ∃ e, a = .error e) ∨
      ∃ current new, s.approvals intent.approvalId = some current ∧ current.state = .approved ∧
        ApprovalRecord.Step False current new ∧ s'.approvals = (s.putApproval new).approvals ∧
        ((∃ e, a = .error e) ∧ new.state ≠ .executing ∧ s'.intents = s.intents ∨
          a = .ok () ∧ new.state = .executing ∧ strip current.actionFingerprint = intent.actionFingerprint ∧
            s'.intents = s.intents ++ [intent] ∧ ∀ row ∈ s.intents, row.id ≠ intent.id) := by
  unfold createWithApprovalConsumption at h
  split at h
  · cases h
    exact .inl ⟨rfl, _, rfl⟩
  split at h
  · cases h
    exact .inl ⟨rfl, _, rfl⟩
  rename_i current found
  split at h
  · cases h
    exact .inl ⟨rfl, _, rfl⟩
  rename_i approved
  rw [not_not] at approved
  have open_ := ApprovalRecord.isExpirable_iff.mpr (.inr approved)
  split at h
  · cases h
    exact .inl ⟨rfl, _, rfl⟩
  rename_i compared
  split at h
  · cases h
    refine .inr ⟨current, _, found, approved, ?_, rfl, .inl ⟨⟨_, rfl⟩, by simp, rfl⟩⟩
    exact ⟨⟨rfl, rfl, rfl, rfl, rfl⟩, rfl, .drop open_ (.inl rfl)⟩
  rename_i unexpired
  split at h
  · cases h
    refine .inr ⟨current, _, found, approved, ?_, rfl, .inl ⟨⟨_, rfl⟩, by simp, rfl⟩⟩
    exact ⟨⟨rfl, rfl, rfl, rfl, rfl⟩, rfl, .drop open_ (.inr rfl)⟩
  rename_i bound
  split at h
  · cases h
    exact .inl ⟨rfl, _, rfl⟩
  · rename_i unused
    cases h
    have same := compareDigest_true ((Bool.not_eq_false _).mp (not_or.mp bound).1 ▸ compared)
    refine .inr ⟨current, _, found, approved, ?_, rfl, .inr ⟨rfl, rfl, same, rfl, ?_⟩⟩
    · exact ⟨⟨rfl, rfl, rfl, rfl, rfl⟩, rfl, .consume approved rfl rfl rfl now rfl (Int.not_le.mp unexpired)⟩
    · intro row hrow hid
      exact unused (List.any_eq_true.mpr ⟨row, hrow, by simp [hid]⟩)

/-- A finalization in the outbox's transaction: nothing, or the terminal result on both rows. -/
theorem finalize_cases (h : (a, s') = s.finalize now intentId approvalId terminal) : (s' = s ∧ ∃ e, a = .error e) ∨
      ∃ current new, s.approvals approvalId = some current ∧ ApprovalRecord.Step False current new ∧
        s'.approvals = (s.putApproval new).approvals ∧ new.state = terminal.state.toApprovalState := by
  unfold finalize at h
  split at h
  · cases h
    exact .inl ⟨rfl, _, rfl⟩
  split at h
  · cases h
    exact .inl ⟨rfl, _, rfl⟩
  rename_i current found
  split at h
  · cases h
    exact .inl ⟨rfl, _, rfl⟩
  rename_i executing
  split at h
  · cases h
    exact .inl ⟨rfl, _, rfl⟩
  split at h
  · cases h
    exact .inl ⟨rfl, _, rfl⟩
  split at h
  · cases h
    exact .inl ⟨rfl, _, rfl⟩
  · cases h
    refine .inr ⟨current, _, found, ?_, rfl, rfl⟩
    refine ⟨⟨rfl, rfl, rfl, rfl, rfl⟩, rfl, .finish (not_not.mp executing) ?_ rfl rfl rfl⟩
    cases hs : terminal.state <;> simp_all [SideEffectState.toApprovalState, SideEffectState.terminal]

theorem finishIntent_ok {state : SideEffectState} {receipt : Option (List (String × Value))}
    (found : s.intent? intentId = some intent) :
    ∃ row, s.finishIntent intentId state receipt = (.ok (), s.putIntent row) ∧ row.id = intent.id ∧
      row.state = state := by
  simp only [finishIntent, found]
  exact ⟨_, rfl, rfl, rfl⟩

/-- A finalization of an executing approval with its unfinished intent succeeds. -/
theorem finalize_ok (now : Time) {approval : ApprovalRecord} (hterminal : terminal.state.terminal)
    (found : s.approvals approvalId = some approval) (executing : approval.state = .executing)
    (hintent : s.intent? intentId = some intent) (own : intent.approvalId = approvalId)
    (unfinished : intent.state.terminal = false) :
    ∃ row new, s.finalize now intentId approvalId terminal = (.ok (), (s.putIntent row).putApproval new) ∧
      row.id = intent.id ∧ row.state = terminal.state ∧ new.id = approval.id ∧
      new.state = terminal.state.toApprovalState := by
  unfold finalize
  simp only [hterminal, Bool.true_eq_false, if_false, found, executing, ne_eq, not_true_eq_false, hintent, own,
    unfinished, Bool.false_eq_true]
  refine ⟨_, _, rfl, ?_, ?_, rfl, rfl⟩ <;> split <;> rfl

end Cases

end Store

end PersonalAssistant
