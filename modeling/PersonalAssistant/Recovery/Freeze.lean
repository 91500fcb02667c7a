import PersonalAssistant.Lifecycle.Steps

/-!
# `freeze_snapshot`

Before a snapshot is restored, `infrastructure/operations/recovery.py` rewrites the rows that could
still act. Its lists of settled states leave out the expired approvals and the jobs that wait for
reconciliation, and it disables every extension, also one that was never installed.
-/

namespace PersonalAssistant.Recovery

open Lifecycle Function List

abbrev Row : Type := List (String × Value)

/-- A decoded recovery package of format 1: the names of its tables, the rows of each, and the entries
that nothing here reads. -/
structure Snapshot where
  names : List String
  rows : String → List Row
  artifacts : List (String × Value)
  rest : List (String × Value)

/-- What the modelled code takes from the Python library. -/
structure Python where
  lower : String → String
  /-- `x + 1` on a float. -/
  succ : PyFloat → PyFloat
  /-- The `uuid4().hex` made for the row at an index. -/
  hex : Nat → String

abbrev valueError {α : Type} (message : String) : Except Exn α := .error (.runtime .valueError message)

abbrev typeError {α : Type} : Except Exn α := .error (.other "TypeError")

def managedTables : List String :=
  ["tasks", "agent_runs", "run_checkpoints", "approvals", "jobs", "tool_invocations", "audit_events", "extensions",
    "extension_versions", "extension_operations", "artifacts", "context_documents", "task_command_idempotency",
    "task_messages", "task_events", "run_observations", "side_effect_intents", "mail_delivery_actions",
    "browser_adapters", "task_form_drafts", "task_form_draft_commands", "runtime_records", "runtime_commands"]

def secretKeys : List String :=
  ["password", "api_key", "authorization", "access_token", "refresh_token", "cookie", "private_key", "token"]

/-- `EXT_TABLE.fullmatch`. -/
def extTable (name : String) : Bool :=
  let word (c : Char) : Bool := c.isLower || c.isDigit || c == '_'
  match name.toList.splitOn '.' with
  | ['e' :: 'x' :: 't' :: '_' :: schema, first :: table] =>
    1 ≤ schema.length && schema.length ≤ 100 && schema.all word && word first && !first.isDigit && table.length ≤ 62 &&
      table.all word
  | _ => false

/-- `value == text`. -/
def isText : Option Value → String → Bool
  | some (.str s), text => s = text
  | _, _ => false

mutual

/-- `no_secrets`. -/
def noSecrets (py : Python) (depth : Nat) : Value → Except Exn Unit
  | .dict entries =>
    if depth > 64 then valueError "recovery data is too deep"
    else if entries.any (py.lower ·.1 ∈ secretKeys) then valueError "secret fields are excluded from recovery"
    else if isText (entries.lookup "sensitivity") "SECRET" || isText (entries.lookup "classification") "SECRET" then
      valueError "SECRET data is excluded from recovery"
    else noSecretEntries py (depth + 1) entries
  | .list items => if depth > 64 then valueError "recovery data is too deep" else noSecretItems py (depth + 1) items
  | _ => if depth > 64 then valueError "recovery data is too deep" else .ok ()

def noSecretItems (py : Python) (depth : Nat) : List Value → Except Exn Unit
  | [] => .ok ()
  | item :: items => do noSecrets py depth item; noSecretItems py depth items

def noSecretEntries (py : Python) (depth : Nat) : List (String × Value) → Except Exn Unit
  | [] => .ok ()
  | (_, item) :: entries => do noSecrets py depth item; noSecretEntries py depth entries

end

variable (py : Python)

/-- `validate_snapshot`, past the checks of the format and of the shapes. -/
def validateSnapshot (s : Snapshot) : Except Exn Unit :=
  if s.names.any fun name => name ∉ managedTables &&
    !extTable name then valueError "unmanaged or secret tables are excluded"
  else noSecrets py 0 (.dict (("format", .int 1) :: ("artifacts", .dict s.artifacts) ::
    ("tables", .dict (s.names.map fun name => (name, .list ((s.rows name).map .dict)))) :: s.rest))

/-- `row.get(column) in states`; a list or a mapping has no hash. -/
def isIn (row : Row) (column : String) (states : List String) : Except Exn Bool :=
  match row.lookup column with
  | some (.str s) => .ok (s ∈ states)
  | some (.list _) | some (.dict _) => typeError
  | _ => .ok false

/-- `row["version"] = row.get("version", 0) + 1`. -/
def bump (row : Row) : Except Exn Row :=
  match row.lookup "version" with
  | none => .ok (dictSet "version" (.int 1) row)
  | some (.int n) => .ok (dictSet "version" (.int (n + 1)) row)
  | some (.bool b) => .ok (dictSet "version" (.int (b.toNat + 1)) row)
  | some (.float x) => .ok (dictSet "version" (.float (py.succ x)) row)
  | _ => typeError

def freezeTask (_ : Nat) (row : Row) : Except Exn Row := do
  if ← isIn row "status" ["SUCCEEDED", "FAILED", "CANCELLED", "WAITING_RECONCILIATION"] then return row
  bump py (dictSet "status" (.str "PAUSED_SAFETY") row)

def freezeRun (_ : Nat) (row : Row) : Except Exn Row := do
  if ← isIn row "state" ["SUCCEEDED", "FAILED", "CANCELLED", "WAITING_RECONCILIATION"] then return row
  bump py (dictUpdate row [("state", .str "PAUSED_SAFETY"), ("pause_reason", .str "RESTORE_REVIEW_REQUIRED"),
    ("waiting_reference", .none)])

def freezeJob (_ : Nat) (row : Row) : Except Exn Row := do
  if ← isIn row "state" ["SUCCEEDED", "FAILED", "DEAD_LETTER"] then return row
  return dictUpdate row [("state", .str "DEAD_LETTER"), ("lease_owner", .none), ("lease_until", .none),
    ("error_code", .str "RESTORE_REVIEW_REQUIRED")]

def freezeApproval (index : Nat) (row : Row) : Except Exn Row := do
  if isText (row.lookup "status") "EXECUTING" then
    bump py (dictUpdate row [("status", .str "UNKNOWN"), ("nonce", .str (py.hex index))])
  else if ← isIn row "status" ["SUCCEEDED", "FAILED", "UNKNOWN", "CANCELLED"] then return row
  else
    bump py (dictUpdate row [("status", .str "EXPIRED"), ("nonce", .str (py.hex index)), ("approved_by", .none),
      ("approved_at", .none)])

/-- The loop over the intents, the mail actions and the invocations. -/
def freezeEffect (column : String) (_ : Nat) (row : Row) : Except Exn Row := do
  if ← isIn row column ["PREPARED", "EXECUTING", "RUNNING"] then return dictSet column (.str "UNKNOWN") row
  return row

def freezeExtension (_ : Nat) (row : Row) : Except Exn Row := .ok (dictSet "lifecycle_state" (.str "DISABLED") row)

/-- `row["value"].update(entries)`, for the buckets named. -/
def updateValue (row : Row) (entries : List (String × Value)) : Except Exn Row :=
  match row.lookup "value" with
  | none => .error (.other "KeyError")
  | some (.dict value) => .ok (dictSet "value" (.dict (dictUpdate value entries)) row)
  | some _ => typeError

def freezeRecord (_ : Nat) (row : Row) : Except Exn Row := do
  let row ←
    if ← isIn row "bucket" ["schedules", "event-bindings"] then updateValue row [("enabled", .bool false)]
    else pure row
  let row ← if isText (row.lookup "bucket") "requests" then updateValue row [("consent_id", .none)] else pure row
  if isText (row.lookup "bucket") "executions" then
    match row.lookup "value" with
    | none => .error (.other "KeyError")
    | some (.dict value) =>
      if ← isIn value "state" ["SUCCEEDED", "FAILED", "CANCELLED", "WAITING_RECONCILIATION"] then return row
      updateValue row [("state", .str "PAUSED_SAFETY"), ("reference", .none),
        ("reason", .str "RESTORE_REVIEW_REQUIRED")]
    | some _ => .error (.other "AttributeError")
  else return row

/-- The loops in their order: the table of each and what it does to the row at an index. -/
def loops : List (String × (Nat → Row → Except Exn Row)) :=
  [("tasks", freezeTask py), ("agent_runs", freezeRun py), ("jobs", freezeJob), ("approvals", freezeApproval py),
    ("side_effect_intents", freezeEffect "state"), ("mail_delivery_actions", freezeEffect "status"),
    ("tool_invocations", freezeEffect "status"), ("extensions", freezeExtension), ("runtime_records", freezeRecord)]

/-- `for row in rows`, from an index on. -/
def eachRow (f : Nat → Row → Except Exn Row) : Nat → List Row → Except Exn (List Row)
  | _, [] => .ok []
  | index, row :: rows => do return (← f index row) :: (← eachRow f (index + 1) rows)

/-- The loops one after another. -/
def eachTable (rows : String → List Row) : List (String × (Nat → Row → Except Exn Row)) → Except Exn (String → List Row)
  | [] => .ok rows
  | (name, f) :: loops => do
    let own ← eachRow f 0 (rows name)
    eachTable (update rows name own) loops

/-- `freeze_snapshot`. -/
def freezeSnapshot (s : Snapshot) : Except Exn Snapshot := do
  validateSnapshot py s
  let rows ← eachTable s.rows (loops py)
  return { s with
    names := if "runtime_records" ∈ s.names then s.names else s.names ++ ["runtime_records"]
    rows := update rows "runtime_records"
      ((rows "runtime_records").filter fun row => !isText (row.lookup "bucket") "hosts")
    rest := dictSet "credential_rebind_required" (.bool true) s.rest }

variable {f : Nat → Row → Except Exn Row}

theorem eachRow_get {rows rows' : List Row} {row : Row} {start index : Nat}
    (done : eachRow f start rows = .ok rows') (found : rows[index]? = some row) :
    ∃ row', f (start + index) row = .ok row' ∧ rows'[index]? = some row' := by
  induction rows generalizing start rows' index with
  | nil => simp at found
  | cons head rows ih =>
    obtain ⟨head', first, done⟩ := bind_eq_ok done
    obtain ⟨rest', rest, done⟩ := bind_eq_ok done
    cases done
    cases index with
    | zero => simp_all
    | succ index =>
      obtain ⟨row', frozen, found'⟩ := ih rest found
      exact ⟨row', by rwa [Nat.add_right_comm, Nat.add_assoc] at frozen, found'⟩

/-- A loop decides the rows of its own table and of no other. -/
theorem eachTable_rows {loops : List (String × (Nat → Row → Except Exn Row))} {rows rows' : String → List Row}
    (names : (loops.map Prod.fst).Nodup) (done : eachTable rows loops = .ok rows') (name : String) :
    ((∀ f, (name, f) ∉ loops) → rows' name = rows name) ∧ ∀ f, (name, f) ∈ loops → eachRow f 0 (rows name) = .ok
    (rows' name) := by
  induction loops generalizing rows with
  | nil =>
    cases done
    simp
  | cons loop loops ih =>
    obtain ⟨own, first, rest⟩ := bind_eq_ok done
    obtain ⟨apart, names⟩ := nodup_cons.mp names
    obtain ⟨frame, later⟩ := ih names rest
    have other (f) (member : (name, f) ∈ loops) : name ≠ loop.1 := by
      rintro rfl
      exact apart (mem_map.mpr ⟨_, member, rfl⟩)
    constructor
    · intro none
      rw [frame fun f member => none f (mem_cons_of_mem _ member)]
      exact update_of_ne (by rintro rfl; exact none loop.2 mem_cons_self) _ _
    · intro f member
      rcases mem_cons.mp member with rfl | member
      · rw [frame fun g again => other g again rfl, update_self]
        exact first
      · rw [← later f member, update_of_ne (other f member)]

variable {py : Python} {s s' : Snapshot} {row : Row} {index : Nat}

/-- A row of the result is what the loop of its table made of the one before. -/
theorem freezeSnapshot_get {name : String} (done : freezeSnapshot py s = .ok s')
    (loop : (name, f) ∈ loops py) (stored : name ≠ "runtime_records") (found : (s.rows name)[index]? = some row) :
    ∃ row', f index row = .ok row' ∧ (s'.rows name)[index]? = some row' := by
  obtain ⟨_, -, done⟩ := bind_eq_ok done
  obtain ⟨rows, looped, done⟩ := bind_eq_ok done
  cases done
  have names : ((loops py).map Prod.fst).Nodup := by simp [loops]
  have frozen := eachRow_get ((eachTable_rows names looped name).2 f loop) found
  simpa [update_of_ne stored] using frozen

/-- The column and the terminal states of each table. -/
def terminalStates : List (String × String × List String) :=
  [("tasks", "status", ["SUCCEEDED", "FAILED", "CANCELLED"]),
    ("agent_runs", "state", ["SUCCEEDED", "FAILED", "CANCELLED"]),
    ("jobs", "state", ["SUCCEEDED", "FAILED", "DEAD_LETTER", "WAITING_RECONCILIATION"]),
    ("approvals", "status", ["SUCCEEDED", "FAILED", "UNKNOWN", "EXPIRED", "CANCELLED"]),
    ("side_effect_intents", "state", ["SUCCEEDED", "FAILED", "UNKNOWN"]),
    ("mail_delivery_actions", "status", ["SUCCEEDED", "PARTIAL", "FAILED", "UNKNOWN"])]

/-- The row's extension is in one of the states. -/
def ExtensionIn (row : Row) (states : List ExtensionState) : Prop :=
  ∃ state ∈ states, row.lookup "lifecycle_state" = some (.str (stateValue state))

/-- What was over stays as it was, and what was not installed cannot be enabled. -/
structure SettledKept (s s' : Snapshot) : Prop where
  rows : ∀ table ∈ terminalStates, ∀ (index : Nat) (row : Row), (s.rows table.1)[index]? = some row →
    (∃ state ∈ table.2.2, row.lookup table.2.1 = some (.str state)) → (s'.rows table.1)[index]? = some row
  extensions : ∀ (index : Nat) (row row' : Row), (s.rows "extensions")[index]? = some row →
    (s'.rows "extensions")[index]? = some row' →
    ExtensionIn row [.staged, .rejected, .uninstalled] → ¬ExtensionIn row' startable

theorem isIn_text {column state : String} (found : row.lookup column = some (.str state)) (states : List String) :
    isIn row column states = .ok (state ∈ states) := by
  simp [isIn, found]

/-- The loop of a table keeps its rows in a terminal state, but for an expired approval and a job
that waits for reconciliation. -/
theorem terminal_kept {table : String × String × List String} (known : table ∈ terminalStates) {state : String}
    (terminal : state ∈ table.2.2)
    (found : row.lookup table.2.1 = some (.str state)) (unexpired : table.1 = "approvals" → state ≠ "EXPIRED")
    (answered : table.1 = "jobs" → state ≠ "WAITING_RECONCILIATION") :
    ∃ f, (table.1, f) ∈ loops py ∧ f index row = .ok row := by
  simp only [terminalStates, mem_cons, not_mem_nil, or_false] at known
  rcases known with rfl | rfl | rfl | rfl | rfl | rfl <;> simp only [mem_cons, not_mem_nil, or_false] at terminal
  · refine ⟨freezeTask py, by simp [loops], ?_⟩
    rcases terminal with rfl | rfl | rfl <;> simp [freezeTask, isIn_text found, pure, bind, Except.pure, Except.bind]
  · refine ⟨freezeRun py, by simp [loops], ?_⟩
    rcases terminal with rfl | rfl | rfl <;> simp [freezeRun, isIn_text found, pure, bind, Except.pure, Except.bind]
  · refine ⟨freezeJob, by simp [loops], ?_⟩
    rcases terminal with rfl | rfl | rfl | rfl
    all_goals first | exact absurd rfl (answered rfl) | simp
      [freezeJob, isIn_text found, pure, bind, Except.pure, Except.bind]
  · refine ⟨freezeApproval py, by simp [loops], ?_⟩
    rcases terminal with rfl | rfl | rfl | rfl | rfl
    all_goals first | exact absurd rfl (unexpired rfl) | simp
      [freezeApproval, isText, isIn, found, pure, bind, Except.pure, Except.bind]
  · refine ⟨freezeEffect "state", by simp [loops], ?_⟩
    rcases terminal with rfl | rfl | rfl <;> simp [freezeEffect, isIn_text found, pure, bind, Except.pure, Except.bind]
  · refine ⟨freezeEffect "status", by simp [loops], ?_⟩
    rcases terminal with rfl | rfl | rfl | rfl <;> simp
      [freezeEffect, isIn_text found, pure, bind, Except.pure, Except.bind]

/-- An expired approval gets a new nonce. -/
theorem expired_rewritten {row' : Row} (found : row.lookup "status" = some (.str "EXPIRED"))
    (done : freezeApproval py index row = .ok row') :
    row'.lookup "nonce" = some (.str (py.hex index)) := by
  simp only [freezeApproval, isText, isIn_text found, found, pure, bind, Except.pure, Except.bind] at done
  have written : bump py (dictUpdate row
      [("status", .str "EXPIRED"), ("nonce", .str (py.hex index)), ("approved_by", .none), ("approved_at", .none)]) =
        .ok row' := by
    simpa using done
  unfold bump at written
  split at written <;> cases written
  all_goals simp [dictUpdate, lookup_dictSet_of_ne, lookup_dictSet_self]

/-- A job that waits for reconciliation is given up. -/
theorem waiting_rewritten {row' : Row} (found : row.lookup "state" = some (.str "WAITING_RECONCILIATION"))
    (done : freezeJob index row = .ok row') : row'.lookup "state" = some (.str "DEAD_LETTER") := by
  simp only [freezeJob, isIn_text found, pure, bind, Except.pure, Except.bind] at done
  cases done
  simp [dictUpdate, lookup_dictSet_of_ne, lookup_dictSet_self]

/-- **Freezing keeps what was over** exactly if no approval was expired, no job waited for
reconciliation and no extension outside the installed ones was recorded; a new nonce is not the old one. -/
theorem settledKept_iff (done : freezeSnapshot py s = .ok s')
    (fresh : ∀ (index : Nat) (row : Row), (s.rows "approvals")[index]? = some row →
      row.lookup "nonce" ≠ some (.str (py.hex index))) :
    SettledKept s s' ↔ (∀ row ∈ s.rows "approvals", row.lookup "status" ≠ some (.str "EXPIRED")) ∧
      (∀ row ∈ s.rows "jobs", row.lookup "state" ≠ some (.str "WAITING_RECONCILIATION")) ∧
      ∀ row ∈ s.rows "extensions", ¬ExtensionIn row [.staged, .rejected, .uninstalled] := by
  constructor
  · intro settled
    refine ⟨?_, ?_, ?_⟩
    · intro row member expired
      obtain ⟨index, found⟩ := mem_iff_getElem?.mp member
      obtain ⟨row', frozen, found'⟩ :=
        freezeSnapshot_get done (by simp [loops] : ("approvals", freezeApproval py) ∈ loops py) (by decide) found
      have same := settled.rows _ (getElem_mem (n := 3) (by decide)) index row found ⟨"EXPIRED", by decide, expired⟩
      cases found'.symm.trans same
      exact fresh index row found (expired_rewritten expired frozen)
    · intro row member waits
      obtain ⟨index, found⟩ := mem_iff_getElem?.mp member
      obtain ⟨row', frozen, found'⟩ := freezeSnapshot_get done (by simp [loops] : ("jobs", freezeJob) ∈ loops py)
        (by decide) found
      have same := settled.rows _ (getElem_mem (n := 2) (by decide)) index row found
        ⟨"WAITING_RECONCILIATION", by decide, waits⟩
      cases found'.symm.trans same
      exact absurd (waits.symm.trans (waiting_rewritten waits frozen)) (by simp)
    · intro row member outside
      obtain ⟨index, found⟩ := mem_iff_getElem?.mp member
      obtain ⟨row', frozen, found'⟩ :=
        freezeSnapshot_get done (by simp [loops] : ("extensions", freezeExtension) ∈ loops py) (by decide) found
      cases frozen
      exact settled.extensions index row _ found found' outside ⟨.disabled, by simp [startable], lookup_dictSet_self ..⟩
  · rintro ⟨unexpired, answered, installed⟩
    constructor
    · rintro table known index row found ⟨state, terminal, inState⟩
      have column : ∀ table ∈ terminalStates, table.1 ≠ "runtime_records" ∧
        (table.1 = "approvals" → table.2.1 = "status") ∧
          (table.1 = "jobs" → table.2.1 = "state") := by decide
      obtain ⟨stored, status, waiting⟩ := column table known
      have open_ : table.1 = "approvals" → state ≠ "EXPIRED" := by
        rintro approval rfl
        rw [approval] at found
        rw [status approval] at inState
        exact unexpired row (mem_of_getElem? found) inState
      have queued : table.1 = "jobs" → state ≠ "WAITING_RECONCILIATION" := by
        rintro job rfl
        rw [job] at found
        rw [waiting job] at inState
        exact answered row (mem_of_getElem? found) inState
      obtain ⟨f, loop, kept⟩ := terminal_kept known terminal inState open_ queued
      obtain ⟨row', frozen, found'⟩ := freezeSnapshot_get done loop stored found
      rw [kept] at frozen
      cases frozen
      exact found'
    · intro index row row' found _ outside
      exact absurd outside (installed row (mem_of_getElem? found))

/-- A snapshot of one approval, one job and one extension. -/
def sampleSnapshot (status state lifecycle : String) : Snapshot where
  names := ["approvals", "jobs", "extensions"]
  rows := fun name =>
    if name = "approvals" then [[("status", .str status), ("nonce", .str "n"), ("version", .int 2)]]
    else if name = "jobs" then [[("state", .str state)]]
    else if name = "extensions" then [[("lifecycle_state", .str lifecycle)]]
    else []
  artifacts := []
  rest := []

def samplePython : Python := ⟨id, id, fun _ => "f"⟩

/-- A settled approval and a settled job are kept, next to an enabled extension. -/
theorem settled_sample : ∃ s', freezeSnapshot samplePython (sampleSnapshot "SUCCEEDED" "DEAD_LETTER" "ENABLED") =
      .ok s' ∧
    SettledKept (sampleSnapshot "SUCCEEDED" "DEAD_LETTER" "ENABLED") s' := by
  have frozen : freezeSnapshot samplePython (sampleSnapshot "SUCCEEDED" "DEAD_LETTER" "ENABLED") = .ok _ := rfl
  refine ⟨_, frozen, (settledKept_iff frozen ?_).mpr ⟨?_, ?_, ?_⟩⟩
  · intro index row found
    have : row ∈ (sampleSnapshot "SUCCEEDED" "DEAD_LETTER" "ENABLED").rows "approvals" := mem_of_getElem? found
    simp_all [sampleSnapshot, samplePython, List.lookup]
  · simp [sampleSnapshot]
  · simp [sampleSnapshot]
  · simp [sampleSnapshot, ExtensionIn, stateValue]

/-- An expired approval and a waiting job are rewritten, and a staged extension can be enabled. -/
theorem unsettled_sample : ∃ s', freezeSnapshot samplePython
    (sampleSnapshot "EXPIRED" "WAITING_RECONCILIATION" "STAGED") = .ok s' ∧
    s'.rows "approvals" =
      [[("status", .str "EXPIRED"), ("nonce", .str "f"), ("version", .int 3), ("approved_by", .none),
      ("approved_at", .none)]] ∧
    s'.rows "jobs" = [[("state", .str "DEAD_LETTER"), ("lease_owner", .none), ("lease_until", .none),
      ("error_code", .str "RESTORE_REVIEW_REQUIRED")]] ∧
    s'.rows "extensions" = [[("lifecycle_state", .str "DISABLED")]] ∧
    ¬SettledKept (sampleSnapshot "EXPIRED" "WAITING_RECONCILIATION" "STAGED") s' := by
  refine ⟨_, rfl, rfl, rfl, rfl, fun settled => ?_⟩
  exact settled.extensions 0 _ _ rfl rfl ⟨.staged, by simp, rfl⟩ ⟨.disabled, by simp [startable], rfl⟩

end PersonalAssistant.Recovery
