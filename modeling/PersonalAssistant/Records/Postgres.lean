import PersonalAssistant.Records.Action

/-!
# The record store in PostgreSQL

`PostgresRecordStore` over `PostgresDatabase.transaction`. The outermost command of a task is a
transaction, and the commands inside it join that transaction: there are no savepoints. Until
it commits, what the transaction wrote is seen by its own task only, and it holds the advisory
lock of each command key it looked for and the lock of each row it wrote. A failed statement
aborts the transaction, and every later statement in it fails. So what a failed action wrote is
rolled back with the whole transaction or, if the action around it goes on, not at all.
-/

namespace PersonalAssistant

open Function List

variable {V Op Ans : Type}

/-- What a transaction has done and not committed. -/
structure Transaction (V : Type) where
  records : List ((String × String) × Rec V) := []
  commands : List (String × (String × V)) := []
  pending : List (Durable V) := []
  aborted : Bool := false

/-- The committed tables, the locks and who holds them, the tasks and their transactions. -/
structure PostgresSystem (V Op Ans : Type) where
  tables : RecordTables V := {}
  advisory : String → Option Nat := fun _ => none
  rows : String × String → Option Nat := fun _ => none
  tasks : Nat → Task V Op Ans
  transactions : Nat → Transaction V := fun _ => {}
  log : List (Durable V) := []
  failed : List (Nat × Nat) := []
  serial : Nat := 0

namespace PostgresSystem

variable (sys : PostgresSystem V Op Ans)

/-- The task goes on. -/
def go (i : Nat) (focus : Action V Op Ans) (frames : List (Frame V Op Ans)) : PostgresSystem V Op Ans :=
  { sys with tasks := update sys.tasks i ⟨focus, frames⟩ }

/-- The transaction of a task changes. -/
def setTransaction (i : Nat) (tx : Transaction V) : PostgresSystem V Op Ans :=
  { sys with transactions := update sys.transactions i tx }

/-- The records as the task sees them. -/
def visible (i : Nat) : List ((String × String) × Rec V) :=
  dictUpdate sys.tables.records (sys.transactions i).records

/-- The error of the next statement of a task. -/
def failure (i : Nat) (turn : Turn Ans) : Option Exn :=
  if (sys.transactions i).aborted then some (.other "InFailedSQLTransactionError") else turn.fault

/-- A statement failed. -/
def stumble (i : Nat) (turn : Turn Ans) (frames : List (Frame V Op Ans)) : PostgresSystem V Op Ans :=
  if frames = [] then sys
  else sys.setTransaction i { sys.transactions i with aborted := (sys.transactions i).aborted || turn.aborts }

/-- The end of a transaction: its locks are free. -/
def release (i : Nat) : PostgresSystem V Op Ans :=
  { sys with
    advisory := fun key => if sys.advisory key = some i then none else sys.advisory key
    rows := fun row => if sys.rows row = some i then none else sys.rows row
    transactions := update sys.transactions i {} }

/-- The row is written: in the transaction of the task, or else at once. -/
def write (i : Nat) (frames : List (Frame V Op Ans)) (bucket key : String) (record : Rec V) : PostgresSystem V Op Ans :=
  let item : Durable V := ⟨frames.map Frame.id, .record bucket key record⟩
  let tx := sys.transactions i
  if frames = [] then
    { sys with
      tables := { sys.tables with records := dictSet (bucket, key) record sys.tables.records }
      log := sys.log ++ [item] }
  else
    { sys with
      rows := update sys.rows (bucket, key) (some i)
      transactions := update sys.transactions i { tx with
        records := dictSet (bucket, key) record tx.records, pending := tx.pending ++ [item] } }

/-- `put`, once the value has a fingerprint: `INSERT … ON CONFLICT DO NOTHING` or
`UPDATE … WHERE version = …`. -/
def put (turn : Turn Ans) (i : Nat) (frames : List (Frame V Op Ans)) (bucket key : String) (value : V)
    (expectedVersion : Nat) (next : Except Exn (Rec V) → Action V Op Ans) : PostgresSystem V Op Ans :=
  match sys.failure i turn with
  | some e => (sys.stumble i turn frames).go i (next (.error e)) frames
  | none =>
    if (sys.rows (bucket, key)).any (· ≠ i) then sys
    else match checkedRecord ((sys.visible i).lookup (bucket, key)) key value expectedVersion with
    | .error e => sys.go i (next (.error e)) frames
    | .ok record => (sys.write i frames bucket key record).go i (next (.ok record)) frames

/-- `command`, once the request has a fingerprint: take the advisory lock and look for the
key. Outside a transaction the lock is let go with the empty transaction. -/
def enter (turn : Turn Ans) (i : Nat) (frames : List (Frame V Op Ans)) (key digest : String) (action : Action V Op Ans)
    (next : Except Exn V → Action V Op Ans) : PostgresSystem V Op Ans :=
  match sys.failure i turn with
  | some e => (sys.stumble i turn frames).go i (next (.error e)) frames
  | none =>
    if (sys.advisory key).any (· ≠ i) then sys
    else
      let locked := { sys with advisory := update sys.advisory key (some i) }
      match (sys.tables.commands ++ (sys.transactions i).commands).lookup key with
      | some receipt => (if frames = [] then sys else locked).go i (next (receiptAnswer digest receipt)) frames
      | none =>
        let entered := { locked with serial := sys.serial + 1 }
        entered.go i action (⟨(i, sys.serial), key, digest, next⟩ :: frames)

/-- A command fails; with the outermost the transaction is rolled back. -/
def abandon (i : Nat) (frame : Frame V Op Ans) (frames : List (Frame V Op Ans)) (e : Exn) : PostgresSystem V Op Ans :=
  let dead := { sys with failed := frame.id :: sys.failed }
  (if frames = [] then dead.release i else dead).go i (frame.next (.error e)) frames

/-- What the transaction wrote is committed. -/
def commit (i : Nat) : PostgresSystem V Op Ans :=
  { sys with
    tables := ⟨sys.visible i, sys.tables.commands ++ (sys.transactions i).commands⟩
    log := sys.log ++ (sys.transactions i).pending }

/-- The action returned: its receipt is inserted, and with the outermost command the
transaction is committed. -/
def finish (turn : Turn Ans) (i : Nat) (frame : Frame V Op Ans) (frames : List (Frame V Op Ans)) (result : V) :
    PostgresSystem V Op Ans :=
  let tx := sys.transactions i
  match sys.failure i turn with
  | some e => (sys.stumble i turn frames).abandon i frame frames e
  | none =>
    match (sys.tables.commands ++ tx.commands).lookup frame.key with
    | some _ =>
      (sys.setTransaction i { tx with aborted := true }).abandon i frame frames (.other "UniqueViolationError")
    | none =>
      let item : Durable V := ⟨(frame :: frames).map Frame.id, .receipt frame.key frame.digest result⟩
      let inserted := sys.setTransaction i { tx with
        commands := tx.commands ++ [(frame.key, (frame.digest, result))], pending := tx.pending ++ [item] }
      (if frames = [] then (inserted.commit i).release i else inserted).go i (frame.next (.ok result)) frames

/-- What a task does in its turn. -/
def act (fingerprint : V → Except Exn String) (turn : Turn Ans) (i : Nat) (focus : Action V Op Ans)
    (frames : List (Frame V Op Ans)) : PostgresSystem V Op Ans :=
  match focus, frames with
  | .done _, [] => sys
  | .raise _, [] => sys
  | .done result, frame :: frames => sys.finish turn i frame frames result
  | .raise e, frame :: frames => sys.abandon i frame frames e
  | .get bucket key next, frames =>
    match sys.failure i turn with
    | some e => (sys.stumble i turn frames).go i (next (.error e)) frames
    | none => sys.go i (next (.ok ((sys.visible i).lookup (bucket, key)))) frames
  | .list bucket next, frames =>
    match sys.failure i turn with
    | some e => (sys.stumble i turn frames).go i (next (.error e)) frames
    | none =>
      let found := ((sys.visible i).filter fun entry => entry.1.1 = bucket).map Prod.snd
      sys.go i (next (.ok (found.insertionSort fun a b => a.id ≤ b.id))) frames
  | .put bucket key value expectedVersion next, frames =>
    match fingerprint value with
    | .error e => sys.go i (next (.error e)) frames
    | .ok _ => sys.put turn i frames bucket key value expectedVersion next
  | .command key request action next, frames =>
    match commandDigest fingerprint key request with
    | .error e => sys.go i (next (.error e)) frames
    | .ok digest => sys.enter turn i frames key digest action next
  | .call _ next, frames => sys.go i (next turn.answer) frames

/-- A turn of a task. -/
def advance (fingerprint : V → Except Exn String) (turn : Turn Ans) : PostgresSystem V Op Ans :=
  sys.act fingerprint turn turn.task (sys.tasks turn.task).focus (sys.tasks turn.task).frames

end PostgresSystem

/-- The store in PostgreSQL. -/
def postgresSystem (fingerprint : V → Except Exn String) : RecordSystem V Op Ans (PostgresSystem V Op Ans) where
  step sys turn := ((sys.tasks turn.task).called turn.answer, sys.advance fingerprint turn)
  tables := PostgresSystem.tables
  tasks := PostgresSystem.tasks
  log := PostgresSystem.log
  failed := PostgresSystem.failed
  healthy sys turn := sys.failure turn.task turn = none

/-! ## The actions for which it works -/

namespace Action

/-- The failure of a command inside the action is let out. -/
def Propagates : Action V Op Ans → Prop
  | .done _ => True
  | .raise _ => True
  | .get _ _ next => ∀ answer, Propagates (next answer)
  | .list _ next => ∀ answer, Propagates (next answer)
  | .put _ _ _ _ next => ∀ answer, Propagates (next answer)
  | .command _ _ action next =>
    Propagates action ∧ (∀ e, next (.error e) = .raise e) ∧ ∀ response, Propagates (next (.ok response))
  | .call _ next => ∀ answer, Propagates (next answer)

/-- A program whose commands have such actions. -/
def Careful : Action V Op Ans → Prop
  | .done _ => True
  | .raise _ => True
  | .get _ _ next => ∀ answer, Careful (next answer)
  | .list _ next => ∀ answer, Careful (next answer)
  | .put _ _ _ _ next => ∀ answer, Careful (next answer)
  | .command _ _ action next => Propagates action ∧ ∀ answer, Careful (next answer)
  | .call _ next => ∀ answer, Careful (next answer)

end Action

/-! ## What every turn keeps -/

namespace PostgresSystem

/-- How the callers go on, innermost first. -/
def Returns : List (Frame V Op Ans) → Prop
  | [] => True
  | [frame] => ∀ answer, Action.Careful (frame.next answer)
  | frame :: outer :: frames => (∀ e, frame.next (.error e) = .raise e) ∧
      (∀ response, Action.Propagates (frame.next (.ok response))) ∧ Returns (outer :: frames)

/-- The program of a task, inside its commands. -/
structure ProgramOk (task : Task V Op Ans) : Prop where
  careful : task.frames = [] → task.focus.Careful
  propagates : task.frames ≠ [] → task.focus.Propagates
  returns : Returns task.frames

/-- The frames of a task: they are its own, none has failed, and nothing in them is durable. -/
structure FramesOk (log : List (Durable V)) (failed : List (Nat × Nat)) (serial i : Nat)
    (frames : List (Frame V Op Ans)) :
    Prop where
  ids : (frames.map Frame.id).Nodup
  own : ∀ frame ∈ frames, frame.id.1 = i ∧ frame.id.2 < serial
  alive : ∀ frame ∈ frames, frame.id ∉ failed
  untouched : ∀ frame ∈ frames, ∀ d ∈ log, frame.id ∉ d.frames

/-- The transaction of a task. -/
structure TransactionOk (commands : List (String × (String × V))) (advisory : String → Option Nat)
    (failed : List (Nat × Nat)) (serial i : Nat) (task : Task V Op Ans) (tx : Transaction V) : Prop where
  outside : task.frames = [] → tx = {}
  holds : ∀ frame ∈ task.frames, advisory frame.key = some i
  own : ∀ d ∈ tx.pending, ∀ frame ∈ d.frames, frame.1 = i ∧ frame.2 < serial
  /-- Once the transaction has what a failed action wrote, its task lets the failure out. -/
  spoilt : (∃ d ∈ tx.pending, ∃ frame ∈ d.frames, frame ∈ failed) → ∃ e, task.focus = .raise e
  receipts : tx.commands = receiptsOf tx.pending
  keys : (tx.commands.map Prod.fst).Nodup
  locked : ∀ key ∈ tx.commands.map Prod.fst, advisory key = some i ∧ commands.lookup key = none
  records : ∀ bucket key record, ((bucket, key), record) ∈ tx.records →
    ∃ d ∈ tx.pending, d.item = .record bucket key record

variable {sys sys' : PostgresSystem V Op Ans} {i j : Nat} {task task' : Task V Op Ans} {tx : Transaction V}
  {focus focus' : Action V Op Ans} {frame : Frame V Op Ans} {frames : List (Frame V Op Ans)} {turn : Turn Ans}
  {commands : List (String × (String × V))} {advisory : String → Option Nat} {failed : List (Nat × Nat)}
  {serial : Nat} {log : List (Durable V)} {fingerprint : V → Except Exn String} {result : V}

theorem FramesOk.nil : FramesOk log failed serial i ([] : List (Frame V Op Ans)) := ⟨nodup_nil, nofun, nofun, nofun⟩

/-- Outside all commands a task has an empty transaction. -/
theorem TransactionOk.empty : TransactionOk commands advisory failed serial i ⟨focus, []⟩ {} :=
  ⟨fun _ => rfl, nofun, nofun, (fun ⟨_, mem, _⟩ => nomatch mem), rfl, nodup_nil, nofun, nofun⟩

/-- The invariant of the store and its tasks. -/
structure Inv (sys : PostgresSystem V Op Ans) : Prop where
  program : ∀ i, ProgramOk (sys.tasks i)
  frames : ∀ i, FramesOk sys.log sys.failed sys.serial i (sys.tasks i).frames
  transaction : ∀ i, TransactionOk sys.tables.commands sys.advisory sys.failed sys.serial i (sys.tasks i)
    (sys.transactions i)
  failedBelow : ∀ frame ∈ sys.failed, frame.2 < sys.serial
  log : LogOk sys.tables sys.log sys.failed sys.serial

/-- What a turn of one task may do to the others: nothing that they hold. -/
structure Elsewhere (i : Nat) (sys sys' : PostgresSystem V Op Ans) : Prop where
  serial : sys.serial ≤ sys'.serial
  failed : ∀ frame ∈ sys'.failed, frame ∈ sys.failed ∨ frame.1 = i
  log : ∀ d ∈ sys'.log, d ∈ sys.log ∨ ∀ frame ∈ d.frames, frame.1 = i
  advisory : ∀ key j, j ≠ i → sys.advisory key = some j → sys'.advisory key = some j
  commands : ∀ key j, j ≠ i → sys.advisory key = some j → sys.tables.commands.lookup key = none →
    sys'.tables.commands.lookup key = none

namespace Elsewhere

theorem framesOk (else_ : Elsewhere i sys sys') (ne : j ≠ i)
    (ok : FramesOk sys.log sys.failed sys.serial j frames) : FramesOk sys'.log sys'.failed sys'.serial j frames where
  ids := ok.ids
  own f mem := ⟨(ok.own f mem).1, Nat.lt_of_lt_of_le (ok.own f mem).2 else_.serial⟩
  alive f mem dead := by
    rcases else_.failed f.id dead with old | other
    · exact ok.alive f mem old
    · exact ne ((ok.own f mem).1.symm.trans other)
  untouched f mem d there inside := by
    rcases else_.log d there with old | other
    · exact ok.untouched f mem d old inside
    · exact ne ((ok.own f mem).1.symm.trans (other f.id inside))

/-- The transactions of the other tasks are left in order. -/
theorem transactionOk (else_ : Elsewhere i sys sys') (ne : j ≠ i)
    (ok : TransactionOk sys.tables.commands sys.advisory sys.failed sys.serial j task tx) :
    TransactionOk sys'.tables.commands sys'.advisory sys'.failed sys'.serial j task tx where
  outside := ok.outside
  holds f mem := else_.advisory f.key j ne (ok.holds f mem)
  own d mem f inside := ⟨(ok.own d mem f inside).1, Nat.lt_of_lt_of_le (ok.own d mem f inside).2 else_.serial⟩
  spoilt := by
    rintro ⟨d, mem, f, inside, dead⟩
    rcases else_.failed f dead with old | other
    · exact ok.spoilt ⟨d, mem, f, inside, old⟩
    · exact absurd ((ok.own d mem f inside).1.symm.trans other) ne
  receipts := ok.receipts
  keys := ok.keys
  locked key mem := by
    obtain ⟨held, absent⟩ := ok.locked key mem
    exact ⟨else_.advisory key j ne held, else_.commands key j ne held absent⟩
  records := ok.records

end Elsewhere

theorem Inv.taskOk (inv : Inv sys) (at_ : sys.tasks i = task) :
    ProgramOk task ∧ FramesOk sys.log sys.failed sys.serial i task.frames ∧
      TransactionOk sys.tables.commands sys.advisory sys.failed sys.serial i task (sys.transactions i) := by
  subst at_
  exact ⟨inv.program i, inv.frames i, inv.transaction i⟩

/-- A step of one task keeps the invariant if its own part is in order. -/
theorem Inv.of_update (inv : Inv sys) (tasks : sys'.tasks = update sys.tasks i task)
    (transactions : sys'.transactions = update sys.transactions i tx) (else_ : Elsewhere i sys sys')
    (program : ProgramOk task) (frames : FramesOk sys'.log sys'.failed sys'.serial i task.frames)
    (transaction : TransactionOk sys'.tables.commands sys'.advisory sys'.failed sys'.serial i task tx)
    (failedBelow : ∀ frame ∈ sys'.failed, frame.2 < sys'.serial)
    (log : LogOk sys'.tables sys'.log sys'.failed sys'.serial) :
    Inv sys' where
  program j := by
    rw [tasks, update_apply]
    split_ifs
    · exact program
    · exact inv.program j
  frames j := by
    rw [tasks, update_apply]
    split_ifs with this
    · rw [this]
      exact frames
    · exact else_.framesOk this (inv.frames j)
  transaction j := by
    rw [tasks, transactions, update_apply, update_apply]
    split_ifs with this
    · rw [this]
      exact transaction
    · exact else_.transactionOk this (inv.transaction j)
  failedBelow := failedBelow
  log := log

theorem Elsewhere.quiet (serial : sys'.serial = sys.serial) (failed : sys'.failed = sys.failed)
    (log : sys'.log = sys.log)
    (advisory : sys'.advisory = sys.advisory) (tables : sys'.tables = sys.tables) : Elsewhere i sys sys' := by
  constructor
  · exact serial.ge
  · exact fun f dead => .inl (failed ▸ dead)
  · exact fun d mem => .inl (log ▸ mem)
  · exact fun key j _ held => advisory ▸ held
  · exact fun key j _ _ absent => tables ▸ absent

/-- A transaction that has nothing of a failed action in it. -/
theorem TransactionOk.intact (ok : TransactionOk commands advisory failed serial i task tx)
    (runs : ∀ e, task.focus ≠ .raise e) : ∀ d ∈ tx.pending, ∀ frame ∈ d.frames, frame ∉ failed := by
  intro d mem f inside dead
  obtain ⟨e, raising⟩ := ok.spoilt ⟨d, mem, f, inside, dead⟩
  exact runs e raising

theorem TransactionOk.intact_append
    (ok : TransactionOk commands advisory failed serial i ⟨focus, frames⟩ tx)
    (framesOk : FramesOk log failed serial i frames)
    (runs : ∀ e, focus ≠ .raise e) (item : Item V) :
    ∀ d ∈ tx.pending ++ [⟨frames.map Frame.id, item⟩], ∀ frame ∈ d.frames, frame ∉ failed :=
  forall_mem_append.mpr ⟨ok.intact runs, forall_frames framesOk.alive⟩

theorem setTransaction_self (sys : PostgresSystem V Op Ans) (i : Nat) :
    sys.setTransaction i (sys.transactions i) = sys := by
  unfold setTransaction
  rw [update_eq_self]

/-- A write keeps the transaction in order. -/
theorem TransactionOk.write
    (ok : TransactionOk commands advisory failed serial i ⟨focus, frames⟩ tx)
    (framesOk : FramesOk log failed serial i frames)
    (runs : ∀ e, focus ≠ .raise e) (inside : frames ≠ []) (focus' : Action V Op Ans) (bucket key : String)
    (record : Rec V) :
    TransactionOk commands advisory failed serial i ⟨focus', frames⟩ { tx with
      records := dictSet (bucket, key) record tx.records
      pending := tx.pending ++ [⟨frames.map Frame.id, .record bucket key record⟩] } := by
  constructor
  · exact fun outside => absurd outside inside
  · exact ok.holds
  · exact forall_mem_append.mpr ⟨ok.own, forall_frames framesOk.own⟩
  · rintro ⟨d, mem, f, within, dead⟩
    exact absurd dead (ok.intact_append framesOk runs _ d mem f within)
  · rw [receiptsOf_append, ← ok.receipts]
    exact (append_nil _).symm
  · exact ok.keys
  · exact ok.locked
  · intro bucket' key' record' mem
    rcases mem_written mem with old | ⟨d, new, item⟩
    · obtain ⟨d, there, item⟩ := ok.records _ _ _ old
      exact ⟨d, mem_append_left _ there, item⟩
    · exact ⟨d, mem_append_right _ new, item⟩

section

variable (inv : Inv sys) (at_ : sys.tasks i = ⟨focus, frames⟩) (runs : ∀ e, focus ≠ .raise e)
  (program : ProgramOk ⟨focus', frames⟩)

include inv at_ runs program

/-- A task that goes on inside the same commands, where a statement may have failed. -/
theorem Inv.goWith (aborted : Bool) (inside : frames = [] → aborted = (sys.transactions i).aborted) :
    Inv ((sys.setTransaction i { sys.transactions i with aborted := aborted }).go i focus' frames) := by
  obtain ⟨-, framesOk, ok⟩ := inv.taskOk at_
  refine inv.of_update (i := i) rfl rfl (.quiet rfl rfl rfl rfl rfl) program framesOk ?_ inv.failedBelow inv.log
  refine ⟨?_, ok.holds, ok.own, ?_, ok.receipts, ok.keys, ok.locked, ok.records⟩
  · intro outside
    rw [inside outside]
    exact ok.outside outside
  · rintro ⟨d, mem, f, within, dead⟩
    exact absurd dead (ok.intact runs d mem f within)

theorem Inv.go : Inv (sys.go i focus' frames) := by
  have with_ := inv.goWith at_ runs program (sys.transactions i).aborted fun _ => rfl
  rwa [setTransaction_self] at with_

theorem Inv.stumble (turn : Turn Ans) : Inv ((sys.stumble i turn frames).go i focus' frames) := by
  unfold PostgresSystem.stumble
  split_ifs with outside
  · exact inv.go at_ runs program
  · exact inv.goWith at_ runs program _ fun none_ => absurd none_ outside

/-- A write of the transaction keeps the invariant. -/
theorem Inv.write (bucket key : String) (record : Rec V) :
    Inv ((sys.write i frames bucket key record).go i focus' frames) := by
  obtain ⟨-, framesOk, ok⟩ := inv.taskOk at_
  unfold PostgresSystem.write
  split_ifs with outside
  · subst outside
    refine inv.of_update (i := i) rfl (update_eq_self i sys.transactions).symm ?_ program ?_ ?_
      inv.failedBelow ?_
    · refine ⟨Nat.le_refl _, fun _ dead => .inl dead, ?_, fun _ _ _ held => held, fun _ _ _ _ absent => absent⟩
      intro d mem
      rcases mem_append.mp mem with old | new
      · exact .inl old
      · rw [mem_singleton.mp new]
        exact .inr nofun
    · exact .nil
    · refine ⟨ok.outside, ok.holds, ok.own, ?_, ok.receipts, ok.keys, ok.locked, ok.records⟩
      rintro ⟨d, mem, f, within, dead⟩
      exact absurd dead (ok.intact runs d mem f within)
    · exact inv.log.append (forall_frames fun f mem => (framesOk.own f mem).2) (forall_frames framesOk.alive)
        (append_nil _).symm
        inv.log.keys fun _ _ _ => mem_written
  · exact inv.of_update (i := i) rfl rfl (.quiet rfl rfl rfl rfl rfl) program framesOk
      (ok.write framesOk runs outside _ bucket key record) inv.failedBelow inv.log

end

theorem Inv.put (inv : Inv sys) {bucket key : String} {value : V} {expectedVersion : Nat}
    {next : Except Exn (Rec V) → Action V Op Ans}
    (at_ : sys.tasks i = ⟨.put bucket key value expectedVersion next, frames⟩)
    (program : ∀ answer, ProgramOk ⟨next answer, frames⟩) :
    Inv (sys.put turn i frames bucket key value expectedVersion next) := by
  unfold PostgresSystem.put
  cases sys.failure i turn with
  | some e => exact inv.stumble at_ nofun (program _) turn
  | none =>
    simp only
    split_ifs with waits
    · exact inv
    · cases checkedRecord ((sys.visible i).lookup (bucket, key)) key value expectedVersion with
      | error e => exact inv.go at_ nofun (program _)
      | ok record => exact inv.write at_ nofun (program _) bucket key record

theorem FramesOk.push
    (ok : FramesOk log failed serial i frames) (logBelow : ∀ d ∈ log, ∀ frame ∈ d.frames, frame.2 < serial)
    (failedBelow : ∀ frame ∈ failed, frame.2 < serial) (key digest : String) (next : Except Exn V → Action V Op Ans) :
    FramesOk log failed (serial + 1) i (⟨(i, serial), key, digest, next⟩ :: frames) where
  ids := by
    rw [map_cons, nodup_cons]
    refine ⟨?_, ok.ids⟩
    intro mem
    obtain ⟨f, there, eq⟩ := mem_map.mp mem
    have lt := (ok.own f there).2
    rw [eq] at lt
    exact Nat.lt_irrefl _ lt
  own := forall_mem_cons.mpr ⟨⟨rfl, Nat.lt_succ_self _⟩, fun f old => (ok.own f old).imp_right Nat.lt_succ_of_lt⟩
  alive := forall_mem_cons.mpr ⟨fun dead => Nat.lt_irrefl _ (failedBelow _ dead), ok.alive⟩
  untouched := forall_mem_cons.mpr ⟨fun d there inside => Nat.lt_irrefl _ (logBelow d there _ inside), ok.untouched⟩

/-- The innermost command of the task ends; it may have failed. -/
theorem FramesOk.pop {failed' : List (Nat × Nat)}
    (ok : FramesOk log failed serial i (frame :: frames)) (fails : ∀ id ∈ failed', id = frame.id ∨ id ∈ failed) :
    FramesOk log failed' serial i frames where
  ids := (nodup_cons.mp ok.ids).2
  own f mem := ok.own f (mem_cons_of_mem _ mem)
  alive f mem dead := by
    rcases fails f.id dead with same | old
    · exact (nodup_cons.mp ok.ids).1 (same ▸ mem_map_of_mem mem)
    · exact ok.alive f (mem_cons_of_mem _ mem) old
  untouched f mem := ok.untouched f (mem_cons_of_mem _ mem)

theorem Elsewhere.lock (key : String) (free : ¬ (sys.advisory key).any (· ≠ i)) (serial : sys.serial ≤ sys'.serial)
    (failed : sys'.failed = sys.failed) (log : sys'.log = sys.log) (tables : sys'.tables = sys.tables)
    (advisory : sys'.advisory = update sys.advisory key (some i)) : Elsewhere i sys sys' := by
  refine ⟨serial, fun f dead => .inl (failed ▸ dead), fun d mem => .inl (log ▸ mem), ?_, fun _ _ _ _ absent =>
    tables ▸ absent⟩
  intro key' j ne held
  rw [advisory, update_apply]
  split_ifs with same
  · subst same
    rw [held] at free
    simp [ne] at free
  · exact held

theorem ProgramOk.go (ok : ProgramOk ⟨focus, frames⟩) (careful : focus.Careful → focus'.Careful)
    (propagates : focus.Propagates → focus'.Propagates) : ProgramOk ⟨focus', frames⟩ where
  careful outside := careful (ok.careful outside)
  propagates inside := propagates (ok.propagates inside)
  returns := ok.returns

section
variable {key digest : String} {request : V} {action : Action V Op Ans} {next : Except Exn V → Action V Op Ans}

theorem ProgramOk.answer (ok : ProgramOk ⟨.command key request action next, frames⟩) (answer : Except Exn V) :
    ProgramOk ⟨next answer, frames⟩ := by
  refine ok.go (fun careful => careful.2 answer) ?_
  intro propagates
  cases answer with
  | error e =>
    rw [propagates.2.1 e]
    trivial
  | ok response => exact propagates.2.2 response

theorem ProgramOk.push (ok : ProgramOk ⟨.command key request action next, frames⟩) (id : Nat × Nat) :
    ProgramOk ⟨action, ⟨id, key, digest, next⟩ :: frames⟩ := by
  refine ⟨nofun, fun _ => ?_, ?_⟩
  · by_cases outside : frames = []
    · exact (ok.careful outside).1
    · exact (ok.propagates outside).1
  · cases frames with
    | nil => exact (ok.careful rfl).2
    | cons outer frames =>
      obtain ⟨_, errors, responses⟩ := ok.propagates (cons_ne_nil _ _)
      exact ⟨errors, responses, ok.returns⟩

/-- A transaction whose task takes another lock and goes on. -/
theorem TransactionOk.lock {serial' : Nat} (ok : TransactionOk commands advisory failed serial i task tx)
    (runs : ∀ e, task.focus ≠ .raise e) (key : String) (outside : task'.frames = [] → task.frames = [])
    (frames : ∀ frame ∈ task'.frames, frame.key = key ∨ frame ∈ task.frames) (le : serial ≤ serial') :
    TransactionOk commands (update advisory key (some i)) failed serial' i task' tx where
  outside none_ := ok.outside (outside none_)
  holds f mem := by
    rw [update_apply]
    split_ifs with same
    · rfl
    · rcases frames f mem with new | old
      · exact absurd new same
      · exact ok.holds f old
  own d mem f within := ⟨(ok.own d mem f within).1, Nat.lt_of_lt_of_le (ok.own d mem f within).2 le⟩
  spoilt := by
    rintro ⟨d, mem, f, within, dead⟩
    exact absurd dead (ok.intact runs d mem f within)
  receipts := ok.receipts
  keys := ok.keys
  locked k mem := by
    refine ⟨?_, (ok.locked k mem).2⟩
    rw [update_apply]
    split_ifs
    · rfl
    · exact (ok.locked k mem).1
  records := ok.records

/-- The beginning of a command keeps the invariant. -/
theorem Inv.enter (inv : Inv sys) (at_ : sys.tasks i = ⟨.command key request action next, frames⟩) :
    Inv (sys.enter turn i frames key digest action next) := by
  obtain ⟨program, framesOk, ok⟩ := inv.taskOk at_
  unfold PostgresSystem.enter
  cases sys.failure i turn with
  | some e => exact inv.stumble at_ nofun (program.answer _) turn
  | none =>
    by_cases waits : (sys.advisory key).any (· ≠ i)
    · simp only [waits, if_true]
      exact inv
    · simp only [waits]
      cases (sys.tables.commands ++ (sys.transactions i).commands).lookup key with
      | some receipt =>
        by_cases outside : frames = []
        · simp only [outside, if_true]
          subst outside
          exact inv.go at_ nofun (program.answer _)
        · simp only [outside]
          exact inv.of_update (i := i) rfl (update_eq_self i sys.transactions).symm
            (.lock key waits (Nat.le_refl _) rfl rfl rfl rfl) (program.answer _) framesOk
            (ok.lock nofun key (fun none_ => none_) (fun _ mem => .inr mem) (Nat.le_refl _)) inv.failedBelow inv.log
      | none =>
        exact inv.of_update (i := i) rfl (update_eq_self i sys.transactions).symm
          (.lock key waits (Nat.le_succ _) rfl rfl rfl rfl) (program.push _)
          (framesOk.push inv.log.below inv.failedBelow key digest next)
          (ok.lock nofun key nofun (forall_mem_cons.mpr ⟨.inl rfl, fun _ old => .inr old⟩) (Nat.le_succ _))
          (fun f dead => Nat.lt_succ_of_lt (inv.failedBelow f dead)) inv.log.enter

end

/-- The end of a transaction frees the locks of its task only. -/
theorem release_advisory (sys : PostgresSystem V Op Ans) (i : Nat) {key : String} (ne : j ≠ i)
    (held : sys.advisory key = some j) :
    (sys.release i).advisory key = some j := by
  have other : sys.advisory key ≠ some i := by
    rw [held]
    exact fun same => ne (Option.some.inj same)
  exact (if_neg other).trans held

/-- A failed frame spoils the transaction, and its caller lets the failure out; or the
transaction is rolled back. -/
theorem Inv.abandon (inv : Inv sys) (at_ : sys.tasks i = ⟨focus, frame :: frames⟩) (e : Exn) :
    Inv (sys.abandon i frame frames e) := by
  obtain ⟨program, framesOk, ok⟩ := inv.taskOk at_
  have fails : ∀ id ∈ frame.id :: sys.failed, id = frame.id ∨ id ∈ sys.failed := fun id dead => mem_cons.mp dead
  have mine : ∀ id ∈ frame.id :: sys.failed, id ∈ sys.failed ∨ id.1 = i := by
    intro id dead
    rcases fails id dead with rfl | old
    · exact .inr (framesOk.own frame mem_cons_self).1
    · exact .inl old
  have below : ∀ id ∈ frame.id :: sys.failed, id.2 < sys.serial := by
    intro id dead
    rcases fails id dead with rfl | old
    · exact (framesOk.own frame mem_cons_self).2
    · exact inv.failedBelow id old
  have log := inv.log.fail (framesOk.untouched frame mem_cons_self)
  unfold PostgresSystem.abandon
  split_ifs with outside
  · subst outside
    refine inv.of_update (i := i) rfl rfl ?_ ⟨fun _ => program.returns _, fun inside => absurd rfl inside, trivial⟩
      (framesOk.pop fails) ?_ below log
    · refine ⟨Nat.le_refl _, mine, fun d mem => .inl mem, ?_, fun _ _ _ _ absent => absent⟩
      exact fun key j ne held => release_advisory _ i ne held
    · exact .empty
  · cases frames with
    | nil => exact absurd rfl outside
    | cons outer frames =>
      obtain ⟨errors, _, returns⟩ := program.returns
      have raises : frame.next (.error e) = .raise e := errors e
      refine inv.of_update (i := i) rfl (update_eq_self i sys.transactions).symm ?_ ?_
        (framesOk.pop fails) ?_ below log
      · exact ⟨Nat.le_refl _, mine, fun d mem => .inl mem, fun _ _ _ held => held, fun _ _ _ _ absent => absent⟩
      · refine ⟨nofun, fun _ => ?_, returns⟩
        rw [raises]
        trivial
      · exact ⟨nofun, fun f mem => ok.holds f (mem_cons_of_mem _ mem), ok.own,
          fun _ => ⟨e, raises⟩, ok.receipts, ok.keys, ok.locked, ok.records⟩

theorem Inv.abort (inv : Inv sys) (inside : (sys.tasks i).frames ≠ []) (aborted : Bool) :
    Inv (sys.setTransaction i { sys.transactions i with aborted := aborted }) := by
  have ok := inv.transaction i
  refine inv.of_update (i := i) (update_eq_self i sys.tasks).symm rfl (.quiet rfl rfl rfl rfl rfl)
    (inv.program i) (inv.frames i) ?_ inv.failedBelow inv.log
  exact ⟨fun none_ => absurd none_ inside, ok.holds, ok.own, ok.spoilt, ok.receipts, ok.keys, ok.locked, ok.records⟩

theorem Inv.stumbled (inv : Inv sys) (inside : (sys.tasks i).frames ≠ []) (turn : Turn Ans)
    (frames : List (Frame V Op Ans)) :
    Inv (sys.stumble i turn frames) ∧ (sys.stumble i turn frames).tasks = sys.tasks := by
  unfold PostgresSystem.stumble
  split_ifs
  · exact ⟨inv, rfl⟩
  · exact ⟨inv.abort inside _, rfl⟩

/-- The insertion of a receipt keeps a transaction in order. -/
theorem TransactionOk.insert (ok : TransactionOk commands advisory failed serial i ⟨.done result, frame :: frames⟩ tx)
    (framesOk : FramesOk log failed serial i (frame :: frames))
    (absent : (commands ++ tx.commands).lookup frame.key = none)
    (inside : task'.frames ≠ []) (subset : ∀ f ∈ task'.frames, f ∈ frame :: frames) :
    TransactionOk commands advisory failed serial i task' { tx with
      commands := tx.commands ++ [(frame.key, (frame.digest, result))]
      pending := tx.pending ++ [⟨(frame :: frames).map Frame.id, .receipt frame.key frame.digest result⟩] } := by
  have new := lookup_eq_none_iff_keys.mp absent
  rw [map_append, mem_append, not_or] at new
  constructor
  · exact fun outside => absurd outside inside
  · exact fun f mem => ok.holds f (subset f mem)
  · exact forall_mem_append.mpr ⟨ok.own, forall_frames framesOk.own⟩
  · rintro ⟨d, mem, f, within, dead⟩
    exact absurd dead (ok.intact_append framesOk nofun _ d mem f within)
  · rw [receiptsOf_append, ← ok.receipts]
    rfl
  · exact nodup_map_snoc ok.keys new.2
  · intro key mem
    rw [map_append, mem_append] at mem
    rcases mem with old | added
    · exact ok.locked key old
    · have same : key = frame.key := mem_singleton.mp added
      subst same
      exact ⟨ok.holds frame mem_cons_self, lookup_eq_none_iff_keys.mpr new.1⟩
  · intro bucket key record mem
    obtain ⟨d, there, item⟩ := ok.records _ _ _ mem
    exact ⟨d, mem_append_left _ there, item⟩

/-- The commit of a transaction that nothing failed in. -/
theorem Inv.commit (inv : Inv sys) (at_ : sys.tasks i = ⟨.done result, [frame]⟩) :
    Inv (((sys.commit i).release i).go i (frame.next (.ok result)) []) := by
  obtain ⟨program, framesOk, ok⟩ := inv.taskOk at_
  -- the keys of the transaction are locked by it, so they are new and no other task holds them
  have apart : ∀ key ∈ (sys.transactions i).commands.map Prod.fst, key ∉ sys.tables.commands.map Prod.fst :=
    fun key mem => lookup_eq_none_iff_keys.mp (ok.locked key mem).2
  refine inv.of_update (i := i) rfl rfl ?_ ⟨fun _ => program.returns _, fun inside => absurd rfl inside, trivial⟩
    ?_ ?_ inv.failedBelow ?_
  · refine ⟨Nat.le_refl _, fun _ dead => .inl dead, ?_, fun key j ne held => release_advisory _ i ne held, ?_⟩
    · intro d mem
      rcases mem_append.mp mem with old | new
      · exact .inl old
      · exact .inr fun f within => (ok.own d new f within).1
    · intro key j ne held absent
      refine lookup_eq_none_iff_keys.mpr ?_
      intro mem
      rcases mem_append.mp ((map_append ..) ▸ mem) with old | new
      · exact lookup_eq_none_iff_keys.mp absent old
      · have same : some j = some i := held.symm.trans (ok.locked key new).1
        exact ne (Option.some.inj same)
  · exact .nil
  · exact .empty
  · refine inv.log.append ?_ (ok.intact nofun) (congrArg (sys.tables.commands ++ ·) ok.receipts) ?_ ?_
    · exact fun d mem f within => (ok.own d mem f within).2
    · have joined : ((sys.tables.commands ++ (sys.transactions i).commands).map Prod.fst).Nodup := by
        rw [map_append]
        exact List.Nodup.append inv.log.keys ok.keys fun key old new => apart key new old
      exact joined
    · intro bucket key record mem
      rcases mem_dictUpdate mem with old | new
      · exact .inl old
      · exact .inr (ok.records _ _ _ new)

/-- The end of a command: its receipt is inserted and the transaction commits. -/
theorem Inv.finish (inv : Inv sys) (at_ : sys.tasks i = ⟨.done result, frame :: frames⟩) :
    Inv (sys.finish turn i frame frames result) := by
  obtain ⟨program, framesOk, ok⟩ := inv.taskOk at_
  have inside : (sys.tasks i).frames ≠ [] := by rw [at_]; exact cons_ne_nil _ _
  unfold PostgresSystem.finish
  cases sys.failure i turn with
  | some e =>
    obtain ⟨inv', same⟩ := inv.stumbled inside turn frames
    exact inv'.abandon (same ▸ at_) e
  | none =>
    simp only
    cases absent : (sys.tables.commands ++ (sys.transactions i).commands).lookup frame.key with
    | some receipt => exact (inv.abort inside true).abandon at_ _
    | none =>
      simp only
      split_ifs with outside
      · subst outside
        have inserted : Inv (sys.setTransaction i { sys.transactions i with
            commands := (sys.transactions i).commands ++ [(frame.key, (frame.digest, result))]
            pending := (sys.transactions i).pending ++
              [⟨[frame].map Frame.id, .receipt frame.key frame.digest result⟩] }) := by
          refine inv.of_update (i := i) (update_eq_self i sys.tasks).symm rfl
            (.quiet rfl rfl rfl rfl rfl) (inv.program i) (inv.frames i) ?_ inv.failedBelow inv.log
          exact ok.insert framesOk absent inside (by rw [at_]; exact fun f mem => mem)
        exact inserted.commit at_
      · cases frames with
        | nil => exact absurd rfl outside
        | cons outer frames =>
          obtain ⟨_, responses, returns⟩ := program.returns
          refine inv.of_update (i := i) rfl rfl (.quiet rfl rfl rfl rfl rfl) ?_ ?_ ?_ inv.failedBelow inv.log
          · exact ⟨nofun, fun _ => responses result, returns⟩
          · exact framesOk.pop fun id dead => .inr dead
          · exact ok.insert framesOk absent (cons_ne_nil _ _) fun f mem => mem_cons_of_mem _ mem

/-- Every turn keeps the invariant. -/
theorem Inv.advance (inv : Inv sys) (fingerprint : V → Except Exn String) (turn : Turn Ans) :
    Inv (sys.advance fingerprint turn) := by
  unfold PostgresSystem.advance
  rcases at_ : sys.tasks turn.task with ⟨focus, frames⟩
  obtain ⟨program, -⟩ := inv.taskOk at_
  unfold PostgresSystem.act
  cases focus with
  | done result =>
    cases frames with
    | nil => exact inv
    | cons frame frames => exact inv.finish at_
  | raise e =>
    cases frames with
    | nil => exact inv
    | cons frame frames => exact inv.abandon at_ e
  | get _ _ next | list _ next =>
    have goes : ∀ answer, ProgramOk ⟨next answer, frames⟩ := fun answer =>
      program.go (fun careful => careful answer) fun propagates => propagates answer
    simp only
    cases sys.failure turn.task turn with
    | some e => exact inv.stumble at_ nofun (goes _) turn
    | none => exact inv.go at_ nofun (goes _)
  | put bucket key value expectedVersion next =>
    have goes : ∀ answer, ProgramOk ⟨next answer, frames⟩ := fun answer =>
      program.go (fun careful => careful answer) fun propagates => propagates answer
    simp only
    cases fingerprint value with
    | error e => exact inv.go at_ nofun (goes _)
    | ok _ => exact inv.put at_ goes
  | command key request action next =>
    simp only
    cases commandDigest fingerprint key request with
    | error e => exact inv.go at_ nofun (program.answer _)
    | ok digest => exact inv.enter at_
  | call op next =>
    exact inv.go at_ nofun (program.go (fun careful => careful _) fun propagates => propagates _)

/-- A store at its start, with a program for each task whose actions let the failures of the
commands inside them out. -/
def Start (sys : PostgresSystem V Op Ans) : Prop :=
  ∃ program : Nat → Action V Op Ans, (∀ i, (program i).Careful) ∧ sys = { tasks := fun i => ⟨program i, []⟩ }

theorem inv_of_reaches (start : Start sys) (reaches : (postgresSystem fingerprint).Reaches sys sys') : Inv sys' := by
  obtain ⟨program, careful, rfl⟩ := start
  obtain ⟨tr, tr', run⟩ := reaches
  refine run.invariant (P := fun _ sys => Inv sys) ?_ fun _ _ turn inv _ => inv.advance fingerprint turn
  constructor
  · exact fun i => ⟨fun _ => careful i, fun inside => absurd rfl inside, trivial⟩
  · exact fun i => .nil
  · exact fun i => .empty
  · exact nofun
  · exact .empty

theorem stumble_log (turn : Turn Ans) (frames : List (Frame V Op Ans)) : (sys.stumble i turn frames).log = sys.log := by
  unfold stumble
  split_ifs <;> rfl

theorem abandon_log (e : Exn) : (sys.abandon i frame frames e).log = sys.log := by
  unfold abandon
  split_ifs <;> rfl

theorem finish_log (result : V) : sys.log <+: (sys.finish turn i frame frames result).log := by
  unfold finish
  cases sys.failure i turn with
  | some e =>
    have same : ((sys.stumble i turn frames).abandon i frame frames e).log = sys.log :=
      (abandon_log e).trans (stumble_log turn frames)
    exact same.symm ▸ prefix_rfl
  | none =>
    simp only
    cases (sys.tables.commands ++ (sys.transactions i).commands).lookup frame.key with
    | some receipt => exact (abandon_log _).symm ▸ prefix_rfl
    | none =>
      simp only
      split_ifs
      · exact prefix_append _ _
      · exact prefix_rfl

/-- A turn only adds to the log. -/
theorem log_prefix (fingerprint : V → Except Exn String) (turn : Turn Ans) (sys : PostgresSystem V Op Ans) :
    sys.log <+: (sys.advance fingerprint turn).log := by
  have stumbles : ∀ focus frames, sys.log <+: ((sys.stumble turn.task turn frames).go turn.task focus frames).log := by
    intro focus frames
    exact (stumble_log turn frames).symm ▸ prefix_rfl
  unfold advance act
  split
  case _ | _ => exact prefix_rfl
  case _ => exact finish_log _
  case _ => exact (abandon_log _).symm ▸ prefix_rfl
  case _ | _ =>
    split
    · exact stumbles _ _
    · exact prefix_rfl
  case _ =>
    split
    · exact prefix_rfl
    · unfold put
      split
      · exact stumbles _ _
      · split_ifs
        · exact prefix_rfl
        · split
          · exact prefix_rfl
          · unfold write
            split_ifs
            · exact prefix_append _ _
            · exact prefix_rfl
  case _ =>
    split
    · exact prefix_rfl
    · unfold enter
      split
      · exact stumbles _ _
      · split_ifs
        · exact prefix_rfl
        all_goals
          split <;> exact prefix_rfl
  case _ => exact prefix_rfl

/-- A command whose receipt is stored is answered from it without a write, or waits. -/
theorem advance_receipt {key digest : String} {request : V} {action : Action V Op Ans}
    {next : Except Exn V → Action V Op Ans} {receipt : String × V}
    (at_ : sys.tasks turn.task = ⟨.command key request action next, frames⟩)
    (valid : commandDigest fingerprint key request = .ok digest)
    (found : sys.tables.commands.lookup key = some receipt) :
    sys.advance fingerprint turn = sys ∨ ((sys.advance fingerprint turn).tables = sys.tables ∧
      (sys.advance fingerprint turn).log = sys.log ∧ ∃ answer,
        (sys.advance fingerprint turn).tasks = update sys.tasks turn.task ⟨next answer, frames⟩ ∧
        (answer = receiptAnswer digest receipt ∨ sys.failure turn.task turn ≠ none ∧ ∃ e, answer = .error e)) := by
  have seen : (sys.tables.commands ++ (sys.transactions turn.task).commands).lookup key = some receipt := by
    rw [lookup_append, found]
    rfl
  simp only [advance, at_, act, valid]
  unfold enter
  cases failed : sys.failure turn.task turn with
  | some e =>
    right
    refine ⟨?_, ?_, .error e, ?_, .inr ⟨Option.some_ne_none e, e, rfl⟩⟩
    all_goals
      simp only [go, stumble]
      split_ifs <;> rfl
  | none =>
    simp only [seen]
    split_ifs with waits outside
    · exact .inl rfl
    · exact .inr ⟨rfl, rfl, _, rfl, .inl rfl⟩
    · exact .inr ⟨rfl, rfl, _, rfl, .inl rfl⟩

end PostgresSystem

/-- The store in PostgreSQL keeps the contract for careful programs. -/
theorem postgres_contract (fingerprint : V → Except Exn String) :
    CommandContract (postgresSystem fingerprint : RecordSystem V Op Ans _) fingerprint PostgresSystem.Start :=
  .of_log (fun _ _ start reaches => ⟨_, (PostgresSystem.inv_of_reaches start reaches).log⟩)
    (fun sys turn => PostgresSystem.log_prefix fingerprint turn sys)
    fun _ _ _ _ _ _ _ _ _ at_ valid found => PostgresSystem.advance_receipt at_ valid found

end PersonalAssistant
