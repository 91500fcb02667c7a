import PersonalAssistant.Coro.Machine
import PersonalAssistant.Domain.Exceptions

/-!
# Records and commands

The record stores keep versioned records and, for each command key, the fingerprint of the
request and the response of the action that was applied. An action is the tree of what it may
do at each of its awaits: read and write records, run a command of its own, await something
else. It may go on from a failure or let it out, as its code has it.

Tasks take turns at their awaits. A task that runs commands has a frame for each, innermost
first, and the tasks, the frames that failed and the log of what became durable are kept so
that the stores can be held to the same contract.
-/

namespace PersonalAssistant

open List

/-- A record as the stores return it. -/
structure Rec (V : Type) where
  id : String
  version : Nat
  value : V
  deriving DecidableEq, Repr

/-- The records by bucket and key, and the receipts by command key. -/
structure RecordTables (V : Type) where
  records : List ((String × String) × Rec V) := []
  commands : List (String × (String × V)) := []

/-- What an action may do. Each await names how the action goes on from its answer. -/
inductive Action (V Op Ans : Type) where
  | done (result : V)
  | raise (e : Exn)
  | get (bucket key : String) (next : Except Exn (Option (Rec V)) → Action V Op Ans)
  | list (bucket : String) (next : Except Exn (List (Rec V)) → Action V Op Ans)
  | put (bucket key : String) (value : V) (expectedVersion : Nat) (next : Except Exn (Rec V) → Action V Op Ans)
  | command (key : String) (request : V) (action : Action V Op Ans) (next : Except Exn V → Action V Op Ans)
  | call (op : Op) (next : Except Exn Ans → Action V Op Ans)

/-- A command whose action is running: the task and serial number of the call, and how the
caller goes on. -/
structure Frame (V Op Ans : Type) where
  id : Nat × Nat
  key : String
  digest : String
  next : Except Exn V → Action V Op Ans

/-- A task: what it is about to do, inside which commands. -/
structure Task (V Op Ans : Type) where
  focus : Action V Op Ans
  frames : List (Frame V Op Ans) := []

/-- Which task goes next, what the thing it calls answers, and whether its request fails. -/
structure Turn (Ans : Type) where
  task : Nat
  answer : Except Exn Ans
  fault : Option Exn := none
  /-- The failed request aborts the transaction it was made in. -/
  aborts : Bool := true

/-- A call that was answered, with the commands inside which it was made. -/
structure CallAnswer (Op Ans : Type) where
  frames : List (Nat × Nat)
  op : Op
  answer : Except Exn Ans

/-- The call that the turn of a task answers. -/
def Task.called {V Op Ans : Type} (task : Task V Op Ans) (answer : Except Exn Ans) : Option (CallAnswer Op Ans) :=
  match task.focus with
  | .call op _ => some ⟨task.frames.map Frame.id, op, answer⟩
  | _ => none

/-- What became durable. -/
inductive Item (V : Type) where
  | record (bucket key : String) (record : Rec V)
  | receipt (key digest : String) (response : V)

/-- An item, with the commands inside which it was written. -/
structure Durable (V : Type) where
  frames : List (Nat × Nat)
  item : Item V

/-- The command key of a receipt. -/
def Item.commandKey? {V : Type} : Item V → Option String
  | .record _ _ _ => none
  | .receipt key _ _ => some key

/-- `ConcurrentModificationError`. -/
abbrev concurrentModification (message : String) : Exn := .domain .concurrentModification message

section
variable {V : Type}

/-- The version check of `put`, and the record it writes. -/
def checkedRecord (old : Option (Rec V)) (key : String) (value : V) (expectedVersion : Nat) : Except Exn (Rec V) :=
  if (old.map Rec.version).getD 0 ≠ expectedVersion then .error (concurrentModification "record version changed")
  else .ok ⟨key, expectedVersion + 1, value⟩

/-- What a call finds under its key. -/
def receiptAnswer (digest : String) (receipt : String × V) : Except Exn V :=
  if receipt.1 ≠ digest then .error (concurrentModification "command key belongs to another request")
  else .ok receipt.2

/-- What both stores check of a call before they look for its key. -/
def commandDigest (fingerprint : V → Except Exn String) (key : String) (request : V) : Except Exn String :=
  if key = "" ∨ 256 < key.length then .error (validationError "a bounded command key is required")
  else fingerprint request

end

/-! ## The log -/

section
variable {V : Type}

/-- The receipts of a log. -/
def receiptsOf (log : List (Durable V)) : List (String × (String × V)) :=
  log.filterMap fun d => match d.item with
    | .receipt key digest response => some (key, (digest, response))
    | .record _ _ _ => none

/-- The log against the tables and the frames that failed; frames have serial numbers. -/
structure LogOk (tables : RecordTables V) (log : List (Durable V)) (failed : List (Nat × Nat)) (serial : Nat) :
    Prop where
  below : ∀ d ∈ log, ∀ frame ∈ d.frames, frame.2 < serial
  clean : ∀ d ∈ log, ∀ frame ∈ d.frames, frame ∉ failed
  receipts : tables.commands = receiptsOf log
  keys : (tables.commands.map Prod.fst).Nodup
  records : ∀ bucket key record, ((bucket, key), record) ∈ tables.records →
    ∃ d ∈ log, d.item = .record bucket key record

variable {tables tables' : RecordTables V} {log items : List (Durable V)} {failed : List (Nat × Nat)} {serial : Nat}

theorem receiptsOf_append (log items : List (Durable V)) :
    receiptsOf (log ++ items) = receiptsOf log ++ receiptsOf items :=
  filterMap_append

theorem mem_receiptsOf (log : List (Durable V)) (key digest : String) (response : V) :
    (key, (digest, response)) ∈ receiptsOf log ↔ ∃ d ∈ log, d.item = .receipt key digest response := by
  unfold receiptsOf
  rw [mem_filterMap]
  refine exists_congr fun d => and_congr_right fun _ => ?_
  cases d.item with
  | record bucket key record => simp
  | receipt key' digest' response' => simp

theorem receiptsOf_keys (log : List (Durable V)) :
    (receiptsOf log).map Prod.fst = log.filterMap fun d => d.item.commandKey? := by
  unfold receiptsOf
  rw [map_filterMap]
  congr 1
  funext d
  cases d.item <;> rfl

theorem LogOk.empty : LogOk ({} : RecordTables V) [] [] 0 := ⟨nofun, nofun, rfl, nodup_nil, nofun⟩

theorem forall_frames {Op Ans : Type} {P : Nat × Nat → Prop} {frames : List (Frame V Op Ans)} {item : Item V}
    (h : ∀ f ∈ frames, P f.id) : ∀ d ∈ [(⟨frames.map Frame.id, item⟩ : Durable V)], ∀ frame ∈ d.frames, P frame := by
  intro d mem frame inside
  rw [mem_singleton.mp mem] at inside
  obtain ⟨f, there, rfl⟩ := mem_map.mp inside
  exact h f there

theorem mem_written {records : List ((String × String) × Rec V)} {bucket key : String} {record : Rec V}
    {frames : List (Nat × Nat)} {bucket' key' : String} {record' : Rec V}
    (mem : ((bucket', key'), record') ∈ dictSet (bucket, key) record records) : ((bucket', key'), record') ∈ records ∨
      ∃ d ∈ [(⟨frames, .record bucket key record⟩ : Durable V)], d.item = .record bucket' key' record' := by
  rcases mem_dictSet mem with new | old
  · cases new
    exact .inr ⟨_, mem_cons_self, rfl⟩
  · exact .inl old

variable (ok : LogOk tables log failed serial)

include ok

/-- Items written inside frames that have not failed become durable. -/
theorem LogOk.append (below : ∀ d ∈ items, ∀ frame ∈ d.frames, frame.2 < serial)
    (alive : ∀ d ∈ items, ∀ frame ∈ d.frames, frame ∉ failed)
    (receipts : tables'.commands = tables.commands ++ receiptsOf items) (keys : (tables'.commands.map Prod.fst).Nodup)
    (records : ∀ bucket key record, ((bucket, key), record) ∈ tables'.records →
      ((bucket, key), record) ∈ tables.records ∨ ∃ d ∈ items, d.item = .record bucket key record) :
    LogOk tables' (log ++ items) failed serial := by
  constructor
  · exact forall_mem_append.mpr ⟨ok.below, below⟩
  · exact forall_mem_append.mpr ⟨ok.clean, alive⟩
  · rw [receipts, receiptsOf_append, ok.receipts]
  · exact keys
  · intro bucket key record mem
    rcases records bucket key record mem with old | ⟨d, new, item⟩
    · obtain ⟨d, there, item⟩ := ok.records _ _ _ old
      exact ⟨d, mem_append_left _ there, item⟩
    · exact ⟨d, mem_append_right _ new, item⟩

theorem LogOk.fail {frame : Nat × Nat} (untouched : ∀ d ∈ log, frame ∉ d.frames) :
    LogOk tables log (frame :: failed) serial := by
  refine ⟨ok.below, ?_, ok.receipts, ok.keys, ok.records⟩
  intro d mem inside there dead
  rcases mem_cons.mp dead with rfl | old
  · exact untouched d mem there
  · exact ok.clean d mem inside there old

theorem LogOk.enter : LogOk tables log failed (serial + 1) :=
  ⟨fun d mem frame inside => Nat.lt_succ_of_lt (ok.below d mem frame inside), ok.clean, ok.receipts,
    ok.keys, ok.records⟩

end

/-! ## The contract -/

/-- A store with the tasks that use it. -/
structure RecordSystem (V Op Ans S : Type) where
  step : Machine S (Turn Ans) (Option (CallAnswer Op Ans))
  tables : S → RecordTables V
  tasks : S → Nat → Task V Op Ans
  log : S → List (Durable V)
  failed : S → List (Nat × Nat)
  /-- The turn meets no failure of the store. -/
  healthy : S → Turn Ans → Prop

/-- The states that tasks reach from the start of their programs. -/
def RecordSystem.Reaches {V Op Ans S : Type} (R : RecordSystem V Op Ans S) (s s' : S) : Prop :=
  ∃ tr tr', Machine.Run R.step (fun _ _ _ => True) tr s tr' s'

theorem RecordSystem.reaches_foldl {V Op Ans S : Type} (R : RecordSystem V Op Ans S) (s : S) (turns : List (Turn Ans)) :
    R.Reaches s (turns.foldl (fun s turn => (R.step s turn).2) s) := by
  suffices ∀ tr, ∃ tr', Machine.Run R.step (fun _ _ _ => True) tr s tr'
    (turns.foldl (fun s turn => (R.step s turn).2) s) by
    obtain ⟨tr', run⟩ := this []
    exact ⟨[], tr', run⟩
  induction turns generalizing s with
  | nil => exact fun tr => ⟨tr, .start⟩
  | cons turn turns ih =>
    intro tr
    obtain ⟨tr', run⟩ := ih (R.step s turn).2 (tr ++ [(turn, (R.step s turn).1)])
    exact ⟨tr', (Machine.Run.start.step turn trivial).trans run⟩

/-- What a store promises of its commands, in every state that is reached from a start. -/
structure CommandContract {V Op Ans S : Type} (R : RecordSystem V Op Ans S) (fingerprint : V → Except Exn String)
    (start : S → Prop) : Prop where
  /-- An action is applied at most once for a key. -/
  once : ∀ s s', start s → R.Reaches s s' → ((R.log s').filterMap fun d => d.item.commandKey?).Nodup
  /-- The receipts are what was applied, and stay. -/
  receipts : ∀ s s', start s → R.Reaches s s' → ∀ key digest response,
    (key, (digest, response)) ∈ (R.tables s').commands ↔ ∃ d ∈ R.log s', d.item = .receipt key digest response
  kept : ∀ s s' turn, start s → R.Reaches s s' → R.log s' <+: R.log (R.step s' turn).2
  /-- Where its key has a receipt, a call waits or goes on from that receipt, and nothing else
  changes; its action is not run. -/
  answered : ∀ s s' turn, start s → R.Reaches s s' → ∀ key request action next frames digest receipt,
    R.tasks s' turn.task = ⟨.command key request action next, frames⟩ → commandDigest fingerprint key request =
      .ok digest →
    (R.tables s').commands.lookup key = some receipt →
    (R.step s' turn).2 = s' ∨ (R.tables (R.step s' turn).2 = R.tables s' ∧ R.log (R.step s' turn).2 = R.log s' ∧
      ∃ answer, R.tasks (R.step s' turn).2 = Function.update (R.tasks s') turn.task ⟨next answer, frames⟩ ∧
        (answer = receiptAnswer digest receipt ∨ ¬ R.healthy s' turn ∧ ∃ e, answer = .error e))
  /-- Nothing that was written inside an action that failed is durable. -/
  clean : ∀ s s', start s → R.Reaches s s' → ∀ d ∈ R.log s', ∀ frame ∈ d.frames, frame ∉ R.failed s'
  /-- The records are what was written. -/
  records : ∀ s s', start s → R.Reaches s s' → ∀ bucket key record, ((bucket, key), record) ∈ (R.tables s').records →
    ∃ d ∈ R.log s', d.item = .record bucket key record

/-- A store whose log is in order keeps the contract, if it keeps the log and answers from it. -/
theorem CommandContract.of_log {V Op Ans S : Type} {R : RecordSystem V Op Ans S} {fingerprint : V → Except Exn String}
    {start : S → Prop}
    (ok : ∀ s s', start s → R.Reaches s s' → ∃ serial, LogOk (R.tables s') (R.log s') (R.failed s') serial)
    (kept : ∀ s' turn, R.log s' <+: R.log (R.step s' turn).2)
    (answered : ∀ s' turn key request action next frames digest receipt,
      R.tasks s' turn.task = ⟨.command key request action next, frames⟩ → commandDigest fingerprint key request =
        .ok digest →
      (R.tables s').commands.lookup key = some receipt →
      (R.step s' turn).2 = s' ∨ (R.tables (R.step s' turn).2 = R.tables s' ∧ R.log (R.step s' turn).2 = R.log s' ∧
        ∃ answer, R.tasks (R.step s' turn).2 = Function.update (R.tasks s') turn.task ⟨next answer, frames⟩ ∧
          (answer = receiptAnswer digest receipt ∨ ¬ R.healthy s' turn ∧ ∃ e, answer = .error e))) :
    CommandContract R fingerprint start where
  once s s' begins reaches := by
    obtain ⟨serial, log⟩ := ok s s' begins reaches
    have keys := log.keys
    rwa [log.receipts, receiptsOf_keys] at keys
  receipts s s' begins reaches key digest response := by
    obtain ⟨serial, log⟩ := ok s s' begins reaches
    rw [log.receipts]
    exact mem_receiptsOf (R.log s') key digest response
  kept _ s' turn _ _ := kept s' turn
  answered _ s' turn _ _ := answered s' turn
  clean s s' begins reaches := (ok s s' begins reaches).elim fun _ log => log.clean
  records s s' begins reaches := (ok s s' begins reaches).elim fun _ log => log.records

end PersonalAssistant
