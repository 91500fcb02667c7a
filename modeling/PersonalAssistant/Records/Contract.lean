import PersonalAssistant.Records.InMemory
import PersonalAssistant.Records.Postgres

/-!
# What the record stores promise

Both stores keep the contract of commands for the programs they can keep it for: in memory,
actions that do not fail any more once they have written and do not run a command inside one
of the same key; in PostgreSQL, actions that let the failures of the commands inside them out.
Outside of that, each store leaves behind what a failed action wrote.
-/

namespace PersonalAssistant

variable {V Op Ans : Type}

/-- The commands of both stores, with any number of tasks and any interleaving of them. -/
theorem commands_keep_contract (fingerprint : V → Except Exn String) :
    CommandContract (memorySystem fingerprint : RecordSystem V Op Ans _) fingerprint MemorySystem.Start ∧
      CommandContract (postgresSystem fingerprint : RecordSystem V Op Ans _) fingerprint PostgresSystem.Start :=
  ⟨memory_contract fingerprint, postgres_contract fingerprint⟩

/-- An action that writes a record and fails. -/
def writeAndFail : Action String Unit Unit := .put "items" "a" "v" 0 fun _ => .raise (.other "ValueError")

/-- A task that runs it as a command and goes on. -/
def failingProgram : Action String Unit Unit := .command "k" "request" writeAndFail fun _ => .done ""

/-- A command inside which that command fails and is gone on from. -/
def caughtProgram : Action String Unit Unit :=
  .command "outer" "request" (.command "k" "request" writeAndFail fun _ => .done "caught") fun _ => .done ""

/-- A command inside one of the same key. -/
def sameKeyProgram : Action String Unit Unit :=
  .command "k" "request" (.command "k" "request" (.done "inner") fun _ => .done "outer") fun _ => .done ""

/-- A command that writes a record. -/
def writingProgram : Action String Unit Unit :=
  .command "k" "request" (.put "items" "a" "v" 0 fun answer => match answer with
    | .ok _ => .done "written"
    | .error e => .raise e) fun _ => .done ""

/-- A turn of the first task. -/
def firstTask : Turn Unit := ⟨0, .ok (), none, true⟩

/-- A store in memory with one program in all tasks. -/
def memoryStart (program : Action String Unit Unit) :
    MemorySystem String Unit Unit := { tasks := fun _ => ⟨program, []⟩ }

/-- The same in PostgreSQL. -/
def postgresStart (program : Action String Unit Unit) :
    PostgresSystem String Unit Unit := { tasks := fun _ => ⟨program, []⟩ }

/-- A command whose action writes and returns is within the contract. -/
theorem commands_keep_contract_sample :
    MemorySystem.Start (memoryStart writingProgram) ∧ PostgresSystem.Start (postgresStart writingProgram) ∧
      (∀ sys, (memorySystem .ok).Reaches (memoryStart writingProgram) sys →
        ∀ d ∈ sys.log, ∀ frame ∈ d.frames, frame ∉ sys.failed) ∧
      ∀ sys, (postgresSystem .ok).Reaches (postgresStart writingProgram) sys →
        ∀ d ∈ sys.log, ∀ frame ∈ d.frames, frame ∉ sys.failed := by
  have tame : writingProgram.Tame := by
    refine ⟨⟨fun _ => rfl, fun _ => trivial⟩, ?_, fun _ => trivial⟩
    intro answer
    cases answer <;> trivial
  have careful : writingProgram.Careful := by
    refine ⟨?_, fun _ => trivial⟩
    intro answer
    cases answer <;> trivial
  have inMemory : MemorySystem.Start (memoryStart writingProgram) := ⟨fun _ => writingProgram, fun _ => tame, rfl⟩
  have inPostgres : PostgresSystem.Start (postgresStart writingProgram) :=
    ⟨fun _ => writingProgram, fun _ => careful, rfl⟩
  exact ⟨inMemory, inPostgres, fun sys => (commands_keep_contract .ok).1.clean _ sys inMemory,
    fun sys => (commands_keep_contract .ok).2.clean _ sys inPostgres⟩

/-- In memory the record of a failed action stays, and two actions are applied under one key;
in PostgreSQL the record of a failed action is committed when the action around it goes on. -/
theorem failed_action_leaves_record :
    (∃ sys, (memorySystem .ok).Reaches (memoryStart failingProgram) sys ∧
      (("items", "a"), ⟨"a", 1, "v"⟩) ∈ sys.tables.records ∧ sys.tables.commands = [] ∧
      ∃ d ∈ sys.log, ∃ frame ∈ d.frames, frame ∈ sys.failed) ∧
    (∃ sys, (memorySystem .ok).Reaches (memoryStart sameKeyProgram) sys ∧
      (sys.log.filterMap fun d => d.item.commandKey?) = ["k", "k"]) ∧
    ∃ sys, (postgresSystem .ok).Reaches (postgresStart caughtProgram) sys ∧
      (("items", "a"), ⟨"a", 1, "v"⟩) ∈ sys.tables.records ∧
      ∃ d ∈ sys.log, ∃ frame ∈ d.frames, frame ∈ sys.failed := by
  refine ⟨⟨_, (memorySystem .ok).reaches_foldl _ (List.replicate 3 firstTask), ?_, rfl,
      ⟨[(0, 0)], .record "items" "a" ⟨"a", 1, "v"⟩⟩, ?_, (0, 0), List.mem_cons_self, List.mem_cons_self⟩,
    ⟨_, (memorySystem .ok).reaches_foldl _ (List.replicate 4 firstTask), rfl⟩,
    ⟨_, (postgresSystem .ok).reaches_foldl _ (List.replicate 5 firstTask), ?_,
      ⟨[(0, 1), (0, 0)], .record "items" "a" ⟨"a", 1, "v"⟩⟩, ?_, (0, 1), List.mem_cons_self, List.mem_cons_self⟩⟩
  all_goals exact List.mem_cons_self

end PersonalAssistant
