import PersonalAssistant.Records.Action

/-!
# The record store in memory

`InMemoryRecordStore`. The lock of the records is never held over an await, so a read or a
write is one step. The lock of the commands is held while an action runs, and the task that
holds it enters again without waiting. What an action wrote stays when it fails: there is no
way back. So the store keeps the contract for the actions that cannot fail any more once they
have written, and only for those that do not run a command inside one of the same key, which
is looked up before the outer receipt is there.
-/

namespace PersonalAssistant

open Function List

variable {V Op Ans : Type}

/-- The store, the owner of the lock of the commands, and the tasks. -/
structure MemorySystem (V Op Ans : Type) where
  tables : RecordTables V := {}
  owner : Option Nat := none
  tasks : Nat → Task V Op Ans
  log : List (Durable V) := []
  failed : List (Nat × Nat) := []
  serial : Nat := 0

namespace MemorySystem

variable (sys : MemorySystem V Op Ans)

/-- The task goes on. -/
def go (i : Nat) (focus : Action V Op Ans) (frames : List (Frame V Op Ans)) : MemorySystem V Op Ans :=
  { sys with tasks := update sys.tasks i ⟨focus, frames⟩ }

/-- The lock is released with the outermost command. -/
def release (frames : List (Frame V Op Ans)) : MemorySystem V Op Ans :=
  { sys with owner := if frames = [] then none else sys.owner }

/-- `put`, once the value has a fingerprint. -/
def put (i : Nat) (frames : List (Frame V Op Ans)) (bucket key : String) (value : V) (expectedVersion : Nat)
    (next : Except Exn (Rec V) → Action V Op Ans) : MemorySystem V Op Ans :=
  match checkedRecord (sys.tables.records.lookup (bucket, key)) key value expectedVersion with
  | .error e => sys.go i (next (.error e)) frames
  | .ok record =>
    let item : Durable V := ⟨frames.map Frame.id, .record bucket key record⟩
    let written := { sys with
      tables := { sys.tables with records := dictSet (bucket, key) record sys.tables.records }
      log := sys.log ++ [item] }
    written.go i (next (.ok record)) frames

/-- `command`, once the request has a fingerprint: wait for the lock, unless the task has it,
and look for the key. -/
def enter (i : Nat) (frames : List (Frame V Op Ans)) (key digest : String) (action : Action V Op Ans)
    (next : Except Exn V → Action V Op Ans) (fault : Option Exn) : MemorySystem V Op Ans :=
  if frames = [] ∧ sys.owner ≠ none then
    match fault with
    | none => sys
    | some e => sys.go i (next (.error e)) frames
  else
    match sys.tables.commands.lookup key with
    | some receipt => sys.go i (next (receiptAnswer digest receipt)) frames
    | none =>
      let entered := { sys with owner := some i, serial := sys.serial + 1 }
      entered.go i action (⟨(i, sys.serial), key, digest, next⟩ :: frames)

/-- The action returned: its receipt is stored. -/
def finish (i : Nat) (frame : Frame V Op Ans) (frames : List (Frame V Op Ans)) (result : V) : MemorySystem V Op Ans :=
  let item : Durable V := ⟨(frame :: frames).map Frame.id, .receipt frame.key frame.digest result⟩
  let stored := { sys with
    tables := { sys.tables with commands := dictSet frame.key (frame.digest, result) sys.tables.commands }
    log := sys.log ++ [item] }
  (stored.release frames).go i (frame.next (.ok result)) frames

/-- The action raised. -/
def abandon (i : Nat) (frame : Frame V Op Ans) (frames : List (Frame V Op Ans)) (e : Exn) : MemorySystem V Op Ans :=
  (({ sys with failed := frame.id :: sys.failed } : MemorySystem V Op Ans).release frames).go i
    (frame.next (.error e)) frames

/-- What a task does in its turn. -/
def act (fingerprint : V → Except Exn String) (turn : Turn Ans) (i : Nat) (focus : Action V Op Ans)
    (frames : List (Frame V Op Ans)) : MemorySystem V Op Ans :=
  match focus, frames with
  | .done _, [] => sys
  | .raise _, [] => sys
  | .done result, frame :: frames => sys.finish i frame frames result
  | .raise e, frame :: frames => sys.abandon i frame frames e
  | .get bucket key next, frames => sys.go i (next (.ok (sys.tables.records.lookup (bucket, key)))) frames
  | .list bucket next, frames =>
    sys.go i (next (.ok ((sys.tables.records.filter fun entry => entry.1.1 = bucket).map Prod.snd))) frames
  | .put bucket key value expectedVersion next, frames =>
    match fingerprint value with
    | .error e => sys.go i (next (.error e)) frames
    | .ok _ => sys.put i frames bucket key value expectedVersion next
  | .command key request action next, frames =>
    match commandDigest fingerprint key request with
    | .error e => sys.go i (next (.error e)) frames
    | .ok digest => sys.enter i frames key digest action next turn.fault
  | .call _ next, frames => sys.go i (next turn.answer) frames

/-- A turn of a task. -/
def advance (fingerprint : V → Except Exn String) (turn : Turn Ans) : MemorySystem V Op Ans :=
  sys.act fingerprint turn turn.task (sys.tasks turn.task).focus (sys.tasks turn.task).frames

end MemorySystem

/-- The store in memory. -/
def memorySystem (fingerprint : V → Except Exn String) : RecordSystem V Op Ans (MemorySystem V Op Ans) where
  step sys turn := ((sys.tasks turn.task).called turn.answer, sys.advance fingerprint turn)
  tables := MemorySystem.tables
  tasks := MemorySystem.tasks
  log := MemorySystem.log
  failed := MemorySystem.failed
  healthy _ turn := turn.fault = none

/-! ## The actions for which it works -/

namespace Action

/-- Once it has written, or a command inside it has, the action cannot raise. -/
def Settles : Bool → Action V Op Ans → Prop
  | _, .done _ => True
  | wrote, .raise _ => wrote = false
  | wrote, .get _ _ next => ∀ record, Settles wrote (next (.ok record))
  | wrote, .list _ next => ∀ records, Settles wrote (next (.ok records))
  | wrote, .put _ _ _ _ next => (∀ e, Settles wrote (next (.error e))) ∧ ∀ record, Settles true (next (.ok record))
  | wrote, .command _ _ action next =>
    Settles false action ∧ (∀ e, Settles wrote (next (.error e))) ∧ ∀ response, Settles true (next (.ok response))
  | wrote, .call _ next => ∀ answer, Settles wrote (next answer)

/-- No command runs inside one of the same key. -/
def Apart : List String → Action V Op Ans → Prop
  | _, .done _ => True
  | _, .raise _ => True
  | keys, .get _ _ next => ∀ answer, Apart keys (next answer)
  | keys, .list _ next => ∀ answer, Apart keys (next answer)
  | keys, .put _ _ _ _ next => ∀ answer, Apart keys (next answer)
  | keys, .command key _ action next => key ∉ keys ∧ Apart (key :: keys) action ∧ ∀ answer, Apart keys (next answer)
  | keys, .call _ next => ∀ answer, Apart keys (next answer)

/-- A program whose commands have such actions. -/
def Tame : Action V Op Ans → Prop
  | .done _ => True
  | .raise _ => True
  | .get _ _ next => ∀ answer, Tame (next answer)
  | .list _ next => ∀ answer, Tame (next answer)
  | .put _ _ _ _ next => ∀ answer, Tame (next answer)
  | .command key _ action next => Settles false action ∧ Apart [key] action ∧ ∀ answer, Tame (next answer)
  | .call _ next => ∀ answer, Tame (next answer)

theorem Settles.weaken {a : Action V Op Ans} (h : Settles true a) (wrote : Bool) : Settles wrote a := by
  induction a with
  | done _ => trivial
  | raise _ => cases h
  | get _ _ next ih => exact fun record => ih _ (h record)
  | list _ next ih => exact fun records => ih _ (h records)
  | put _ _ _ _ next ih => exact ⟨fun e => ih _ (h.1 e), h.2⟩
  | command _ _ action next _ ih => exact ⟨h.1, fun e => ih _ (h.2.1 e), h.2.2⟩
  | call _ next ih => exact fun answer => ih _ (h answer)

end Action

/-! ## What every turn keeps -/

namespace MemorySystem

/-- Nothing was written inside the frame. -/
def Untouched (log : List (Durable V)) (frame : Nat × Nat) : Prop := ∀ d ∈ log, frame ∉ d.frames

/-- How the callers go on, innermost first: a command that has written will return. -/
def Rests (log : List (Durable V)) : Bool → List (Frame V Op Ans) → Prop
  | _, [] => True
  | wrote, [frame] => (wrote = false → Untouched log frame.id) ∧ ∀ answer, Action.Tame (frame.next answer)
  | wrote, frame :: outer :: frames => ∃ outerWrote : Bool, (wrote = true → outerWrote = true) ∧
      (wrote = false → Untouched log frame.id ∧ ∀ e, Action.Settles outerWrote (frame.next (.error e))) ∧
      (∀ response, Action.Settles true (frame.next (.ok response))) ∧
      (∀ answer, Action.Apart ((outer :: frames).map Frame.key) (frame.next answer)) ∧
        Rests log outerWrote (outer :: frames)

variable {frames : List (Frame V Op Ans)} {log : List (Durable V)} {fingerprint : V → Except Exn String}
  {sys' : MemorySystem V Op Ans} {action focus : Action V Op Ans} {d : Durable V} {i j : Nat} {request value : V}

/-- When the innermost command has written, all around it have. -/
theorem Rests.wrote {wrote : Bool} (h : Rests log wrote frames)
    (log' : List (Durable V)) : Rests log' true frames := by
  induction frames generalizing wrote with
  | nil => trivial
  | cons frame frames ih =>
    cases frames with
    | nil =>
      exact ⟨nofun, h.2⟩
    | cons outer frames =>
      obtain ⟨outerWrote, _, _, returns, apart, rest⟩ := h
      exact ⟨true, fun _ => rfl, nofun, returns, apart, ih rest⟩

/-- A write inside no command leaves the frames as they are. -/
theorem Rests.append {wrote : Bool} (h : Rests log wrote frames)
    (outside : d.frames = []) : Rests (log ++ [d]) wrote frames := by
  have stays : ∀ frame, Untouched log frame → Untouched (log ++ [d]) frame := by
    intro frame untouched item mem
    rcases mem_append.mp mem with old | new
    · exact untouched item old
    · rw [mem_singleton.mp new, outside]
      exact not_mem_nil
  induction frames generalizing wrote with
  | nil => trivial
  | cons frame frames ih =>
    cases frames with
    | nil => exact ⟨fun none_ => stays _ (h.1 none_), h.2⟩
    | cons outer frames =>
      obtain ⟨outerWrote, grows, fails, returns, apart, rest⟩ := h
      exact ⟨outerWrote, grows, fun none_ => ⟨stays _ (fails none_).1, (fails none_).2⟩, returns, apart, ih rest⟩

/-- A task among the log, the receipts, the failed frames and the serial number. -/
structure TaskOk (log : List (Durable V)) (commands : List (String × (String × V))) (failed : List (Nat × Nat))
    (serial : Nat) (task : Task V Op Ans) : Prop where
  tame : task.frames = [] → task.focus.Tame
  settles : task.frames ≠ [] → ∃ wrote, task.focus.Settles wrote ∧ task.focus.Apart (task.frames.map Frame.key) ∧
    Rests log wrote task.frames
  absent : ∀ frame ∈ task.frames, commands.lookup frame.key = none
  keys : (task.frames.map Frame.key).Nodup
  ids : (task.frames.map Frame.id).Nodup
  below : ∀ frame ∈ task.frames, frame.id.2 < serial
  alive : ∀ frame ∈ task.frames, frame.id ∉ failed

/-- The invariant of the store and its tasks. -/
structure Inv (sys : MemorySystem V Op Ans) : Prop where
  owner : ∀ i, (sys.tasks i).frames ≠ [] → sys.owner = some i
  task : ∀ i, TaskOk sys.log sys.tables.commands sys.failed sys.serial (sys.tasks i)
  failedBelow : ∀ frame ∈ sys.failed, frame.2 < sys.serial
  log : LogOk sys.tables sys.log sys.failed sys.serial

section
variable {log : List (Durable V)} {commands : List (String × (String × V))} {failed : List (Nat × Nat)} {serial : Nat}
  {focus focus' : Action V Op Ans} {frame : Frame V Op Ans} {frames : List (Frame V Op Ans)}

/-- A task outside all commands does not depend on the store. -/
theorem TaskOk.outside (tame : focus.Tame) : TaskOk log commands failed serial ⟨focus, []⟩ where
  tame _ := tame
  settles inside := absurd rfl inside
  absent := nofun
  keys := nodup_nil
  ids := nodup_nil
  below := nofun
  alive := nofun

/-- A task that goes on inside the same commands, having written nothing. -/
theorem TaskOk.go (ok : TaskOk log commands failed serial ⟨focus, frames⟩) (tame : focus.Tame → focus'.Tame)
    (settles : ∀ wrote, focus.Settles wrote → focus'.Settles wrote)
    (apart : ∀ keys, focus.Apart keys → focus'.Apart keys) :
    TaskOk log commands failed serial ⟨focus', frames⟩ :=
  { ok with
    tame := fun outside => tame (ok.tame outside)
    settles := fun inside => by
      obtain ⟨wrote, settled, away, rests⟩ := ok.settles inside
      exact ⟨wrote, settles wrote settled, apart _ away, rests⟩ }

theorem TaskOk.write (ok : TaskOk log commands failed serial ⟨focus, frames⟩) (log' : List (Durable V))
    (tame : focus.Tame → focus'.Tame) (settles : ∀ wrote, focus.Settles wrote → focus'.Settles true)
    (apart : ∀ keys, focus.Apart keys → focus'.Apart keys) : TaskOk log' commands failed serial ⟨focus', frames⟩ :=
  { ok with
    tame := fun outside => tame (ok.tame outside)
    settles := fun inside => by
      obtain ⟨wrote, settled, away, rests⟩ := ok.settles inside
      exact ⟨true, settles wrote settled, apart _ away, rests.wrote log'⟩ }

theorem TaskOk.unwritten {bucket key : String} {version : Nat} {next : Except Exn (Rec V) → Action V Op Ans}
    (ok : TaskOk log commands failed serial ⟨.put bucket key value version next, frames⟩) (e : Exn) :
    TaskOk log commands failed serial ⟨next (.error e), frames⟩ :=
  ok.go (fun tame => tame _) (fun _ settled => settled.1 e) fun _ apart => apart _

section
variable {key digest : String} {request : V} {action : Action V Op Ans} {next : Except Exn V → Action V Op Ans}
  (ok : TaskOk log commands failed serial ⟨.command key request action next, frames⟩)

include ok

theorem TaskOk.refused (e : Exn) : TaskOk log commands failed serial ⟨next (.error e), frames⟩ :=
  ok.go (fun tame => tame.2.2 _) (fun _ settled => settled.2.1 e) fun _ apart => apart.2.2 _

/-- A command begins: its key has no receipt, and no command around it has the key. -/
theorem TaskOk.push (i : Nat)
    (logBelow : ∀ d ∈ log, ∀ frame ∈ d.frames, frame.2 < serial) (failedBelow : ∀ frame ∈ failed, frame.2 < serial)
    (found : commands.lookup key = none) :
    TaskOk log commands failed (serial + 1) ⟨action, ⟨(i, serial), key, digest, next⟩ :: frames⟩ where
  tame := nofun
  settles _ := by
    have unread : Untouched log (i, serial) := fun d mem inside => Nat.lt_irrefl _ (logBelow d mem _ inside)
    cases frames with
    | nil =>
      obtain ⟨settled, apart, tame⟩ := ok.tame rfl
      exact ⟨false, settled, apart, fun _ => unread, tame⟩
    | cons outer frames =>
      obtain ⟨wrote, settled, apart, rests⟩ := ok.settles (cons_ne_nil _ _)
      exact ⟨false, settled.1, apart.2.1, wrote, nofun, fun _ => ⟨unread, settled.2.1⟩, settled.2.2, apart.2.2, rests⟩
  absent := forall_mem_cons.mpr ⟨found, ok.absent⟩
  keys := by
    rw [map_cons, nodup_cons]
    refine ⟨?_, ok.keys⟩
    cases frames with
    | nil => exact not_mem_nil
    | cons outer frames =>
      obtain ⟨_, _, apart, _⟩ := ok.settles (cons_ne_nil _ _)
      exact apart.1
  ids := by
    rw [map_cons, nodup_cons]
    refine ⟨?_, ok.ids⟩
    intro mem
    obtain ⟨f, there, eq⟩ := mem_map.mp mem
    have lt := ok.below f there
    rw [eq] at lt
    exact Nat.lt_irrefl _ lt
  below := forall_mem_cons.mpr ⟨Nat.lt_succ_self _, fun f old => Nat.lt_succ_of_lt (ok.below f old)⟩
  alive := forall_mem_cons.mpr ⟨fun dead => Nat.lt_irrefl _ (failedBelow _ dead), ok.alive⟩

end

/-- What is left of the frames when the innermost is gone. -/
theorem TaskOk.pop (ok : TaskOk log commands failed serial ⟨focus, frame :: frames⟩) {log' : List (Durable V)}
    {commands' : List (String × (String × V))} {failed' : List (Nat × Nat)}
    (tame : frames = [] → focus'.Tame) (settles : frames ≠ [] → ∃ wrote, focus'.Settles wrote ∧
      focus'.Apart (frames.map Frame.key) ∧ Rests log' wrote frames)
    (absent : ∀ f ∈ frames, f.key ≠ frame.key → commands.lookup f.key = none → commands'.lookup f.key = none)
    (alive : ∀ f ∈ frames, f.id ≠ frame.id → f.id ∉ failed → f.id ∉ failed') :
    TaskOk log' commands' failed' serial ⟨focus', frames⟩ where
  tame := tame
  settles := settles
  absent f mem := by
    refine absent f mem ?_ (ok.absent f (mem_cons_of_mem _ mem))
    intro same
    exact (nodup_cons.mp ok.keys).1 (same ▸ mem_map_of_mem mem)
  keys := (nodup_cons.mp ok.keys).2
  ids := (nodup_cons.mp ok.ids).2
  below f mem := ok.below f (mem_cons_of_mem _ mem)
  alive f mem := by
    refine alive f mem ?_ (ok.alive f (mem_cons_of_mem _ mem))
    intro same
    exact (nodup_cons.mp ok.ids).1 (same ▸ mem_map_of_mem mem)

/-- Another task is not disturbed by a write inside no command. -/
theorem TaskOk.append (ok : TaskOk log commands failed serial ⟨focus, frames⟩) (outside : d.frames = []) :
    TaskOk (log ++ [d]) commands failed serial ⟨focus, frames⟩ :=
  { ok with
    settles := fun inside => by
      obtain ⟨wrote, settled, away, rests⟩ := ok.settles inside
      exact ⟨wrote, settled, away, rests.append outside⟩ }

end

variable {sys : MemorySystem V Op Ans}

/-- A task that stays inside its commands keeps the lock. -/
theorem owner_update (owner : ∀ i, (sys.tasks i).frames ≠ [] → sys.owner = some i)
    (same : (sys.tasks i).frames = frames) (j : Nat)
    (inside : (update sys.tasks i ⟨focus, frames⟩ j).frames ≠ []) : sys.owner = some j := by
  rw [update_apply] at inside
  split_ifs at inside with this
  · subst this
    exact owner j (same ▸ inside)
  · exact owner j inside

namespace Inv

variable {task : Task V Op Ans}

theorem of_update (i : Nat)
    (tasks : sys'.tasks = update sys.tasks i task) (owner : ∀ j, (sys'.tasks j).frames ≠ [] → sys'.owner = some j)
    (ok : TaskOk sys'.log sys'.tables.commands sys'.failed sys'.serial task)
    (rest : ∀ j, j ≠ i → TaskOk sys'.log sys'.tables.commands sys'.failed sys'.serial (sys.tasks j))
    (failedBelow : ∀ frame ∈ sys'.failed, frame.2 < sys'.serial)
    (log : LogOk sys'.tables sys'.log sys'.failed sys'.serial) :
    Inv sys' where
  owner := owner
  task j := by
    rw [tasks, update_apply]
    split_ifs with this
    · exact ok
    · exact rest j this
  failedBelow := failedBelow
  log := log

variable (inv : Inv sys)

include inv

/-- Where one task is inside a command, the others are outside. -/
theorem others (inside : (sys.tasks i).frames ≠ []) (ne : j ≠ i) : (sys.tasks j).frames = [] := by
  by_contra also
  have same : some j = some i := (inv.owner j also).symm.trans (inv.owner i inside)
  exact ne (Option.some.inj same)

theorem taskOk (at_ : sys.tasks i = task) :
    (sys.tasks i).frames = task.frames ∧ TaskOk sys.log sys.tables.commands sys.failed sys.serial task := by
  subst at_
  exact ⟨rfl, inv.task i⟩

theorem go (i : Nat)
    (same : (sys.tasks i).frames = frames)
    (ok : TaskOk sys.log sys.tables.commands sys.failed sys.serial ⟨focus, frames⟩) :
    Inv (sys.go i focus frames) :=
  of_update i rfl (owner_update inv.owner same) ok (fun j _ => inv.task j) inv.failedBelow inv.log

/-- A task outside all commands is well whatever the store became. -/
theorem bystander (inside : (sys.tasks i).frames ≠ []) (ne : j ≠ i)
    {commands : List (String × (String × V))} {failed : List (Nat × Nat)} {serial : Nat} :
    TaskOk log commands failed serial (sys.tasks j) := by
  have outside : (sys.tasks j).frames = [] := inv.others inside ne
  have tame : (sys.tasks j).focus.Tame := (inv.task j).tame outside
  have ok : TaskOk log commands failed serial ⟨(sys.tasks j).focus, []⟩ := .outside tame
  rwa [← outside] at ok

variable {i : Nat} {frames : List (Frame V Op Ans)} {frame : Frame V Op Ans}

/-- A `put` under the lock keeps the invariant. -/
theorem put {bucket key : String} {expectedVersion : Nat}
    {next : Except Exn (Rec V) → Action V Op Ans}
    (at_ : sys.tasks i = ⟨.put bucket key value expectedVersion next, frames⟩) :
    Inv (sys.put i frames bucket key value expectedVersion next) := by
  obtain ⟨same, ok⟩ := inv.taskOk at_
  unfold MemorySystem.put
  cases checked : checkedRecord (sys.tables.records.lookup (bucket, key)) key value expectedVersion with
  | error e => exact inv.go i same (ok.unwritten e)
  | ok record =>
    refine of_update i rfl (owner_update inv.owner same) ?_ ?_ inv.failedBelow ?_
    · refine ok.write _ ?_ ?_ ?_
      · exact fun tame => tame _
      · exact fun _ settled => settled.2 record
      · exact fun _ apart => apart _
    · intro j ne
      cases frames with
      | nil => exact (inv.task j).append rfl
      | cons frame frames => exact inv.bystander (same ▸ cons_ne_nil _ _) ne
    · exact inv.log.append (forall_frames ok.below) (forall_frames ok.alive) (append_nil _).symm inv.log.keys
        fun _ _ _ => mem_written

/-- The beginning of a command keeps the invariant. -/
theorem enter {key digest : String}
    {next : Except Exn V → Action V Op Ans} (at_ : sys.tasks i = ⟨.command key request action next, frames⟩)
    (fault : Option Exn) : Inv (sys.enter i frames key digest action next fault) := by
  obtain ⟨same, ok⟩ := inv.taskOk at_
  unfold MemorySystem.enter
  split_ifs with waits
  · cases fault with
    | none => exact inv
    | some e => exact inv.go i same (ok.refused e)
  · cases found : sys.tables.commands.lookup key with
    | some receipt =>
      refine inv.go i same ?_
      unfold receiptAnswer
      split_ifs with other
      · exact ok.refused _
      · refine ok.go ?_ ?_ ?_
        · exact fun tame => tame.2.2 _
        · exact fun wrote settled => (settled.2.2 _).weaken wrote
        · exact fun _ apart => apart.2.2 _
    | none =>
      -- the lock was free, or this task had it: no other task is inside a command
      have alone : ∀ j, j ≠ i → (sys.tasks j).frames = [] := by
        intro j ne
        by_contra inside
        by_cases outside : frames = []
        · exact waits ⟨outside, by rw [inv.owner j inside]; simp⟩
        · exact inside (inv.others (i := i) (same ▸ outside) ne)
      refine of_update i rfl ?_ (ok.push i inv.log.below inv.failedBelow found) ?_ ?_ inv.log.enter
      · intro j inside
        simp only [MemorySystem.go, update_apply] at inside
        split_ifs at inside with this
        · rw [this]
          rfl
        · exact absurd (alone j this) inside
      · intro j ne
        have calm : TaskOk sys.log sys.tables.commands sys.failed (sys.serial + 1) ⟨(sys.tasks j).focus, []⟩ :=
          .outside ((inv.task j).tame (alone j ne))
        rwa [← alone j ne] at calm
      · exact fun f dead => Nat.lt_succ_of_lt (inv.failedBelow f dead)

/-- The lock is kept as long as a command of the task runs. -/
theorem owner_release (inside : (sys.tasks i).frames ≠ []) (focus : Action V Op Ans) (j : Nat)
    (still : (update sys.tasks i ⟨focus, frames⟩ j).frames ≠ []) :
    (if frames = [] then none else sys.owner) = some j := by
  rw [update_apply] at still
  split_ifs at still with this
  · rw [if_neg still, this]
    exact inv.owner i inside
  · exact absurd (inv.others inside this) still

/-- The end of a command: its receipt is kept with what it wrote. -/
theorem finish {result : V} (at_ : sys.tasks i = ⟨.done result, frame :: frames⟩) :
    Inv (sys.finish i frame frames result) := by
  obtain ⟨same, ok⟩ := inv.taskOk at_
  have inside : (sys.tasks i).frames ≠ [] := same ▸ cons_ne_nil _ _
  obtain ⟨wrote, _, _, rests⟩ := ok.settles (cons_ne_nil _ _)
  have absent : sys.tables.commands.lookup frame.key = none := ok.absent frame mem_cons_self
  refine of_update i rfl (inv.owner_release inside _) ?_ ?_ inv.failedBelow ?_
  · refine ok.pop ?_ ?_ ?_ ?_
    · rintro rfl
      exact rests.2 _
    · intro some_
      cases frames with
      | nil => exact absurd rfl some_
      | cons outer frames =>
        obtain ⟨outerWrote, _, _, returns, apart, rest⟩ := rests
        exact ⟨true, returns result, apart _, rest.wrote _⟩
    · intro f _ ne none_
      rw [← none_]
      exact lookup_dictSet_of_ne ne _ _
    · exact fun _ _ _ alive => alive
  · exact fun j ne => inv.bystander inside ne
  · refine inv.log.append (forall_frames ok.below) (forall_frames ok.alive) (dictSet_of_absent absent _) ?_ ?_
    · have keys := inv.log.keys
      have new : frame.key ∉ sys.tables.commands.map Prod.fst := lookup_eq_none_iff_keys.mp absent
      simp only [MemorySystem.finish, MemorySystem.go, MemorySystem.release, dictSet_of_absent absent]
      exact nodup_map_snoc keys new
    · exact fun _ _ _ mem => .inl mem

/-- A command that raised is taken back. -/
theorem abandon {e : Exn} (at_ : sys.tasks i = ⟨.raise e, frame :: frames⟩) :
    Inv (sys.abandon i frame frames e) := by
  obtain ⟨same, ok⟩ := inv.taskOk at_
  have inside : (sys.tasks i).frames ≠ [] := same ▸ cons_ne_nil _ _
  obtain ⟨wrote, settled, _, rests⟩ := ok.settles (cons_ne_nil _ _)
  have none_ : wrote = false := settled
  subst none_
  have untouched : Untouched sys.log frame.id := by
    cases frames with
    | nil => exact rests.1 rfl
    | cons outer frames =>
      obtain ⟨_, _, fails, _⟩ := rests
      exact (fails rfl).1
  refine of_update i rfl (inv.owner_release inside _) ?_ ?_ ?_ (inv.log.fail untouched)
  · refine ok.pop ?_ ?_ ?_ ?_
    · rintro rfl
      exact rests.2 _
    · intro some_
      cases frames with
      | nil => exact absurd rfl some_
      | cons outer frames =>
        obtain ⟨outerWrote, _, fails, _, apart, rest⟩ := rests
        exact ⟨outerWrote, (fails rfl).2 e, apart _, rest⟩
    · exact fun _ _ _ none_ => none_
    · exact fun f _ ne alive dead => (mem_cons.mp dead).elim ne alive
  · exact fun j ne => inv.bystander inside ne
  · exact forall_mem_cons.mpr ⟨ok.below frame mem_cons_self, inv.failedBelow⟩

/-- Every turn keeps the invariant. -/
theorem advance (fingerprint : V → Except Exn String) (turn : Turn Ans) : Inv (sys.advance fingerprint turn) := by
  unfold MemorySystem.advance
  rcases at_ : sys.tasks turn.task with ⟨focus, frames⟩
  obtain ⟨same, ok⟩ := inv.taskOk at_
  unfold MemorySystem.act
  cases focus with
  | done result =>
    cases frames with
    | nil => exact inv
    | cons frame frames => exact inv.finish at_
  | raise e =>
    cases frames with
    | nil => exact inv
    | cons frame frames => exact inv.abandon at_
  | get | list | call =>
    refine inv.go _ same (ok.go ?_ ?_ ?_)
    · exact fun tame => tame _
    · exact fun _ settled => settled _
    · exact fun _ apart => apart _
  | put bucket key value expectedVersion next =>
    simp only
    cases fingerprint value with
    | error e => exact inv.go _ same (ok.unwritten e)
    | ok _ => exact inv.put at_
  | command key request action next =>
    simp only
    cases commandDigest fingerprint key request with
    | error e => exact inv.go _ same (ok.refused e)
    | ok digest => exact inv.enter at_ turn.fault

end Inv

/-- A store at its start, with a program for each task whose actions can be undone by not
having written. -/
def Start (sys : MemorySystem V Op Ans) : Prop :=
  ∃ program : Nat → Action V Op Ans, (∀ i, (program i).Tame) ∧ sys = { tasks := fun i => ⟨program i, []⟩ }

theorem inv_of_reaches (start : Start sys) (reaches : (memorySystem fingerprint).Reaches sys sys') : Inv sys' := by
  obtain ⟨program, tame, rfl⟩ := start
  obtain ⟨tr, tr', run⟩ := reaches
  refine run.invariant (P := fun _ sys => Inv sys) ?_ fun _ _ turn inv _ => inv.advance fingerprint turn
  constructor
  · exact fun i inside => absurd rfl inside
  · exact fun i => .outside (tame i)
  · exact nofun
  · exact .empty

/-- A turn only adds to the log. -/
theorem log_prefix (fingerprint : V → Except Exn String) (turn : Turn Ans) (sys : MemorySystem V Op Ans) :
    sys.log <+: (sys.advance fingerprint turn).log := by
  unfold advance act
  split
  case _ | _ => exact prefix_rfl
  case _ => exact prefix_append _ _
  case _ | _ | _ => exact prefix_rfl
  case _ =>
    split
    · exact prefix_rfl
    · unfold put
      split
      · exact prefix_rfl
      · exact prefix_append _ _
  case _ =>
    split
    · exact prefix_rfl
    · unfold enter
      split_ifs
      all_goals
        split <;> exact prefix_rfl
  case _ => exact prefix_rfl

theorem advance_receipt {turn : Turn Ans} {key digest : String}
    {next : Except Exn V → Action V Op Ans} {receipt : String × V}
    (at_ : sys.tasks turn.task = ⟨.command key request action next, frames⟩)
    (valid : commandDigest fingerprint key request = .ok digest)
    (found : sys.tables.commands.lookup key = some receipt) :
    sys.advance fingerprint turn = sys ∨ ∃ answer, sys.advance fingerprint turn = sys.go turn.task
      (next answer) frames ∧
      (answer = receiptAnswer digest receipt ∨ turn.fault ≠ none ∧ ∃ e, answer = .error e) := by
  simp only [advance, at_, act, valid]
  unfold enter
  split_ifs with waits
  · cases fault : turn.fault with
    | none => exact .inl rfl
    | some e => exact .inr ⟨.error e, rfl, .inr ⟨Option.some_ne_none e, e, rfl⟩⟩
  · rw [found]
    exact .inr ⟨_, rfl, .inl rfl⟩

end MemorySystem

/-- The store in memory keeps the contract for tame programs. -/
theorem memory_contract (fingerprint : V → Except Exn String) :
    CommandContract (memorySystem fingerprint : RecordSystem V Op Ans _) fingerprint MemorySystem.Start := by
  refine .of_log (fun _ _ start reaches => ⟨_, (MemorySystem.inv_of_reaches start reaches).log⟩)
    (fun s' turn => MemorySystem.log_prefix fingerprint turn s') ?_
  intro s' turn key request action next frames digest receipt at_ valid found
  rcases MemorySystem.advance_receipt at_ valid found with waits | ⟨answer, goes, which⟩
  · exact .inl waits
  · have tables : (s'.advance fingerprint turn).tables = s'.tables := by rw [goes]; rfl
    have log : (s'.advance fingerprint turn).log = s'.log := by rw [goes]; rfl
    exact .inr ⟨tables, log, answer, congrArg MemorySystem.tasks goes, which⟩

end PersonalAssistant
