import PersonalAssistant.Browser.Submit
import PersonalAssistant.Coro.Versioned

/-!
# The life of a session

What one write may do to a session: it moves the state along the transition table or leaves
it, keeps the identity, and touches the receipt and its baseline only where the submission
does. The store answers a copy of a row under its version, so the rows are under the version
discipline, and the store keeps the ids apart and at most one open session for a task.
-/

namespace PersonalAssistant

open Versioned List

namespace BrowserSessionState

/-- What the broker does to a state: nothing, or an allowed transition; an UNKNOWN session is
never failed. -/
def Moves (a b : BrowserSessionState) : Prop :=
  b = a ∨ (b ∈ a.allowedTransitions ∧ (a = .unknown → b ≠ .failed))

instance (a b : BrowserSessionState) : Decidable (a.Moves b) :=
  inferInstanceAs (Decidable (_ ∨ _))

/-- The states of a session whose click may have been made. -/
def sent : BrowserSessionState → Bool
  | executing | unknown | succeeded | failed => true
  | _ => false

/-- The states an UNKNOWN session can be in. -/
def unresolved : BrowserSessionState → Bool
  | unknown | succeeded => true
  | _ => false

variable {a b : BrowserSessionState}

theorem Moves.terminal (h : a.Moves b) (ended : a.terminal) : b = a := by
  cases a <;> cases b <;> revert h ended <;> decide

theorem Moves.sent (h : a.Moves b) (sent : a.sent) : b.sent := by
  cases a <;> cases b <;> revert h sent <;> decide

theorem Moves.unresolved (h : a.Moves b) (unresolved : a.unresolved) : b.unresolved := by
  cases a <;> cases b <;> revert h unresolved <;> decide

end BrowserSessionState

/-- What a write by the broker may change of the copy it read. -/
structure Rewrites (r r' : BrowserSessionRecord) : Prop where
  session : r'.sessionId = r.sessionId
  task : r'.taskId = r.taskId
  move : r.state.Moves r'.state
  receipt : r'.receipt = r.receipt ∨ (r.state = .unknown ∧ r'.state = .succeeded)
  baseline : r'.receiptBaseline = r.receiptBaseline ∨ (r.state = .approved ∧ r'.state = .executing)

/-- The same change, stored. -/
structure SessionStep (r r' : BrowserSessionRecord) : Prop extends Rewrites r r' where
  version : r'.version = r.version + 1

/-- The version discipline of the sessions. -/
def sessionDiscipline : Discipline BrowserSessionRecord String where
  key := (·.sessionId)
  version := (·.version)
  Step := SessionStep
  step_key step := step.session
  step_version step := by rw [step.version]; omega

/-- A copy of a stored session. -/
abbrev BrowserStore.Holds (store : BrowserStore) (copy : BrowserSessionRecord) : Prop :=
  sessionDiscipline.Held store.sessions copy

/-- A session that is open for a task. -/
def BrowserSessionRecord.openFor (taskId : String) (record : BrowserSessionRecord) : Bool :=
  record.taskId = taskId ∧ record.state.terminal = false

/-- What the store keeps by itself: the ids are apart and a task has one open session. -/
structure BrowserStore.Sound (store : BrowserStore) : Prop where
  unique : (store.sessions.map (·.sessionId)).Nodup
  single : ∀ taskId, store.sessions.countP (·.openFor taskId) ≤ 1

namespace BrowserStore

variable {store : BrowserStore} {record stored current copy row : BrowserSessionRecord}
  {f : BrowserSessionRecord → BrowserSessionRecord}

theorem get_mem {sessionId : String} (h : store.get sessionId = some record) :
    record ∈ store.sessions ∧ record.sessionId = sessionId :=
  ⟨mem_of_find?_eq_some h, by simpa using List.find?_some h⟩

/-- Every row stays or moves on by a write. -/
def Moved (store : BrowserStore) (f : BrowserSessionRecord → BrowserSessionRecord) : Prop :=
  ∀ row ∈ store.sessions, f row = row ∨ SessionStep row (f row)

theorem Moved.session (moved : store.Moved f) (mem : row ∈ store.sessions) : (f row).sessionId = row.sessionId := by
  rcases moved row mem with same | step
  · rw [same]
  · exact step.session

theorem Moved.openFor (moved : store.Moved f) {taskId : String} (mem : row ∈ store.sessions)
    (h : (f row).openFor taskId) : row.openFor taskId := by
  rcases moved row mem with same | step
  · rwa [same] at h
  · have both : (f row).taskId = taskId ∧ (f row).state.terminal = false := by
      simpa [BrowserSessionRecord.openFor] using h
    have open_ : row.state.terminal = false := by
      cases ended : row.state.terminal with
      | false => rfl
      | true =>
        rw [step.move.terminal ended, ended] at both
        exact absurd both.2 (by decide)
    simpa [BrowserSessionRecord.openFor, open_] using step.task ▸ both.1

theorem Moved.advances (moved : store.Moved f) : sessionDiscipline.Advances store.sessions (store.sessions.map f) := by
  intro row mem
  refine ⟨f row, mem_map_of_mem mem, ?_⟩
  rcases moved row mem with same | step
  · rw [same]
  · exact .single step

theorem Sound.moved (sound : store.Sound) (moved : store.Moved f) :
    ({ store with sessions := store.sessions.map f }).Sound where
  unique := by
    have same : (store.sessions.map f).map (·.sessionId) = store.sessions.map (·.sessionId) := by
      rw [map_map]
      exact map_congr_left fun row mem => moved.session mem
    rw [same]
    exact sound.unique
  single taskId := by
    rw [countP_map]
    refine le_trans (countP_mono_left fun row mem h => ?_) (sound.single taskId)
    exact moved.openFor mem h

theorem put_moved (sound : store.Sound) (mem : current ∈ store.sessions) (step : SessionStep current stored) :
    store.Moved fun item => if item.sessionId = stored.sessionId then stored else item := by
  intro row rowMem
  dsimp only
  split
  · rename_i same
    have eq : row = current :=
      inj_on_of_nodup_map sound.unique rowMem mem (same.trans step.session)
    exact .inr (eq ▸ step)
  · exact .inl rfl

/-- **A save.** It raises and changes nothing, or it stores the record over the copy that was
read. -/
theorem save_cases (clock : Time) {expectedVersion : Nat} (sound : store.Sound) (held : store.Holds copy)
    (rewrites : Rewrites copy record) (version : expectedVersion = copy.version) :
    ((∃ e, (store.save clock record expectedVersion).1 = .error e) ∧
      (store.save clock record expectedVersion).2 = store) ∨
    ∃ stored, stored = { record with version := expectedVersion + 1, updatedAt := clock } ∧
      store.save clock record expectedVersion = (.ok stored, store.put stored) ∧ SessionStep copy stored ∧
      copy ∈ store.sessions := by
  unfold save
  split
  · exact .inl ⟨⟨_, rfl⟩, rfl⟩
  · rename_i current found
    split
    · exact .inl ⟨⟨_, rfl⟩, rfl⟩
    · rename_i passed
      obtain ⟨mem, session⟩ := get_mem found
      have eq : current = copy :=
        held.current sound.unique mem (session.trans rewrites.session) (by
          show current.version = copy.version
          rw [← version]
          exact not_not.mp passed)
      subst eq
      refine .inr ⟨_, rfl, rfl,
        ⟨⟨rewrites.session, rewrites.task, rewrites.move, rewrites.receipt, rewrites.baseline⟩, ?_⟩, mem⟩
      rw [← version]

/-- **A creation.** It raises and changes nothing, or it adds a row for a task without an open
one. -/
theorem create_cases (store : BrowserStore) (record : BrowserSessionRecord) :
    ((∃ e, (store.create record).1 = .error e) ∧ (store.create record).2 = store) ∨
    ∃ stored, stored = { record with version := 0 } ∧
      store.create record = (.ok stored, { store with sessions := store.sessions ++ [stored] }) ∧
      store.get record.sessionId = none ∧
      (record.state.terminal = false → store.sessions.countP (·.openFor record.taskId) = 0) := by
  unfold create
  split
  · exact .inl ⟨⟨_, rfl⟩, rfl⟩
  · rename_i absent
    split
    · exact .inl ⟨⟨_, rfl⟩, rfl⟩
    · rename_i free
      refine .inr ⟨_, rfl, rfl, by simpa using absent, fun open_ => ?_⟩
      have none_ : store.openFor record.taskId = [] := by
        by_contra some_
        exact free ⟨open_, some_⟩
      simpa [openFor, BrowserSessionRecord.openFor] using none_

theorem Sound.create (sound : store.Sound) (absent : store.get stored.sessionId = none)
    (free : stored.state.terminal = false → store.sessions.countP (·.openFor stored.taskId) = 0) :
    ({ store with sessions := store.sessions ++ [stored] }).Sound where
  unique := by
    refine nodup_map_snoc sound.unique fun taken => ?_
    obtain ⟨row, mem, same⟩ := mem_map.mp taken
    have := List.find?_eq_none.mp absent row mem
    simp [same] at this
  single taskId := by
    by_cases open_ : stored.openFor taskId
    · have both : stored.taskId = taskId ∧ stored.state.terminal = false := by
        simpa [BrowserSessionRecord.openFor] using open_
      have none_ := free both.2
      rw [both.1] at none_
      simp [none_, open_]
    · simpa [open_] using sound.single taskId

/-- The recovery writes UNKNOWN over stale EXECUTING rows. -/
theorem recover_moved (clock : Time) (activeOwners : List String) :
    store.Moved fun record => if isStale activeOwners record then
        { record with state := .unknown, outcome := "UNKNOWN", diagnosticCode := "EXECUTION_INTERRUPTED"
                      updatedAt := clock, version := record.version + 1 }
      else record := by
  intro row _
  dsimp only
  split
  · rename_i stale
    have executing : row.state = .executing := by
      simp only [isStale, Bool.and_eq_true, decide_eq_true_eq] at stale
      exact stale.1
    refine .inr ⟨⟨rfl, rfl, ?_, .inl rfl, .inl rfl⟩, rfl⟩
    show row.state.Moves .unknown
    rw [executing]
    decide
  · exact .inl rfl

end BrowserStore

end PersonalAssistant
