import PersonalAssistant.Browser.Operations
import PersonalAssistant.Gateway.Invoke

/-!
# Sessions under any interleaving

Any number of callers run against one store whose calls may fail, with their effect done or
not. The store and the monitors together keep: every record a caller knows is an ancestor of
the stored one, a session that somebody armed has left APPROVED for good and is armed for
nobody else, and a session is clicked only after it was armed.
-/

namespace PersonalAssistant

open Coro Versioned Function List Discipline

/-- The stores with failing calls; the clock and the random ids do not raise. -/
def browserFaults : Handler BrowserPort Exn BrowserStore :=
  fun sh s op a s' => browserWorld.faulty sh s op a s' ∧ (browserWorld.total op → ∃ x, a = .ok x)

/-- A click on the page of a session. -/
def clicks (sessionId : String) : BrowserEvent → Bool
  | ⟨.click id _, _⟩ => id = sessionId
  | _ => false

/-- A call of `companion.click`. -/
def isClick : BrowserEvent → Bool
  | ⟨.click _ _, _⟩ => true
  | _ => false

/-- A call of `companion.click` that was answered with REJECTED. -/
def isRejection : BrowserEvent → Bool
  | ⟨.click _ _, a⟩ => clickRejected a
  | _ => false

/-- A save of UNKNOWN after a click that failed. -/
def isLostUnknown : BrowserEvent → Bool
  | ⟨.saveSession record _, .error _⟩ => record.marksUnknown
  | _ => false

/-- The session is stored in a state that only a submission leads to. -/
def BrowserStore.Sent (store : BrowserStore) (sessionId : String) : Prop :=
  ∃ row ∈ store.sessions, row.sessionId = sessionId ∧ row.state.sent

/-- What a step leaves of the store: it is sound and its rows moved on. -/
structure BrowserStore.Progress (store store' : BrowserStore) : Prop where
  sound : store'.Sound
  advances : sessionDiscipline.Advances store.sessions store'.sessions

variable {copy record record' : BrowserSessionRecord}

namespace BrowserStore

variable {store store' : BrowserStore} {sessionId : String}

theorem Sent.advance (sent : store.Sent sessionId) (moved : sessionDiscipline.Advances store.sessions store'.sessions) :
    store'.Sent sessionId := by
  obtain ⟨row, mem, same, state⟩ := sent
  obtain ⟨row', mem', leads⟩ := moved row mem
  refine ⟨row', mem', (leads_key leads).trans same, ?_⟩
  exact leads_keeps (D := sessionDiscipline) (P := fun r => r.state.sent)
    (fun sent (step : SessionStep _ _) => step.move.sent sent) leads state

theorem get_of_holds (sound : store.Sound) (held : store.Holds copy) :
    ∃ row, store.get copy.sessionId = some row ∧ sessionDiscipline.Leads copy row := by
  obtain ⟨row, mem, leads⟩ := held
  have key : row.sessionId = copy.sessionId := leads_key leads
  exact ⟨row, key ▸ find?_of_mem sound.unique mem, leads⟩

theorem Progress.refl (sound : store.Sound) : Progress store store := ⟨sound, advances_refl⟩

theorem Progress.moved {f : BrowserSessionRecord → BrowserSessionRecord} (sound : store.Sound) (moved : store.Moved f) :
    Progress store { store with sessions := store.sessions.map f } :=
  ⟨sound.moved moved, moved.advances⟩

end BrowserStore

/-! ## One request -/

section Request

variable {store store' : BrowserStore} {broker : BrowserSessionBroker} {m : Custody} {op : BrowserOp}
  {a b : Except Exn op.Ans} {sh : Bool}

open BrowserStore

/-- What a request of an allowed caller does to the store. -/
theorem progress_reliable (sound : store.Sound) (held : ∀ copy ∈ m.known, store.Holds copy)
    (h : browserWorld.Reliable store op b store') (ok : m.Allows broker ⟨op, a⟩) : Progress store store' := by
  obtain ⟨clock, effect⟩ := h.effect
  cases op with
  | createSession record =>
    have result : (b, store') = store.create record := effect
    rcases create_cases store record with ⟨-, same⟩ | ⟨stored, rfl, created, absent, free⟩
    · rw [show store' = store from (congrArg Prod.snd result).trans same]
      exact .refl sound
    · rw [show store' = _ from congrArg Prod.snd (result.trans created)]
      refine ⟨sound.create absent free, fun row mem => ⟨row, mem_append_left _ mem, .refl⟩⟩
  | saveSession record version =>
    have result : (b, store') = store.save clock record version := effect
    obtain ⟨copy, known, same, write⟩ := ok
    have rewrites := write.toRewrites
    rcases save_cases clock sound (held copy known) rewrites same with ⟨-, same⟩ | ⟨stored, -, saved, step, mem⟩
    · rw [show store' = store from (congrArg Prod.snd result).trans same]
      exact .refl sound
    · rw [show store' = _ from congrArg Prod.snd (result.trans saved)]
      exact .moved sound (put_moved sound mem step)
  | recoverStaleExecutions activeOwners =>
    rw [show store' = (store.recoverStaleExecutions clock activeOwners).2 from congrArg Prod.snd effect]
    exact .moved sound (recover_moved clock activeOwners)
  | upsertAdapter record =>
    rw [show store' = (store.upsertAdapter clock record).2 from congrArg Prod.snd effect]
    exact ⟨⟨sound.unique, sound.single⟩, advances_refl⟩
  | getSession | findActiveForTask | getAdapter | listAdapters =>
    rw [show store' = store from congrArg Prod.snd effect]
    exact .refl sound
  | _ =>
    rw [show store' = store from effect]
    exact .refl sound

theorem progress (sound : store.Sound) (held : ∀ copy ∈ m.known, store.Holds copy)
    (h : browserFaults sh store op a store') (ok : m.Allows broker ⟨op, a⟩) : Progress store store' := by
  rcases World.faulty_cases h.1 with ⟨rfl, -⟩ | ⟨b, reliable, -⟩
  · exact .refl sound
  · exact progress_reliable sound held reliable ok

/-- An answer that is no exception is that of the store. -/
theorem answered {x : op.Ans} (h : browserFaults sh store op (.ok x) store') :
    browserWorld.Reliable store op (.ok x) store' := by
  rcases World.faulty_cases h.1 with ⟨-, e, he⟩ | ⟨b, reliable, rfl | ⟨e, he⟩⟩
  · cases he
  · exact reliable
  · cases he

/-- A save that succeeded replaced the copy it was allowed for. -/
theorem saved_over {stored : BrowserSessionRecord} {version : Nat} (sound : store.Sound)
    (held : store.Holds copy) (same : version = copy.version) (rewrites : Rewrites copy record)
    (h : browserFaults sh store (.saveSession record version) (.ok stored) store') :
    (∃ clock, stored = { record with version := version + 1, updatedAt := clock }) ∧ copy ∈ store.sessions ∧
      stored ∈ store'.sessions := by
  obtain ⟨clock, effect⟩ := (answered h).effect
  have result : (.ok stored, store') = store.save clock record version := effect
  rcases save_cases clock sound held rewrites same with ⟨⟨e, raised⟩, -⟩ | ⟨_, rfl, saved, step, mem⟩
  · rw [← result] at raised
    cases raised
  · obtain ⟨stored', store''⟩ := Prod.mk.inj (result.trans saved)
    obtain rfl := Except.ok.inj stored'
    refine ⟨⟨clock, rfl⟩, mem, ?_⟩
    rw [store'']
    exact mem_map.mpr ⟨copy, mem, if_pos step.session.symm⟩

/-- The answers that a caller relies on. -/
theorem relies (h : browserFaults sh store op a store') : Custody.Relies ⟨op, a⟩ := by
  cases op with
  | getSession sessionId =>
    match a, h with
    | .error e, _ | .ok none, _ => exact fun total => (by cases total)
    | .ok (some record), h =>
      obtain ⟨clock, effect⟩ := (answered h).effect
      have found : some record = store.get sessionId := Except.ok.inj (congrArg Prod.fst effect)
      exact (get_mem found.symm).2
  | saveSession record version =>
    match a, h with
    | .error e, _ => exact fun total => (by cases total)
    | .ok stored, h =>
      obtain ⟨clock, effect⟩ := (answered h).effect
      have result : (.ok stored, store') = store.save clock record version := effect
      refine ⟨clock, ?_⟩
      unfold save at result
      split at result
      · cases result
      · split at result
        · cases result
        · exact Except.ok.inj (congrArg Prod.fst result)
  | _ => exact h.2

variable (sound : store.Sound) (held : ∀ copy ∈ m.known, store.Holds copy) (h : browserFaults sh store op a store')
  (ok : m.Allows broker ⟨op, a⟩)

include sound held h ok

/-- What the caller knows after its request is held by the store. -/
theorem known_step (known : copy ∈ (m.after ⟨op, a⟩).known) : store'.Holds copy := by
  have moved := (progress sound held h ok).advances
  have old : copy ∈ m.known → store'.Holds copy := fun mem => (held copy mem).advance moved
  cases op with
  | getSession sessionId =>
    match a, h, ok, known with
    | .error e, _, _, known => exact old known
    | .ok none, _, _, known => exact old known
    | .ok (some record), h, _, known =>
      rcases mem_cons.mp known with rfl | known
      · obtain ⟨clock, effect⟩ := (answered h).effect
        have found : some copy = store.get sessionId := Except.ok.inj (congrArg Prod.fst effect)
        exact (held_of_mem (get_mem found.symm).1).advance moved
      · exact old known
  | createSession record =>
    match a, h, ok, known with
    | .error e, _, _, known => exact old known
    | .ok created, h, _, known =>
      rcases mem_cons.mp known with rfl | known
      · obtain ⟨clock, effect⟩ := (answered h).effect
        have result : (.ok copy, store') = store.create record := effect
        rcases create_cases store record with ⟨⟨e, raised⟩, -⟩ | ⟨stored, -, made, -⟩
        · rw [← result] at raised
          cases raised
        · obtain ⟨same, rfl⟩ := Prod.mk.inj (result.trans made)
          cases same
          exact held_of_mem (mem_append_right _ mem_cons_self)
      · exact old known
  | findActiveForTask taskId =>
    match a, h, ok, known with
    | .error e, _, _, known => exact old known
    | .ok records, h, _, known =>
      rcases mem_append.mp known with known | known
      · obtain ⟨clock, effect⟩ := (answered h).effect
        have found : records = store.findActiveForTask taskId := Except.ok.inj (congrArg Prod.fst effect)
        rw [found] at known
        have mem : copy ∈ store.sessions :=
          mem_of_mem_filter ((perm_insertionSort _ _).mem_iff.mp known)
        exact (held_of_mem mem).advance moved
      · exact old known
  | saveSession record version =>
    match a, h, ok, known with
    | .error e, _, _, known => exact old known
    | .ok stored, h, ⟨base, mem, same, write⟩, known =>
      rcases mem_cons.mp known with rfl | known
      · exact held_of_mem (saved_over sound (held base mem) same write.toRewrites h).2.2
      · exact old known
  | _ => exact old known

/-- A session that a request armed was APPROVED before it, and is sent after it. -/
theorem armed_step {sessionId : String} (armed : sessionId ∈ (m.after ⟨op, a⟩).armed) :
    sessionId ∈ m.armed ∨ (¬ store.Sent sessionId ∧ store'.Sent sessionId) := by
  cases op with
  | saveSession record version =>
    match a, h, ok, armed with
    | .error e, _, _, armed => exact .inl armed
    | .ok stored, h, ⟨base, mem, same, write⟩, armed =>
      have rewrites := write.toRewrites
      obtain ⟨⟨clock, rfl⟩, row, after⟩ := saved_over sound (held base mem) same rewrites h
      simp only [Custody.after] at armed
      split at armed
      · rename_i arms
        rcases mem_cons.mp armed with rfl | armed
        · obtain ⟨executing, found⟩ := of_decide_eq_true arms
          obtain ⟨copy, known, agrees⟩ := any_eq_true.mp found
          obtain ⟨approved, session, version'⟩ := of_decide_eq_true agrees
          -- the row replaced is the APPROVED copy: its version is the one asked for
          have eq : base = copy := (held copy known).current sound.unique row
            (rewrites.session.symm.trans session.symm) (same.symm.trans version'.symm)
          refine .inr ⟨?_, ⟨_, after, rfl, ?_⟩⟩
          · rintro ⟨other, otherMem, otherSession, sent⟩
            have eq' : other = base :=
              inj_on_of_nodup_map sound.unique otherMem row (otherSession.trans rewrites.session)
            rw [eq', eq, approved] at sent
            cases sent
          · show record.state.sent
            rw [executing]
            rfl
        · exact .inl armed
      · exact .inl armed
  | click id target => exact .inl (mem_filter.mp armed).1
  | getSession => rcases a with e | _ | r <;> exact .inl armed
  | createSession | findActiveForTask => cases a <;> exact .inl armed
  | _ => exact .inl armed

end Request

/-! ## Every run -/

section Run

variable {ι : Type}

/-- What the store, the monitors and the events agree on. -/
structure Kept (store : BrowserStore) (m : ι → Custody) (tr : List (ι × BrowserEvent)) : Prop where
  sound : store.Sound
  held : ∀ i, ∀ copy ∈ (m i).known, store.Holds copy
  sent : ∀ i, ∀ sessionId ∈ (m i).armed, store.Sent sessionId
  sole : ∀ i j sessionId, sessionId ∈ (m i).armed → sessionId ∈ (m j).armed → i = j
  unused : ∀ i, ∀ sessionId ∈ (m i).armed, ∀ entry ∈ tr, ¬ clicks sessionId entry.2
  used : ∀ sessionId, ∀ entry ∈ tr, clicks sessionId entry.2 → store.Sent sessionId
  once : ∀ sessionId, (tr.filter fun entry => clicks sessionId entry.2).length ≤ 1
  clicked : ∀ i, (m i).clicked ↔ ∃ entry ∈ tr, entry.1 = i ∧ isClick entry.2
  rejected : ∀ i, (m i).rejected ↔ ∃ entry ∈ tr, entry.1 = i ∧ isRejection entry.2
  lost : ∀ i, (m i).lost ↔ ∃ entry ∈ tr, entry.1 = i ∧ isLostUnknown entry.2

theorem Kept.empty : Kept {} (fun _ : ι => {}) [] where
  sound := ⟨nodup_nil, fun _ => Nat.zero_le _⟩
  held _ _ h := by cases h
  sent _ _ h := by cases h
  sole _ _ _ h := by cases h
  unused _ _ h := by cases h
  used _ _ h := by cases h
  once _ := Nat.zero_le _
  clicked i := by simp
  rejected i := by simp
  lost i := by simp

variable {store store' : BrowserStore} {broker : BrowserSessionBroker} {m : ι → Custody} {tr : List (ι × BrowserEvent)}
  {i : ι} {sh : Bool} {op : BrowserOp} {a : Except Exn op.Ans} {sessionId : String}

/-- A click is made with the session armed, and disarms it. -/
theorem armed_of_clicks {m : Custody} (ok : m.Allows broker ⟨op, a⟩) (h : clicks sessionId ⟨op, a⟩) :
    sessionId ∈ m.armed ∧ sessionId ∉ (m.after ⟨op, a⟩).armed := by
  cases op with
  | click id target =>
    obtain rfl : id = sessionId := of_decide_eq_true h
    exact ⟨ok, fun armed => by simpa using (mem_filter.mp armed).2⟩
  | _ => cases h

variable [DecidableEq ι]

/-- A flag of the monitors that says whether a caller met an event of a kind. -/
theorem flag_step {p : BrowserEvent → Bool} {flag : Custody → Bool}
    (moves : ∀ m : Custody, flag (m.after ⟨op, a⟩) = (flag m || p ⟨op, a⟩))
    (old : ∀ j, flag (m j) ↔ ∃ entry ∈ tr, entry.1 = j ∧ p entry.2) (j : ι) :
    flag (update m i ((m i).after ⟨op, a⟩) j) ↔ ∃ entry ∈ tr ++ [(i, ⟨op, a⟩)], entry.1 = j ∧ p entry.2 := by
  by_cases hj : j = i
  · subst hj
    rw [update_self, moves, Bool.or_eq_true, old j]
    simp
  · rw [update_of_ne hj, old j]
    simp [Ne.symm hj]

/-- The flags of a monitor are set by the events they are named after. -/
theorem flags_after (m : Custody) : (m.after ⟨op, a⟩).clicked = (m.clicked || isClick ⟨op, a⟩) ∧
    (m.after ⟨op, a⟩).rejected = (m.rejected || isRejection ⟨op, a⟩) ∧
    (m.after ⟨op, a⟩).lost = (m.lost || isLostUnknown ⟨op, a⟩) := by
  cases op with
  | getSession => rcases a with e | _ | r <;> simp [Custody.after, isClick, isRejection, isLostUnknown]
  | createSession | findActiveForTask | saveSession =>
    cases a <;> simp [Custody.after, isClick, isRejection, isLostUnknown]
  | _ => simp [Custody.after, isClick, isRejection, isLostUnknown]

/-- Who has a session armed after a step had it before, or armed one that nobody had. -/
theorem Kept.armed_step (kept : Kept store m tr) (h : browserFaults sh store op a store')
    (ok : (m i).Allows broker ⟨op, a⟩) {j : ι} (armed : sessionId ∈ (update m i ((m i).after ⟨op, a⟩) j).armed) :
    sessionId ∈ (m j).armed ∨ (j = i ∧ ¬ store.Sent sessionId ∧ store'.Sent sessionId) := by
  by_cases hj : j = i
  · subst hj
    rw [update_self] at armed
    rcases PersonalAssistant.armed_step kept.sound (kept.held j) h ok armed with old | new
    · exact .inl old
    · exact .inr ⟨rfl, new⟩
  · rw [update_of_ne hj] at armed
    exact .inl armed

/-- **Step.** -/
theorem Kept.step (kept : Kept store m tr) (h : browserFaults sh store op a store') (ok : (m i).Allows broker ⟨op, a⟩) :
    Kept store' (update m i ((m i).after ⟨op, a⟩)) (tr ++ [(i, ⟨op, a⟩)]) := by
  have moved := progress kept.sound (kept.held i) h ok
  refine {
    sound := moved.sound
    held := fun j copy known => ?_
    sent := fun j sessionId armed => ?_
    sole := fun j k sessionId armed armed' => ?_
    unused := fun j sessionId armed entry mem clicked => ?_
    used := fun sessionId entry mem clicked => ?_
    once := fun sessionId => ?_
    clicked := flag_step (fun m => (flags_after m).1) kept.clicked
    rejected := flag_step (fun m => (flags_after m).2.1) kept.rejected
    lost := flag_step (fun m => (flags_after m).2.2) kept.lost }
  · by_cases hj : j = i
    · subst hj
      rw [update_self] at known
      exact known_step kept.sound (kept.held j) h ok known
    · rw [update_of_ne hj] at known
      exact (kept.held j copy known).advance moved.advances
  · rcases kept.armed_step h ok armed with old | ⟨-, -, sent⟩
    · exact (kept.sent j sessionId old).advance moved.advances
    · exact sent
  · rcases kept.armed_step h ok armed with old | ⟨rfl, fresh, -⟩
    · rcases kept.armed_step h ok armed' with old' | ⟨rfl, fresh, -⟩
      · exact kept.sole j k sessionId old old'
      · exact absurd (kept.sent j sessionId old) fresh
    · rcases kept.armed_step h ok armed' with old' | ⟨rfl, -, -⟩
      · exact absurd (kept.sent k sessionId old') fresh
      · rfl
  · rcases mem_append.mp mem with earlier | last
    · rcases kept.armed_step h ok armed with old | ⟨-, fresh, -⟩
      · exact kept.unused j sessionId old entry earlier clicked
      · exact fresh (kept.used sessionId entry earlier clicked)
    · -- the click is this step: its caller had the session armed, and has it no more
      cases mem_singleton.mp last
      obtain ⟨mine, gone⟩ := armed_of_clicks ok clicked
      rcases kept.armed_step h ok armed with old | ⟨-, fresh, -⟩
      · obtain rfl := kept.sole j i sessionId old mine
        rw [update_self] at armed
        exact gone armed
      · exact fresh (kept.sent i sessionId mine)
  · rcases mem_append.mp mem with earlier | last
    · exact (kept.used sessionId entry earlier clicked).advance moved.advances
    · cases mem_singleton.mp last
      exact (kept.sent i sessionId (armed_of_clicks ok clicked).1).advance moved.advances
  · refine filter_snoc_le_one (kept.once sessionId) fun clicked entry mem before => ?_
    exact kept.unused i sessionId (armed_of_clicks ok clicked).1 entry mem before

variable {brokers : ι → BrowserSessionBroker} {threads threads' : ι → BrowserM (Option Value)}
  {Q : ι → Except Exn (Option Value) → Custody → Prop}
  {more : List (ι × BrowserEvent)}

/-- **Run.** From any moment on, every run keeps it and moves the sessions on. -/
theorem Kept.run (kept : Kept store m tr) (follows : ∀ i, (custody (brokers i)).Follows (threads i) (Q i) (m i))
    (pool : Pool (fun _ => browserFaults) (fun _ _ => False) threads store threads' store' more) :
    ∃ m', Kept store' m' (tr ++ more) ∧ sessionDiscipline.Advances store.sessions store'.sessions ∧
      ∀ i, (custody (brokers i)).Follows (threads' i) (Q i) (m' i) := by
  have step : ∀ s m' more i sh op a s',
      Kept s m' (tr ++ more) ∧ sessionDiscipline.Advances store.sessions s.sessions → browserFaults sh s op a s' →
      Custody.Allows (brokers i) (m' i) ⟨op, a⟩ →
      Kept s' (update m' i ((m' i).after ⟨op, a⟩)) (tr ++ (more ++ [(i, ⟨op, a⟩)])) ∧
        sessionDiscipline.Advances store.sessions s'.sessions := by
    rintro s m' more i sh op a s' ⟨kept', moved⟩ h ok
    refine ⟨by rw [← append_assoc]; exact kept'.step h ok, fun row mem => ?_⟩
    obtain ⟨row', mem', leads⟩ := moved row mem
    obtain ⟨row'', mem'', leads'⟩ := (progress kept'.sound (kept'.held i) h ok).advances row' mem'
    exact ⟨row'', mem'', leads.trans leads'⟩
  obtain ⟨m', ⟨kept', moved⟩, follows'⟩ := Pool.monitored (fun i => custody (brokers i)) m Q
    (fun s m' more => Kept s m' (tr ++ more) ∧ sessionDiscipline.Advances store.sessions s.sessions) follows
    ⟨by rwa [append_nil], advances_refl⟩ (fun _ _ _ _ _ _ _ _ _ h => relies h) step
    (fun _ _ _ _ _ h => h.elim) pool
  exact ⟨m', kept', moved, follows'⟩

theorem Kept.later (kept : Kept store m tr) (follows : ∀ i, (custody (brokers i)).Follows (threads i) (Q i) (m i))
    (pool : Pool (fun _ => browserFaults) (fun _ _ => False) threads store threads' store' more)
    (found : store.get sessionId = some record) :
    ∃ record', store'.get sessionId = some record' ∧ sessionDiscipline.Leads record record' := by
  obtain ⟨m', kept', moved, -⟩ := kept.run follows pool
  obtain ⟨mem, rfl⟩ := BrowserStore.get_mem found
  exact BrowserStore.get_of_holds kept'.sound ((held_of_mem mem).advance moved)

/-- The callers of a pool over a store that starts empty. -/
theorem kept_of_pool {callers : ι → BrowserCaller}
    (pool : Pool (fun _ => browserFaults) (fun _ _ => False) (fun i => (callers i).run (brokers i))
      {} threads store tr) :
    ∃ m, Kept store m tr ∧ ∀ i, (custody (brokers i)).Follows (threads i) (callers i).Ends (m i) := by
  obtain ⟨m, kept, -, follows⟩ := Kept.empty.run (fun i => (callers i).run_follows (brokers i)) pool
  exact ⟨m, kept, follows⟩

end Run

/-- The state after any number of writes, from one that they keep. -/
theorem leads_state {p : BrowserSessionState → Bool}
    (stable : ∀ {a b : BrowserSessionState}, a.Moves b → p a → p b) (leads : sessionDiscipline.Leads record record')
    (h : p record.state) : p record'.state :=
  leads_keeps (D := sessionDiscipline) (P := fun r => p r.state)
    (fun was (step : SessionStep _ _) => stable step.move was) leads h

theorem leads_receipt (leads : sessionDiscipline.Leads record record')
    (succeeded : record.state = .succeeded) : record'.state = .succeeded ∧ record'.receipt = record.receipt := by
  refine leads_keeps (D := sessionDiscipline)
    (P := fun r => r.state = .succeeded ∧ r.receipt = record.receipt) ?_ leads ⟨succeeded, rfl⟩
  rintro r r' ⟨state, receipt⟩ (step : SessionStep r r')
  refine ⟨(step.move.terminal (by rw [state]; rfl)).trans state, ?_⟩
  rcases step.receipt with same | ⟨unknown, -⟩
  · exact same.trans receipt
  · rw [state] at unknown
    cases unknown

/-- **One click, one session.** In every interleaving of broker operations: a session is clicked
at most once; from EXECUTING it is only ever EXECUTING, UNKNOWN, SUCCEEDED or FAILED, so that an
EXECUTING or UNKNOWN session never expires; and a task has at most one open session. -/
theorem sessions_exclusive {ι : Type} [DecidableEq ι] (brokers : ι → BrowserSessionBroker) (callers : ι → BrowserCaller)
    {threads : ι → BrowserM (Option Value)} {store : BrowserStore} {tr : List (ι × BrowserEvent)}
    (pool : Pool (fun _ => browserFaults) (fun _ _ => False) (fun i => (callers i).run (brokers i))
      {} threads store tr) :
    (∀ sessionId, (tr.filter fun entry => clicks sessionId entry.2).length ≤ 1) ∧
    (∀ threads' store' more, Pool (fun _ => browserFaults) (fun _ _ => False) threads store threads' store' more →
      ∀ sessionId record, store.get sessionId = some record → record.state = .executing →
        ∃ record', store'.get sessionId = some record' ∧
          record'.state ∈ [BrowserSessionState.executing, .unknown, .succeeded, .failed]) ∧
    (∀ threads' store' more, Pool (fun _ => browserFaults) (fun _ _ => False) threads store threads' store' more →
      ∀ sessionId record, store.get sessionId = some record → record.state = .executing ∨ record.state = .unknown →
        ∃ record', store'.get sessionId = some record' ∧ record'.state ≠ .cancelled) ∧
    ∀ taskId, (store.sessions.filter fun record => record.taskId = taskId ∧
      record.state ∉ [BrowserSessionState.succeeded, .failed, .cancelled]).length ≤ 1 := by
  obtain ⟨m, kept, follows⟩ := kept_of_pool pool
  refine ⟨kept.once, fun _ _ _ run _ _ found executing => ?_, fun _ _ _ run _ _ found state => ?_, fun taskId => ?_⟩
  · obtain ⟨record', found', leads⟩ := kept.later follows run found
    have sent : record'.state.sent := leads_state (fun move => move.sent) leads (by rw [executing]; rfl)
    refine ⟨record', found', ?_⟩
    generalize record'.state = state at sent
    cases state <;> revert sent <;> decide
  · obtain ⟨record', found', leads⟩ := kept.later follows run found
    have sent : record'.state.sent :=
      leads_state (fun move => move.sent) leads (by rcases state with h | h <;> rw [h] <;> rfl)
    refine ⟨record', found', fun cancelled => ?_⟩
    rw [cancelled] at sent
    cases sent
  · have single := kept.sound.single taskId
    rw [countP_eq_length_filter] at single
    refine le_of_eq_of_le (congrArg List.length (filter_congr fun record _ => ?_)) single
    unfold BrowserSessionRecord.openFor
    cases record.state <;> simp [BrowserSessionState.terminal]

/-! ## A small site

One form with a tracking page, on a host whose library functions do as little as the form
needs. -/

/-- A pattern of a path, in which `*` stands for any text. -/
def globMatch : List Char → List Char → Bool
  | [], name => name.isEmpty
  | '*' :: rest, name => name.tails.any fun tail => globMatch rest tail
  | c :: rest, d :: name => c = d && globMatch rest name
  | _ :: _, [] => false

/-- The URLs of one site; every digest is zero. -/
def sampleBrowserHost : BrowserHost where
  toHost := sampleHost
  urlsplit url := if url.toList.take 9 = "https://s".toList then
      some ⟨"https", "s", String.ofList (url.toList.drop 9), "", "", some "s", some none⟩
    else none
  unquote := id
  parseQsl _ := some []
  fnmatchcase name pattern := globMatch pattern.toList name.toList
  reCompiles _ := true
  reFullmatch _ _ := true
  isDigit c := c.isDigit
  lower := id
  upper := id
  pyStr
    | .str s => s
    | _ => ""
  pyInt
    | .int n => .ok n
    | _ => .error (.other "TypeError")
  isoformat _ := ""
  roundSix := id
  roundSix_finite _ finite := finite

/-- A broker for that site. -/
def sampleBroker : BrowserSessionBroker where
  host := sampleBrowserHost
  allowedOrigins := ["https://s"]
  originMode := .allowlist
  limits := {}
  submitEnabled := true

/-- The adapter of the form. -/
def sampleAdapter : TransactionAdapterDescriptor where
  extensionId := "site"
  extensionVersion := "1"
  adapterId := "form"
  adapterVersion := "1"
  displayName := "Form"
  allowedOrigins := ["https://s"]
  allowedPaths := ["/form"]
  declaredRisk := .externalWrite
  transactionIds := ["apply"]
  actions := [{ actionId := "send", locator := "act:0", label := "Send", final := true, method := "POST"
                targetOrigin := "https://s", targetPath := "/form" }]
  trackingPath := "/track"
  allowedPageFingerprints := ["0000000000000000000000000000000000000000000000000000000000000000"]
  receiptPattern := "R[0-9]"

/-- A plan that leaves the form as it is. -/
def samplePlan : FillPlan where
  adapterId := "form"
  adapterVersion := "1"
  transactionId := "apply"
  expectedOrigin := "https://s"
  expectedPageFingerprint := "0000000000000000000000000000000000000000000000000000000000000000"
  fields := []
  bounded := by decide
  identified := by decide
  sourced := by decide

/-- The companion on the form: one reference is on the tracking page once the form was sent. -/
def samplePages : (op : BrowserOp) → Except Exn op.Ans
  | .now => .ok (0 : Int)
  | .newId => .ok "session"
  | .newNonce => .ok "nonce"
  | .interrupted | .expired => .ok false
  | .getSession _ => .ok none
  | .createSession record => .ok record
  | .saveSession record _ => .ok record
  | .findActiveForTask _ => .ok []
  | .recoverStaleExecutions _ => .ok []
  | .getAdapter _ _ _ => .ok none
  | .listAdapters _ => .ok []
  | .upsertAdapter record => .ok record
  | .openPage _ _ _ _ => .ok (.dict [])
  | .closePage _ | .cancelPage _ => .ok ()
  | .navigate _ _ _ => .ok (.dict [])
  | .snapshot _ _ _ _ => .ok (.dict [("url", .str "https://s/form")])
  | .fill _ _ => .ok (.dict [])
  | .activate _ _ _ => .ok (.dict [])
  | .collectMatches _ _ limit _ =>
    .ok (.dict [("url", .str "https://s/track"), ("matches", .list (if limit = 256 then [.str "R1"] else []))])
  | .click _ _ => .ok (.dict [])

/-- The stores with a companion that gives the answers, where the clock and the ids do not fail. -/
theorem browserFaults_answerWith {answers : (op : BrowserOp) → Except Exn op.Ans}
    (total : ∀ op, browserWorld.total op → ∃ x, answers op = .ok x) {sh : Bool} {store store' : BrowserStore}
    {op : BrowserOp} {a : Except Exn op.Ans} (h : browserWorld.answerWith 0 answers store op = (a, store')) :
    browserFaults sh store op a store' := by
  have step := World.answerWith_reliable (W := browserWorld) (browserWorld_own 0) total sh store op
  rw [h] at step
  exact ⟨World.faulty_of_reliable step, step.answered⟩

/-- The arguments of the submission. -/
def sampleArguments : List (String × Value) :=
  [("session_id", .str "session"), ("preview_hash", .str (sampleHost.sha256Hex "")), ("preview_nonce", .str "nonce"),
    ("action_id", .str "send")]

/-- The tool it is a call of. -/
def sampleSubmitTool : ToolDescriptor :=
  { sampleTool .externalWrite with extensionId := "site", identified := by decide }

/-- A session from its creation to the submission. -/
def sampleBrowserCallers : Fin 6 → BrowserCaller
  | 0 => .registerAdapter sampleAdapter
  | 1 => .createSession "task" "site" "1" "apply" "owner"
  | 2 => .navigate "session" "site" "form" "apply" "https://s/form"
  | 3 => .recordPreparation "session" "site" "form" "1" "app" "apply" "" 0
  | 4 => .executeFill "session" "task" "site" samplePlan
  | 5 => .submit sampleSubmitTool sampleArguments ⟨"attempt", "task", "key", none⟩

/-- Those callers, one after the other. -/
def sampleSession : (Fin 6 → BrowserM (Option Value)) × BrowserStore × List (Fin 6 × BrowserEvent) :=
  playPool (fun _ store op => some (browserWorld.answerWith 0 samplePages store op))
    ((List.finRange 6).flatMap fun i => List.replicate 20 i) (fun i => (sampleBrowserCallers i).run sampleBroker) {} []

theorem sampleSession_pool : Pool (fun _ => browserFaults) (fun _ _ => False)
    (fun i => (sampleBrowserCallers i).run sampleBroker) {} sampleSession.1 sampleSession.2.1 sampleSession.2.2 :=
  playPool_pool (fun _ _ _ _ _ _ answered => browserFaults_answerWith
    (fun op _ => by cases op <;> exact ⟨_, rfl⟩) (Option.some.inj answered)) _ .start

/-- The reference that a finished submission answered. -/
def answeredReference (thread : BrowserM (Option Value)) : Option String :=
  match thread.outcome? with
  | some (.ok (some value)) => match value.get? "reference" with
    | some (.str reference) => some reference
    | _ => none
  | _ => none

theorem answeredReference_eq {thread : BrowserM (Option Value)} {reference : String}
    (h : answeredReference thread = some reference) :
    ∃ value, thread = .done (.ok (some value)) ∧ value.get? "reference" = some (.str reference) := by
  unfold answeredReference at h
  split at h
  · rename_i value ended
    split at h
    · rename_i found
      cases h
      exact ⟨value, Prog.outcome?_eq_some.mp ended, found⟩
    · cases h
  · cases h

theorem sampleSession_ends : (sampleSession.2.2.filter fun entry => clicks "session" entry.2).length = 1 ∧
    sampleSession.2.1.sessions.map (·.state) = [.succeeded] ∧ answeredReference (sampleSession.1 5) = some "R1" := by
  decide +kernel

/-- The session is clicked, and no later click can follow. -/
theorem sessions_exclusive_sample : (sampleSession.2.2.filter fun entry => clicks "session" entry.2).length = 1 ∧
    (∀ sessionId, (sampleSession.2.2.filter fun entry => clicks sessionId entry.2).length ≤ 1) ∧
    ∀ taskId, (sampleSession.2.1.sessions.filter fun record => record.taskId = taskId ∧
      record.state ∉ [BrowserSessionState.succeeded, .failed, .cancelled]).length ≤ 1 :=
  have exclusive := sessions_exclusive (fun _ => sampleBroker) sampleBrowserCallers sampleSession_pool
  ⟨sampleSession_ends.1, exclusive.1, exclusive.2.2.2⟩

end PersonalAssistant
