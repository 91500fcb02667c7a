import PersonalAssistant.Approvals.Outbox

/-!
# Intents and their approvals

A sequence of outbox calls, whatever each of them ends with. What the port promises is that an
intent and its approval end together; PostgreSQL keeps it in `finalize`, and both outboxes
lose it in the `mark_*` calls, which know nothing of the approval.
-/

namespace PersonalAssistant

open Coro List ApprovalService InMemorySideEffectOutbox

/-- A call of an outbox. -/
inductive OutboxCall where
  | create (intent : SideEffectIntent)
  | finalize (intentId approvalId : String) (terminal : TerminalRecord)
  | markSucceeded (intentId : String) (receipt : List (String × Value))
  | markFailed (intentId errorCode : String)
  | markUnknown (intentId diagnosticCode : String)

/-- The two outboxes. -/
inductive OutboxBackend where
  | inMemory
  | postgres
  deriving DecidableEq

namespace OutboxCall

/-- A call of `InMemorySideEffectOutbox`. -/
def program (host : Host) : OutboxCall → GatewayM Unit
  | create intent => createWithApprovalConsumption host intent
  | finalize intentId approvalId terminal => InMemorySideEffectOutbox.finalize intentId approvalId terminal
  | markSucceeded intentId receipt => InMemorySideEffectOutbox.markSucceeded intentId receipt
  | markFailed intentId errorCode => InMemorySideEffectOutbox.markFailed intentId errorCode
  | markUnknown intentId diagnosticCode => InMemorySideEffectOutbox.markUnknown intentId diagnosticCode

/-- A call of `PostgresSideEffectOutbox`. -/
def transaction (host : Host) (s : Store) (now : Time) : OutboxCall → Except Exn Unit × Store
  | create intent => s.createWithApprovalConsumption host now intent
  | finalize intentId approvalId terminal => s.finalize now intentId approvalId terminal
  | markSucceeded intentId receipt => s.markSucceeded intentId receipt
  | markFailed intentId errorCode => s.markFailed intentId errorCode
  | markUnknown intentId diagnosticCode => s.markUnknown intentId diagnosticCode

/-- A call that runs alone at the time `now`. -/
def perform (backend : OutboxBackend) (host : Host) (s : Store) (now : Time) (call : OutboxCall) :
    Except Exn Unit × Store :=
  match backend with
  | .inMemory => evaluate (aloneAt host now) (call.program host) s
  | .postgres => call.transaction host s now

/-- The stored intent, if any, has the state and the receipt already. -/
def Repeats (s : Store) (intentId : String) (state : SideEffectState) (receipt : Option (List (String × Value))) :
    Prop :=
  ∀ row, s.intent? intentId = some row → row.state = state ∧ receipt.getD row.receipt = row.receipt

/-- The calls that keep an intent and its approval together: a created intent is unfinished, and
a mark repeats what is stored. In memory, moreover, a created intent is new, and a stored one is
finalized with its own approval, to a terminal state and once. -/
def Proper (backend : OutboxBackend) (s : Store) : OutboxCall → Prop
  | create intent => intent.state.terminal = false ∧ (backend = .inMemory → ∀ row ∈ s.intents, row.id ≠ intent.id)
  | finalize intentId approvalId terminal => backend = .inMemory → ∀ row, s.intent? intentId = some row →
      row.approvalId = approvalId ∧ row.state.terminal = false ∧ terminal.state.terminal
  | markSucceeded intentId receipt => Repeats s intentId .succeeded (some receipt)
  | markFailed intentId _ => Repeats s intentId .failed none
  | markUnknown intentId _ => Repeats s intentId .unknown none

end OutboxCall

/-- The stores after a sequence of calls, each at its time. -/
def runCalls (backend : OutboxBackend) (host : Host) : Store → List (Time × OutboxCall) → Store
  | s, [] => s
  | s, (now, call) :: calls => runCalls backend host (call.perform backend host s now).2 calls

/-- Every call of the sequence is proper in the state it finds. -/
def ProperCalls (backend : OutboxBackend) (host : Host) : Store → List (Time × OutboxCall) → Prop
  | _, [] => True
  | s, (now, call) :: calls =>
    call.Proper backend s ∧ ProperCalls backend host (call.perform backend host s now).2 calls

/-- An intent that ended, with an approval that ended with the same outcome, or neither. -/
def Matched (intent : SideEffectState) (approval : ApprovalState) : Prop :=
  (intent.terminal = false ∧ approval = .executing) ∨ (intent.terminal ∧ approval = intent.toApprovalState)

/-- Every intent has an approval of its own that it matches. -/
structure Paired (s : Store) : Prop where
  ids : (s.intents.map (·.id)).Nodup
  owners : (s.intents.map (·.approvalId)).Nodup
  matched : ∀ row ∈ s.intents, ∃ approval, s.approvals row.approvalId = some approval ∧ Matched row.state approval.state

theorem Matched.consumed {intent : SideEffectState} {approval : ApprovalState} (h : Matched intent approval) :
    approval.consumed := by
  rcases h with ⟨-, rfl⟩ | ⟨terminal, rfl⟩
  · rfl
  · cases intent <;> first | rfl | cases terminal

/-- What a proper call does to the intents and their approvals: nothing; a rewrite of an intent
that leaves its state and receipt; the creation of an intent for an approval it consumes; or
the end of an intent and its approval. -/
inductive OutboxStep (s s' : Store) : Prop where
  | idle (intents : s'.intents = s.intents)
      (kept : ∀ id approval, s.approvals id = some approval → approval.state.consumed → s'.approvals id = some approval)
  | rewrite (row new : SideEffectIntent) (found : s.intent? row.id = some row) (id : new.id = row.id)
      (owner : new.approvalId = row.approvalId) (state : new.state = row.state) (receipt : new.receipt = row.receipt)
      (intents : s'.intents = (s.putIntent new).intents) (approvals : s'.approvals = s.approvals)
  | consume (intent : SideEffectIntent) (current new : ApprovalRecord) (fresh : ∀ row ∈ s.intents, row.id ≠ intent.id)
      (unfinished : intent.state.terminal = false) (found : s.approvals intent.approvalId = some current)
      (approved : current.state = .approved) (id : new.id = current.id) (executing : new.state = .executing)
      (intents : s'.intents = s.intents ++ [intent]) (approvals : s'.approvals = (s.putApproval new).approvals)
  | finish (row new : SideEffectIntent) (approval final : ApprovalRecord) (found : s.intent? row.id = some row)
      (unfinished : row.state.terminal = false) (id : new.id = row.id) (owner : new.approvalId = row.approvalId)
      (terminal : new.state.terminal) (approvalFound : s.approvals row.approvalId = some approval)
      (finalId : final.id = approval.id) (outcome : final.state = new.state.toApprovalState)
      (intents : s'.intents = (s.putIntent new).intents) (approvals : s'.approvals = (s.putApproval final).approvals)

namespace Paired

variable {s s' : Store} {row new : SideEffectIntent}

theorem mem_of_intent? {id : String} (found : s.intent? id = some row) : row ∈ s.intents := mem_of_find?_eq_some found

/-- The rows after a replacement: the new one and the others. -/
theorem mem_putIntent (id : new.id = row.id) {other : SideEffectIntent} (mem : other ∈ (s.putIntent new).intents) :
    other = new ∨ other ∈ s.intents ∧ other ≠ row := by
  obtain ⟨old, old_mem, rfl⟩ := mem_map.mp mem
  by_cases same : old.id = new.id
  · exact .inl (if_pos same)
  · rw [if_neg same]
    exact .inr ⟨old_mem, fun eq => same (eq ▸ id.symm)⟩

/-- A replacement keeps the ids and, with the same owner, the owners. -/
theorem map_putIntent {β : Type} (f : SideEffectIntent → β) (paired : Paired s) (found : s.intent? row.id = some row)
    (id : new.id = row.id) (same : f new = f row) : (s.putIntent new).intents.map f = s.intents.map f := by
  rw [Store.putIntent, map_map]
  refine map_congr_left fun old mem => ?_
  by_cases h : old.id = new.id
  · have own : old = row := inj_on_of_nodup_map paired.ids mem (mem_of_intent? found) (h.trans id)
    rw [Function.comp_apply, if_pos h, same, own]
  · rw [Function.comp_apply, if_neg h]

/-- **A step keeps every intent paired with its approval.** -/
theorem step (paired : Paired s) (h : OutboxStep s s') : Paired s' := by
  cases h with
  | idle intents kept =>
    refine ⟨intents ▸ paired.ids, intents ▸ paired.owners, fun row mem => ?_⟩
    obtain ⟨approval, found, matched⟩ := paired.matched row (intents ▸ mem)
    exact ⟨approval, kept _ _ found matched.consumed, matched⟩
  | rewrite row new found id owner state receipt intents approvals =>
    refine ⟨?_, ?_, fun other mem => ?_⟩
    · rw [intents, map_putIntent _ paired found id id]
      exact paired.ids
    · rw [intents, map_putIntent _ paired found id owner]
      exact paired.owners
    · rw [approvals]
      rcases mem_putIntent id (intents ▸ mem) with rfl | ⟨old, -⟩
      · rw [owner, state]
        exact paired.matched row (mem_of_intent? found)
      · exact paired.matched other old
  | consume intent current new fresh unfinished found approved id executing intents approvals =>
    have hid : new.id = intent.approvalId := id.trans (s.keyed _ _ found)
    -- an approval that is still to be consumed belongs to no intent
    have others : ∀ row ∈ s.intents, row.approvalId ≠ intent.approvalId := by
      intro row mem same
      obtain ⟨approval, own, matched⟩ := paired.matched row mem
      rw [same, found] at own
      cases own
      have consumed := matched.consumed
      rw [approved] at consumed
      cases consumed
    refine ⟨?_, ?_, fun row mem => ?_⟩
    · rw [intents]
      exact nodup_map_snoc paired.ids (by simpa using fresh)
    · rw [intents]
      exact nodup_map_snoc paired.owners (by simpa using others)
    · rw [approvals]
      rcases mem_append.mp (intents ▸ mem) with old | last
      · obtain ⟨approval, own, matched⟩ := paired.matched row old
        refine ⟨approval, ?_, matched⟩
        rw [Store.putApproval_of_ne s new (hid ▸ others row old), own]
      · obtain rfl := mem_singleton.mp last
        exact ⟨new, hid ▸ Store.putApproval_self s new, .inl ⟨unfinished, executing⟩⟩
  | finish row new approval final found unfinished id owner terminal approvalFound finalId outcome intents approvals =>
    have hid : final.id = row.approvalId := finalId.trans (s.keyed _ _ approvalFound)
    refine ⟨?_, ?_, fun other mem => ?_⟩
    · rw [intents, map_putIntent _ paired found id id]
      exact paired.ids
    · rw [intents, map_putIntent _ paired found id owner]
      exact paired.owners
    · rw [approvals]
      rcases mem_putIntent id (intents ▸ mem) with rfl | ⟨old, different⟩
      · exact ⟨final, owner ▸ hid ▸ Store.putApproval_self s final, .inr ⟨terminal, outcome⟩⟩
      · obtain ⟨own, ownFound, matched⟩ := paired.matched other old
        have owner' : other.approvalId ≠ row.approvalId := fun same =>
          different (inj_on_of_nodup_map paired.owners old (mem_of_intent? found) same)
        refine ⟨own, ?_, matched⟩
        rw [Store.putApproval_of_ne s final (hid ▸ owner'), ownFound]

/-- **A step keeps the state and the receipt of every intent that ended.** -/
theorem frozen (paired : Paired s) (h : OutboxStep s s') (mem : row ∈ s.intents) (ended : row.state.terminal) :
    ∃ row' ∈ s'.intents, row'.id = row.id ∧ row'.state = row.state ∧ row'.receipt = row.receipt := by
  have replaced : ∀ {old new : SideEffectIntent}, new.id = old.id → s.intent? old.id = some old → row ≠ old →
      row ∈ (s.putIntent new).intents := by
    intro old new id found other
    refine mem_map.mpr ⟨row, mem, if_neg fun same => other ?_⟩
    exact inj_on_of_nodup_map paired.ids mem (mem_of_intent? found) (same.trans id)
  cases h with
  | idle intents kept => exact ⟨row, intents ▸ mem, rfl, rfl, rfl⟩
  | rewrite old new found id owner state receipt intents approvals =>
    rw [intents]
    by_cases same : row = old
    · subst same
      exact ⟨new, mem_map.mpr ⟨row, mem, if_pos id.symm⟩, id, state, receipt⟩
    · exact ⟨row, replaced id found same, rfl, rfl, rfl⟩
  | consume intent current new fresh unfinished found approved id executing intents approvals =>
    exact ⟨row, intents ▸ mem_append_left _ mem, rfl, rfl, rfl⟩
  | finish old new approval final found unfinished id owner terminal approvalFound finalId outcome intents approvals =>
    rw [intents]
    refine ⟨row, replaced id found ?_, rfl, rfl, rfl⟩
    rintro rfl
    rw [unfinished] at ended
    cases ended

end Paired

variable {approvalId : String} {call : OutboxCall} {s' : Store}

section Postgres

variable {host : Host} {s : Store} {now : Time} {id intentId : String} {record new : ApprovalRecord}
  {receipt : Option (List (String × Value))} {state : SideEffectState}

theorem OutboxStep.close (found : s.approvals id = some record) (open_ : record.isExpirable)
    (intents : s'.intents = s.intents)
    (approvals : s'.approvals = (s.putApproval new).approvals) (same : new.id = record.id) : OutboxStep s s' := by
  refine .idle intents fun other approval own consumed => ?_
  have apart : other ≠ new.id := by
    rintro rfl
    rw [same, s.keyed _ _ found, found] at own
    cases own
    rcases ApprovalRecord.isExpirable_iff.mp open_ with h | h <;> rw [h] at consumed <;> cases consumed
  rw [approvals, Store.putApproval_of_ne s new apart, own]

theorem OutboxStep.refl (s : Store) : OutboxStep s s := .idle rfl fun _ _ own _ => own

theorem OutboxStep.repeats
    (diagnostic : SideEffectIntent → Option String) (repeats : OutboxCall.Repeats s intentId state receipt)
    (missing : s.intent? intentId = none → s' = s)
    (stored : ∀ row, s.intent? intentId = some row → s' = s.putIntent { row with
      state := state, receipt := receipt.getD row.receipt, diagnosticCode := diagnostic row }) : OutboxStep s s' := by
  cases found : s.intent? intentId with
  | none => exact missing found ▸ .refl s
  | some row =>
    obtain ⟨rfl, same⟩ := repeats row found
    have own : row.id = intentId := by simpa using List.find?_some found
    rw [stored row found]
    exact .rewrite row { row with receipt := receipt.getD row.receipt, diagnosticCode := diagnostic row } (own ▸ found)
      rfl rfl rfl same rfl rfl

theorem finishRow_step {diagnostic : Option String} (repeats : OutboxCall.Repeats s intentId state receipt) :
    OutboxStep s (s.finishRow intentId state receipt diagnostic).2 := by
  refine .repeats (fun _ => diagnostic) repeats (fun missing => ?_) fun row found => ?_
  · rw [Store.finishRow, missing]
  · rw [Store.finishRow, found]

theorem createWithApprovalConsumption_step {intent : SideEffectIntent} (unfinished : intent.state.terminal = false) :
    OutboxStep s (s.createWithApprovalConsumption host now intent).2 := by
  rcases Store.createWithApprovalConsumption_cases
    (Prod.mk.eta (p := s.createWithApprovalConsumption host now intent)) with
    ⟨same, -⟩ | ⟨current, new, found, approved, step, approvals, outcome⟩
  · rw [same]
    exact .refl s
  · rcases outcome with ⟨-, -, intents⟩ | ⟨-, executing, -, intents, fresh⟩
    · exact .close found (ApprovalRecord.isExpirable_iff.mpr (.inr approved)) intents approvals step.same.id.symm
    · exact .consume intent current new fresh unfinished found approved step.same.id.symm executing intents approvals

/-- `finalize` in PostgreSQL is one step of the outbox. -/
theorem finalize_step {terminal : TerminalRecord} : OutboxStep s (s.finalize now intentId approvalId terminal).2 := by
  unfold Store.finalize
  by_cases final : terminal.state.terminal
  swap
  · rw [if_pos (by simpa using final)]
    exact .refl s
  rw [if_neg (by simp [final])]
  cases approvalFound : s.approvals approvalId with
  | none => exact .refl s
  | some approval =>
    simp only []
    split
    · exact .refl s
    cases found : s.intent? intentId with
    | none => exact .refl s
    | some row =>
      simp only []
      split
      · exact .refl s
      rename_i own
      split
      · exact .refl s
      rename_i unfinished
      have named : row.id = intentId := by simpa using List.find?_some found
      refine .finish row _ approval _ (named ▸ found) (Bool.not_eq_true _ ▸ unfinished) ?_ ?_ ?_
        (not_not.mp own ▸ approvalFound) ?_ ?_ rfl rfl
      · split <;> rfl
      · split <;> rfl
      · split <;> exact final
      · rfl
      · split <;> rfl

/-- **A proper call of the PostgreSQL outbox.** -/
theorem transaction_step (proper : call.Proper .postgres s) : OutboxStep s (call.transaction host s now).2 := by
  cases call with
  | create intent => exact createWithApprovalConsumption_step proper.1
  | finalize intentId approvalId terminal => exact finalize_step
  | markSucceeded | markFailed | markUnknown => exact finishRow_step proper

end Postgres

section InMemory

variable {host : Host} {s : Store} {now : Time} {id intentId : String} {record : ApprovalRecord}
  {intent : SideEffectIntent}
  {terminal : TerminalRecord}

open InMemorySideEffectOutbox

/-- The in-memory consumption under the lock, whatever the approval holds. -/
theorem consumeLocked_step (unfinished : intent.state.terminal = false)
    (fresh : ∀ row ∈ s.intents, row.id ≠ intent.id) :
    OutboxStep s (evaluate (aloneAt host now) (consumeLocked host intent) s).2 := by
  unfold consumeLocked
  rw [evaluate_bind_ok evaluate_keyUsed]
  split
  · exact .refl s
  cases found : s.approvals intent.approvalId with
  | none =>
    rw [evaluate_bind_error (evaluate_get_none found)]
    exact .refl s
  | some record =>
    have read : evaluate (aloneAt host now) (get intent.approvalId none true) s = _ := evaluate_get found
    by_cases due : record.hasExpired now
    · rw [if_pos due] at read
      rw [evaluate_bind_ok read]
      exact .close found (ApprovalRecord.open_of_hasExpired due) rfl rfl rfl
    rw [if_neg due] at read
    rw [evaluate_bind_ok read]
    split
    · exact .refl s
    by_cases approved : record.state = .approved
    swap
    · rw [if_pos approved]
      exact .refl s
    rw [if_neg (not_not.mpr approved)]
    have open_ := ApprovalRecord.isExpirable_iff.mpr (.inr approved)
    cases compareDigest record.actionFingerprint intent.actionFingerprint with
    | error e => exact .refl s
    | ok same =>
      show OutboxStep s (evaluate _ (if _ then _ else _) _).2
      split
      · rw [evaluate_bind_ok (evaluate_reject found approved)]
        exact .close found open_ rfl rfl rfl
      cases bindingFromRecord host record with
      | error e => exact .refl s
      | ok binding =>
        have consumed : evaluate (aloneAt host now)
            (consumeForExecution host intent.approvalId binding none) s = _ :=
          evaluate_consumeForExecution found approved due
        show OutboxStep s (evaluate _ (consumeForExecution host intent.approvalId binding none >>= _) s).2
        rw [evaluate_bind, consumed]
        cases canonicalSha256 host binding.envelope with
        | error e => exact .refl s
        | ok presented =>
          simp only []
          cases compareDigest record.actionFingerprint presented with
          | error e => exact .refl s
          | ok equal =>
            cases equal with
            | false => exact .close found open_ rfl rfl rfl
            | true =>
              refine .consume intent record (record.taken now) fresh unfinished found approved rfl rfl ?_ rfl
              show s.intents.filter _ ++ [intent] = _
              rw [filter_eq_self.mpr fun row mem => decide_eq_true (fresh row mem)]

theorem OutboxStep.withLock (h : OutboxStep s.lock s') : OutboxStep s s'.unlock := by
  cases h with
  | idle intents kept => exact .idle intents kept
  | rewrite row new found id owner state receipt intents approvals =>
    exact .rewrite row new found id owner state receipt intents approvals
  | consume intent current new fresh unfinished found approved id executing intents approvals =>
    exact .consume intent current new fresh unfinished found approved id executing intents approvals
  | finish row new approval final found unfinished id owner terminal approvalFound finalId outcome intents approvals =>
    exact .finish row new approval final found unfinished id owner terminal approvalFound finalId outcome intents
      approvals

theorem finishIntent_evaluates {state : SideEffectState} {receipt : Option (List (String × Value))}
    (unlocked : s.locked = false) :
    evaluate (aloneAt host now) (withLock (request (.finishIntent intentId state receipt))) s =
      s.finishIntent intentId state receipt := by
  rw [evaluate_withLock unlocked]
  show Prod.map id Store.unlock (s.lock.finishIntent intentId state receipt) = _
  unfold Store.finishIntent
  rw [show s.lock.intent? intentId = s.intent? intentId from rfl]
  cases s.intent? intentId with
  | none => exact congrArg _ (Store.unlock_lock unlocked)
  | some row =>
    exact congrArg (fun t : Store => ((.ok () : Except Exn Unit), t.putIntent _)) (Store.unlock_lock unlocked)

theorem evaluate_finish {target : ApprovalState} {resultReference failureReason : Option String}
    (found : s.approvals id = some record) (executing : record.state = .executing)
    (final : target ∈ ApprovalState.executing.allowed) :
    ∃ new, evaluate (aloneAt host now) (finish id target none resultReference failureReason) s =
      (.ok new, s.putApproval new) ∧ new.id = record.id ∧ new.state = target := by
  have allowed : ApprovalState.executing.ensureTransition target = .ok () := if_pos final
  refine ⟨{ record with
    state := target, version := record.version + 1, completedAt := some now, resultReference := resultReference,
    failureReason := failureReason }, (evaluate_bind_ok (evaluate_read found)).trans ?_, rfl, rfl⟩
  rw [if_neg (not_not.mpr executing), executing, allowed]
  exact evaluate_save { record with
    state := target, completedAt := some now, resultReference := resultReference,
    failureReason := failureReason } found rfl

theorem evaluate_markTerminal (found : s.approvals id = some record)
    (executing : record.state = .executing) (final : terminal.state.terminal) :
    ∃ new, evaluate (aloneAt host now) (markTerminal id terminal) s = (.ok new, s.putApproval new) ∧
      new.id = record.id ∧ new.state = terminal.state.toApprovalState := by
  unfold markTerminal
  cases state : terminal.state with
  | succeeded | failed | unknown => exact evaluate_finish found executing (by decide)
  | prepared | executing => rw [state] at final; cases final

/-- The call made a step and left the lock free. -/
abbrev StepsFree (s : Store) (r : Except Exn Unit × Store) : Prop := OutboxStep s r.2 ∧ r.2.locked = false

/-- `finalize` in memory is one step of the outbox. -/
theorem finalizeInMemory_step (paired : Paired s) (unlocked : s.locked = false)
    (proper : ∀ row, s.intent? intentId = some row →
      row.approvalId = approvalId ∧ row.state.terminal = false ∧ terminal.state.terminal) :
    StepsFree s (evaluate (aloneAt host now) (finalize intentId approvalId terminal) s) := by
  unfold finalize
  have finished : evaluate (aloneAt host now)
      (withLock (request (.finishIntent intentId terminal.state terminal.receipt))) s = _ :=
    finishIntent_evaluates unlocked
  unfold Store.finishIntent at finished
  cases found : s.intent? intentId with
  | none =>
    rw [found] at finished
    rw [evaluate_bind_error finished]
    exact ⟨.refl s, unlocked⟩
  | some row =>
    rw [found] at finished
    rw [evaluate_bind_ok finished]
    obtain ⟨rfl, unfinished, final⟩ := proper row found
    have named : row.id = intentId := by simpa using List.find?_some found
    obtain ⟨approval, own, matched⟩ := paired.matched row (Paired.mem_of_intent? found)
    have executing : approval.state = .executing := by
      rcases matched with ⟨-, executing⟩ | ⟨ended, -⟩
      · exact executing
      · rw [unfinished] at ended
        cases ended
    have marks : ∃ new, evaluate (aloneAt host now) (markTerminal row.approvalId terminal)
        (s.putIntent { row with state := terminal.state, receipt := terminal.receipt.getD row.receipt }) =
          (.ok new, _) ∧
        new.id = approval.id ∧ new.state = terminal.state.toApprovalState := evaluate_markTerminal own executing final
    obtain ⟨new, marked, finalId, outcome⟩ := marks
    rw [evaluate_bind_ok marked]
    exact ⟨.finish row { row with state := terminal.state, receipt := terminal.receipt.getD row.receipt } approval new
      (named ▸ found) unfinished rfl rfl final own finalId outcome rfl rfl, unlocked⟩

/-- **A proper call of the in-memory outbox**, which leaves the lock free. -/
theorem program_step (paired : Paired s) (unlocked : s.locked = false) (proper : call.Proper .inMemory s) :
    StepsFree s (evaluate (aloneAt host now) (call.program host) s) := by
  have marks : ∀ {intentId : String} {state : SideEffectState} {receipt : Option (List (String × Value))},
      OutboxCall.Repeats s intentId state receipt →
      StepsFree s (evaluate (aloneAt host now)
        (withLock (request (.finishIntent intentId state receipt))) s) := by
    intro intentId state receipt repeats
    rw [StepsFree, finishIntent_evaluates unlocked, Store.finishIntent]
    refine ⟨.repeats SideEffectIntent.diagnosticCode repeats (fun missing => ?_) fun row found => ?_, ?_⟩
    · rw [missing]
    · rw [found]
    · cases s.intent? intentId <;> exact unlocked
  cases call with
  | create intent =>
    show StepsFree s (evaluate _ (createWithApprovalConsumption host intent) s)
    unfold createWithApprovalConsumption
    split
    · exact ⟨.refl s, unlocked⟩
    · rw [StepsFree, evaluate_withLock unlocked]
      exact ⟨.withLock (consumeLocked_step proper.1 (proper.2 rfl)), rfl⟩
  | finalize intentId approvalId terminal => exact finalizeInMemory_step paired unlocked (proper rfl)
  | markSucceeded | markFailed | markUnknown => exact marks proper

end InMemory

section Runs

variable {backend : OutboxBackend} {host : Host} {s : Store}

theorem perform_step {now : Time} (paired : Paired s) (unlocked : backend = .inMemory → s.locked = false)
    (proper : call.Proper backend s) :
    OutboxStep s (call.perform backend host s now).2 ∧
    (backend = .inMemory → (call.perform backend host s now).2.locked = false) := by
  cases backend with
  | inMemory =>
    have step : StepsFree s (evaluate (aloneAt host now) (call.program host) s) :=
      program_step paired (unlocked rfl) proper
    exact ⟨step.1, fun _ => step.2⟩
  | postgres => exact ⟨transaction_step proper, nofun⟩

/-- A run of proper calls keeps every intent paired, and freezes those that ended. -/
theorem runCalls_paired (paired : Paired s) (unlocked : backend = .inMemory → s.locked = false)
    (calls : List (Time × OutboxCall)) (proper : ProperCalls backend host s calls) :
    Paired (runCalls backend host s calls) ∧ (backend = .inMemory → (runCalls backend host s calls).locked = false) ∧
      ∀ row ∈ s.intents, row.state.terminal → ∃ row' ∈ (runCalls backend host s calls).intents,
        row'.id = row.id ∧ row'.state = row.state ∧ row'.receipt = row.receipt := by
  induction calls generalizing s with
  | nil => exact ⟨paired, unlocked, fun row mem _ => ⟨row, mem, rfl, rfl, rfl⟩⟩
  | cons head calls ih =>
    obtain ⟨now, call⟩ := head
    have performed : OutboxStep s (call.perform backend host s now).2 ∧ _ := perform_step paired unlocked proper.1
    obtain ⟨step, free⟩ := performed
    obtain ⟨paired', unlocked', kept⟩ := ih (paired.step step) free proper.2
    refine ⟨paired', unlocked', fun row mem ended => ?_⟩
    obtain ⟨row', mem', id, state, receipt⟩ := paired.frozen step mem ended
    obtain ⟨row'', mem'', id', state', receipt'⟩ := kept row' mem' (state ▸ ended)
    exact ⟨row'', mem'', id'.trans id, state'.trans state, receipt'.trans receipt⟩

end Runs

/-- What the port promises of every intent: it ended exactly where its approval ended, and with
the same outcome. -/
def Store.Settled (s : Store) : Prop :=
  ∀ row ∈ s.intents, ∃ approval, s.approvals row.approvalId = some approval ∧
    (row.state.terminal ↔ approval.state.allowed = []) ∧
      (row.state.terminal → approval.state = row.state.toApprovalState)

theorem Paired.settled {s : Store} (paired : Paired s) : Store.Settled s := by
  intro row mem
  obtain ⟨approval, found, matched⟩ := paired.matched row mem
  refine ⟨approval, found, ?_⟩
  rcases matched with ⟨unfinished, executing⟩ | ⟨ended, same⟩
  · rw [unfinished, executing]
    exact ⟨by simp [ApprovalState.allowed], nofun⟩
  · refine ⟨?_, fun _ => same⟩
    rw [same]
    revert ended
    cases row.state <;> simp [SideEffectState.terminal, SideEffectState.toApprovalState, ApprovalState.allowed]

/-- **Proper calls settle an intent and its approval together, once.** -/
theorem outbox_settles (backend : OutboxBackend) (host : Host) (s : Store) (empty : s.intents = [])
    (unlocked : backend = .inMemory → s.locked = false) (calls : List (Time × OutboxCall))
    (proper : ProperCalls backend host s calls) :
    Store.Settled (runCalls backend host s calls) ∧
      ∀ later, ProperCalls backend host (runCalls backend host s calls) later →
        ∀ row ∈ (runCalls backend host s calls).intents, row.state.terminal →
          ∃ row' ∈ (runCalls backend host (runCalls backend host s calls) later).intents,
            row'.id = row.id ∧ row'.state = row.state ∧ row'.receipt = row.receipt := by
  have start : Paired s := ⟨by simp [empty], by simp [empty], by simp [empty]⟩
  obtain ⟨paired, free, -⟩ := runCalls_paired start unlocked calls proper
  exact ⟨paired.settled, fun later proper' => (runCalls_paired paired free later proper').2.2⟩

/-- An intent that is created and finalized. -/
theorem outbox_settles_finalized : Store.Settled (runCalls .postgres outboxHost (outboxStore .approved)
      [(5, .create outboxIntent), (6, .finalize "i" "a" { state := .succeeded })]) := by
  refine (outbox_settles .postgres outboxHost (outboxStore .approved) rfl nofun _ ?_).1
  exact ⟨⟨rfl, nofun⟩, nofun, trivial⟩

/-- After the creation of the sample intent its approval is executing, in both outboxes. -/
theorem outboxIntent_created (backend : OutboxBackend) :
    ∃ s, ((OutboxCall.create outboxIntent).perform backend outboxHost (outboxStore .approved) 5).2 = s ∧
      s.intents = [outboxIntent] ∧ s.locked = false ∧ s.approvals "a" = some ((outboxApproval .approved).taken 5) := by
  have taken : ((outboxStore .approved).putApproval ((outboxApproval .approved).taken 5)).approvals "a" =
      some ((outboxApproval .approved).taken 5) := Store.putApproval_self _ ((outboxApproval .approved).taken 5)
  have complete : outboxIntent.actionFingerprint ≠ "" := by decide +kernel
  cases backend with
  | inMemory =>
    have created : evaluate (aloneAt outboxHost 5)
        (createWithApprovalConsumption outboxHost outboxIntent) (outboxStore .approved) = _ :=
      evaluate_createInMemory rfl ((outboxStore_shared _).prepared _)
    rw [if_neg complete, consumeInMemory_redeems (fun taken => by cases taken) (outboxStore_found _)
      (outboxApproval_prepared .approved)
      outboxApproval_redeems] at created
    exact ⟨_, congrArg Prod.snd created, rfl, rfl, taken⟩
  | postgres =>
    have created := createWithApprovalConsumption_redeems complete (outboxStore_found _)
      (outboxApproval_prepared .approved)
      outboxApproval_redeems nofun
    exact ⟨_, congrArg Prod.snd created, rfl, rfl, taken⟩

/-- **A `mark_*` call ends an intent and leaves its approval executing**, in both outboxes. -/
theorem mark_leaves_approval_executing :
    ¬ ∃ backend, Store.Settled (runCalls backend outboxHost (outboxStore .approved)
      [(5, .create outboxIntent), (6, .markSucceeded "i" [])]) := by
  rintro ⟨backend, settled⟩
  obtain ⟨s, created, intents, unlocked, executing⟩ := outboxIntent_created backend
  have found : s.intent? "i" = some outboxIntent := by
    rw [Store.intent?, intents]
    rfl
  -- the mark replaces the only intent and touches no approval
  have marked : runCalls backend outboxHost s [(6, .markSucceeded "i" [])] =
      s.putIntent { outboxIntent with state := .succeeded, receipt := [] } := by
    cases backend with
    | inMemory =>
      have finished : evaluate (aloneAt outboxHost 6)
          (withLock (request (.finishIntent "i" .succeeded (some [])))) s = _ :=
        finishIntent_evaluates unlocked
      rw [Store.finishIntent, found] at finished
      exact congrArg Prod.snd finished
    | postgres =>
      show (s.finishRow "i" .succeeded (some []) none).2 = _
      rw [Store.finishRow, found]
      rfl
  rw [runCalls, created, marked] at settled
  have mem : { outboxIntent with state := .succeeded, receipt := [] } ∈
      (s.putIntent { outboxIntent with state := .succeeded, receipt := [] }).intents := by
    show _ ∈ s.intents.map _
    rw [intents]
    exact mem_cons_self
  obtain ⟨approval, own, iff, -⟩ := settled _ mem
  cases own.symm.trans executing
  exact absurd (iff.mp rfl) (by decide)

end PersonalAssistant
