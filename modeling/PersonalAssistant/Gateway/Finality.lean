import PersonalAssistant.Gateway.Consumption

/-!
# What a consumed approval ends as

A call runs alone on stores that do not fail. Once it has consumed its approval, the
approval and the intent end in one terminal state, whatever the executor answers and
wherever a failure or a cancellation strikes, except at the two places where `invoke` stands
outside every `try`: the append of INTENT_RECORDED and the encoding of the result.
-/

namespace PersonalAssistant

open Coro Coro.Prog Marks ToolGateway Store

variable {g : ToolGateway} {s : Store} {n : Marks} {id : String} {intent : Option SideEffectIntent} {call : ToolCall}
  {terminal : TerminalRecord} {st : Store × Marks}

/-- The approval and, if there is one, the intent are both in the state. -/
structure Ended (s : Store) (id : String) (intent : Option SideEffectIntent) (state : SideEffectState) : Prop where
  approval : ∃ record, s.approvals id = some record ∧ record.state = state.toApprovalState
  intent : ∀ i, intent = some i → ∃ row, s.intent? i.id = some row ∧ row.state = state

/-- The coroutine ends both records in the state and leaves the marks. -/
abbrev EndsAs {α : Type} (g : ToolGateway) (c : GatewayM α) (s : Store) (n : Marks) (id : String)
    (intent : Option SideEffectIntent) (state : SideEffectState) : Prop :=
  Marked g c (fun _ st => st.2 = n ∧ Ended st.1 id intent state) (s, n)

/-- Each of the three ways to finalize a consumed approval ends both records alike. -/
theorem finalizeExternalImpl_runs (hterminal : terminal.state.terminal) (consumed : Consumed g s id intent) :
    EndsAs g (g.finalizeExternalImpl id intent terminal) s n id intent terminal.state := by
  obtain ⟨record, found, hstate⟩ := consumed.executing
  have hid : record.id = id := s.keyed id record found
  unfold finalizeExternalImpl
  cases intent with
  | none =>
    refine wp.after (markTerminal_runs passes hterminal consumed.executing) fun r st h => ?_
    obtain ⟨new, rfl, rfl, rfl, hnew⟩ := h
    exact wp.pure ⟨rfl, ⟨new, putApproval_self s new, hnew⟩, nofun⟩
  | some i =>
    obtain ⟨row, hrow, own, prepared⟩ := consumed.intent i rfl
    cases houtbox : g.outbox with
    | absent => exact absurd (consumed.none_iff.mpr houtbox) nofun
    | postgres =>
      refine runs_effect (fun _ => rfl) fun now => ?_
      obtain ⟨row', new, heq, hid', hrow', hnewid, hnew⟩ :=
        finalize_ok now hterminal found hstate hrow own (by rw [prepared]; rfl)
      rw [add_plain (.finalize i.id id terminal) rfl, heq]
      refine ⟨rfl, ⟨new, ?_, hnew⟩, ?_⟩
      · rw [← hid, ← hnewid]
        exact putApproval_self _ new
      · rintro _ ⟨⟩
        exact ⟨row', intent?_putIntent hrow hid', hrow'⟩
    | inMemory =>
      refine wp.bind (withLock_runs (fun held => ?_) fun free => runs_effect (fun _ => rfl) fun _ => ?_)
      · simp [consumed.unlocked houtbox] at held
      rw [add_plain (.finishIntent i.id terminal.state terminal.receipt) rfl]
      obtain ⟨row', hfinish, hid', hrow'⟩ := finishIntent_ok (s := { s with locked := true }) hrow
      rw [hfinish]
      refine wp.after (markTerminal_runs passes hterminal consumed.executing) fun r st h => ?_
      obtain ⟨new, rfl, rfl, rfl, hnew⟩ := h
      refine wp.pure ⟨rfl, ⟨new, putApproval_self _ new, hnew⟩, ?_⟩
      rintro _ ⟨⟩
      exact ⟨row', intent?_putIntent hrow hid', hrow'⟩

/-- Both records are in one terminal state. -/
def Settled (s : Store) (id : String) (intent : Option SideEffectIntent) : Prop :=
  ∃ state : SideEffectState, state.terminal ∧ Ended s id intent state

theorem finalizeExternal_runs (hterminal : terminal.state.terminal) (consumed : Consumed g s id intent) :
    EndsAs g (g.finalizeExternal id intent terminal) s n id intent terminal.state :=
  finishTerminalRecording_runs passes (finalizeExternalImpl_runs hterminal consumed)

section Handlers

variable {descriptor : ToolDescriptor} {call : ToolCall} {context : ToolExecutionContext}
  {eventType referenceId : String} {detail : Value}

/-- An audit event other than INTENT_RECORDED leaves the stores and the marks as they are. -/
theorem audit_runs (h : eventType ≠ "INTENT_RECORDED") :
    Marked g (audit descriptor call context eventType detail) (fun _ st => st = (s, n))
      (s, n) := by
  refine runs_total_bind .utcNow rfl rfl (add_plain .utcNow rfl n) fun occurredAt => ?_
  refine runs_host rfl fun a _ => ?_
  rw [add_audit h]

/-- What the outcome audit and the return after a finalization keep. -/
theorem audit_ended {α : Type} {result : α}
    {state : SideEffectState} (h : eventType ≠ "INTENT_RECORDED") (ended : st.2 = n ∧ Ended st.1 id intent state) :
    Marked g (audit descriptor call context eventType detail >>= fun _ => pure result)
      (fun _ st => st.2 = n ∧ Ended st.1 id intent state) st := by
  refine wp_bind_keep (wp_mono (fun _ st' hst => ?_) (audit_runs h)) fun _ st' hst => wp.pure hst
  exact hst ▸ ended

/-- The marks with what the executor raised, if it did. -/
def Marks.raise (n : Marks) (raised : Option Exn) : Marks := { n with raised := n.raised ++ raised.toList }

theorem Marks.raise_none (n : Marks) : n.raise none = n := by
  simp [raise]

/-- A dispatch touches neither store. A result it returns can be encoded, and it passes on
what the executor raised. -/
structure Dispatched (s : Store) (n : Marks) (r : Except Exn Value) (st : Store × Marks) (raised : Option Exn) :
    Prop where
  state : st = (s, n.raise raised)
  encodes : ∀ result, r = .ok result → ∃ encoded, jsonDumps result = .ok encoded
  passed : ∀ e, raised = some e → r = .error e

/-- How the dispatch to the executor ends. -/
theorem dispatch_runs : Marked g (g.dispatch descriptor call context)
    (fun r st => ∃ raised, Dispatched s n r st raised) (s, n) := by
  have stopped (e : Exn) : ∃ raised, Dispatched s n (.error e) (s, n) raised :=
    ⟨none, by rw [raise_none], nofun, nofun⟩
  have policy : Marked g (recheckPolicy descriptor call) (fun _ st => (s, n) = st) (s, n) :=
    recheckPolicy_keeps (keeps_plain rfl rfl) (s, n)
  refine wp.after policy fun r st h => ?_
  subst h
  cases r with
  | error e => exact stopped e
  | ok u =>
    refine wp.bind (runs_host rfl fun a _ => ?_)
    cases a with
    | error e => exact ⟨some e, by rw [add_raised]; rfl, nofun, fun _ h => congrArg Except.error (Option.some.inj h)⟩
    | ok raw =>
      rw [add_executed]
      refine wp_ofExcept_bind (fun result sanitized => ?_) fun e _ => stopped e
      refine wp_ofExcept_bind (fun _ _ => ?_) fun e _ => stopped e
      refine wp.pure ⟨none, by rw [raise_none], ?_, nofun⟩
      rintro _ ⟨⟩
      exact sanitizeResult_encodes sanitized

/-- How the part of `invoke` after the consumption can end: both records in one terminal
state, which is the one of the exception if the executor raised one, or nothing written because of a
failure that no `try` covers. -/
inductive Outcome (s : Store) (n : Marks) (id : String) (intent : Option SideEffectIntent) : Store × Marks → Prop where
  | settled (s' : Store) (raised : Option Exn) (state : SideEffectState) :
      state.terminal → Ended s' id intent state → (∀ e, raised = some e → state = e.recordedAs) →
      Outcome s n id intent (s', n.raise raised)
  | disturbed : Outcome s n id intent (s, { n with disturbed := true })

variable (external : descriptor.risk = .externalWrite) (own : call.approvalId = some id)
  (consumed : Consumed g s id intent)

include own consumed

theorem markUnknownExternal_runs :
    EndsAs g (g.markUnknownExternal call referenceId intent) s n id intent .unknown := by
  simp only [markUnknownExternal, own]
  exact finalizeExternal_runs rfl consumed

theorem markDefinitiveExternalFailure_runs {reason : String} :
    EndsAs g (g.markDefinitiveExternalFailure call reason intent) s n id intent .failed := by
  simp only [markDefinitiveExternalFailure, own]
  exact finalizeExternal_runs rfl consumed

include external

theorem unknown_runs {message : String} :
    EndsAs g (g.unknown descriptor call context referenceId message intent) s n id intent .unknown := by
  unfold unknown
  rw [if_pos ⟨external, by simp [own]⟩]
  exact wp_bind_keep (markUnknownExternal_runs own consumed) fun _ _ => audit_ended (by decide)

/-- **Recovery.** Whatever the dispatch raised, the handler that takes it ends both records
in the state the exception stands for. -/
theorem recover_runs {exc : Exn} :
    EndsAs g (g.recover descriptor call context intent exc) s n id intent exc.recordedAs := by
  cases exc with
  | outcomeUnknown referenceId message => exact unknown_runs external own consumed
  | timeout typeName message =>
    simp only [recover, if_pos external]
    exact unknown_runs external own consumed
  | userActionRequired message | extensionUnavailable extensionId message | definitiveToolFailure message retryable =>
    exact wp_bind_keep (markDefinitiveExternalFailure_runs own consumed) fun _ _ => audit_ended (by decide)
  | cancelled =>
    simp only [recover, if_pos external]
    exact wp_bind_keep (markUnknownExternal_runs own consumed) fun _ st ended => wp.raise ended
  | domain kind message | runtime kind message | other typeName =>
    simp only [recover, if_pos external]
    exact unknown_runs external own consumed

/-- How the conclusion of an executed call ends. -/
theorem conclude_runs {result : Value} {encoded : String} (hencoded : jsonDumps result = .ok encoded) :
    Marked g (g.conclude descriptor call context intent result)
      (fun _ => Outcome s n id intent) (s, n) := by
  refine wp.bind (runs_host rfl fun a _ => ?_)
  cases a with
  | error e =>
    rw [add_unencoded]
    exact .disturbed
  | ok u =>
    rw [add_encoded]
    refine wp_ok_bind hencoded ?_
    simp only [external, own]
    refine wp_mono (fun _ st h => ?_)
      (wp_bind_keep (finalizeExternal_runs rfl consumed) fun _ _ => audit_ended (by decide))
    obtain ⟨s', n'⟩ := st
    obtain ⟨rfl, ended⟩ := h
    have settled : Outcome s n' id intent (s', n'.raise none) := .settled s' none .succeeded rfl ended nofun
    rwa [raise_none] at settled

/-- **After the consumption.** Both records end in one terminal state, unless the append of
INTENT_RECORDED or the encoding of the result fails. -/
theorem perform_runs : Marked g (g.perform descriptor call intent) (fun _ => Outcome s n id intent) (s, n) := by
  refine runs_total_bind .uuid4 rfl rfl (add_plain .uuid4 rfl n) fun attemptId => ?_
  refine wp.bind (runs_total_bind .utcNow rfl rfl (add_plain .utcNow rfl n) fun occurredAt => ?_)
  refine runs_host rfl fun a _ => ?_
  cases a with
  | error e =>
    rw [add_unrecorded n rfl]
    exact .disturbed
  | ok u =>
    rw [add_recorded]
    refine wp.tried dispatch_runs fun r st h => ?_
    obtain ⟨raised, rfl, encodes, passed⟩ := h
    cases r with
    | ok result =>
      obtain ⟨encoded, hencoded⟩ := encodes result rfl
      cases raised with
      | some e => cases passed e rfl
      | none =>
        rw [raise_none]
        exact conclude_runs external own consumed hencoded
    | error exc =>
      refine wp_mono (fun _ st h => ?_) (recover_runs external own consumed)
      obtain ⟨s', n'⟩ := st
      obtain ⟨rfl, ended⟩ := h
      refine .settled s' raised exc.recordedAs ?_ ended fun e he => ?_
      · cases exc <;> rfl
      · rw [Except.error.inj (passed e he)]

end Handlers

/-- How a call that consumed its approval ends. -/
structure CallEnd (g : ToolGateway) (call : ToolCall) (st : Store × Marks) (id : String)
    (intent : Option SideEffectIntent) : Prop where
  own : call.approvalId = some id
  intents : st.2.intents = intent.toList
  none_iff : intent = none ↔ g.outbox = .absent
  settled_iff : Settled st.1 id intent ↔ st.2.disturbed = false
  raised : ∀ e ∈ st.2.raised, Ended st.1 id intent e.recordedAs

/-- The end of the call, from the outcome of its execution. -/
theorem Outcome.callEnd (own : call.approvalId = some id)
    (consumed : Consumed g s id intent) (h : Outcome s (consume {} intent) id intent st) :
    CallEnd g call st id intent := by
  cases h with
  | settled s' raised state terminal ended recorded =>
    refine ⟨own, rfl, consumed.none_iff, ⟨fun _ => rfl, fun _ => ⟨state, terminal, ended⟩⟩, fun e he => ?_⟩
    cases raised with
    | none => cases he
    | some exc =>
      obtain rfl : e = exc := List.mem_singleton.mp he
      exact recorded e rfl ▸ ended
  | disturbed =>
    -- nothing was written: the approval is still EXECUTING
    refine ⟨own, rfl, consumed.none_iff, ⟨?_, nofun⟩, nofun⟩
    rintro ⟨state, terminal, ⟨record, found, hstate⟩, -⟩
    obtain ⟨record', found', executing⟩ := consumed.executing
    obtain rfl : record = record' := Option.some.inj (found.symm.trans found')
    rw [executing] at hstate
    cases state <;> cases hstate
    cases terminal

/-- How a call of `invoke` that consumed an approval ends. -/
theorem invoke_runs : Marked g (g.invoke call) (fun _ st => st.2.consumed → ∃ id intent, CallEnd g call st id intent)
      (s, {}) := by
  have unconsumed {st : Store × Marks} {Q : Prop} (h : SameConsumed (s, {}) st) (hc : st.2.consumed = true) : Q := by
    rw [h] at hc
    cases hc
  have admitted : Marked g (g.admitCall call) (fun _ st => (s, {}) = st) (s, {}) :=
    admit_keeps (keeps_plain rfl rfl) (keeps_plain rfl rfl) (s, {})
  refine wp.tried admitted fun r st h => ?_
  subst h
  cases r with
  | error exc => exact wp.ite ⟨fun _ => wp.pure nofun, fun _ => wp.raise nofun⟩
  | ok admitted =>
    refine wp.ite ⟨fun external => wp_ofExcept_bind (fun binding _ => ?_) fun _ _ => nofun, fun _ => ?_⟩
    · cases own : call.approvalId with
      | none =>
        refine wp_mono (fun _ _ h => unconsumed h) (calm_consumed.prepareApproval (fun record => ?_) (s, {}))
        exact keeps_of_consumes fun a => rfl
      | some id =>
        refine wp.tried (consume_runs own) fun r st h => ?_
        cases r with
        | error exc =>
          have free : SameConsumed (s, {}) st := congrArg consumed h
          exact wp.ite ⟨fun _ => wp.pure (unconsumed free),
            fun _ => wp.raise (unconsumed free)⟩
        | ok intent =>
          obtain ⟨s₁, n₁⟩ := st
          obtain ⟨rfl, consumed⟩ := h
          refine wp_mono (fun _ st outcome _ => ?_) (perform_runs external own consumed)
          exact ⟨id, intent, outcome.callEnd own consumed⟩
    · refine wp_mono (fun _ _ h => unconsumed h) (calm_consumed.perform (fun _ _ => ?_) (s, {}))
      exact keeps_of_consumes fun a => rfl

/-- The end of a finished run that consumed an approval. -/
theorem invoke_callEnd {s' : Store} {tr : List GatewayEvent} {r : Except Exn ToolOutcome}
    (run : Exec (gatewayWorld g.host).reliable (g.invoke call) s tr r s') (consumed : tr.any consumes) :
    ∃ id intent, CallEnd g call
      (s', ⟨tr.any consumes, tr.any disturbs, tr.filterMap recordedIntent, tr.filterMap executorError⟩) id intent := by
  have post := Exec.post (Steps.ghost (f := add) run {}) invoke_runs
  rw [foldl_add] at post
  simpa using post (by simpa using consumed)

/-- **Finality.** A call that consumed its approval leaves the approval and its intent, once
it has returned or raised, in the same terminal state exactly when neither the append of
INTENT_RECORDED nor the encoding of the result failed; every other failure or cancellation,
at whatever await and however many, is recorded. -/
theorem consumed_settles_iff (g : ToolGateway) (call : ToolCall) {s s' : Store} {tr : List GatewayEvent}
    {r : Except Exn ToolOutcome} (run : Exec (gatewayWorld g.host).reliable (g.invoke call) s tr r s')
    (consumed : tr.any consumes) :
    ∃ id intent, call.approvalId = some id ∧ tr.filterMap recordedIntent = intent.toList ∧
      (intent = none ↔ g.outbox = .absent) ∧ (Settled s' id intent ↔ tr.any disturbs = false) := by
  obtain ⟨id, intent, callEnd⟩ := invoke_callEnd run consumed
  exact ⟨id, intent, callEnd.own, callEnd.intents, callEnd.none_iff, callEnd.settled_iff⟩

/-- An approved action of the sample call. -/
def sampleApproval : ApprovalRecord where
  id := "a"
  state := .approved
  actionFingerprint := "0000000000000000000000000000000000000000000000000000000000000000"
  canonicalAction := ""
  nonce := "nonce"
  createdAt := 0
  expiresAt := ApprovalService.maxApprovalTtl

/-- The run of the sample call with that approval, over PostgreSQL. -/
def sampleInvocation (executor : Except Exn Value) (audit : String → Except Exn Unit) :
    List GatewayEvent × Except Exn ToolOutcome × Store :=
  play ((gatewayWorld sampleHost).answerWith 0 (sampleAnswers .externalWrite executor audit))
    ((sampleGateway .postgres).invoke (sampleCall (some "a"))) (empty.putApproval sampleApproval)

theorem sampleInvocation_exec (executor : Except Exn Value) (audit : String → Except Exn Unit) :
    Exec (gatewayWorld sampleHost).reliable ((sampleGateway .postgres).invoke (sampleCall (some "a")))
      (empty.putApproval sampleApproval) (sampleInvocation executor audit).1
      (sampleInvocation executor audit).2.1 (sampleInvocation executor audit).2.2 :=
  play_exec (fun sh s op => World.answerWith_reliable (gatewayWorld_own 0) (sampleAnswers_total _ _ _) sh s op) _ _

/-- The executor times out and the outcome audit is cancelled as well. -/
def timedOutInvocation : List GatewayEvent × Except Exn ToolOutcome × Store :=
  sampleInvocation (.error (.timeout "TimeoutError")) fun event =>
    if event = "INTENT_RECORDED" then .ok () else .error .cancelled

/-- A timeout of the executor, with the outcome audit cancelled as well. -/
theorem consumed_settles_iff_timedOut :
    timedOutInvocation.1.any consumes ∧ timedOutInvocation.1.any disturbs = false ∧
    ∃ id intent, (sampleCall (some "a")).approvalId = some id ∧
      timedOutInvocation.1.filterMap recordedIntent = intent.toList ∧
      (intent = none ↔ (sampleGateway .postgres).outbox = .absent) ∧
      (Settled timedOutInvocation.2.2 id intent ↔ timedOutInvocation.1.any disturbs = false) :=
  ⟨by decide +kernel, by decide +kernel, consumed_settles_iff (sampleGateway .postgres) (sampleCall (some "a"))
    (sampleInvocation_exec _ _) (by decide +kernel)⟩

/-- The append of INTENT_RECORDED fails, and nothing else does. -/
def unrecordedInvocation : List GatewayEvent × Except Exn ToolOutcome × Store :=
  sampleInvocation (.ok .none) fun event =>
    if event = "INTENT_RECORDED" then .error (.other "ConnectionError") else .ok ()

/-- Its approval stays EXECUTING and its intent PREPARED. -/
theorem unrecorded_consumption_unsettled :
    Exec (gatewayWorld sampleHost).reliable ((sampleGateway .postgres).invoke (sampleCall (some "a")))
      (Store.empty.putApproval sampleApproval) unrecordedInvocation.1 (.error (.other "ConnectionError"))
      unrecordedInvocation.2.2 ∧
    unrecordedInvocation.1.any consumes ∧
    (unrecordedInvocation.2.2.approvals "a").map (·.state) = some .executing ∧
    unrecordedInvocation.2.2.intents.map (·.state) = [.prepared] ∧
    ∀ intent, ¬ Settled unrecordedInvocation.2.2 "a" intent := by
  have executing : (unrecordedInvocation.2.2.approvals "a").map (·.state) = some .executing := by decide +kernel
  refine ⟨sampleInvocation_exec _ _, by decide +kernel, executing, by decide +kernel, ?_⟩
  rintro intent ⟨state, terminal, ⟨record, found, hstate⟩, -⟩
  rw [found] at executing
  cases state <;> simp_all [SideEffectState.toApprovalState, SideEffectState.terminal]

end PersonalAssistant
