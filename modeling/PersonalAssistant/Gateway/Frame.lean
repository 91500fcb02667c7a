import PersonalAssistant.Gateway.Sequential

/-!
# What a call without external effect leaves alone

A call of a tool that is not an external write consumes nothing, but it shares the handlers
of the external ones, and `_mark_definitive_external_failure` does not look at the risk: an
approval id on such a call is finalized whenever the executor reports a definitive failure
and the approval happens to be EXECUTING. Otherwise no approval and no intent changes.
-/

namespace PersonalAssistant

open Coro Coro.Prog ToolGateway ToolPolicy

/-- The executor reported that nothing happened. -/
def reportsFailure : GatewayEvent → Bool
  | ⟨.execute _ _ _, .error e⟩ => e.recordedAs = .failed
  | _ => false

/-- The registry resolved the call to an external tool. -/
def resolvesExternal (call : ToolCall) : GatewayEvent → Bool
  | ⟨.registrySnapshot, .ok snapshot⟩ =>
    match snapshot.resolve call.toolId call.toolVersion with
    | .ok descriptor => descriptor.risk = .externalWrite
    | .error _ => false
  | _ => false

/-- What is kept of the events of a call. -/
structure Report where
  failure : Bool := false
  external : Bool := false

namespace Report

/-- One more event. -/
def add (call : ToolCall) (n : Report) (e : GatewayEvent) : Report :=
  ⟨n.failure || reportsFailure e, n.external || resolvesExternal call e⟩

variable {call : ToolCall} {n : Report}

theorem foldl_add (tr : List GatewayEvent) (n : Report) : tr.foldl (add call) n =
    ⟨n.failure || tr.any reportsFailure, n.external || tr.any (resolvesExternal call)⟩ := by
  induction tr generalizing n with
  | nil => simp
  | cons e tr ih => simp [ih, add, Bool.or_assoc]

theorem add_of_false {e : GatewayEvent} (h : reportsFailure e = false) (h' : resolvesExternal call e = false) :
    n.add call e = n := by
  simp [add, h, h']

theorem passes : Passes (add call) where
  read _ _ _ := add_of_false rfl rfl
  save _ _ _ _ _ := add_of_false rfl rfl
  clock _ _ := add_of_false rfl rfl
  poll _ _ := add_of_false rfl rfl

end Report

/-- No approval record and no intent differs. -/
def Untouched (s s' : Store) : Prop := s'.approvals = s.approvals ∧ s'.intents = s.intents

/-- The approval of the call is being executed. -/
def NamesExecuting (call : ToolCall) (s : Store) : Prop := ∃ id, call.approvalId = some id ∧ Executing s id

variable {g : ToolGateway} {s : Store} {n : Report} {descriptor : ToolDescriptor} {call : ToolCall}
  {context : ToolExecutionContext} {eventType : String} {detail value : Value} {e : Exn}

theorem audit_unreported :
    Runs (gatewayWorld g.host) (Report.add call) (audit descriptor call context eventType detail)
      (fun _ st => st = (s, n)) (s, n) := by
  refine runs_total_bind .utcNow rfl rfl (fun a => Report.passes.clock a n) fun occurredAt => ?_
  exact runs_host rfl fun a _ => congrArg (Prod.mk s) (Report.add_of_false rfl rfl)

/-- The finalization as FAILED of the approval a call names: without an intent it goes by the
state of the approval alone. -/
theorem markDefinitiveExternalFailure_touches {reason : String} :
    Runs (gatewayWorld g.host) (Report.add call) (g.markDefinitiveExternalFailure call reason none)
      (fun _ st => st.2 = n ∧ (Untouched s st.1 ↔ ¬ NamesExecuting call s)) (s, n) := by
  unfold markDefinitiveExternalFailure
  cases own : call.approvalId with
  | none => exact wp.pure ⟨rfl, by simp [NamesExecuting, own], fun _ => ⟨rfl, rfl⟩⟩
  | some id =>
    refine finishTerminalRecording_runs Report.passes (wp_bind_keep ?_ fun _ _ h => wp.pure h)
    by_cases executing : Executing s id
    · refine wp_mono (fun r st h => ?_) (markTerminal_runs Report.passes rfl executing)
      obtain ⟨new, -, rfl, rfl, failed⟩ := h
      refine ⟨rfl, fun untouched => ?_, fun h => absurd ⟨new.id, own, executing⟩ h⟩
      obtain ⟨record, found, hstate⟩ := executing
      have kept := congrFun untouched.1 new.id
      rw [Store.putApproval_self, found] at kept
      rw [Option.some.inj kept, hstate] at failed
      cases failed
    · refine wp_mono (fun r st h => ?_) (markTerminal_refuses Report.passes executing)
      obtain rfl : st = (s, n) := h
      refine ⟨rfl, fun _ => ?_, fun _ => ⟨rfl, rfl⟩⟩
      rintro ⟨id', own', executing'⟩
      rw [own] at own'
      exact executing (Option.some.inj own' ▸ executing')

theorem audit_untouched {α : Type} {result : α} {I : Store × Report → Prop} {st : Store × Report} (h : I st) :
    Runs (gatewayWorld g.host) (Report.add call)
      (audit descriptor call context eventType detail >>= fun _ => pure result)
      (fun _ => I) st := by
  refine wp_bind_keep (wp_mono (fun _ st' hst => ?_) audit_unreported) fun _ _ hst => wp.pure hst
  exact hst ▸ h

/-- **Recovery of an internal call.** Only an exception that stands for FAILED touches the
approval the call names, and only if that one is executing. -/
theorem recover_touches {exc : Exn} (internal : descriptor.risk ≠ .externalWrite) :
    Runs (gatewayWorld g.host) (Report.add call) (g.recover descriptor call context none exc)
      (fun _ st => st.2 = n ∧ (Untouched s st.1 ↔ ¬ (exc.recordedAs = .failed ∧ NamesExecuting call s))) (s, n) := by
  have same : n = n ∧ (Untouched s s ↔ ¬ (SideEffectState.unknown = .failed ∧ NamesExecuting call s)) :=
    ⟨rfl, by simp, fun _ => ⟨rfl, rfl⟩⟩
  cases exc with
  | outcomeUnknown referenceId message =>
    simp only [recover, unknown, internal, false_and, if_false]
    exact audit_untouched same
  | timeout typeName message =>
    simp only [recover, internal, if_false]
    exact audit_untouched same
  | userActionRequired message | extensionUnavailable extensionId message | definitiveToolFailure message retryable =>
    simp only [Exn.recordedAs, true_and]
    exact wp_bind_keep markDefinitiveExternalFailure_touches fun _ _ h => audit_untouched h
  | cancelled =>
    simp only [recover, internal, if_false]
    exact wp.raise same
  | domain kind message | runtime kind message | other typeName =>
    simp only [recover, internal, if_false]
    exact audit_untouched same

theorem Exn.IsEncoding.unknown (encoding : e.IsEncoding) : e.recordedAs = .unknown := by
  rcases encoding with ⟨_, rfl⟩ | ⟨_, rfl⟩ <;> rfl

theorem sanitizeResult_error (h : sanitizeResult value = .error e) : e.recordedAs = .unknown := by
  rcases bind_eq_error h with h | ⟨normalized, -, h⟩
  · exact (normalizeJson_raises _ _ e h).unknown
  rcases bind_eq_error h with h | ⟨encoded, -, h⟩
  · exact (jsonDumps_raises _ e h).1.unknown
  split at h
  · cases h
    rfl
  · cases h

theorem ToolGateway.validateJsonSchema_error {schema : Value}
    (h : g.validateJsonSchema value schema = .error e) : e.recordedAs = .unknown := by
  rcases g.schemaErrors value schema e h with ⟨message, rfl⟩ | ⟨name, rfl⟩ <;> rfl

/-- A dispatch raises an exception that stands for FAILED only when the executor did. -/
theorem dispatch_reports (policy : check descriptor call = pure ()) (fresh : n.failure = false) :
    Runs (gatewayWorld g.host) (Report.add call) (g.dispatch descriptor call context)
      (fun r st => st.1 = s ∧ st.2.external = n.external ∧
        (st.2.failure ↔ ∃ exc, r = .error exc ∧ exc.recordedAs = .failed)) (s, n) := by
  have stopped {e : Exn} (h : e.recordedAs = .unknown) : (s, n).1 = s ∧ (s, n).2.external = n.external ∧
      ((s, n).2.failure ↔ ∃ exc, (.error e : Except Exn Value) = .error exc ∧ exc.recordedAs = .failed) := by
    refine ⟨rfl, rfl, by simp [fresh], ?_⟩
    rintro ⟨_, ⟨⟩, h'⟩
    rw [h] at h'
    cases h'
  have passed : recheckPolicy descriptor call = pure () := by
    unfold recheckPolicy
    rw [policy]
    rfl
  unfold dispatch
  rw [passed]
  refine wp.bind (wp.pure (wp.bind (runs_host rfl fun a _ => ?_)))
  cases a with
  | error e =>
    refine ⟨rfl, by simp [Report.add, resolvesExternal], ?_⟩
    simp [Report.add, reportsFailure, fresh]
  | ok raw =>
    rw [Report.add_of_false rfl rfl]
    refine wp_ofExcept_bind (fun result _ => ?_) fun e h => stopped (sanitizeResult_error h)
    refine wp_ofExcept_bind (fun _ _ => ?_) fun e h => stopped (g.validateJsonSchema_error h)
    exact wp.pure ⟨rfl, rfl, by simp [fresh]⟩

/-- The lines after the second `try` finalize external calls only. -/
theorem conclude_untouched {result : Value} (internal : descriptor.risk ≠ .externalWrite) :
    Runs (gatewayWorld g.host) (Report.add call) (g.conclude descriptor call context none result)
      (fun _ st => st = (s, n)) (s, n) := by
  refine runs_host_bind (.encodeResult result) rfl (fun a => Report.add_of_false rfl rfl) (fun _ => ?_) fun _ => rfl
  refine wp_ofExcept_bind (fun encoded _ => wp_bind_keep ?_ fun _ st h => h ▸ audit_untouched rfl) fun _ _ => rfl
  split
  · rename_i risk own
    exact absurd risk internal
  · exact wp.pure rfl

/-- **An internal call.** It touches the approval it names exactly when the executor reports a
definitive failure while that approval is executing. -/
theorem perform_touches (internal : descriptor.risk ≠ .externalWrite)
    (policy : check descriptor call = pure ()) (fresh : n.failure = false) :
    Runs (gatewayWorld g.host) (Report.add call) (g.perform descriptor call none)
      (fun _ st => st.2.external = n.external ∧
        (Untouched s st.1 ↔ ¬ (st.2.failure ∧ NamesExecuting call s))) (s, n) := by
  have same : Untouched s s ↔ ¬ (n.failure ∧ NamesExecuting call s) := ⟨by simp [fresh], fun _ => ⟨rfl, rfl⟩⟩
  refine runs_total_bind .uuid4 rfl rfl (fun a => Report.add_of_false rfl rfl) fun attemptId => ?_
  refine wp.after audit_unreported fun r st h => ?_
  obtain rfl : st = (s, n) := h
  cases r with
  | error e => exact ⟨rfl, same⟩
  | ok u =>
    refine wp.tried (dispatch_reports policy fresh) fun r st h => ?_
    obtain ⟨s', n'⟩ := st
    obtain ⟨rfl, external, reported⟩ := h
    cases r with
    | error exc =>
      refine wp_mono (fun _ st h => ?_) (recover_touches internal)
      obtain ⟨rfl, touched⟩ := h
      refine ⟨external, touched.trans (not_congr (and_congr_left fun _ => ?_))⟩
      simp [reported]
    | ok result =>
      have unreported : n'.failure = false := by simpa using reported
      refine wp_mono (fun _ st h => ?_) (conclude_untouched internal)
      obtain rfl : st = (s', n') := h
      exact ⟨external, by simp [unreported], fun _ => ⟨rfl, rfl⟩⟩

/-- Without the switch of the external writes, a policy check is a computation. -/
theorem ToolPolicy.check_internal (call : ToolCall) (internal : descriptor.risk ≠ .externalWrite) :
    check descriptor call = pure () ∨ ∃ e, check descriptor call = raise e := by
  simp only [check, internal, if_false]
  split
  · exact .inr ⟨_, rfl⟩
  split
  · exact .inr ⟨_, rfl⟩
  split
  · exact .inr ⟨_, rfl⟩
  · exact .inl rfl

/-- A check that an internal call has passed will pass again. -/
theorem check_repeats : Runs (gatewayWorld g.host) (Report.add call) (check descriptor call)
    (fun r st => st = (s, n) ∧ (r = .ok () → descriptor.risk ≠ .externalWrite →
      check descriptor call = pure ())) (s, n) := by
  by_cases external : descriptor.risk = .externalWrite
  · have kept : Keeps (ghost (Report.add call) (gatewayWorld g.host).reliable) (fun _ _ => True) Eq
        (check descriptor call) := check_keeps fun st =>
      runs_host rfl fun a _ => congrArg (Prod.mk st.1) (Report.add_of_false rfl rfl).symm
    exact wp_mono (fun r st h => ⟨h.symm, fun _ internal => absurd external internal⟩) (kept (s, n))
  · rcases check_internal call external with passed | ⟨e, denied⟩
    · rw [passed]
      exact wp.pure ⟨rfl, fun _ _ => rfl⟩
    · rw [denied]
      exact wp.raise ⟨rfl, nofun⟩

/-- What an admitted call is known to be. -/
structure Admitted (call : ToolCall) (descriptor : ToolDescriptor) (st : Store × Report) : Prop where
  external : st.2.external = decide (descriptor.risk = .externalWrite)
  policy : descriptor.risk ≠ .externalWrite → check descriptor call = pure ()

/-- What the first checks of `invoke` report. -/
theorem admit_reports : Runs (gatewayWorld g.host) (Report.add call) (g.admitCall call)
    (fun r st => st.1 = s ∧ st.2.failure = false ∧ ∀ admitted, r = .ok admitted → Admitted call admitted.1 st)
    (s, {}) := by
  refine wp.bind (runs_host rfl fun a answered => ?_)
  obtain ⟨snapshot, rfl⟩ := answered rfl
  refine wp_ofExcept_bind (fun descriptor resolved => ?_) fun _ _ => ⟨rfl, rfl, nofun⟩
  have external : (Report.add call {} ⟨.registrySnapshot, .ok snapshot⟩) =
      ⟨false, decide (descriptor.risk = .externalWrite)⟩ := by
    simp [Report.add, reportsFailure, resolvesExternal, resolved]
  rw [external]
  refine wp_ofExcept_bind (fun _ _ => ?_) fun _ _ => ⟨rfl, rfl, nofun⟩
  refine wp.after check_repeats fun r st h => ?_
  obtain ⟨rfl, repeats⟩ := h
  cases r with
  | error e => exact ⟨rfl, rfl, nofun⟩
  | ok u =>
    refine wp_ofExcept_bind (fun binding _ => wp.pure ⟨rfl, rfl, ?_⟩) fun _ _ => ⟨rfl, rfl, nofun⟩
    rintro _ ⟨⟩
    exact ⟨rfl, repeats rfl⟩

/-- What a call of `invoke` touches besides its own approval. -/
theorem invoke_touches : Runs (gatewayWorld g.host) (Report.add call) (g.invoke call)
    (fun _ st => st.2.external = false → (Untouched s st.1 ↔ ¬ (st.2.failure ∧ NamesExecuting call s))) (s, {}) := by
  refine wp.tried admit_reports fun r st h => ?_
  obtain ⟨s', n⟩ := st
  obtain ⟨rfl, fresh, admits⟩ := h
  have same : Untouched s' s' ↔ ¬ (n.failure ∧ NamesExecuting call s') :=
    ⟨by rw [show n.failure = false from fresh]; simp, fun _ => ⟨rfl, rfl⟩⟩
  cases r with
  | error exc =>
    exact wp.ite ⟨fun _ => wp.pure fun _ => same, fun _ => wp.raise fun _ => same⟩
  | ok admitted =>
    obtain ⟨external, policy⟩ := admits _ rfl
    refine wp.ite ⟨fun risk => ?_, fun internal => ?_⟩
    · -- an external tool was resolved, and that is not forgotten
      have resolved : n.external = true := by simpa [risk] using external
      refine wp_mono (fun _ st (h : st.2.external = true) internal => ?_)
        (wp_ghost_stable (I := fun n : Report => n.external = true) (fun n e h => by simp [Report.add, h]) _ resolved)
      rw [h] at internal
      cases internal
    · exact wp_mono (fun _ st h _ => h.2) (perform_touches internal (policy internal) fresh)

/-- **Frame.** A call whose tool is not an external write leaves every approval and every
intent as it was, whatever the executor does and wherever a failure strikes, exactly when the
executor did not report a definitive failure while the approval the call names was
executing. -/
theorem internal_untouched_iff (g : ToolGateway) (call : ToolCall) {s s' : Store} {tr : List GatewayEvent}
    {r : Except Exn ToolOutcome} (run : Exec (gatewayWorld g.host).reliable (g.invoke call) s tr r s')
    (internal : tr.any (resolvesExternal call) = false) :
    Untouched s s' ↔ ¬ (tr.any reportsFailure ∧ NamesExecuting call s) := by
  have post := Exec.post (Steps.ghost (f := Report.add call) run {}) invoke_touches
  rw [Report.foldl_add] at post
  simpa using post (by simpa using internal)

/-- The approval of another action, in the middle of its execution. -/
def foreignApproval : ApprovalRecord where
  id := "a"
  state := .executing
  actionFingerprint := "0000000000000000000000000000000000000000000000000000000000000000"
  canonicalAction := ""
  nonce := "nonce"
  createdAt := 0
  expiresAt := ApprovalService.maxApprovalTtl

/-- A read-only call that names it. -/
def readInvocation (executor : Except Exn Value) : List GatewayEvent × Except Exn ToolOutcome × Store :=
  play ((gatewayWorld sampleHost).answerWith 0 (sampleAnswers .read executor fun _ => .ok ()))
    ((sampleGateway .postgres).invoke (sampleCall (some "a"))) (Store.empty.putApproval foreignApproval)

theorem readInvocation_exec (executor : Except Exn Value) :
    Exec (gatewayWorld sampleHost).reliable ((sampleGateway .postgres).invoke (sampleCall (some "a")))
      (Store.empty.putApproval foreignApproval) (readInvocation executor).1 (readInvocation executor).2.1
      (readInvocation executor).2.2 :=
  play_exec (fun sh s op => World.answerWith_reliable (gatewayWorld_own 0) (sampleAnswers_total _ _ _) sh s op) _ _

/-- A timeout of the executor is not a definitive failure. -/
theorem internal_untouched_iff_timedOut :
    (readInvocation (.error (.timeout "TimeoutError"))).1.any (resolvesExternal (sampleCall (some "a"))) = false ∧
    (Untouched (Store.empty.putApproval foreignApproval) (readInvocation (.error (.timeout "TimeoutError"))).2.2 ↔
      ¬ ((readInvocation (.error (.timeout "TimeoutError"))).1.any reportsFailure ∧
        NamesExecuting (sampleCall (some "a")) (Store.empty.putApproval foreignApproval))) :=
  ⟨by decide +kernel, internal_untouched_iff (sampleGateway .postgres) (sampleCall (some "a"))
    (readInvocation_exec _) (by decide +kernel)⟩

/-- A read-only tool fails, and the action that is being executed is recorded as failed. -/
theorem internal_failure_touches :
    Exec (gatewayWorld sampleHost).reliable ((sampleGateway .postgres).invoke (sampleCall (some "a")))
      (Store.empty.putApproval foreignApproval)
      (readInvocation (.error (.definitiveToolFailure "no such page" false))).1
      (readInvocation (.error (.definitiveToolFailure "no such page" false))).2.1
      (readInvocation (.error (.definitiveToolFailure "no such page" false))).2.2 ∧
    (readInvocation (.error (.definitiveToolFailure "no such page" false))).1.any
      (resolvesExternal (sampleCall (some "a"))) = false ∧
    ((Store.empty.putApproval foreignApproval).approvals "a").map (·.state) = some .executing ∧
    ((readInvocation (.error (.definitiveToolFailure "no such page" false))).2.2.approvals "a").map (·.state) =
      some .failed :=
  ⟨readInvocation_exec _, by decide +kernel, by decide +kernel, by decide +kernel⟩

end PersonalAssistant
