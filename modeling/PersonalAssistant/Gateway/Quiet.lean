import PersonalAssistant.Gateway.Invoke

/-!
# The parts of `invoke` that neither consume nor execute

Whatever relation an environment keeps at the plain requests and at `_finish`, the policy
check, the audit, the finalization and every handler of `invoke` keep as well. The parts are
followed once here, for any handler and any preorder on its states.
-/

namespace PersonalAssistant

open Coro Coro.Prog ToolGateway

/-- The requests that neither read nor write an approval record, consume one or execute. -/
def GatewayOp.idle : GatewayOp → Bool
  | createApproval _ | getApproval _ | saveApproval _ _ | createWithApprovalConsumption _
  | execute _ _ _ => false
  | _ => true

/-- An environment that keeps a relation at the idle requests, at `_finish`, and under a
shield as without one. -/
structure Calm {σ : Type} (H : Handler GatewayPort Exn σ) (G : σ → GatewayEvent → Prop) (R : σ → σ → Prop) :
    Prop where
  idle : ∀ op : GatewayOp, op.idle → Keeps H G R (request op)
  finish : ∀ id target now resultReference failureReason,
    target = .succeeded ∨ target = .failed ∨ target = .unknown →
      Keeps H G R (ApprovalService.finish id target now resultReference failureReason)
  blind : (fun _ => H true) = H

variable {σ : Type} {H : Handler GatewayPort Exn σ} {G : σ → GatewayEvent → Prop} {R : σ → σ → Prop}
  [IsPreorder σ R] {descriptor : ToolDescriptor} {call : ToolCall} {g : ToolGateway}

section

variable (h : Keeps H G R (request .externalWritesStopped))

include h

theorem ToolPolicy.check_keeps :
    Keeps H G R (ToolPolicy.check descriptor call) := by
  have done {r : Except Exn Unit} : Keeps H G R (.done r) := .done r
  refine .ite (fun _ => done) fun _ => .ite (fun _ => done) fun _ =>
    .ite (fun _ => done) fun _ => .ite (fun _ => ?_) fun _ => done
  exact .bind h fun stopped => .ite (fun _ => done) fun _ => done

theorem ToolGateway.recheckPolicy_keeps :
    Keeps H G R (recheckPolicy descriptor call) := by
  refine .bind (.attempt (ToolPolicy.check_keeps h)) fun outcome => ?_
  split
  · exact .done _
  · exact .ite (fun _ => .done _) fun _ => .done _

theorem ToolGateway.dispatch_keeps {context : ToolExecutionContext}
    (execute : Keeps H G R (request (.execute descriptor call.arguments context))) :
    Keeps H G R (g.dispatch descriptor call context) := by
  refine .bind (recheckPolicy_keeps h) fun _ => .bind execute fun raw => ?_
  exact .bind (.done _) fun result => .bind (.done _) fun _ => .done _

end

theorem ToolGateway.admit_keeps (registry : Keeps H G R (request .registrySnapshot))
    (h : Keeps H G R (request .externalWritesStopped)) : Keeps H G R (g.admitCall call) := by
  refine .bind registry fun snapshot => .bind (.done _) fun descriptor => ?_
  refine .bind (.done _) fun _ => .bind (ToolPolicy.check_keeps h) fun _ => ?_
  exact .bind (.done _) fun binding => .done _

namespace Calm

variable {g : ToolGateway} {context : ToolExecutionContext} {intent : Option SideEffectIntent}
  (calm : Calm H G R) {terminal : TerminalRecord} {referenceId message approvalId : String}

include calm

omit [IsPreorder σ R] in
theorem markTerminal {id : String} : Keeps H G R (ApprovalService.markTerminal id terminal) := by
  unfold ApprovalService.markTerminal
  split
  · exact calm.finish _ _ _ _ _ (.inl rfl)
  · exact calm.finish _ _ _ _ _ (.inr (.inl rfl))
  · exact calm.finish _ _ _ _ _ (.inr (.inr rfl))

theorem withLock {α : Type} {body : GatewayM α} (h : Keeps H G R body) :
    Keeps H G R (InMemorySideEffectOutbox.withLock body) := by
  refine .bind (calm.idle _ rfl) fun _ => .bind (.attempt h) fun outcome => ?_
  exact .bind (calm.idle _ rfl) fun _ => .done outcome

theorem finalize {intentId : String} : Keeps H G R (InMemorySideEffectOutbox.finalize intentId approvalId terminal) :=
  .bind (calm.withLock (calm.idle _ rfl)) fun _ => .bind calm.markTerminal fun _ => .done _

theorem finalizeExternal : Keeps H G R (g.finalizeExternal approvalId intent terminal) := by
  have recording : Keeps H G R (g.finalizeExternalImpl approvalId intent terminal) := by
    unfold finalizeExternalImpl
    split
    · exact calm.idle _ rfl
    · exact calm.finalize
    · exact .bind calm.markTerminal fun _ => .done _
  refine .bind (.attempt (.shield calm.blind recording)) fun outcome => ?_
  exact .bind (calm.idle _ rfl) fun cancelled => .ite (fun _ => .done _) fun _ => .done _

theorem markUnknownExternal : Keeps H G R (g.markUnknownExternal call referenceId intent) := by
  unfold ToolGateway.markUnknownExternal
  split
  · exact .done _
  · exact calm.finalizeExternal

theorem markDefinitiveExternalFailure {reason : String} :
    Keeps H G R (g.markDefinitiveExternalFailure call reason intent) := by
  unfold ToolGateway.markDefinitiveExternalFailure
  split
  · exact .done _
  · exact calm.finalizeExternal

theorem audit {eventType : String} {detail : Value} : Keeps H G R (audit descriptor call context eventType detail) :=
  .bind (calm.idle _ rfl) fun _ => calm.idle _ rfl

theorem failed {retryable : Bool} : Keeps H G R (failed descriptor call context message retryable) :=
  .bind calm.audit fun _ => .done _

theorem unknown : Keeps H G R (g.unknown descriptor call context referenceId message intent) := by
  refine .bind ?_ fun _ => .bind calm.audit fun _ => .done _
  exact .ite (fun _ => calm.markUnknownExternal) fun _ => .done _

/-- No handler of the second `try` consumes or executes. -/
theorem recover {exc : Exn} : Keeps H G R (g.recover descriptor call context intent exc) := by
  unfold ToolGateway.recover
  split
  · exact calm.unknown
  · exact .ite (fun _ => calm.unknown) fun _ => calm.failed
  · exact .bind calm.markDefinitiveExternalFailure fun _ => .bind calm.audit fun _ => .done _
  · exact .bind calm.markDefinitiveExternalFailure fun _ => .bind calm.audit fun _ => .done _
  · exact .bind calm.markDefinitiveExternalFailure fun _ => calm.failed
  · refine .bind ?_ fun _ => .done _
    exact .ite (fun _ => calm.markUnknownExternal) fun _ => .done _
  · exact .ite (fun _ => calm.unknown) fun _ => calm.failed

theorem conclude {result : Value} : Keeps H G R (g.conclude descriptor call context intent result) := by
  refine .bind (calm.idle _ rfl) fun _ => .bind (.done _) fun encoded =>
    .bind ?_ fun _ => .bind calm.audit fun _ => .done _
  split
  · exact calm.finalizeExternal
  · exact .done _

theorem perform (execute : ∀ arguments context, Keeps H G R (request (.execute descriptor arguments context))) :
    Keeps H G R (g.perform descriptor call intent) := by
  refine .bind (calm.idle _ rfl) fun attemptId => .bind calm.audit fun _ => ?_
  refine .bind (.attempt (dispatch_keeps (calm.idle _ rfl) (execute _ _))) fun outcome => ?_
  split
  · exact calm.conclude
  · exact calm.recover

theorem prepareApproval {binding : ApprovalBinding}
    (create : ∀ record, Keeps H G R (request (.createApproval record))) :
    Keeps H G R (g.prepareApproval call binding) := by
  refine .bind ?_ fun approval => .bind ?_ fun message => .done _
  · refine .bind (calm.idle _ rfl) fun currentTime => .ite (fun _ => .done _) fun _ => ?_
    refine .bind (.done _) fun normalized => .bind (.done _) fun encoded => ?_
    refine .bind (calm.idle _ rfl) fun id => .bind (.done _) fun fingerprint => ?_
    exact .bind (calm.idle _ rfl) fun nonce => .bind (create _) fun _ => .done _
  · refine .ite (fun _ => ?_) fun _ => .done _
    refine .bind (.attempt (calm.idle _ rfl)) fun outcome => ?_
    split <;> exact .done _

end Calm

end PersonalAssistant
