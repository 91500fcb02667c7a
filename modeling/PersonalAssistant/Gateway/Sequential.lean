import PersonalAssistant.Gateway.Quiet

/-!
# One call at a time

The rules for a gateway coroutine that runs alone on stores that do not fail, with a ghost
state folded over its events. A request of the host may be answered with anything; a request
of the store has one answer and one effect.
-/

namespace PersonalAssistant

open Coro ApprovalService

variable {α γ : Type} {host : Host} {f : γ → GatewayEvent → γ} {s : Store} {n : γ}
  {Q : Except Exn α → Store × γ → Prop} {op : GatewayOp}

/-- The requests the store does not answer. -/
def GatewayOp.ofHost : GatewayOp → Bool
  | utcNow | uuid4 | tokenUrlsafe | registrySnapshot | externalWritesStopped | notifyPending _ _
  | appendAudit _ | execute _ _ _ | encodeResult _ | cancelRequested => true
  | _ => false

theorem GatewayOp.inert_ofHost (h : op.ofHost) : (gatewayWorld host).Inert op := by
  intro now s
  cases op <;> first | exact ⟨rfl, rfl⟩ | cases h

/-- A request of the host: any answer, and the store as it is. -/
theorem runs_host (h : op.ofHost) {Q : Except Exn op.Ans → Store × γ → Prop}
    (hQ : ∀ a, (op.total → ∃ x, a = .ok x) → Q a (s, f n ⟨op, a⟩)) : Runs (gatewayWorld host) f (request op) Q (s, n) :=
  runs_inert (op.inert_ofHost h) hQ

/-- A request of the host that cannot raise, then the rest. -/
theorem runs_total_bind (op : GatewayOp) (h : op.ofHost) (total : op.total) (quiet : ∀ a, f n ⟨op, a⟩ = n)
    {k : op.Ans → GatewayM α}
    (hk : ∀ a, Runs (gatewayWorld host) f (k a) Q (s, n)) : Runs (gatewayWorld host) f (request op >>= k) Q (s, n) :=
  runs_inert_total (op.inert_ofHost h) total quiet hk

theorem runs_host_bind (op : GatewayOp) (h : op.ofHost) (quiet : ∀ a, f n ⟨op, a⟩ = n) {k : op.Ans → GatewayM α}
    (hk : ∀ a, Runs (gatewayWorld host) f (k a) Q (s, n)) (raised : ∀ e, Q (.error e) (s, n)) :
    Runs (gatewayWorld host) f (request op >>= k) Q (s, n) :=
  runs_inert_bind (op.inert_ofHost h) quiet hk raised

/-- A ghost state that passes over the events of a finalization. -/
structure Passes (f : γ → GatewayEvent → γ) : Prop where
  read : ∀ id a n, f n ⟨.getApproval id, a⟩ = n
  save : ∀ record version a n, record.state ≠ .executing → f n ⟨.saveApproval record version, a⟩ = n
  clock : ∀ a n, f n ⟨.utcNow, a⟩ = n
  poll : ∀ a n, f n ⟨.cancelRequested, a⟩ = n

/-- What `invoke` records of an external action whose dispatch raised: FAILED for the
exceptions that prove that nothing happened, UNKNOWN for every other. -/
def Exn.recordedAs : Exn → SideEffectState
  | .userActionRequired _ | .extensionUnavailable _ _ | .definitiveToolFailure _ _ => .failed
  | _ => .unknown

/-- The approval is being executed. -/
def Executing (s : Store) (id : String) : Prop := ∃ record, s.approvals id = some record ∧ record.state = .executing

section Finish

variable {id : String} (passes : Passes f) {terminal : TerminalRecord} {target : ApprovalState}

include passes

/-- `_finish` of an executing approval. -/
theorem finish_runs {resultReference failureReason : Option String}
    (executing : Executing s id) (terminal : target = .succeeded ∨ target = .failed ∨ target = .unknown) :
    Runs (gatewayWorld host) f (finish id target none resultReference failureReason)
      (fun r st => ∃ new, r = .ok new ∧ st = (s.putApproval new, n) ∧ new.id = id ∧ new.state = target) (s, n) := by
  obtain ⟨record, found, hstate⟩ := executing
  refine wp.bind (runs_effect (fun _ => rfl) fun now => ?_)
  rw [passes.read]
  simp only [Store.getApproval, found, either_ok]
  rw [if_neg (by simp [hstate])]
  have allowed : record.state.ensureTransition target = .ok () := by
    rw [hstate]
    rcases terminal with rfl | rfl | rfl <;> decide
  refine wp_ok_bind allowed ?_
  refine runs_total_bind .utcNow rfl rfl (fun a => passes.clock a n) fun completedAt => ?_
  refine runs_effect (fun _ => rfl) fun now => ?_
  have hid : record.id = id := s.keyed id record found
  have quiet : target ≠ .executing := by rcases terminal with rfl | rfl | rfl <;> decide
  simp only [Store.saveApproval, hid, found, ne_eq, not_true_eq_false, if_false]
  rw [passes.save _ _ _ _ quiet]
  exact ⟨_, rfl, rfl, rfl, rfl⟩

/-- `_finish` of any other approval raises, and writes nothing. -/
theorem finish_refuses {resultReference failureReason : Option String} (idle : ¬ Executing s id) :
    Runs (gatewayWorld host) f (finish id target none resultReference failureReason) (fun _ st => st = (s, n))
      (s, n) := by
  refine wp.bind (runs_effect (fun _ => rfl) fun now => ?_)
  rw [passes.read]
  unfold Store.getApproval
  cases found : s.approvals id with
  | none => rfl
  | some record => exact wp.ite ⟨fun _ => wp.raise rfl, fun h => absurd ⟨record, found, not_not.mp h⟩ idle⟩

theorem markTerminal_runs (hterminal : terminal.state.terminal) (executing : Executing s id) :
    Runs (gatewayWorld host) f (markTerminal id terminal)
      (fun r st => ∃ new, r = .ok new ∧ st = (s.putApproval new, n) ∧ new.id = id ∧
        new.state = terminal.state.toApprovalState) (s, n) := by
  unfold markTerminal
  cases hstate : terminal.state with
  | succeeded => exact finish_runs passes executing (.inl rfl)
  | failed => exact finish_runs passes executing (.inr (.inl rfl))
  | unknown => exact finish_runs passes executing (.inr (.inr rfl))
  | prepared | executing => rw [hstate] at hterminal; cases hterminal

theorem markTerminal_refuses (idle : ¬ Executing s id) :
    Runs (gatewayWorld host) f (markTerminal id terminal) (fun _ st => st = (s, n)) (s, n) := by
  unfold markTerminal
  split <;> exact finish_refuses passes idle

/-- A started terminal write is finished, whether or not the caller is cancelled meanwhile. -/
theorem finishTerminalRecording_runs {recording : GatewayM Unit} {I : Store × γ → Prop}
    (h : Runs (gatewayWorld host) f recording (fun _ => I) (s, n)) :
    Runs (gatewayWorld host) f (finishTerminalRecording recording) (fun _ => I) (s, n) := by
  refine wp.bind (wp.attempt (runs_shield.mpr (wp_mono (fun r st hst => ?_) h)))
  obtain ⟨s', n'⟩ := st
  refine runs_total_bind .cancelRequested rfl rfl (fun a => passes.poll a n') fun cancelled => ?_
  exact wp.ite ⟨fun _ => wp.raise hst, fun _ => wp.ofExcept hst⟩

end Finish

end PersonalAssistant
