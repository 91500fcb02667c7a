import PersonalAssistant.Approvals.Store
import PersonalAssistant.Coro.World

/-!
# What the gateway awaits

The requests of the approval service, the outbox and the tool gateway to everything outside
them, and the world that answers them: the approval and intent stores. The clock, the random
sources, the administrator's switch, the notifier, the audit log and the executor are not
modelled: they answer anything and may raise anything, a cancellation included. `encodeResult` is the point at which
encoding a result may fail, and
`cancelRequested` asks whether a cancellation arrived while a shielded write was finished.
-/

namespace PersonalAssistant

open Coro

/-- `InvocationAuditEvent`. -/
structure InvocationAuditEvent where
  eventType : String
  attemptId : String
  taskId : String
  toolId : String
  toolVersion : String
  extensionId : String
  risk : String
  occurredAt : Time
  detail : Value

/-- The requests. The first group is answered by the `Store`, the second by the rest of the
host. -/
inductive GatewayOp where
  | createApproval (record : ApprovalRecord)
  | getApproval (id : String)
  | saveApproval (record : ApprovalRecord) (expectedVersion : Nat)
  | createWithApprovalConsumption (intent : SideEffectIntent)
  | finalize (intentId approvalId : String) (terminal : TerminalRecord)
  | acquireLock
  | releaseLock
  | keyUsed (key : String × String)
  | rememberIntent (intent : SideEffectIntent)
  | finishIntent (intentId : String) (state : SideEffectState) (receipt : Option (List (String × Value)))
  | utcNow
  | uuid4
  | tokenUrlsafe
  | registrySnapshot
  | externalWritesStopped
  | notifyPending (taskId risk : String)
  | appendAudit (event : InvocationAuditEvent)
  | execute (descriptor : ToolDescriptor) (arguments : List (String × Value))
      (context : ToolExecutionContext)
  | encodeResult (result : Value)
  | cancelRequested

/-- The type of each answer. -/
@[reducible] def GatewayOp.Ans : GatewayOp → Type
  | createApproval _ => Unit
  | getApproval _ => ApprovalRecord
  | saveApproval _ _ => ApprovalRecord
  | createWithApprovalConsumption _ => Unit
  | finalize _ _ _ => Unit
  | acquireLock => Unit
  | releaseLock => Unit
  | keyUsed _ => Bool
  | rememberIntent _ => Unit
  | finishIntent _ _ _ => Unit
  | utcNow => Time
  | uuid4 => String
  | tokenUrlsafe => String
  | registrySnapshot => RegistrySnapshot
  | externalWritesStopped => Bool
  | notifyPending _ _ => Unit
  | appendAudit _ => Unit
  | execute _ _ _ => Value
  | encodeResult _ => Unit
  | cancelRequested => Bool

/-- The port of the gateway. -/
abbrev GatewayPort : Port := ⟨GatewayOp, GatewayOp.Ans⟩

/-- A coroutine of the gateway. -/
abbrev GatewayM (α : Type) : Type := Prog GatewayPort Exn α

/-- Await one request of the gateway. -/
abbrev request (op : GatewayOp) : GatewayM op.Ans := Prog.perform (P := GatewayPort) op

/-- An answered request of the gateway. -/
abbrev GatewayEvent : Type := Event GatewayPort Exn

/-- What a request does to the store at time `now`, and its answer; `none` for a request that
the store does not answer. A caller that finds the lock taken waits, and only a cancellation
ends its wait before the lock is free. -/
def GatewayOp.effect (host : Host) (now : Time) (s : Store) :
    (op : GatewayOp) → Option (Except Exn op.Ans × Store)
  | createApproval record => some (s.createApproval record)
  | getApproval id => some (s.getApproval id, s)
  | saveApproval record version => some (s.saveApproval record version)
  | createWithApprovalConsumption intent => some (s.createWithApprovalConsumption host now intent)
  | finalize intentId approvalId terminal => some (s.finalize now intentId approvalId terminal)
  | acquireLock => some (if s.locked then (.error .cancelled, s) else (.ok (), { s with locked := true }))
  | releaseLock => some (.ok (), { s with locked := false })
  | keyUsed key => some (.ok (decide (key ∈ s.keys)), s)
  | rememberIntent intent => some (.ok (), s.rememberIntent intent)
  | finishIntent id state receipt => some (s.finishIntent id state receipt)
  | utcNow | uuid4 | tokenUrlsafe | registrySnapshot | externalWritesStopped | notifyPending _ _
  | appendAudit _ | execute _ _ _ | encodeResult _ | cancelRequested => none

/-- The requests that cannot raise: the clock, the random sources, the published snapshot
and the poll for a cancellation that arrived under a shield. -/
def GatewayOp.total : GatewayOp → Bool
  | utcNow | uuid4 | tokenUrlsafe | registrySnapshot | cancelRequested => true
  | _ => false

/-- The stores as the world of the gateway; an effect depends on the time of the store. -/
def gatewayWorld (host : Host) : World GatewayPort Exn Store Time where
  effect now s op := op.effect host now s
  drift _ s _ := s
  total := GatewayOp.total

theorem gatewayWorld_own {host : Host} (now : Time) (s : Store) (op : GatewayOp) (h : op.total) :
    (gatewayWorld host).effect now s op = none := by
  cases op <;> first | rfl | cases h

end PersonalAssistant
