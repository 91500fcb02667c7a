import PersonalAssistant.Gateway.Quiet

/-!
# Watching one caller of the approval service

The callers that share an approval store, and a monitor for each. The monitor keeps the
records the caller read and the grant it obtained: the approval it consumed and has not yet
used. It allows a caller to save only a lawful change of a record it read, and to execute an
external tool only on an unused grant for exactly the call in hand. Every coroutine of the
gateway and of the approval service follows it.
-/

namespace PersonalAssistant

open Coro

/-- The calls that run concurrently on one approval store. -/
inductive Caller where
  | invoke (call : ToolCall)
  | prepare (binding : ApprovalBinding) (now : Option Time) (ttl : Int)
  | approve (id nonce actorId : String) (now : Option Time)
  | reject (id : String) (now : Option Time) (reason : Option String)
  | get (id : String) (now : Option Time) (refreshExpiry : Bool)

/-- The coroutine of a caller. -/
def Caller.run (g : ToolGateway) : Caller → GatewayM Unit
  | invoke call => do let _ ← g.invoke call; return ()
  | prepare binding now ttl => do let _ ← ApprovalService.prepare g.host binding now ttl; return ()
  | approve id nonce actorId now => do let _ ← ApprovalService.approve id nonce actorId now; return ()
  | reject id now reason => do let _ ← ApprovalService.reject id now reason; return ()
  | get id now refreshExpiry => do let _ ← ApprovalService.get id now refreshExpiry; return ()

/-- The caller presents the nonce of the record for approval. -/
def Caller.Shows (caller : Caller) (record : ApprovalRecord) : Prop :=
  ∃ actorId now, caller = .approve record.id record.nonce actorId now

/-- An approval that was consumed, with the fingerprint it was consumed under. -/
structure Grant where
  id : String
  fingerprint : String
  deriving DecidableEq

/-- What the monitor remembers of a caller. -/
structure Watch where
  seen : List ApprovalRecord := []
  grant : Option Grant := none
  spent : Bool := false

/-- The call may be executed now: the caller invokes it, and holds an unused grant for the
approval it names under the fingerprint of its envelope. -/
def Watch.Authorizes (m : Watch) (host : Host) (caller : Caller) (descriptor : ToolDescriptor)
    (arguments : List (String × Value)) (context : ToolExecutionContext) : Prop :=
  ∃ call binding grant, caller = .invoke call ∧ m.grant = some grant ∧ m.spent = false ∧
    context.approvalId = some grant.id ∧ call.approvalId = some grant.id ∧
    arguments = call.arguments ∧ ToolGateway.approvalBinding descriptor call = .ok (some binding) ∧
    canonicalSha256 host binding.envelope = .ok grant.fingerprint

namespace Watch

/-- A record that is read is the one asked for and has the action of the earlier reads of it;
a save that succeeds stores the record under the next version. -/
def Relies (m : Watch) : GatewayEvent → Prop
  | ⟨.getApproval id, .ok record⟩ =>
    record.id = id ∧ ∀ earlier ∈ m.seen, earlier.id = id → earlier.SameAction record
  | ⟨.saveApproval record version, .ok saved⟩ => saved = { record with version := version + 1 }
  | _ => True

/-- The events the monitor allows. -/
def Allows (host : Host) (caller : Caller) (m : Watch) : GatewayEvent → Prop
  | ⟨.createApproval record, _⟩ => record.Fresh host
  | ⟨.saveApproval record version, _⟩ =>
    (∃ current ∈ m.seen, version = current.version ∧
      ApprovalRecord.Step (caller.Shows current) current { record with version := version + 1 }) ∧
    (record.state = .executing → m.grant = none)
  | ⟨.createWithApprovalConsumption _, _⟩ => m.grant = none
  | ⟨.execute descriptor arguments context, _⟩ =>
    descriptor.risk = .externalWrite → m.Authorizes host caller descriptor arguments context
  | _ => True

/-- What the monitor remembers after an event. -/
def after (m : Watch) : GatewayEvent → Watch
  | ⟨.getApproval _, .ok record⟩ => { m with seen := record :: m.seen }
  | ⟨.saveApproval record _, .ok _⟩ =>
    if record.state = .executing then { m with grant := some ⟨record.id, record.actionFingerprint⟩ } else m
  | ⟨.createWithApprovalConsumption intent, .ok _⟩ =>
    { m with grant := some ⟨intent.approvalId, intent.actionFingerprint⟩ }
  | ⟨.execute descriptor _ _, _⟩ => if descriptor.risk = .externalWrite then { m with spent := true } else m
  | _ => m

end Watch

/-- The monitor of a caller. -/
def watch (host : Host) (caller : Caller) : Monitor GatewayPort Exn Watch where
  rely := Watch.Relies
  ok := Watch.Allows host caller
  next := Watch.after

/-- Nothing was consumed or executed in between. -/
structure Watch.Quiet (m m' : Watch) : Prop where
  seen : ∀ record ∈ m.seen, record ∈ m'.seen
  grant : m'.grant = m.grant
  spent : m'.spent = m.spent

theorem Watch.Quiet.refl (m : Watch) : Quiet m m := ⟨fun _ h => h, rfl, rfl⟩

theorem Watch.Quiet.trans {a b c : Watch} (h : Quiet a b) (h' : Quiet b c) : Quiet a c :=
  ⟨fun r hr => h'.seen r (h.seen r hr), h'.grant.trans h.grant, h'.spent.trans h.spent⟩

instance : IsPreorder Watch Watch.Quiet where
  refl := Watch.Quiet.refl
  trans _ _ _ := Watch.Quiet.trans

theorem Watch.Quiet.read (m : Watch) (record : ApprovalRecord) : Quiet m { m with seen := record :: m.seen } :=
  ⟨fun _ h => List.mem_cons_of_mem _ h, rfl, rfl⟩

namespace Watch

variable {host : Host} {caller : Caller} {m : Watch}

variable {op : GatewayOp} {Q : Except Exn ApprovalRecord → Watch → Prop} {version : Nat}

theorem after_idle (idle : op.idle) (a : Except Exn op.Ans) : m.after ⟨op, a⟩ = m := by
  cases op <;> simp_all [GatewayOp.idle, after]

theorem allows_idle (idle : op.idle) (a : Except Exn op.Ans) : m.Allows host caller ⟨op, a⟩ := by
  cases op <;> simp_all [GatewayOp.idle, Allows]

/-- An idle request, whatever its answer, leaves the monitor where it is. -/
theorem follows_idle (idle : op.idle) {Q : Except Exn op.Ans → Watch → Prop}
    (h : ∀ a, Q a m) : (watch host caller).Follows (request op) Q m := by
  refine Monitor.follows_perform.mpr fun a _ => ⟨allows_idle idle a, ?_⟩
  rw [show (watch host caller).next m ⟨op, a⟩ = m from after_idle idle a]
  exact h a

theorem follows_idle_bind {α : Type} (idle : op.idle) {f : op.Ans → GatewayM α}
    {Q : Except Exn α → Watch → Prop} (answered : ∀ a, (watch host caller).Follows (f a) Q m)
    (raised : ∀ e, Q (.error e) m) : (watch host caller).Follows (request op >>= f) Q m := by
  rw [Monitor.Follows, wp_bind]
  refine follows_idle idle fun a => ?_
  cases a with
  | ok a => exact answered a
  | error e => exact raised e

/-- A read: the record asked for, with the action of the earlier reads of it. -/
theorem follows_read {id : String}
    (found : ∀ record, record.id = id → (∀ earlier ∈ m.seen, earlier.id = id → earlier.SameAction record) →
      Q (.ok record) { m with seen := record :: m.seen })
    (raised : ∀ e, Q (.error e) m) :
    (watch host caller).Follows (request (.getApproval id)) Q m := by
  refine Monitor.follows_perform.mpr fun a relied => ⟨trivial, ?_⟩
  cases a with
  | ok record => exact found record relied.1 relied.2
  | error e => exact raised e

theorem follows_save {record current : ApprovalRecord} (read : current ∈ m.seen) (hv : version = current.version)
    (lawful : ApprovalRecord.Step (caller.Shows current) current { record with version := version + 1 })
    (quiet : record.state ≠ .executing) (saved : Q (.ok { record with version := version + 1 }) m)
    (raised : ∀ e, Q (.error e) m) :
    (watch host caller).Follows (request (.saveApproval record version)) Q m := by
  refine Monitor.follows_perform.mpr fun a relied => ⟨⟨⟨current, read, hv, lawful⟩, fun h => absurd h quiet⟩, ?_⟩
  cases a with
  | ok after =>
    rw [show after = { record with version := version + 1 } from relied]
    simpa [watch, Watch.after, quiet] using saved
  | error e => exact raised e

/-- A save that consumes an approval for a caller without a grant. -/
theorem follows_consume {record current : ApprovalRecord} (read : current ∈ m.seen) (hv : version = current.version)
    (lawful : ApprovalRecord.Step (caller.Shows current) current { record with version := version + 1 })
    (executing : record.state = .executing) (free : m.grant = none)
    (saved : Q (.ok { record with version := version + 1 })
      { m with grant := some ⟨record.id, record.actionFingerprint⟩ })
    (raised : ∀ e, Q (.error e) m) :
    (watch host caller).Follows (request (.saveApproval record version)) Q m := by
  refine Monitor.follows_perform.mpr fun a relied => ⟨⟨⟨current, read, hv, lawful⟩, fun _ => free⟩, ?_⟩
  cases a with
  | ok after =>
    rw [show after = { record with version := version + 1 } from relied]
    simpa [watch, Watch.after, executing] using saved
  | error e => exact raised e

end Watch

end PersonalAssistant
