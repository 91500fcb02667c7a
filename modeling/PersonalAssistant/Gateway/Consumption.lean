import PersonalAssistant.Gateway.Sequential

/-!
# The consumption of an approval

What a call that runs alone has when it has consumed its approval, with and without an
outbox, and what is kept of its events: whether it consumed one, the intents it recorded, what
the executor raised, and whether a failure struck at one of the two places where `invoke`
stands outside every `try`.
-/

namespace PersonalAssistant

open Coro

/-- The event consumed an approval. -/
def consumes : GatewayEvent → Bool
  | ⟨.createWithApprovalConsumption _, .ok _⟩ => true
  | ⟨.saveApproval record _, .ok _⟩ => record.state = .executing
  | _ => false

/-- A failure at the append of INTENT_RECORDED or at the encoding of the result. -/
def disturbs : GatewayEvent → Bool
  | ⟨.appendAudit event, .error _⟩ => event.eventType = "INTENT_RECORDED"
  | ⟨.encodeResult _, .error _⟩ => true
  | _ => false

/-- The intent that the event made durable. -/
def recordedIntent : GatewayEvent → Option SideEffectIntent
  | ⟨.createWithApprovalConsumption intent, .ok _⟩ => some intent
  | ⟨.rememberIntent intent, .ok _⟩ => some intent
  | _ => none

/-- What the executor raised. -/
def executorError : GatewayEvent → Option Exn
  | ⟨.execute _ _ _, .error e⟩ => some e
  | _ => none

/-- What is kept of the events of a run. -/
structure Marks where
  consumed : Bool := false
  disturbed : Bool := false
  intents : List SideEffectIntent := []
  raised : List Exn := []

variable {record : ApprovalRecord} {descriptor : ToolDescriptor} {i : SideEffectIntent} {op : GatewayOp} (n : Marks)

namespace Marks

/-- One more event. -/
def add (n : Marks) (e : GatewayEvent) : Marks where
  consumed := n.consumed || consumes e
  disturbed := n.disturbed || disturbs e
  intents := n.intents ++ (recordedIntent e).toList
  raised := n.raised ++ (executorError e).toList

theorem foldl_add (tr : List GatewayEvent) (n : Marks) :
    tr.foldl add n = ⟨n.consumed || tr.any consumes, n.disturbed || tr.any disturbs,
      n.intents ++ tr.filterMap recordedIntent, n.raised ++ tr.filterMap executorError⟩ := by
  induction tr generalizing n with
  | nil => simp
  | cons e tr ih =>
    rw [List.foldl_cons, ih]
    cases h : recordedIntent e <;> cases h' : executorError e <;> simp [add, h, h', Bool.or_assoc]

/-- The requests whose events leave no mark. -/
def plain : GatewayOp → Bool
  | .createWithApprovalConsumption _ | .saveApproval _ _ | .rememberIntent _ | .appendAudit _
  | .encodeResult _ | .execute _ _ _ => false
  | _ => true

attribute [local simp] consumes disturbs recordedIntent executorError

theorem add_plain (op : GatewayOp) (h : plain op) (n : Marks) (a : Except Exn op.Ans) : n.add ⟨op, a⟩ = n := by
  cases op <;> simp_all [plain, add]

theorem add_save (h : record.state ≠ .executing) (n : Marks) (version : Nat)
    (a : Except Exn ApprovalRecord) : n.add ⟨.saveApproval record version, a⟩ = n := by
  cases a <;> simp [add, h]

variable {event : InvocationAuditEvent}

theorem add_audit (h : event.eventType ≠ "INTENT_RECORDED") (n : Marks)
    (a : Except Exn Unit) : n.add ⟨.appendAudit event, a⟩ = n := by
  cases a <;> simp [add, h]

theorem add_recorded (event : InvocationAuditEvent) (u : Unit) : n.add ⟨.appendAudit event, .ok u⟩ = n := by
  simp [add]

theorem add_encoded (result : Value) (u : Unit) : n.add ⟨.encodeResult result, .ok u⟩ = n := by
  simp [add]

theorem add_unrecorded (h : event.eventType = "INTENT_RECORDED") (e : Exn) :
    n.add ⟨.appendAudit event, .error e⟩ = { n with disturbed := true } := by
  simp [add, h]

theorem add_unencoded (result : Value) (e : Exn) :
    n.add ⟨.encodeResult result, .error e⟩ = { n with disturbed := true } := by
  simp [add]

theorem add_executed (descriptor : ToolDescriptor) (arguments : List (String × Value))
    (context : ToolExecutionContext) (raw : Value) : n.add ⟨.execute descriptor arguments context, .ok raw⟩ = n := by
  simp [add]

theorem add_raised (descriptor : ToolDescriptor) (arguments : List (String × Value))
    (context : ToolExecutionContext) (e : Exn) :
    n.add ⟨.execute descriptor arguments context, .error e⟩ = { n with raised := n.raised ++ [e] } := by
  simp [add]

theorem passes : Passes add where
  read _ _ n := add_plain _ rfl n _
  save _ _ _ n h := add_save h n _ _
  clock _ n := add_plain _ rfl n _
  poll _ n := add_plain _ rfl n _

/-- The marks of a consumption, with the intent it recorded. -/
def consume (n : Marks) (intent : Option SideEffectIntent) : Marks :=
  { n with consumed := true, intents := n.intents ++ intent.toList }

end Marks

/-- The runs of a part of the gateway over its own store, with the marks of their events. -/
abbrev Marked {α : Type} (g : ToolGateway) (c : GatewayM α) (Q : Except Exn α → Store × Marks → Prop)
    (st : Store × Marks) : Prop :=
  Runs (gatewayWorld g.host) Marks.add c Q st

variable {g : ToolGateway} {s : Store} {n : Marks} {id : String} {intent : Option SideEffectIntent}

/-- The approval is consumed and its intent, when the gateway has an outbox, is durable and
unfinished. -/
structure Consumed (g : ToolGateway) (s : Store) (id : String) (intent : Option SideEffectIntent) : Prop where
  executing : Executing s id
  unlocked : g.outbox = .inMemory → s.locked = false
  none_iff : intent = none ↔ g.outbox = .absent
  intent : ∀ i, intent = some i →
    ∃ row, s.intent? i.id = some row ∧ row.approvalId = id ∧ row.state = .prepared

theorem withLock_runs {α : Type} {body : GatewayM α} {Q : Except Exn α → Store × Marks → Prop}
    (held : s.locked → Q (.error .cancelled) (s, n))
    (free : s.locked = false → Marked g body (fun r st => Q r ({ st.1 with locked := false }, st.2))
      ({ s with locked := true }, n)) :
    Marked g (InMemorySideEffectOutbox.withLock body) Q (s, n) := by
  refine wp.bind (runs_effect (fun _ => rfl) fun _ => ?_)
  rw [Marks.add_plain .acquireLock rfl]
  cases hlocked : s.locked with
  | true => exact held hlocked
  | false =>
    refine wp.tried (free hlocked) fun r st hr => ?_
    refine wp.bind (runs_effect (fun _ => rfl) fun _ => ?_)
    rw [Marks.add_plain .releaseLock rfl]
    exact wp.ofExcept hr

/-- A request of the host without a mark changes nothing. -/
theorem keeps_plain (h : op.ofHost) (plain : Marks.plain op) :
    Keeps (ghost Marks.add (gatewayWorld g.host).reliable) (fun _ _ => True) Eq (request op) := fun st =>
  runs_host h fun a _ => by rw [Marks.add_plain op plain]

theorem save_runs {version : Nat} (h : record.state ≠ .executing) :
    Marked g (request (.saveApproval record version)) (fun _ st => st.2 = n) (s, n) :=
  runs_effect (fun _ => rfl) fun _ => Marks.add_save h n version _

theorem expire_runs : Marked g (ApprovalService.expire record) (fun _ st => st.2 = n) (s, n) := by
  refine wp.ite ⟨fun _ => ?_, fun _ => wp.pure rfl⟩
  exact wp_ofExcept_bind (fun _ _ => save_runs (by simp)) fun _ _ => rfl

/-- `get` and `reject` consume nothing. -/
theorem get_runs : Marked g (ApprovalService.get id none true) (fun _ st => st.2 = n) (s, n) := by
  refine wp.bind (runs_effect (fun _ => rfl) fun _ => ?_)
  rw [Marks.add_plain (.getApproval id) rfl]
  cases s.getApproval id with
  | error e => rfl
  | ok record =>
    refine runs_total_bind .utcNow rfl rfl (Marks.add_plain .utcNow rfl n) fun currentTime => ?_
    exact wp.ite ⟨fun _ => expire_runs, fun _ => wp.pure rfl⟩

theorem reject_runs {reason : Option String} :
    Marked g (ApprovalService.reject id none reason) (fun _ st => st.2 = n) (s, n) := by
  refine wp.bind (runs_effect (fun _ => rfl) fun _ => ?_)
  rw [Marks.add_plain (.getApproval id) rfl]
  cases s.getApproval id with
  | error e => rfl
  | ok record =>
    refine wp.ite ⟨fun _ => wp.raise rfl, fun _ => ?_⟩
    refine wp_ofExcept_bind (fun _ _ => ?_) fun _ _ => rfl
    refine runs_total_bind .utcNow rfl rfl (Marks.add_plain .utcNow rfl n) fun completedAt => ?_
    exact save_runs (by simp)

variable {binding : ApprovalBinding} {call : ToolCall}

/-- `consume_for_execution` returns only when it has put the approval into EXECUTING. -/
theorem consumeForExecution_runs : Marked g (ApprovalService.consumeForExecution g.host id binding none)
      (either (fun new st => st = (s.putApproval new, { n with consumed := true }) ∧ new.id = id ∧
        new.state = .executing) fun _ st => st.2 = n) (s, n) := by
  refine runs_total_bind .utcNow rfl rfl (Marks.add_plain .utcNow rfl n) fun currentTime => ?_
  refine wp.bind (runs_effect (fun _ => rfl) fun _ => ?_)
  rw [Marks.add_plain (.getApproval id) rfl]
  unfold Store.getApproval
  cases found : s.approvals id with
  | none => rfl
  | some record =>
    obtain rfl : record.id = id := s.keyed id record found
    refine wp.ite ⟨fun _ => ?_, fun _ => wp.ite ⟨fun _ => wp.raise rfl, fun _ => ?_⟩⟩
    · refine wp.after expire_runs fun r st h => ?_
      cases r with
      | ok _ => exact wp.raise h
      | error _ => exact h
    refine wp_ofExcept_bind (fun presented _ => ?_) fun _ _ => rfl
    refine wp_ofExcept_bind (fun same _ => ?_) fun _ _ => rfl
    refine wp.ite ⟨fun _ => ?_, fun _ => ?_⟩
    · refine wp_ofExcept_bind (fun _ _ => ?_) fun _ _ => rfl
      refine wp.after (save_runs (by simp)) fun r st h => ?_
      cases r with
      | ok _ => exact wp.raise h
      | error _ => exact h
    · refine wp_ofExcept_bind (fun _ _ => runs_effect (fun _ => rfl) fun _ => ?_) fun _ _ => rfl
      simp only [Store.saveApproval, found, ne_eq, not_true_eq_false, if_false]
      refine ⟨?_, rfl, rfl⟩
      simp [Marks.add, consumes, disturbs, recordedIntent, executorError]

/-- The in-memory outbox returns only with the approval in EXECUTING and the intent recorded. -/
theorem consumeLocked_runs : Marked g (InMemorySideEffectOutbox.consumeLocked g.host i)
      (either (fun _ st => st.2 = n.consume (some i) ∧ st.1.intent? i.id = some i ∧
        Executing st.1 i.approvalId) fun _ st => st.2 = n)
      (s, n) := by
  refine wp.bind (runs_effect (fun _ => rfl) fun _ => ?_)
  rw [Marks.add_plain (.keyUsed (i.toolId, i.idempotencyKey)) rfl]
  refine wp.ite ⟨fun _ => wp.raise rfl, fun _ => ?_⟩
  refine wp.after get_runs fun r st h => ?_
  obtain ⟨s', n'⟩ := st
  obtain rfl : n' = n := h
  cases r with
  | error e => rfl
  | ok record =>
    refine wp.ite ⟨fun _ => wp.raise rfl, fun _ =>
      wp.ite ⟨fun _ => wp.raise rfl, fun _ => ?_⟩⟩
    refine wp_ofExcept_bind (fun same _ => wp.ite ⟨fun _ => ?_, fun _ => ?_⟩) fun _ _ => rfl
    · refine wp.after reject_runs fun r st h => ?_
      cases r with
      | ok _ => exact wp.raise h
      | error _ => exact h
    refine wp_ofExcept_bind (fun binding _ => ?_) fun _ _ => rfl
    refine wp.after consumeForExecution_runs fun r st h => ?_
    cases r with
    | error e => exact h
    | ok new =>
      obtain ⟨rfl, hid, executing⟩ := h
      refine runs_effect (fun _ => rfl) fun _ => ?_
      refine ⟨?_, ?_, new, ?_, executing⟩
      · simp [Marks.add, Marks.consume, consumes, disturbs, recordedIntent, executorError]
      · exact Store.find?_intent_append fun row hrow => by simpa using (List.mem_filter.mp hrow).2
      · rw [← hid]
        exact Store.putApproval_self s' new

theorem idempotencyKey_runs :
    Marked g (ToolGateway.idempotencyKey call) (fun r st => st = (s, n) ∧ ∃ key, r = .ok key) (s, n) := by
  unfold ToolGateway.idempotencyKey
  split
  · exact wp.pure ⟨rfl, _, rfl⟩
  · refine runs_host rfl fun a answered => ⟨?_, answered rfl⟩
    rw [Marks.add_plain .uuid4 rfl]

theorem sideEffectIntent_runs (own : call.approvalId = some id) :
    Marked g (g.sideEffectIntent descriptor call binding)
      (either (fun i st => st = (s, n) ∧ i.approvalId = id ∧ i.state = .prepared) fun _ st => st.2 = n) (s, n) := by
  refine runs_total_bind .uuid4 rfl rfl (Marks.add_plain .uuid4 rfl n) fun uuid => ?_
  refine wp.after idempotencyKey_runs fun r st h => ?_
  obtain ⟨rfl, key, rfl⟩ := h
  refine wp_ofExcept_bind (fun payloadSha256 _ => ?_) fun _ _ => rfl
  refine runs_total_bind .utcNow rfl rfl (Marks.add_plain .utcNow rfl n) fun createdAt => ?_
  refine wp_ofExcept_bind (fun fingerprint _ => ?_) fun _ _ => rfl
  exact wp.pure ⟨rfl, by rw [own]; rfl, rfl⟩

/-- The PostgreSQL transaction, as far as a single call sees it. -/
theorem transaction_runs : Marked g (request (.createWithApprovalConsumption i))
      (either (fun _ st => st.2 = n.consume (some i) ∧ st.1.intent? i.id = some i ∧
        Executing st.1 i.approvalId) fun _ st => st.2 = n)
      (s, n) := by
  refine runs_effect (fun _ => rfl) fun now => ?_
  generalize hresult : s.createWithApprovalConsumption g.host now i = result
  obtain ⟨a, s'⟩ := result
  cases a with
  | error e => simp [Marks.add, consumes, disturbs, recordedIntent, executorError]
  | ok u =>
    rcases Store.createWithApprovalConsumption_cases hresult.symm with ⟨-, e, he⟩ | h
    · cases he
    obtain ⟨current, new, found, -, step, happrovals, ⟨⟨e, he⟩, -⟩ | ⟨-, executing, -, hintents, fresh⟩⟩ := h
    · cases he
    refine ⟨?_, ?_, new, ?_, executing⟩
    · simp [Marks.add, Marks.consume, consumes, disturbs, recordedIntent, executorError]
    · rw [Store.intent?, hintents]
      exact Store.find?_intent_append fresh
    · rw [happrovals, ← s.keyed _ _ found, step.same.id]
      exact Store.putApproval_self s new

/-- **The consumption.** It returns only with the approval in EXECUTING and, when there is an
outbox, with its intent durable; when it raises, nothing was consumed. -/
theorem consume_runs (own : call.approvalId = some id) : Marked g (g.consume descriptor call binding id)
      (either (fun intent st => st.2 = n.consume intent ∧ Consumed g st.1 id intent) fun _ st => st.2 = n)
      (s, n) := by
  unfold ToolGateway.consume
  cases houtbox : g.outbox with
  | absent =>
    refine wp.after consumeForExecution_runs fun r st h => ?_
    cases r with
    | error e => exact h
    | ok new =>
      obtain ⟨rfl, rfl, executing⟩ := h
      refine wp.pure ⟨by simp [Marks.consume], ⟨new, Store.putApproval_self s new, executing⟩, ?_, ?_, nofun⟩
      · simp [houtbox]
      · simp [houtbox]
  | inMemory =>
    refine wp.after (sideEffectIntent_runs own) fun r st h => ?_
    cases r with
    | error e => exact h
    | ok i =>
      obtain ⟨rfl, hid, prepared⟩ := h
      refine wp.bind ?_
      refine wp.ite ⟨fun _ => wp.raise rfl, fun _ => withLock_runs (fun _ => rfl) fun _ => ?_⟩
      refine wp_mono (fun r st h => ?_) consumeLocked_runs
      cases r with
      | error e => exact h
      | ok u =>
        obtain ⟨hmarks, hintent, executing⟩ := h
        refine wp.pure ⟨hmarks, hid ▸ executing, fun _ => rfl, by simp [houtbox], ?_⟩
        rintro _ ⟨⟩
        exact ⟨i, hintent, hid, prepared⟩
  | postgres =>
    refine wp.after (sideEffectIntent_runs own) fun r st h => ?_
    cases r with
    | error e => exact h
    | ok i =>
      obtain ⟨rfl, hid, prepared⟩ := h
      refine wp.after transaction_runs fun r st h => ?_
      cases r with
      | error e => exact h
      | ok u =>
        obtain ⟨hmarks, hintent, executing⟩ := h
        refine wp.pure ⟨hmarks, hid ▸ executing, by simp [houtbox], by simp [houtbox], ?_⟩
        rintro _ ⟨⟩
        exact ⟨i, hintent, hid, prepared⟩

/-- The two marks agree on whether an approval was consumed. -/
def SameConsumed (a b : Store × Marks) : Prop := b.2.consumed = a.2.consumed

instance : IsPreorder (Store × Marks) SameConsumed where
  refl _ := rfl
  trans _ _ _ h h' := h'.trans h

theorem keeps_of_consumes (h : ∀ a, consumes ⟨op, a⟩ = false) :
    Keeps (ghost Marks.add (gatewayWorld g.host).reliable) (fun _ _ => True) SameConsumed (request op) := by
  rintro ⟨s, n⟩
  refine wp.perform ?_
  rintro a ⟨s', n'⟩ ⟨-, hn⟩
  refine ⟨trivial, ?_⟩
  obtain rfl : n' = n.add ⟨op, a⟩ := hn
  simp [SameConsumed, Marks.add, h]

/-- Whatever `invoke` does besides consuming consumes nothing. -/
theorem calm_consumed : Calm (ghost Marks.add (gatewayWorld g.host).reliable) (fun _ _ => True) SameConsumed where
  idle op h := keeps_of_consumes fun a => by cases op <;> first | rfl | cases h
  finish id target now resultReference failureReason terminal := by
    refine .bind (keeps_of_consumes fun a => rfl) fun record => .ite (fun _ => .done _) fun _ => ?_
    refine .bind (.done _) fun _ => .bind ?_ fun completedAt => keeps_of_consumes fun a => ?_
    · cases now with
      | none => exact keeps_of_consumes fun a => rfl
      | some now => exact .done _
    · cases a with
      | error e => rfl
      | ok saved => rcases terminal with rfl | rfl | rfl <;> rfl
  blind := rfl

end PersonalAssistant
