import PersonalAssistant.Gateway.Watch

/-!
# The callers follow their monitor

One specification for each coroutine of the approval service and of the gateway, against the
monitor of `Gateway.Watch`. All of them are quiet except the two that consume an approval
and the one that executes.
-/

namespace PersonalAssistant

open Coro Coro.Prog ApprovalRecord List ApprovalService Watch

variable {host : Host} {caller : Caller} {m : Watch}

/-- The coroutine follows the monitor of the caller and changes nothing the monitor keeps. -/
abbrev QuietFor {α : Type} (host : Host) (caller : Caller) (c : GatewayM α) : Prop :=
  Keeps (watch host caller).handler (watch host caller).ok Watch.Quiet c

theorem idle_quiet {op : GatewayOp} (idle : op.idle) : QuietFor host caller (request op) :=
  fun m => follows_idle idle fun _ => Watch.Quiet.refl m

/-- A part that ends well goes on; how it fails is of no interest. -/
theorem follows_then {α β : Type} {c : GatewayM α} {f : α → GatewayM β} {S : α → Watch → Prop} {E : Exn → Watch → Prop}
    {T : Except Exn β → Watch → Prop} (first : (watch host caller).Follows c (either S E) m)
    (rest : ∀ a m', S a m' → (watch host caller).Follows (f a) T m') (raised : ∀ e m', T (.error e) m') :
    (watch host caller).Follows (c >>= f) T m := by
  refine wp.after first fun r m' h => ?_
  cases r with
  | ok a => exact rest a m' h
  | error e => exact raised e m'

namespace ApprovalService

variable {now : Option Time} {id : String} {binding : ApprovalBinding}

theorem orNow_follows {Q : Except Exn Time → Watch → Prop} (h : ∀ a, Q a m) :
    (watch host caller).Follows (orNow now) Q m := by
  cases now with
  | some now => exact wp.pure (h _)
  | none => exact follows_idle rfl h

theorem orNow_follows_bind {α : Type} {f : Time → GatewayM α}
    {Q : Except Exn α → Watch → Prop} (answered : ∀ a, (watch host caller).Follows (f a) Q m)
    (raised : ∀ e, Q (.error e) m) : (watch host caller).Follows (orNow now >>= f) Q m := by
  refine wp.bind (orNow_follows fun a => ?_)
  cases a with
  | ok a => exact answered a
  | error e => exact raised e

/-- Expiring a record that was read: the record after it is no longer open. -/
theorem expire_follows {record : ApprovalRecord} (read : record ∈ m.seen) (open_ : record.isExpirable) :
    (watch host caller).Follows (expire record)
      (either (fun r m' => r.state = .expired ∧ m' = m) fun _ m' => m' = m) m := by
  unfold expire
  rw [Monitor.Follows, if_pos open_]
  refine wp_ofExcept_bind (fun _ _ => ?_) fun _ _ => rfl
  exact follows_save read rfl ⟨⟨rfl, rfl, rfl, rfl, rfl⟩, rfl, .drop open_ (.inl rfl)⟩ (by simp) ⟨rfl, rfl⟩ fun e => rfl

/-- An expired record that was just read is expired, and the caller is told. -/
theorem expire_raise_follows {α : Type} {record : ApprovalRecord} {currentTime : Time} {e : Exn}
    {Q : Except Exn α → Watch → Prop} (due : record.hasExpired currentTime)
    (raised : ∀ e, Q (.error e) { m with seen := record :: m.seen }) :
    (watch host caller).Follows (do let _ ← expire record; raise e) Q { m with seen := record :: m.seen } := by
  refine wp.after (expire_follows mem_cons_self (open_of_hasExpired due)) fun r m' h => ?_
  cases r with
  | ok r => exact wp.raise (h.2 ▸ raised e)
  | error e => exact (show m' = _ from h) ▸ raised e

theorem get_follows {refreshExpiry : Bool} : (watch host caller).Follows (get id now refreshExpiry)
      (either (fun r m' => m.Quiet m' ∧ (r.state = .expired ∨ r ∈ m'.seen ∧ r.id = id)) fun _ m' => m.Quiet m') m := by
  unfold get
  refine wp.bind (follows_read (fun record hid _ => ?_) fun e => Watch.Quiet.refl m)
  rw [either_ok, wp_bind]
  refine orNow_follows fun a => ?_
  have read := Watch.Quiet.read m record
  cases a with
  | error e => exact read
  | ok now =>
    rw [either_ok, wp_ite, wp_pure]
    refine ⟨fun due => ?_, fun _ => ⟨read, .inr ⟨mem_cons_self, hid⟩⟩⟩
    refine wp_mono (fun r m' h => ?_) (expire_follows mem_cons_self (open_of_hasExpired due.2))
    cases r with
    | ok r => exact ⟨h.2 ▸ read, .inl h.1⟩
    | error e => exact (show m' = _ from h) ▸ read

theorem canonicalSha256_digest {v : Value} {fingerprint : String}
    (h : canonicalSha256 host v = .ok fingerprint) : ∃ text, fingerprint = host.sha256Hex text := by
  unfold canonicalSha256 at h
  generalize canonicalJson v = encoded at h
  cases encoded with
  | error e => cases h
  | ok text => exact ⟨text, (Except.ok.inj h).symm⟩

theorem prepare_quiet {ttl : Int} : QuietFor host caller (prepare host binding now ttl) := by
  intro m
  have quiet := Watch.Quiet.refl m
  refine orNow_follows_bind (fun currentTime => ?_) fun _ => quiet
  simp only [Monitor.Follows, wp_ite, wp_raise]
  refine ⟨fun _ => quiet, fun _ => ?_⟩
  refine wp_ofExcept_bind (fun normalized _ => ?_) fun _ _ => quiet
  refine wp_ofExcept_bind (fun encoded _ => ?_) fun _ _ => quiet
  refine follows_idle_bind rfl (fun id => ?_) fun _ => quiet
  refine wp_ofExcept_bind (fun fingerprint hdigest => ?_) fun _ _ => quiet
  refine follows_idle_bind rfl (fun nonce => ?_) fun _ => quiet
  refine wp.bind (Monitor.follows_perform.mpr fun a _ => ⟨⟨rfl, canonicalSha256_digest hdigest⟩, ?_⟩)
  cases a with
  | ok _ => exact wp.pure quiet
  | error e => exact quiet

theorem approve_follows {nonce actorId : String} :
    (watch host (.approve id nonce actorId now)).Follows (approve id nonce actorId now)
      (fun _ m' => m.Quiet m') m := by
  unfold approve
  refine orNow_follows_bind (fun currentTime => ?_) fun _ => Watch.Quiet.refl m
  refine wp.bind (follows_read (fun record hid _ => ?_) fun e => Watch.Quiet.refl m)
  have read := Watch.Quiet.read m record
  simp only [either_ok, wp_ite, wp_raise]
  refine ⟨fun due => ?_, fun _ => ⟨fun _ => read, fun waiting =>
    ⟨fun _ => read, fun _ => ⟨fun _ => read, fun matches_ => ?_⟩⟩⟩⟩
  · exact expire_raise_follows due fun _ => read
  · rw [not_not] at waiting matches_
    refine wp_ofExcept_bind (fun _ _ => ?_) fun _ _ => read
    refine follows_save mem_cons_self rfl
      ⟨⟨rfl, rfl, rfl, rfl, rfl⟩, rfl, .approve waiting rfl ⟨actorId, now, ?_⟩⟩ (by simp) read fun e => read
    rw [hid, matches_]

theorem reject_quiet {reason : Option String} : QuietFor host caller (reject id now reason) := by
  intro m
  unfold reject
  refine wp.bind (follows_read (fun record hid _ => ?_) fun e => Watch.Quiet.refl m)
  have read := Watch.Quiet.read m record
  simp only [either_ok, wp_ite, wp_raise]
  refine ⟨fun _ => read, fun live => ?_⟩
  have open_ : record.isExpirable := by
    rw [isExpirable_iff]
    by_contra closed
    exact live (not_or.mp closed)
  refine wp_ofExcept_bind (fun _ _ => orNow_follows_bind (fun completedAt => ?_) fun _ => read) fun _ _ => read
  exact follows_save mem_cons_self rfl ⟨⟨rfl, rfl, rfl, rfl, rfl⟩, rfl, .drop open_ (.inr rfl)⟩ (by simp) read fun e =>
    read

theorem finish_quiet {target : ApprovalState} {resultReference failureReason : Option String}
    (terminal : target = .succeeded ∨ target = .failed ∨ target = .unknown) :
    QuietFor host caller (finish id target now resultReference failureReason) := by
  intro m
  unfold finish
  refine wp.bind (follows_read (fun record hid _ => ?_) fun e => Watch.Quiet.refl m)
  have read := Watch.Quiet.read m record
  simp only [either_ok, wp_ite, wp_raise]
  refine ⟨fun _ => read, fun executing => ?_⟩
  rw [not_not] at executing
  refine wp_ofExcept_bind (fun _ _ => orNow_follows_bind (fun completedAt => ?_) fun _ => read) fun _ _ => read
  refine follows_save mem_cons_self rfl
    ⟨⟨rfl, rfl, rfl, rfl, rfl⟩, rfl, .finish executing terminal rfl rfl rfl⟩ ?_ read fun e => read
  rcases terminal with rfl | rfl | rfl <;> simp

/-- **Consumption.** A caller without a grant gets one for the approval, under the fingerprint
of the binding it presents, which is also that of every earlier read. -/
theorem consumeForExecution_follows (free : m.grant = none) :
    (watch host caller).Follows (consumeForExecution host id binding now)
      (either
        (fun _ m' => ∃ fingerprint, canonicalSha256 host binding.envelope = .ok fingerprint ∧
          (∀ earlier ∈ m.seen, earlier.id = id → earlier.actionFingerprint = fingerprint) ∧
          m'.grant = some ⟨id, fingerprint⟩ ∧ m'.spent = m.spent)
        fun _ m' => m.Quiet m') m := by
  unfold consumeForExecution
  refine orNow_follows_bind (fun currentTime => ?_) fun _ => Watch.Quiet.refl m
  refine wp.bind (follows_read (fun record hid same => ?_) fun e => Watch.Quiet.refl m)
  have read := Watch.Quiet.read m record
  simp only [either_ok, wp_ite, wp_raise]
  refine ⟨fun due => ?_, fun live => ⟨fun _ => read, fun approved => ?_⟩⟩
  · exact expire_raise_follows due fun _ => read
  · rw [not_not] at approved
    refine wp_ofExcept_bind (fun presented digest => ?_) fun _ _ => read
    refine wp_ofExcept_bind (fun equal compared => wp.ite ⟨fun _ => ?_, fun bound => ?_⟩) fun _ _ => read
    · refine wp_ofExcept_bind (fun _ _ => wp.bind ?_) fun _ _ => read
      exact follows_save mem_cons_self rfl
        ⟨⟨rfl, rfl, rfl, rfl, rfl⟩, rfl, .drop (isExpirable_iff.mpr (.inr approved)) (.inr rfl)⟩
        (by simp) (wp.raise read) fun e => read
    · have bound := compareDigest_true ((Bool.not_eq_false _).mp bound ▸ compared)
      refine wp_ofExcept_bind (fun _ _ => ?_) fun _ _ => read
      refine follows_consume mem_cons_self rfl
        ⟨⟨rfl, rfl, rfl, rfl, rfl⟩, rfl, .consume approved rfl rfl rfl currentTime rfl
          (not_hasExpired_of_approved live approved)⟩ rfl free
        ⟨presented, digest, fun earlier he hi => ?_, ?_, rfl⟩ fun e => read
      · rw [(same earlier he hi).actionFingerprint, bound]
      · rw [hid, bound]

end ApprovalService

/-- Everything that neither consumes nor executes is quiet. -/
theorem calm : Calm (watch host caller).handler (watch host caller).ok Watch.Quiet where
  idle _ h := idle_quiet h
  finish _ _ _ _ _ terminal := finish_quiet terminal
  blind := rfl

namespace InMemorySideEffectOutbox

/-- The caller holds a grant for the approval under the fingerprint, not yet used if it was
not before. -/
def Granted (m m' : Watch) (id fingerprint : String) : Prop :=
  m'.grant = some ⟨id, fingerprint⟩ ∧ m'.spent = m.spent

variable {intent : SideEffectIntent}

/-- The consumption under the lock is granted at most once. -/
theorem consumeLocked_follows (free : m.grant = none) : (watch host caller).Follows (consumeLocked host intent)
      (either (fun _ m' => Granted m m' intent.approvalId intent.actionFingerprint) fun _ _ => True) m := by
  refine follows_idle_bind rfl (fun used => ?_) fun _ => trivial
  simp only [Monitor.Follows, wp_ite, wp_raise]
  refine ⟨fun _ => trivial, fun _ => ?_⟩
  refine follows_then get_follows (fun record m' h => ?_) fun _ _ => trivial
  obtain ⟨quiet, read⟩ := h
  simp only [Monitor.Follows, wp_ite, wp_raise]
  refine ⟨fun _ => trivial, fun open_ => ⟨fun _ => trivial, fun _ => ?_⟩⟩
  refine wp_ofExcept_bind (fun same compared => wp.ite ⟨fun _ => ?_, fun bound => ?_⟩) fun _ _ => trivial
  · refine wp.after (reject_quiet m') fun r m'' _ => ?_
    cases r with
    | ok _ => exact wp.raise trivial
    | error e => trivial
  · obtain ⟨seen, hid⟩ := read.resolve_left open_
    have fingerprint : record.actionFingerprint = intent.actionFingerprint :=
      compareDigest_true ((Bool.not_eq_false _).mp (not_or.mp bound).1 ▸ compared)
    refine wp_ofExcept_bind (fun binding _ => ?_) fun _ _ => trivial
    refine follows_then (consumeForExecution_follows (quiet.grant.trans free)) (fun _ m'' h => ?_) fun _ _ => trivial
    obtain ⟨presented, -, earlier, grant, spent⟩ := h
    rw [← earlier record seen hid, fingerprint] at grant
    refine follows_idle rfl fun a => ?_
    cases a with
    | ok _ => exact ⟨grant, spent.trans quiet.spent⟩
    | error e => trivial

theorem createWithApprovalConsumption_follows (free : m.grant = none) :
    (watch host caller).Follows (createWithApprovalConsumption host intent)
      (either (fun _ m' => Granted m m' intent.approvalId intent.actionFingerprint) fun _ _ => True) m := by
  unfold createWithApprovalConsumption
  simp only [Monitor.Follows, wp_ite, wp_raise]
  refine ⟨fun _ => trivial, fun _ => ?_⟩
  refine follows_idle_bind rfl (fun _ => ?_) fun _ => trivial
  rw [Monitor.Follows, wp_bind, wp_attempt]
  refine wp_mono (fun r m' h => ?_) (consumeLocked_follows free)
  refine follows_idle_bind rfl (fun _ => ?_) fun _ => trivial
  rw [Monitor.Follows, wp_ofExcept]
  exact h

end InMemorySideEffectOutbox

namespace ToolGateway

open InMemorySideEffectOutbox (Granted)

variable {g : ToolGateway} {descriptor : ToolDescriptor} {call : ToolCall} {context : ToolExecutionContext}
  {intent : Option SideEffectIntent}

/-- An admitted call comes with its binding, and nothing was consumed for it. -/
theorem admit_follows : (watch host caller).Follows (g.admitCall call)
    (either (fun admitted m' => m.Quiet m' ∧ approvalBinding admitted.1 call = .ok admitted.2) fun _ _ => True) m := by
  refine follows_idle_bind rfl (fun snapshot => ?_) fun _ => trivial
  refine wp_ofExcept_bind (fun descriptor _ => ?_) fun _ _ => trivial
  refine wp_ofExcept_bind (fun _ _ => ?_) fun _ _ => trivial
  rw [wp_bind]
  refine wp_mono (fun r m' quiet => ?_) (ToolPolicy.check_keeps (idle_quiet rfl) m)
  cases r with
  | error e => trivial
  | ok _ => exact wp_ofExcept_bind (fun binding h => wp.pure ⟨quiet, h⟩) fun _ _ => trivial

variable {binding : ApprovalBinding}

theorem prepareApproval_quiet : QuietFor g.host caller (g.prepareApproval call binding) := by
  refine .bind prepare_quiet fun _ =>
    .bind ?_ fun _ => .done _
  refine .ite (fun _ => ?_) fun _ => .done _
  refine .bind (.attempt (idle_quiet rfl)) fun outcome => ?_
  split <;> exact .done _

theorem idempotencyKey_follows : (watch host caller).Follows (idempotencyKey call)
    (either (fun _ m' => m' = m) fun _ _ => True) m := by
  unfold idempotencyKey
  split
  · exact wp.pure rfl
  · refine follows_idle rfl fun a => ?_
    cases a with
    | ok key => exact rfl
    | error e => trivial

/-- The intent carries the approval of the call and the fingerprint of the binding. -/
theorem sideEffectIntent_follows : (watch g.host caller).Follows (g.sideEffectIntent descriptor call binding)
      (either (fun intent m' => m' = m ∧ intent.approvalId = call.approvalId.getD "" ∧
        canonicalSha256 g.host binding.envelope = .ok intent.actionFingerprint) fun _ _ => True) m := by
  refine follows_idle_bind rfl (fun id => ?_) fun _ => trivial
  refine follows_then idempotencyKey_follows (fun key m' same => ?_) fun _ _ => trivial
  subst same
  refine wp_ofExcept_bind (fun payloadSha256 _ => ?_) fun _ _ => trivial
  refine follows_idle_bind rfl (fun createdAt => ?_) fun _ => trivial
  exact wp_ofExcept_bind (fun fingerprint h => wp.pure ⟨rfl, rfl, h⟩) fun _ _ => trivial

/-- **The grant of a call.** With the approval consumed, the caller holds a grant for it under
the fingerprint of the binding, whichever outbox the gateway has. -/
theorem consume_follows {approvalId : String} (named : call.approvalId = some approvalId) (free : m.grant = none) :
    (watch g.host caller).Follows (g.consume descriptor call binding approvalId)
      (either (fun _ m' => ∃ fingerprint, canonicalSha256 g.host binding.envelope = .ok fingerprint ∧
        Granted m m' approvalId fingerprint) fun _ _ => True) m := by
  unfold consume
  split
  · refine follows_then (consumeForExecution_follows free) (fun _ m' h => ?_) fun _ _ => trivial
    obtain ⟨fingerprint, digest, -, grant⟩ := h
    exact wp.pure ⟨fingerprint, digest, grant⟩
  · refine follows_then sideEffectIntent_follows (fun intent _ h => ?_) fun _ _ => trivial
    obtain ⟨rfl, approval, digest⟩ := h
    refine follows_then (InMemorySideEffectOutbox.createWithApprovalConsumption_follows free) (fun _ _ h => ?_)
      fun _ _ => trivial
    rw [approval, named] at h
    exact wp.pure ⟨_, digest, h⟩
  · refine follows_then sideEffectIntent_follows (fun intent _ h => ?_) fun _ _ => trivial
    obtain ⟨rfl, approval, digest⟩ := h
    refine wp.bind (Monitor.follows_perform.mpr fun a _ => ⟨free, ?_⟩)
    cases a with
    | error e => trivial
    | ok _ =>
      have same : intent.approvalId = approvalId := by rw [approval, named]; rfl
      exact wp.pure ⟨_, digest, by rw [← same]; rfl, rfl⟩

/-- A dispatch is one execution, authorized by the grant in hand. -/
theorem dispatch_follows (authorized : descriptor.risk = .externalWrite →
      ∀ m', m.Quiet m' → m'.Authorizes host caller descriptor call.arguments context) :
    (watch host caller).Follows (g.dispatch descriptor call context) (fun _ _ => True) m := by
  unfold dispatch
  refine wp.after (recheckPolicy_keeps (calm.idle _ rfl) m) fun r m' quiet => ?_
  cases r with
  | error e => trivial
  | ok _ =>
    rw [either_ok, wp_bind]
    refine Monitor.follows_perform.mpr fun a _ => ⟨fun external => authorized external m' quiet, ?_⟩
    cases a with
    | error e => trivial
    | ok raw =>
      refine wp_ofExcept_bind (fun result _ => ?_) fun _ _ => trivial
      exact wp_ofExcept_bind (fun _ _ => wp.pure trivial) fun _ _ => trivial

/-- From the attempt id on: an external call is executed on the grant its consumption gave. -/
theorem perform_follows (authorized : descriptor.risk = .externalWrite → ∃ approvalId binding fingerprint,
      caller = .invoke call ∧ call.approvalId = some approvalId ∧ m.spent = false ∧
      approvalBinding descriptor call = .ok (some binding) ∧
      canonicalSha256 host binding.envelope = .ok fingerprint ∧ m.grant = some ⟨approvalId, fingerprint⟩) :
    (watch host caller).Follows (g.perform descriptor call intent) (fun _ _ => True) m := by
  refine follows_idle_bind rfl (fun attemptId => ?_) fun _ => trivial
  refine wp.after (calm.audit m) fun r m' quiet => ?_
  cases r with
  | error e => trivial
  | ok _ =>
    rw [either_ok, wp_bind, wp_attempt]
    refine wp_mono (fun r m'' _ => ?_) (dispatch_follows fun external m'' quiet' => ?_)
    · cases r with
      | ok result => exact wp_mono (fun _ _ _ => trivial) (calm.conclude m'')
      | error exc => exact wp_mono (fun _ _ _ => trivial) (calm.recover m'')
    · obtain ⟨approvalId, binding, fingerprint, hcaller, named, unspent, hbinding, digest, grant⟩ :=
        authorized external
      have still := quiet.trans quiet'
      exact ⟨call, binding, ⟨approvalId, fingerprint⟩, hcaller, still.grant.trans grant,
        still.spent.trans unspent, named, named, rfl, hbinding, digest⟩

/-- `invoke` asks for an execution only with a grant of its own. -/
theorem invoke_follows (free : m.grant = none) (unspent : m.spent = false) :
    (watch g.host (.invoke call)).Follows (g.invoke call) (fun _ _ => True) m := by
  unfold invoke
  rw [Monitor.Follows, wp_bind, wp_attempt]
  refine wp_mono (fun r m' h => ?_) admit_follows
  cases r with
  | error exc =>
    simp only [either_ok, wp_ite, wp_pure, wp_raise]
    exact ⟨fun _ => trivial, fun _ => trivial⟩
  | ok admitted =>
    obtain ⟨descriptor, binding⟩ := admitted
    obtain ⟨quiet, bound⟩ := h
    simp only [either_ok, wp_ite]
    refine ⟨fun external => ?_, fun internal => perform_follows fun external => absurd external internal⟩
    refine wp_ofExcept_bind (fun envelope present => ?_) fun _ _ => trivial
    cases named : call.approvalId with
    | none => exact wp_mono (fun _ _ _ => trivial) (prepareApproval_quiet m')
    | some approvalId =>
      simp only [wp_bind, wp_attempt]
      refine wp_mono (fun r m'' h => ?_) (consume_follows named (quiet.grant.trans free))
      cases r with
      | error exc =>
        simp only [either_ok, wp_ite, wp_pure, wp_raise]
        exact ⟨fun _ => trivial, fun _ => trivial⟩
      | ok intent =>
        obtain ⟨fingerprint, digest, grant, spent⟩ := h
        have hbinding : binding = some envelope := by
          cases binding with
          | none => cases present
          | some b => exact congrArg some (Except.ok.inj present)
        refine perform_follows fun _ => ⟨approvalId, envelope, fingerprint, rfl, named, ?_, ?_, digest, grant⟩
        · exact spent.trans (quiet.spent.trans unspent)
        · exact hbinding ▸ bound

end ToolGateway

/-- **Every caller follows its monitor**, from a watch without a grant. -/
theorem Caller.run_follows {g : ToolGateway} (caller : Caller) :
    (watch g.host caller).Follows (caller.run g) (fun _ _ => True) {} := by
  have discard {α : Type} {caller : Caller} {c : GatewayM α} {Q : Except Exn α → Watch → Prop}
      (h : (watch g.host caller).Follows c Q {}) :
      (watch g.host caller).Follows (do let _ ← c; return ()) (fun _ _ => True) {} := by
    refine wp.after h fun r _ _ => ?_
    cases r <;> simp
  cases caller with
  | invoke call => exact discard (ToolGateway.invoke_follows rfl rfl)
  | prepare binding now ttl => exact discard (prepare_quiet _)
  | approve id nonce actorId now => exact discard approve_follows
  | reject id now reason => exact discard (reject_quiet _)
  | get id now refreshExpiry => exact discard get_follows

end PersonalAssistant
