import PersonalAssistant.Approvals.Prepared

/-!
# The two outboxes side by side

`InMemorySideEffectOutbox` and `PostgresSideEffectOutbox` on the same approvals and intents,
one call at a time and at one clock reading. They check the key, the approval and its expiry
in different orders, and only PostgreSQL finalizes an intent and its approval together.
-/

namespace PersonalAssistant

open Coro Coro.Prog ApprovalService

/-- The clock of a call that reads it. -/
def clockAt (now : Time) : (op : GatewayOp) → Except Exn op.Ans
  | .utcNow => .ok now
  | _ => .error (.other "RuntimeError")

/-- The stores when nothing else runs and every clock reads `now`. -/
def aloneAt (host : Host) (now : Time) : Store → (op : GatewayOp) → Except Exn op.Ans × Store :=
  (gatewayWorld host).answerWith now (clockAt now)

section Alone

variable {host : Host} {now : Time} {s : Store} {id : String} {record : ApprovalRecord} {binding : ApprovalBinding}

theorem evaluate_save (new : ApprovalRecord) (found : s.approvals id = some record) (same : new.id = record.id) :
    evaluate (aloneAt host now) (request (.saveApproval new record.version)) s =
      (.ok { new with version := record.version + 1 }, s.putApproval { new with version := record.version + 1 }) := by
  show s.saveApproval new record.version = _
  have known : s.approvals new.id = some record := by rw [same, s.keyed id record found, found]
  simp [Store.saveApproval, known]

/-- The record `_expire` saves. -/
def ApprovalRecord.lapsed (record : ApprovalRecord) : ApprovalRecord :=
  { record with
    state := .expired, version := record.version + 1, completedAt := some record.expiresAt,
    failureReason := some "approval expired" }

/-- The record that a drifted action leaves. -/
def ApprovalRecord.burnt (record : ApprovalRecord) (now : Time) : ApprovalRecord :=
  { record with
    state := .cancelled, version := record.version + 1, completedAt := some now,
    failureReason := some "approved action changed after preview" }

/-- The record of a consumed approval. -/
def ApprovalRecord.taken (record : ApprovalRecord) (now : Time) : ApprovalRecord :=
  { record with state := .executing, version := record.version + 1, consumedAt := some now }

theorem evaluate_expire (found : s.approvals id = some record) (open_ : record.isExpirable) :
    evaluate (aloneAt host now) (expire record) s = (.ok record.lapsed, s.putApproval record.lapsed) := by
  have allowed : record.state.ensureTransition .expired = .ok () := by
    rcases ApprovalRecord.isExpirable_iff.mp open_ with h | h <;> rw [h] <;> rfl
  rw [expire, if_pos open_, allowed]
  exact evaluate_save { record with
      state := .expired, completedAt := some record.expiresAt, failureReason := some "approval expired" } found rfl

theorem evaluate_get_none (missing : s.approvals id = none) : evaluate (aloneAt host now) (get id none true) s =
      (.error (notFoundError ("approval not found: " ++ id)), s) := by
  refine evaluate_bind_error ?_
  show (s.getApproval id, s) = _
  rw [Store.getApproval, missing]

variable (found : s.approvals id = some record)

include found

theorem evaluate_read :
    evaluate (aloneAt host now) (request (.getApproval id)) s = (.ok record, s) := by
  show (s.getApproval id, s) = _
  rw [Store.getApproval, found]

theorem evaluate_get : evaluate (aloneAt host now) (get id none true) s =
      if record.hasExpired now then (.ok record.lapsed, s.putApproval record.lapsed) else (.ok record, s) := by
  refine (evaluate_bind_ok (evaluate_read found)).trans ?_
  show evaluate _ (if _ then _ else _) _ = _
  by_cases due : record.hasExpired now
  · rw [if_pos ⟨rfl, due⟩, if_pos due]
    exact evaluate_expire found (ApprovalRecord.open_of_hasExpired due)
  · rw [if_neg fun both => due both.2, if_neg due]
    rfl

variable (approved : record.state = .approved)

include approved

theorem evaluate_reject :
    evaluate (aloneAt host now) (reject id none (some "approved action changed after preview")) s =
      (.ok (record.burnt now), s.putApproval (record.burnt now)) := by
  refine (evaluate_bind_ok (evaluate_read found)).trans ?_
  rw [if_neg fun both => both.2 approved, approved]
  exact evaluate_save { record with
      state := .cancelled, completedAt := some now,
      failureReason := some "approved action changed after preview" } found rfl

/-- `consume_for_execution`, run alone on a prepared record. -/
theorem evaluate_consumeForExecution
    (live : ¬ record.hasExpired now) :
    evaluate (aloneAt host now) (consumeForExecution host id binding none) s =
      match canonicalSha256 host binding.envelope with
      | .error e => (.error e, s)
      | .ok presented =>
        match compareDigest record.actionFingerprint presented with
        | .error e => (.error e, s)
        | .ok same =>
          if same = false then
            (.error (.domain .approvalBindingMismatch "target, payload, attachment or extension version changed"),
              s.putApproval (record.burnt now))
          else (.ok (record.taken now), s.putApproval (record.taken now)) := by
  have clock : evaluate (aloneAt host now) (orNow none) s = (.ok now, s) := rfl
  refine (evaluate_bind_ok clock).trans ((evaluate_bind_ok (evaluate_read found)).trans ?_)
  rw [if_neg live, if_neg (not_not.mpr approved)]
  cases canonicalSha256 host binding.envelope with
  | error e => rfl
  | ok presented =>
    simp only []
    show evaluate _ (ofExcept (compareDigest record.actionFingerprint presented) >>= _) _ = _
    cases compareDigest record.actionFingerprint presented with
    | error e => rfl
    | ok same =>
      show evaluate _ (if _ then _ else _) _ = _
      simp only []
      rw [approved]
      split_ifs
      · exact evaluate_bind_ok (evaluate_save { record with
          state := .cancelled, completedAt := some now,
          failureReason := some "approved action changed after preview" } found rfl)
      · exact evaluate_save { record with state := .executing, consumedAt := some now } found rfl

/-- The consumption of an approval for the action it was prepared for. -/
theorem evaluate_consume
    (live : ¬ record.hasExpired now) {text : String}
    (digest : record.actionFingerprint = host.sha256Hex text)
    (hashed : canonicalSha256 host binding.envelope = .ok record.actionFingerprint) :
    evaluate (aloneAt host now) (consumeForExecution host id binding none) s =
      (.ok (record.taken now), s.putApproval (record.taken now)) := by
  have ascii : record.actionFingerprint.toList.all Char.isAscii := digest ▸ sha256Hex_ascii host text
  rw [evaluate_consumeForExecution found approved live, hashed]
  simp only [compareDigest_ascii ascii ascii, decide_true, Bool.true_eq_false, if_false]

end Alone

namespace Store

/-- The store with the lock of the in-memory outbox taken. -/
def lock (s : Store) : Store := { s with locked := true }

/-- The store with that lock free. -/
def unlock (s : Store) : Store := { s with locked := false }

theorem unlock_lock {s : Store} (unlocked : s.locked = false) : s.lock.unlock = s := by
  obtain ⟨approvals, intents, keys, locked, keyed⟩ := s
  obtain rfl : locked = false := unlocked
  rfl

/-- Whether the in-memory outbox has seen the key of an intent. -/
def keyTaken (s : Store) (intent : SideEffectIntent) : Prop := (intent.toolId, intent.idempotencyKey) ∈ s.keys

instance (s : Store) (intent : SideEffectIntent) : Decidable (s.keyTaken intent) :=
  inferInstanceAs (Decidable (_ ∈ s.keys))

/-- What the in-memory outbox does with an intent when nothing else runs. -/
def consumeInMemory (host : Host) (s : Store) (now : Time) (intent : SideEffectIntent) : Except Exn Unit × Store :=
  if s.keyTaken intent then
    (.error (validationError "side-effect intent idempotency key was reused"), s)
  else match s.approvals intent.approvalId with
  | none => (.error (notFoundError ("approval not found: " ++ intent.approvalId)), s)
  | some record =>
    if record.hasExpired now then
      (.error (.domain .approvalExpired ("approval expired: " ++ intent.approvalId)), s.putApproval record.lapsed)
    else if record.state = .expired then
      (.error (.domain .approvalExpired ("approval expired: " ++ intent.approvalId)), s)
    else if record.state ≠ .approved then
      (.error (.domain .approvalState
        ("approval " ++ intent.approvalId ++ " is " ++ record.state.value ++ ", not approved")), s)
    else match compareDigest record.actionFingerprint intent.actionFingerprint with
    | .error e => (.error e, s)
    | .ok same =>
      if same = false ∨ boundToTask host record intent.taskId = false then
        (.error (.domain .approvalBindingMismatch "target, payload, attachment or extension version changed"),
          s.putApproval (record.burnt now))
      else (.ok (), (s.putApproval (record.taken now)).rememberIntent intent)

end Store

section InMemory

variable {host : Host} {now : Time} {s : Store} {intent : SideEffectIntent}

open InMemorySideEffectOutbox

theorem evaluate_keyUsed : evaluate (aloneAt host now) (request (.keyUsed (intent.toolId, intent.idempotencyKey))) s =
    (.ok (decide (s.keyTaken intent)), s) := rfl

/-- The coroutine, run with the lock held, does what the equation says. -/
theorem evaluate_consumeLocked
    (prepared : ∀ record, s.approvals intent.approvalId = some record → record.Prepared host) :
    evaluate (aloneAt host now) (consumeLocked host intent) s = s.consumeInMemory host now intent := by
  refine (evaluate_bind_ok evaluate_keyUsed).trans ?_
  unfold Store.consumeInMemory
  by_cases taken : s.keyTaken intent
  · rw [if_pos (decide_eq_true taken), if_pos taken]
    rfl
  rw [if_neg (by simpa using taken), if_neg taken]
  cases found : s.approvals intent.approvalId with
  | none => exact evaluate_bind_error (evaluate_get_none found)
  | some record =>
    have read : evaluate (aloneAt host now) (get intent.approvalId none true) s = _ := evaluate_get found
    by_cases due : record.hasExpired now
    · rw [if_pos due] at read
      simp only [if_pos due]
      exact evaluate_bind_ok read
    rw [if_neg due] at read
    refine (evaluate_bind_ok read).trans ?_
    simp only [if_neg due]
    by_cases expired : record.state = .expired
    · rw [if_pos expired, if_pos expired]
      rfl
    rw [if_neg expired, if_neg expired]
    by_cases approved : record.state = .approved
    swap
    · rw [if_pos approved, if_pos approved]
      rfl
    rw [if_neg (not_not.mpr approved), if_neg (not_not.mpr approved)]
    cases compared : compareDigest record.actionFingerprint intent.actionFingerprint with
    | error e => rfl
    | ok same =>
      show evaluate _ (if _ then _ else _) _ = _
      simp only []
      by_cases drifted : same = false ∨ Store.boundToTask host record intent.taskId = false
      · rw [if_pos drifted, if_pos drifted]
        exact evaluate_bind_ok (evaluate_reject found approved)
      · rw [if_neg drifted, if_neg drifted]
        obtain ⟨binding, rebuilt, hashed⟩ := (prepared record found).rebuilds
        obtain ⟨text, digest⟩ := (prepared record found).digest
        rw [rebuilt]
        exact evaluate_bind_ok (evaluate_consume found approved due digest hashed)

/-- Under the lock a body sees the store as it is, and leaves it with the lock free. -/
theorem evaluate_withLock {α : Type} {body : GatewayM α} (unlocked : s.locked = false) :
    evaluate (aloneAt host now) (withLock body) s =
      Prod.map id Store.unlock (evaluate (aloneAt host now) body s.lock) := by
  have entered : evaluate (aloneAt host now) (request .acquireLock) s = (.ok (), s.lock) := by
    show (if s.locked then _ else _) = _
    rw [unlocked]
    rfl
  refine (evaluate_bind_ok entered).trans ((evaluate_bind_ok (evaluate_attempt ..)).trans ?_)
  rfl

/-- The lock plays no part in a consumption. -/
theorem Store.consumeInMemory_unlock (s : Store) :
    Prod.map id unlock (s.consumeInMemory host now intent) = s.unlock.consumeInMemory host now intent := by
  unfold consumeInMemory
  by_cases taken : s.keyTaken intent
  · rw [if_pos taken, if_pos (show s.unlock.keyTaken intent from taken)]
    rfl
  rw [if_neg taken, if_neg (show ¬ s.unlock.keyTaken intent from taken)]
  rw [show s.unlock.approvals = s.approvals from rfl]
  cases s.approvals intent.approvalId with
  | none => rfl
  | some record =>
    simp only []
    split_ifs
    · rfl
    · rfl
    · rfl
    · cases compareDigest record.actionFingerprint intent.actionFingerprint with
      | error e => rfl
      | ok same =>
        simp only []
        split_ifs <;> rfl

/-- **What a call of the in-memory outbox does when it runs alone.** -/
theorem evaluate_createInMemory (unlocked : s.locked = false)
    (prepared : ∀ record, s.approvals intent.approvalId = some record → record.Prepared host) :
    evaluate (aloneAt host now) (createWithApprovalConsumption host intent) s =
      if intent.actionFingerprint = "" then
        (.error (validationError "side-effect intent requires the complete action fingerprint"), s)
      else s.consumeInMemory host now intent := by
  unfold createWithApprovalConsumption
  split_ifs
  · rfl
  · have locked : evaluate (aloneAt host now) (consumeLocked host intent) s.lock = _ := evaluate_consumeLocked prepared
    rw [evaluate_withLock unlocked, locked, Store.consumeInMemory_unlock, Store.unlock_lock unlocked]

end InMemory

/-- The class of the exception that a call raised. -/
def errorClass : Except Exn Unit → Option String
  | .ok _ => none
  | .error e => some e.typeName

/-- Two calls left the same approvals and the same set of intents, and ended alike. -/
structure SameOutcome (a b : Except Exn Unit × Store) : Prop where
  approvals : a.2.approvals = b.2.approvals
  intents : ∀ row, row ∈ a.2.intents ↔ row ∈ b.2.intents
  ended : errorClass a.1 = errorClass b.1

theorem SameOutcome.rfl {a : Except Exn Unit × Store} : SameOutcome a a := ⟨.refl _, fun _ => .rfl, .refl _⟩

namespace SameOutcome

variable {kind kind' : DomainKind} {message message' : String} {s t : Store}

theorem not_of_kinds (differ : kind ≠ kind') :
    ¬ SameOutcome (.error (.domain kind message), s) (.error (.domain kind' message'), t) := by
  rintro ⟨_, _, ended⟩
  have same : kind.typeName = kind'.typeName := Option.some.inj ended
  revert same differ
  cases kind <;> cases kind' <;> simp [DomainKind.typeName]

theorem not_of_typeError : ¬ SameOutcome (.error (.domain kind message), s) (.error (.other "TypeError"), t) := by
  rintro ⟨_, _, ended⟩
  have same : kind.typeName = "TypeError" := Option.some.inj ended
  cases kind <;> simp [DomainKind.typeName] at same

theorem not_of_ok {e : Exn} : ¬ SameOutcome (.ok (), s) (.error e, t) := fun same => nomatch same.ended

end SameOutcome

/-- A state that both outboxes can be in: the one in memory is at rest and knows the keys of
its intents, and the approvals were prepared. -/
structure Store.Shared (host : Host) (s : Store) : Prop where
  unlocked : s.locked = false
  keys : ∀ key, key ∈ s.keys ↔ ∃ row ∈ s.intents, (row.toolId, row.idempotencyKey) = key
  prepared : ∀ id record, s.approvals id = some record → record.Prepared host

/-- The approval is given, still valid, and for the action and the task of the intent. -/
structure ApprovalRecord.Redeems (host : Host) (now : Time) (intent : SideEffectIntent) (record : ApprovalRecord) :
    Prop where
  approved : record.state = .approved
  live : now < record.expiresAt
  fingerprint : record.actionFingerprint = intent.actionFingerprint
  bound : Store.boundToTask host record intent.taskId

/-- What the order of the checks does not show in: a used key comes with an approval that could
be consumed, a new one with an approval that is not expired, unless it was approved before,
and with a new intent. -/
structure Ordinary (host : Host) (s : Store) (now : Time) (intent : SideEffectIntent) : Prop where
  reused : s.keyTaken intent → ∃ record, s.approvals intent.approvalId = some record ∧ record.Redeems host now intent
  expiry : ¬ s.keyTaken intent → ∀ record, s.approvals intent.approvalId = some record →
    record.state ≠ .expired ∧ (record.state = .waitingApproval → now < record.expiresAt) ∧
      (record.state = .approved → record.expiresAt ≤ now → intent.actionFingerprint.toList.all Char.isAscii)
  fresh : ¬ s.keyTaken intent → ∀ record, s.approvals intent.approvalId = some record → record.Redeems host now intent →
    ∀ row ∈ s.intents, row.id ≠ intent.id

section Comparison

variable {host : Host} {now : Time} {s : Store} {intent : SideEffectIntent} {record : ApprovalRecord}

/-- The transaction on a prepared record, with the digest of the record as it is. -/
theorem createWithApprovalConsumption_prepared (complete : intent.actionFingerprint ≠ "")
    (found : s.approvals intent.approvalId = some record) (prepared : record.Prepared host) :
    s.createWithApprovalConsumption host now intent =
      if record.state ≠ .approved then
        (.error (.domain .approvalState
          ("approval " ++ intent.approvalId ++ " is " ++ record.state.value ++ ", not approved")), s)
      else match compareDigest record.actionFingerprint intent.actionFingerprint with
      | .error e => (.error e, s)
      | .ok same =>
        if record.expiresAt ≤ now then
          (.error (.domain .approvalExpired ("approval expired: " ++ intent.approvalId)), s.putApproval record.lapsed)
        else if same = false ∨ Store.boundToTask host record intent.taskId = false then
          (.error (.domain .approvalBindingMismatch "target, payload, attachment or extension version changed"),
            s.putApproval (record.burnt now))
        else if s.intents.any fun row => row.id = intent.id ∨
            (row.toolId = intent.toolId ∧ row.idempotencyKey = intent.idempotencyKey) then
          (.error (validationError "side-effect intent idempotency key was reused"), s)
        else
          (.ok (), { s.putApproval (record.taken now) with intents := s.intents ++ [intent] }) := by
  obtain ⟨text, digest⟩ := prepared.digest
  have stripped : strip record.actionFingerprint = record.actionFingerprint := by rw [digest, strip_sha256Hex]
  unfold Store.createWithApprovalConsumption
  rw [if_neg complete]
  simp only [found, stripped]
  by_cases approved : record.state = .approved
  swap
  · rw [if_pos approved, if_pos approved]
  -- the two burns also clear a result that an open record does not have
  have pending := prepared.pending (ApprovalRecord.isExpirable_iff.mpr (.inr approved))
  have lapsed : ({ record with
      state := .expired, version := record.version + 1, completedAt := some record.expiresAt,
      failureReason := some "approval expired", resultReference := none } : ApprovalRecord) = record.lapsed := by
    rw [ApprovalRecord.lapsed, ← pending]
  have burnt : ({ record with
      state := .cancelled, version := record.version + 1, completedAt := some now,
      failureReason := some "approved action changed after preview", resultReference := none } : ApprovalRecord) =
      record.burnt now := by
    rw [ApprovalRecord.burnt, ← pending]
  simp only [lapsed, burnt]
  rfl

/-- The action or the task of the intent is not that of the record. -/
abbrev Drifted (host : Host) (intent : SideEffectIntent) (record : ApprovalRecord) : Prop :=
  decide (record.actionFingerprint = intent.actionFingerprint) = false ∨
    Store.boundToTask host record intent.taskId = false

/-- The table has the id or the key of the intent. -/
abbrev Store.hasIntent (s : Store) (intent : SideEffectIntent) : Bool :=
  s.intents.any fun row => row.id = intent.id ∨
    (row.toolId = intent.toolId ∧ row.idempotencyKey = intent.idempotencyKey)

theorem keyTaken_iff (shared : s.Shared host) : s.keyTaken intent ↔
    ∃ row ∈ s.intents, row.toolId = intent.toolId ∧ row.idempotencyKey = intent.idempotencyKey := by
  refine (shared.keys _).trans ?_
  simp only [Prod.mk.injEq]

theorem ApprovalRecord.Redeems.ascii (redeems : record.Redeems host now intent) (prepared : record.Prepared host) :
    intent.actionFingerprint.toList.all Char.isAscii := by
  obtain ⟨text, digest⟩ := prepared.digest
  rw [← redeems.fingerprint, digest]
  exact sha256Hex_ascii host text

theorem ApprovalRecord.Redeems.not_drifted (redeems : record.Redeems host now intent) :
    ¬ Drifted host intent record := by
  rintro (other | unbound)
  · exact of_decide_eq_false other redeems.fingerprint
  · exact absurd redeems.bound (by simp [unbound])

theorem redeems_of_checks (approved : record.state = .approved) (live : ¬ record.expiresAt ≤ now)
    (bound : ¬ Drifted host intent record) : record.Redeems host now intent := by
  rw [Drifted, not_or, Bool.not_eq_false, Bool.not_eq_false] at bound
  exact ⟨approved, Int.not_le.mp live, of_decide_eq_true bound.1, bound.2⟩

theorem compareDigest_prepared (prepared : record.Prepared host)
    (ascii : intent.actionFingerprint.toList.all Char.isAscii) :
    compareDigest record.actionFingerprint intent.actionFingerprint =
      .ok (decide (record.actionFingerprint = intent.actionFingerprint)) := by
  obtain ⟨text, digest⟩ := prepared.digest
  exact compareDigest_ascii (digest ▸ sha256Hex_ascii host text) ascii

theorem createWithApprovalConsumption_redeems (complete : intent.actionFingerprint ≠ "")
    (found : s.approvals intent.approvalId = some record) (prepared : record.Prepared host)
    (redeems : record.Redeems host now intent)
    (unused : ¬ s.hasIntent intent) :
    s.createWithApprovalConsumption host now intent =
      (.ok (), { s.putApproval (record.taken now) with intents := s.intents ++ [intent] }) := by
  rw [createWithApprovalConsumption_prepared complete found prepared, if_neg (not_not.mpr redeems.approved),
    compareDigest_prepared prepared (redeems.ascii prepared)]
  simp only []
  rw [if_neg (Int.not_le.mpr redeems.live), if_neg redeems.not_drifted, if_neg unused]

/-- What the memory outbox does with an approval that redeems the intent. -/
theorem consumeInMemory_redeems (new : ¬ s.keyTaken intent) (found : s.approvals intent.approvalId = some record)
    (prepared : record.Prepared host) (redeems : record.Redeems host now intent) :
    s.consumeInMemory host now intent = (.ok (), (s.putApproval (record.taken now)).rememberIntent intent) := by
  have live : ¬ record.hasExpired now := by simp [ApprovalRecord.hasExpired, redeems.live]
  have same : compareDigest record.actionFingerprint intent.actionFingerprint = .ok true := by
    rw [compareDigest_prepared prepared (redeems.ascii prepared), decide_eq_true redeems.fingerprint]
  rw [Store.consumeInMemory, if_neg new, found]
  simp only [if_neg live, redeems.approved, reduceCtorEq, if_false, ne_eq, not_true_eq_false, same, redeems.bound,
    Bool.true_eq_false, or_self]

/-- A used key: the memory outbox refuses it at once, the transaction only when everything
else is in order. -/
theorem sameOutcome_taken (shared : s.Shared host) (complete : intent.actionFingerprint ≠ "")
    (taken : s.keyTaken intent) :
    SameOutcome (s.consumeInMemory host now intent) (s.createWithApprovalConsumption host now intent) ↔
      ∃ record, s.approvals intent.approvalId = some record ∧ record.Redeems host now intent := by
  rw [Store.consumeInMemory, if_pos taken]
  cases found : s.approvals intent.approvalId with
  | none =>
    rw [Store.createWithApprovalConsumption, if_neg complete, found]
    refine iff_of_false (SameOutcome.not_of_kinds (by decide)) ?_
    rintro ⟨_, ⟨⟩, _⟩
  | some record =>
    rw [createWithApprovalConsumption_prepared complete found (shared.prepared _ _ found)]
    simp only [Option.some.injEq, exists_eq_left']
    by_cases approved : record.state = .approved
    swap
    · rw [if_pos approved]
      exact iff_of_false (SameOutcome.not_of_kinds (by decide)) fun redeems => approved redeems.approved
    rw [if_neg (not_not.mpr approved)]
    by_cases ascii : intent.actionFingerprint.toList.all Char.isAscii
    swap
    · rw [compareDigest_error ascii]
      exact iff_of_false SameOutcome.not_of_typeError fun redeems => ascii (redeems.ascii (shared.prepared _ _ found))
    rw [compareDigest_prepared (shared.prepared _ _ found) ascii]
    simp only []
    by_cases late : record.expiresAt ≤ now
    · rw [if_pos late]
      exact iff_of_false (SameOutcome.not_of_kinds (by decide)) fun redeems => absurd redeems.live (Int.not_lt.mpr late)
    rw [if_neg late]
    by_cases drifted : Drifted host intent record
    · rw [if_pos drifted]
      exact iff_of_false (SameOutcome.not_of_kinds (by decide)) fun redeems => absurd drifted redeems.not_drifted
    rw [if_neg drifted]
    have known : s.hasIntent intent := by
      obtain ⟨row, mem, same⟩ := (keyTaken_iff shared).mp taken
      exact List.any_eq_true.mpr ⟨row, mem, decide_eq_true (.inr same)⟩
    rw [if_pos known]
    exact iff_of_true SameOutcome.rfl (redeems_of_checks approved late drifted)

/-- A new key: the two outboxes differ where an approval expired without having been approved,
and where the intent has the id of another. -/
theorem sameOutcome_new (shared : s.Shared host) (complete : intent.actionFingerprint ≠ "") (new : ¬ s.keyTaken intent)
    (found : s.approvals intent.approvalId = some record) :
    SameOutcome (s.consumeInMemory host now intent) (s.createWithApprovalConsumption host now intent) ↔
      record.state ≠ .expired ∧ (record.state = .waitingApproval → now < record.expiresAt) ∧
        (record.state = .approved → record.expiresAt ≤ now → intent.actionFingerprint.toList.all Char.isAscii) ∧
        (record.Redeems host now intent → ∀ row ∈ s.intents, row.id ≠ intent.id) := by
  have prepared := shared.prepared _ _ found
  rw [createWithApprovalConsumption_prepared complete found prepared]
  unfold Store.consumeInMemory
  rw [if_neg new]
  simp only [found]
  by_cases approved : record.state = .approved
  swap
  · -- only an approved record gets past the transaction's check of the state
    have unredeemed : ¬ record.Redeems host now intent := fun redeems => approved redeems.approved
    by_cases due : record.hasExpired now
    · rw [if_pos due, if_pos approved]
      refine iff_of_false (SameOutcome.not_of_kinds (by decide)) ?_
      rintro ⟨-, waiting, -⟩
      have state := (ApprovalRecord.isExpirable_iff.mp (ApprovalRecord.open_of_hasExpired due)).resolve_right approved
      simp only [ApprovalRecord.hasExpired, decide_eq_true_eq] at due
      exact absurd (waiting state) (Int.not_lt.mpr due.2)
    rw [if_neg due]
    by_cases expired : record.state = .expired
    · rw [if_pos expired, if_pos approved]
      exact iff_of_false (SameOutcome.not_of_kinds (by decide)) fun all => all.1 expired
    · rw [if_neg expired, if_pos approved, if_pos approved]
      refine iff_of_true SameOutcome.rfl ⟨expired, fun waiting => ?_, fun given => absurd given approved,
        fun redeems => absurd redeems unredeemed⟩
      by_contra late
      exact due (by simp [ApprovalRecord.hasExpired, ApprovalRecord.isExpirable, waiting, Int.not_lt.mp late])
  have unexpired : record.state ≠ .expired := by rw [approved]; decide
  have decided : record.state = .waitingApproval → now < record.expiresAt := by
    rw [approved]
    intro waiting
    cases waiting
  by_cases late : record.expiresAt ≤ now
  · have due : record.hasExpired now := by simp [ApprovalRecord.hasExpired, ApprovalRecord.isExpirable, approved, late]
    rw [if_pos due, if_neg (not_not.mpr approved)]
    by_cases ascii : intent.actionFingerprint.toList.all Char.isAscii
    · rw [compareDigest_prepared prepared ascii]
      simp only [if_pos late]
      exact iff_of_true SameOutcome.rfl ⟨unexpired, decided, fun _ _ => ascii,
        fun redeems => absurd redeems.live (Int.not_lt.mpr late)⟩
    · rw [compareDigest_error ascii]
      exact iff_of_false SameOutcome.not_of_typeError fun all => ascii (all.2.2.1 approved late)
  have live : ¬ record.hasExpired now := by simp [ApprovalRecord.hasExpired, late]
  rw [if_neg live, if_neg unexpired, if_neg (not_not.mpr approved), if_neg (not_not.mpr approved)]
  have valid : record.state = .approved → record.expiresAt ≤ now → intent.actionFingerprint.toList.all Char.isAscii :=
    fun _ past => absurd past late
  by_cases ascii : intent.actionFingerprint.toList.all Char.isAscii
  swap
  · rw [compareDigest_error ascii]
    exact iff_of_true SameOutcome.rfl ⟨unexpired, decided, valid, fun redeems => absurd (redeems.ascii prepared) ascii⟩
  rw [compareDigest_prepared prepared ascii]
  simp only [if_neg late]
  by_cases drifted : Drifted host intent record
  · rw [if_pos drifted, if_pos drifted]
    refine iff_of_true SameOutcome.rfl ⟨unexpired, decided, valid, fun redeems => ?_⟩
    exact absurd drifted (redeems.not_drifted)
  rw [if_neg drifted, if_neg drifted]
  have redeems := redeems_of_checks approved late drifted
  by_cases known : s.hasIntent intent
  · rw [if_pos known]
    refine iff_of_false SameOutcome.not_of_ok ?_
    rintro ⟨-, -, -, fresh⟩
    obtain ⟨row, mem, same⟩ := List.any_eq_true.mp known
    rcases of_decide_eq_true same with id | key
    · exact fresh redeems row mem id
    · exact new ((keyTaken_iff shared).mpr ⟨row, mem, key⟩)
  · rw [if_neg known]
    have fresh : ∀ row ∈ s.intents, row.id ≠ intent.id := fun row mem id =>
      known (List.any_eq_true.mpr ⟨row, mem, decide_eq_true (.inl id)⟩)
    refine iff_of_true ⟨rfl, fun row => ?_, rfl⟩ ⟨unexpired, decided, valid, fun _ => fresh⟩
    have kept : s.intents.filter (·.id ≠ intent.id) = s.intents :=
      List.filter_eq_self.mpr fun row mem => decide_eq_true (fresh row mem)
    show row ∈ s.intents.filter _ ++ [intent] ↔ _
    rw [kept]

/-- **The two outboxes agree on a call exactly where the order of their checks does not show.** -/
theorem outboxes_agree_iff (host : Host) (s : Store) (shared : s.Shared host) (now : Time) (intent : SideEffectIntent) :
    SameOutcome
        (evaluate (aloneAt host now) (InMemorySideEffectOutbox.createWithApprovalConsumption host intent) s)
        (s.createWithApprovalConsumption host now intent) ↔
      intent.actionFingerprint = "" ∨ Ordinary host s now intent := by
  rw [evaluate_createInMemory shared.unlocked (shared.prepared _)]
  by_cases blank : intent.actionFingerprint = ""
  · rw [if_pos blank, Store.createWithApprovalConsumption, if_pos blank]
    exact iff_of_true SameOutcome.rfl (.inl blank)
  rw [if_neg blank, or_iff_right blank]
  by_cases taken : s.keyTaken intent
  · rw [sameOutcome_taken shared blank taken]
    exact ⟨fun redeems => ⟨fun _ => redeems, fun new => absurd taken new, fun new => absurd taken new⟩,
      fun ordinary => ordinary.reused taken⟩
  cases found : s.approvals intent.approvalId with
  | none =>
    rw [Store.createWithApprovalConsumption, Store.consumeInMemory, if_neg blank, if_neg taken, found]
    refine iff_of_true SameOutcome.rfl ⟨fun old => absurd old taken, fun _ record same => ?_, fun _ record same => ?_⟩
    · rw [found] at same
      cases same
    · rw [found] at same
      cases same
  | some record =>
    rw [sameOutcome_new shared blank taken found]
    constructor
    · rintro ⟨unexpired, waiting, ascii, fresh⟩
      refine ⟨fun old => absurd old taken, fun _ other same => ?_, fun _ other same => ?_⟩
      · cases found.symm.trans same
        exact ⟨unexpired, waiting, ascii⟩
      · cases found.symm.trans same
        exact fresh
    · intro ordinary
      obtain ⟨unexpired, waiting, ascii⟩ := ordinary.expiry taken record found
      exact ⟨unexpired, waiting, ascii, ordinary.fresh taken record found⟩

end Comparison

/-! ## Sample stores -/

/-- The binding of the samples. -/
def outboxBinding : ApprovalBinding := ⟨"send", "task", "mail.send", "1", "mail", "1", .none, .none, [], .none⟩

/-- The action of the samples. -/
def outboxAction : Value := outboxBinding.canonical .none .none .none

/-- Its canonical text. -/
@[irreducible] def outboxText : String := (canonicalJson outboxAction).toOption.getD ""

/-- The host that reads it. -/
def outboxHost : Host := .reading outboxAction

/-- An approval of the sample action that expires at time 10. -/
def outboxApproval (state : ApprovalState) : ApprovalRecord where
  id := "a"
  state := state
  actionFingerprint := outboxHost.sha256Hex outboxText
  canonicalAction := outboxText
  nonce := "nonce"
  createdAt := 0
  expiresAt := 10

theorem outboxAction_normal : normalizeJson "$" outboxBinding.envelope = .ok outboxAction := by
  rfl

variable (state : ApprovalState)

theorem outboxApproval_prepared : (outboxApproval state).Prepared outboxHost where
  action := by
    have fixed := normalizeJson_fixed outboxAction_normal "$"
    obtain ⟨text, dumped⟩ := jsonDumps_ok outboxAction (by rfl)
    have encoded : canonicalJson outboxAction = .ok outboxText := by
      have some_ : canonicalJson outboxAction = .ok text := dumped
      rw [outboxText, some_]
      rfl
    refine ⟨outboxBinding, outboxAction, if_neg (by decide), outboxAction_normal, encoded, ?_,
      Host.reading_jsonLoads encoded⟩
    rw [canonicalSha256, encoded]
    rfl
  pending _ := rfl

/-- A store with that approval and nothing else. -/
def outboxStore (state : ApprovalState) : Store := Store.empty.putApproval (outboxApproval state)

theorem outboxStore_shared : (outboxStore state).Shared outboxHost where
  unlocked := rfl
  keys key := by simp [outboxStore, Store.empty]
  prepared id record found := by
    by_cases own : id = "a"
    · subst own
      obtain rfl : outboxApproval state = record :=
        Option.some.inj ((Store.putApproval_self Store.empty (outboxApproval state)).symm.trans found)
      exact outboxApproval_prepared state
    · have other : (outboxStore state).approvals id = none :=
        Store.putApproval_of_ne Store.empty (outboxApproval state) own
      rw [other] at found
      cases found

/-- An intent for it. -/
def outboxIntent : SideEffectIntent where
  id := "i"
  taskId := "task"
  toolId := "mail.send"
  idempotencyKey := "k"
  approvalId := "a"
  canonicalPayloadSha256 := ""
  state := .prepared
  createdAt := 5
  actionFingerprint := outboxHost.sha256Hex outboxText

theorem outboxStore_found : (outboxStore state).approvals outboxIntent.approvalId = some (outboxApproval state) :=
  Store.putApproval_self Store.empty (outboxApproval state)

theorem outboxApproval_redeems : (outboxApproval .approved).Redeems outboxHost 5 outboxIntent :=
  ⟨rfl, by decide, rfl, by decide +kernel⟩

/-- Both outboxes consume an approval in time. -/
theorem outboxes_agree_approved : SameOutcome
      (evaluate (aloneAt outboxHost 5) (InMemorySideEffectOutbox.createWithApprovalConsumption outboxHost outboxIntent)
        (outboxStore .approved))
      ((outboxStore .approved).createWithApprovalConsumption outboxHost 5 outboxIntent) := by
  refine (outboxes_agree_iff outboxHost _ (outboxStore_shared .approved) 5 outboxIntent).mpr (.inr ?_)
  have own : ∀ record, (outboxStore .approved).approvals outboxIntent.approvalId = some record →
      outboxApproval .approved = record := fun record found => Option.some.inj ((outboxStore_found _).symm.trans found)
  refine ⟨fun taken => (by cases taken), fun _ record found => ?_, fun _ _ _ _ row mem => (by cases mem)⟩
  obtain rfl := own record found
  exact ⟨by decide, nofun, fun _ late => absurd late (by decide)⟩

/-- **The two outboxes differ on an approval that expired before it was given**: in memory it
becomes EXPIRED and the call raises `ApprovalExpiredError`, in PostgreSQL it stays as it is and
the call raises `ApprovalStateError`. -/
theorem expired_waiting_differs :
    ∃ (host : Host) (s : Store) (now : Time) (intent : SideEffectIntent), s.Shared host ∧
      ¬ SameOutcome
        (evaluate (aloneAt host now) (InMemorySideEffectOutbox.createWithApprovalConsumption host intent) s)
        (s.createWithApprovalConsumption host now intent) := by
  refine ⟨outboxHost, outboxStore .waitingApproval, 20, outboxIntent, outboxStore_shared _, ?_⟩
  have complete : outboxIntent.actionFingerprint ≠ "" := by decide +kernel
  have new : ¬ (outboxStore .waitingApproval).keyTaken outboxIntent := fun taken => nomatch taken
  rw [evaluate_createInMemory rfl ((outboxStore_shared _).prepared _), if_neg complete,
    sameOutcome_new (outboxStore_shared _) complete new (outboxStore_found _)]
  rintro ⟨-, waiting, -⟩
  exact absurd (waiting rfl) (by decide)

end PersonalAssistant
