import PersonalAssistant.Gateway.Callers

/-!
# What a step of a caller does to the approvals

Store calls may fail here before or after their effect. Whatever a caller does that its
monitor allows leaves the approvals alone, creates a fresh record, or makes one lawful change
to one record (`moved`): a saved record was read in the version that the store still has, so
the change that was lawful for the caller is lawful for the store.
-/

namespace PersonalAssistant

open Coro ApprovalRecord Store Watch

/-- The event is a save of the record as approved. -/
def Approves (e : GatewayEvent) (record : ApprovalRecord) : Prop :=
  ∃ saved version, e.op = .saveApproval saved version ∧ saved.id = record.id ∧ saved.state = .approved ∧
    saved.approvedAt = record.approvedAt ∧ saved.approvedBy = record.approvedBy

/-- What one step of a caller does to the approvals and to the caller's grant. -/
inductive Moved (host : Host) (caller : Caller) (before after : Watch) (e : GatewayEvent) (s s' : Store) : Prop where
  | same (approvals : s'.approvals = s.approvals) (grant : after.grant = before.grant)
  | created (record : ApprovalRecord) (fresh : record.Fresh host) (free : s.approvals record.id = none)
      (approvals : s'.approvals = (s.putApproval record).approvals) (grant : after.grant = before.grant)
  | changed (current new : ApprovalRecord) (found : s.approvals current.id = some current)
      (step : Step (caller.Shows current) current new) (approvals : s'.approvals = (s.putApproval new).approvals)
      (evidence : new.state = .approved → Approves e new)
      (grant : after.grant = before.grant ∨
        after.grant = some ⟨new.id, new.actionFingerprint⟩ ∧ current.state = .approved ∧ new.state = .executing)

section Steps

variable {host : Host} {caller : Caller} {m after : Watch} {s s' : Store} {sh : Bool} {a : Except Exn ApprovalRecord}
  {op : GatewayOp} {version : Nat}

/-- What the monitors rely on about the store. -/
structure Consistent (host : Host) (s : Store) (m : Watch) : Prop where
  digests : ∀ id record, s.approvals id = some record → ∃ text, record.actionFingerprint = host.sha256Hex text
  reads : ∀ read ∈ m.seen, ∃ record, s.approvals read.id = some record ∧ read.SameAction record ∧
    read.version ≤ record.version ∧ (read.version = record.version → read = record)

/-- A read that the store still has in its version is what the store has. -/
theorem Consistent.current (con : Consistent host s m) {read stored : ApprovalRecord} (seen : read ∈ m.seen)
    (found : s.approvals read.id = some stored) (version : stored.version = read.version) : read = stored := by
  obtain ⟨record, hrecord, -, -, heq⟩ := con.reads read seen
  rw [found] at hrecord
  cases hrecord
  exact heq version.symm

theorem Watch.after_save_grant {record : ApprovalRecord} :
    (m.after ⟨.saveApproval record version, a⟩).grant = m.grant ∨
      (m.after ⟨.saveApproval record version, a⟩).grant = some ⟨record.id, record.actionFingerprint⟩ ∧
        record.state = .executing := by
  cases a with
  | error e => exact .inl rfl
  | ok saved =>
    by_cases executing : record.state = .executing
    · exact .inr ⟨by simp [after, executing], executing⟩
    · exact .inl (by simp [after, executing])

/-- A save of an approval moves the store in one of the ways the watch knows. -/
theorem moved_save {record : ApprovalRecord}
    (con : Consistent host s m) (h : (gatewayWorld host).faulty sh s (.saveApproval record version) a s')
    (ok : m.Allows host caller ⟨.saveApproval record version, a⟩) :
    Moved host caller m (m.after ⟨.saveApproval record version, a⟩) ⟨.saveApproval record version, a⟩ s s' := by
  obtain ⟨⟨current, read, hv, step⟩, -⟩ := ok
  rcases World.faulty_cases h with ⟨rfl, e, rfl⟩ | ⟨b, r, hb⟩
  · exact .same rfl rfl
  obtain ⟨now, effect⟩ := r.effect
  rcases saveApproval_cases effect with ⟨rfl, e, rfl⟩ | ⟨stored, found, hversion, rfl, rfl⟩
  · have raised : ∃ e, a = .error e := by
      rcases hb with rfl | ⟨e, rfl⟩ <;> exact ⟨_, rfl⟩
    obtain ⟨e, rfl⟩ := raised
    exact .same rfl rfl
  · have hid : current.id = record.id := step.same.id
    have hcurrent : current = stored :=
      con.current read (by rw [hid]; exact found) (hversion.trans hv)
    subst hcurrent
    refine .changed current _ (hid ▸ found) step rfl
      (fun approved => ⟨record, version, rfl, rfl, approved, rfl, rfl⟩) ?_
    rcases after_save_grant (m := m) (a := a) with same | ⟨granted, executing⟩
    · exact .inl same
    · exact .inr ⟨granted, step.change.approved_of_executing executing, executing⟩

variable {e : GatewayEvent} {id : String}

/-- A change made inside a transaction of the outbox, which never approves. -/
theorem moved_transaction {current new : ApprovalRecord}
    (found : s.approvals id = some current) (step : Step False current new)
    (approvals : s'.approvals = (s.putApproval new).approvals)
    (grant : (m.after e).grant = m.grant ∨
      (m.after e).grant = some ⟨new.id, new.actionFingerprint⟩ ∧ current.state = .approved ∧ new.state = .executing) :
    Moved host caller m (m.after e) e s s' :=
  .changed current new ((s.keyed _ _ found).symm ▸ found) (step.mono False.elim) approvals
    (fun approved => (step.change.shown_of_approved approved).elim) grant

/-- A consumption moves the store in one of the ways the watch knows. -/
theorem moved_consume {intent : SideEffectIntent} {a : Except Exn Unit} (con : Consistent host s m)
    (h : (gatewayWorld host).faulty sh s (.createWithApprovalConsumption intent) a s') :
    Moved host caller m (m.after ⟨.createWithApprovalConsumption intent, a⟩)
      ⟨.createWithApprovalConsumption intent, a⟩ s s' := by
  rcases World.faulty_cases h with ⟨rfl, e, rfl⟩ | ⟨b, r, hb⟩
  · exact .same rfl rfl
  obtain ⟨now, effect⟩ := r.effect
  rcases createWithApprovalConsumption_cases effect with
    ⟨rfl, e, rfl⟩ | ⟨current, new, found, approved, step, approvals, outcome⟩
  · obtain ⟨e, rfl⟩ : ∃ e, a = .error e := by
      rcases hb with rfl | ⟨e, rfl⟩ <;> exact ⟨_, rfl⟩
    exact .same rfl rfl
  refine moved_transaction found step approvals ?_
  cases a with
  | error e => exact .inl rfl
  | ok _ =>
    have hok : b = .ok () := by
      rcases hb with rfl | ⟨e, h⟩
      · rfl
      · cases h
    rcases outcome with ⟨⟨e, rfl⟩, -⟩ | ⟨-, executing, fingerprint, -⟩
    · cases hok
    · refine .inr ⟨?_, approved, executing⟩
      obtain ⟨text, digest⟩ := con.digests _ _ found
      have hid : intent.approvalId = new.id := (s.keyed _ _ found).symm.trans step.same.id
      have hfp : intent.actionFingerprint = new.actionFingerprint := by
        rw [← fingerprint, ← step.same.actionFingerprint, digest, strip_sha256Hex]
      show some (Grant.mk intent.approvalId intent.actionFingerprint) = _
      rw [hid, hfp]

/-- **Inversion.** Every step a monitor allows leaves the approvals alone, creates a fresh
record, or makes one lawful change to one record. -/
theorem moved {a : Except Exn op.Ans} (con : Consistent host s m)
    (h : (gatewayWorld host).faulty sh s op a s') (ok : m.Allows host caller ⟨op, a⟩) :
    Moved host caller m (m.after ⟨op, a⟩) ⟨op, a⟩ s s' := by
  cases op with
  | saveApproval record version => exact moved_save con h ok
  | createWithApprovalConsumption intent => exact moved_consume con h
  | createApproval record =>
    rcases World.faulty_cases h with ⟨rfl, -⟩ | ⟨b, r, -⟩
    · exact .same rfl rfl
    obtain ⟨now, effect⟩ := r.effect
    rcases createApproval_cases effect with ⟨rfl, -⟩ | ⟨free, rfl⟩
    · exact .same rfl rfl
    · exact .created record ok free rfl rfl
  | finalize intentId approvalId terminal =>
    rcases World.faulty_cases h with ⟨rfl, -⟩ | ⟨b, r, -⟩
    · exact .same rfl rfl
    obtain ⟨now, effect⟩ := r.effect
    rcases finalize_cases effect with ⟨rfl, -⟩ | ⟨current, new, found, step, approvals, -⟩
    · exact .same rfl rfl
    · exact moved_transaction found step approvals (.inl rfl)
  | finishIntent intentId state receipt =>
    rcases World.faulty_cases h with ⟨rfl, -⟩ | ⟨b, r, -⟩
    · exact .same rfl rfl
    obtain ⟨now, effect⟩ := r.effect
    refine .same ?_ rfl
    have after := congrArg Prod.snd effect
    simp only [finishIntent] at after
    split at after
    · rw [after]
    · rw [after, putIntent_approvals]
  | getApproval id =>
    rcases World.faulty_cases h with ⟨rfl, -⟩ | ⟨b, r, -⟩
    · exact .same rfl (by cases a <;> rfl)
    obtain ⟨now, effect⟩ := r.effect
    cases effect
    exact .same rfl (by cases a <;> rfl)
  | execute descriptor arguments context =>
    have unchanged : s' = s := by
      rcases World.faulty_cases h with ⟨rfl, -⟩ | ⟨b, r, -⟩
      · rfl
      · exact r.effect.choose_spec
    refine .same (by rw [unchanged]) ?_
    simp only [after]
    split <;> rfl
  | acquireLock =>
    rcases World.faulty_cases h with ⟨rfl, -⟩ | ⟨b, r, -⟩
    · exact .same rfl rfl
    obtain ⟨now, effect⟩ := r.effect
    dsimp only [gatewayWorld, GatewayOp.effect] at effect
    split at effect <;> cases effect <;> exact .same rfl rfl
  | _ =>
    rcases World.faulty_cases h with ⟨rfl, -⟩ | ⟨b, r, -⟩
    · exact .same rfl rfl
    obtain ⟨now, effect⟩ := r.effect
    cases effect
    exact .same rfl rfl

/-- The records after a step: as before, fresh, or one lawful change away. -/
theorem Moved.record (h : Moved host caller m after e s s')
    {new : ApprovalRecord} (found : s'.approvals id = some new) :
    s.approvals id = some new ∨ (new.Fresh host ∧ new.id = id) ∨
      ∃ current, s.approvals id = some current ∧ current.id = id ∧ Step (caller.Shows current) current new ∧
        (new.state = .approved → Approves e new) := by
  cases h with
  | same approvals => exact .inl (approvals ▸ found)
  | created record fresh free approvals =>
    rw [approvals] at found
    by_cases hid : id = record.id
    · subst hid
      rw [putApproval_self] at found
      cases found
      exact .inr (.inl ⟨fresh, rfl⟩)
    · rw [putApproval_of_ne _ _ hid] at found
      exact .inl found
  | changed current changed hcurrent step approvals evidence =>
    rw [approvals] at found
    by_cases hid : id = changed.id
    · subst hid
      rw [putApproval_self] at found
      cases found
      exact .inr (.inr ⟨current, step.same.id ▸ hcurrent, step.same.id, step, evidence⟩)
    · rw [putApproval_of_ne _ _ hid] at found
      exact .inl found

/-- A record survives a step, as it was or one lawful change later. -/
theorem Moved.survives (h : Moved host caller m after e s s')
    {current : ApprovalRecord} (found : s.approvals id = some current) :
    ∃ new, s'.approvals id = some new ∧ (new = current ∨ Step (caller.Shows current) current new) := by
  cases h with
  | same approvals => exact ⟨current, approvals ▸ found, .inl rfl⟩
  | created record fresh free approvals =>
    have hid : id ≠ record.id := by
      rintro rfl
      rw [free] at found
      cases found
    exact ⟨current, by rw [approvals, putApproval_of_ne _ _ hid, found], .inl rfl⟩
  | changed before changed hbefore step approvals =>
    by_cases hid : id = changed.id
    · subst hid
      rw [step.same.id, found] at hbefore
      cases hbefore
      exact ⟨changed, by rw [approvals, putApproval_self], .inr step⟩
    · exact ⟨current, by rw [approvals, putApproval_of_ne _ _ hid, found], .inl rfl⟩

/-- A record the monitor holds after a step was held before or was read in this step. -/
theorem Watch.mem_after_seen {a : Except Exn op.Ans} (h : (gatewayWorld host).faulty sh s op a s')
    {read : ApprovalRecord} (hr : read ∈ (m.after ⟨op, a⟩).seen) :
    read ∈ m.seen ∨ s' = s ∧ ∃ id, s.approvals id = some read := by
  cases op with
  | getApproval id =>
    cases a with
    | error e => exact .inl hr
    | ok record =>
      rcases List.mem_cons.mp hr with rfl | hr
      · rcases World.faulty_cases h with ⟨-, e, he⟩ | ⟨b, r, rfl | ⟨e, he⟩⟩
        · cases he
        · obtain ⟨now, effect⟩ := r.effect
          obtain ⟨answer, rfl⟩ := Prod.mk.inj effect
          refine .inr ⟨rfl, id, ?_⟩
          unfold getApproval at answer
          split at answer
          · rename_i found
            cases answer
            exact found
          · cases answer
        · cases he
      · exact .inl hr
  | saveApproval record version =>
    left
    cases a with
    | error e => exact hr
    | ok saved =>
      simp only [after] at hr
      split at hr <;> exact hr
  | createWithApprovalConsumption intent =>
    left
    cases a <;> exact hr
  | execute descriptor arguments context =>
    left
    simp only [after] at hr
    split at hr <;> exact hr
  | _ => exact .inl hr

/-- A grant is kept. -/
theorem Watch.after_grant (ok : m.Allows host caller e) {grant : Grant}
    (h : m.grant = some grant) : (m.after e).grant = some grant := by
  obtain ⟨op, a⟩ := e
  cases op with
  | saveApproval record version =>
    cases a with
    | error e => exact h
    | ok saved =>
      have quiet : record.state ≠ .executing := fun executing => by
        rw [ok.2 executing] at h
        cases h
      simpa [after, quiet] using h
  | createWithApprovalConsumption intent =>
    rw [show m.grant = none from ok] at h
    cases h
  | execute descriptor arguments context =>
    simp only [after]
    split <;> exact h
  | getApproval id => cases a <;> exact h
  | _ => exact h

/-- What was spent stays spent. -/
theorem Watch.after_spent (h : m.spent) : (m.after e).spent := by
  obtain ⟨op, a⟩ := e
  cases op with
  | saveApproval record version =>
    cases a with
    | error e => exact h
    | ok saved =>
      simp only [after]
      split <;> exact h
  | createWithApprovalConsumption intent => cases a <;> exact h
  | execute descriptor arguments context =>
    simp only [after]
    split
    · rfl
    · exact h
  | getApproval id => cases a <;> exact h
  | _ => exact h

end Steps

end PersonalAssistant
