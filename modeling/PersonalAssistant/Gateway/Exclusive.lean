import PersonalAssistant.Gateway.Moves

/-!
# An approval is executed at most once, and as it was approved

Any number of callers run on one approval store that starts empty, in any interleaving, with
any clock and executor, and with store calls that may fail before or after their effect.
`Sound` ties the store and the events to what the callers' monitors remember; every step
keeps it.
-/

namespace PersonalAssistant

open Coro ApprovalRecord Function List Store

/-- The event executes an external tool under the approval. -/
def executes (id : String) : GatewayEvent → Bool
  | ⟨.execute descriptor _ context, _⟩ => descriptor.risk = .externalWrite ∧ context.approvalId = some id
  | _ => false

variable {ι : Type} {host : Host} {callers : ι → Caller} {s s' : Store} {m : ι → Watch}
  {tr : List (ι × GatewayEvent)} {record : ApprovalRecord}

/-- The approval was moved to APPROVED by a caller of `approve` who showed its nonce: the
record still has the time and the person of that save. -/
def ApprovedBy (callers : ι → Caller) (tr : List (ι × GatewayEvent)) (record : ApprovalRecord) : Prop :=
  ∃ j e, (callers j).Shows record ∧ (j, e) ∈ tr ∧ Approves e record

theorem ApprovedBy.mono {tr' : List (ι × GatewayEvent)}
    (h : ApprovedBy callers tr record) (more : ∀ entry ∈ tr, entry ∈ tr') : ApprovedBy callers tr' record := by
  obtain ⟨j, e, shows_, mem, approves⟩ := h
  exact ⟨j, e, shows_, more _ mem, approves⟩

/-- The evidence of an approval carries over to the record after it. -/
theorem ApprovedBy.congr {new : ApprovalRecord} (h : ApprovedBy callers tr record)
    (same : SameAction record new) (at_ : new.approvedAt = record.approvedAt)
    (by_ : new.approvedBy = record.approvedBy) : ApprovedBy callers tr new := by
  obtain ⟨j, e, ⟨actorId, now, hcaller⟩, mem, saved, version, hop, hid, hstate, hat, hby⟩ := h
  refine ⟨j, e, ⟨actorId, now, ?_⟩, mem, saved, version, hop, hid.trans same.id, hstate,
    hat.trans at_.symm, hby.trans by_.symm⟩
  rw [hcaller, same.id, same.nonce]

/-- An execution of an external tool is of a call its caller invokes, under an approval that
was consumed for it: before its expiry, under the fingerprint of the call's envelope, and
after it had been approved with its nonce. -/
def Faithful (host : Host) (callers : ι → Caller) (s : Store) (pre : List (ι × GatewayEvent)) (i : ι)
    (descriptor : ToolDescriptor) (arguments : List (String × Value)) (context : ToolExecutionContext) : Prop :=
  ∃ id call binding record, context.approvalId = some id ∧ callers i = .invoke call ∧
    call.approvalId = some id ∧ arguments = call.arguments ∧
    ToolGateway.approvalBinding descriptor call = .ok (some binding) ∧ s.approvals id = some record ∧
    record.state.consumed ∧ canonicalSha256 host binding.envelope = .ok record.actionFingerprint ∧
    (∃ time, record.consumedAt = some time ∧ time < record.expiresAt) ∧ ApprovedBy callers pre record

/-- The store, the watches of the callers and the events so far belong together. -/
structure Sound (host : Host) (callers : ι → Caller) (s : Store) (m : ι → Watch)
    (tr : List (ι × GatewayEvent)) : Prop where
  consistent : ∀ i, Consistent host s (m i)
  approved : ∀ id record, s.approvals id = some record → record.state = .approved ∨ record.state.consumed →
    ApprovedBy callers tr record
  consumed : ∀ id record, s.approvals id = some record → record.state.consumed →
    ∃ time, record.consumedAt = some time ∧ time < record.expiresAt
  grants : ∀ i grant, (m i).grant = some grant → ∃ record, s.approvals grant.id = some record ∧
    record.state.consumed ∧ record.actionFingerprint = grant.fingerprint
  exclusive : ∀ i j grant grant', (m i).grant = some grant → (m j).grant = some grant' →
    grant.id = grant'.id → i = j
  used : ∀ i e id, (i, e) ∈ tr → executes id e → (m i).spent ∧ ∃ grant, (m i).grant = some grant ∧ grant.id = id
  once : ∀ id, (tr.filter fun entry => executes id entry.2).length ≤ 1
  faithful : ∀ pre i descriptor arguments context answer post,
    tr = pre ++ (i, ⟨.execute descriptor arguments context, answer⟩) :: post →
    descriptor.risk = .externalWrite → Faithful host callers s pre i descriptor arguments context

theorem sound_empty : Sound host callers empty (fun _ => {}) [] where
  consistent _ := ⟨by simp [empty], by simp⟩
  approved := by simp [empty]
  consumed := by simp [empty]
  grants := by simp
  exclusive := by simp
  used := by simp
  once := by simp
  faithful := by simp

section Step

variable {i : ι} {sh : Bool} {op : GatewayOp} {a : Except Exn op.Ans} {id : String}

/-- The caller of an allowed execution holds the grant it names, unused. -/
theorem authorized_of_executes (ok : (m i).Allows host (callers i) ⟨op, a⟩) (hexec : executes id ⟨op, a⟩) :
    (m i).spent = false ∧ ((m i).after ⟨op, a⟩).spent ∧ ∃ grant, (m i).grant = some grant ∧ grant.id = id := by
  cases op with
  | execute descriptor arguments context =>
    simp only [executes, decide_eq_true_eq] at hexec
    obtain ⟨call, binding, grant, -, hgrant, unspent, hid, -⟩ := ok hexec.1
    refine ⟨unspent, by simp [Watch.after, hexec.1], grant, hgrant, ?_⟩
    exact Option.some.inj (hid.symm.trans hexec.2)
  | _ => cases hexec

section

variable (sound : Sound host callers s m tr)

include sound

theorem Sound.used_step [DecidableEq ι] (ok : (m i).Allows host (callers i) ⟨op, a⟩)
    {j : ι} {e : GatewayEvent} (mem : (j, e) ∈ tr ++ [(i, ⟨op, a⟩)]) (hexec : executes id e) :
    (update m i ((m i).after ⟨op, a⟩) j).spent ∧
      ∃ grant, (update m i ((m i).after ⟨op, a⟩) j).grant = some grant ∧ grant.id = id := by
  rcases mem_append.mp mem with old | new
  · obtain ⟨spent, grant, hgrant, hid⟩ := sound.used j e id old hexec
    by_cases hj : j = i
    · subst hj
      rw [update_self]
      exact ⟨Watch.after_spent spent, grant, Watch.after_grant ok hgrant, hid⟩
    · rw [update_of_ne hj]
      exact ⟨spent, grant, hgrant, hid⟩
  · cases mem_singleton.mp new
    rw [update_self]
    obtain ⟨-, spent, grant, hgrant, hid⟩ := authorized_of_executes ok hexec
    exact ⟨spent, grant, Watch.after_grant ok hgrant, hid⟩

theorem Sound.once_step (ok : (m i).Allows host (callers i) ⟨op, a⟩)
    (id : String) :
    (List.filter (fun entry : ι × GatewayEvent => executes id entry.2) (tr ++ [(i, ⟨op, a⟩)])).length ≤ 1 := by
  refine filter_snoc_le_one (sound.once id) ?_
  -- an earlier execution under this approval has used the grant that this one needs
  rintro hexec ⟨j, e⟩ mem before
  obtain ⟨spent, grant, hgrant, hid⟩ := sound.used j e id mem before
  obtain ⟨unspent, -, grant', hgrant', hid'⟩ := authorized_of_executes ok hexec
  have same : j = i := sound.exclusive j i grant grant' hgrant hgrant' (hid.trans hid'.symm)
  rw [same, unspent] at spent
  cases spent

/-- What a caller relies on is kept by the requests of the others. -/
theorem Sound.relies (h : (gatewayWorld host).faulty sh s op a s') :
    (m i).Relies ⟨op, a⟩ := by
  have con := sound.consistent i
  cases op with
  | getApproval id =>
    cases a with
    | error e => trivial
    | ok record =>
      obtain ⟨b, r, hb⟩ : ∃ b, (gatewayWorld host).Reliable s (.getApproval id) b s' ∧ .ok record = b := by
        rcases World.faulty_cases h with ⟨-, e, he⟩ | ⟨b, r, hb | ⟨e, he⟩⟩
        · cases he
        · exact ⟨b, r, hb⟩
        · cases he
      obtain ⟨now, effect⟩ := r.effect
      have found : s.approvals id = some record := by
        have answer := hb.trans (congrArg Prod.fst effect)
        unfold getApproval at answer
        split at answer
        · rename_i found
          cases answer
          exact found
        · cases answer
      refine ⟨s.keyed id record found, fun earlier seen hid => ?_⟩
      obtain ⟨stored, hstored, same, -⟩ := con.reads earlier seen
      rw [hid, found] at hstored
      cases hstored
      exact same
  | saveApproval record version =>
    cases a with
    | error e => trivial
    | ok saved =>
      rcases World.faulty_cases h with ⟨-, e, he⟩ | ⟨b, r, hb | ⟨e, he⟩⟩
      · cases he
      · obtain ⟨now, effect⟩ := r.effect
        rcases saveApproval_cases effect with ⟨-, e, he⟩ | ⟨current, -, -, hsaved, -⟩
        · cases hb.trans he
        · exact Except.ok.inj (hb.trans hsaved)
      · cases he
  | _ => trivial

end

section

variable (sound : Sound host callers s m tr) (h : (gatewayWorld host).faulty sh s op a s')
  (ok : (m i).Allows host (callers i) ⟨op, a⟩) {id : String} {new : ApprovalRecord} {grant : Grant} {j : ι}

include sound h ok

theorem Sound.moved : Moved host (callers i) (m i) ((m i).after ⟨op, a⟩) ⟨op, a⟩ s s' :=
  PersonalAssistant.moved (sound.consistent i) h ok

/-- What a monitor remembers stays consistent with the store, its own step included. -/
theorem Sound.consistent_step [DecidableEq ι] (j : ι) : Consistent host s' (update m i ((m i).after ⟨op, a⟩) j) := by
  have moved := sound.moved h ok
  have con := sound.consistent i
  refine ⟨fun id record found => ?_, fun read hread => ?_⟩
  · rcases moved.record found with old | ⟨fresh, -⟩ | ⟨current, old, -, step, -⟩
    · exact con.digests id record old
    · exact fresh.digest
    · exact step.same.actionFingerprint ▸ con.digests id current old
  · -- a record read earlier is compared with what the step left, a record read now is the store's
    have earlier : ∀ j, read ∈ (m j).seen → ∃ record, s'.approvals read.id = some record ∧
        read.SameAction record ∧ read.version ≤ record.version ∧ (read.version = record.version → read = record) := by
      intro j hread
      obtain ⟨record, found, same, le, heq⟩ := (sound.consistent j).reads read hread
      obtain ⟨new, hnew, rfl | step⟩ := moved.survives found
      · exact ⟨new, hnew, same, le, heq⟩
      · refine ⟨new, hnew, same.trans step.same, ?_, fun hv => ?_⟩
        · rw [step.version]; omega
        · rw [step.version] at hv; omega
    by_cases hj : j = i
    · subst hj
      rw [update_self] at hread
      rcases Watch.mem_after_seen h hread with old | ⟨rfl, id, found⟩
      · exact earlier j old
      · have hid := s'.keyed id read found
        exact ⟨read, hid.symm ▸ found, .rfl, Nat.le_refl _, fun _ => rfl⟩
    · rw [update_of_ne hj] at hread
      exact earlier j hread

/-- The evidence for the approved and the consumed records after a step. -/
theorem Sound.approved_step (found : s'.approvals id = some new) (live : new.state = .approved ∨ new.state.consumed) :
    ApprovedBy callers (tr ++ [(i, ⟨op, a⟩)]) new := by
  rcases (sound.moved h ok).record found with old | ⟨fresh, -⟩ | ⟨current, old, -, step, evidence⟩
  · exact (sound.approved id new old live).mono fun entry hentry => mem_append_left _ hentry
  · rw [fresh.waiting] at live
    rcases live with live | live <;> cases live
  have carried : (current.state = .approved ∨ current.state.consumed) → new.approvedAt = current.approvedAt →
      new.approvedBy = current.approvedBy → ApprovedBy callers (tr ++ [(i, ⟨op, a⟩)]) new := fun was at_ by_ =>
    ((sound.approved id current old was).congr step.same at_ by_).mono fun entry hentry =>
      mem_append_left _ hentry
  cases step.change with
  | drop _ dropped =>
    rcases dropped with hstate | hstate <;> rw [hstate] at live <;> rcases live with live | live <;> cases live
  | approve _ approved nonce =>
    obtain ⟨actorId, now, hcaller⟩ := nonce
    refine ⟨i, ⟨op, a⟩, ⟨actorId, now, ?_⟩, by simp, evidence approved⟩
    rw [hcaller, step.same.id, step.same.nonce]
  | consume approved _ at_ by_ => exact carried (.inl approved) at_ by_
  | finish executing _ at_ by_ => exact carried (.inr (by rw [executing]; rfl)) at_ by_

theorem Sound.consumed_step (found : s'.approvals id = some new) (consumed : new.state.consumed) :
    ∃ time, new.consumedAt = some time ∧ time < new.expiresAt := by
  rcases (sound.moved h ok).record found with old | ⟨fresh, -⟩ | ⟨current, old, -, step, -⟩
  · exact sound.consumed id new old consumed
  · rw [fresh.waiting] at consumed
    cases consumed
  cases step.change with
  | drop _ dropped =>
    rcases dropped with hstate | hstate <;> rw [hstate] at consumed <;> cases consumed
  | approve _ approved => rw [approved] at consumed; cases consumed
  | consume _ _ _ _ time hconsumed unexpired => exact ⟨time, hconsumed, step.same.expiresAt ▸ unexpired⟩
  | finish executing _ _ _ same =>
    obtain ⟨time, hconsumed, unexpired⟩ := sound.consumed id current old (by rw [executing]; rfl)
    exact ⟨time, same.trans hconsumed, step.same.expiresAt ▸ unexpired⟩

/-- A consumed record after a step: still consumed, for the same action and with the same
history. -/
theorem Sound.consumed_survives (found : s.approvals id = some record) (consumed : record.state.consumed) :
    ∃ new, s'.approvals id = some new ∧ new.state.consumed ∧ record.SameAction new ∧
      new.approvedAt = record.approvedAt ∧ new.approvedBy = record.approvedBy ∧
      new.consumedAt = record.consumedAt := by
  obtain ⟨new, hnew, rfl | step⟩ := (sound.moved h ok).survives found
  · exact ⟨new, hnew, consumed, .rfl, rfl, rfl, rfl⟩
  · obtain ⟨still, at_, by_, same⟩ := step.change.consumed consumed
    exact ⟨new, hnew, still, step.same, at_, by_, same⟩

theorem Sound.grants_survive (hgrant : (m j).grant = some grant) :
    ∃ record, s'.approvals grant.id = some record ∧ record.state.consumed ∧
      record.actionFingerprint = grant.fingerprint := by
  obtain ⟨record, found, consumed, fingerprint⟩ := sound.grants j grant hgrant
  obtain ⟨new, hnew, still, same, -⟩ := sound.consumed_survives h ok found consumed
  exact ⟨new, hnew, still, same.actionFingerprint ▸ fingerprint⟩

/-- The grant of a caller after its step is the one before, or is for a record that was
approved, and so nobody's, until this step. -/
theorem Sound.grant_step (hgrant : ((m i).after ⟨op, a⟩).grant = some grant) : (m i).grant = some grant ∨
      (∃ record, s'.approvals grant.id = some record ∧ record.state.consumed ∧
        record.actionFingerprint = grant.fingerprint) ∧
      ∀ j grant', (m j).grant = some grant' → grant'.id ≠ grant.id := by
  cases sound.moved h ok with
  | same _ same => exact .inl (same ▸ hgrant)
  | created _ _ _ _ same => exact .inl (same ▸ hgrant)
  | changed current new found step approvals _ granted =>
    rcases granted with same | ⟨granted, approved, executing⟩
    · exact .inl (same ▸ hgrant)
    rw [granted] at hgrant
    cases hgrant
    refine .inr ⟨⟨new, by rw [approvals, putApproval_self], by rw [executing]; rfl, rfl⟩, ?_⟩
    intro j grant' hgrant' hid
    obtain ⟨record, hrecord, consumed, -⟩ := sound.grants j grant' hgrant'
    rw [hid, ← step.same.id, found] at hrecord
    cases hrecord
    rw [approved] at consumed
    cases consumed

theorem Faithful.survives {pre : List (ι × GatewayEvent)} {descriptor : ToolDescriptor}
    {arguments : List (String × Value)} {context : ToolExecutionContext}
    (faithful : Faithful host callers s pre j descriptor arguments context) :
    Faithful host callers s' pre j descriptor arguments context := by
  obtain ⟨id, call, binding, record, hid, hcaller, hcall, hargs, hbinding, found, consumed, digest,
    ⟨time, hconsumed, unexpired⟩, approved⟩ := faithful
  obtain ⟨new, hnew, still, same, at_, by_, htime⟩ := sound.consumed_survives h ok found consumed
  exact ⟨id, call, binding, new, hid, hcaller, hcall, hargs, hbinding, hnew, still,
    same.actionFingerprint ▸ digest, ⟨time, htime.trans hconsumed, same.expiresAt ▸ unexpired⟩,
    approved.congr same at_ by_⟩

/-- A step keeps every execution faithful to its approval. -/
theorem Sound.faithful_step (pre : List (ι × GatewayEvent)) (j : ι)
    (descriptor : ToolDescriptor) (arguments : List (String × Value)) (context : ToolExecutionContext)
    (answer : Except Exn Value) (post : List (ι × GatewayEvent))
    (split : tr ++ [(i, ⟨op, a⟩)] = pre ++ (j, ⟨.execute descriptor arguments context, answer⟩) :: post)
    (external : descriptor.risk = .externalWrite) :
    Faithful host callers s' pre j descriptor arguments context := by
  rcases eq_nil_or_concat post with rfl | ⟨earlier, last, rfl⟩
  · -- the execution is this step: its caller holds the grant
    obtain ⟨rfl, last⟩ := append_inj' split rfl
    cases singleton_inj.mp last
    obtain ⟨call, binding, grant, hcaller, hgrant, -, hid, hcall, hargs, hbinding, digest⟩ := ok external
    obtain ⟨record, found, consumed, fingerprint⟩ := sound.grants _ grant hgrant
    exact Faithful.survives sound h ok ⟨grant.id, call, binding, record, hid, hcaller, hcall, hargs, hbinding,
      found, consumed, fingerprint ▸ digest, sound.consumed _ record found consumed,
      sound.approved _ record found (.inr consumed)⟩
  · have old : tr = pre ++ (j, ⟨.execute descriptor arguments context, answer⟩) :: earlier := by
      rw [concat_eq_append, ← cons_append, ← append_assoc] at split
      exact (append_inj' split rfl).1
    exact Faithful.survives sound h ok (sound.faithful pre j descriptor arguments context answer earlier old external)

/-- **Step.** -/
theorem Sound.step [DecidableEq ι] :
    Sound host callers s' (update m i ((m i).after ⟨op, a⟩)) (tr ++ [(i, ⟨op, a⟩)]) where
  consistent := sound.consistent_step h ok
  approved _ _ found live := sound.approved_step h ok found live
  consumed _ _ found consumed := sound.consumed_step h ok found consumed
  grants j grant hgrant := by
    by_cases hj : j = i
    · subst hj
      rw [update_self] at hgrant
      rcases sound.grant_step h ok hgrant with old | ⟨new, -⟩
      · exact sound.grants_survive h ok old
      · exact new
    · rw [update_of_ne hj] at hgrant
      exact sound.grants_survive h ok hgrant
  exclusive j k grant grant' hgrant hgrant' hid := by
    by_cases hj : j = i <;> by_cases hk : k = i
    · exact hj.trans hk.symm
    · subst hj
      rw [update_self] at hgrant
      rw [update_of_ne hk] at hgrant'
      rcases sound.grant_step h ok hgrant with old | ⟨-, nobody⟩
      · exact sound.exclusive _ _ _ _ old hgrant' hid
      · exact absurd hid.symm (nobody k grant' hgrant')
    · subst hk
      rw [update_of_ne hj] at hgrant
      rw [update_self] at hgrant'
      rcases sound.grant_step h ok hgrant' with old | ⟨-, nobody⟩
      · exact sound.exclusive _ _ _ _ hgrant old hid
      · exact absurd hid (nobody j grant hgrant)
    · rw [update_of_ne hj] at hgrant
      rw [update_of_ne hk] at hgrant'
      exact sound.exclusive _ _ _ _ hgrant hgrant' hid
  used _ _ _ mem hexec := sound.used_step ok mem hexec
  once := sound.once_step ok
  faithful := sound.faithful_step h ok

end

end Step

/-- **Exclusive and faithful execution.** For every interleaving of any callers over a store
that starts empty, with any clock, executor and failing store calls: under one approval an
external tool is executed at most once, and every execution of an external tool is of the
call its caller invokes, under an approval that was approved with its own nonce, consumed
before it expired and stored under the fingerprint of this call's envelope. -/
theorem external_execution_exclusive [DecidableEq ι] (g : ToolGateway) (callers : ι → Caller)
    {threads : ι → GatewayM Unit} {s : Store} {tr : List (ι × GatewayEvent)}
    (pool : Pool (fun _ => (gatewayWorld g.host).faulty) (fun _ _ => False)
      (fun i => (callers i).run g) Store.empty threads s tr) :
    (∀ id, (tr.filter fun entry => executes id entry.2).length ≤ 1) ∧
      ∀ pre i descriptor arguments context answer post,
        tr = pre ++ (i, ⟨.execute descriptor arguments context, answer⟩) :: post →
        descriptor.risk = .externalWrite → Faithful g.host callers s pre i descriptor arguments context := by
  obtain ⟨m, sound, -⟩ := Pool.monitored (fun i => watch g.host (callers i)) (fun _ => {}) (fun _ _ _ => True)
    (Sound g.host callers) (fun i => (callers i).run_follows) sound_empty
    (fun _ _ _ _ _ _ _ _ sound h => sound.relies h)
    (fun _ _ _ _ _ _ _ _ sound h ok => sound.step h ok) (fun _ _ _ _ _ h => h.elim) pool
  exact ⟨sound.once, sound.faithful⟩

/-- A call prepares an approval, the owner approves it, and the call is made again with it. -/
def sampleCallers : Fin 3 → Caller
  | 0 => .invoke (sampleCall none)
  | 1 => .approve "a" "nonce" "owner" none
  | 2 => .invoke (sampleCall (some "a"))

/-- Those three, one after the other. -/
def sampleRun : (Fin 3 → GatewayM Unit) × Store × List (Fin 3 × GatewayEvent) :=
  playPool (fun _ s op => some
      ((gatewayWorld sampleHost).answerWith 0 (sampleAnswers .externalWrite (.ok .none) fun _ => .ok ()) s op))
    (List.replicate 6 0 ++ List.replicate 3 1 ++ List.replicate 16 2)
    (fun i => (sampleCallers i).run (sampleGateway .absent)) empty []

theorem sampleRun_pool : Pool (fun _ => (gatewayWorld (sampleGateway .absent).host).faulty) (fun _ _ => False)
    (fun i => (sampleCallers i).run (sampleGateway .absent)) empty sampleRun.1 sampleRun.2.1 sampleRun.2.2 := by
  refine playPool_pool (fun _ sh s op a s' answered => ?_) _ .start
  have step := World.answerWith_reliable (W := gatewayWorld sampleHost) (gatewayWorld_own 0)
    (sampleAnswers_total .externalWrite (.ok .none) fun _ => .ok ()) sh s op
  rw [Option.some.inj answered] at step
  exact World.faulty_of_reliable step

/-- The action is executed once, and the approval ends SUCCEEDED. -/
theorem external_execution_exclusive_sample : (sampleRun.2.2.filter fun entry => executes "a" entry.2).length = 1 ∧
    (sampleRun.2.1.approvals "a").map (·.state) = some .succeeded ∧
    ∀ pre i descriptor arguments context answer post,
      sampleRun.2.2 = pre ++ (i, ⟨.execute descriptor arguments context, answer⟩) :: post →
      descriptor.risk = .externalWrite →
      Faithful sampleHost sampleCallers sampleRun.2.1 pre i descriptor arguments context :=
  ⟨by decide +kernel, by decide +kernel,
    (external_execution_exclusive (sampleGateway .absent) sampleCallers sampleRun_pool).2⟩

end PersonalAssistant
