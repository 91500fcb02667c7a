import PersonalAssistant.Mail.Executor

/-!
# How often a message is handed to the broker

Any number of executors run on one ledger, in any interleaving, while the ledger is kept up
by the rest of the host. `begin_execution` reports EXECUTING to the caller that claimed the
row and to one that only found it claimed, and `execute` sends in both cases; so a message is
sent at most once as long as nobody asks for a row that is being executed.
-/

namespace PersonalAssistant

open Coro Function

/-- The event hands a message of the action to the broker. -/
def sends (id : String) : MailEvent → Bool
  | ⟨.send _ delivery, _⟩ => delivery.localActionId = id
  | _ => false

/-- The row exists and was claimed. -/
def Ledger.Claimed (l : Ledger) (id : String) : Prop := ∃ row, l.rows id = some row ∧ row.status ≠ .prepared

namespace Ledger

variable {l : Ledger} {id : String}

/-- A claimed row stays claimed when a row that exists is replaced by one of a later state. -/
theorem Claimed.put {key : String} {row new : MailDeliveryRecord} (h : l.Claimed id) (found : l.rows key = some row)
    (same : new.localActionId = row.localActionId) (later : row.status ≠ .prepared → new.status ≠ .prepared) :
    (l.put new).Claimed id := by
  obtain ⟨old, hold, claimed⟩ := h
  by_cases hid : id = new.localActionId
  · rw [hid, same, l.keyed key row found, found] at hold
    cases hold
    exact ⟨new, hid ▸ l.put_self new, later claimed⟩
  · exact ⟨old, (l.put_of_ne new hid).trans hold, claimed⟩

theorem Claimed.prepare (h : l.Claimed id) (record : MailDeliveryRecord) : (l.prepare record).2.Claimed id := by
  unfold Ledger.prepare
  split
  · rename_i free
    obtain ⟨row, found, claimed⟩ := h
    refine ⟨row, ?_, claimed⟩
    by_cases hid : id = record.localActionId
    · rw [hid, free] at found
      cases found
    · exact (l.put_of_ne { record with status := .prepared } hid).trans found
  · split <;> exact h

theorem Claimed.beginExecution (h : l.Claimed id) (now : Time) (id' digest owner : String) (lease : Int) :
    (l.beginExecution now id' digest owner lease).2.Claimed id := by
  unfold Ledger.beginExecution
  split
  · exact h
  split
  · exact h
  rename_i row found
  split
  · exact h
  split
  · exact h.put found rfl fun _ => by simp
  · exact h

/-- A finalization leaves what is claimed claimed. -/
theorem Claimed.finalize (h : l.Claimed id) (id' digest : String) (result : DeliveryResult) :
    (l.finalize id' digest result).2.Claimed id := by
  unfold Ledger.finalize
  split
  · exact h
  rename_i terminal
  split
  · exact h
  rename_i row found
  split
  · exact h
  split
  · exact h
  split
  · exact h
  · refine h.put found rfl fun _ prepared => terminal ?_
    simp only at prepared
    rw [prepared]
    rfl

/-- What the rest of the host does keeps a row claimed. -/
theorem Claimed.upkeep {p p' : Post} (h : p.ledger.Claimed id) (step : LedgerUpkeep p p') : p'.ledger.Claimed id := by
  cases step with
  | heartbeat now id' owner lease =>
    simp only [Ledger.heartbeat]
    split
    · exact h
    cases found : p.ledger.rows id' with
    | none => exact h
    | some row =>
      dsimp only
      split
      · exact h.put found rfl fun claimed => claimed
      · exact h
  | reconcile id' account message status diagnostic =>
    simp only [Ledger.reconcile]
    split
    · exact h
    rename_i terminal
    split
    · exact h
    rename_i row found
    split
    · refine h.put found rfl fun _ prepared => terminal ?_
      simp only at prepared
      rw [prepared]
      rfl
    · exact h
  | recover now owners =>
    obtain ⟨row, found, claimed⟩ := h
    have after := congrArg (Option.map fun row => if stale now owners row then
      { row with status := .unknown, diagnosticCode := some "EXECUTION_LEASE_EXPIRED" } else row) found
    refine ⟨_, after, ?_⟩
    dsimp only
    split
    · simp
    · exact claimed

end Ledger

/-- What a monitor remembers of one executor: the row it was told is executing, and whether it
has sent. -/
structure Claim where
  claimed : Option String := none
  sent : Bool := false

namespace Claim

/-- A row is asked for once, and a message is sent only for the row that was reported to be
executing, and only once. -/
def Allows (m : Claim) : MailEvent → Prop
  | ⟨.beginExecution _ _ _ _, _⟩ => m.claimed = none
  | ⟨.send _ delivery, _⟩ => m.claimed = some delivery.localActionId ∧ m.sent = false
  | _ => True

/-- The monitor after an event. -/
def after (m : Claim) : MailEvent → Claim
  | ⟨.beginExecution id _ _ _, .ok .executing⟩ => { m with claimed := some id }
  | ⟨.send _ _, _⟩ => { m with sent := true }
  | _ => m

end Claim

/-- The monitor of an executor. -/
def claimWatch : Monitor MailPort Exn Claim where
  rely _ _ := True
  ok := Claim.Allows
  next := Claim.after

/-- The requests a monitor passes over. -/
def MailOp.plain : MailOp → Bool
  | beginExecution _ _ _ _ | send _ _ => false
  | _ => true

section Follows

open MailSendExecutor

variable {m : Claim} {x : MailSendExecutor} {checked : Checked} {delivery : MailDeliveryRequest}
  {digest owner : String}

theorem plain_keeps (op : MailOp) (h : op.plain) : Keeps claimWatch.handler claimWatch.ok Eq (mail op) := by
  intro m
  refine Monitor.follows_perform.mpr fun a _ => ?_
  cases op <;> first | exact ⟨trivial, rfl⟩ | cases h

theorem reads_keeps (op : MailOp) (h : op.reads) : Keeps claimWatch.handler claimWatch.ok Eq (mail op) :=
  plain_keeps op (by cases op <;> first | rfl | cases h)

theorem finalizeFailure_keeps {id diagnostic : String} :
    Keeps claimWatch.handler claimWatch.ok Eq (finalizeFailure id digest diagnostic) := by
  refine .bind (.attempt (plain_keeps _ rfl)) fun outcome => ?_
  split <;> exact .done _

theorem complete_keeps {expectations : Expectations} {receipt : MailDeliveryReceipt} {materialized : Value} :
    Keeps claimWatch.handler claimWatch.ok Eq (complete expectations receipt digest materialized) := by
  refine .bind (.attempt (plain_keeps _ rfl)) fun outcome => ?_
  split
  · exact .done _
  · exact .done _
  · refine .ite (fun _ => .done _) fun _ => ?_
    split <;> exact .done _

/-- The one submission of an executor that was told its row is executing. -/
theorem submit_follows {id account : String}
    (claimed : m.claimed = some delivery.localActionId) (unsent : m.sent = false) :
    claimWatch.Follows (submit id digest account delivery) (fun _ _ => True) m := by
  refine wp.bind (wp.attempt (Monitor.follows_perform.mpr fun a _ => ⟨⟨claimed, unsent⟩, ?_⟩))
  cases a with
  | ok receipt => exact wp.pure trivial
  | error exc =>
    cases exc with
    | runtime kind message =>
      dsimp only [either_ok]
      split
      · refine wp.after (finalizeFailure_keeps _) fun r m' _ => ?_
        cases r with
        | ok _ => exact wp.ite ⟨fun _ => wp.raise trivial, fun _ => wp.raise trivial⟩
        | error _ => trivial
      · exact wp.raise trivial
    | _ => exact wp.raise trivial

theorem transport_follows {id account : String}
    (claimed : m.claimed = some delivery.localActionId) (unsent : m.sent = false) :
    claimWatch.Follows (x.transport id digest owner account delivery) (fun _ _ => True) m := by
  have owners {c : MailM Unit} (h : Keeps claimWatch.handler claimWatch.ok Eq c) :
      Keeps claimWatch.handler claimWatch.ok Eq (if x.hasOwners then c else pure ()) :=
    .ite (fun _ => h) fun _ => .done _
  refine wp_still_bind (owners (plain_keeps _ rfl)) (fun _ => ?_) fun _ => trivial
  refine wp_still_bind (plain_keeps _ rfl) (fun _ => ?_) fun _ => trivial
  refine wp.tried (submit_follows claimed unsent) fun outcome m' _ => ?_
  refine wp_still_bind (plain_keeps _ rfl) (fun _ => ?_) fun _ => trivial
  exact wp_still_bind (owners (plain_keeps _ rfl)) (fun _ => wp.ofExcept trivial) fun _ => trivial

theorem dispatch_follows {started : Time}
    (claimed : m.claimed = some checked.expectations.localActionId) (unsent : m.sent = false) :
    claimWatch.Follows (x.dispatch checked owner started) (fun _ _ => True) m := by
  refine wp_still_bind (lookupAccount_keeps reads_keeps) (fun account => ?_) fun _ => trivial
  refine wp.ite ⟨fun _ => ?_, fun _ => ?_⟩
  · exact wp_still_bind finalizeFailure_keeps (fun _ => wp.raise trivial) fun _ => trivial
  refine wp_still_bind (plain_keeps _ rfl) (fun now => ?_) fun _ => trivial
  refine wp.ite ⟨fun _ => wp.raise trivial, fun _ => ?_⟩
  refine wp.after (transport_follows claimed unsent) fun r m' _ => ?_
  cases r with
  | ok receipt => exact wp_mono (fun _ _ _ => trivial) (complete_keeps m')
  | error e => trivial

/-- **An executor follows its monitor.** -/
theorem execute_follows {descriptor : ToolDescriptor} {arguments : List (String × Value)}
    {context : ToolExecutionContext} :
    claimWatch.Follows (x.execute descriptor arguments context) (fun _ _ => True) {} := by
  refine wp_still_bind (verify_keeps reads_keeps) (fun checked => ?_) fun _ => trivial
  have preparing {record : MailDeliveryRecord} : Keeps claimWatch.handler claimWatch.ok Eq (prepare record) := by
    refine .bind (.attempt (plain_keeps _ rfl)) fun outcome => ?_
    split <;> exact .done _
  refine wp_still_bind preparing (fun found => ?_) fun _ => trivial
  refine wp.ite ⟨fun _ => wp.ofExcept trivial, fun _ =>
    wp.ite ⟨fun _ => wp.raise trivial, fun _ => ?_⟩⟩
  refine wp_still_bind (plain_keeps _ rfl) (fun hex => ?_) fun _ => trivial
  refine wp_still_bind (plain_keeps _ rfl) (fun started => ?_) fun _ => trivial
  refine wp.bind (wp.bind (wp.attempt (Monitor.follows_perform.mpr fun a _ => ⟨rfl, ?_⟩)))
  cases a with
  | error exc => cases exc <;> exact wp.raise trivial
  | ok status =>
    refine wp.pure (wp.ite ⟨fun _ => wp.ofExcept trivial, fun _ =>
      wp.ite ⟨fun _ => wp.raise trivial, fun executing => ?_⟩⟩)
    obtain rfl : status = .executing := not_not.mp executing
    exact dispatch_follows rfl rfl

end Follows

/-- A call of an executor. -/
structure MailCall where
  executor : MailSendExecutor
  descriptor : ToolDescriptor
  arguments : List (String × Value)
  context : ToolExecutionContext

/-- Its run. -/
def MailCall.run (call : MailCall) : MailM Value :=
  call.executor.execute call.descriptor call.arguments call.context

/-- The request does not ask for a row of the same envelope that is being executed. -/
def MailOp.undisputed (l : Ledger) : MailOp → Bool
  | .beginExecution id digest _ _ => (l.rows id).all fun row => row.envelopeDigest ≠ digest ∨ row.status ≠ .executing
  | _ => true

/-- The environment in which nobody asks for a row that is being executed; every request may
fail, with its effect done or not. -/
def undisputed : Handler MailPort Exn Post :=
  fun sh p op a p' => mailWorld.faulty sh p op a p' ∧ op.undisputed p.ledger

section Once

variable {ι : Type} {p p' : Post} {m : ι → Claim} {tr : List (ι × MailEvent)} {i : ι} {sh : Bool} {op : MailOp}
  {a : Except Exn op.Ans} {id : String} {e : MailEvent} {lease : Int}

/-- The ledger, the monitors and the events so far belong together. -/
structure SingleClaims (p : Post) (m : ι → Claim) (tr : List (ι × MailEvent)) : Prop where
  claimed : ∀ i id, (m i).claimed = some id → p.ledger.Claimed id
  exclusive : ∀ i j id, (m i).claimed = some id → (m j).claimed = some id → i = j
  used : ∀ i e id, (i, e) ∈ tr → sends id e → (m i).sent ∧ (m i).claimed = some id
  once : ∀ id, (tr.filter fun entry => sends id entry.2).length ≤ 1

/-- What is claimed in the ledger stays claimed, whatever is asked. -/
theorem Ledger.Claimed.step {id : String} (h : p.ledger.Claimed id) (step : mailWorld.faulty sh p op a p') :
    p'.ledger.Claimed id := by
  rcases World.faulty_cases step with ⟨rfl, -⟩ | ⟨b, r, -⟩
  · exact h
  obtain ⟨turn, effect⟩ := r.effect
  cases op with
  | prepare record =>
    rw [(Prod.mk.inj effect).2]
    exact h.prepare record
  | beginExecution id' digest owner lease =>
    rw [(Prod.mk.inj effect).2]
    exact h.beginExecution turn.now id' digest owner lease
  | finalize id' digest result =>
    rw [(Prod.mk.inj effect).2]
    exact h.finalize id' digest result
  | _ =>
    rw [show p' = _ from effect]
    exact h

/-- A row that was not being executed and is reported to be was PREPARED. -/
theorem Ledger.beginExecution_claims {l : Ledger} {now : Time} {digest owner : String}
    (fresh : (MailOp.beginExecution id digest owner lease).undisputed l)
    (executing : (l.beginExecution now id digest owner lease).1 = .ok .executing) :
    ¬ l.Claimed id ∧ (l.beginExecution now id digest owner lease).2.Claimed id := by
  unfold Ledger.beginExecution at executing ⊢
  split at executing
  · cases executing
  rename_i grantable
  rw [if_neg grantable]
  cases found : l.rows id with
  | none =>
    rw [found] at executing
    cases executing
  | some row =>
    rw [found] at executing
    dsimp only at executing ⊢
    split at executing
    · cases executing
    rename_i same
    split at executing
    · rename_i prepared
      rw [if_neg same, if_pos prepared]
      constructor
      · rintro ⟨old, hold, claimed⟩
        rw [found] at hold
        cases hold
        exact claimed prepared
      · exact ⟨_, put_found found rfl, by simp⟩
    · simp only [MailOp.undisputed, found, Option.all_some] at fresh
      simp_all

/-- A row that was not being executed and is reported to be has just been claimed. -/
theorem begin_claims {digest owner : String}
    (step : undisputed sh p (.beginExecution id digest owner lease) (.ok .executing) p') :
    ¬ p.ledger.Claimed id ∧ p'.ledger.Claimed id := by
  obtain ⟨step, fresh⟩ := step
  rcases World.faulty_cases step with ⟨-, e, he⟩ | ⟨b, r, hb | ⟨e, he⟩⟩
  · cases he
  · subst hb
    obtain ⟨turn, effect⟩ := r.effect
    obtain ⟨answer, after⟩ := Prod.mk.inj effect
    rw [after]
    exact Ledger.beginExecution_claims fresh answer.symm
  · cases he

theorem Claim.after_claimed {m : Claim} (h : (m.after e).claimed = some id) :
    m.claimed = some id ∨ ∃ digest owner lease, e = ⟨.beginExecution id digest owner lease, .ok .executing⟩ := by
  unfold Claim.after at h
  split at h
  · cases h
    exact .inr ⟨_, _, _, rfl⟩
  · exact .inl h
  · exact .inl h

theorem Claim.after_keeps {m : Claim} (ok : m.Allows e) (h : m.claimed = some id) :
    (m.after e).claimed = some id := by
  unfold Claim.after
  split
  · rw [show m.claimed = none from ok] at h
    cases h
  · exact h
  · exact h

theorem Claim.after_sent {m : Claim} (h : m.sent) : (m.after e).sent := by
  unfold Claim.after
  split
  · exact h
  · rfl
  · exact h

variable [DecidableEq ι]

theorem SingleClaims.claimed_step (inv : SingleClaims p m tr) (step : undisputed sh p op a p') (j : ι) (id : String)
    (h : (update m i ((m i).after ⟨op, a⟩) j).claimed = some id) : p'.ledger.Claimed id := by
  by_cases hj : j = i
  · subst hj
    rw [update_self] at h
    rcases Claim.after_claimed h with old | ⟨digest, owner, lease, new⟩
    · exact (inv.claimed j id old).step step.1
    · cases new
      exact (begin_claims step).2
  · rw [update_of_ne hj] at h
    exact (inv.claimed j id h).step step.1

/-- Two executors do not hold one action, after every step. -/
theorem SingleClaims.exclusive_step (inv : SingleClaims p m tr) (step : undisputed sh p op a p') (j k : ι) (id : String)
    (hj : (update m i ((m i).after ⟨op, a⟩) j).claimed = some id)
    (hk : (update m i ((m i).after ⟨op, a⟩) k).claimed = some id) : j = k := by
  -- a row claimed in this step was claimed by nobody before
  have now {l : ι} (hl : l ≠ i) (hold : (m l).claimed = some id) (h : ((m i).after ⟨op, a⟩).claimed = some id) :
      (m i).claimed = some id := by
    rcases Claim.after_claimed h with old | ⟨digest, owner, lease, new⟩
    · exact old
    · cases new
      exact absurd (inv.claimed l id hold) (begin_claims step).1
  by_cases hji : j = i <;> by_cases hki : k = i
  · exact hji.trans hki.symm
  · subst hji
    rw [update_self] at hj
    rw [update_of_ne hki] at hk
    exact inv.exclusive j k id (now hki hk hj) hk
  · subst hki
    rw [update_self] at hk
    rw [update_of_ne hji] at hj
    exact inv.exclusive j k id hj (now hji hj hk)
  · rw [update_of_ne hji] at hj
    rw [update_of_ne hki] at hk
    exact inv.exclusive j k id hj hk

omit [DecidableEq ι] in
/-- The executor of an allowed submission holds the row and has not sent. -/
theorem claimed_of_sends (ok : (m i).Allows ⟨op, a⟩) (hsend : sends id ⟨op, a⟩) :
    (m i).sent = false ∧ ((m i).after ⟨op, a⟩).sent ∧ (m i).claimed = some id := by
  cases op with
  | send account delivery =>
    obtain rfl : delivery.localActionId = id := by simpa [sends] using hsend
    exact ⟨ok.2, rfl, ok.1⟩
  | _ => cases hsend

/-- Who has sent an action has claimed it, after every step. -/
theorem SingleClaims.used_step (inv : SingleClaims p m tr) (ok : (m i).Allows ⟨op, a⟩) (j : ι) (e : MailEvent)
    (id : String) (mem : (j, e) ∈ tr ++ [(i, ⟨op, a⟩)]) (hsend : sends id e) :
    (update m i ((m i).after ⟨op, a⟩) j).sent ∧
      (update m i ((m i).after ⟨op, a⟩) j).claimed = some id := by
  rcases List.mem_append.mp mem with old | new
  · obtain ⟨sent, claimed⟩ := inv.used j e id old hsend
    by_cases hj : j = i
    · subst hj
      rw [update_self]
      exact ⟨Claim.after_sent sent, Claim.after_keeps ok claimed⟩
    · rw [update_of_ne hj]
      exact ⟨sent, claimed⟩
  · cases List.mem_singleton.mp new
    rw [update_self]
    obtain ⟨-, sent, claimed⟩ := claimed_of_sends ok hsend
    exact ⟨sent, Claim.after_keeps ok claimed⟩

theorem SingleClaims.step (inv : SingleClaims p m tr) (step : undisputed sh p op a p') (ok : (m i).Allows ⟨op, a⟩) :
    SingleClaims p' (update m i ((m i).after ⟨op, a⟩)) (tr ++ [(i, ⟨op, a⟩)]) where
  claimed := inv.claimed_step step
  exclusive := inv.exclusive_step step
  used := inv.used_step ok
  once id := by
    refine filter_snoc_le_one (inv.once id) ?_
    rintro hsend ⟨j, e⟩ mem before
    obtain ⟨sent, claimed⟩ := inv.used j e id mem before
    obtain ⟨unsent, -, claimed'⟩ := claimed_of_sends ok hsend
    have same : j = i := inv.exclusive j i id claimed claimed'
    rw [same, unsent] at sent
    cases sent

/-- **At most one submission.** In every interleaving of any executors over one ledger, with
failing requests, expiring leases, sweeps and reconciliations, in which no executor asks for
a row that is being executed, the message of an action is handed to the broker at most
once. -/
theorem send_at_most_once (calls : ι → MailCall) {p₀ p : Post} {threads : ι → MailM Value} {tr : List (ι × MailEvent)}
    (pool : Pool (fun _ => undisputed) LedgerUpkeep (fun i => (calls i).run) p₀ threads p tr) (id : String) :
    (tr.filter fun entry => sends id entry.2).length ≤ 1 := by
  have start : SingleClaims p₀ (fun _ : ι => {}) [] :=
    ⟨fun _ _ h => (by cases h), fun _ _ _ h => (by cases h), fun _ _ _ h => (by cases h), fun _ => Nat.zero_le 1⟩
  obtain ⟨m, inv, -⟩ := Pool.monitored (fun _ => claimWatch) (fun _ => {}) (fun _ _ _ => True) SingleClaims
    (fun _ => execute_follows) start (fun _ _ _ _ _ _ _ _ _ _ => trivial)
    (fun _ _ _ _ _ _ _ _ inv step ok => inv.step step ok)
    (fun _ _ _ _ inv upkeep => { inv with claimed := fun i id h => (inv.claimed i id h).upkeep upkeep }) pool
  exact inv.once id

end Once

/-- Two executors are given the same action. -/
def sampleMailCalls : Fin 2 → MailCall :=
  fun _ => ⟨sampleExecutor, sampleSendTool, sampleMailArguments, sampleMailContext⟩

/-- Each request is answered; those that ask for a row being executed wait if `patient`. -/
def samplePostAnswer (patient : Bool) (p : Post) (op : MailOp) : Option (Except Exn op.Ans × Post) :=
  if patient ∧ op.undisputed p.ledger = false then none
  else some (mailWorld.answerWith ⟨0, []⟩ (sampleMailAnswers (.ok sampleAccount) (.ok sampleReceipt)) p op)

/-- The two executors reach the ledger together, the first goes on to the end, then the second. -/
def sampleRace (patient : Bool) : (Fin 2 → MailM Value) × Post × List (Fin 2 × MailEvent) :=
  let first : Fin 2 := ⟨0, Nat.zero_lt_two⟩
  let second : Fin 2 := ⟨1, Nat.one_lt_two⟩
  playPool (fun _ => samplePostAnswer patient)
    (List.replicate 9 first ++ List.replicate 9 second ++ [first, second] ++ List.replicate 20 first ++
      List.replicate 20 second)
    (fun i => (sampleMailCalls i).run) ⟨.empty, []⟩ []

theorem samplePostAnswer_faulty {patient sh : Bool} {p p' : Post} {op : MailOp} {a : Except Exn op.Ans}
    (answered : samplePostAnswer patient p op = some (a, p')) :
    mailWorld.faulty sh p op a p' ∧ (patient → op.undisputed p.ledger) := by
  unfold samplePostAnswer at answered
  split at answered
  · cases answered
  rename_i free
  have step := World.answerWith_reliable (W := mailWorld) (mailWorld_own ⟨0, []⟩)
    (sampleMailAnswers_total (.ok sampleAccount) (.ok sampleReceipt)) sh p op
  rw [Option.some.inj answered] at step
  exact ⟨World.faulty_of_reliable step, fun patience => by simpa [patience] using free⟩

/-- One executor waits at the ledger: the message is sent, once. -/
theorem send_at_most_once_patient : ((sampleRace true).2.2.filter fun entry => sends "action" entry.2).length = 1 ∧
    ((sampleRace true).2.2.filter fun entry => sends "action" entry.2).length ≤ 1 ∧
    (sampleRace true).2.1.ledger.status? "action" = some .succeeded :=
  ⟨by decide +kernel, send_at_most_once sampleMailCalls (playPool_pool
    (fun _ _ _ _ _ _ answered => (samplePostAnswer_faulty answered).imp_right fun patient =>
      patient rfl) _ .start) "action", by decide +kernel⟩

/-- Two executors that prepared the same action both get EXECUTING from the ledger, and the
message is sent twice. -/
theorem simultaneous_claims_send_twice :
    Pool (fun _ => mailWorld.faulty) LedgerUpkeep (fun i => (sampleMailCalls i).run) ⟨.empty, []⟩
      (sampleRace false).1 (sampleRace false).2.1 (sampleRace false).2.2 ∧
    ((sampleRace false).2.2.filter fun entry => sends "action" entry.2).length = 2 :=
  ⟨playPool_pool (fun _ _ _ _ _ _ answered => (samplePostAnswer_faulty answered).1) _ .start, by decide +kernel⟩

end PersonalAssistant
