import PersonalAssistant.Approvals.Record

/-!
# The life of an approval

What the modelled operations together may do to a stored approval, whoever calls them: a
record is dropped while it waits or is approved, approved by someone who shows its nonce,
consumed once before it expires, and finished after it was consumed. The action an approval
is for, its nonce and its expiry never change, and every change raises the version by one.
-/

namespace PersonalAssistant.ApprovalRecord

/-- One change of a stored record. `shown` says that the caller presents the record's nonce
for approval. -/
inductive Change (shown : Prop) (current new : ApprovalRecord) : Prop where
  | drop (open_ : current.isExpirable) (dropped : new.state = .expired ∨ new.state = .cancelled)
  | approve (waiting : current.state = .waitingApproval) (approved : new.state = .approved) (nonce : shown)
  | consume (approved : current.state = .approved) (executing : new.state = .executing)
      (at_ : new.approvedAt = current.approvedAt) (by_ : new.approvedBy = current.approvedBy)
      (time : Time) (consumed : new.consumedAt = some time) (unexpired : time < current.expiresAt)
  | finish (executing : current.state = .executing)
      (finished : new.state = .succeeded ∨ new.state = .failed ∨ new.state = .unknown)
      (at_ : new.approvedAt = current.approvedAt) (by_ : new.approvedBy = current.approvedBy)
      (consumed : new.consumedAt = current.consumedAt)

/-- A change of a stored record as the stores make it. -/
structure Step (shown : Prop) (current new : ApprovalRecord) : Prop where
  same : SameAction current new
  version : new.version = current.version + 1
  change : Change shown current new

/-- A record with a fresh action: waiting, under a digest. -/
structure Fresh (host : Host) (record : ApprovalRecord) : Prop where
  waiting : record.state = .waitingApproval
  digest : ∃ text, record.actionFingerprint = host.sha256Hex text

variable {record current new : ApprovalRecord} {shown : Prop} {now : Time}

theorem isExpirable_iff : record.isExpirable ↔ record.state = .waitingApproval ∨ record.state = .approved := by
  simp [isExpirable]

theorem open_of_hasExpired (due : record.hasExpired now) : record.isExpirable := by
  simp only [hasExpired, decide_eq_true_eq] at due
  exact due.1

theorem not_hasExpired_of_approved
    (live : ¬ record.hasExpired now) (approved : record.state = .approved) : now < record.expiresAt := by
  by_contra late
  exact live (by simp [hasExpired, isExpirable, approved, Int.not_lt.mp late])

theorem Change.shown_of_approved (h : Change shown current new) (approved : new.state = .approved) : shown := by
  cases h with
  | drop _ dropped => rcases dropped with h | h <;> rw [h] at approved <;> cases approved
  | approve _ _ nonce => exact nonce
  | consume _ executing => rw [executing] at approved; cases approved
  | finish _ finished => rcases finished with h | h | h <;> rw [h] at approved <;> cases approved

theorem Step.mono {shown' : Prop} (h : Step shown current new)
    (weaker : shown → shown') : Step shown' current new where
  same := h.same
  version := h.version
  change := by
    cases h.change with
    | drop open_ dropped => exact .drop open_ dropped
    | approve waiting approved nonce => exact .approve waiting approved (weaker nonce)
    | consume approved executing at_ by_ time consumed unexpired =>
      exact .consume approved executing at_ by_ time consumed unexpired
    | finish executing finished at_ by_ consumed => exact .finish executing finished at_ by_ consumed

theorem Change.approved_of_executing
    (h : Change shown current new) (executing : new.state = .executing) : current.state = .approved := by
  cases h with
  | drop _ dropped => rcases dropped with h | h <;> rw [h] at executing <;> cases executing
  | approve _ approved => rw [approved] at executing; cases executing
  | consume approved => exact approved
  | finish _ finished => rcases finished with h | h | h <;> rw [h] at executing <;> cases executing

/-- A consumed record stays consumed, with the times and the person of its approval. -/
theorem Change.consumed (h : Change shown current new)
    (was : current.state.consumed) : new.state.consumed ∧ new.approvedAt = current.approvedAt ∧
      new.approvedBy = current.approvedBy ∧ new.consumedAt = current.consumedAt := by
  cases h with
  | drop open_ =>
    rcases isExpirable_iff.mp open_ with h | h <;> rw [h] at was <;> cases was
  | approve waiting => rw [waiting] at was; cases was
  | consume approved => rw [approved] at was; cases was
  | finish _ finished at_ by_ consumed =>
    refine ⟨?_, at_, by_, consumed⟩
    rcases finished with h | h | h <;> rw [h] <;> rfl

end PersonalAssistant.ApprovalRecord
