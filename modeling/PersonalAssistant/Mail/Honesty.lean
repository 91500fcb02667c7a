import PersonalAssistant.Mail.Refusal

/-!
# What the end of `execute` says about the message

A `DefinitiveToolFailure` of `execute` is read as proof that nothing was sent, and a value as
proof that the ledger has the delivery. `honest_iff` says for which answers of the outside
and which rows before the call that is so, for a call that runs alone on a ledger that does
not fail.
-/

namespace PersonalAssistant

open Coro Coro.Prog MailSendExecutor Ledger Replies

/-- The end of a call tells the truth about an action: a definitive failure means that nobody
accepted its message and that the call left no row EXECUTING, a value that the row is
SUCCEEDED. -/
structure Honest (id : String) (p : Post) (outcome : Except Exn Value) (p' : Post) : Prop where
  unaccepted : ∀ e, outcome = .error e → e.isDefinitive → p'.acceptedFor id = []
  settled : ∀ e, outcome = .error e → e.isDefinitive →
    p'.ledger.status? id = some .executing → p.ledger.status? id = some .executing
  delivered : ∀ value, outcome = .ok value → p'.ledger.status? id = some .succeeded

section Honest

variable {id : String} {p p' : Post} {e : Exn} {value : Value}

theorem honest_undecided (h : e.isDefinitive = false) : Honest id p (.error e) p' := by
  constructor <;> rintro _ ⟨⟩ <;> simp [h]

theorem honest_definitive (h : e.isDefinitive) : Honest id p (.error e) p' ↔
    p'.acceptedFor id = [] ∧ (p'.ledger.status? id = some .executing → p.ledger.status? id = some .executing) := by
  constructor
  · intro honest
    exact ⟨honest.unaccepted e rfl h, honest.settled e rfl h⟩
  · rintro ⟨unaccepted, settled⟩
    constructor <;> rintro _ ⟨⟩
    · exact fun _ => unaccepted
    · exact fun _ => settled

theorem honest_ok : Honest id p (.ok value) p' ↔ p'.ledger.status? id = some .succeeded := by
  constructor
  · exact fun honest => honest.delivered value rfl
  · intro delivered
    constructor <;> rintro _ ⟨⟩
    exact delivered

end Honest

/-- The ledger turns the request down: the row has another envelope, or ended without the
whole delivery. -/
def rowRefused (digest : String) (row : MailDeliveryRecord) : Prop :=
  row.envelopeDigest ≠ digest ∨ row.status = .failed ∨ row.status = .partialDelivery

/-- The broker turns the message down: it raises a `MailError` that needs no user action, or
its receipt of the action is FAILED or PARTIAL. -/
def brokerRefused (id : String) : Except Exn MailDeliveryReceipt → Prop
  | .error (.runtime kind _) => ∃ code, kind.mailCode? = some code ∧ code.needsUserAction = false
  | .error _ => False
  | .ok receipt => receipt.localActionId = id ∧ (receipt.status = .failed ∨ receipt.status = .partialDelivery)

/-- The broker itself raises `DefinitiveToolFailure`, or its receipt is that of another
action whose row takes it. -/
def brokerStrands (l : Ledger) (id digest : String) : Except Exn MailDeliveryReceipt → Prop
  | .error e => e.isDefinitive
  | .ok receipt => receipt.localActionId ≠ id ∧
      (receipt.status = .succeeded ∨ receipt.status = .failed ∨ receipt.status = .partialDelivery) ∧
      ∃ row, l.rows receipt.localActionId = some row ∧ row.envelopeDigest = digest ∧
        (row.status = .executing ∨ row.status = receipt.status)

variable (x : MailSendExecutor)

/-- Something turns the request down after the claim. -/
def Late (expectations : Expectations) (r : Replies) : Prop :=
  (∃ a ∈ r.recheck, sendingRefused x expectations a) ∨
    ∃ a ∈ r.broker, brokerRefused expectations.localActionId a

/-- The call ends after the claim without an entry in its row: the registry does not have the
account any more, or the broker does not answer for the action. -/
def Stranded (expectations : Expectations) (digest : String) (l : Ledger) (r : Replies) : Prop :=
  (∃ a ∈ r.recheck, accountRefused x expectations a) ∨
    ∃ a ∈ r.broker, brokerStrands l expectations.localActionId digest a

/-- The row is being executed for the envelope. -/
def Ledger.Held (l : Ledger) (id digest : String) : Prop :=
  ∃ row, l.rows id = some row ∧ row.status = .executing ∧ row.envelopeDigest = digest

section Ledger

variable {l : Ledger} {id digest : String} {result : DeliveryResult}

theorem Ledger.Held.status (held : l.Held id digest) : l.status? id = some .executing := by
  obtain ⟨row, found, executing, -⟩ := held
  rw [status?, found]
  exact congrArg some executing

theorem Ledger.Held.finalize (held : l.Held id digest) (result : DeliveryResult) (terminal : result.status.terminal) :
    (l.finalize id digest result).1 = .ok result.status ∧
      (l.finalize id digest result).2.status? id = some result.status := by
  obtain ⟨row, found, executing, same⟩ := held
  have unfinished : ¬ row.status.terminal = true := by rw [executing]; decide
  unfold Ledger.finalize
  rw [if_neg (by simp [terminal]), found]
  dsimp only
  rw [if_neg (not_not.mpr same), if_neg unfinished, if_neg (not_not.mpr executing)]
  exact ⟨rfl, status?_put found rfl⟩

theorem Ledger.finalize_other {other : String} (h : id ≠ other) :
    (l.finalize other digest result).2.rows id = l.rows id := by
  unfold Ledger.finalize
  split; · rfl
  split; · rfl
  split; · rfl
  split; · rfl
  split; · rfl
  rename_i row found _ _ _
  refine l.put_of_ne _ ?_
  rw [l.keyed other row found]
  exact h

/-- A terminal status is taken by an executing row of the envelope, and by a row that has
it. -/
theorem Ledger.finalize_taken (l : Ledger) (id digest : String) (terminal : result.status.terminal) :
    (l.finalize id digest result).1 = .ok result.status ↔
      ∃ row, l.rows id = some row ∧ row.envelopeDigest = digest ∧
        (row.status = .executing ∨ row.status = result.status) := by
  unfold Ledger.finalize
  rw [if_neg (by simp [terminal])]
  cases found : l.rows id with
  | none => simp
  | some row =>
    by_cases same : row.envelopeDigest = digest
    · cases status : row.status <;> simp [same, status, MailDeliveryStatus.terminal, eq_comm]
      intro h
      rw [← h] at terminal
      cases terminal
    · simp [same]

/-- The answer of `finalize` is a terminal state, or an error of the ledger. -/
theorem Ledger.finalize_answer (l : Ledger) (id digest : String) (result : DeliveryResult) :
    (∃ final, final.terminal ∧ (l.finalize id digest result).1 = .ok final) ∨
      ∃ kind message, (l.finalize id digest result).1 = .error (.runtime kind message) := by
  unfold Ledger.finalize
  split
  · exact .inr ⟨_, _, rfl⟩
  rename_i terminal
  split
  · exact .inr ⟨_, _, rfl⟩
  split
  · exact .inr ⟨_, _, rfl⟩
  split
  · exact .inl ⟨_, by assumption, rfl⟩
  split
  · exact .inr ⟨_, _, rfl⟩
  · exact .inl ⟨_, by simpa using terminal, rfl⟩

end Ledger

section Runs

variable {x : MailSendExecutor} {expectations : Expectations} {id digest : String} {p p₀ : Post} {r : Replies}

theorem finalizeFailure_runs {code : String} (held : p.ledger.Held id digest) :
    Runs mailWorld note (finalizeFailure id digest code)
      (fun outcome st => outcome = .ok () ∧ st.1.ledger.status? id = some .failed ∧ st.1.accepted = p.accepted ∧
        st.2 = r)
      (p, r) := by
  refine wp.bind (wp.attempt (runs_effect (fun _ => rfl) fun turn => ?_))
  obtain ⟨answer, after⟩ := held.finalize { status := .failed, diagnosticCode := some code } rfl
  dsimp only [either]
  rw [answer]
  exact wp.pure ⟨rfl, after, rfl, rfl⟩

/-- The row was claimed by this call, and the others are as they were before it. -/
structure Won (before : Ledger) (id digest : String) (now : Ledger) : Prop where
  held : now.Held id digest
  fresh : before.status? id ≠ some .executing
  others : ∀ other, other ≠ id → now.rows other = before.rows other

/-- What `_complete` writes. -/
abbrev MailDeliveryReceipt.result (receipt : MailDeliveryReceipt) : DeliveryResult :=
  ⟨receipt.status, receipt.recipientResults, receipt.serverCode, none⟩

/-- How `_complete` ends, by the status of the receipt and whether the ledger took it. -/
inductive Concluded (receipt : MailDeliveryReceipt) (taken : Prop) : Except Exn Value → Prop where
  | delivered (value : Value) : taken → receipt.status = .succeeded → Concluded receipt taken (.ok value)
  | refused (e : Exn) : taken → receipt.status = .failed ∨ receipt.status = .partialDelivery → e.isDefinitive →
      Concluded receipt taken (.error e)
  | undecided (e : Exn) : ¬ taken ∨ receipt.status.terminal = false ∨ receipt.status = .unknown →
      e.isDefinitive = false → Concluded receipt taken (.error e)

variable {receipt : MailDeliveryReceipt} {ownerId accountId : String} {outcome : Except Exn Value}
  {materialized : Value}
  {delivery : MailDeliveryRequest} {status : MailDeliveryStatus}

/-- The answer of the ledger to it, and the ledger after it. -/
abbrev Ledger.take (l : Ledger) (digest : String) (receipt : MailDeliveryReceipt) :
    Except Exn MailDeliveryStatus × Ledger :=
  l.finalize receipt.localActionId digest receipt.result

/-- A delivery that was completed is concluded in the ledger. -/
theorem complete_concludes : Runs mailWorld note (complete expectations receipt digest materialized)
      (fun outcome st => st = ({ p with ledger := (p.ledger.take digest receipt).2 }, r) ∧
        Concluded receipt ((p.ledger.take digest receipt).1 = .ok receipt.status) outcome) (p, r) := by
  refine wp.bind (wp.attempt (runs_effect (fun _ => rfl) fun turn => ?_))
  dsimp only [either]
  rcases finalize_answer p.ledger receipt.localActionId digest receipt.result with ⟨final, terminal, answer⟩ |
    ⟨kind, message, answer⟩
  · rw [answer]
    refine wp.ite ⟨fun differs => wp.raise ⟨rfl, .undecided _ (.inl ?_) rfl⟩, fun same => ?_⟩
    · exact fun h => differs.2 (Except.ok.inj h)
    obtain rfl : final = receipt.status := not_not.mp fun differs => same ⟨terminal, differs⟩
    split
    · exact wp.raise ⟨rfl, .undecided _ (.inr (.inr (by assumption))) rfl⟩
    · exact wp.raise ⟨rfl, .refused _ rfl (.inr (by assumption)) rfl⟩
    · exact wp.raise ⟨rfl, .refused _ rfl (.inl (by assumption)) rfl⟩
    · rename_i known whole tried
      refine wp.pure ⟨rfl, .delivered _ rfl ?_⟩
      cases status : receipt.status <;> simp_all [MailDeliveryStatus.terminal]
  · rw [answer]
    exact wp.raise ⟨rfl, .undecided _ (.inl nofun) rfl⟩

theorem terminal_of_refused (h : status = .failed ∨ status = .partialDelivery) : status.terminal := by
  rcases h with rfl | rfl <;> rfl

/-- A decision is undecided only if the ledger did not take it. -/
theorem untaken_of_decided {taken : Prop} (why : ¬ taken ∨ status.terminal = false ∨ status = .unknown)
    (decided : status = .succeeded ∨ status = .failed ∨ status = .partialDelivery) : status.terminal ∧ ¬ taken := by
  rcases decided with rfl | rfl | rfl <;> exact ⟨rfl, why.resolve_right (by decide)⟩

/-- A definitive failure is a lie while the row that the call claimed is EXECUTING. -/
theorem Won.dishonest {now : Ledger} {e : Exn} (won : Won p₀.ledger id digest now) (definitive : e.isDefinitive)
    (executing : p.ledger.status? id = some .executing) : ¬ Honest id p₀ (.error e) p :=
  fun honest => won.fresh (((honest_definitive definitive).mp honest).2 executing)

/-- The row of the call takes a terminal receipt, which is a refusal or the delivery. -/
theorem Concluded.own (held : p.ledger.Held receipt.localActionId digest)
    (h : Concluded receipt ((p.ledger.take digest receipt).1 = .ok receipt.status) outcome) :
    Honest receipt.localActionId p₀ outcome { p with ledger := (p.ledger.take digest receipt).2 } ↔
      p.acceptedFor receipt.localActionId = [] ∨ ¬ (receipt.status = .failed ∨ receipt.status = .partialDelivery) := by
  have after (terminal : receipt.status.terminal) := held.finalize receipt.result terminal
  cases h with
  | delivered value _ status =>
    refine iff_of_true (honest_ok.mpr ?_) (.inr (by simp [status]))
    exact (after (by rw [status]; rfl)).2.trans (congrArg some status)
  | refused e _ status definitive =>
    have settled : (p.ledger.take digest receipt).2.status? receipt.localActionId ≠ some .executing := by
      rw [(after (terminal_of_refused status)).2]
      rcases status with status | status <;> simp [status]
    rw [honest_definitive definitive]
    simp only [settled, false_imp_iff, and_true, status, not_true_eq_false, or_false]
    rfl
  | undecided e why undecided =>
    refine iff_of_true (honest_undecided undecided) (.inr fun status => ?_)
    obtain ⟨terminal, untaken⟩ := untaken_of_decided why (.inr status)
    exact untaken (after terminal).1

/-- A receipt of another action leaves the row of the call EXECUTING. -/
theorem Concluded.foreign (won : Won p₀.ledger id digest p.ledger) (other : receipt.localActionId ≠ id)
    (h : Concluded receipt ((p.ledger.take digest receipt).1 = .ok receipt.status) outcome) :
    Honest id p₀ outcome { p with ledger := (p.ledger.take digest receipt).2 } ↔
      ¬ brokerStrands p₀.ledger id digest (.ok receipt) := by
  have executing : (p.ledger.take digest receipt).2.status? id = some .executing := by
    rw [status?, finalize_other other.symm]
    exact won.held.status
  have taken (terminal : receipt.result.status.terminal) :=
    finalize_taken p.ledger receipt.localActionId digest terminal
  rw [won.others _ other] at taken
  cases h with
  | delivered value took status =>
    refine iff_of_false (fun honest => ?_)
      (not_not.mpr ⟨other, .inl status, (taken (by simp [status, MailDeliveryStatus.terminal])).mp took⟩)
    cases executing.symm.trans (honest_ok.mp honest)
  | refused e took status definitive =>
    refine iff_of_false (won.dishonest definitive executing) (not_not.mpr ⟨other, .inr status, ?_⟩)
    exact (taken (terminal_of_refused status)).mp took
  | undecided e why undecided =>
    refine iff_of_true (honest_undecided undecided) ?_
    rintro ⟨-, status, row⟩
    obtain ⟨terminal, untaken⟩ := untaken_of_decided why status
    exact untaken ((taken terminal).mpr row)

/-- `_complete` tells the truth unless the receipt is that of another action, or a refusal of
a message that somebody accepted. -/
theorem complete_runs (won : Won p₀.ledger expectations.localActionId digest p.ledger) :
    Runs mailWorld note (complete expectations receipt digest materialized)
      (fun outcome st => st.2 = r ∧ (Honest expectations.localActionId p₀ outcome st.1 ↔
        ¬ brokerStrands p₀.ledger expectations.localActionId digest (.ok receipt) ∧
          (st.1.acceptedFor expectations.localActionId = [] ∨
            ¬ brokerRefused expectations.localActionId (.ok receipt))))
      (p, r) := by
  refine wp_mono (fun outcome st h => ?_) complete_concludes
  obtain ⟨rfl, concluded⟩ := h
  refine ⟨rfl, ?_⟩
  by_cases own : receipt.localActionId = expectations.localActionId
  · have held := won.held
    rw [← own] at held ⊢
    have unstranded : ¬ brokerStrands p₀.ledger receipt.localActionId digest (.ok receipt) := fun h => h.1 rfl
    simp only [brokerRefused, true_and]
    exact (concluded.own held).trans (and_iff_right unstranded).symm
  · simpa [brokerRefused, own] using concluded.foreign won own

/-- A failed submission tells the truth unless the broker raised a definitive failure of its
own, or refused a message that somebody accepted. -/
def SubmitFailed (p₀ : Post) (id digest : String) (a : Except Exn MailDeliveryReceipt) (e : Exn) (p' : Post) : Prop :=
  Honest id p₀ (.error e) p' ↔
    ¬ brokerStrands p₀.ledger id digest a ∧ (p'.acceptedFor id = [] ∨ ¬ brokerRefused id a)

/-- What a submission to the broker leaves of the ledger. -/
theorem submit_runs (won : Won p₀.ledger id digest p.ledger) :
    Runs mailWorld note (submit id digest accountId delivery)
      (fun outcome st => ∃ a, st.2 = { r with broker := some a } ∧
        match outcome with
        | .ok receipt => a = .ok receipt ∧ st.1.ledger = p.ledger
        | .error e => SubmitFailed p₀ id digest a e st.1) (p, r) := by
  refine wp.bind (wp.attempt (runs_drift (fun _ => rfl) fun a turn _ => ?_))
  dsimp only [either]
  split
  · exact wp.pure ⟨_, rfl, rfl, rfl⟩
  · rename_i kind message _
    split
    · rename_i code hcode
      refine wp.after (finalizeFailure_runs won.held) fun outcome st h => ?_
      obtain ⟨rfl, failed, accepted, replies⟩ := h
      have settled : st.1.ledger.status? id ≠ some .executing := by simp [failed]
      refine wp.ite ⟨fun user => wp.raise ⟨_, replies, ?_⟩, fun refuses => wp.raise ⟨_, replies, ?_⟩⟩
      · exact iff_of_true (honest_undecided rfl) ⟨nofun, .inr (by simp [brokerRefused, hcode, user])⟩
      · refine (honest_definitive rfl).trans ?_
        simp [brokerStrands, brokerRefused, hcode, refuses, settled, Exn.isDefinitive]
    · rename_i hcode
      exact wp.raise ⟨_, rfl, iff_of_true (honest_undecided rfl) ⟨nofun, .inr (by simp [brokerRefused, hcode])⟩⟩
  · rename_i exc other _
    refine wp.raise ⟨_, rfl, ?_⟩
    have unrefused : ¬ brokerRefused id (.error exc) := by
      cases exc with
      | runtime kind message => exact absurd rfl (other kind message)
      | _ => exact fun h => h
    cases definitive : exc.isDefinitive with
    | false => exact iff_of_true (honest_undecided definitive) ⟨by simp [brokerStrands, definitive], .inr unrefused⟩
    | true =>
      -- nothing was recorded: the row is still EXECUTING
      exact iff_of_false (won.dishonest definitive won.held.status) fun h => h.1 definitive

/-- What the transport leaves of the ledger. -/
theorem transport_runs (won : Won p₀.ledger id digest p.ledger) :
    Runs mailWorld note (x.transport id digest ownerId accountId delivery)
      (fun outcome st => ∃ a, st.2 = { r with broker := some a } ∧
        match outcome with
        | .ok receipt => a = .ok receipt ∧ st.1.ledger = p.ledger
        | .error e => SubmitFailed p₀ id digest a e st.1) (p, r) := by
  have owners {α : Type} {c : MailM Unit} {k : Unit → MailM α} {Q : Except Exn α → Post × Replies → Prop}
      {st : Post × Replies} (idle : ∀ Q, Q (.ok ()) st → Runs mailWorld note c Q st)
      (rest : Runs mailWorld note (k ()) Q st) :
      Runs mailWorld note ((if x.hasOwners then c else pure ()) >>= k) Q st := by
    cases x.hasOwners
    · exact rest
    · exact wp.bind (idle _ rest)
  refine owners (fun Q h => runs_inert (MailOp.inert_ofHost rfl) fun a answered => ?_) ?_
  · obtain ⟨⟨⟩, rfl⟩ := answered rfl
    exact h
  refine runs_inert_total (MailOp.inert_ofHost rfl) rfl (fun _ => rfl) fun _ => ?_
  refine wp.tried (submit_runs won) fun outcome st h => ?_
  obtain ⟨p', r'⟩ := st
  refine runs_inert_total (MailOp.inert_ofHost rfl) rfl (fun _ => rfl) fun _ => ?_
  refine owners (fun Q h => runs_inert (MailOp.inert_ofHost rfl) fun a answered => ?_) (wp.ofExcept h)
  obtain ⟨⟨⟩, rfl⟩ := answered rfl
  exact h

/-- The end of a call tells the truth about its action exactly when it is not stranded, and
nothing turned the request down late or nobody accepted the message. -/
def Judged (x : MailSendExecutor) (expectations : Expectations) (digest : String) (p₀ : Post) (r : Replies)
    (outcome : Except Exn Value) (st : Post × Replies) : Prop :=
  st.2.checks = r.checks ∧ (Honest expectations.localActionId p₀ outcome st.1 ↔
    ¬ Stranded x expectations digest p₀.ledger st.2 ∧
      (st.1.acceptedFor expectations.localActionId = [] ∨ ¬ Late x expectations st.2))

/-- What the dispatch tells its caller agrees with what the ledger has. -/
theorem dispatch_judged {checked : MailSendExecutor.Checked} {started : Time}
    (won : Won p₀.ledger checked.expectations.localActionId checked.envelopeDigest p.ledger)
    (resolved : r.checks.account.isSome ∧ r.checks.again.isSome) (unsent : r.broker = none) :
    Runs mailWorld note (x.dispatch checked ownerId started)
      (Judged x checked.expectations checked.envelopeDigest p₀ r) (p, r) := by
  have note {accountId : String} {a : Except Exn MailAccountRecord} :
      r.note ⟨.resolveAccount accountId, a⟩ = { r with recheck := some a } := by
    simp [note, Option.isSome_iff_ne_none.mp resolved.1, Option.isSome_iff_ne_none.mp resolved.2]
  refine wp.after lookupAccount_runs fun outcome st h => ?_
  obtain ⟨a, rfl, h⟩ := h
  rw [note]
  cases outcome with
  | error e =>
    have enabled : ¬ sendingRefused x checked.expectations a := fun ⟨account, ha, bound, _⟩ => h.2 account ha bound
    refine ⟨rfl, ?_⟩
    cases definitive : e.isDefinitive with
    | false =>
      have accepted : ¬ accountRefused x checked.expectations a := by simpa [definitive] using h.1
      exact iff_of_true (honest_undecided definitive)
        ⟨by simp [Stranded, accepted, unsent], .inr (by simp [Late, enabled, unsent])⟩
    | true =>
      -- the claim stands, and the failure is called definitive
      exact iff_of_false (won.dishonest definitive won.held.status) fun clear =>
        clear.1 (.inl ⟨a, rfl, h.1.mp definitive⟩)
  | ok account =>
  obtain ⟨rfl, bound⟩ := h
  have trusted := accountRefused_bound bound
  have sending := sendingRefused_bound bound
  refine wp.ite ⟨fun disabled => ?_, fun enabled => ?_⟩
  · refine wp.after (finalizeFailure_runs won.held) fun outcome st h => ?_
    obtain ⟨rfl, failed, -, replies⟩ := h
    have settled : st.1.ledger.status? checked.expectations.localActionId ≠ some .executing := by simp [failed]
    refine wp.raise ⟨by rw [replies], (honest_definitive rfl).trans ?_⟩
    simp [replies, Stranded, Late, trusted, unsent, sending, disabled, settled]
  replace sending : ¬ sendingRefused x checked.expectations (.ok account) := by simp [sending, enabled]
  refine runs_inert_total (MailOp.inert_ofHost rfl) rfl (fun _ => rfl) fun now => ?_
  refine wp.ite ⟨fun expired => wp.raise ⟨rfl, iff_of_true (honest_undecided rfl) ⟨?_, .inr ?_⟩⟩, fun _ => ?_⟩
  · simp [Stranded, trusted, unsent]
  · simp [Late, sending, unsent]
  refine wp.after (transport_runs won) fun outcome st h => ?_
  obtain ⟨p', r'⟩ := st
  obtain ⟨a, rfl, h⟩ := h
  have stranded : Stranded x checked.expectations checked.envelopeDigest p₀.ledger
      { r with recheck := some (.ok account), broker := some a } ↔
      brokerStrands p₀.ledger checked.expectations.localActionId checked.envelopeDigest a := by simp [Stranded, trusted]
  have late : Late x checked.expectations { r with recheck := some (.ok account), broker := some a } ↔
      brokerRefused checked.expectations.localActionId a := by simp [Late, sending]
  cases outcome with
  | error e =>
    refine ⟨rfl, ?_⟩
    rw [stranded, late]
    exact h
  | ok receipt =>
    obtain ⟨rfl, same⟩ := h
    refine wp_mono (fun outcome st h => ?_) (complete_runs (p := p') (same ▸ won))
    obtain ⟨replies, h⟩ := h
    refine ⟨by rw [replies], ?_⟩
    rw [replies, stranded, late]
    exact h

/-- The row waits for its first dispatch, and the others are as they were before the call. -/
structure Ready (before : Ledger) (id digest : String) (now : Ledger) : Prop where
  row : ∃ row, now.rows id = some row ∧ row.status = .prepared ∧ row.envelopeDigest = digest
  fresh : before.status? id ≠ some .executing
  others : ∀ other, other ≠ id → now.rows other = before.rows other

/-- `_begin` claims a waiting row, or raises no definitive failure. -/
theorem begin_runs (ready : Ready p₀.ledger id digest p.ledger) : Runs mailWorld note (x.begin_ id digest ownerId)
      (fun outcome st => st.2 = r ∧ ((∃ e, outcome = .error e ∧ e.isDefinitive = false) ∨
        outcome = .ok .executing ∧ Won p₀.ledger id digest st.1.ledger)) (p, r) := by
  obtain ⟨⟨row, found, prepared, same⟩, fresh, others⟩ := ready
  refine wp.bind (wp.attempt (runs_effect (fun _ => rfl) fun turn => ?_))
  dsimp only [either]
  cases grantable : leaseGrantable ownerId x.leaseSeconds with
  | false =>
    rw [beginExecution, if_pos grantable]
    exact wp.raise ⟨rfl, .inl ⟨_, rfl, rfl⟩⟩
  | true =>
    have answer : p.ledger.beginExecution turn.now id digest ownerId x.leaseSeconds =
        (.ok .executing, p.ledger.put { row with
          status := .executing, ownerId := some ownerId, leaseExpiresAt := some (turn.now + x.leaseSeconds) }) := by
      simp [beginExecution, grantable, found, same, prepared]
    rw [answer]
    refine wp.pure ⟨rfl, .inr ⟨rfl, ⟨_, put_found found rfl, rfl, same⟩, fresh, fun other h => ?_⟩⟩
    refine (put_of_ne _ _ ?_).trans (others other h)
    rw [p.ledger.keyed id row found]
    exact h

/-- The ledger turned the request down before the claim. -/
def RowRefused (id digest : String) (l : Ledger) : Prop := ∃ row, l.rows id = some row ∧ rowRefused digest row

/-- The truth of the end of `execute` from the ledger on. -/
def Delivered (x : MailSendExecutor) (expectations : Expectations) (digest : String) (p₀ : Post) (r : Replies)
    (outcome : Except Exn Value) (st : Post × Replies) : Prop :=
  st.2.checks = r.checks ∧ (Honest expectations.localActionId p₀ outcome st.1 ↔
    ¬ Stranded x expectations digest p₀.ledger st.2 ∧ (st.1.acceptedFor expectations.localActionId = [] ∨
      ¬ (RowRefused expectations.localActionId digest p₀.ledger ∨ Late x expectations st.2)))

section Deliver

variable {checked : MailSendExecutor.Checked} (fresh : r.recheck = none ∧ r.broker = none)

include fresh

theorem not_stranded : ¬ Stranded x expectations digest p₀.ledger r := by
  simp [Stranded, fresh]

theorem not_late : ¬ Late x expectations r := by
  simp [Late, fresh]

/-- An end before the claim is judged by the row alone. -/
theorem delivered_unclaimed {p' : Post} (h : Honest expectations.localActionId p₀ outcome p' ↔
      p'.acceptedFor expectations.localActionId = [] ∨ ¬ RowRefused expectations.localActionId digest p₀.ledger) :
    Delivered x expectations digest p₀ r outcome (p', r) := by
  refine ⟨rfl, h.trans ?_⟩
  simp [not_stranded fresh, not_late fresh]

/-- `_replay_view` of a row that ended before. -/
theorem replay_delivered {row : MailDeliveryRecord}
    (found : p.ledger.rows expectations.localActionId = some row) (same : row.envelopeDigest = digest)
    (terminal : row.status.terminal) :
    Delivered x expectations digest p r (replayView expectations materialized row.status) (p, r) := by
  have status : p.ledger.status? expectations.localActionId = some row.status := by simp [status?, found]
  refine delivered_unclaimed fresh ?_
  cases hstatus : row.status with
  | unknown => exact iff_of_true (honest_undecided rfl) (.inr (by simp [RowRefused, found, rowRefused, same, hstatus]))
  | failed | partialDelivery =>
    refine (honest_definitive rfl).trans ?_
    simp [RowRefused, found, rowRefused, hstatus]
  | succeeded =>
    refine iff_of_true (honest_ok.mpr (status.trans (congrArg some hstatus))) (.inr ?_)
    simp [RowRefused, found, rowRefused, same, hstatus]
  | prepared | executing =>
    rw [hstatus] at terminal
    cases terminal

/-- A delivery that is ready to be sent. -/
theorem deliver_ready (ready : Ready p₀.ledger checked.expectations.localActionId checked.envelopeDigest p.ledger)
    (unrefused : ¬ RowRefused checked.expectations.localActionId checked.envelopeDigest p₀.ledger)
    (resolved : r.checks.account.isSome ∧ r.checks.again.isSome) :
    Runs mailWorld note
      (do
        let hex ← mail .uuid4
        let ownerId := x.ownerId ++ "-" ++ hex
        let claimStarted : Time ← mail .monotonic
        let claimed ← x.begin_ checked.expectations.localActionId checked.envelopeDigest ownerId
        if claimed.terminal then ofExcept (replayView checked.expectations checked.materialized claimed)
        else if claimed ≠ .executing then
          raise (.outcomeUnknown checked.expectations.localActionId "the transport ledger is not executable")
        else x.dispatch checked ownerId claimStarted)
      (Delivered x checked.expectations checked.envelopeDigest p₀ r) (p, r) := by
  refine runs_inert_total (MailOp.inert_ofHost rfl) rfl (fun _ => rfl) fun hex => ?_
  refine runs_inert_total (MailOp.inert_ofHost rfl) rfl (fun _ => rfl) fun started => ?_
  refine wp.after (begin_runs ready) fun outcome st h => ?_
  obtain ⟨p', r'⟩ := st
  obtain ⟨rfl, ⟨e, rfl, undecided⟩ | ⟨rfl, won⟩⟩ := h
  · exact ⟨rfl, iff_of_true (honest_undecided undecided)
      ⟨not_stranded fresh, .inr fun h => h.elim unrefused (not_late fresh)⟩⟩
  · refine wp_mono (fun outcome st h => ?_) (dispatch_judged won resolved fresh.2)
    refine ⟨h.1, h.2.trans ?_⟩
    simp [unrefused]

/-- `execute` from the ledger on, by the row it finds. -/
theorem deliver_runs (resolved : r.checks.account.isSome ∧ r.checks.again.isSome) :
    Runs mailWorld note (x.deliver checked)
      (Delivered x checked.expectations checked.envelopeDigest p r) (p, r) := by
  refine wp.bind (wp.bind (wp.attempt (runs_effect (fun _ => rfl) fun turn => ?_)))
  dsimp only [either]
  cases found : p.ledger.rows checked.expectations.localActionId with
  | none =>
    simp only [Ledger.prepare, found]
    refine wp.pure (wp.ite ⟨nofun, fun _ => wp.ite ⟨nofun, fun _ => ?_⟩⟩)
    refine deliver_ready fresh ⟨⟨_, put_self _ _, rfl, rfl⟩, ?_, fun other h => put_of_ne _ _ h⟩ ?_ resolved
    · simp [status?, found]
    · simp [RowRefused, found]
  | some row =>
    simp only [Ledger.prepare, found]
    by_cases same : row.envelopeDigest = checked.envelopeDigest
    · rw [if_neg (not_not.mpr same)]
      have unrefused (h : row.status ≠ .failed ∧ row.status ≠ .partialDelivery) :
          ¬ RowRefused checked.expectations.localActionId checked.envelopeDigest p.ledger := by
        simp [RowRefused, found, rowRefused, same, h]
      refine wp.pure (wp.ite ⟨fun terminal => wp.ofExcept ?_, fun open_ => ?_⟩)
      · exact replay_delivered fresh found same terminal
      refine wp.ite ⟨fun executing => wp.raise ?_, fun idle => ?_⟩
      · exact delivered_unclaimed fresh (iff_of_true (honest_undecided rfl) (.inr (unrefused (by simp [executing]))))
      have prepared : row.status = .prepared := by
        cases status : row.status <;> simp_all [MailDeliveryStatus.terminal]
      refine deliver_ready fresh ⟨⟨row, found, prepared, same⟩, ?_, fun _ _ => rfl⟩
        (unrefused (by simp [prepared])) resolved
      simp [status?, found, prepared]
    · rw [if_pos same]
      refine wp.raise (delivered_unclaimed fresh ((honest_definitive rfl).trans ?_))
      simp [RowRefused, found, rowRefused, same]

end Deliver

end Runs

/-- Something turns the request down: a check before the ledger, the row, or the registry or
the broker after the claim. -/
def Declined (descriptor : ToolDescriptor) (arguments : List (String × Value))
    (context : ToolExecutionContext) (l : Ledger) (r : Replies) : Prop :=
  Refused x descriptor arguments context r.checks ∨
    ∃ expectations digest, expectationsOf x.host arguments context = .ok expectations ∧
      canonicalSha256 x.host.toHost (.dict arguments) = .ok digest ∧ r.checks.available = some (.ok true) ∧
      (RowRefused expectations.localActionId digest l ∨ Late x expectations r)

/-- The call is left without an entry in the row it claimed. -/
def Abandoned (arguments : List (String × Value)) (context : ToolExecutionContext)
    (l : Ledger) (r : Replies) : Prop :=
  ∃ expectations digest, expectationsOf x.host arguments context = .ok expectations ∧
    canonicalSha256 x.host.toHost (.dict arguments) = .ok digest ∧ Stranded x expectations digest l r

section Execute

variable {x : MailSendExecutor} {descriptor : ToolDescriptor} {arguments : List (String × Value)}
  {context : ToolExecutionContext} {p : Post} {r : Replies} {id : String}

/-- The expectations are for the action that the arguments name. -/
theorem expectationsOf_id {host : MailHost} {expectations : Expectations}
    (read : expectationsOf host arguments context = .ok expectations)
    (named : Value.get? (.dict arguments) "local_action_id" = some (.str id)) : expectations.localActionId = id := by
  unfold expectationsOf at read
  split at read
  · cases read
  rename_i found parsed
  split at read
  · cases read
  split at read
  · cases read
  cases read
  obtain ⟨localActionId, text, rest⟩ := bind_eq_ok parsed
  iterate 12 obtain ⟨_, -, rest⟩ := bind_eq_ok rest
  cases rest
  rw [named] at text
  simp only [textOf] at text
  split at text; · cases text
  split at text; · cases text
  split at text; · cases text
  exact (Except.ok.inj text).symm

/-- What `execute` tells its caller, over the whole run. -/
theorem execute_runs (named : Value.get? (.dict arguments) "local_action_id" = some (.str id)) :
    Runs mailWorld note (x.execute descriptor arguments context)
      (fun outcome st => Honest id p outcome st.1 ↔ ¬ Abandoned x arguments context p.ledger st.2 ∧
        (st.1.acceptedFor id = [] ∨ ¬ Declined x descriptor arguments context p.ledger st.2)) (p, {}) := by
  refine wp.after verify_runs fun outcome st h => ?_
  obtain ⟨p', r⟩ := st
  obtain ⟨rfl, h⟩ := h
  cases outcome with
  | error e =>
    obtain ⟨definitive, undigested, fresh⟩ := h
    have unabandoned : ¬ Abandoned x arguments context p'.ledger r := by
      rintro ⟨expectations, digest, -, -, stranded⟩
      exact not_stranded fresh stranded
    have declined : Declined x descriptor arguments context p'.ledger r ↔ e.isDefinitive := by
      rw [definitive]
      refine or_iff_left ?_
      rintro ⟨expectations, digest, -, found, available, -⟩
      exact undigested available digest found
    show Honest id p' (.error e) p' ↔ ¬ Abandoned x arguments context p'.ledger r ∧ _
    rw [declined, and_iff_right unabandoned]
    cases decided : e.isDefinitive with
    | false => exact iff_of_true (honest_undecided decided) (.inr (by simp))
    | true =>
      refine (honest_definitive decided).trans ?_
      simp
  | ok checked =>
    obtain ⟨read, digest, unrefused, resolved, available, fresh⟩ : Passed x descriptor arguments context checked r := h
    obtain rfl := expectationsOf_id read named
    refine wp_mono (fun outcome st delivered => ?_) (deliver_runs fresh resolved)
    obtain ⟨checks, delivered⟩ := delivered
    have abandoned : Abandoned x arguments context p'.ledger st.2 ↔
        Stranded x checked.expectations checked.envelopeDigest p'.ledger st.2 := by
      simp [Abandoned, read, digest]
    have declined : Declined x descriptor arguments context p'.ledger st.2 ↔
        RowRefused checked.expectations.localActionId checked.envelopeDigest p'.ledger ∨
          Late x checked.expectations st.2 := by
      simp [Declined, checks, unrefused, read, digest, available]
    rw [abandoned, declined]
    exact delivered

/-- **Honesty.** For every call that runs alone on a ledger that does not fail, with any answers
of the registry, the extension, the artifact store, the parser and the broker: its end tells
the truth about its action exactly when the claimed row is not abandoned, and nobody ever
accepted the message or nothing turned the request down. -/
theorem honest_iff (x : MailSendExecutor) (descriptor : ToolDescriptor) (arguments : List (String × Value))
    (context : ToolExecutionContext) {p p' : Post} {tr : List MailEvent} {outcome : Except Exn Value} {id : String}
    (named : Value.get? (.dict arguments) "local_action_id" = some (.str id))
    (run : Exec mailWorld.reliable (x.execute descriptor arguments context) p tr outcome p') :
    Honest id p outcome p' ↔ ¬ Abandoned x arguments context p.ledger (tr.foldl Replies.note {}) ∧
      (p'.acceptedFor id = [] ∨ ¬ Declined x descriptor arguments context p.ledger (tr.foldl Replies.note {})) :=
  Exec.post (Steps.ghost (f := note) run {}) (execute_runs named)

end Execute

/-- The host of the sample call: the registry answers by the state of the row, the broker as
given, and those listed accept the message. -/
def sampleSendAnswer (registry : Option MailDeliveryStatus → Except Exn MailAccountRecord)
    (broker : Except Exn MailDeliveryReceipt) (accepting : List String) (p : Post) (op : MailOp) :
    Except Exn op.Ans × Post :=
  mailWorld.answerWith ⟨0, accepting⟩ (sampleMailAnswers (registry (p.ledger.status? "action")) broker) p op

/-- The sample call on a ledger without rows. -/
def sampleSend (registry : Option MailDeliveryStatus → Except Exn MailAccountRecord)
    (broker : Except Exn MailDeliveryReceipt) (accepting : List String) : List MailEvent × Except Exn Value × Post :=
  play (sampleSendAnswer registry broker accepting)
    (sampleExecutor.execute sampleSendTool sampleMailArguments sampleMailContext) ⟨.empty, []⟩

theorem sampleSend_exec (registry : Option MailDeliveryStatus → Except Exn MailAccountRecord)
    (broker : Except Exn MailDeliveryReceipt) (accepting : List String) :
    Exec mailWorld.reliable (sampleExecutor.execute sampleSendTool sampleMailArguments sampleMailContext) ⟨.empty, []⟩
      (sampleSend registry broker accepting).1 (sampleSend registry broker accepting).2.1
      (sampleSend registry broker accepting).2.2 :=
  play_exec (fun sh p op =>
    World.answerWith_reliable (mailWorld_own ⟨0, accepting⟩) (sampleMailAnswers_total _ _) sh p op) _ _

/-- Both recipients accept the message, and the broker says so. -/
def deliveredSend : List MailEvent × Except Exn Value × Post :=
  sampleSend (fun _ => .ok sampleAccount) (.ok sampleReceipt) ["first@host", "second@host"]

/-- A message that both recipients accepted. -/
theorem honest_iff_delivered : deliveredSend.2.2.acceptedFor "action" = ["first@host", "second@host"] ∧
    deliveredSend.2.2.ledger.status? "action" = some .succeeded ∧
    (Honest "action" ⟨.empty, []⟩ deliveredSend.2.1 deliveredSend.2.2 ↔
      ¬ Abandoned sampleExecutor sampleMailArguments sampleMailContext .empty (deliveredSend.1.foldl Replies.note {}) ∧
        (deliveredSend.2.2.acceptedFor "action" = [] ∨ ¬ Declined sampleExecutor sampleSendTool sampleMailArguments
          sampleMailContext .empty (deliveredSend.1.foldl Replies.note {}))) :=
  ⟨by decide +kernel, by decide +kernel,
    honest_iff sampleExecutor sampleSendTool sampleMailArguments sampleMailContext rfl (sampleSend_exec _ _ _)⟩

/-- The account is removed from the registry while the row is claimed. -/
def removedSend : List MailEvent × Except Exn Value × Post :=
  sampleSend (fun status => if status = some .executing then .error (.runtime .mailAccountNotFound "account")
    else .ok sampleAccount) (.ok sampleReceipt) []

/-- The second recipient is refused. -/
def partialSend : List MailEvent × Except Exn Value × Post :=
  sampleSend (fun _ => .ok sampleAccount) (.ok { sampleReceipt with status := .partialDelivery }) ["first@host"]

/-- Both end in a definitive failure: the first leaves its row EXECUTING, in the second a
recipient accepted the message. -/
theorem definitive_failures_dishonest :
    (Exec mailWorld.reliable (sampleExecutor.execute sampleSendTool sampleMailArguments sampleMailContext) ⟨.empty, []⟩
        removedSend.1 removedSend.2.1 removedSend.2.2 ∧
      removedSend.2.1 = .error (definitive "the account was removed from the host registry") ∧
      removedSend.2.2.ledger.status? "action" = some .executing ∧
      ¬ Honest "action" ⟨.empty, []⟩ removedSend.2.1 removedSend.2.2) ∧
    Exec mailWorld.reliable (sampleExecutor.execute sampleSendTool sampleMailArguments sampleMailContext) ⟨.empty, []⟩
        partialSend.1 partialSend.2.1 partialSend.2.2 ∧
      partialSend.2.1 = .error (definitive "the mail transport accepted only part of the recipient list") ∧
      partialSend.2.2.acceptedFor "action" = ["first@host"] ∧
      ¬ Honest "action" ⟨.empty, []⟩ partialSend.2.1 partialSend.2.2 := by
  have removed : removedSend.2.1 = .error (definitive "the account was removed from the host registry") := rfl
  have executing : removedSend.2.2.ledger.status? "action" = some .executing := by decide +kernel
  have refused : partialSend.2.1 = .error (definitive "the mail transport accepted only part of the recipient list") :=
    rfl
  have accepted : partialSend.2.2.acceptedFor "action" = ["first@host"] := by decide +kernel
  refine ⟨⟨sampleSend_exec _ _ _, removed, executing, fun honest => ?_⟩, sampleSend_exec _ _ _, refused, accepted,
    fun honest => ?_⟩
  · cases honest.settled _ removed rfl executing
  · cases accepted.symm.trans (honest.unaccepted _ refused rfl)

end PersonalAssistant
