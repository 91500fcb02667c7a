import PersonalAssistant.Browser.Custody

/-!
# Every operation follows its custody

The operations of the broker and the submission through the executor, each shown to save only
over copies it read and to click only what it armed. For a submission the monitor also tells
the outcome: what it may end with once the click was made.
-/

namespace PersonalAssistant

open Coro Coro.Prog BrowserActionExecutor BrowserSessionRecord

/-- An operation of the broker, or `browser.submit` through the executor. -/
inductive BrowserCaller where
  | getSession (sessionId extensionId : String)
  | createSession (taskId extensionId extensionVersion purpose ownerId : String)
  | registerAdapter (descriptor : TransactionAdapterDescriptor)
  | navigate (sessionId extensionId adapterId transactionId url : String)
  | snapshot (sessionId extensionId adapterId transactionId : String)
  | recordDiscovery (sessionId extensionId : String) (appCount : Int)
  | recordPreparation (sessionId extensionId adapterId adapterVersion appId transactionId pageFingerprint : String)
      (plannedFields : Int)
  | executeNavigation (sessionId extensionId adapterId transactionId : String)
  | executeFill (sessionId taskId extensionId : String) (plan : FillPlan)
  | executeSubmit (sessionId taskId extensionId previewHash previewNonce actionId ownerId : String)
  | submit (descriptor : ToolDescriptor) (arguments : List (String × Value)) (context : ToolExecutionContext)
  | reconcile (sessionId extensionId : String)
  | closeSession (sessionId extensionId : String)
  | cancelSession (sessionId extensionId : String)
  | recoverStaleSessions (activeOwners : List String)

/-- The coroutine of a caller; only the result of a submission is looked at. -/
def BrowserCaller.run (broker : BrowserSessionBroker) : BrowserCaller → BrowserM (Option Value)
  | getSession sessionId extensionId => do
    let _ ← BrowserSessionBroker.getSession sessionId extensionId
    return none
  | createSession taskId extensionId extensionVersion purpose ownerId => do
    let _ ← broker.createSession taskId extensionId extensionVersion purpose ownerId
    return none
  | registerAdapter descriptor => do
    let _ ← broker.registerAdapter descriptor
    return none
  | navigate sessionId extensionId adapterId transactionId url => do
    let _ ← broker.navigate sessionId extensionId adapterId transactionId url
    return none
  | snapshot sessionId extensionId adapterId transactionId => do
    let _ ← broker.snapshot sessionId extensionId adapterId transactionId
    return none
  | recordDiscovery sessionId extensionId appCount => do
    let _ ← BrowserSessionBroker.recordDiscovery sessionId extensionId appCount
    return none
  | recordPreparation sessionId extensionId adapterId adapterVersion appId transactionId pageFingerprint
      plannedFields => do
    let _ ← broker.recordPreparation sessionId extensionId adapterId adapterVersion appId transactionId pageFingerprint
      plannedFields
    return none
  | executeNavigation sessionId extensionId adapterId transactionId => do
    let _ ← broker.executeNavigation sessionId extensionId adapterId transactionId
    return none
  | executeFill sessionId taskId extensionId plan => do
    let _ ← broker.executeFill sessionId taskId extensionId plan
    return none
  | executeSubmit sessionId taskId extensionId previewHash previewNonce actionId ownerId => do
    let _ ← broker.executeSubmit sessionId taskId extensionId previewHash previewNonce actionId ownerId
    return none
  | submit descriptor arguments context => do
    let result ← BrowserActionExecutor.submit broker descriptor arguments context
    return some result
  | reconcile sessionId extensionId => do
    let _ ← broker.reconcile sessionId extensionId
    return none
  | closeSession sessionId extensionId => do
    BrowserSessionBroker.closeSession sessionId extensionId
    return none
  | cancelSession sessionId extensionId => do
    BrowserSessionBroker.cancelSession sessionId extensionId
    return none
  | recoverStaleSessions activeOwners => do
    let _ ← BrowserSessionBroker.recoverStaleSessions activeOwners
    return none

namespace Custody

open BrowserSessionBroker

variable {α β : Type} {m m' : Custody} {P : α → Custody → Prop} {record : BrowserSessionRecord}
  {broker : BrowserSessionBroker} {sessionId extensionId adapterId transactionId : String}
  {descriptor : TransactionAdapterDescriptor} {plan : FillPlan} {r : Except Exn SubmissionOutcome}
  {action : AdapterActionSpec} {baseline : ReceiptBaseline} {c : BrowserM α} {now : Time} {e : Exn}

/-! ## Sessions and preparation -/

theorem liveCandidates_calm {candidates : List BrowserSessionRecord}
    (known : ∀ r ∈ candidates, r ∈ m.known) : Calmly broker (liveCandidates now candidates) Any m := by
  induction candidates generalizing m with
  | nil => exact .pure trivial
  | cons candidate rest ih =>
    have restKnown : ∀ r ∈ rest, r ∈ m.known := fun r h => known r (List.mem_cons_of_mem _ h)
    refine .ite (fun _ => ih restKnown) fun _ => .ite (fun _ => ?_) fun _ => ?_
    · refine .bind (expire_calm (known _ List.mem_cons_self)) fun _ m' quiet _ => ?_
      exact ih fun r h => quiet.known r (restKnown r h)
    · exact .bind (ih restKnown) fun _ _ _ _ => .pure trivial

theorem openSession_calm (known : record ∈ m.known) : Calmly broker (broker.openSession record) Any m := by
  refine .attempt_bind (.idle rfl) (fun payload m' quiet _ => ?_) fun e m' quiet => ?_
  · refine .ofExcept_bind fun read _ => .weaken (save_calm (quiet.known _ known) ?_ ?_) fun _ _ _ => trivial
    · rfl
    · exact .plain ⟨rfl, rfl, .inl rfl, .inl rfl, .inl rfl⟩ rfl rfl
  · refine .bind (saveState_calm ?_ (quiet.known _ known) fun _ => (by decide)) fun _ _ _ _ => .raise
    exact fun _ => ⟨rfl, rfl, rfl, rfl, rfl, rfl⟩

theorem adoptSession_calm : Calmly broker (adoptSession record extensionId) Any m :=
  .guard fun _ => .pure trivial

variable {taskId ownerId code : String} {snapshot : PageSnapshot} {target : ClickTarget}

/-- `create_session` writes a new session and clicks nothing. -/
theorem createSession_calm {extensionVersion purpose : String} :
    Calmly broker (broker.createSession taskId extensionId extensionVersion purpose ownerId) Any m := by
  refine .ofExcept_bind fun _ _ => .idle_bind rfl fun now => ?_
  refine .bind find_calm fun candidates m₁ _ known => ?_
  refine .bind (liveCandidates_calm known) fun live m₂ _ _ => ?_
  split
  · exact adoptSession_calm
  refine .idle_bind rfl fun newId => ?_
  refine .attempt_bind (create_calm rfl rfl) (fun created m₃ _ stored => openSession_calm stored) fun e m₃ _ => ?_
  split
  · rename_i same
    cases same
  · refine .bind find_calm fun again m₄ _ _ => ?_
    split
    · exact adoptSession_calm
    · exact .raise
  · exact .raise

theorem registerAdapter_calm : Calmly broker (broker.registerAdapter descriptor) Any m := by
  refine .ofExcept_bind fun _ _ => .idle_bind rfl fun now => ?_
  exact .bind (keeps_read (fun _ _ => trivial) fun _ _ => rfl) fun existing _ _ _ => .idle rfl

theorem stateAfterNavigation_unknown (loginPage : Bool) : stateAfterNavigation .unknown loginPage = .unknown := by
  cases loginPage <;> rfl

theorem navigate_calm {url : String} :
    Calmly broker (broker.navigate sessionId extensionId adapterId transactionId url) Any m := by
  refine .bind getSession_calm fun record m₁ _ copy => .guard fun _ => ?_
  refine .bind requireAdapterFor_calm fun descriptor m₂ quiet _ => .ofExcept_bind fun decision _ => ?_
  refine .guard fun _ => .guard fun _ => ?_
  refine .idle_bind rfl fun answer => .ofExcept_bind fun payload _ => .ofExcept_bind fun landed _ => ?_
  refine .bind (saveState_calm ?_ (quiet.known _ copy.1) fun unknown => ?_) fun saved m₃ _ stored =>
    snapshotImpl_calm stored.1.1
  · exact fun _ => ⟨rfl, rfl, rfl, rfl, rfl, rfl⟩
  · rw [unknown, stateAfterNavigation_unknown]
    decide

theorem snapshot_calm : Calmly broker (broker.snapshot sessionId extensionId adapterId transactionId) Any m := by
  refine .bind getSession_calm fun record m₁ _ copy => .bind requireActive_calm fun _ m₂ quiet _ => ?_
  have known := quiet.known _ copy.1
  refine .ite (fun _ => ?_) fun _ => ?_
  · exact .bind (snapshotImpl_calm known) fun _ _ _ _ => .pure trivial
  · refine .bind requireAdapterFor_calm fun descriptor m₃ quiet _ => ?_
    exact .bind (snapshotImpl_calm (quiet.known _ known)) fun _ _ _ _ => .pure trivial

theorem recordDiscovery_calm {appCount : Int} :
    Calmly broker (BrowserSessionBroker.recordDiscovery sessionId extensionId appCount) Any m := by
  refine .bind getSession_calm fun record m₁ _ copy => .guard fun _ => ?_
  have saves : Calmly broker (saveState record .discovered fun r => { r with appsCount := appCount }) Any m₁ :=
    .weaken (saveState_calm (fun _ => ⟨rfl, rfl, rfl, rfl, rfl, rfl⟩) copy.1 fun _ => (by decide))
      fun _ _ _ => trivial
  split
  · exact saves
  · exact saves
  · exact saves
  · exact .raise

/-- `record_preparation` writes its own session and clicks nothing. -/
theorem recordPreparation_calm {adapterVersion appId pageFingerprint : String} {plannedFields : Int} :
    Calmly broker (broker.recordPreparation sessionId extensionId adapterId adapterVersion appId transactionId
      pageFingerprint plannedFields) Any m := by
  refine .bind getSession_calm fun record m₁ _ copy => .bind requireActive_calm fun _ m₂ quiet _ => ?_
  refine .guard fun _ => ?_
  refine .bind (keeps_read (fun _ _ => trivial) fun _ _ => rfl) fun registered m₃ quiet' _ => ?_
  have saves : Calmly broker (saveState record .preparing fun r =>
        { r with
          adapterId, adapterVersion, appId, transactionId, pageFingerprint
          previewHash := "", previewNonce := "", preview := none }) Any m₃ :=
    .weaken (saveState_calm (fun _ => ⟨rfl, rfl, rfl, rfl, rfl, rfl⟩) (quiet'.known _ (quiet.known _ copy.1))
      fun _ => (by decide)) fun _ _ _ => trivial
  split
  · exact .raise
  · split
    · exact saves
    · exact saves
    · exact saves
    · exact saves
    · exact saves
    · exact .raise

/-! ## Navigation and fill -/

theorem bindTransaction_calm {landing : PageSnapshot} :
    Calmly broker (bindTransaction sessionId extensionId transactionId descriptor adapterId action landing) Any m := by
  refine .bind getSession_calm fun record m₁ _ copy => .idle_bind rfl fun now => ?_
  refine .bind (save_calm copy.1 ?_ ?_) fun _ _ _ _ => .pure trivial
  · rfl
  · exact .plain ⟨rfl, rfl, .inl rfl, .inl rfl, .inl rfl⟩ rfl rfl

theorem activateTransaction_calm (known : record ∈ m.known) :
    Calmly broker
      (broker.activateTransaction record sessionId extensionId transactionId descriptor adapterId action) Any m := by
  refine .idle_bind rfl fun answer => .ofExcept_bind fun raw _ => .ofExcept_bind fun blocked _ => ?_
  refine .ite (fun _ => pauseAndRaise_calm known) fun _ => ?_
  refine .ofExcept_bind fun landed _ => .ofExcept_bind fun landingPath _ => ?_
  refine .ite (fun _ => pauseAndRaise_calm known) fun _ => ?_
  refine .bind (snapshotImpl_calm known) fun landing m₁ quiet _ => .ofExcept_bind fun livePath _ => ?_
  exact .ite (fun _ => pauseAndRaise_calm (quiet.known _ known)) fun _ => bindTransaction_calm

theorem executeNavigation_calm :
    Calmly broker (broker.executeNavigation sessionId extensionId adapterId transactionId) Any m := by
  refine .bind getSession_calm fun record m₁ _ copy => .bind requireActive_calm fun _ m₂ quiet₂ _ => ?_
  refine .guard fun _ => .bind requireAdapterFor_calm fun descriptor m₃ quiet₃ _ => ?_
  have known := quiet₃.known _ (quiet₂.known _ copy.1)
  refine .ofExcept_bind fun action _ => .bind (snapshotImpl_calm known) fun snapshot m₄ quiet₄ _ => ?_
  exact .ite (fun _ => pauseAndRaise_calm (quiet₄.known _ known)) fun _ =>
    activateTransaction_calm (quiet₄.known _ known)

theorem storePreview_calm (known : record ∈ m.known) :
    Calmly broker (broker.storePreview record descriptor plan snapshot) Any m := by
  refine .idle_bind rfl fun generated => .idle_bind rfl fun nonce => .ofExcept_bind fun preview _ => ?_
  refine .bind (saveState_calm ?_ known fun _ => (by decide)) fun _ _ _ _ => .pure trivial
  exact fun _ => ⟨rfl, rfl, rfl, rfl, rfl, rfl⟩

theorem typeFields_calm (known : record ∈ m.known) (settled : record.state ≠ .unknown) :
    Calmly broker (broker.typeFields record descriptor plan snapshot) Any m := by
  refine .ite (fun _ => storePreview_calm known) fun _ => .idle_bind rfl fun _ => ?_
  refine .bind (snapshotImpl_calm known) fun after m₁ quiet _ => ?_
  exact .ite (fun _ => storePreview_calm (quiet.known _ known)) fun _ =>
    failAndRaise_calm (quiet.known _ known) settled

theorem fillPage_calm (known : record ∈ m.known) (settled : record.state ≠ .unknown) :
    Calmly broker (broker.fillPage record descriptor plan snapshot) Any m := by
  refine .ofExcept_bind fun decision _ => .guard fun _ => ?_
  refine .guard fun _ => .ite (fun _ => pauseAndRaise_calm known) fun _ => ?_
  refine .ite (fun _ => pauseAndRaise_calm known) fun _ => ?_
  split
  · exact pauseAndRaise_calm known
  · exact .raise
  · exact typeFields_calm known settled

/-- `execute_fill` writes its own session and clicks nothing. -/
theorem executeFill_calm : Calmly broker (broker.executeFill sessionId taskId extensionId plan) Any m := by
  refine .bind getSession_calm fun record m₁ _ copy => .guard fun _ => ?_
  have stored : Calmly broker (storedFill record plan) Any m₁ := by
    unfold storedFill
    split
    · exact .guard fun _ => .ite (fun _ => .pure trivial) fun _ =>
        pauseAndRaise_calm copy.1
    · exact .raise
  split
  · exact stored
  · exact stored
  · rename_i preparing
    refine .bind requireAdapterFor_calm fun descriptor m₂ quiet₂ _ => .guard fun _ => ?_
    have known := quiet₂.known _ copy.1
    refine .bind (snapshotImpl_calm known) fun snapshot m₃ quiet₃ _ => ?_
    exact fillPage_calm (quiet₃.known _ known) (by rw [preparing]; decide)
  · exact .raise

theorem endSession_calm {outcome : String} {request : BrowserM Unit} (idle : ∀ m, Calmly broker request Any m) :
    Calmly broker (endSession sessionId extensionId outcome request) Any m := by
  refine .bind getSession_calm fun record m₁ _ copy => ?_
  have ends {ended : Except Exn Unit} {m₂ : Custody} (quiet : m₁.Quiet m₂) : Calmly broker
    (if .cancelled ∈ record.state.allowedTransitions then do
        let _ ← saveState record .cancelled fun r => { r with outcome }
        ofExcept ended
      else ofExcept ended) Any m₂ := by
    refine .ite (fun _ => ?_) fun _ => .ofExcept fun _ _ => trivial
    refine .bind (saveState_calm ?_ (quiet.known _ copy.1) fun _ => (by decide)) fun _ _ _ _ =>
      .ofExcept fun _ _ => trivial
    exact fun _ => ⟨rfl, rfl, rfl, rfl, rfl, rfl⟩
  exact .attempt_bind (idle m₁) (fun _ _ quiet _ => ends quiet) fun _ _ quiet => ends quiet

/-! ## Reconciliation -/

/-- The judgement on an unknown outcome is saved over the row it was made of. -/
theorem saveJudgement_calm {judgement : Judgement} (known : record ∈ m.known) (unknown : record.state = .unknown)
    (proved : ∀ reference, judgement = .found reference →
      Proved broker m.reads record.sessionId record.receiptBaseline reference) :
    Calmly broker (broker.saveJudgement record descriptor judgement) (Copy record.sessionId) m := by
  have noted {now : Time} {code : String} : Calmly broker
    (save { record with updatedAt := now, diagnosticCode := code }) (Copy record.sessionId) m := by
    refine .weaken (save_calm known ?_ ?_) ?_
    · rfl
    · exact .plain ⟨rfl, rfl, .inl rfl, .inl rfl, .inl rfl⟩ rfl rfl
    · rintro _ m' ⟨mem, clock, rfl⟩
      exact ⟨mem, rfl⟩
  refine .idle_bind rfl fun now => ?_
  split
  · exact noted
  · exact noted
  · exact noted
  · rename_i reference
    refine .ofExcept_bind fun replaced ok => ?_
    obtain ⟨-, rfl⟩ := replaceState_ok ok
    refine .weaken (save_calm known ?_ ?_) ?_
    · rfl
    · refine ⟨⟨rfl, rfl, ?_, .inr ⟨unknown, rfl⟩, .inl rfl⟩, .inl rfl, .inr ⟨_, rfl, proved reference rfl⟩⟩
      rw [unknown]
      show BrowserSessionState.Moves .unknown .succeeded
      decide
    · rintro _ m' ⟨mem, clock, rfl⟩
      exact ⟨mem, rfl⟩

theorem reconcile_calm : Calmly broker (broker.reconcile sessionId extensionId) (Copy sessionId) m := by
  refine .bind getSession_calm fun record m₁ _ copy => .guard fun unknown => ?_
  refine .bind requireAdapterFor_calm fun descriptor m₂ quiet₂ resolved => ?_
  refine .guard fun declared => .ofExcept_bind fun tracking target => ?_
  refine .bind (keeps_read (fun _ _ => trivial) fun _ _ => rfl) fun answer m₃ quiet₃ collected => ?_
  refine .ofExcept_bind fun read ok => ?_
  obtain ⟨known, rfl⟩ := copy
  refine saveJudgement_calm (quiet₃.known _ (quiet₂.known _ known)) (not_not.mp unknown) fun reference found => ?_
  exact ⟨descriptor, tracking.1, tracking.2, answer, read, resolved.mono quiet₃.reads, not_or.mp declared, target,
    collected, ok, found⟩

/-! ## The submission -/

/-- The stored session is UNKNOWN or SUCCEEDED, as far as the operation knows, or UNKNOWN could
not be saved. -/
def Doubt (sessionId : String) (m : Custody) : Prop :=
  m.lost ∨ ∃ r, Copy sessionId r m ∧ r.state.unresolved

theorem Doubt.after (h : m.Doubt sessionId) (quiet : m.Quiet m') : m'.Doubt sessionId := by
  rcases h with lost | ⟨r, ⟨known, same⟩, unresolved⟩
  · exact .inl (quiet.lost lost)
  · exact .inr ⟨r, ⟨quiet.known r known, same⟩, unresolved⟩

/-- The outcome is that of a session stored SUCCEEDED. -/
def Proven (sessionId : String) (outcome : SubmissionOutcome) (m : Custody) : Prop :=
  outcome.state = .succeeded ∧ ∃ receipt, outcome.receipt = some receipt ∧ outcome.reference = receipt.reference ∧
    ∃ r, Copy sessionId r m ∧ r.state = .succeeded ∧ r.receipt = some receipt

/-- What the settlement after a click ends with. -/
def Unsettled (sessionId : String) : Except Exn SubmissionOutcome → Custody → Prop
  | .ok outcome, m => outcome.state = .unknown ∨ Proven sessionId outcome m
  | .error e, _ => e = .cancelled ∨ ∃ reason message, e = .runtime (.browser .unknownOutcome reason) message

/-- A submission that clicked: a definitive rejection, or a settled doubt. -/
def Settled (sessionId : String) (r : Except Exn SubmissionOutcome) (m : Custody) : Prop :=
  (m.rejected ∧ ∃ outcome, r = .ok outcome ∧ outcome.state = .failed) ∨
    (m.Doubt sessionId ∧ Unsettled sessionId r m)

theorem follows_calm_bind {f : α → BrowserM β} {Q : Except Exn β → Custody → Prop}
    (first : Calmly broker c P m) (rest : ∀ a m', m.Quiet m' → P a m' → (custody broker).Follows (f a) Q m')
    (raised : ∀ e m', m.Quiet m' → Q (.error e) m') : (custody broker).Follows (c >>= f) Q m := by
  refine wp.after first fun r m' calm => ?_
  cases r with
  | ok a => exact rest a m' calm.1 calm.2
  | error e => exact raised e m' calm

theorem convergeSubmission_follows (doubt : m.Doubt sessionId) :
    (custody broker).Follows (broker.convergeSubmission sessionId extensionId)
      (fun r m' => m'.Doubt sessionId ∧ Unsettled sessionId r m') m := by
  refine wp.tried reconcile_calm fun r m' calm => ?_
  have later := doubt.after calm.quiet
  split
  · exact wp.raise ⟨later, .inl rfl⟩
  · exact wp.pure ⟨later, .inl rfl⟩
  · rename_i record
    obtain ⟨-, known, same⟩ := calm
    split
    · rename_i receipt succeeded stored
      exact wp.pure ⟨later, .inr ⟨rfl, receipt, rfl, rfl, record, ⟨known, same⟩, succeeded, stored⟩⟩
    · exact wp.pure ⟨later, .inl rfl⟩

/-- The session of a click: a copy in EXECUTING. -/
structure Executing (sessionId : String) (record : BrowserSessionRecord) (m : Custody) : Prop where
  copy : Copy sessionId record m
  state : record.state = .executing

theorem Executing.after (h : Executing sessionId record m) (quiet : m.Quiet m') : Executing sessionId record m' :=
  ⟨⟨quiet.known _ h.copy.1, h.copy.2⟩, h.state⟩

/-- A code of the saves of UNKNOWN. -/
abbrev MarksDoubt (code : String) : Prop :=
  code ∈ ["SUBMIT_OUTCOME_UNKNOWN", "SUBMIT_CANCELLED_AFTER_START", "SUBMIT_OUTCOME_LOST"]

/-- EXECUTING may be followed by any of its transitions. -/
theorem replaceState_executing {target : BrowserSessionState} (executing : record.state = .executing)
    (allowed : target ∈ [BrowserSessionState.succeeded, .failed, .unknown]) (now : Time) :
    record.replaceState target now = .ok { record with state := target, updatedAt := now } := by
  have transition : target ∈ record.state.allowedTransitions := by
    rw [executing]
    exact allowed
  unfold replaceState ensureBrowserTransition
  rw [if_pos transition]
  by_cases same : target = record.state
  · simp [same]
    rfl
  · simp [same]

theorem saveUnknown_follows (executing : Executing sessionId record m) (marks : MarksDoubt code) :
    (custody broker).Follows (saveState record .unknown fun r => { r with diagnosticCode := code })
      (fun _ m' => m'.Doubt sessionId) m := by
  refine follows_total_bind rfl rfl fun now => ?_
  refine wp_ok_bind (replaceState_executing executing.state (by decide) now) ?_
  obtain ⟨⟨known, same⟩, state⟩ := executing
  refine follows_save known rfl (.plain ⟨rfl, rfl, ?_, .inl rfl, .inl rfl⟩ rfl rfl) ?_ fun e _ _ lost => .inl (lost ?_)
  · rw [state]
    show BrowserSessionState.Moves .executing .unknown
    decide
  · rintro clock _ m' rfl - mem -
    exact .inr ⟨_, ⟨mem, same⟩, rfl⟩
  · exact decide_eq_true ⟨rfl, marks⟩

theorem markSubmitUnknown_follows (executing : Executing sessionId record m) (marks : MarksDoubt code) :
    (custody broker).Follows (broker.markSubmitUnknownAndConverge record sessionId extensionId code)
      (fun r m' => m'.Doubt sessionId ∧ Unsettled sessionId r m') m := by
  refine wp.tried (saveUnknown_follows executing marks) fun r m' doubt => ?_
  split
  · exact wp.raise ⟨doubt, .inl rfl⟩
  · exact wp.raise ⟨doubt, .inr ⟨_, _, rfl⟩⟩
  · exact convergeSubmission_follows doubt

theorem follows_shield {Q : Except Exn α → Custody → Prop} :
    (custody broker).Follows c.shield Q m ↔ (custody broker).Follows c Q m :=
  wp_shield ..

theorem settleSubmitOutcome_follows (executing : Executing sessionId record m) (marks : MarksDoubt code) :
    (custody broker).Follows (broker.settleSubmitOutcome record sessionId extensionId code) (Settled sessionId) m := by
  refine wp.bind (wp.attempt (follows_shield.mpr ?_))
  refine wp_mono (fun r m' settled => ?_) (markSubmitUnknown_follows executing marks)
  refine follows_total_bind rfl rfl fun interrupted => ?_
  refine wp.ite ⟨fun _ => ?_, fun _ => ?_⟩
  · exact wp.raise (.inr ⟨settled.1, .inl rfl⟩)
  · exact wp.ofExcept (.inr settled)

/-- What the body of the `try` around the click ends with. -/
def Clicked (sessionId : String) (record : BrowserSessionRecord) : Except Exn (Option SubmissionOutcome) →
    Custody → Prop
  | .ok (some outcome), m => m.clicked ∧ m.rejected ∧ outcome.state = .failed
  | _, m => m.clicked ∧ Executing sessionId record m

/-- The final click is made once, in EXECUTING. -/
theorem clickFinal_follows (executing : Executing sessionId record m) (armed : sessionId ∈ m.armed) :
    (custody broker).Follows (clickFinal record sessionId target) (Clicked sessionId record) m := by
  refine wp.bind (Monitor.follows_perform.mpr fun a _ => ⟨armed, ?_⟩)
  let m₁ : Custody := m.after ⟨.click sessionId target, a⟩
  have executing₁ : Executing sessionId record m₁ := ⟨executing.copy, executing.state⟩
  cases a with
  | error e => exact ⟨rfl, executing₁⟩
  | ok raw =>
    refine wp_ofExcept_bind (fun outcome read => ?_) fun e _ => ⟨rfl, executing₁⟩
    refine wp.ite ⟨fun rejected => ?_, fun _ => wp.pure ⟨rfl, executing₁⟩⟩
    have noted : m₁.rejected := by
      have read' : clickOutcome raw = .ok outcome := read
      show (m.rejected || clickRejected (.ok raw)) = true
      simp [clickRejected, read', rejected]
    refine follows_calm_bind (saveState_calm ?_ executing₁.copy.1 fun unknown => ?_) (fun _ m₂ quiet _ => ?_) ?_
    · exact fun _ => ⟨rfl, rfl, rfl, rfl, rfl, rfl⟩
    · exact absurd (executing₁.state.symm.trans unknown) (by decide)
    · exact wp.pure ⟨quiet.clicked.trans rfl, quiet.rejected.trans noted, rfl⟩
    · exact fun e m₂ quiet => ⟨quiet.clicked.trans rfl, executing₁.after quiet⟩

/-- A submission: it raised before the click, or it clicked and is settled. -/
def Submitted (sessionId : String) (r : Except Exn SubmissionOutcome) (m : Custody) : Prop :=
  (m.clicked = false ∧ ∃ e, r = .error e) ∨ Settled sessionId r m

theorem submitClick_follows (executing : Executing sessionId record m) (armed : sessionId ∈ m.armed) :
    (custody broker).Follows (broker.submitClick record sessionId extensionId target) (Settled sessionId) m := by
  refine wp.tried (clickFinal_follows executing armed) fun r m' clicked => ?_
  split
  · exact wp.pure (.inl ⟨clicked.2.1, _, rfl, clicked.2.2⟩)
  · exact settleSubmitOutcome_follows clicked.2 (by decide)
  · refine wp.bind (wp.attempt (follows_shield.mpr ?_))
    refine wp_mono (fun r m'' settled => ?_) (markSubmitUnknown_follows clicked.2 (by decide))
    exact wp.raise (.inr ⟨settled.1, .inl rfl⟩)
  · exact settleSubmitOutcome_follows clicked.2 (by decide)

theorem arms_of {copy : BrowserSessionRecord} {version : Nat} (known : copy ∈ m.known)
    (approved : copy.state = .approved) (session : copy.sessionId = record.sessionId) (same : copy.version = version)
    (executing : record.state = .executing) :
    m.arms record version = true := by
  have found : m.known.any (fun copy => copy.state = .approved ∧ copy.sessionId = record.sessionId ∧
      copy.version = version) = true :=
    List.any_eq_true.mpr ⟨copy, known, decide_eq_true ⟨approved, session, same⟩⟩
  exact decide_eq_true ⟨executing, found⟩

/-- EXECUTING saved over the APPROVED copy arms the session. -/
theorem saveExecuting_follows {submitCount : Nat}
    (copy : Copy sessionId record m) (approved : record.state = .approved)
    (captured : Captured broker m.reads sessionId baseline) :
    (custody broker).Follows
      (saveState record .executing fun r => { r with submitCount, ownerId, receiptBaseline := some baseline })
      (either (fun executing m' => m.Quiet m' ∧ Executing sessionId executing m' ∧ sessionId ∈ m'.armed)
        fun _ m' => m.Quiet m') m := by
  obtain ⟨known, rfl⟩ := copy
  refine follows_total_bind rfl rfl fun now => wp_ofExcept_bind (fun replaced ok => ?_) fun e _ => Quiet.refl m
  obtain ⟨-, rfl⟩ := replaceState_ok ok
  refine follows_save known rfl ⟨⟨rfl, rfl, ?_, .inl rfl, .inr ⟨approved, rfl⟩⟩, .inr ⟨baseline, rfl, captured⟩,
    .inl rfl⟩ ?_
    fun _ _ quiet _ => quiet
  · rw [approved]
    show BrowserSessionState.Moves .approved .executing
    decide
  · rintro clock executing m' rfl quiet mem armed
    exact ⟨quiet, ⟨⟨mem, rfl⟩, rfl⟩, armed (arms_of known approved rfl rfl rfl)⟩

/-- The approval is saved before the click, and only then is it made. -/
theorem approveAndClick_follows
    (copy : Copy sessionId record m) (fresh : m.clicked = false)
    (captured : Captured broker m.reads sessionId baseline) :
    (custody broker).Follows (broker.approveAndClick record extensionId ownerId now baseline target)
    (Submitted sessionId) m := by
  obtain ⟨known, rfl⟩ := copy
  have raises {m' : Custody} (quiet : m.Quiet m') (e : Exn) : Submitted record.sessionId (.error e) m' :=
    .inl ⟨quiet.clicked.trans fresh, e, rfl⟩
  refine wp_ofExcept_bind (fun replaced ok => ?_) fun e _ => raises (.refl m) e
  have rewrites := replaceState_rewrites ok fun _ => (by decide)
  obtain ⟨-, rfl⟩ := replaceState_ok ok
  refine follows_calm_bind (save_calm known rfl (.plain rewrites rfl rfl)) (fun approved m₁ quiet₁ saved => ?_)
    fun e m₁ quiet =>
    raises quiet e
  have session : approved.sessionId = record.sessionId := by
    obtain ⟨-, clock, rfl⟩ := saved
    rfl
  have state : approved.state = .approved := by
    obtain ⟨-, clock, rfl⟩ := saved
    rfl
  refine wp.after (saveExecuting_follows ⟨saved.1, session⟩ state
    (captured.mono quiet₁.reads)) fun r m₂ h => ?_
  cases r with
  | ok executing => exact wp_mono (fun _ _ => .inr) (submitClick_follows h.2.1 h.2.2)
  | error e => exact raises (quiet₁.trans h) e

theorem trackingBaseline_calm (resolved : Resolved m.reads descriptor) :
    Calmly broker (broker.trackingBaseline sessionId descriptor)
      (fun baseline m' => Captured broker m'.reads sessionId baseline) m := by
  refine .ite (fun none_ => .pure ⟨descriptor, resolved, .inl ⟨none_, rfl⟩⟩) fun _ => ?_
  refine .ofExcept_bind fun tracking target => ?_
  refine .bind (keeps_read (fun _ _ => trivial) fun _ _ => rfl) fun answer m₁ quiet collected => ?_
  refine .ofExcept_bind fun read ok => .ite (fun declared => .pure ?_) fun _ => .raise
  exact ⟨descriptor, resolved.mono quiet.reads, .inr ⟨tracking.1, tracking.2, answer, read, target, collected, ok,
    declared, rfl⟩⟩

/-- `execute_submit` clicks at most once, after the baseline was read. -/
theorem executeSubmit_follows {previewHash previewNonce actionId : String} (fresh : m.clicked = false) :
    (custody broker).Follows
    (broker.executeSubmit sessionId taskId extensionId previewHash previewNonce actionId ownerId)
      (Submitted sessionId) m := by
  have raises {m' : Custody} (quiet : m.Quiet m') (e : Exn) : Submitted sessionId (.error e) m' :=
    .inl ⟨quiet.clicked.trans fresh, e, rfl⟩
  have pauses {m' : Custody} {record : BrowserSessionRecord} {code : String} {e : Exn} (quiet : m.Quiet m')
      (known : record ∈ m'.known) : (custody broker).Follows (pauseAndRaise record code e)
        (Submitted sessionId) m' := by
    refine wp_mono (fun r m'' calm => ?_) (pauseAndRaise_calm (P := fun _ _ => False) known)
    cases r with
    | ok a => exact calm.2.elim
    | error e => exact raises (quiet.trans calm) e
  refine follows_calm_bind getSession_calm (fun record m₁ quiet₁ copy => ?_) fun e _ quiet => raises quiet e
  refine wp_ofExcept_bind (fun preview _ => ?_) fun e _ => raises quiet₁ e
  refine follows_total_bind rfl rfl fun now => wp_ofExcept_bind (fun _ _ => ?_) fun e _ => raises quiet₁ e
  refine follows_calm_bind requireAdapterFor_calm (fun descriptor m₂ quiet₂ resolved => ?_) fun e _ quiet =>
    raises (quiet₁.trans quiet) e
  have known₂ := quiet₂.known _ copy.1
  have quiet₂ := quiet₁.trans quiet₂
  refine wp_ofExcept_bind (fun final _ => ?_) fun e _ => raises quiet₂ e
  refine wp.ite ⟨fun _ => pauses quiet₂ known₂, fun _ => ?_⟩
  refine follows_calm_bind (trackingBaseline_calm resolved) (fun baseline m₃ quiet₃ captured => ?_) fun e _ quiet =>
    raises (quiet₂.trans quiet) e
  have known₃ := quiet₃.known _ known₂
  have quiet₃ := quiet₂.trans quiet₃
  refine follows_calm_bind (snapshotImpl_calm known₃) (fun snapshot m₄ quiet₄ _ => ?_) fun e _ quiet =>
    raises (quiet₃.trans quiet) e
  have known₄ := quiet₄.known _ known₃
  have captured₄ := captured.mono quiet₄.reads
  have quiet₄ := quiet₃.trans quiet₄
  refine wp.ite ⟨fun _ => pauses quiet₄ known₄, fun _ => wp.ite ⟨fun _ => pauses quiet₄ known₄, fun _ =>
    wp.ite ⟨fun _ => pauses quiet₄ known₄, fun _ => ?_⟩⟩⟩
  exact approveAndClick_follows ⟨known₄, copy.2⟩ (quiet₄.clicked.trans fresh) (copy.2 ▸ captured₄)

/-! ## `browser.submit` -/

/-- How a submission through the executor ends, by what its monitor saw. -/
structure Honest (sessionId : String) (r : Except Exn Value) (m : Custody) : Prop where
  definitive : ∀ message retryable, r = .error (.definitiveToolFailure message retryable) → m.clicked = false ∨
    m.rejected
  result : ∀ result, r = .ok result → ∃ record receipt, Copy sessionId record m ∧ record.state = .succeeded ∧
    record.receipt = some receipt ∧ result.get? "reference" = some (.str receipt.reference)
  unsettled : m.clicked → (∀ message retryable, r ≠ .error (.definitiveToolFailure message retryable)) →
    (∀ result, r ≠ .ok result) →
      ((∃ referenceId message, r = .error (.outcomeUnknown referenceId message)) ∨ r = .error .cancelled) ∧
      m.Doubt sessionId

theorem Honest.early (fresh : m.clicked = false) : Honest sessionId (.error e) m where
  definitive _ _ _ := .inl fresh
  result _ h := by cases h
  unsettled clicked := by rw [fresh] at clicked; cases clicked

theorem Honest.doubt (doubt : m.Doubt sessionId)
    (shown : (∃ referenceId message, e = .outcomeUnknown referenceId message) ∨ e = .cancelled) :
    Honest sessionId (.error e) m where
  definitive message retryable h := by
    rcases shown with ⟨_, _, rfl⟩ | rfl <;> cases h
  result _ h := by cases h
  unsettled _ _ _ := by
    refine ⟨?_, doubt⟩
    rcases shown with ⟨referenceId, message, rfl⟩ | rfl
    · exact .inl ⟨referenceId, message, rfl⟩
    · exact .inr rfl

/-- A submission under its deadline. -/
def Waited (sessionId : String) (r : Except Exn SubmissionOutcome) (m : Custody) : Prop :=
  Submitted sessionId r m ∨ (m.Doubt sessionId ∧ ∃ message builtin, r = .error (.timeout message builtin))

theorem waitFor_follows {body : BrowserM SubmissionOutcome}
    (h : (custody broker).Follows body (Submitted sessionId) m) :
    (custody broker).Follows (waitFor body) (Waited sessionId) m := by
  refine wp.tried h fun r m' submitted => ?_
  split
  · refine follows_total_bind rfl rfl fun expired => wp.ite ⟨fun _ => wp.raise ?_, fun _ =>
      wp.raise (.inl submitted)⟩
    rcases submitted with ⟨fresh, -⟩ | ⟨-, _, same, -⟩ | ⟨doubt, -⟩
    · exact .inl (.inl ⟨fresh, _, rfl⟩)
    · cases same
    · exact .inr ⟨doubt, _, _, rfl⟩
  · exact wp.ofExcept (.inl submitted)

/-- What `_submit` makes of a settled submission. -/
theorem submitResult_settled (h : Settled sessionId r m) : Honest sessionId (submitResult broker sessionId r) m := by
  rcases h with ⟨rejected, outcome, rfl, failed⟩ | ⟨doubt, shape⟩
  · unfold submitResult
    simp only [failed]
    exact ⟨fun _ _ _ => .inr rejected, fun _ h => (by cases h), fun _ other _ => absurd rfl (other _ _)⟩
  · cases r with
    | error e =>
      rcases shape with rfl | ⟨reason, message, rfl⟩
      · exact .doubt doubt (.inr rfl)
      · exact .doubt doubt (.inl ⟨_, _, rfl⟩)
    | ok outcome =>
      unfold submitResult
      rcases shape with unknown | ⟨succeeded, receipt, -, reference, record, copy, state, stored⟩
      · simp only [unknown]
        exact .doubt doubt (.inl ⟨_, _, rfl⟩)
      · simp only [succeeded]
        refine ⟨fun _ _ h => (by cases h), ?_, fun _ _ other => absurd rfl (other _)⟩
        rintro result ⟨⟩
        exact ⟨record, receipt, copy, state, stored, congrArg (fun text => some (Value.str text)) reference⟩

theorem submitResult_honest (h : Waited sessionId r m) : Honest sessionId (submitResult broker sessionId r) m := by
  rcases h with (⟨fresh, e, rfl⟩ | settled) | ⟨doubt, message, builtin, rfl⟩
  · have raised : ∃ e', submitResult broker sessionId (.error e) = .error e' := by
      unfold submitResult
      split <;> first | exact ⟨_, rfl⟩ | (rename_i same; cases same)
    obtain ⟨e', same⟩ := raised
    rw [same]
    exact .early fresh
  · exact submitResult_settled settled
  · exact .doubt doubt (.inl ⟨_, _, rfl⟩)

end Custody

/-- The session a call of `browser.submit` names. -/
def BrowserActionExecutor.sessionOf (arguments : List (String × Value)) : String :=
  match (Value.dict arguments).get? "session_id" with
  | some (.str sessionId) => sessionId
  | _ => ""

variable {arguments : List (String × Value)}

theorem BrowserActionExecutor.text_session {sessionId : String}
    (h : text arguments "session_id" = .ok sessionId) : sessionId = sessionOf arguments := by
  unfold text at h
  split at h
  · rename_i value found
    have named : sessionOf arguments = value := by simp only [sessionOf, found]
    rw [named]
    split at h
    · cases h
    · split at h
      · cases h
      · exact (Except.ok.inj h).symm
  · cases h

namespace Custody

variable {m : Custody} {broker : BrowserSessionBroker}

theorem submit_follows {descriptor : ToolDescriptor} {context : ToolExecutionContext} (fresh : m.clicked = false) :
    (custody broker).Follows (BrowserActionExecutor.submit broker descriptor arguments context)
      (Honest (sessionOf arguments)) m := by
  refine wp_ofExcept_bind (fun sessionId named => ?_) fun _ _ => .early fresh
  obtain rfl := text_session named
  refine wp_ofExcept_bind (fun previewHash _ => ?_) fun _ _ => .early fresh
  refine wp_ofExcept_bind (fun previewNonce _ => ?_) fun _ _ => .early fresh
  refine wp_ofExcept_bind (fun actionId _ => ?_) fun _ _ => .early fresh
  refine wp.tried (waitFor_follows (executeSubmit_follows fresh)) fun r m' waited => ?_
  exact wp.ofExcept (submitResult_honest waited)

end Custody

/-- What the monitor knows of how a caller ends. -/
def BrowserCaller.Ends : BrowserCaller → Except Exn (Option Value) → Custody → Prop
  | submit _ arguments _, r, m => ∃ r', r = r'.map some ∧ Custody.Honest (sessionOf arguments) r' m
  | _, _, _ => True

/-- **Every operation follows its custody.** -/
theorem BrowserCaller.run_follows (caller : BrowserCaller) (broker : BrowserSessionBroker) :
    (custody broker).Follows (caller.run broker) caller.Ends {} := by
  have ends {α : Type} {c : BrowserM α} {P : α → Custody → Prop} {Q : Except Exn (Option Value) → Custody → Prop}
      (h : (custody broker).Follows c (Custody.Calm {} P) {}) (all : ∀ r m, Q r m) :
      (custody broker).Follows (c >>= fun _ => pure none) Q {} := by
    refine wp.after h fun r m _ => ?_
    cases r with
    | ok a => exact wp.pure (all _ _)
    | error e => exact all _ _
  cases caller with
  | getSession => exact ends Custody.getSession_calm fun _ _ => trivial
  | createSession => exact ends Custody.createSession_calm fun _ _ => trivial
  | registerAdapter => exact ends Custody.registerAdapter_calm fun _ _ => trivial
  | navigate => exact ends Custody.navigate_calm fun _ _ => trivial
  | snapshot => exact ends Custody.snapshot_calm fun _ _ => trivial
  | recordDiscovery => exact ends Custody.recordDiscovery_calm fun _ _ => trivial
  | recordPreparation => exact ends Custody.recordPreparation_calm fun _ _ => trivial
  | executeNavigation => exact ends Custody.executeNavigation_calm fun _ _ => trivial
  | executeFill => exact ends Custody.executeFill_calm fun _ _ => trivial
  | executeSubmit =>
    refine wp.after (Custody.executeSubmit_follows rfl) fun r m _ => ?_
    cases r with
    | ok a => exact wp.pure trivial
    | error e => trivial
  | submit =>
    refine wp.after (Custody.submit_follows rfl) fun r m honest => ?_
    cases r with
    | ok result => exact wp.pure ⟨.ok result, rfl, honest⟩
    | error e => exact ⟨.error e, rfl, honest⟩
  | reconcile => exact ends Custody.reconcile_calm fun _ _ => trivial
  | closeSession =>
    exact ends (Custody.endSession_calm fun _ => .idle rfl) fun _ _ => trivial
  | cancelSession =>
    exact ends (Custody.endSession_calm fun _ => .idle rfl) fun _ _ => trivial
  | recoverStaleSessions => exact ends (Custody.Calmly.idle rfl) fun _ _ => trivial

end PersonalAssistant
