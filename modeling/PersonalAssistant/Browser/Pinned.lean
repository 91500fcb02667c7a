import PersonalAssistant.Browser.Detection
import PersonalAssistant.Browser.Sessions

/-!
# Which pages are filled and clicked

The version pin of an adapter against what the broker writes to. `execute_fill` and
`execute_submit` are followed with what they read so far: the session, the adapter and the last
page. The pin is a literal look-up of the path, while the pages a session may be on are given by
patterns; on a page that only a pattern allows, nothing but the plan or the preview speaks of
its fingerprint.
-/

namespace PersonalAssistant

open Coro

/-- What an operation read last: the session, its adapter and the live page. -/
structure Reading where
  record : Option BrowserSessionRecord := none
  descriptor : Option TransactionAdapterDescriptor := none
  page : Option Value := none

namespace Reading

/-- What is read by an answered request. -/
def after (r : Reading) : BrowserEvent → Reading
  | ⟨.getSession _, .ok record⟩ => { r with record }
  | ⟨.getAdapter _ _ _, .ok registered⟩ => { r with descriptor := registered.map (·.descriptor) }
  | ⟨.listAdapters _, .ok items⟩ =>
    { r with
      descriptor := r.record.bind fun record =>
        (BrowserSessionBroker.latestAdapter (items.filter (·.adapterId = record.adapterId))).map (·.descriptor) }
  | ⟨.snapshot _ _ _ _, .ok answer⟩ => { r with page := some answer }
  | _ => r

/-- The page is the last one read, as the broker reads it for the adapter. -/
def Shows (r : Reading) (broker : BrowserSessionBroker) (descriptor : TransactionAdapterDescriptor) (page : RawPage) :
    Prop :=
  ∃ answer, r.page = some answer ∧ broker.readPage (some descriptor) answer = .ok page

/-- The page is of a verified version exactly if its path is one of a transaction page, which is
pinned, or the version that is expected is a verified one. -/
def PinnedIff (r : Reading) (broker : BrowserSessionBroker) (transactionId expected : String) : Prop :=
  ∃ descriptor page, r.descriptor = some descriptor ∧ r.Shows broker descriptor page ∧
    (page.fingerprint ∈ descriptor.allowedPageFingerprints ↔
      descriptor.isTransactionPage transactionId page.decision.path ∨ expected ∈ descriptor.allowedPageFingerprints)

end Reading

/-- Any answers of the companion and the stores, as far as the monitor of an operation relies
on them. -/
def anyAnswers : Handler BrowserPort Exn Reading :=
  fun _ r op a r' => Custody.Relies ⟨op, a⟩ ∧ r' = r.after ⟨op, a⟩

variable {tr : List BrowserEvent}

theorem reading_of_steps {α : Type} {c c' : BrowserM α} {r r' : Reading}
    (run : Steps anyAnswers c r tr c' r') : r' = tr.foldl Reading.after r := by
  induction run with
  | refl => rfl
  | step answered _ ih =>
    rw [List.foldl_cons, ← answered.2]
    exact ih

/-- The writes to a page. -/
def BrowserOp.writes : BrowserOp → Bool
  | fill _ _ | click _ _ => true
  | _ => false

namespace BrowserSessionBroker

/-! ## The parts that write to no page -/

section Avoids

variable {α : Type} (broker : BrowserSessionBroker) (record : BrowserSessionRecord)

/-- The coroutine writes to no page. -/
abbrev ReadsOnly {α : Type} (c : BrowserM α) : Prop := c.Avoids fun op => BrowserOp.writes op

theorem readsOnly_web {op : BrowserOp} (h : op.writes = false) : ReadsOnly (web op) :=
  .perform (by rw [h]; exact Bool.false_ne_true)

theorem saveState_readsOnly (target : BrowserSessionState) (update : BrowserSessionRecord → BrowserSessionRecord) :
    ReadsOnly (saveState record target update) :=
  .bind (readsOnly_web rfl) fun _ => .bind (.done _) fun _ => readsOnly_web rfl

theorem pauseAndRaise_readsOnly (code : String) (e : Exn) : ReadsOnly (pauseAndRaise (α := α) record code e) := by
  refine .bind (.ite (.done _) ?_) fun _ => .done _
  exact .bind (saveState_readsOnly record _ _) fun _ => .done _

theorem failAndRaise_readsOnly (code : String) (e : Exn) : ReadsOnly (failAndRaise (α := α) record code e) :=
  .ite (.done _) (.bind (saveState_readsOnly record _ _) fun _ => .done _)

theorem expire_readsOnly (code : String) : ReadsOnly (expire record code) := by
  refine .ite (.done _) (.bind (.attempt (readsOnly_web rfl)) fun closed => ?_)
  split
  · exact .done _
  · exact saveState_readsOnly record _ _

theorem getSession_readsOnly (sessionId extensionId : String) : ReadsOnly (getSession sessionId extensionId) := by
  refine .bind (readsOnly_web rfl) fun found => ?_
  cases found with
  | none => exact .done _
  | some record =>
    refine .ite (.done _) (.ite ?_ (.done _))
    exact .bind (readsOnly_web rfl) fun _ => .ite (expire_readsOnly record _) (.done _)

theorem requireAdapterFor_readsOnly (adapterId adapterVersion : String) :
    ReadsOnly (requireAdapterFor record adapterId adapterVersion) := by
  refine .ite (.done _) (.ite (.done _) (.bind ?_ fun registered => ?_))
  · exact .ite (readsOnly_web rfl) (.bind (readsOnly_web rfl) fun _ => .done _)
  · cases registered with
    | none => exact .done _
    | some registered => exact .ite (.done _) (.done _)

theorem snapshotImpl_readsOnly (descriptor : Option TransactionAdapterDescriptor) (transactionId : String) :
    ReadsOnly (broker.snapshotImpl record descriptor transactionId) := by
  have accept (descriptor : Option TransactionAdapterDescriptor) (page : RawPage) :
      ReadsOnly (broker.acceptPage record descriptor page) := by
    refine .bind (.done _) fun _ => .bind (readsOnly_web rfl) fun _ => .bind (.done _) fun _ => ?_
    exact .bind (.ite (saveState_readsOnly record _ _) (.done _)) fun _ => .done _
  refine .bind (readsOnly_web rfl) fun _ => .bind (.done _) fun page => ?_
  cases descriptor with
  | none => exact accept none page
  | some adapter =>
    refine .ite ?_ (.ite ?_ ?_)
    · exact pauseAndRaise_readsOnly record _ _
    · exact pauseAndRaise_readsOnly record _ _
    · exact accept (some adapter) page

theorem storePreview_readsOnly (descriptor : TransactionAdapterDescriptor) (plan : FillPlan) (snapshot : PageSnapshot) :
    ReadsOnly (broker.storePreview record descriptor plan snapshot) := by
  refine .bind (readsOnly_web rfl) fun _ => .bind (readsOnly_web rfl) fun _ => ?_
  refine .bind (.done _) fun preview => ?_
  refine .bind (saveState_readsOnly record _ _) fun _ => ?_
  exact .done _

theorem reconcile_readsOnly (sessionId extensionId : String) : ReadsOnly (broker.reconcile sessionId extensionId) := by
  refine .bind (getSession_readsOnly sessionId extensionId) fun record => .ite (.done _) ?_
  refine .bind (requireAdapterFor_readsOnly record _ _) fun descriptor => .ite (.done _) ?_
  refine .bind (.done _) fun _ => .bind (readsOnly_web rfl) fun _ => .bind (.done _) fun read => ?_
  refine .bind (readsOnly_web rfl) fun now => ?_
  cases broker.judgeTracking record.receiptBaseline read with
  | found reference => exact .bind (.done _) fun _ => readsOnly_web rfl
  | _ => exact readsOnly_web rfl

theorem markSubmitUnknownAndConverge_readsOnly (sessionId extensionId code : String) :
    ReadsOnly (broker.markSubmitUnknownAndConverge record sessionId extensionId code) := by
  refine .bind (.attempt (saveState_readsOnly record _ _)) fun saved => ?_
  split
  · exact .done _
  · exact .done _
  · refine .bind (.attempt (broker.reconcile_readsOnly sessionId extensionId)) fun outcome => ?_
    split
    · exact .done _
    · exact .done _
    · split <;> exact .done _

theorem settleSubmitOutcome_readsOnly (sessionId extensionId code : String) :
    ReadsOnly (broker.settleSubmitOutcome record sessionId extensionId code) := by
  refine .bind (.attempt (.shield ?_)) fun _ => ?_
  · exact broker.markSubmitUnknownAndConverge_readsOnly record sessionId extensionId code
  · exact .bind (readsOnly_web rfl) fun _ => .ite (.done _) (.done _)

end Avoids

/-! ## What the parts read -/

section Reads

variable {broker : BrowserSessionBroker} {r : Reading} {β : Type}
  {record : BrowserSessionRecord} {descriptor : TransactionAdapterDescriptor}

/-- What holds of the pin at the writes of an operation, given what it expects of the session. -/
def PinnedAt (broker : BrowserSessionBroker) (expects : Reading → String → String → Prop) (r : Reading)
    (e : BrowserEvent) :
    Prop :=
  e.op.writes → ∃ transactionId expected, expects r transactionId expected ∧ r.PinnedIff broker transactionId expected

/-- Whatever the answers, the writes of the coroutine are pinned. -/
abbrev Pins (broker : BrowserSessionBroker) (expects : Reading → String → String → Prop) (c : BrowserM β)
    (S : β → Reading → Prop) (r : Reading) : Prop :=
  Ensures anyAnswers (PinnedAt broker expects) c S r

theorem pinnedAt_read {expects : Reading → String → String → Prop} {e : BrowserEvent} (reads : ¬ e.op.writes) :
    PinnedAt broker expects r e := fun writes => absurd writes reads

variable {expects : Reading → String → String → Prop} {op : BrowserOp} {extensionId transactionId sessionId : String}
  {snapshot : PageSnapshot} {page : RawPage}
  {S : β → Reading → Prop} {f : op.Ans → BrowserM β} {plan : FillPlan}

theorem readsOnly_ends {c : BrowserM β} (readsOnly : ReadsOnly c) : Pins broker expects c (fun _ _ => True) r := by
  refine wp_mono (fun outcome r' _ => ?_) (wp_of_avoids readsOnly fun _ _ => pinnedAt_read)
  cases outcome <;> trivial

theorem web_reads (plain : op.writes = false) {S : op.Ans → Reading → Prop}
    (h : ∀ x, Custody.Relies ⟨op, .ok x⟩ → S x (r.after ⟨op, .ok x⟩)) : Pins broker expects (web op) S r := by
  refine wp.perform ?_
  rintro a r' ⟨relied, rfl⟩
  refine ⟨pinnedAt_read (by rw [plain]; exact Bool.false_ne_true), ?_⟩
  cases a with
  | ok x => exact h x relied
  | error e => trivial

theorem web_unread_bind (plain : op.writes = false) (unread : ∀ r x, Reading.after r ⟨op, .ok x⟩ = r)
    (rest : ∀ x, Pins broker expects (f x) S r) : Pins broker expects (web op >>= f) S r := by
  have same : Pins broker expects (web op) (fun _ r' => r' = r) r := web_reads plain fun x _ => unread r x
  exact .bind same fun x r' h => h ▸ rest x

theorem saveState_reads {target : BrowserSessionState} {update : BrowserSessionRecord → BrowserSessionRecord}
    (plain : ∀ record, (update record).state = record.state) :
    Pins broker expects (saveState record target update) (fun stored r' => r' = r ∧ stored.state = target) r := by
  refine web_unread_bind rfl (fun _ _ => rfl) fun now => ?_
  refine .ofExcept_bind fun replaced ok => web_reads rfl ?_
  obtain ⟨-, rfl⟩ := BrowserSessionRecord.replaceState_ok ok
  rintro stored ⟨clock, rfl⟩
  exact ⟨rfl, plain _⟩

theorem pauseAndRaise_reads {code : String} {e : Exn} : Pins broker expects (pauseAndRaise record code e) S r := by
  refine .bind (S := fun _ _ => True) (readsOnly_ends (.ite (.done _) ?_)) fun _ _ _ => .raise
  exact .bind (saveState_readsOnly record _ _) fun _ => .done _

/-- `get_session` returns what it read, unless it expired the session. -/
theorem getSession_reads : Pins broker expects (getSession sessionId extensionId)
      (fun record r' => r'.record = some record ∨ record.state = .cancelled) r := by
  have read : Pins broker expects (web (.getSession sessionId)) (fun found r' => r'.record = found) r :=
    web_reads rfl fun _ _ => rfl
  refine .bind read fun found r' stored => ?_
  cases found with
  | none => exact .raise
  | some record =>
    refine .ite (fun _ => .raise) fun _ => .ite (fun _ => ?_) fun _ => .pure (.inl stored)
    refine web_unread_bind rfl (fun _ _ => rfl) fun now => ?_
    refine .ite (fun _ => .ite (fun _ => .pure (.inl stored)) fun _ => ?_)
      fun _ => .pure (.inl stored)
    refine .bind (S := fun _ _ => True)
      (readsOnly_ends (.attempt (readsOnly_web rfl))) fun closed _ _ => ?_
    split
    · exact .raise
    · exact .mono (saveState_reads fun _ => rfl) fun _ _ saved => .inr saved.2

/-- `_require_adapter` returns the descriptor it read. -/
theorem requireAdapterFor_reads {adapterId adapterVersion : String}
    (known : r.record = some record) (by_ : adapterId = record.adapterId ∨ adapterVersion ≠ "") :
    Pins broker expects (requireAdapterFor record adapterId adapterVersion)
      (fun descriptor r' => r'.descriptor = some descriptor ∧ r'.record = some record) r := by
  refine .ite (fun _ => .raise) fun _ => .ite (fun _ => .raise) fun _ => ?_
  refine .bind (S := fun registered r' => r'.descriptor = registered.map (·.descriptor) ∧ r'.record = some record)
    (.ite (fun _ => ?_) fun unversioned => ?_) fun registered r' read => ?_
  · exact web_reads rfl fun _ _ => ⟨rfl, known⟩
  · -- without a version, the adapter asked for is the one of the session
    have same : adapterId = record.adapterId := by
      rcases by_ with same | versioned
      · exact same
      · rw [if_neg versioned] at unversioned
        exact absurd versioned unversioned
    rw [same]
    refine .bind (web_reads rfl fun items _ => ⟨?_, known⟩) fun items r' read => .pure read
    simp only [Reading.after, known, Option.bind_some]
  · cases registered with
    | none => exact .raise
    | some registered => exact .ite (fun _ => .raise) fun _ => .pure read

/-- What a snapshot for an adapter says of the page that was read for it. -/
structure Snapped (broker : BrowserSessionBroker) (r : Reading) (descriptor : TransactionAdapterDescriptor)
    (transactionId : String) (snapshot : PageSnapshot) (page : RawPage) : Prop where
  adapter : r.descriptor = some descriptor
  shows_ : r.Shows broker descriptor page
  fingerprint : snapshot.fingerprint = page.fingerprint
  pinned : descriptor.isTransactionPage transactionId page.decision.path →
    page.fingerprint ∈ descriptor.allowedPageFingerprints

theorem Snapped.pinnedIff (snapped : Snapped broker r descriptor transactionId snapshot page) :
    r.PinnedIff broker transactionId snapshot.fingerprint := by
  refine ⟨descriptor, page, snapped.adapter, snapped.shows_, ?_⟩
  rw [snapped.fingerprint]
  exact ⟨.inr, fun either => either.elim snapped.pinned id⟩

/-- `_snapshot_impl` of a page for an adapter. -/
theorem snapshotImpl_reads (known : r.descriptor = some descriptor) :
    Pins broker expects (broker.snapshotImpl record (some descriptor) transactionId) (fun snapshot r' =>
      r'.record = r.record ∧ ∃ page, Snapped broker r' descriptor transactionId snapshot page) r := by
  refine .bind (S := fun answer r' => r' = { r with page := some answer })
    (web_reads rfl fun _ _ => rfl) fun answer r' read => .ofExcept_bind fun page ok => ?_
  refine .ite (fun _ => pauseAndRaise_reads) fun unpinned => ?_
  refine .ite (fun _ => pauseAndRaise_reads) fun _ => ?_
  refine .ofExcept_bind fun fields _ => web_unread_bind rfl (fun _ _ => rfl) fun now => ?_
  refine .ofExcept_bind fun origin _ => ?_
  refine .bind (S := fun _ r'' => r'' = r') (.ite (fun _ => ?_) fun _ => .pure rfl) fun stored r'' same =>
    .ofExcept fun snapshot made => ?_
  · exact .mono (saveState_reads fun _ => rfl) fun _ _ saved => saved.1
  subst same read
  refine ⟨rfl, page, known, ⟨answer, rfl, ok⟩, (pageSnapshot_ok made).2.2, fun transaction => ?_⟩
  by_contra unverified
  exact unpinned ⟨transaction, unverified⟩

/-- A write to a page for which the guarantee holds, then nothing but reads. -/
theorem web_writes_bind (holds : ∀ a, PinnedAt broker expects r ⟨op, a⟩)
    (rest : ∀ x, ReadsOnly (f x)) : Pins broker expects (web op >>= f) (fun _ _ => True) r := by
  have written : Pins broker expects (web op) (fun _ _ => True) r := by
    refine wp.perform fun a r' _ => ⟨holds a, ?_⟩
    cases a <;> trivial
  exact .bind written fun x _ _ => readsOnly_ends (rest x)

/-- A plan says itself which transaction and which version it is for. -/
def PlanExpects (plan : FillPlan) (_ : Reading) (transactionId expected : String) : Prop :=
  plan.transactionId = transactionId ∧ plan.expectedPageFingerprint = expected

/-- A submission is for the transaction of the session and the version in its preview. -/
def SessionExpects (r : Reading) (transactionId expected : String) : Prop :=
  ∃ record preview, r.record = some record ∧ record.preview = some preview ∧
    record.transactionId = transactionId ∧ preview.pageFingerprint = expected

theorem typeFields_pinned (snapped : Snapped broker r descriptor plan.transactionId snapshot page)
    (expected : snapshot.fingerprint = plan.expectedPageFingerprint) :
    Pins broker (PlanExpects plan) (broker.typeFields record descriptor plan snapshot)
      (fun _ _ => True) r := by
  refine .ite (fun _ => ?_) fun _ => web_writes_bind (fun _ _ => ?_) fun _ => ?_
  · exact readsOnly_ends (broker.storePreview_readsOnly record descriptor plan snapshot)
  · exact ⟨_, _, ⟨rfl, expected.symm⟩, snapped.pinnedIff⟩
  · refine .bind (broker.snapshotImpl_readsOnly record _ _) fun after => .ite ?_ ?_
    · exact broker.storePreview_readsOnly record descriptor plan after
    · exact failAndRaise_readsOnly record _ _

theorem fillPage_pinned (snapped : Snapped broker r descriptor plan.transactionId snapshot page) :
    Pins broker (PlanExpects plan) (broker.fillPage record descriptor plan snapshot)
      (fun _ _ => True) r := by
  refine .ofExcept_bind fun decision _ => .ite (fun _ => .raise) fun _ => ?_
  refine .ite (fun _ => .raise) fun _ => .ite (fun _ => ?_) fun same => ?_
  · exact pauseAndRaise_reads
  · refine .ite (fun _ => pauseAndRaise_reads) fun _ => ?_
    split
    · exact pauseAndRaise_reads
    · exact .raise
    · exact typeFields_pinned snapped (not_not.mp same)

/-- `execute_fill` types only on a page that was verified. -/
theorem executeFill_pinned (sessionId taskId extensionId : String) (plan : FillPlan) :
    Pins broker (PlanExpects plan) (broker.executeFill sessionId taskId extensionId plan)
      (fun _ _ => True) r := by
  refine .bind getSession_reads fun record r₁ read => ?_
  refine .ite (fun _ => .raise) fun _ => ?_
  have repeated : Pins broker (PlanExpects plan) (storedFill record plan) (fun _ _ => True) r₁ := by
    unfold storedFill
    split
    · refine .ite (fun _ => .raise) fun _ => .ite (fun _ => .pure trivial) fun _ => ?_
      exact pauseAndRaise_reads
    · exact .raise
  split
  · exact repeated
  · exact repeated
  · rename_i preparing
    have stored : r₁.record = some record := by
      refine read.resolve_right fun cancelled => ?_
      rw [preparing] at cancelled
      cases cancelled
    refine .bind (requireAdapterFor_reads stored (.inr plan.identified.2.1)) ?_
    rintro descriptor r₂ ⟨resolved, -⟩
    refine .ite (fun _ => .raise) fun _ => ?_
    refine .bind (snapshotImpl_reads resolved) ?_
    rintro snapshot r₃ ⟨-, page, snapped⟩
    exact fillPage_pinned snapped
  · exact .raise

theorem submitClick_pinned {target : ClickTarget}
    (pinned : ∀ a, PinnedAt broker SessionExpects r ⟨.click sessionId target, a⟩) :
    Pins broker SessionExpects (broker.submitClick record sessionId extensionId target)
      (fun _ _ => True) r := by
  refine wp.tried (web_writes_bind pinned fun raw => ?_) fun outcome r' _ => ?_
  · refine .bind (.done _) fun outcome => .ite ?_ (.done _)
    exact .bind (saveState_readsOnly record _ _) fun _ => .done _
  split
  · exact .pure trivial
  · exact readsOnly_ends (broker.settleSubmitOutcome_readsOnly record _ _ _)
  · refine readsOnly_ends (.bind (.attempt (.shield ?_)) fun _ => .done _)
    exact broker.markSubmitUnknownAndConverge_readsOnly record _ _ _
  · exact readsOnly_ends (broker.settleSubmitOutcome_readsOnly record _ _ _)

theorem submitPage_pinned {ownerId : String} {now : Time} {final : AdapterActionSpec}
    {preview : TransactionPreview} {baseline : ReceiptBaseline}
    (stored : r.record = some record) (previewed : record.preview = some preview)
    (snapped : Snapped broker r descriptor record.transactionId snapshot page) :
    Pins broker SessionExpects
      (broker.submitPage record extensionId ownerId now descriptor final preview baseline snapshot)
        (fun _ _ => True) r := by
  refine .ite (fun _ => pauseAndRaise_reads) fun same => ?_
  refine .ite (fun _ => pauseAndRaise_reads) fun _ => ?_
  refine .ite (fun _ => pauseAndRaise_reads) fun _ => .ofExcept_bind fun replaced _ => ?_
  -- the saves of APPROVED and EXECUTING read nothing
  refine web_unread_bind rfl (fun _ _ => rfl) fun approved => ?_
  refine .bind (S := fun _ r' => r' = r) ?_ fun executing r' unchanged => submitClick_pinned fun _ _ => ?_
  · exact .mono (saveState_reads fun _ => rfl) fun _ _ saved => saved.1
  · subst unchanged
    exact ⟨_, _, ⟨record, preview, stored, previewed, rfl, (not_not.mp same).symm⟩, snapped.pinnedIff⟩

/-- `execute_submit` clicks only on a page that was verified. -/
theorem executeSubmit_pinned (sessionId taskId extensionId previewHash previewNonce actionId ownerId : String) :
    Pins broker SessionExpects
      (broker.executeSubmit sessionId taskId extensionId previewHash previewNonce actionId ownerId)
        (fun _ _ => True) r := by
  refine .bind getSession_reads fun record r₁ read => .ofExcept_bind fun preview ok => ?_
  obtain ⟨ready, previewed⟩ := checkPreview_ok ok
  have stored : r₁.record = some record := by
    refine read.resolve_right fun cancelled => ?_
    rw [ready] at cancelled
    cases cancelled
  refine web_unread_bind rfl (fun _ _ => rfl) fun now => .ofExcept_bind fun _ _ => ?_
  refine .bind (requireAdapterFor_reads stored (.inl rfl)) ?_
  rintro descriptor r₂ ⟨resolved, stored₂⟩
  refine .ofExcept_bind fun final _ => .ite (fun _ => pauseAndRaise_reads) fun _ => ?_
  refine .bind (S := fun _ r' => r' = r₂) (.ite (fun _ => .pure rfl) fun _ => .ofExcept_bind fun _ _ => ?_)
    fun baseline r₃ same => ?_
  · refine web_unread_bind rfl (fun _ _ => rfl) fun _ => .ofExcept_bind fun _ _ => ?_
    exact .ite (fun _ => .pure rfl) fun _ => .raise
  subst same
  refine .bind (snapshotImpl_reads resolved) ?_
  rintro snapshot r₄ ⟨stored₄, page, snapped⟩
  exact submitPage_pinned (stored₄.trans stored₂) previewed snapped

end Reads

end BrowserSessionBroker

open BrowserSessionBroker

/-- **What is written to, and the pin.** Whatever the companion and the stores answer: where
`execute_fill` fills, the page read last is of a version the adapter verified exactly if its path
is literally one of the adapter's paths or the plan expects a verified version; and where
`execute_submit` clicks, likewise with the transaction of the session and the version in its
preview. -/
theorem writes_pinned_iff (broker : BrowserSessionBroker) (sessionId taskId extensionId : String) :
    (∀ (plan : FillPlan) tr pre post target fields a c r,
      Steps anyAnswers (broker.executeFill sessionId taskId extensionId plan) {} tr c r →
      tr = pre ++ (⟨.fill target fields, a⟩ : BrowserEvent) :: post →
      (pre.foldl Reading.after {}).PinnedIff broker plan.transactionId plan.expectedPageFingerprint) ∧
    ∀ previewHash previewNonce actionId ownerId tr pre post target click a c r,
      Steps anyAnswers
        (broker.executeSubmit sessionId taskId extensionId previewHash previewNonce actionId ownerId) {} tr c r →
      tr = pre ++ (⟨.click target click, a⟩ : BrowserEvent) :: post →
      ∃ record preview, (pre.foldl Reading.after {}).record = some record ∧ record.preview = some preview ∧
        (pre.foldl Reading.after {}).PinnedIff broker record.transactionId preview.pageFingerprint := by
  constructor
  · intro plan tr pre post target fields a c r run split
    obtain ⟨c₁, r₁, before, pinned⟩ := run.guarantees (executeFill_pinned sessionId taskId extensionId plan) split
    obtain ⟨_, _, ⟨rfl, rfl⟩, holds⟩ := pinned rfl
    rw [← reading_of_steps before]
    exact holds
  · intro previewHash previewNonce actionId ownerId tr pre post target click a c r run split
    obtain ⟨c₁, r₁, before, pinned⟩ := run.guarantees
      (executeSubmit_pinned sessionId taskId extensionId previewHash previewNonce actionId ownerId) split
    obtain ⟨_, _, ⟨record, preview, stored, previewed, rfl, rfl⟩, holds⟩ := pinned rfl
    rw [← reading_of_steps before]
    exact ⟨record, preview, stored, previewed, holds⟩

/-! ## A page behind a pattern -/

/-- The adapter of a form with one field; its path is a pattern, and the version it verified is
another one than that of the live page. -/
def patternAdapter : TransactionAdapterDescriptor :=
  { sampleAdapter with
    allowedPaths := ["/form/*"]
    fields := [{ fieldId := "name", label := "Name", locator := "ctl:0:0" }]
    allowedPageFingerprints := ["1111111111111111111111111111111111111111111111111111111111111111"] }

/-- A plan for the live page. -/
def patternPlan : FillPlan :=
  { samplePlan with
    fields := [{ fieldId := "name", locator := "ctl:0:0", label := "Name", oldValue := "", newValue := "A" }]
    bounded := by decide
    sourced := by decide }

/-- A prepared session of that adapter, and the live page. -/
def patternPages : (op : BrowserOp) → Except Exn op.Ans
  | .getSession sessionId => .ok (some {
      sessionId, taskId := "task", extensionId := "site", extensionVersion := "1", purpose := "apply",
        state := .preparing
      createdAt := 0, updatedAt := 0, expiresAt := 1, adapterId := "form", adapterVersion := "1",
        transactionId := "apply" })
  | .saveSession record version => .ok { record with version := version + 1, updatedAt := 0 }
  | .getAdapter _ _ _ => .ok (some ⟨"site", "1", "form", "1", patternAdapter, 0, 0, 0⟩)
  | .snapshot _ _ _ _ => .ok (.dict [("url", .str "https://s/form/1"),
      ("structure", .dict [("controls", .list [.dict [("locator", .str "ctl:0:0"), ("type", .str "text")]])])])
  | op => samplePages op

theorem patternPages_relied (op : BrowserOp) : Custody.Relies ⟨op, patternPages op⟩ := by
  cases op <;> first | exact fun _ => ⟨_, rfl⟩ | exact ⟨0, rfl⟩ | rfl

/-- `execute_fill` of the plan. -/
def patternFill : List BrowserEvent × Except Exn TransactionPreview × Reading :=
  play (fun r op => (patternPages op, r.after ⟨op, patternPages op⟩))
    (sampleBroker.executeFill "session" "task" "site" patternPlan) {}

theorem patternFill_steps : Steps anyAnswers (sampleBroker.executeFill "session" "task" "site" patternPlan)
    {} patternFill.1
    (.done patternFill.2.1) patternFill.2.2 :=
  play_exec (fun _ _ op => ⟨patternPages_relied op, rfl⟩) _ _

/-- A fill of the page. -/
def isFill (e : BrowserEvent) : Bool :=
  match e.op with
  | .fill _ _ => true
  | _ => false

theorem first_fill (some_ : tr.any isFill) :
    ∃ target fields a post, tr = tr.takeWhile (!isFill ·) ++ (⟨.fill target fields, a⟩ : BrowserEvent) :: post := by
  induction tr with
  | nil => cases some_
  | cons e tr ih =>
    cases fills : isFill e with
    | true =>
      obtain ⟨op, a⟩ := e
      cases op <;> cases fills
      exact ⟨_, _, a, tr, rfl⟩
    | false =>
      obtain ⟨target, fields, a, post, rest⟩ := ih (by simpa [fills] using some_)
      refine ⟨target, fields, a, post, ?_⟩
      rw [List.takeWhile_cons_of_pos (by simp [fills]), List.cons_append, ← rest]

/-- Whether the page read last is of a version that the adapter did not verify. -/
def Reading.unverified (r : Reading) (broker : BrowserSessionBroker) (descriptor : TransactionAdapterDescriptor) :
    Bool :=
  match r.page.map (broker.readPage (some descriptor)) with
  | some (.ok page) => page.fingerprint ∉ descriptor.allowedPageFingerprints
  | _ => false

theorem Reading.unverified_page {r : Reading} {broker : BrowserSessionBroker}
    {descriptor : TransactionAdapterDescriptor} (h : r.unverified broker descriptor) :
    ∃ page, r.Shows broker descriptor page ∧ page.fingerprint ∉ descriptor.allowedPageFingerprints := by
  unfold Reading.unverified at h
  split at h
  · rename_i page read
    obtain ⟨answer, stored, ok⟩ := Option.map_eq_some_iff.mp read
    exact ⟨page, ⟨answer, stored, ok⟩, of_decide_eq_true h⟩
  · cases h

theorem patternFill_fills : patternFill.1.any isFill ∧
    ((patternFill.1.takeWhile (!isFill ·)).foldl Reading.after {}).descriptor = some patternAdapter ∧
    ((patternFill.1.takeWhile (!isFill ·)).foldl Reading.after {}).unverified sampleBroker patternAdapter := by
  decide +kernel

theorem patternAdapter_valid : sampleBroker.host.validateAdapterDescriptor sampleBroker.allowedOrigins
    sampleBroker.originMode patternAdapter = .ok () := by
  decide +kernel

/-- The adapter is accepted, and a page of a version it did not verify is filled. -/
theorem pattern_page_filled : ∃ tr pre post target fields a c r,
    sampleBroker.host.validateAdapterDescriptor sampleBroker.allowedOrigins sampleBroker.originMode patternAdapter =
      .ok () ∧
    Steps anyAnswers (sampleBroker.executeFill "session" "task" "site" patternPlan) {} tr c r ∧
    tr = pre ++ (⟨.fill target fields, a⟩ : BrowserEvent) :: post ∧
    (pre.foldl Reading.after {}).descriptor = some patternAdapter ∧
    ∃ page, (pre.foldl Reading.after {}).Shows sampleBroker patternAdapter page ∧
      page.fingerprint ∉ patternAdapter.allowedPageFingerprints := by
  obtain ⟨fills, resolved, unverified⟩ := patternFill_fills
  obtain ⟨target, fields, a, post, split⟩ := first_fill fills
  exact ⟨_, _, post, target, fields, a, _, _, patternAdapter_valid, patternFill_steps, split, resolved,
    Reading.unverified_page unverified⟩

/-- The first fill of the sample, on a page outside the verified ones. -/
theorem writes_pinned_iff_sample :
    ((patternFill.1.takeWhile (!isFill ·)).foldl Reading.after {}).PinnedIff sampleBroker "apply"
      "0000000000000000000000000000000000000000000000000000000000000000" := by
  obtain ⟨target, fields, a, post, split⟩ := first_fill patternFill_fills.1
  exact (writes_pinned_iff sampleBroker "session" "task" "site").1 patternPlan _ _ post target fields a _ _
    patternFill_steps split

end PersonalAssistant
