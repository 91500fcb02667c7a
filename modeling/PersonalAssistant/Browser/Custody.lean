import PersonalAssistant.Browser.Lifecycle

/-!
# The custody of a session

A monitor for one operation of the broker. It keeps the records the store answered with, the
adapters and tracking pages that were read, and the sessions whose APPROVED copy the operation
itself moved to EXECUTING: a save is allowed over a known copy as `Rewrites` says, with a new
baseline or receipt only from such reads, and a click only for such a session, once. It also
notes what the click answered and whether UNKNOWN could not be saved after it.
-/

namespace PersonalAssistant

open Coro Coro.Prog List

variable (broker : BrowserSessionBroker) (reads : List BrowserEvent)

/-- The requests that neither answer with a session, an adapter or a tracking page, save, nor
click. -/
def BrowserOp.idle : BrowserOp → Bool
  | getSession _ | createSession _ | saveSession _ _ | findActiveForTask _ | getAdapter _ _ _ | listAdapters _
  | collectMatches _ _ _ _ | click _ _ => false
  | _ => true

/-- The saves of UNKNOWN after a click, by their diagnostic codes. -/
def BrowserSessionRecord.marksUnknown (record : BrowserSessionRecord) : Bool :=
  record.state = .unknown ∧ record.diagnosticCode ∈
    ["SUBMIT_OUTCOME_UNKNOWN", "SUBMIT_CANCELLED_AFTER_START", "SUBMIT_OUTCOME_LOST"]

/-- What the broker reads from the answer to a click. -/
def clickOutcome (raw : Value) : Except Exn String := do
  let result ← requireMapping raw "click result"
  requireStr ((result.get? "outcome").getD (.str "UNKNOWN")) "click outcome" 32

/-- The click was answered with a definitive rejection. -/
def clickRejected : Except Exn Value → Bool
  | .ok raw => match clickOutcome raw with
    | .ok outcome => outcome = "REJECTED"
    | .error _ => false
  | .error _ => false

/-- The state of the monitor. -/
structure Custody where
  known : List BrowserSessionRecord := []
  reads : List BrowserEvent := []
  armed : List String := []
  clicked : Bool := false
  rejected : Bool := false
  lost : Bool := false

namespace Custody

/-- Whether a save takes a session the operation knows as APPROVED to EXECUTING. -/
def arms (m : Custody) (record : BrowserSessionRecord) (version : Nat) : Bool :=
  record.state = .executing ∧ m.known.any fun copy =>
    copy.state = .approved ∧ copy.sessionId = record.sessionId ∧ copy.version = version

/-- The session asked for is the one answered, a save that succeeds stores the record under
the next version, and the clock and the random ids do not raise. -/
def Relies : BrowserEvent → Prop
  | ⟨.getSession sessionId, .ok (some record)⟩ => record.sessionId = sessionId
  | ⟨.saveSession record version, .ok stored⟩ =>
    ∃ clock, stored = { record with version := version + 1, updatedAt := clock }
  | ⟨op, a⟩ => browserWorld.total op → ∃ x, a = .ok x

/-- An adapter that the reads were answered with. -/
def Resolved (descriptor : TransactionAdapterDescriptor) : Prop :=
  (∃ extensionId adapterId adapterVersion registered,
    ⟨.getAdapter extensionId adapterId adapterVersion, .ok (some registered)⟩ ∈ reads ∧
      registered.descriptor = descriptor) ∨
  ∃ extensionId registered items, ⟨.listAdapters extensionId, .ok items⟩ ∈ reads ∧ registered ∈ items ∧
    registered.descriptor = descriptor

/-- The baseline is that of a read of the adapter's tracking page, or of an adapter without one. -/
def Captured (sessionId : String)
    (baseline : ReceiptBaseline) : Prop :=
  ∃ descriptor, Resolved reads descriptor ∧
    (((descriptor.trackingPath = "" ∨ descriptor.receiptPattern = "") ∧ baseline = baselineDocument [] false) ∨
      ∃ origin url answer read, broker.trackingUrl descriptor = .ok (origin, url) ∧
        ⟨.collectMatches sessionId descriptor.receiptPattern 128 url, .ok answer⟩ ∈ reads ∧
        broker.readTracking origin descriptor.trackingPath answer = .ok read ∧ read.declared ∧
        baseline = baselineDocument (read.references.map broker.receiptHash) read.truncated)

/-- The reference is what a read of the adapter's tracking page proves against the baseline. -/
def Proved (sessionId : String)
    (baseline : Option ReceiptBaseline) (reference : String) : Prop :=
  ∃ descriptor origin url answer read, Resolved reads descriptor ∧
    (descriptor.trackingPath ≠ "" ∧ descriptor.receiptPattern ≠ "") ∧
      broker.trackingUrl descriptor = .ok (origin, url) ∧
    ⟨.collectMatches sessionId descriptor.receiptPattern 256 url, .ok answer⟩ ∈ reads ∧
    broker.readTracking origin descriptor.trackingPath answer = .ok read ∧
    broker.judgeTracking baseline read = .found reference

/-- A write over a known copy, with the evidence for a new baseline or receipt. -/
structure Write (broker : BrowserSessionBroker) (m : Custody) (copy record : BrowserSessionRecord) : Prop
    extends Rewrites copy record where
  captured : record.receiptBaseline = copy.receiptBaseline ∨
    ∃ baseline, record.receiptBaseline = some baseline ∧ Captured broker m.reads record.sessionId baseline
  proved : record.receipt = copy.receipt ∨
    ∃ receipt, record.receipt = some receipt ∧
      Proved broker m.reads record.sessionId copy.receiptBaseline receipt.reference

/-- The events the monitor allows. -/
def Allows (m : Custody) : BrowserEvent → Prop
  | ⟨.saveSession record version, _⟩ => ∃ copy ∈ m.known, version = copy.version ∧ m.Write broker copy record
  | ⟨.createSession record, _⟩ => record.receiptBaseline = none ∧ record.receipt = none
  | ⟨.click sessionId _, _⟩ => sessionId ∈ m.armed
  | _ => True

/-- What the monitor remembers after an event. -/
def after (m : Custody) : BrowserEvent → Custody
  | ⟨.getSession _, .ok (some record)⟩ => { m with known := record :: m.known }
  | ⟨.createSession _, .ok record⟩ => { m with known := record :: m.known }
  | ⟨.findActiveForTask _, .ok records⟩ => { m with known := records ++ m.known }
  | ⟨.saveSession record version, .ok stored⟩ =>
    { m with
      known := stored :: m.known
      armed := if m.arms record version then record.sessionId :: m.armed else m.armed }
  | ⟨.saveSession record _, .error _⟩ => { m with lost := m.lost || record.marksUnknown }
  | ⟨.getAdapter extensionId adapterId adapterVersion, a⟩ =>
    { m with reads := ⟨.getAdapter extensionId adapterId adapterVersion, a⟩ :: m.reads }
  | ⟨.listAdapters extensionId, a⟩ => { m with reads := ⟨.listAdapters extensionId, a⟩ :: m.reads }
  | ⟨.collectMatches sessionId pattern limit url, a⟩ =>
    { m with reads := ⟨.collectMatches sessionId pattern limit url, a⟩ :: m.reads }
  | ⟨.click sessionId _, a⟩ =>
    { m with armed := m.armed.filter (· ≠ sessionId), clicked := true, rejected := m.rejected || clickRejected a }
  | _ => m

end Custody

/-- The monitor of an operation. -/
def custody : Monitor BrowserPort Exn Custody where
  rely _ := Custody.Relies
  ok := Custody.Allows broker
  next := Custody.after

namespace Custody

/-- Nothing was clicked in between. -/
structure Quiet (m m' : Custody) : Prop where
  known : ∀ record ∈ m.known, record ∈ m'.known
  reads : ∀ event ∈ m.reads, event ∈ m'.reads
  clicked : m'.clicked = m.clicked
  rejected : m'.rejected = m.rejected
  lost : m.lost → m'.lost

theorem Quiet.refl (m : Custody) : Quiet m m := ⟨fun _ h => h, fun _ h => h, rfl, rfl, id⟩

theorem Quiet.trans {a b c : Custody} (h : Quiet a b) (h' : Quiet b c) : Quiet a c :=
  ⟨fun r hr => h'.known r (h.known r hr), fun e he => h'.reads e (h.reads e he), h'.clicked.trans h.clicked,
    h'.rejected.trans h.rejected, fun l => h'.lost (h.lost l)⟩

/-- A quiet part that answers with `P` or raises. -/
def Calm {α : Type} (m : Custody) (P : α → Custody → Prop) : Except Exn α → Custody → Prop :=
  either (fun a m' => m.Quiet m' ∧ P a m') fun _ m' => m.Quiet m'

/-- Nothing more is known of the answer. -/
abbrev Any {α : Type} (_ : α) (_ : Custody) : Prop := True

/-- A record answered is a known copy of the session. -/
abbrev Copy (sessionId : String) (record : BrowserSessionRecord) (m : Custody) : Prop :=
  record ∈ m.known ∧ record.sessionId = sessionId

/-- A part of an operation that is quiet and answers with `P` or raises. -/
abbrev Calmly {α : Type} (broker : BrowserSessionBroker) (c : BrowserM α) (P : α → Custody → Prop) (m : Custody) :
    Prop :=
  (custody broker).Follows c (m.Calm P) m

variable {α β : Type} {broker : BrowserSessionBroker} {m m' : Custody} {P : α → Custody → Prop}
  {R : β → Custody → Prop}

/-! ## Rules -/

variable {r : Except Exn α} {c : BrowserM α} {op : BrowserOp} {record copy : BrowserSessionRecord}
  {f : op.Ans → BrowserM β} {p : Prop} {e : Exn}

theorem Calm.after {m'' : Custody} (quiet : m.Quiet m') (h : m'.Calm P r m'') : m.Calm P r m'' := by
  cases r with
  | ok a => exact ⟨quiet.trans h.1, h.2⟩
  | error e => exact quiet.trans h

theorem Calm.quiet (h : m.Calm P r m') : m.Quiet m' := by
  cases r with
  | ok a => exact h.1
  | error e => exact h

protected theorem Calmly.pure {a : α} (h : P a m) : Calmly broker (pure a) P m :=
  wp.pure ⟨.refl m, h⟩

protected theorem Calmly.raise : Calmly broker (raise e) P m :=
  wp.raise (.refl m)

protected theorem Calmly.ofExcept (h : ∀ a, r = .ok a → P a m) : Calmly broker (ofExcept r) P m := by
  refine wp.ofExcept ?_
  cases r with
  | ok a => exact ⟨.refl m, h a rfl⟩
  | error e => exact .refl m

theorem Calmly.weaken {Q : α → Custody → Prop} (h : Calmly broker c P m)
    (weaker : ∀ a m', P a m' → Q a m') : Calmly broker c Q m := by
  refine wp_mono (fun r m' calm => ?_) h
  cases r with
  | ok a => exact ⟨calm.1, weaker a m' calm.2⟩
  | error e => exact calm

theorem Calmly.bind {f : α → BrowserM β} (first : Calmly broker c P m)
    (rest : ∀ a m', m.Quiet m' → P a m' → Calmly broker (f a) R m') :
    Calmly broker (c >>= f) R m := by
  refine wp.after first fun r m' calm => ?_
  cases r with
  | ok a => exact wp_mono (fun _ _ => Calm.after calm.1) (rest a m' calm.1 calm.2)
  | error e => exact calm

/-- A quiet body of a `try`, then its handlers. -/
theorem Calmly.attempt_bind {f : Except Exn α → BrowserM β} (first : Calmly broker c P m)
    (answered : ∀ a m', m.Quiet m' → P a m' → Calmly broker (f (.ok a)) R m')
    (raised : ∀ e m', m.Quiet m' → Calmly broker (f (.error e)) R m') :
    Calmly broker (attempt c >>= f) R m := by
  refine wp.tried first fun r m' calm => ?_
  cases r with
  | ok a => exact wp_mono (fun _ _ => Calm.after calm.1) (answered a m' calm.1 calm.2)
  | error e => exact wp_mono (fun _ _ => Calm.after calm) (raised e m' calm)

theorem Calmly.ofExcept_bind {f : α → BrowserM β} (rest : ∀ a, r = .ok a → Calmly broker (f a) R m) :
    Calmly broker (ofExcept r >>= f) R m :=
  wp_ofExcept_bind rest fun _ _ => .refl m

theorem Calmly.ite [Decidable p] {d : BrowserM α} (then_ : p → Calmly broker c P m)
    (else_ : ¬ p → Calmly broker d P m) : Calmly broker (if p then c else d) P m :=
  wp.ite ⟨then_, else_⟩

theorem Calmly.guard [Decidable p] (else_ : ¬ p → Calmly broker c P m) :
    Calmly broker (if p then raise e else c) P m :=
  .ite (fun _ => .raise) else_

/-! ## Requests -/

theorem after_idle (idle : op.idle) (a : Except Exn op.Ans) : m.after ⟨op, a⟩ = m := by
  cases op <;> first | rfl | cases idle

theorem allows_idle (idle : op.idle) (a : Except Exn op.Ans) : m.Allows broker ⟨op, a⟩ := by
  cases op <;> trivial

theorem follows_idle (idle : op.idle) {Q : Except Exn op.Ans → Custody → Prop}
    (h : ∀ a, (browserWorld.total op → ∃ x, a = .ok x) → Q a m) : (custody broker).Follows (web op) Q m := by
  refine Monitor.follows_perform.mpr fun a relied => ⟨allows_idle idle a, ?_⟩
  rw [show (custody broker).next m ⟨op, a⟩ = m from after_idle idle a]
  refine h a fun total => ?_
  cases op <;> first | exact relied total | cases total

theorem Calmly.idle (idle : op.idle) : Calmly broker (web op) Any m := by
  refine follows_idle idle fun a _ => ?_
  cases a with
  | ok a => exact ⟨.refl m, trivial⟩
  | error e => exact .refl m

theorem Calmly.idle_bind (idle : op.idle)
    (rest : ∀ a, Calmly broker (f a) R m) : Calmly broker (web op >>= f) R m := by
  refine wp.bind (follows_idle idle fun a _ => ?_)
  cases a with
  | ok a => exact rest a
  | error e => exact Quiet.refl m

theorem follows_total_bind (idle : op.idle) (total : browserWorld.total op)
    {Q : Except Exn β → Custody → Prop} (rest : ∀ a, (custody broker).Follows (f a) Q m) :
    (custody broker).Follows (web op >>= f) Q m := by
  refine wp.bind (follows_idle idle fun a answered => ?_)
  obtain ⟨x, rfl⟩ := answered total
  exact rest x

theorem Quiet.learn (m : Custody) (records : List BrowserSessionRecord) :
    m.Quiet { m with known := records ++ m.known } :=
  ⟨fun _ h => mem_append_right _ h, fun _ h => h, rfl, rfl, id⟩

theorem read_calm {sessionId : String} :
    Calmly broker (web (.getSession sessionId)) (fun a m' => ∀ r, a = some r → Copy sessionId r m') m := by
  refine Monitor.follows_perform.mpr fun a relied => ⟨trivial, ?_⟩
  match a, relied with
  | .ok (some record), same =>
    refine ⟨Quiet.learn m [record], ?_⟩
    rintro r ⟨⟩
    exact ⟨mem_cons_self, same⟩
  | .ok none, _ => exact ⟨.refl m, fun _ h => (by cases h)⟩
  | .error e, _ => exact Quiet.refl m

theorem find_calm {taskId : String} :
    Calmly broker (web (.findActiveForTask taskId)) (fun records m' => ∀ r ∈ records, r ∈ m'.known) m := by
  refine Monitor.follows_perform.mpr fun a _ => ⟨trivial, ?_⟩
  match a with
  | .ok records => exact ⟨Quiet.learn m records, fun r h => mem_append_left _ h⟩
  | .error e => exact Quiet.refl m

theorem create_calm (baseline : record.receiptBaseline = none) (receipt : record.receipt = none) :
    Calmly broker (web (.createSession record)) (fun created m' => created ∈ m'.known) m := by
  refine Monitor.follows_perform.mpr fun a _ => ⟨⟨baseline, receipt⟩, ?_⟩
  match a with
  | .ok created => exact ⟨Quiet.learn m [created], mem_cons_self⟩
  | .error e => exact Quiet.refl m

/-- A read of an adapter or of a tracking page is kept. -/
theorem keeps_read (free : ∀ a m, Allows broker m ⟨op, a⟩)
    (kept : ∀ (m : Custody) a, m.after ⟨op, a⟩ = { m with reads := ⟨op, a⟩ :: m.reads }) :
    Calmly broker (web op) (fun x m' => ⟨op, .ok x⟩ ∈ m'.reads) m := by
  refine Monitor.follows_perform.mpr fun a _ => ⟨free a m, ?_⟩
  rw [show (custody broker).next m ⟨op, a⟩ = _ from kept m a]
  have quiet : m.Quiet { m with reads := ⟨op, a⟩ :: m.reads } :=
    ⟨fun _ h => h, fun _ h => mem_cons_of_mem _ h, rfl, rfl, id⟩
  cases a with
  | ok x => exact ⟨quiet, mem_cons_self⟩
  | error e => exact quiet

/-- A save over a known copy: the record is stored and known, or a failure is noted. -/
theorem follows_save {Q : Except Exn BrowserSessionRecord → Custody → Prop}
    (known : copy ∈ m.known) (version : record.version = copy.version) (write : m.Write broker copy record)
    (saved : ∀ clock stored m', stored = { record with version := record.version + 1, updatedAt := clock } →
      m.Quiet m' → stored ∈ m'.known → (m.arms record record.version → record.sessionId ∈ m'.armed) → Q (.ok stored) m')
    (raised : ∀ e m', m.Quiet m' → (record.marksUnknown → m'.lost) → Q (.error e) m') :
    (custody broker).Follows (BrowserSessionBroker.save record) Q m := by
  refine Monitor.follows_perform.mpr fun a relied => ⟨⟨copy, known, version, write⟩, ?_⟩
  match a, relied with
  | .ok stored, ⟨clock, same⟩ =>
    refine saved clock stored _ same ⟨fun _ h => mem_cons_of_mem _ h, fun _ h => h, rfl, rfl, id⟩ mem_cons_self
      fun arms => ?_
    show record.sessionId ∈ if m.arms record record.version then record.sessionId :: m.armed else m.armed
    rw [if_pos arms]
    exact mem_cons_self
  | .error e, _ =>
    refine raised e _ ⟨fun _ h => h, fun _ h => h, rfl, rfl, fun lost => ?_⟩ fun marks => ?_
    · exact Bool.or_eq_true_iff.mpr (.inl lost)
    · exact Bool.or_eq_true_iff.mpr (.inr marks)

theorem save_calm (known : copy ∈ m.known) (version : record.version = copy.version)
    (write : m.Write broker copy record) :
    Calmly broker (BrowserSessionBroker.save record) (fun stored m' => stored ∈ m'.known ∧
      ∃ clock, stored = { record with version := record.version + 1, updatedAt := clock }) m :=
  follows_save known version write (fun clock _ _ same quiet mem _ => ⟨quiet, mem, clock, same⟩)
    fun _ _ quiet _ => quiet

end Custody

/-! ## Saving a state -/

/-- What `Rewrites` speaks of is left as it is. -/
structure Unmoved (r r' : BrowserSessionRecord) : Prop where
  session : r'.sessionId = r.sessionId
  task : r'.taskId = r.taskId
  state : r'.state = r.state
  version : r'.version = r.version
  receipt : r'.receipt = r.receipt
  baseline : r'.receiptBaseline = r.receiptBaseline

/-- An update of the other fields. -/
def Plain (update : BrowserSessionRecord → BrowserSessionRecord) : Prop := ∀ r, Unmoved r (update r)

variable {record replaced : BrowserSessionRecord} {target : BrowserSessionState} {now : Time}

theorem BrowserSessionRecord.replaceState_ok (h : record.replaceState target now = .ok replaced) :
    (target = record.state ∨ target ∈ record.state.allowedTransitions) ∧
      replaced = { record with state := target, updatedAt := now } := by
  unfold replaceState ensureBrowserTransition at h
  by_cases same : target = record.state
  · subst same
    simp only [ne_eq, not_true_eq_false, if_false] at h
    exact ⟨.inl rfl, (Except.ok.inj h).symm⟩
  · by_cases allowed : target ∈ record.state.allowedTransitions
    · simp only [ne_eq, same, not_false_eq_true, if_true, allowed] at h
      exact ⟨.inr allowed, (Except.ok.inj h).symm⟩
    · simp only [ne_eq, same, not_false_eq_true, if_true, allowed, if_false] at h
      cases h

theorem BrowserSessionRecord.replaceState_rewrites (h : record.replaceState target now = .ok replaced)
    (unfailed : record.state = .unknown → target ≠ .failed) : Rewrites record replaced := by
  obtain ⟨allowed, rfl⟩ := replaceState_ok h
  refine ⟨rfl, rfl, ?_, .inl rfl, .inl rfl⟩
  rcases allowed with same | allowed
  · exact .inl same
  · exact .inr ⟨allowed, unfailed⟩

theorem Rewrites.unmoved {updated : BrowserSessionRecord} (h : Rewrites record replaced)
    (unmoved : Unmoved replaced updated) : Rewrites record updated where
  session := unmoved.session.trans h.session
  task := unmoved.task.trans h.task
  move := unmoved.state.symm ▸ h.move
  receipt := by rw [unmoved.receipt, unmoved.state]; exact h.receipt
  baseline := by rw [unmoved.baseline, unmoved.state]; exact h.baseline

namespace Custody

open BrowserSessionBroker

variable {α : Type} {broker : BrowserSessionBroker} {m m' : Custody} {P : α → Custody → Prop}
  {record : BrowserSessionRecord} {descriptor : Option TransactionAdapterDescriptor} {code sessionId : String}
  {page : RawPage} {e : Exn}

theorem Resolved.mono {reads reads' : List BrowserEvent} {descriptor : TransactionAdapterDescriptor}
    (h : Resolved reads descriptor) (more : ∀ event ∈ reads, event ∈ reads') : Resolved reads' descriptor := by
  rcases h with ⟨a, b, c, registered, mem, same⟩ | ⟨a, registered, items, mem, among, same⟩
  · exact .inl ⟨a, b, c, registered, more _ mem, same⟩
  · exact .inr ⟨a, registered, items, more _ mem, among, same⟩

theorem Captured.mono {reads reads' : List BrowserEvent} {baseline : ReceiptBaseline}
    (h : Captured broker reads sessionId baseline) (more : ∀ event ∈ reads, event ∈ reads') :
    Captured broker reads' sessionId baseline := by
  obtain ⟨descriptor, resolved, none_ | ⟨origin, url, answer, read, target, mem, rest⟩⟩ := h
  · exact ⟨descriptor, resolved.mono more, .inl none_⟩
  · exact ⟨descriptor, resolved.mono more, .inr ⟨origin, url, answer, read, target, more _ mem, rest⟩⟩

theorem Write.plain {copy : BrowserSessionRecord} (rewrites : Rewrites copy record)
    (baseline : record.receiptBaseline = copy.receiptBaseline) (receipt : record.receipt = copy.receipt) :
    m.Write broker copy record :=
  ⟨rewrites, .inl baseline, .inl receipt⟩

theorem saveState_calm {update : BrowserSessionRecord → BrowserSessionRecord}
    (plain : Plain update) (known : record ∈ m.known) (unfailed : record.state = .unknown → target ≠ .failed) :
    Calmly broker (saveState record target update) (fun stored m' =>
      Copy record.sessionId stored m' ∧ stored.state = target) m := by
  refine .idle_bind rfl fun now => .ofExcept_bind fun replaced ok => ?_
  have rewrites := (BrowserSessionRecord.replaceState_rewrites ok unfailed).unmoved (plain _)
  obtain ⟨-, rfl⟩ := BrowserSessionRecord.replaceState_ok ok
  have write : m.Write broker record _ := .plain rewrites (plain _).baseline (plain _).receipt
  refine .weaken (save_calm known (plain _).version write) ?_
  rintro _ m' ⟨mem, clock, rfl⟩
  exact ⟨⟨mem, (plain _).session⟩, (plain _).state⟩

/-! ## The parts of the operations -/

theorem expire_calm (known : record ∈ m.known) : Calmly broker (expire record code) (Copy record.sessionId) m := by
  refine .ite (fun _ => .pure ⟨known, rfl⟩) fun _ => ?_
  have saves {m' : Custody} (quiet : m.Quiet m') : Calmly broker
    (saveState record .cancelled fun r => { r with outcome := "EXPIRED", diagnosticCode := code })
    (Copy record.sessionId) m' :=
    .weaken (saveState_calm (fun _ => ⟨rfl, rfl, rfl, rfl, rfl, rfl⟩)
      (quiet.known _ known) fun _ => (by decide)) fun _ _ => And.left
  refine .attempt_bind (.idle rfl) (fun _ m' quiet _ => saves quiet) fun e m' quiet => ?_
  split
  · exact .raise
  · exact saves quiet

theorem getSession_calm {extensionId : String} :
    Calmly broker (BrowserSessionBroker.getSession sessionId extensionId) (Copy sessionId) m := by
  refine .bind read_calm fun found m' _ read => ?_
  split
  · exact .raise
  · rename_i record
    obtain ⟨known, rfl⟩ := read record rfl
    refine .guard fun _ => .ite (fun _ => ?_) fun _ => .pure ⟨known, rfl⟩
    exact .idle_bind rfl fun now => .ite (fun _ => expire_calm known) fun _ => .pure ⟨known, rfl⟩

theorem requireActive_calm : Calmly broker (requireActive record) Any m := by
  refine .guard fun _ => .ite (fun _ => ?_) fun _ => .pure trivial
  exact .idle_bind rfl fun now => .guard fun _ => .pure trivial

theorem pauseAndRaise_calm (known : record ∈ m.known) : Calmly broker (pauseAndRaise record code e) P m := by
  have pauses : Calmly broker (pause record code) Any m := by
    refine .ite (fun _ => .pure trivial) fun _ => ?_
    refine .bind (saveState_calm ?_ known fun _ => (by decide)) fun _ _ _ _ => .pure trivial
    exact fun _ => ⟨rfl, rfl, rfl, rfl, rfl, rfl⟩
  exact .bind pauses fun _ _ _ _ => .raise

theorem failAndRaise_calm (known : record ∈ m.known) (settled : record.state ≠ .unknown) :
    Calmly broker (failAndRaise record code e) P m := by
  refine .guard fun _ => ?_
  refine .bind (saveState_calm ?_ known fun unknown => absurd unknown settled) fun _ _ _ _ => .raise
  exact fun _ => ⟨rfl, rfl, rfl, rfl, rfl, rfl⟩

theorem latestAdapter_mem {items : List BrowserAdapterRecord} {best : BrowserAdapterRecord}
    (h : latestAdapter items = some best) : best ∈ items := by
  induction items generalizing best with
  | nil => cases h
  | cons item rest ih =>
    unfold latestAdapter at h
    split at h
    · cases h
      exact mem_cons_self
    · rename_i later found
      cases h
      split
      · exact mem_cons_of_mem _ (ih found)
      · exact mem_cons_self

theorem requireAdapterFor_calm {adapterId adapterVersion : String} :
    Calmly broker (requireAdapterFor record adapterId adapterVersion)
      (fun descriptor m' => Resolved m'.reads descriptor) m := by
  refine .guard fun _ => .guard fun _ => ?_
  refine .bind (P := fun registered m' => ∀ r, registered = some r → Resolved m'.reads r.descriptor)
    (.ite (fun _ => ?_) fun _ => ?_) fun registered m' _ resolved => ?_
  · refine .weaken (keeps_read (fun _ _ => trivial) fun _ _ => rfl) ?_
    rintro _ m' mem r rfl
    exact .inl ⟨_, _, _, r, mem, rfl⟩
  · refine .bind (keeps_read (fun _ _ => trivial) fun _ _ => rfl) fun items m' _ mem => .pure ?_
    intro r found
    exact .inr ⟨_, r, items, mem, mem_of_mem_filter (latestAdapter_mem found), rfl⟩
  · split
    · exact .raise
    · exact .guard fun _ => .pure (resolved _ rfl)

variable (known : record ∈ m.known)

include known

theorem followPage_calm {origin : String} :
    Calmly broker (followPage record page origin) (Copy record.sessionId) m := by
  refine .ite (fun _ => ?_) fun _ => .pure ⟨known, rfl⟩
  refine .weaken (saveState_calm ?_ known fun unknown => ?_) fun _ _ => And.left
  · exact fun _ => ⟨rfl, rfl, rfl, rfl, rfl, rfl⟩
  · rw [unknown]
    unfold stateAfterRead
    split <;> simp_all

theorem acceptPage_calm :
    Calmly broker (broker.acceptPage record descriptor page) Any m := by
  refine .ofExcept_bind fun fields _ => .idle_bind rfl fun now => .ofExcept_bind fun origin _ => ?_
  exact .bind (followPage_calm known) fun _ _ _ _ => .ofExcept fun _ _ => trivial

theorem snapshotImpl_calm {transactionId : String} :
    Calmly broker (broker.snapshotImpl record descriptor transactionId) Any m := by
  refine .idle_bind rfl fun answer => .ofExcept_bind fun page _ => ?_
  unfold judgePage
  split
  · exact acceptPage_calm known
  · exact .ite (fun _ => pauseAndRaise_calm known) fun _ => .ite (fun _ => pauseAndRaise_calm known) fun _ =>
      acceptPage_calm known

end Custody

end PersonalAssistant
