import PersonalAssistant.Browser.Sessions

/-!
# What a receipt proves

A session becomes SUCCEEDED when its tracking page shows one reference that the baseline does
not. The baseline was read before the click and the reference is read later, by another call,
under the adapter that is registered then. Here the reads of `PlaywrightHeadedDriver` are tied
to the contents of the pages, every stored baseline and receipt is traced back to the reads it
was made of, and the two are compared.
-/

namespace PersonalAssistant

open Coro Function List BrowserSessionBroker

/-! ## What the driver collects -/

/-- `MAX_PAGE_TEXT_CHARS`. -/
def maxPageTextChars : Nat := 65536

/-- A page in the tab that `collect_matches` opens: where it landed and its text, which cannot
always be read. -/
structure TrackedPage where
  url : String
  text : Option String
  deriving DecidableEq, Repr

/-- `_page_text`: the text that is read, and whether it is all of it. -/
def TrackedPage.pageText (page : TrackedPage) : String × Bool :=
  match page.text with
  | none => ("", false)
  | some text => if text.length > maxPageTextChars then (takeChars maxPageTextChars text, false) else (text, true)

/-- `re.findall`: each match with its groups, or alone when the pattern has none. -/
abbrev FindAll : Type := String → String → List (List String)

/-- The references of a text: the first group of each match, unless it is empty. -/
def references (findall : FindAll) (pattern text : String) : List String :=
  ((findall pattern text).map (·.headD "")).filter (· ≠ "")

/-- The matches that `collect_matches` keeps of a text. -/
def keptMatches (findall : FindAll) (pattern : String) (limit : Nat) (text : String) : List String :=
  ((references findall pattern text).take limit).map (takeChars 128)

/-- `collect_matches`. -/
def TrackedPage.collect (page : TrackedPage) (findall : FindAll) (pattern : String) (limit : Nat) : Value :=
  .dict [
    ("matches", .list ((keptMatches findall pattern limit page.pageText.1).map .str)),
    ("truncated", .bool (!page.pageText.2 || limit ≤ (keptMatches findall pattern limit page.pageText.1).length)),
    ("url", .str page.url)]

/-- The references fit into what the driver keeps of one. -/
def TrackedPage.Short (findall : FindAll) (pattern : String) (page : TrackedPage) : Prop :=
  ∀ text, page.text = some text → ∀ reference ∈ references findall pattern text, reference.length ≤ 128

/-- The tracking pages are read by the driver. -/
def Collects (findall : FindAll) (good : String → TrackedPage → Prop) : BrowserEvent → Prop
  | ⟨.collectMatches _ pattern limit _, .ok answer⟩ =>
    ∃ page, good pattern page ∧ answer = TrackedPage.collect page findall pattern limit
  | _ => True

/-- The stores with failing calls and a companion whose tracking reads are the driver's. -/
def trackedFaults (findall : FindAll) (good : String → TrackedPage → Prop) : Handler BrowserPort Exn BrowserStore :=
  fun sh s op a s' => browserFaults sh s op a s' ∧ Collects findall good ⟨op, a⟩

variable {pages : Nat → String → Option TrackedPage} {good : String → TrackedPage → Prop} {store : BrowserStore}
  {ι : Type} {tr : List (ι × BrowserEvent)} {descriptor : TransactionAdapterDescriptor}
  {reference sessionId url : String} {i : ι}

section Reading

variable {broker : BrowserSessionBroker} {findall : FindAll} {pattern origin tracking : String} {limit : Nat}
  {page : TrackedPage} {read : BrowserSessionBroker.TrackingRead}

theorem takeChars_of_le {count : Nat} {text : String} (h : text.length ≤ count) : takeChars count text = text := by
  unfold takeChars
  rw [take_of_length_le (by rw [String.length_toList]; exact h), String.ofList_toList]

theorem takeChars_twice (count : Nat) (text : String) :
    takeChars count (takeChars count text) = takeChars count text := by
  unfold takeChars
  rw [String.toList_ofList, take_take, Nat.min_self]

theorem collectedMatches_collect : collectedMatches (page.collect findall pattern limit) =
      .ok (keptMatches findall pattern limit page.pageText.1) := by
  show Except.ok (List.filterMap _ (List.map Value.str (keptMatches findall pattern limit page.pageText.1))) = _
  rw [filterMap_map]
  show Except.ok (List.filterMap (fun s => some (takeChars 128 s))
    (keptMatches findall pattern limit page.pageText.1)) = _
  rw [filterMap_eq_map', keptMatches, map_map]
  exact congrArg Except.ok (map_congr_left fun text _ => takeChars_twice 128 text)

/-- A complete read of the declared page: its whole text, with fewer references than were asked
for. -/
structure CompleteRead (broker : BrowserSessionBroker) (findall : FindAll) (pattern origin tracking : String)
    (limit : Nat) (page : TrackedPage) (text : String) : Prop where
  landed : broker.host.trackingUrlMatches page.url origin tracking = .ok true
  shown : page.text = some text
  whole : text.length ≤ maxPageTextChars
  all : (references findall pattern text).length < limit

/-- A complete read of the tracking page shows exactly the references in its text. -/
theorem readTracking_collect (h : broker.readTracking origin tracking (page.collect findall pattern limit) = .ok read)
    (declared : read.declared) (complete : read.truncated = false) (short : page.Short findall pattern) :
    ∃ text, CompleteRead broker findall pattern origin tracking limit page text ∧
      read.references = references findall pattern text := by
  obtain ⟨collected, mapping, h⟩ := bind_eq_ok h
  obtain rfl : page.collect findall pattern limit = collected := Except.ok.inj mapping
  obtain ⟨url, found, h⟩ := bind_eq_ok h
  have landed : url = page.url := by
    change (if page.url.length ≤ 2048 then Except.ok page.url else _) = _ at found
    split at found
    · exact (Except.ok.inj found).symm
    · cases found
  subst landed
  obtain ⟨isMatch, matched, h⟩ := bind_eq_ok h
  cases isMatch with
  | false =>
    cases h
    cases declared
  | true =>
    rw [collectedMatches_collect] at h
    cases h
    have truncated : (!page.pageText.2 || decide (limit ≤ (keptMatches findall pattern limit page.pageText.1).length)) =
      false := complete
    rw [Bool.or_eq_false_iff, Bool.not_eq_false', decide_eq_false_iff_not, Nat.not_le] at truncated
    obtain ⟨readAll, few⟩ := truncated
    cases found : page.text with
    | none =>
      rw [TrackedPage.pageText, found] at readAll
      cases readAll
    | some text =>
      have whole : text.length ≤ maxPageTextChars := by
        rw [TrackedPage.pageText, found] at readAll
        by_contra long
        rw [show (if text.length > maxPageTextChars then (takeChars maxPageTextChars text, false) else (text, true)).2 =
          false by rw [if_pos (by omega)]] at readAll
        cases readAll
      have same : page.pageText.1 = text := by
        rw [TrackedPage.pageText, found]
        show (if text.length > maxPageTextChars then _ else (text, true)).1 = text
        rw [if_neg (by omega)]
      rw [same] at few
      have fewer : (references findall pattern text).length < limit := by
        unfold keptMatches at few
        rw [length_map, length_take] at few
        omega
      refine ⟨text, ⟨matched, found, whole, fewer⟩, ?_⟩
      rw [same]
      unfold keptMatches
      rw [take_of_length_le (by omega)]
      exact (map_congr_left fun reference mem => takeChars_of_le (short text found reference mem)).trans (map_id _)

theorem trackingUrl_ok (h : broker.trackingUrl descriptor = .ok (origin, url)) :
    descriptor.allowedOrigins.head? = some origin ∧ url = origin ++ descriptor.trackingPath := by
  unfold trackingUrl at h
  split at h
  · cases h
  · rename_i first rest same
    obtain ⟨decision, -, h⟩ := bind_eq_ok h
    split at h
    · cases h
    · cases Except.ok.inj h
      exact ⟨by rw [same]; rfl, rfl⟩

end Reading

/-! ## Where the rows come from -/

section Rows

variable {store store' : BrowserStore} {broker : BrowserSessionBroker} {m : Custody} {op : BrowserOp}
  {a b : Except Exn op.Ans} {sh : Bool}

/-- What a request leaves of the baseline and the receipt of a row: those of the row before, or
those of the record that an allowed save wrote. -/
inductive RowOrigin (broker : BrowserSessionBroker) (store : BrowserStore) (m : Custody) (op : BrowserOp)
    (row : BrowserSessionRecord) : Prop where
  | kept (old : BrowserSessionRecord) (mem : old ∈ store.sessions) (session : row.sessionId = old.sessionId)
      (baseline : row.receiptBaseline = old.receiptBaseline) (receipt : row.receipt = old.receipt)
  | created (baseline : row.receiptBaseline = none) (receipt : row.receipt = none)
  | saved (copy record : BrowserSessionRecord) (version : Nat) (mem : copy ∈ store.sessions)
      (request : op = .saveSession record version) (write : m.Write broker copy record)
      (session : row.sessionId = record.sessionId) (baseline : row.receiptBaseline = record.receiptBaseline)
      (receipt : row.receipt = record.receipt)

/-- Where a row of the sessions comes from: it was there, it was created, or a save wrote it over a copy. -/
theorem row_origin (sound : store.Sound) (held : ∀ copy ∈ m.known, store.Holds copy)
    (h : browserFaults sh store op a store') (ok : m.Allows broker ⟨op, a⟩) {row : BrowserSessionRecord}
    (mem : row ∈ store'.sessions) : RowOrigin broker store m op row := by
  have same (unchanged : row ∈ store.sessions) : RowOrigin broker store m op row := .kept row unchanged rfl rfl rfl
  rcases World.faulty_cases h.1 with ⟨rfl, -⟩ | ⟨b, reliable, -⟩
  · exact same mem
  obtain ⟨clock, effect⟩ := reliable.effect
  cases op with
  | createSession record =>
    have result : (b, store') = store.create record := effect
    rcases BrowserStore.create_cases store record with ⟨-, kept⟩ | ⟨stored, rfl, created, -⟩
    · rw [show store' = store from (congrArg Prod.snd result).trans kept] at mem
      exact same mem
    · rw [show store' = _ from congrArg Prod.snd (result.trans created)] at mem
      rcases mem_append.mp mem with old | new
      · exact same old
      · cases mem_singleton.mp new
        exact .created ok.1 ok.2
  | saveSession record version =>
    have result : (b, store') = store.save clock record version := effect
    obtain ⟨copy, known, expected, write⟩ := ok
    rcases BrowserStore.save_cases clock sound (held copy known) write.toRewrites expected with
      ⟨-, kept⟩ | ⟨stored, rfl, saved, -, copyMem⟩
    · rw [show store' = store from (congrArg Prod.snd result).trans kept] at mem
      exact same mem
    · rw [show store' = _ from congrArg Prod.snd (result.trans saved)] at mem
      obtain ⟨old, oldMem, replaced⟩ := mem_map.mp mem
      split at replaced
      · subst replaced
        exact .saved copy record version copyMem rfl write rfl rfl rfl
      · exact same (replaced ▸ oldMem)
  | recoverStaleExecutions activeOwners =>
    rw [show store' = (store.recoverStaleExecutions clock activeOwners).2 from congrArg Prod.snd effect] at mem
    obtain ⟨old, oldMem, replaced⟩ := mem_map.mp mem
    split at replaced
    · subst replaced
      exact .kept old oldMem rfl rfl rfl
    · exact same (replaced ▸ oldMem)
  | upsertAdapter record =>
    rw [show store' = (store.upsertAdapter clock record).2 from congrArg Prod.snd effect] at mem
    exact same mem
  | getSession | findActiveForTask | getAdapter | listAdapters =>
    rw [show store' = store from congrArg Prod.snd effect] at mem
    exact same mem
  | _ =>
    rw [show store' = store from effect] at mem
    exact same mem

end Rows

/-! ## Evidence -/

section Evidence

variable {ι : Type} [DecidableEq ι]

/-- The events of one caller. -/
def eventsOf (i : ι) (tr : List (ι × BrowserEvent)) : List BrowserEvent :=
  tr.filterMap fun entry => if entry.1 = i then some entry.2 else none

/-- What happened before the first click on the page of a session. -/
def beforeClick (sessionId : String) (tr : List (ι × BrowserEvent)) : List (ι × BrowserEvent) :=
  tr.takeWhile fun entry => !clicks sessionId entry.2

/-- A caller asked for a state of the session to be saved. -/
def Saves (state : BrowserSessionState) (tr : List (ι × BrowserEvent)) (i : ι) (sessionId : String) : Prop :=
  ∃ record version a, (i, ⟨.saveSession record version, a⟩) ∈ tr ∧ record.sessionId = sessionId ∧ record.state = state

variable {broker : BrowserSessionBroker} {tr more : List (ι × BrowserEvent)} {i j : ι} {sessionId reference : String}
  {baseline : ReceiptBaseline} {state : BrowserSessionState} {answer : Except Exn BrowserSessionRecord}
  {event : BrowserEvent} {version : Nat}

theorem mem_eventsOf : event ∈ eventsOf i tr ↔ (i, event) ∈ tr := by
  unfold eventsOf
  rw [mem_filterMap]
  constructor
  · rintro ⟨⟨j, e⟩, mem, same⟩
    by_cases hj : j = i
    · subst hj
      simp only [if_true, Option.some.injEq] at same
      exact same ▸ mem
    · simp [hj] at same
  · exact fun mem => ⟨_, mem, by simp⟩

omit [DecidableEq ι] in
theorem mem_beforeClick_append {entry : ι × BrowserEvent} (h : entry ∈ beforeClick sessionId tr) :
    entry ∈ beforeClick sessionId (tr ++ more) := by
  unfold beforeClick at *
  rw [takeWhile_append]
  split
  · exact mem_append_left _ ((List.takeWhile_prefix _).subset h)
  · exact h

omit [DecidableEq ι] in
theorem beforeClick_unclicked (h : ∀ entry ∈ tr, ¬ clicks sessionId entry.2) : beforeClick sessionId tr = tr :=
  takeWhile_eq_self_iff.mpr fun entry mem => by simpa using h entry mem

omit [DecidableEq ι] in
theorem Saves.append (h : Saves state tr i sessionId) : Saves state (tr ++ more) i sessionId := by
  obtain ⟨record, version, a, mem, rest⟩ := h
  exact ⟨record, version, a, mem_append_left _ mem, rest⟩

/-- The caller that saved EXECUTING read the baseline, before any click. -/
structure CapturedBy (broker : BrowserSessionBroker) (tr : List (ι × BrowserEvent)) (i : ι) (sessionId : String)
    (baseline : ReceiptBaseline) : Prop where
  saves : Saves .executing tr i sessionId
  captured : Custody.Captured broker (eventsOf i (beforeClick sessionId tr)) sessionId baseline

/-- The caller that saved SUCCEEDED read the reference, against the baseline. -/
structure ConcludedBy (broker : BrowserSessionBroker) (tr : List (ι × BrowserEvent)) (j : ι) (sessionId : String)
    (baseline : ReceiptBaseline) (reference : String) : Prop where
  saves : Saves .succeeded tr j sessionId
  proved : Custody.Proved broker (eventsOf j tr) sessionId (some baseline) reference

theorem CapturedBy.append (h : CapturedBy broker tr i sessionId baseline) :
    CapturedBy broker (tr ++ more) i sessionId baseline :=
  ⟨h.saves.append, h.captured.mono fun _ mem => mem_eventsOf.mpr (mem_beforeClick_append (mem_eventsOf.mp mem))⟩

theorem proved_mono {reads reads' : List BrowserEvent} {baseline : Option ReceiptBaseline}
    (h : Custody.Proved broker reads sessionId baseline reference) (more : ∀ event ∈ reads, event ∈ reads') :
    Custody.Proved broker reads' sessionId baseline reference := by
  obtain ⟨descriptor, origin, url, answer, read, resolved, declared, target, mem, rest⟩ := h
  exact ⟨descriptor, origin, url, answer, read, resolved.mono more, declared, target, more _ mem, rest⟩

theorem ConcludedBy.append (h : ConcludedBy broker tr j sessionId baseline reference) :
    ConcludedBy broker (tr ++ more) j sessionId baseline reference :=
  ⟨h.saves.append, proved_mono h.proved fun _ mem => mem_eventsOf.mpr (mem_append_left _ (mem_eventsOf.mp mem))⟩

theorem proved_baseline {reads : List BrowserEvent} {baseline : Option ReceiptBaseline}
    (h : Custody.Proved broker reads sessionId baseline reference) : ∃ before, baseline = some before := by
  obtain ⟨descriptor, origin, url, answer, read, -, -, -, -, -, found⟩ := h
  cases baseline with
  | none => cases found
  | some before => exact ⟨before, rfl⟩

/-- Every stored baseline and receipt has its reads. -/
structure Evidenced (broker : BrowserSessionBroker) (store : BrowserStore) (m : ι → Custody)
    (tr : List (ι × BrowserEvent)) :
    Prop where
  kept : Kept store m tr
  reads : ∀ i, ∀ event ∈ (m i).reads, (i, event) ∈ tr
  baselines : ∀ row ∈ store.sessions, ∀ baseline, row.receiptBaseline = some baseline →
    ∃ i, CapturedBy broker tr i row.sessionId baseline
  receipts : ∀ row ∈ store.sessions, ∀ receipt, row.receipt = some receipt →
    ∃ i j baseline, CapturedBy broker tr i row.sessionId baseline ∧
      ConcludedBy broker tr j row.sessionId baseline receipt.reference

theorem Evidenced.empty : Evidenced broker {} (fun _ : ι => {}) [] where
  kept := .empty
  reads _ _ h := by cases h
  baselines _ h := by cases h
  receipts _ h := by cases h

variable {store store' : BrowserStore} {m : ι → Custody} {sh : Bool} {op : BrowserOp} {a : Except Exn op.Ans}

theorem reads_after {m : Custody} (h : event ∈ (m.after ⟨op, a⟩).reads) : event ∈ m.reads ∨ event = ⟨op, a⟩ := by
  cases op with
  | getAdapter | listAdapters | collectMatches => exact (mem_cons.mp h).symm
  | getSession => rcases a with e | _ | r <;> exact .inl h
  | createSession | findActiveForTask | saveSession => cases a <;> exact .inl h
  | _ => exact .inl h

section

variable (evidenced : Evidenced broker store m tr)

include evidenced

/-- The baseline that a save writes over the row of a copy. -/
theorem Evidenced.captured_step {copy record : BrowserSessionRecord}
    (mem : copy ∈ store.sessions) (write : (m i).Write broker copy record)
    (new : record.receiptBaseline = some baseline) :
    ∃ k, CapturedBy broker (tr ++ [(i, ⟨.saveSession record version, answer⟩)]) k record.sessionId baseline := by
  by_cases same : record.receiptBaseline = copy.receiptBaseline
  · obtain ⟨k, captured⟩ := evidenced.baselines copy mem baseline (same ▸ new)
    exact ⟨k, write.session ▸ captured.append⟩
  obtain ⟨approved, executing⟩ := write.baseline.resolve_left same
  obtain ⟨taken, stored, captured⟩ := write.captured.resolve_left same
  -- the row is APPROVED, so that nobody clicked yet and all reads are before the click
  have unclicked : ∀ entry ∈ tr, ¬ clicks record.sessionId entry.2 := by
    intro entry entryMem clicked
    obtain ⟨row, rowMem, session, sent⟩ := evidenced.kept.used record.sessionId entry entryMem clicked
    have eq : row = copy := inj_on_of_nodup_map evidenced.kept.sound.unique rowMem mem (session.trans write.session)
    rw [eq, approved] at sent
    cases sent
  cases stored.symm.trans new
  refine ⟨i, ⟨⟨record, version, answer, mem_append_right _ mem_cons_self, rfl, executing⟩, ?_⟩⟩
  refine captured.mono fun event read => mem_eventsOf.mpr (mem_beforeClick_append ?_)
  rw [beforeClick_unclicked unclicked]
  exact evidenced.reads i event read

/-- The receipt that a save writes over the row of a copy. -/
theorem Evidenced.concluded_step {copy record : BrowserSessionRecord}
    {receipt : BrowserReceipt} (mem : copy ∈ store.sessions)
    (write : (m i).Write broker copy record) (new : record.receipt = some receipt) :
    ∃ k l baseline, CapturedBy broker (tr ++ [(i, ⟨.saveSession record version, answer⟩)]) k record.sessionId baseline ∧
      ConcludedBy broker (tr ++ [(i, ⟨.saveSession record version, answer⟩)]) l record.sessionId baseline
        receipt.reference := by
  by_cases same : record.receipt = copy.receipt
  · obtain ⟨k, l, baseline, captured, concluded⟩ := evidenced.receipts copy mem receipt (same ▸ new)
    exact ⟨k, l, baseline, write.session ▸ captured.append, write.session ▸ concluded.append⟩
  obtain ⟨unknown, succeeded⟩ := write.receipt.resolve_left same
  obtain ⟨given, stored, proved⟩ := write.proved.resolve_left same
  cases stored.symm.trans new
  obtain ⟨baseline, before⟩ := proved_baseline proved
  obtain ⟨k, captured⟩ := evidenced.baselines copy mem baseline before
  refine ⟨k, i, baseline, write.session ▸ captured.append, ?_, ?_⟩
  · exact ⟨record, version, answer, mem_append_right _ mem_cons_self, rfl, succeeded⟩
  · rw [← before]
    exact proved_mono proved fun event read => mem_eventsOf.mpr (mem_append_left _ (evidenced.reads i event read))

/-- **Step.** -/
theorem Evidenced.step (h : browserFaults sh store op a store')
    (ok : (m i).Allows broker ⟨op, a⟩) :
    Evidenced broker store' (update m i ((m i).after ⟨op, a⟩)) (tr ++ [(i, ⟨op, a⟩)]) where
  kept := evidenced.kept.step h ok
  reads j event read := by
    by_cases hj : j = i
    · subst hj
      rw [update_self] at read
      rcases reads_after read with old | rfl
      · exact mem_append_left _ (evidenced.reads j event old)
      · exact mem_append_right _ mem_cons_self
    · rw [update_of_ne hj] at read
      exact mem_append_left _ (evidenced.reads j event read)
  baselines row mem baseline stored := by
    cases row_origin evidenced.kept.sound (evidenced.kept.held i) h ok mem with
    | kept old oldMem session same _ =>
      obtain ⟨k, captured⟩ := evidenced.baselines old oldMem baseline (same ▸ stored)
      exact ⟨k, session ▸ captured.append⟩
    | created absent _ =>
      rw [absent] at stored
      cases stored
    | saved copy record version copyMem request write session same _ =>
      subst request
      rw [session]
      exact evidenced.captured_step copyMem write (same ▸ stored)
  receipts row mem receipt stored := by
    cases row_origin evidenced.kept.sound (evidenced.kept.held i) h ok mem with
    | kept old oldMem session _ same =>
      obtain ⟨k, l, baseline, captured, concluded⟩ := evidenced.receipts old oldMem receipt (same ▸ stored)
      exact ⟨k, l, baseline, session ▸ captured.append, session ▸ concluded.append⟩
    | created _ absent =>
      rw [absent] at stored
      cases stored
    | saved copy record version copyMem request write session _ same =>
      subst request
      rw [session]
      exact evidenced.concluded_step copyMem write (same ▸ stored)

end

/-- **Run.** -/
theorem evidenced_of_pool {callers : ι → BrowserCaller} {threads : ι → BrowserM (Option Value)}
    (pool : Pool (fun _ => browserFaults) (fun _ _ => False) (fun i => (callers i).run broker) {} threads store tr) :
    ∃ m, Evidenced broker store m tr := by
  obtain ⟨m, evidenced, -⟩ := Pool.monitored (fun _ => custody broker) (fun _ => {}) (fun i => (callers i).Ends)
    (Evidenced broker) (fun i => (callers i).run_follows broker) Evidenced.empty
    (fun _ _ _ _ _ _ _ _ _ h => relies h) (fun _ _ _ _ _ _ _ _ evidenced h ok => evidenced.step h ok)
    (fun _ _ _ _ _ h => h.elim) pool
  exact ⟨m, evidenced⟩

end Evidence

/-! ## Receipts -/

/-- Two adapters declare the same tracking page and receipt pattern. -/
structure TransactionAdapterDescriptor.SameTracking (a b : TransactionAdapterDescriptor) : Prop where
  origin : a.allowedOrigins.head? = b.allowedOrigins.head?
  trackingPath : a.trackingPath = b.trackingPath
  receiptPattern : a.receiptPattern = b.receiptPattern

/-- The caller that saved SUCCEEDED matched the reference on the declared tracking page, and it is
the only one that a complete read of the same page, before the click and by the caller that saved
EXECUTING, did not show. -/
def FreshReference {ι : Type} [DecidableEq ι] (broker : BrowserSessionBroker) (findall : FindAll)
    (tr : List (ι × BrowserEvent)) (sessionId reference : String) : Prop :=
  ∃ i j descriptor origin before after textBefore textAfter,
    Saves .executing tr i sessionId ∧ Saves .succeeded tr j sessionId ∧ Custody.Resolved (eventsOf j tr) descriptor ∧
    descriptor.allowedOrigins.head? = some origin ∧
    (j, ⟨.collectMatches sessionId descriptor.receiptPattern 256 (origin ++ descriptor.trackingPath),
      .ok (TrackedPage.collect after findall descriptor.receiptPattern 256)⟩) ∈ tr ∧
    (i, ⟨.collectMatches sessionId descriptor.receiptPattern 128 (origin ++ descriptor.trackingPath),
      .ok (TrackedPage.collect before findall descriptor.receiptPattern 128)⟩) ∈ beforeClick sessionId tr ∧
    CompleteRead broker findall descriptor.receiptPattern origin descriptor.trackingPath 256 after textAfter ∧
    CompleteRead broker findall descriptor.receiptPattern origin descriptor.trackingPath 128 before textBefore ∧
    reference ∈ references findall descriptor.receiptPattern textAfter ∧
    ∀ r ∈ references findall descriptor.receiptPattern textAfter,
      r ∉ references findall descriptor.receiptPattern textBefore ↔ r = reference

/-- The pages whose references are short and among those given. -/
def ShortAmong (findall : FindAll) (occurring : Set String) (pattern : String) (page : TrackedPage) : Prop :=
  page.Short findall pattern ∧
    ∀ text, page.text = some text → ∀ reference ∈ references findall pattern text, reference ∈ occurring

/-- A judgement that found a reference had two complete reads and one new reference. -/
theorem judgeTracking_found {broker : BrowserSessionBroker} {baseline : ReceiptBaseline}
    {read : BrowserSessionBroker.TrackingRead}
    (h : broker.judgeTracking (some baseline) read = .found reference) :
    read.declared ∧ baseline.truncated = false ∧ read.truncated = false ∧
      ∀ r, (r ∈ read.references ∧ broker.receiptHash r ∉ baseline.hashes) ↔ r = reference := by
  unfold judgeTracking at h
  dsimp only at h
  split at h
  · cases h
  · rename_i safe
    simp only [Bool.or_eq_true, Bool.not_eq_true', not_or, Bool.not_eq_false, Bool.not_eq_true] at safe
    obtain ⟨⟨declared, before⟩, after⟩ := safe
    split at h
    · cases h
    · rename_i only fresh
      cases h
      refine ⟨declared, before, after, fun r => ?_⟩
      rw [← mem_singleton, ← fresh]
      simp [freshReferences]
    · cases h

/-- The digests of a baseline document are those it was made of. -/
theorem mem_baselineDocument {hashes : List String} {truncated : Bool} {digest : String} :
    digest ∈ (baselineDocument hashes truncated).hashes ↔ digest ∈ hashes := by
  unfold baselineDocument
  rw [(perm_insertionSort _ _).mem_iff, mem_dedup]

/-- **What a receipt proves.** In every history, where the adapter that the submission used and
the one that the reconciliation used declare the same tracking page and pattern, the references
are at most 128 characters long and their digests differ: the reference under which a session is
stored was matched on the declared tracking page, and is the only one there that the complete
read of that page before the click did not show. -/
theorem receipt_fresh {ι : Type} [DecidableEq ι] (broker : BrowserSessionBroker) (findall : FindAll)
    (callers : ι → BrowserCaller) (occurring : Set String) (distinct : Set.InjOn broker.receiptHash occurring)
    {threads : ι → BrowserM (Option Value)} {store : BrowserStore} {tr : List (ι × BrowserEvent)}
    (pool : Pool (fun _ => trackedFaults findall (ShortAmong findall occurring)) (fun _ _ => False)
      (fun i => (callers i).run broker) {} threads store tr)
    (sessionId : String)
    (same : ∀ i j descriptor descriptor', Saves .executing tr i sessionId → Saves .succeeded tr j sessionId →
      Custody.Resolved (eventsOf i tr) descriptor → Custody.Resolved (eventsOf j tr) descriptor' →
      descriptor.SameTracking descriptor')
    (record : BrowserSessionRecord) (receipt : BrowserReceipt) (found : store.get sessionId = some record)
    (stored : record.receipt = some receipt) : FreshReference broker findall tr sessionId receipt.reference := by
  have collects := pool.events (Collects findall (ShortAmong findall occurring)) fun _ _ _ _ _ _ h => h.2
  obtain ⟨m, evidenced⟩ := evidenced_of_pool (pool.mono fun _ _ _ _ _ _ h => h.1)
  obtain ⟨mem, rfl⟩ := BrowserStore.get_mem found
  obtain ⟨i, j, baseline, captured, concluded⟩ := evidenced.receipts record mem receipt stored
  obtain ⟨descriptor, origin, url, answer, read, resolved, ⟨tracked, patterned⟩, target, collected, ok, judged⟩ :=
    concluded.proved
  obtain ⟨before, resolved', evidence⟩ := captured.captured
  have resolvedBefore : Custody.Resolved (eventsOf i tr) before :=
    resolved'.mono fun _ h => mem_eventsOf.mpr ((List.takeWhile_prefix _).subset (mem_eventsOf.mp h))
  have agree := same i j before descriptor captured.saves concluded.saves resolvedBefore resolved
  obtain ⟨head, rfl⟩ := trackingUrl_ok target
  obtain ⟨declared, wholeBefore, whole, fresh⟩ := judgeTracking_found judged
  -- the page that was read at the end
  obtain ⟨page, ⟨short, among⟩, rfl⟩ := collects _ (mem_eventsOf.mp collected)
  obtain ⟨text, complete, shown⟩ := readTracking_collect ok declared whole short
  rcases evidence with ⟨untracked, -⟩ | ⟨origin', url', answer', read', target', collected', ok', declared', rfl⟩
  · rw [agree.trackingPath, agree.receiptPattern] at untracked
    exact absurd untracked (not_or.mpr ⟨tracked, patterned⟩)
  -- the same page before the click
  obtain ⟨head', rfl⟩ := trackingUrl_ok target'
  cases head.symm.trans (agree.origin ▸ head')
  rw [agree.trackingPath, agree.receiptPattern] at collected'
  rw [agree.trackingPath] at ok'
  have earlier := (List.takeWhile_prefix _).subset (mem_eventsOf.mp collected')
  obtain ⟨page', ⟨short', among'⟩, rfl⟩ := collects _ earlier
  obtain ⟨text', complete', shown'⟩ := readTracking_collect ok' declared' wholeBefore short'
  refine ⟨i, j, descriptor, origin, page', page, text', text, captured.saves, concluded.saves, resolved, head,
    mem_eventsOf.mp collected, mem_eventsOf.mp collected', complete, complete', ?_, fun r mem => ?_⟩
  · rw [← shown]
    exact ((fresh receipt.reference).mpr rfl).1
  · rw [← fresh r, mem_baselineDocument, shown, shown', mem_map]
    constructor
    · rintro absent
      refine ⟨mem, ?_⟩
      rintro ⟨r', mem', digest⟩
      have eq : r' = r := distinct (among' _ complete'.shown r' mem') (among _ complete.shown r mem) digest
      exact absent (eq ▸ mem')
    · rintro ⟨-, absent⟩ present
      exact absent ⟨r, present, rfl⟩

/-! ## The small site once more -/

/-- A text is one match, unless it is empty. -/
def sampleFindAll : FindAll := fun _ text => if text = "" then [] else [[text]]

/-- The companion on the form, with the tracking pages given for each limit and URL. -/
def trackedPages (pages : Nat → String → Option TrackedPage) : (op : BrowserOp) → Except Exn op.Ans
  | .collectMatches _ pattern limit url => match pages limit url with
    | some page => .ok (page.collect sampleFindAll pattern limit)
    | none => .error (.other "BrowserDriverError")
  | op => samplePages op

/-- The answers of the sample are those of a companion on the tracked pages. -/
theorem trackedPages_faults
    (allGood : ∀ limit url page, pages limit url = some page → ∀ pattern, good pattern page) {sh : Bool}
    {op : BrowserOp} {a : Except Exn op.Ans} {store' : BrowserStore}
    (h : some (browserWorld.answerWith 0 (trackedPages pages) store op) = some (a, store')) :
    trackedFaults sampleFindAll good sh store op a store' := by
  have total (op : BrowserOp) (h : browserWorld.total op) : ∃ x, trackedPages pages op = .ok x := by
    cases op <;> first | exact ⟨_, rfl⟩ | cases h
  have answered : browserWorld.answerWith 0 (trackedPages pages) store op = (a, store') := Option.some.inj h
  refine ⟨browserFaults_answerWith total answered, ?_⟩
  cases op with
  | collectMatches sessionId pattern limit url =>
    have answer : a = trackedPages pages (.collectMatches sessionId pattern limit url) :=
      (congrArg Prod.fst answered).symm
    dsimp only [trackedPages] at answer
    split at answer
    · rename_i page found
      subst answer
      exact ⟨page, allGood limit url page found pattern, rfl⟩
    · subst answer
      trivial
  | _ => trivial

/-- The callers of a session on that site, with any number more. -/
def trackedSession (pages : Nat → String → Option TrackedPage) {n : Nat} (callers : Fin n → BrowserCaller) :
    (Fin n → BrowserM (Option Value)) × BrowserStore × List (Fin n × BrowserEvent) :=
  playPool (fun _ store op => some (browserWorld.answerWith 0 (trackedPages pages) store op))
    ((List.finRange n).flatMap fun i => List.replicate 20 i) (fun i => (callers i).run sampleBroker) {} []

theorem trackedSession_pool
    (allGood : ∀ limit url page, pages limit url = some page → ∀ pattern, good pattern page) {n : Nat}
    (callers : Fin n → BrowserCaller) :
    Pool (fun _ => trackedFaults sampleFindAll good) (fun _ _ => False) (fun i => (callers i).run sampleBroker) {}
      (trackedSession pages callers).1 (trackedSession pages callers).2.1 (trackedSession pages callers).2.2 :=
  playPool_pool (fun _ _ _ _ _ _ answered => trackedPages_faults allGood answered) _ .start

/-- The reference under which a session is stored. -/
def storedReference (store : BrowserStore) (sessionId : String) : Option String :=
  ((store.get sessionId).bind (·.receipt)).map (·.reference)

theorem storedReference_eq (h : storedReference store sessionId = some reference) :
    ∃ record receipt, store.get sessionId = some record ∧ record.receipt = some receipt ∧
      receipt.reference = reference := by
  obtain ⟨receipt, found, same⟩ := Option.map_eq_some_iff.mp h
  obtain ⟨record, stored, has⟩ := Option.bind_eq_some_iff.mp found
  exact ⟨record, receipt, stored, has, same⟩

/-- Every adapter in an event is the given one. -/
def resolvesOnly (descriptor : TransactionAdapterDescriptor) : BrowserEvent → Bool
  | ⟨.getAdapter _ _ _, .ok (some registered)⟩ => registered.descriptor = descriptor
  | ⟨.listAdapters _, .ok items⟩ => items.all (·.descriptor = descriptor)
  | _ => true

theorem resolved_only [DecidableEq ι]
    {only : TransactionAdapterDescriptor} (all : tr.all fun entry => resolvesOnly only entry.2)
    (h : Custody.Resolved (eventsOf i tr) descriptor) : descriptor = only := by
  rw [all_eq_true] at all
  rcases h with ⟨_, _, _, registered, mem, rfl⟩ | ⟨_, registered, items, mem, among, rfl⟩
  · simpa [resolvesOnly] using all _ (mem_eventsOf.mp mem)
  · have each := all _ (mem_eventsOf.mp mem)
    simp only [resolvesOnly, all_eq_true, decide_eq_true_eq] at each
    exact each registered among

/-- The tracking page of the form: empty at first, with one reference later. -/
def sampleTracking (limit : Nat) (_ : String) : Option TrackedPage :=
  some ⟨"https://s/track", some (if limit = 256 then "R1" else "")⟩

theorem sampleTracking_ends : storedReference (trackedSession sampleTracking sampleBrowserCallers).2.1 "session" =
      some "R1" ∧
    ((trackedSession sampleTracking sampleBrowserCallers).2.2.all fun entry => resolvesOnly sampleAdapter entry.2) := by
  decide +kernel

/-- The session ends under the one reference that came to the tracking page. -/
theorem receipt_fresh_sample : ∃ record receipt,
    (trackedSession sampleTracking sampleBrowserCallers).2.1.get "session" = some record ∧
    record.receipt = some receipt ∧
    receipt.reference = "R1" ∧
    FreshReference sampleBroker sampleFindAll
      (trackedSession sampleTracking sampleBrowserCallers).2.2 "session" "R1" := by
  obtain ⟨record, receipt, found, stored, same⟩ := storedReference_eq sampleTracking_ends.1
  have good : ∀ limit url page, sampleTracking limit url = some page → ∀ pattern,
      ShortAmong sampleFindAll {"R1"} pattern page := by
    rintro limit url _ ⟨⟩ pattern
    have only : ∀ text, some (if limit = 256 then "R1" else "") = some text →
        ∀ reference ∈ references sampleFindAll pattern text, reference = "R1" := by
      rintro text ⟨⟩ reference mem
      split at mem
      · simpa [references, sampleFindAll] using mem
      · simp [references, sampleFindAll] at mem
    exact ⟨fun text shown reference mem => by rw [only text shown reference mem]; decide,
      fun text shown reference mem => only text shown reference mem⟩
  have fresh := receipt_fresh sampleBroker sampleFindAll sampleBrowserCallers {"R1"} (Set.injOn_singleton _ _)
    (trackedSession_pool good sampleBrowserCallers) "session"
    (fun i j descriptor descriptor' _ _ resolved resolved' => by
      rw [resolved_only sampleTracking_ends.2 resolved, resolved_only sampleTracking_ends.2 resolved']
      exact ⟨rfl, rfl, rfl⟩)
    record receipt found stored
  exact ⟨record, receipt, found, stored, same, same ▸ fresh⟩

/-- The session of the form, its adapter registered again with another tracking page before the
reconciliation. -/
def reboundCallers : Fin 8 → BrowserCaller
  | 6 => .registerAdapter { sampleAdapter with trackingPath := "/other" }
  | 7 => .reconcile "session" "site"
  | i => if h : i.val < 6 then sampleBrowserCallers ⟨i.val, h⟩ else .recoverStaleSessions []

/-- The first tracking page is empty and then out of reach; the other one always shows one
reference. -/
def reboundTracking (limit : Nat) (url : String) : Option TrackedPage :=
  if url = "https://s/other" then some ⟨url, some "R0"⟩
  else if limit = 128 then some ⟨url, some ""⟩
  else none

/-- The tracking pages that were read. -/
def readPages {ι : Type} (tr : List (ι × BrowserEvent)) : List (Nat × String) :=
  tr.filterMap fun entry => match entry.2 with
    | ⟨.collectMatches _ _ limit url, .ok _⟩ => some (limit, url)
    | _ => none

theorem mem_readPages {pattern : String} {limit : Nat}
    {answer : Value} (h : (i, ⟨.collectMatches sessionId pattern limit url, .ok answer⟩) ∈ tr) :
    (limit, url) ∈ readPages tr :=
  mem_filterMap.mpr ⟨_, h, rfl⟩

theorem rebound_ends : storedReference (trackedSession reboundTracking reboundCallers).2.1 "session" = some "R0" ∧
    readPages (trackedSession reboundTracking reboundCallers).2.2 =
      [(128, "https://s/track"), (256, "https://s/other")] := by
  decide +kernel

/-- The reference was on its page all the time: the baseline is that of another page. -/
theorem rebound_tracking_proves_old : ∃ store tr record receipt,
    (∃ threads, Pool (fun _ => trackedFaults sampleFindAll fun _ _ => True) (fun _ _ => False)
      (fun i => (reboundCallers i).run sampleBroker) {} threads store tr) ∧
    store.get "session" = some record ∧ record.receipt = some receipt ∧
    ¬ FreshReference sampleBroker sampleFindAll tr "session" receipt.reference := by
  obtain ⟨record, receipt, found, stored, -⟩ := storedReference_eq rebound_ends.1
  refine ⟨_, _, record, receipt, ⟨_, trackedSession_pool (fun _ _ _ _ _ => trivial) reboundCallers⟩, found, stored, ?_⟩
  rintro ⟨i, j, descriptor, origin, before, after, textBefore, textAfter, -, -, -, -, later, earlier, -⟩
  have last := mem_readPages later
  have first := mem_readPages ((List.takeWhile_prefix _).subset earlier)
  rw [rebound_ends.2] at last first
  simp only [mem_cons, Prod.mk.injEq, not_mem_nil, or_false] at last first
  rcases last with ⟨limit, -⟩ | ⟨-, other⟩
  · omega
  · rcases first with ⟨-, track⟩ | ⟨limit, -⟩
    · exact absurd (track.symm.trans other) (by decide)
    · omega

end PersonalAssistant
