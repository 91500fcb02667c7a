import PersonalAssistant.Browser.Submit

/-!
# What the broker detects

The exceptions by which an operation tells that the page drifted, that it has an unknown field or
that its meaning is prohibited, and which parts never raise one: reading and judging an answer of
the companion raises for malformed data and for denied navigation only. What is left are the
places where the broker compares the page with the plan, the preview and the adapter.
-/

namespace PersonalAssistant

open List

/-- `PageDriftError`, `ProhibitedTransactionError`, and the refusal of an unknown field. -/
def Exn.detects : Exn → Bool
  | .runtime (.browser .pageDrift _) _ => true
  | .runtime (.browser .prohibitedTransaction _) _ => true
  | .runtime (.browser .policy reason) _ => reason = "UNKNOWN_FIELD"
  | _ => false

/-- A computation that detects nothing. -/
abbrev Harmless {α : Type} (x : Except Exn α) : Prop := Raises (·.detects = false) x

variable (v : Value)

/-! ## Reading an answer -/

theorem requireMapping_harmless (what : String) : Harmless (requireMapping v what) :=
  .ite (fun _ => .ok v) fun _ => .error rfl

theorem requireStr_harmless (what : String) (maxLength : Nat) : Harmless (requireStr v what maxLength) := by
  unfold requireStr
  split
  · exact .returned fun _ => .error rfl
  · exact .error rfl

theorem iterate_harmless : Harmless v.iterate := by
  unfold Value.iterate
  split
  · exact .ok _
  · split
    · exact .ok _
    · exact .error rfl

theorem canonicalJson_harmless : Harmless (canonicalJson v) :=
  (canonicalJson_raises v).mono fun e encoding => by
    rcases encoding with ⟨_, rfl⟩ | ⟨_, rfl⟩ <;> rfl

theorem canonicalSha256_harmless (host : Host) (v : Value) : Harmless (canonicalSha256 host v) :=
  (canonicalJson_harmless v).map

namespace BrowserHost

/-- `int(value)` raises an error of the Python library. -/
def LibraryInt (host : BrowserHost) : Prop := ∀ v e, host.pyInt v = .error e → ∃ name, e = .other name

variable {host : BrowserHost} (url : String)

theorem getInt_harmless (library : host.LibraryInt) (v : Value) (key : String) : Harmless (host.getInt v key) := by
  intro e raised
  obtain ⟨_, rfl⟩ := library _ e raised
  rfl

theorem canonicalHost_harmless (name : String) : Harmless (host.canonicalHost name) :=
  .guard rfl fun _ => .guard rfl fun _ => .ok _

theorem normalizeOrigin_harmless (raw : String) : Harmless (host.normalizeOrigin raw) := by
  refine .guard rfl fun _ => .guard rfl fun _ => ?_
  refine .guard rfl fun _ => ?_
  split
  · exact .error rfl
  · refine .guard rfl fun _ => .guard rfl fun _ => ?_
    refine .guard rfl fun _ => ?_
    split <;> first
      | exact .error rfl
      | exact .bind (canonicalHost_harmless _) fun _ _ => .ok _

/-- The evaluation of a navigation raises only what `normalize_origin` raises. -/
theorem evaluateNavigation_harmless (allowedOrigins : List String) (mode : OriginMode) (paths : List String)
    (url : String) :
    Harmless (host.evaluateNavigation allowedOrigins mode paths url) := by
  -- the only exception that leaves is one of `normalize_origin`
  refine .returned fun _ => .returned fun _ => ?_
  refine .returned fun _ => .returned fun _ => ?_
  refine .returned fun _ => ?_
  split
  · exact .ok _
  · refine .returned fun _ => .returned fun _ => ?_
    split
    · exact .ok _
    · exact .ok _
    · exact .ok _
    · dsimp only
      split
      · exact .ok _
      · rename_i raised
        exact .error (normalizeOrigin_harmless _ _ raised)
      · refine .returned fun _ => .returned fun _ => ?_
        refine .returned fun _ => .returned fun _ => ?_
        refine .returned fun _ => .returned fun _ => ?_
        exact .returned fun _ => .ok _

theorem navigationPath_harmless : Harmless (host.navigationPath url) := by
  unfold navigationPath
  split
  · exact .error rfl
  · exact .ok _

theorem originOf_harmless : Harmless (host.originOf url) := by
  unfold originOf
  split
  · exact .error rfl
  · split <;> first | exact .error rfl | exact .ok _

theorem pathOnly_harmless : Harmless (host.pathOnly url) := by
  unfold pathOnly
  split
  · exact .error rfl
  · exact .ok _

theorem trackingUrlMatches_harmless (origin tracking : String) :
    Harmless (host.trackingUrlMatches url origin tracking) := by
  unfold trackingUrlMatches
  split
  · exact .ok _
  · refine .returned fun _ => .bind (navigationPath_harmless _) fun _ _ => ?_
    exact .returned fun _ => .bind (originOf_harmless _) fun _ _ => .ok _

theorem pageStructureDocument_harmless (library : host.LibraryInt) (controls headings links forms hidden : List Value) :
    Harmless (host.pageStructureDocument controls headings links forms hidden) := by
  refine .guard rfl fun _ => .guard rfl fun _ => ?_
  refine .guard rfl fun _ => .guard rfl fun _ => ?_
  refine .bind (.mapM fun item _ => ?_) fun _ _ => .bind (canonicalJson_harmless _) fun _ _ => ?_
  · exact .bind (getInt_harmless library _ _) fun _ _ => .ok _
  · exact .guard rfl fun _ => .ok _

end BrowserHost

namespace BrowserSessionBroker

variable {broker : BrowserSessionBroker} {descriptor : TransactionAdapterDescriptor}

open BrowserHost

theorem readPage_harmless (library : broker.host.LibraryInt) (adapter : Option TransactionAdapterDescriptor)
    (answer : Value) :
    Harmless (broker.readPage adapter answer) := by
  refine .bind (requireMapping_harmless _ _) fun raw _ => .bind (canonicalJson_harmless _) fun _ _ => ?_
  refine .guard rfl fun _ => ?_
  refine .bind (requireStr_harmless _ _ _) fun url _ => .bind (requireStr_harmless _ _ _) fun title _ => ?_
  refine .bind (requireMapping_harmless _ _) fun structure_ _ => ?_
  split
  · split
    · refine .guard rfl fun _ => ?_
      refine .bind (pageStructureDocument_harmless library _ _ _ _ _) fun document _ => ?_
      refine .bind (canonicalSha256_harmless _ _) fun fingerprint _ => ?_
      refine .bind (evaluateNavigation_harmless _ _ _ _) fun decision _ => ?_
      exact .guard rfl fun _ => .ok _
    · exact .error rfl
  · exact .error rfl

theorem liveByLocator_harmless (seen : List (String × Value)) (controls : List Value) :
    Harmless (broker.liveByLocator seen controls) := by
  induction controls generalizing seen with
  | nil => exact .ok seen
  | cons item rest ih =>
    exact .ite (fun _ => ih _) fun _ => .guard rfl fun _ => ih _

theorem pageFields_harmless (library : broker.host.LibraryInt) (adapter : Option TransactionAdapterDescriptor)
    (controls : List Value) : Harmless (broker.pageFields adapter controls) := by
  refine .bind (liveByLocator_harmless [] controls) fun live _ => .mapM fun entry _ => ?_
  refine .bind (iterate_harmless _) fun options _ => ?_
  exact .bind (getInt_harmless library _ _) fun _ _ => .ok _

theorem parseLinks_harmless (links : List Value) : Harmless (parseLinks links) := by
  refine .mapM fun item _ => .bind (requireStr_harmless _ _ _) fun _ _ => ?_
  exact .bind (requireStr_harmless _ _ _) fun _ _ => .ok _

theorem pageSnapshot_harmless (library : broker.host.LibraryInt) (sessionId : String) (page : RawPage) (origin : String)
    (now : Time) (fields : List PageField) (adapter : Option TransactionAdapterDescriptor) :
    Harmless (broker.pageSnapshot sessionId page origin now fields adapter) := by
  refine .bind (pathOnly_harmless _) fun _ _ => .bind (parseLinks_harmless _) fun _ _ => ?_
  refine .bind (requireStr_harmless _ _ _) fun _ _ => .bind (getInt_harmless library _ _) fun _ _ => ?_
  exact .ok _

variable {snapshot : PageSnapshot} {plan : FillPlan} {record : BrowserSessionRecord} {preview : TransactionPreview}
  {now : Time}

theorem pageSnapshot_ok {sessionId origin : String} {page : RawPage} {fields : List PageField}
    {adapter : Option TransactionAdapterDescriptor}
    (ok : broker.pageSnapshot sessionId page origin now fields adapter = .ok snapshot) :
    snapshot.url = page.url ∧ snapshot.fields = fields ∧ snapshot.fingerprint = page.fingerprint := by
  obtain ⟨path, -, ok⟩ := bind_eq_ok ok
  obtain ⟨links, -, ok⟩ := bind_eq_ok ok
  obtain ⟨digest, -, ok⟩ := bind_eq_ok ok
  obtain ⟨size, -, ok⟩ := bind_eq_ok ok
  cases ok
  exact ⟨rfl, rfl, rfl⟩

/-! ## The tests of an operation -/

theorem navigationActionFor_harmless (transactionId : String) :
    Harmless (navigationActionFor descriptor transactionId) := by
  refine .guard rfl fun _ => ?_
  split
  · exact .error rfl
  · exact .ok _

theorem checkPreview_harmless (record : BrowserSessionRecord) (taskId previewHash previewNonce : String) :
    Harmless (broker.checkPreview record taskId previewHash previewNonce) := by
  refine .guard rfl fun _ => .guard rfl fun _ => ?_
  refine .guard rfl fun _ => ?_
  split
  · exact .error rfl
  · refine .guard rfl fun _ => .guard rfl fun _ => ?_
    exact .guard rfl fun _ => .ok _

theorem checkPreview_ok {taskId previewHash previewNonce : String}
    (ok : broker.checkPreview record taskId previewHash previewNonce = .ok preview) :
    record.state = .previewReady ∧ record.preview = some preview := by
  unfold checkPreview at ok
  cases found : record.preview with
  | none =>
    rw [found] at ok
    split_ifs at ok
  | some stored =>
    simp only [found] at ok
    split_ifs at ok with foreign ready
    exact ⟨not_not.mp ready, congrArg some (Except.ok.inj ok)⟩

theorem requireFresh_harmless (preview : TransactionPreview) (now : Time) : Harmless (preview.requireFresh now) :=
  .guard rfl fun _ => .ok _

/-- An adapter that was accepted declares no prohibited final action. -/
theorem finalActionFor_harmless (allowed : ∀ action ∈ descriptor.actions, action.risk ≠ .prohibited)
    (actionId : String) :
    Harmless (finalActionFor descriptor actionId) := by
  unfold finalActionFor
  split
  · exact .error rfl
  · rename_i final found
    refine .guard rfl fun _ => .ite (fun prohibited => ?_) fun _ => .ok _
    exact absurd prohibited (allowed final (mem_of_find?_eq_some found))

theorem trackingUrl_harmless : Harmless (broker.trackingUrl descriptor) := by
  unfold trackingUrl
  split
  · exact .error rfl
  · refine .bind (evaluateNavigation_harmless _ _ _ _) fun _ _ => ?_
    exact .guard rfl fun _ => .ok _

theorem readTracking_harmless (origin tracking : String) (answer : Value) :
    Harmless (broker.readTracking origin tracking answer) := by
  refine .bind (requireMapping_harmless _ _) fun _ _ => .bind (requireStr_harmless _ _ _) fun _ _ => ?_
  refine .bind (trackingUrlMatches_harmless _ _ _) fun _ _ => .returned fun _ => ?_
  refine .bind ?_ fun _ _ => .ok _
  exact .bind (iterate_harmless _) fun _ _ => .ok _

/-- The page shows what the plan was made of: the planned locators are those of the adapter, and
the planned fields hold the values that the plan starts from. -/
def Fits (plan : FillPlan) (descriptor : TransactionAdapterDescriptor) (fields : List PageField) : Prop :=
  ∀ change ∈ plan.fields, ∀ spec, descriptor.fieldSpec change.fieldId = some spec →
    spec.locator = change.locator ∧
      (fields.find? (·.fieldId = change.fieldId)).map (·.value) = some change.oldValue

/-- If the exception detects anything, it is the refusal of an unknown field. -/
def OnlyUnknown (e : Exn) : Prop := e.detects → ∃ message, e = browserPolicyError "UNKNOWN_FIELD" message

theorem onlyUnknown_of_harmless {e : Exn} (h : e.detects = false) : OnlyUnknown e := by
  intro detects
  rw [h] at detects
  cases detects

/-- For a plan that fits, a field raises UNKNOWN_FIELD at most. -/
theorem verifyChange_raises (fits : Fits plan descriptor snapshot.fields)
    {change : FieldChange} (mem : change ∈ plan.fields) :
    Raises OnlyUnknown (broker.verifyChange descriptor snapshot change) := by
  unfold verifyChange
  split
  · exact .error fun _ => ⟨_, rfl⟩
  · rename_i spec declared
    obtain ⟨located, shown⟩ := fits change mem spec declared
    refine .ite (fun moved => absurd located moved) fun _ => ?_
    split
    · rename_i missing
      rw [PageSnapshot.fieldById] at missing
      rw [missing] at shown
      cases shown
    · rename_i live found
      rw [PageSnapshot.fieldById] at found
      rw [found] at shown
      refine .ite (fun changed => absurd (Option.some.inj shown) changed) fun _ => ?_
      refine .ite (fun _ => ?_) fun _ => ?_
      · refine .guard (onlyUnknown_of_harmless rfl) fun _ => ?_
        refine .guard (onlyUnknown_of_harmless rfl) fun _ => ?_
        exact .guard (onlyUnknown_of_harmless rfl) fun _ => .ok _
      · exact .guard (onlyUnknown_of_harmless rfl) fun _ => .ok _

/-- On a page that fits, all that `_verify_fields` detects is an unknown field. -/
theorem verifyFields_raises (fits : Fits plan descriptor snapshot.fields) :
    Raises OnlyUnknown (broker.verifyFields descriptor plan snapshot) := by
  refine .guard (onlyUnknown_of_harmless rfl) fun _ => ?_
  refine .guard (onlyUnknown_of_harmless rfl) fun _ => ?_
  refine .guard (onlyUnknown_of_harmless rfl) fun _ => ?_
  refine .bind (.forM fun change mem => verifyChange_raises fits mem) fun _ _ => ?_
  refine .guard (onlyUnknown_of_harmless rfl) fun _ => ?_
  exact .guard (fun _ => ⟨_, rfl⟩) fun _ => .ok _

/-! ## The preview -/

theorem previewPayload_json (host : BrowserHost) (preview : TransactionPreview) :
    (previewPayload host preview).isJson := by
  simp only [previewPayload, Value.isJson, Value.entriesJson, Bool.true_and, Bool.and_true, Bool.and_eq_true]
  refine ⟨areJson_map (fun change => ?_) _, areJson_map (fun _ => rfl) _⟩
  have evidence : (Value.ofOption change.evidenceSha256).isJson := by cases change.evidenceSha256 <;> rfl
  simp [fieldDocument, Value.isJson, Value.entriesJson, host.roundSix_finite _ change.confident, evidence]

theorem preview_check_ok (fields : preview.fields.length ≤ 128)
    (attachments : preview.attachments.length ≤ 20) (risk : preview.risk ≠ .prohibited) (nonce : preview.nonce ≠ "")
    (lasts : preview.generatedAt < preview.expiresAt) : preview.check = .ok preview := by
  unfold TransactionPreview.check
  rw [if_neg (Nat.not_lt.mpr fields), if_neg (Nat.not_lt.mpr attachments), if_neg risk, if_neg nonce,
    if_neg (Int.not_le.mpr lasts)]

/-- `_build_preview` succeeds, for a plan and a declared risk that were accepted. -/
theorem buildPreview_ok {nonce : String} (declared : descriptor.declaredRisk ≠ .prohibited) (drawn : nonce ≠ "") :
    ∃ preview, broker.buildPreview record descriptor plan snapshot now nonce = .ok preview := by
  have digests (draft : TransactionPreview) : ∃ digest, canonicalSha256 broker.host.toHost
    (previewPayload broker.host draft) = .ok digest :=
    canonicalSha256_ok (previewPayload_json _ draft)
  choose digest digested using digests
  unfold buildPreview
  dsimp only
  rw [digested]
  refine ⟨_, preview_check_ok ?_ ?_ declared drawn ?_⟩
  · exact (length_map _).trans_le plan.bounded.1
  · exact (length_map _).trans_le plan.bounded.2
  · exact Int.lt_add_of_pos_right now (by decide)

end BrowserSessionBroker

/-! ## Accepted adapters -/

section Accepted

variable {α β : Type} {P : Prop} {x y : Except Exn α} {f : α → Except Exn β}

/-- The computation succeeds only if `P` holds. -/
def Demands (P : Prop) (x : Except Exn α) : Prop := ∀ a, x = .ok a → P

theorem Demands.error {e : Exn} : Demands P (.error e : Except Exn α) := fun _ h => by cases h

theorem Demands.first (first : Demands P x) : Demands P (x >>= f) := by
  intro b ok
  obtain ⟨a, ok, -⟩ := bind_eq_ok ok
  exact first a ok

theorem Demands.rest (rest : ∀ a, Demands P (f a)) : Demands P (x >>= f) := by
  intro b ok
  obtain ⟨a, -, ok⟩ := bind_eq_ok ok
  exact rest a b ok

theorem Demands.ite {p : Prop} [Decidable p] (hx : p → Demands P x) (hy : ¬ p → Demands P y) :
    Demands P (if p then x else y) := by
  by_cases hp : p
  · simpa [hp] using hx hp
  · simpa [hp] using hy hp

variable {host : BrowserHost} {allowedOrigins : List String} {mode : OriginMode}

theorem validateActions_risk (transactionIds seen : List String) (actions : List AdapterActionSpec) :
    Demands (∀ action ∈ actions, action.risk ≠ .prohibited)
      (host.validateActions allowedOrigins mode transactionIds seen actions) := by
  induction actions generalizing seen with
  | nil => exact fun _ _ _ mem => absurd mem not_mem_nil
  | cons action rest ih =>
    have both (allowed : action.risk ≠ .prohibited) :
        Demands (∀ other ∈ action :: rest, other.risk ≠ .prohibited)
          (host.validateActions allowedOrigins mode transactionIds (action.actionId :: seen) rest) :=
      fun a ok => forall_mem_cons.mpr ⟨allowed, ih _ a ok⟩
    refine .rest fun _ => .rest fun _ => .rest fun _ => ?_
    refine .ite (fun _ => .first .error) fun allowed => .rest fun _ => ?_
    refine .ite (fun _ => .rest fun _ => ?_) fun _ => .rest fun _ => ?_
    all_goals exact .ite (fun _ => .rest fun _ => both allowed) fun _ => both allowed

/-- An adapter that `validate_adapter_descriptor` accepts declares nothing prohibited. -/
theorem accepted_risks {descriptor : TransactionAdapterDescriptor}
    (accepted : host.validateAdapterDescriptor allowedOrigins mode descriptor = .ok ()) :
    descriptor.declaredRisk ≠ .prohibited ∧ ∀ action ∈ descriptor.actions, action.risk ≠ .prohibited := by
  revert accepted
  refine (?_ : Demands _ (host.validateAdapterDescriptor allowedOrigins mode descriptor)) ()
  refine .rest fun _ => .rest fun _ => .rest fun _ => .rest fun _ => ?_
  refine .rest fun _ => .rest fun _ => .rest fun _ => .rest fun _ => ?_
  refine .ite (fun _ => .first .error) fun declared => ?_
  refine .rest fun _ => .rest fun _ => ?_
  refine .ite (fun _ => .rest fun _ => ?_) fun _ => ?_
  all_goals refine .ite (fun _ => .rest fun _ => ?_) fun _ => ?_
  -- with or without a discovery and a tracking path, the actions are looked at last
  all_goals
    refine .rest fun _ => .rest fun _ => .rest fun _ => .rest fun _ => ?_
    refine .rest fun _ => .rest fun _ => .rest fun _ => .rest fun _ => ?_
    refine .rest fun _ => .first fun a ok => ⟨declared, ?_⟩
    exact validateActions_risk _ _ _ a ok

end Accepted

end PersonalAssistant
