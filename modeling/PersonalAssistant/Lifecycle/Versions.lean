import PersonalAssistant.Lifecycle.Published

/-!
# Which version runs

Every function but an upgrade and a rollback writes, starts and publishes only the version it
read. A monitor says so of each of them alone, so that it holds under any faults. An upgrade
or a rollback that fails puts the original back, provided the save of its compensation is not
lost. The version that a later start finds is then the one recorded by the last switch that
succeeded.
-/

namespace PersonalAssistant.Lifecycle

open Coro Coro.Prog List

/-- A record of the extension `e` is one of version `v`. -/
def Fits (e v : String) (record : ExtensionRecord) : Prop := record.id = e → record.manifest.version = v

/-- What the reads of one extension answer while version `v` is stored. -/
def Reads (e v : String) (event : LifeEvent) : Prop :=
  match event with
  | ⟨.getRecord id, .ok (some record)⟩ => record.id = id ∧ Fits e v record
  | ⟨.allRecords, .ok records⟩ => ∀ record ∈ records, Fits e v record
  | _ => True

/-- The event saves, starts and publishes no other version of the extension. -/
def Writes (e v : String) (event : LifeEvent) : Prop :=
  match event.op with
  | .saveRecord record _ | .start record | .registryEnable record => Fits e v record
  | .registryReplaceAll records => ∀ record ∈ records, Fits e v record
  | _ => True

/-- The monitor of the functions that keep the version. -/
def versionMonitor (e v : String) : Monitor LifePort Exn Unit where
  rely _ := Reads e v
  ok _ := Writes e v
  next _ _ := ()

/-- Every run keeps the version, and a value it ends with is in `Q`. -/
abbrev KeepsVersion {α : Type} (e v : String) (c : LifeM α) (Q : α → Prop) : Prop :=
  (versionMonitor e v).Follows c (either (fun a _ => Q a) fun _ _ => True) ()

variable {sh : Bool}

section Keeps

variable {α β : Type} {e v id : String} {record : ExtensionRecord} {Q : α → Prop}

protected theorem KeepsVersion.done {r : Except Exn α} (h : ∀ a, r = .ok a → Q a) : KeepsVersion e v (.done r) Q := by
  refine wp.done ?_
  cases r with
  | ok a => exact h a rfl
  | error _ => trivial

protected theorem KeepsVersion.pure {a : α} (h : Q a) : KeepsVersion e v (pure a) Q := wp.pure h

protected theorem KeepsVersion.raise {exc : Exn} : KeepsVersion e v (raise exc) Q := wp.raise trivial

variable {op : LifeOp} {c : LifeM α} {found : Option ExtensionRecord} {allowed : List ExtensionState}
  {f : op.Ans → LifeM α} {operation : String} {R : β → Prop}

section

variable (ok : ∀ a, Writes e v ⟨op, a⟩)

include ok

theorem KeepsVersion.await {k : Except Exn op.Ans → LifeM α}
    (rest : ∀ a, Reads e v ⟨op, a⟩ → KeepsVersion e v (k a) Q) :
    KeepsVersion e v (.await sh op k) Q :=
  Monitor.follows_await.mpr fun a rely => ⟨ok a, rest a rely⟩

/-- A request outside a `try`: the rest only runs where it is answered. -/
theorem KeepsVersion.andThen
    (rest : ∀ a, Reads e v ⟨op, .ok a⟩ → KeepsVersion e v (f a) Q) : KeepsVersion e v (life op >>= f) Q := by
  refine .await ok fun a reads => ?_
  cases a with
  | ok a => exact rest a reads
  | error exc => exact .raise

theorem KeepsVersion.shield_then
    (rest : ∀ a, KeepsVersion e v (f a) Q) : KeepsVersion e v ((life op).shield >>= f) Q := by
  refine .await ok fun a _ => ?_
  cases a with
  | ok a => exact rest a
  | error exc => exact .raise

end

theorem KeepsVersion.bind {f : α → LifeM β} (first : KeepsVersion e v c Q)
    (rest : ∀ a, Q a → KeepsVersion e v (f a) R) : KeepsVersion e v (c >>= f) R :=
  Ensures.bind first fun a _ h => rest a h

/-- The body of a `try`, then its handlers. -/
theorem KeepsVersion.attempt_bind {f : Except Exn α → LifeM β}
    (body : KeepsVersion e v c Q) (ended : ∀ a, Q a → KeepsVersion e v (f (.ok a)) R)
    (raised : ∀ exc, KeepsVersion e v (f (.error exc)) R) : KeepsVersion e v (c.attempt >>= f) R := by
  refine wp.tried body fun r _ h => ?_
  cases r with
  | ok a => exact ended a h
  | error exc => exact raised exc

theorem KeepsVersion.mono {R : α → Prop} (h : KeepsVersion e v c Q) (weaker : ∀ a, Q a → R a) :
    KeepsVersion e v c R :=
  Ensures.mono h fun a _ => weaker a

protected theorem KeepsVersion.suppress (body : KeepsVersion e v c Q) :
    KeepsVersion e v (suppress c) fun _ => True := by
  refine .attempt_bind body (fun _ _ => .pure trivial) fun exc => ?_
  cases exc <;> first | exact .raise | exact .pure trivial

theorem KeepsVersion.request (ok : ∀ a, Writes e v ⟨op, a⟩) :
    KeepsVersion e v (life op) fun _ => True :=
  .await ok fun _ _ => .done fun _ _ => trivial

theorem keepsVersion_require : KeepsVersion e v (require id) fun record => record.id = id ∧ Fits e v record := by
  refine .andThen (fun _ => trivial) fun found reads => ?_
  cases found with
  | some record => exact .pure reads
  | none => exact .raise

protected theorem KeepsVersion.requireState :
    KeepsVersion e v (requireState record allowed operation) fun _ => True := by
  unfold requireState
  split_ifs
  · exact .pure trivial
  · exact .raise

theorem keepsVersion_giveUp {Q : ExtensionRecord → Prop} (fits : Fits e v record) (exc : Exn) :
    KeepsVersion e v (giveUp record exc) Q := by
  refine .shield_then (fun _ => trivial) fun _ => ?_
  exact .shield_then (fun _ => fits) fun _ => .raise

theorem keepsVersion_startAndPublish (fits : Fits e v record) :
    KeepsVersion e v (startAndPublish record) fun started => started.manifest = record.manifest := by
  have starting : Fits e v (record.as .starting) := fits
  refine .andThen (fun _ => starting) fun _ _ => ?_
  have brought : KeepsVersion e v (bringUp (record.as .starting)) fun _ => True := by
    refine .andThen (fun _ => starting) fun _ _ => .andThen (fun _ => trivial) fun healthy _ => ?_
    cases healthy with
    | true => exact .request fun _ => starting
    | false => exact .raise
  refine .attempt_bind brought (fun _ _ => ?_) fun exc => keepsVersion_giveUp starting exc
  refine .attempt_bind (.request fun _ => starting) (fun _ _ => .pure rfl) fun exc => ?_
  exact .andThen (fun _ => trivial) fun _ _ => keepsVersion_giveUp starting exc

theorem fits_of_manifest {found : ExtensionRecord} (same : record.manifest = found.manifest)
    (fits : found.id = id ∧ Fits e v found) : record.id = id ∧ Fits e v record := by
  refine ⟨(congrArg ExtensionManifest.id same).trans fits.1, fun own => ?_⟩
  rw [same]
  exact fits.2 ((congrArg ExtensionManifest.id same).symm.trans own)

/-- `enable` and `recover`, which differ in the states they allow. -/
theorem keepsVersion_enable :
    KeepsVersion e v (do
      let record ← require id
      let _ ← requireState record allowed operation
      startAndPublish record) fun record => record.id = id ∧ Fits e v record :=
  .bind keepsVersion_require fun _ fits => .bind .requireState fun _ _ =>
    .mono (keepsVersion_startAndPublish fits.2) fun _ same => fits_of_manifest same fits

theorem keepsVersion_finishDisable (fits : Fits e v record) (report : Option (List (String × Value)))
    (drainError : Option Exn) :
    KeepsVersion e v (finishDisable record report drainError) fun disabled => disabled.manifest = record.manifest := by
  refine .shield_then (fun _ => trivial) fun _ => .shield_then (fun _ => fits) fun _ => ?_
  split_ifs
  · exact .raise
  · cases drainError with
    | some exc => exact .raise
    | none => exact .pure rfl

theorem keepsVersion_disable (deadline : Rat) : KeepsVersion e v (disable id deadline) (Fits e v) := by
  refine .bind keepsVersion_require fun record ⟨_, fits⟩ => ?_
  have draining : Fits e v (record.as .draining) := fits
  have finished : ∀ report drainError,
      KeepsVersion e v (finishDisable (record.as .draining) report drainError) (Fits e v) := fun report drainError =>
    .mono (keepsVersion_finishDisable draining report drainError) fun _ same =>
      (fits_of_manifest same ⟨rfl, draining⟩).2
  refine .bind .requireState fun _ _ => .andThen (fun _ => trivial) fun _ _ => ?_
  refine .andThen (fun _ => draining) fun _ _ => ?_
  refine .attempt_bind (.request fun _ => trivial)
    (fun report _ => finished report none) fun exc => ?_
  show KeepsVersion e v (if _ then _ else if _ then _ else _) _
  split_ifs
  · exact finished _ _
  · exact finished _ _
  · exact .shield_then (fun _ => trivial) fun _ => .raise

theorem keepsVersion_standDown (fits : Fits e v record) : KeepsVersion e v (standDown id record) (Fits e v) := by
  unfold standDown
  split_ifs
  · exact .andThen (fun _ => trivial) fun time _ => keepsVersion_disable (time + 30)
  · exact .pure fits

theorem keepsVersion_uninstall : KeepsVersion e v (uninstall id) (Fits e v) := by
  refine .bind keepsVersion_require fun found ⟨_, fits⟩ => ?_
  refine .bind (keepsVersion_standDown fits) fun record fits => ?_
  have uninstalling : Fits e v (record.as .uninstalling) := fits
  refine .bind .requireState fun _ _ => .andThen (fun _ => trivial) fun _ _ => ?_
  refine .andThen (fun _ => uninstalling) fun _ _ => .andThen (fun _ => trivial) fun _ _ => ?_
  refine .andThen (fun _ => trivial) fun _ _ => .andThen (fun _ => fits) fun _ _ => ?_
  exact .pure fits

theorem keepsVersion_preparePurge : KeepsVersion e v (preparePurge id) fun _ => True := by
  refine .bind keepsVersion_require fun _ _ => .bind .requireState fun _ _ => ?_
  refine .andThen (fun _ => trivial) fun _ _ => .andThen (fun _ => trivial) fun _ _ => ?_
  refine .andThen (fun _ => trivial) fun _ _ => .andThen (fun _ => trivial) fun _ _ => ?_
  exact .pure trivial

/-- `purge` keeps the version. -/
theorem keepsVersion_purge (confirmation : PurgeConfirmation) :
    KeepsVersion e v (purge id confirmation) (Fits e v) := by
  refine .andThen (fun _ => trivial) fun preview _ => ?_
  cases preview with
  | none => exact .raise
  | some preview =>
    show KeepsVersion e v (if _ then _ else _) _
    split_ifs
    · exact .raise
    · refine .bind keepsVersion_require fun record ⟨_, fits⟩ => ?_
      refine .bind .requireState fun _ _ => .andThen (fun _ => trivial) fun _ _ => ?_
      refine .andThen (fun _ => trivial) fun _ _ => .andThen (fun _ => fits) fun _ _ => ?_
      exact .pure fits

protected theorem KeepsVersion.recordOperation (kind : String) (code : Option String) :
    KeepsVersion e v (recordOperation id kind code) fun _ => True :=
  .suppress (.request fun _ => trivial)

theorem keepsVersion_restore (fits : ∀ record, found = some record → Fits e v record) :
    KeepsVersion e v (restore found) fun _ => True := by
  cases found with
  | none => exact .pure trivial
  | some record =>
    show KeepsVersion e v (if _ then _ else _) _
    split_ifs
    · exact .request fun _ => fits record rfl
    · exact .pure trivial

theorem fits_of_reads (reads : Reads e v ⟨.getRecord id, .ok found⟩)
    (record : ExtensionRecord) (known : found = some record) : Fits e v record := by
  subst known
  exact reads.2

/-- A quarantine keeps the version. -/
theorem keepsVersion_quarantine (version : String) (exc : Exn) :
    KeepsVersion e v (quarantine id version exc) fun _ => True := by
  refine .andThen (fun _ => trivial) fun current _ => ?_
  split_ifs
  · refine .andThen (fun _ => trivial) fun _ _ => .andThen (fun _ => trivial) fun after reads => ?_
    cases after with
    | none => exact .pure trivial
    | some record =>
      have fits : Fits e v record := reads.2
      show KeepsVersion e v (if _ then _ else _) _
      split_ifs
      · refine .andThen (fun _ => fits) fun applied _ => ?_
        cases applied with
        | true => exact .recordOperation _ _
        | false =>
          refine .andThen (fun _ => trivial) fun fresh reads => ?_
          exact keepsVersion_restore (fits_of_reads reads)
      · refine keepsVersion_restore fun other same => ?_
        cases same
        exact fits
  · exact .pure trivial

/-! ### The recovery after a restart -/

protected theorem KeepsVersion.onException {handler : Exn → LifeM α} (each : ∀ exc, KeepsVersion e v (handler exc) Q)
    (exc : Exn) :
    KeepsVersion e v (onException handler exc) Q := by
  cases exc <;> first | exact .raise | exact each _

theorem keepsVersion_quarantineRecovered (fits : Fits e v record) (exc : Exn) :
    KeepsVersion e v (quarantineRecovered record (record.as .starting) exc) (Fits e v) := by
  refine .bind (.suppress (.request fun _ => trivial)) fun _ _ => ?_
  refine .bind (.suppress (.request fun _ => fits)) fun _ _ => ?_
  exact .bind (.recordOperation _ _) fun _ _ => .pure fits

theorem keepsVersion_recoverEnabled (fits : Fits e v record) : KeepsVersion e v (recoverEnabled record) (Fits e v) := by
  unfold recoverEnabled
  split_ifs
  · refine .andThen (fun _ => fits) fun _ _ => ?_
    exact .bind (.recordOperation _ _) fun _ _ => .pure fits
  · refine .andThen (fun _ => fits) fun _ _ => ?_
    have restarted : KeepsVersion e v (restart (record.as .starting)) fun _ => True := by
      refine .andThen (fun _ => fits) fun _ _ => .andThen (fun _ => trivial) fun healthy _ => ?_
      cases healthy with
      | true => exact .pure trivial
      | false => exact .raise
    refine .attempt_bind restarted (fun _ _ => ?_) fun exc =>
      .onException (keepsVersion_quarantineRecovered fits) exc
    exact .attempt_bind (.request fun _ => fits) (fun _ _ => .pure fits) fun exc =>
      .onException (keepsVersion_quarantineRecovered fits) exc

theorem keepsVersion_discardStagedRecord : KeepsVersion e v (discardStagedRecord record) fun _ => True := by
  unfold discardStagedRecord
  split_ifs
  · exact .pure trivial
  · refine .andThen (fun _ => trivial) fun found _ => ?_
    cases found with
    | false => exact .pure trivial
    | true =>
      refine .attempt_bind (.request fun _ => trivial) (fun _ _ => .pure trivial) fun exc => ?_
      show KeepsVersion e v (if _ then _ else _) _
      split_ifs
      · exact .pure trivial
      · exact .raise

/-- The recovery of a record keeps its version. -/
theorem keepsVersion_recoverRecord (fits : Fits e v record) : KeepsVersion e v (recoverRecord record) (Fits e v) := by
  unfold recoverRecord
  split
  · exact keepsVersion_recoverEnabled fits
  · refine .bind (Q := fun _ => True) ?_ fun installed _ => ?_
    · split
      · exact .request fun _ => trivial
      · exact .pure trivial
    have mapped : Fits e v (if installed = true then record.as .disabled else record.removed) := by
      split_ifs <;> exact fits
    exact .andThen (fun _ => mapped) fun _ _ => .pure mapped
  · split
    · refine .bind (Q := fun _ => True) ?_ fun _ _ => .andThen (fun _ => fits) fun _ _ => .pure fits
      split_ifs
      · exact keepsVersion_discardStagedRecord
      · exact .pure trivial
    · exact .pure fits

theorem keepsVersion_recoverOne (fits : Fits e v record) : KeepsVersion e v (recoverOne record) (Fits e v) := by
  refine .attempt_bind (keepsVersion_recoverRecord fits) (fun _ fits => .pure fits) fun exc => ?_
  refine .onException (fun _ => ?_) exc
  refine .bind (.suppress (.request fun _ => trivial)) fun _ _ => ?_
  refine .andThen (fun _ => fits) fun _ _ => ?_
  exact .bind (.recordOperation _ _) fun _ _ => .pure fits

theorem keepsVersion_recoverEach (records : List ExtensionRecord) (fits : ∀ record ∈ records, Fits e v record) :
    KeepsVersion e v (recoverEach records) fun enabled => ∀ record ∈ enabled, Fits e v record := by
  induction records with
  | nil => exact .pure nofun
  | cons record records ih =>
    refine .bind (keepsVersion_recoverOne (fits record mem_cons_self)) fun recovered first => ?_
    refine .bind (ih fun other mem => fits other (mem_cons_of_mem _ mem)) fun enabled rest => ?_
    refine .pure ?_
    split_ifs
    · exact forall_mem_cons.mpr ⟨first, rest⟩
    · exact rest

theorem keepsVersion_recoverAll : KeepsVersion e v recoverAll fun _ => True := by
  refine .andThen (fun _ => trivial) fun _ _ => .andThen (fun _ => trivial) fun records reads => ?_
  refine .bind (keepsVersion_recoverEach records reads) fun enabled fits => ?_
  exact .request fun _ => fits

end Keeps

/-! ## What is stored -/

/-- The stored record, if there is one, is of the version. -/
def StoredAt (v : String) (t : Part) : Prop := ∀ record, t.stored = some record → record.manifest.version = v

section Stored

variable {α : Type} {e v : String} {t t' : Part}

variable {op : LifeOp} {a : Except Exn op.Ans}

/-- A request changes what is stored of an extension only by a save of its record. -/
theorem seen_stored (h : partAnswers e t op a t') :
    t'.stored = t.stored ∨ ∃ record expected, op = .saveRecord record expected ∧ t'.stored = some record ∧
    record.id = e := by
  obtain ⟨s, s', rfl, rfl, -, k, effect⟩ := h
  have same : ∀ {a : Except Exn Unit} (change : Except Exn Registry), (a, s') = s.publish change →
      (part e s').stored = (part e s).stored := by
    rintro a (exc | registry) done
    · exact congrArg (fun x : _ × System => x.2.store.get e) done
    · exact congrArg (fun x : _ × System => x.2.store.get e) done
  cases op with
  | saveRecord record expected =>
    obtain ⟨-, rfl⟩ : a = _ ∧ s' = (s.save record expected).2 := Prod.mk.inj effect
    have saved : (s.save record expected).2 = s ∨
      (s.save record expected).2 = { s with store := s.store.put record } := by
      unfold System.save
      repeat' split
      all_goals first | exact .inl rfl | exact .inr rfl
    rcases saved with same | put
    · exact .inl (by rw [same])
    · rw [put]
      by_cases own : record.id = e
      · subst own
        exact .inr ⟨record, expected, rfl, Keyed.get_put_self .., rfl⟩
      · exact .inl (Keyed.get_put_of_ne (Ne.symm own))
  | registryEnable record => exact .inl (same _ effect)
  | registryDisable id => exact .inl (same _ effect)
  | registryReplaceAll records => exact .inl (same _ effect)
  | _ =>
    first
    | exact .inl (congrArg (fun x : _ × System => x.2.store.get e) effect)
    | exact .inl (congrArg (fun x : System => x.store.get e) effect)

/-- What a request reads of the extension is the stored version. -/
theorem seen_reads (h : partAnswers e t op a t') (stored : StoredAt v t) :
    Reads e v ⟨op, a⟩ := by
  obtain ⟨s, s', rfl, rfl, -, k, effect⟩ := h
  cases op with
  | getRecord id =>
    obtain ⟨rfl, -⟩ : a = .ok (s.store.get id) ∧ s' = s := Prod.mk.inj effect
    cases found : s.store.get id with
    | none => trivial
    | some record =>
      refine ⟨Keyed.key_of_get found, fun own => ?_⟩
      have here : s.store.get e = some record := by
        rw [← own, Keyed.key_of_get found]
        exact found
      exact stored record here
  | allRecords =>
    obtain ⟨rfl, -⟩ : a = .ok _ ∧ s' = s := Prod.mk.inj effect
    intro record mem own
    obtain ⟨⟨key, value⟩, there, rfl⟩ := mem_map.mp mem
    have there' : value ∈ s.store.values := mem_map.mpr ⟨_, mem_mergeSort.mp there, rfl⟩
    subst own
    exact stored value (Keyed.get_of_mem_values there')
  | _ => cases a <;> trivial

/-- A step keeps the version that is stored, if it writes no other. -/
theorem struck_stored {permitted : Permitted LifePort Exn} {st st' : Part × List LifeFault}
    (h : struck (partAnswers e) permitted sh st op a st') (stored : StoredAt v st.1)
    (writes : Writes e v ⟨op, a⟩) : StoredAt v st'.1 := by
  have step : ∀ b, partAnswers e st.1 op b st'.1 → StoredAt v st'.1 := by
    intro b seen record found
    rcases seen_stored seen with same | ⟨saved, expected, rfl, put, own⟩
    · exact stored record (same ▸ found)
    · cases put.symm.trans found
      exact writes own
  rcases h with ⟨seen, -⟩ | ⟨exc, applied, rfl, -, strikes, -⟩
  · exact step a seen
  · exact strikes.elim stored step

/-- Under any faults, a function that keeps the version leaves it stored. -/
theorem stored_of_keepsVersion {permitted : Permitted LifePort Exn} {c : LifeM α} {Q : α → Prop}
    (keeps : KeepsVersion e v c Q) {st : Part × List LifeFault} (stored : StoredAt v st.1) :
    wp (struck (partAnswers e) permitted) (fun _ => Writes e v) c
      (fun r st' => (∀ a, r = .ok a → Q a) ∧ StoredAt v st'.1) st := by
  induction c generalizing st with
  | done r =>
    refine wp.done ⟨fun a ended => ?_, stored⟩
    subst ended
    exact (wp_done ..).mp keeps
  | await sh op k ih =>
    refine wp.await fun a st' answered => ?_
    have reads : Reads e v ⟨op, a⟩ := by
      rcases answered with ⟨seen, -⟩ | ⟨exc, applied, rfl, -⟩
      · exact seen_reads seen stored
      · cases op <;> trivial
    obtain ⟨writes, rest⟩ := Monitor.follows_await.mp keeps a reads
    exact ⟨writes, ih a rest (struck_stored answered stored writes)⟩

end Stored

/-! ## A switch of the version under any faults -/

/-- Every run under the permitted faults, however many, ends in `Q`. -/
abbrev Ends {α : Type} (e : String) (permitted : Permitted LifePort Exn) (c : LifeM α) (Q : Except Exn α → Part → Prop)
    (t : Part) : Prop :=
  Anyhow (partAnswers e) permitted (fun _ _ => True) c Q t

section Ends

variable {α β : Type} {e v : String} {t : Part} {permitted : Permitted LifePort Exn} {Q : Except Exn α → Part → Prop}
  {record candidate original : ExtensionRecord} {D : α → Part → Prop} {c : LifeM α} {op : LifeOp}

theorem ends_any (c : LifeM α) : Ends e permitted c (fun _ _ => True) t := by
  induction c generalizing t with
  | done r => exact .done trivial
  | await sh op k ih => exact .await (fun a _ _ => ⟨trivial, ih a⟩) fun _ _ _ _ _ _ => ⟨trivial, ih _⟩

theorem ends_keepsVersion {P : α → Prop} (keeps : KeepsVersion e v c P) (stored : StoredAt v t) :
    Ends e permitted c (fun r t' => (∀ a, r = .ok a → P a) ∧ StoredAt v t') t := by
  intro faults
  have start : StoredAt v (t, faults).1 := stored
  exact wp_weaken (fun _ _ _ => trivial) (stored_of_keepsVersion keeps start)

/-- A request whose failure is suppressed and that is not cancelled, then the rest. -/
theorem ends_suppress {k : Unit → LifeM α}
    (rest : ∀ a faults t' faults', struck (partAnswers e) permitted false (t, faults) op a (t', faults') →
      a ≠ .error .cancelled ∧ Ends e permitted (k ()) Q t') :
    Ends e permitted (suppress (life op) >>= k) Q t := by
  intro faults
  refine wp.await ?_
  rintro a ⟨t', faults'⟩ answered
  refine ⟨trivial, ?_⟩
  obtain ⟨calm, goal⟩ := rest a faults t' faults' answered
  cases a with
  | ok a => exact goal faults'
  | error exc =>
    cases exc <;> first | exact absurd rfl calm | exact goal faults'

theorem struck_calm {st st' : Part × List LifeFault} {a : Except Exn op.Ans}
    (h : struck (partAnswers e) permitted sh st op a st')
    (answered : ∀ a t', partAnswers e st.1 op a t' → ∃ x, a = .ok x)
    (shielded : ∀ faults fault, permitted sh faults fault → Injected true fault) : a ≠ .error .cancelled := by
  rcases h with ⟨seen, -⟩ | ⟨exc, applied, rfl, may, -⟩
  · obtain ⟨x, rfl⟩ := answered _ _ seen
    exact nofun
  · rintro ⟨⟩
    exact (shielded _ _ may).shield rfl rfl

/-- The save of a state is lost. -/
def losesSave (state : ExtensionState) (fault : LifeFault) : Bool :=
  match fault.op with
  | .saveRecord record _ => record.state = state && !fault.applied
  | _ => false

/-- A compensation leaves the original stored, unless its save is lost. -/
theorem ends_compensate {other : ExtensionRecord} {state : ExtensionState} (own : original.id = e)
    (fits : original.manifest.version = v)
    (shielded : ∀ sh faults fault, permitted sh faults fault → Injected true fault ∧ losesSave state fault = false) :
    Ends e permitted (compensate original other state) (fun _ => StoredAt v) t := by
  subst own
  refine ends_suppress fun a faults t₁ faults₁ answered => ⟨?_, ?_⟩
  · exact struck_calm answered (fun a t' seen => ⟨_, (seen_registryDisable seen).1⟩) fun _ _ may =>
      (shielded _ _ _ may).1
  refine ends_suppress fun a faults t₂ faults₂ answered => ⟨?_, ?_⟩
  · exact struck_calm answered (fun a t' seen => (seen_aside seen rfl).1) fun _ _ may => (shielded _ _ _ may).1
  refine ends_suppress fun a faults t₃ faults₃ answered => ⟨?_, ?_⟩
  · exact struck_calm answered (fun a t' seen => ⟨_, (seen_saveRecord seen rfl).1⟩) fun _ _ may =>
      (shielded _ _ _ may).1
  have saved : t₃.stored = some (original.as state) := by
    rcases answered with ⟨seen, -⟩ | ⟨exc, applied, -, may, strikes, -⟩
    · have after : t₃ = _ := (seen_saveRecord seen rfl).2
      rw [after]
    · cases applied with
      | true =>
        obtain ⟨b, seen⟩ := strikes_applied.mp strikes
        have after : t₃ = _ := (seen_saveRecord seen rfl).2
        rw [after]
      | false =>
        have lost := (shielded _ _ _ may).2
        simp [losesSave, ExtensionRecord.as] at lost
  have stored : StoredAt v t₃ := by
    intro record found
    cases saved.symm.trans found
    exact fits
  have reopened : KeepsVersion original.id v (reopen original) fun _ => True := by
    unfold reopen
    split_ifs
    · exact .suppress (c := enable original.id) keepsVersion_enable
    · exact .pure trivial
  intro faults
  exact wp_mono (fun _ _ ended => ended.2) (ends_keepsVersion reopened stored faults)

/-- A body, and a compensation that puts the stored version back if it fails. -/
theorem ends_orElse {body : LifeM ExtensionRecord} {compensation : LifeM Unit} {D : ExtensionRecord → Part → Prop}
    (done : Ends e permitted body (either D fun _ _ => True) t)
    (back : ∀ t', Ends e (fun _ => permitted true) compensation (fun _ => StoredAt v) t') :
    Ends e permitted (orElse body compensation) (either D fun _ => StoredAt v) t := by
  refine .attempt_bind done fun r t' ended => ?_
  cases r with
  | ok record => exact .done ended
  | error exc =>
    refine .bind (.shield (back t')) (fun _ t'' stored => .done stored) fun _ _ stored => stored

theorem ends_save (own : record.id = e) :
    Ends e permitted (life (.saveRecord record none))
      (either (fun _ t' => t'.stored = some record) fun _ _ => True) t := by
  intro faults
  refine wp.perform ?_
  rintro a ⟨t', faults'⟩ (⟨seen, -⟩ | ⟨exc, applied, rfl, -⟩)
  · obtain ⟨rfl, after⟩ := seen_saveRecord seen own
    have here : t' = _ := after
    exact ⟨trivial, by rw [here]; rfl⟩
  · exact ⟨trivial, trivial⟩

theorem ends_then {f : α → LifeM β} {M : α → Part → Prop} {D : β → Part → Prop}
    (first : Ends e permitted c (either M fun _ _ => True) t)
    (rest : ∀ a t', M a t' → Ends e permitted (f a) (either D fun _ _ => True) t') :
    Ends e permitted (c >>= f) (either D fun _ _ => True) t :=
  .bind first rest fun _ _ _ => trivial

theorem ends_unknown (c : LifeM α) : Ends e permitted c (either (fun _ _ => True) fun _ _ => True) t := by
  intro faults
  refine wp_mono (fun r st _ => ?_) (ends_any c faults)
  cases r <;> trivial

/-- What a switch ends with: a record of the extension, and its version stored. -/
def Lands (e : String) (record : ExtensionRecord) (t : Part) : Prop :=
  record.id = e ∧ StoredAt record.manifest.version t

theorem ends_lands {c : LifeM ExtensionRecord} (keeps : KeepsVersion e v c fun record => record.id = e ∧
      Fits e v record)
    (stored : StoredAt v t) : Ends e permitted c (either (Lands e) fun _ _ => True) t := by
  intro faults
  refine wp_mono (fun r st ended => ?_) (ends_keepsVersion keeps stored faults)
  cases r with
  | ok record =>
    obtain ⟨own, fits⟩ := ended.1 record rfl
    exact ⟨own, fits own ▸ ended.2⟩
  | error exc => trivial

theorem storedAt_of_stored {saved : ExtensionRecord} (stored : t.stored = some saved)
    (same : saved.manifest = record.manifest) : StoredAt record.manifest.version t := by
  intro other found
  cases stored.symm.trans found
  rw [same]

theorem ends_tryUpgrade (own : candidate.id = e) :
    Ends e permitted (tryUpgrade e original candidate) (either (Lands e) fun _ _ => True) t := by
  refine ends_then (ends_unknown _) fun current _ _ => ends_then (ends_unknown _) fun _ _ _ => ?_
  refine ends_then (ends_unknown _) fun _ _ _ => ends_then (ends_save own) fun _ t' saved => ?_
  have stored : StoredAt candidate.manifest.version t' := storedAt_of_stored saved rfl
  split_ifs
  · exact ends_lands keepsVersion_enable stored
  · exact .done ⟨own, stored⟩

theorem ends_tryRollback {restored : ExtensionRecord} (own : restored.id = e) :
    Ends e permitted (tryRollback e original restored) (either (Lands e) fun _ _ => True) t := by
  refine ends_then (ends_unknown _) fun _ _ _ => ends_then (ends_save own) fun _ t' saved => ?_
  have stored : StoredAt restored.manifest.version t' := storedAt_of_stored saved rfl
  split_ifs
  · refine ends_lands (.mono (keepsVersion_startAndPublish fun _ => rfl) fun started same => ?_) stored
    exact fits_of_manifest same ⟨own, fun _ => rfl⟩
  · exact .done ⟨own, stored⟩

/-- The record an operation begins with, and nothing changed. -/
theorem ends_require {f : ExtensionRecord → LifeM α} (stored : StoredAt v t)
    (rest : ∀ original t', original.id = e → original.manifest.version = v → StoredAt v t' →
      Ends e permitted (f original) (either D fun _ => StoredAt v) t') :
    Ends e permitted (require e >>= f) (either D fun _ => StoredAt v) t := by
  refine .bind (ends_keepsVersion keepsVersion_require stored) (fun original t' read => ?_) fun _ _ read => read.2
  obtain ⟨own, fits⟩ := read.1 original rfl
  exact rest original t' own (fits own) read.2

theorem ends_requireState {allowed : List ExtensionState} {operation : String}
    {f : Unit → LifeM α} (stored : StoredAt v t)
    (rest : Ends e permitted (f ()) (either D fun _ => StoredAt v) t) :
    Ends e permitted (requireState record allowed operation >>= f) (either D fun _ => StoredAt v) t := by
  unfold requireState
  split_ifs
  · exact rest
  · exact .done stored

/-- The faults that strike anything but the save of a compensation. -/
def sparing (state : ExtensionState) : Permitted LifePort Exn :=
  fun sh _ fault => Injected sh fault ∧ losesSave state fault = false

theorem ends_upgrade (stored : StoredAt v t) :
    Ends e (sparing .rolledBack) (upgrade e candidate) (either (Lands e) fun _ => StoredAt v) t := by
  refine ends_require stored fun original t' own version stored => ends_requireState stored ?_
  split_ifs with other state
  · exact .done stored
  · exact .done stored
  · refine ends_orElse (ends_tryUpgrade (not_not.mp other)) fun t'' => ?_
    exact ends_compensate own version fun _ _ _ may => may

theorem ends_rollback (stored : StoredAt v t) :
    Ends e (sparing .disabled) (rollback e) (either (Lands e) fun _ => StoredAt v) t := by
  refine ends_require stored fun original t' own version stored => ends_requireState stored ?_
  have asked : KeepsVersion e v (life (.rollbackVersion original)) fun _ => True := .request fun _ => trivial
  refine .bind (ends_keepsVersion asked stored) (fun restored t' kept => ?_) fun _ _ kept => kept.2
  split_ifs with other
  · exact .done kept.2
  · refine ends_orElse (ends_tryRollback (not_not.mp other)) fun t'' => ?_
    exact ends_compensate own version fun _ _ _ may => may

end Ends

/-! ## Histories -/

/-- What is called on an extension: an operation of the manager, a quarantine after a failure
of its worker, or the recovery of all extensions after a restart. -/
inductive Task where
  | operation (op : Operation)
  | quarantine (version : String) (exc : Exn)
  | recoverAll

/-- What a task awaits; an upgrade and a rollback end with the record they switched to. -/
def Task.program (extensionId : String) : Task → LifeM (Option ExtensionRecord)
  | .operation (.upgrade candidate) => do
    let record ← upgrade extensionId candidate
    pure (some record)
  | .operation .rollback => do
    let record ← rollback extensionId
    pure (some record)
  | .operation op => do
    let _ ← op.program extensionId
    pure none
  | .quarantine version exc => do
    let _ ← Lifecycle.quarantine extensionId version exc
    pure none
  | .recoverAll => do
    let _ ← Lifecycle.recoverAll
    pure none

/-- Any faults, except a lost save with which an upgrade or a rollback would put the original
record back. -/
def Task.permitted : Task → Permitted LifePort Exn
  | .operation (.upgrade _) => sparing .rolledBack
  | .operation .rollback => sparing .disabled
  | _ => fun sh _ fault => Injected sh fault

/-- The tasks that start an extension without a switch. -/
def Task.starts : Task → Bool
  | .operation .enable | .operation .recover | .recoverAll => true
  | _ => false

/-- The version recorded after a task: the one it switched to, or else the one before. -/
def recordedVersion (v : String) : Except Exn (Option ExtensionRecord) → String
  | .ok (some record) => record.manifest.version
  | _ => v

/-- Tasks on the extension one after the other, each with any number of permitted faults: the
system after them, and the version recorded by the last switch that succeeded. -/
inductive History (e : String) (s₀ : System) (v₀ : String) : System → String → Prop where
  | start : History e s₀ v₀ s₀ v₀
  | task {s s' : System} {v : String} {tr : List LifeEvent} {outcome : Except Exn (Option ExtensionRecord)}
      {faults : List LifeFault} (task : Task) : History e s₀ v₀ s v →
      Coro.Alone (struck answers task.permitted) (Elsewhere e) (task.program e) (s, []) tr outcome (s', faults) →
      History e s₀ v₀ s' (recordedVersion v outcome)

section Tasks

variable {e v : String} {t : Part} {α : Type} {Q : α → Prop} {c : LifeM α}

theorem keepsVersion_operation (h : KeepsVersion e v c Q) :
    KeepsVersion e v (do let _ ← (do let _ ← c : LifeM Unit); pure none : LifeM (Option ExtensionRecord))
      fun ended => ended = none :=
  .bind (.bind h fun _ _ => .pure trivial) fun _ (_ : True) => .pure rfl

theorem keepsVersion_discard (h : KeepsVersion e v c Q) :
    KeepsVersion e v (do let _ ← c; pure none : LifeM (Option ExtensionRecord)) fun ended => ended = none :=
  .bind h fun _ _ => .pure rfl

/-- The tasks that are no switch. -/
def Task.bare : Task → Bool
  | .operation (.upgrade _) | .operation .rollback => false
  | _ => true

theorem keepsVersion_task (task : Task) (bare : task.bare) :
    KeepsVersion e v (task.program e) fun ended => ended = none := by
  cases task with
  | operation op =>
    cases op with
    | enable => exact keepsVersion_operation (c := enable e) keepsVersion_enable
    | recover => exact keepsVersion_operation (c := recover e) keepsVersion_enable
    | disable deadline => exact keepsVersion_operation (keepsVersion_disable deadline)
    | uninstall => exact keepsVersion_operation keepsVersion_uninstall
    | preparePurge => exact keepsVersion_operation keepsVersion_preparePurge
    | purge confirmation => exact keepsVersion_operation (keepsVersion_purge confirmation)
    | upgrade candidate => cases bare
    | rollback => cases bare
  | quarantine version exc => exact keepsVersion_discard (keepsVersion_quarantine version exc)
  | recoverAll => exact keepsVersion_discard keepsVersion_recoverAll

/-- How every task ends for the version that is stored. -/
theorem ends_task (task : Task) (stored : StoredAt v t) :
    Ends e task.permitted (task.program e) (fun r => StoredAt (recordedVersion v r)) t := by
  have switch : ∀ {permitted : Permitted LifePort Exn} {c : LifeM ExtensionRecord},
      Ends e permitted c (either (Lands e) fun _ => StoredAt v) t →
      Ends e permitted (do let record ← c; pure (some record)) (fun r => StoredAt (recordedVersion v r)) t :=
    fun switched => .bind switched (fun _ _ landed => .done landed.2) fun _ _ kept => kept
  by_cases bare : task.bare
  · intro faults
    refine wp_mono (fun r st ended => ?_) (ends_keepsVersion (keepsVersion_task task bare) stored faults)
    cases r with
    | error exc => exact ended.2
    | ok record =>
      rw [ended.1 record rfl]
      exact ended.2
  · cases task with
    | operation op =>
      cases op with
      | upgrade candidate => exact switch (ends_upgrade stored)
      | rollback => exact switch (ends_rollback stored)
      | _ => exact absurd rfl bare
    | _ => exact absurd rfl bare

/-- **A history leaves the recorded version stored.** -/
theorem History.stored {s₀ s : System} {v₀ : String} (history : History e s₀ v₀ s v) (start : StoredAt v₀ (part e s₀)) :
    StoredAt v (part e s) := by
  induction history with
  | start => exact start
  | task task _ run ih => exact run.post (views e fun _ : Unit => task.permitted) (ends_task task ih [])

end Tasks

/-- **The version that runs next is the recorded one.** After any tasks with any faults, save
for the lost saves of a compensation, an `enable` or a recovery writes, starts and publishes no
version of the extension but the one recorded at the start or by the last upgrade or rollback
that succeeded. -/
theorem recorded_version_runs (e : String) {s₀ s s' : System} {v₀ v : String} (start : StoredAt v₀ (part e s₀))
    (history : History e s₀ v₀ s v) (task : Task) (starts : task.starts) {tr : List LifeEvent}
    {outcome : Except Exn (Option ExtensionRecord)} {faults : List LifeFault}
    (run : Coro.Alone (struck answers task.permitted) (Elsewhere e) (task.program e) (s, []) tr outcome (s', faults)) :
    ∀ event ∈ tr, Writes e v event := by
  have bare : task.bare := by
    cases task with
    | operation op => cases op <;> first | rfl | cases starts
    | _ => rfl
  have stored : StoredAt v (partWith e (s, [])).1 := history.stored start
  exact run.guarantees (views e fun _ : Unit => task.permitted)
    (stored_of_keepsVersion (keepsVersion_task task bare) stored)

/-! ## Sample runs -/

/-- Version 2.0.0 never becomes healthy. -/
def isHealthy (record : ExtensionRecord) : Bool := record.manifest.version ≠ "2.0.0"

/-- The sample run of a task from a state. -/
def taskRun (strike : List LifeFault → LifeOp → Option (Exn × Bool)) (task : Task) (s : System) :
    List LifeEvent × Except Exn (Option ExtensionRecord) × System × List LifeFault :=
  play (sampleEnvironment isHealthy strike) (task.program "demo.mail") (s, [])

theorem taskRun_alone {strike : List LifeFault → LifeOp → Option (Exn × Bool)} {permitted : Permitted LifePort Exn}
    (may : ∀ sh faults op exc applied, strike faults op = some (exc, applied) → permitted sh faults ⟨op, exc, applied⟩)
    (task : Task) (s : System) :
    Coro.Alone (struck answers permitted) (Elsewhere "demo.mail") (task.program "demo.mail") (s, [])
      (taskRun strike task s).1 (taskRun strike task s).2.1 (taskRun strike task s).2.2 :=
  Coro.Alone.of_exec (play_exec (sampleEnvironment_struck may) _ _)

/-- An upgrade of the sample to version 2.0.0. -/
def sampleUpgrade : Task := .operation (.upgrade (sampleRecord "2.0.0" .installedDisabled))

theorem storedAt_sampleSystem : StoredAt "1.0.0" (part "demo.mail" sampleSystem) := by
  have stored : (part "demo.mail" sampleSystem).stored = some (sampleRecord "1.0.0" .enabled) := rfl
  exact storedAt_of_stored stored rfl

/-- An upgrade that fails, and a recovery after it: it starts version 1.0.0. -/
theorem recorded_version_runs_recovery : Task.recoverAll.starts ∧
    ∀ event ∈ (taskRun (fun _ _ => none) .recoverAll (taskRun (fun _ _ => none) sampleUpgrade sampleSystem).2.2.1).1,
      Writes "demo.mail" "1.0.0" event :=
  ⟨rfl, recorded_version_runs "demo.mail" storedAt_sampleSystem
    (.task sampleUpgrade .start (taskRun_alone (fun _ _ _ _ _ => nofun) sampleUpgrade sampleSystem))
    .recoverAll rfl (taskRun_alone (fun _ _ _ _ _ => nofun) .recoverAll _)⟩

/-- The save with which the upgrade would put version 1.0.0 back is lost. -/
def rollbackLost : List LifeFault → LifeOp → Option (Exn × Bool)
  | [], .saveRecord record _ => if record.state = .rolledBack then some (.other "OperationalError", false) else none
  | _, _ => none

/-- **After an upgrade whose compensating save is lost, the next `enable` starts the version
that failed.** -/
theorem failed_candidate_starts :
    ∃ (s : System) (exc : Exn) (tr tr' : List LifeEvent) (faults : List LifeFault)
      (ended : Except Exn (Option ExtensionRecord) × System × List LifeFault),
      StoredAt "1.0.0" (part "demo.mail" sampleSystem) ∧
      Coro.Alone (struck answers fun sh _ fault => Injected sh fault) (Elsewhere "demo.mail")
        (sampleUpgrade.program "demo.mail")
        (sampleSystem, []) tr (.error exc) (s, faults) ∧
      Coro.Alone (struck answers fun sh _ fault => Injected sh fault) (Elsewhere "demo.mail")
        (Task.program "demo.mail" (.operation .enable)) (s, []) tr' ended.1 ended.2 ∧
      (⟨.start (sampleRecord "2.0.0" .starting), .ok ()⟩ : LifeEvent) ∈ tr' := by
  have may : ∀ (sh : Bool) (faults : List LifeFault) (op : LifeOp) (exc : Exn) (applied : Bool),
      rollbackLost faults op = some (exc, applied) → Injected sh ⟨op, exc, applied⟩ := by
    intro sh faults op exc applied strike
    cases faults with
    | cons fault faults => cases op <;> cases strike
    | nil =>
      cases op <;> first | cases strike | skip
      simp only [rollbackLost] at strike
      split_ifs at strike
      cases strike
      exact ⟨rfl, fun _ => nofun, nofun⟩
  refine ⟨_, _, _, _, _, (taskRun (fun _ _ => .none) (.operation .enable) _).2, storedAt_sampleSystem,
    taskRun_alone may sampleUpgrade sampleSystem, taskRun_alone (fun _ _ _ _ _ => nofun) (.operation .enable) _, ?_⟩
  exact mem_cons_of_mem _ (mem_cons_of_mem _ mem_cons_self)

end PersonalAssistant.Lifecycle
