import PersonalAssistant.Lifecycle.Plans

/-!
# Fresh installs and the operations of the manager

No operation of the manager adds a plan, and one that finds the extension in a state from
which a fresh install may start does not leave such states. With the calls of the coordinator
this keeps the invariant of the plans over every run in which the calls on the extension do
not overlap.
-/

namespace PersonalAssistant.Lifecycle

open Coro Coro.Prog

/-! ## The operations of the manager -/

/-- The request that adds a plan. -/
def LifeOp.adds : LifeOp → Bool
  | .registerPlan _ => true
  | _ => false

/-- The coroutine adds no plan. -/
abbrev AddsNone {α : Type} (c : LifeM α) : Prop := c.Avoids fun op : LifeOp => op.adds = true

variable {confirmation : PurgeConfirmation}

section AddsNone

variable {id : String} {record other : ExtensionRecord}

theorem addsNone_require : AddsNone (require id) := by
  refine shuns_then rfl fun found => ?_
  split <;> exact .done _

theorem addsNone_giveUp {exc : Exn} : AddsNone (giveUp record exc) :=
  shuns_shield_then rfl fun _ => shuns_shield_then rfl fun _ => .done _

theorem addsNone_startAndPublish : AddsNone (startAndPublish record) := by
  have brought : AddsNone (bringUp (record.as .starting)) :=
    shuns_then rfl fun _ => shuns_then rfl fun _ => .ite (shuns_life rfl) (.done _)
  refine shuns_then rfl fun _ => .bind (.attempt brought) fun r => ?_
  split
  · exact addsNone_giveUp
  · refine .bind (.attempt (shuns_life rfl)) fun r => ?_
    split
    · exact .done _
    · exact shuns_then rfl fun _ => addsNone_giveUp

theorem addsNone_enable : AddsNone (enable id) :=
  .bind addsNone_require fun _ => .bind shuns_requireState fun _ => addsNone_startAndPublish

theorem addsNone_finishDisable {report : Option (List (String × Value))} {drainError : Option Exn} :
    AddsNone (finishDisable record report drainError) := by
  refine shuns_shield_then rfl fun _ => shuns_shield_then rfl fun _ => .ite (.done _) ?_
  split <;> exact .done _

theorem addsNone_disable {deadline : Rat} : AddsNone (disable id deadline) := by
  refine .bind addsNone_require fun record => .bind shuns_requireState fun _ => ?_
  refine shuns_then rfl fun _ => shuns_then rfl fun _ => ?_
  refine .bind (.attempt (shuns_life rfl)) fun r => ?_
  split
  · exact addsNone_finishDisable
  · refine .ite addsNone_finishDisable (.ite addsNone_finishDisable ?_)
    exact shuns_shield_then rfl fun _ => .done _

theorem addsNone_standDown : AddsNone (standDown id record) :=
  .ite (shuns_then rfl fun _ => addsNone_disable) (.done _)

theorem addsNone_takeOut : AddsNone (takeOut id record) :=
  .bind shuns_requireState fun _ => shuns_then rfl fun _ => shuns_then rfl fun _ =>
    shuns_then rfl fun _ => shuns_then rfl fun _ => shuns_then rfl fun _ => .done _

theorem addsNone_preparePurge : AddsNone (preparePurge id) :=
  .bind addsNone_require fun _ => .bind shuns_requireState fun _ => shuns_then rfl fun _ =>
    shuns_then rfl fun _ => shuns_then rfl fun _ => shuns_then rfl fun _ => .done _

theorem addsNone_purge : AddsNone (purge id confirmation) := by
  refine shuns_then rfl fun preview => ?_
  split
  · exact .done _
  · refine .ite (.done _) (.bind addsNone_require fun _ => .bind shuns_requireState fun _ => ?_)
    exact shuns_then rfl fun _ => shuns_then rfl fun _ => shuns_then rfl fun _ => .done _

theorem addsNone_compensate {state : ExtensionState} : AddsNone (compensate record other state) := by
  refine .bind (shuns_suppress (shuns_life rfl)) fun _ => ?_
  refine .bind (shuns_suppress (shuns_life rfl)) fun _ => ?_
  refine .bind (shuns_suppress (shuns_life rfl)) fun _ => ?_
  exact .ite (shuns_suppress addsNone_enable) (.done _)

theorem addsNone_orElse {body : LifeM ExtensionRecord} {compensation : LifeM Unit} (h : AddsNone body)
    (back : AddsNone compensation) : AddsNone (orElse body compensation) := by
  refine .bind (.attempt h) fun r => ?_
  split
  · exact .done _
  · exact .bind (.shield back) fun _ => .done _

theorem addsNone_upgrade {candidate : ExtensionRecord} : AddsNone (upgrade id candidate) := by
  refine .bind addsNone_require fun original => .bind shuns_requireState fun _ => ?_
  refine .ite (.done _) (.ite (.done _) (addsNone_orElse ?_ addsNone_compensate))
  refine .bind addsNone_standDown fun _ => shuns_then rfl fun _ => shuns_then rfl fun _ => ?_
  exact shuns_then rfl fun _ => .ite addsNone_enable (.done _)

theorem addsNone_rollback : AddsNone (rollback id) := by
  refine .bind addsNone_require fun original => .bind shuns_requireState fun _ => ?_
  refine shuns_then rfl fun restored => .ite (.done _) (addsNone_orElse ?_ addsNone_compensate)
  refine .bind addsNone_standDown fun _ => shuns_then rfl fun _ => ?_
  exact .ite addsNone_startAndPublish (.done _)

theorem addsNone_operation (op : Operation) : AddsNone (op.program id) := by
  cases op with
  | enable => exact .bind addsNone_enable fun _ => .done _
  | recover =>
    refine .bind (.bind addsNone_require fun _ => .bind shuns_requireState fun _ => ?_) fun _ => .done _
    exact addsNone_startAndPublish
  | disable => exact .bind addsNone_disable fun _ => .done _
  | uninstall =>
    refine .bind (.bind addsNone_require fun _ => .bind addsNone_standDown fun _ => ?_) fun _ => .done _
    exact addsNone_takeOut
  | preparePurge => exact .bind addsNone_preparePurge fun _ => .done _
  | purge => exact .bind addsNone_purge fun _ => .done _
  | upgrade => exact .bind addsNone_upgrade fun _ => .done _
  | rollback => exact .bind addsNone_rollback fun _ => .done _

end AddsNone

section Operations

variable {α : Type} {e : String} {t t' : Part} {permitted : Permitted LifePort Exn} {op : LifeOp} {c : LifeM α}

/-- Where no plan waits, none does after a coroutine that adds none. -/
theorem ends_addsNone (h : AddsNone c) (none : ∀ planId plan, ¬ Waits t planId plan) :
    Ends e permitted c (fun _ t' => ∀ planId plan, ¬ Waits t' planId plan) t := by
  induction c generalizing t with
  | done r => exact .done none
  | await sh op k ih =>
    obtain ⟨here, rest⟩ := avoids_await.mp h
    refine .each (fun _ => trivial) none (fun b t' seen planId plan waits => ?_) fun a _ => ih a (rest a)
    by_cases calm : op.writes e = false
    · exact none planId plan ((seen_fewer seen calm).waits planId plan waits)
    · cases op with
      | saveRecord record expected =>
        have same : t'.plans = t.plans := seen_save_plans seen
        exact none planId plan ⟨same ▸ waits.1, waits.2⟩
      | registerPlan plan => exact here rfl
      | _ => exact calm rfl

theorem ends_calm_then {f : op.Ans → LifeM α} {Q : Except Exn α → Part → Prop} (calm : op.writes e = false)
    (rest : ∀ x t', Fewer t t' → Ends e permitted (f x) Q t') (raised : ∀ exc t', Fewer t t' → Q (.error exc) t') :
    Ends e permitted (life op >>= f) Q t := by
  refine .each (fun _ => trivial) (.refl t) (fun _ _ seen => seen_fewer seen calm) fun a t' fewer => ?_
  cases a with
  | ok x => exact rest x t' fewer
  | error exc => exact .done (raised exc t' fewer)

/-- A fresh install may still start, and no plan has been added. -/
structure StaysVacant (t t' : Part) : Prop where
  vacant : Vacant t'
  waits : ∀ planId plan, Waits t' planId plan → Waits t planId plan

theorem Fewer.staysVacant (fewer : Fewer t t') (vacant : Vacant t) : StaysVacant t t' :=
      ⟨fewer.vacant vacant, fewer.waits⟩

theorem StaysVacant.guarded (stays : StaysVacant t t') (guarded : Guarded t) : Guarded t' where
  vacant _ _ _ := stays.vacant
  single planId plan other plan' waits waits' :=
    guarded.single planId plan other plan' (stays.waits _ _ waits) (stays.waits _ _ waits')

section Vacant

variable {f : ExtensionRecord → LifeM α} {Q : Except Exn α → Part → Prop} {record : ExtensionRecord}
  {allowed : List ExtensionState} {operation : String}

theorem ends_require_vacant (vacant : Vacant t)
    (rest : ∀ record t', record.id = e → record.state ∈ installableStates → Fewer t t' →
      Ends e permitted (f record) Q t')
    (raised : ∀ exc t', Fewer t t' → Q (.error exc) t') : Ends e permitted (require e >>= f) Q t := by
  refine .await (fun a t' seen => ⟨trivial, ?_⟩) fun exc applied _ t' _ strikes =>
    ⟨trivial, .done (raised exc t' (strikes.elim (.refl t) fun _ seen => seen_fewer seen rfl))⟩
  have fewer := seen_fewer seen rfl
  obtain ⟨rfl, rfl, own⟩ := seen_getRecord seen
  cases stored : t'.stored with
  | none => exact .done (raised _ _ fewer)
  | some record => exact rest record t' (own record stored) (vacant record stored) fewer

/-- An operation that is not allowed in any state a fresh install may start from. -/
theorem ends_refused {g : Unit → LifeM α}
    (state : record.state ∈ installableStates) (apart : ∀ state ∈ installableStates, state ∉ allowed)
    (raised : ∀ exc, Q (.error exc) t) : Ends e permitted (requireState record allowed operation >>= g) Q t := by
  unfold requireState
  rw [if_neg (apart _ state)]
  exact .done (raised _)

/-- An operation that first looks up the record and refuses those states. -/
theorem ends_begin_refused {g : ExtensionRecord → Unit → LifeM α}
    (vacant : Vacant t) (apart : ∀ state ∈ installableStates, state ∉ allowed) :
    Ends e permitted (do
      let record ← require e
      let checked ← requireState record allowed operation
      g record checked) (fun _ => StaysVacant t) t :=
  ends_require_vacant vacant
    (fun _ _ _ state fewer => ends_refused state apart fun _ => fewer.staysVacant vacant)
    fun _ _ fewer => fewer.staysVacant vacant

theorem ends_discard {I : Part → Prop} (h : Ends e permitted c (fun _ => I) t) :
    Ends e permitted (do let _ ← c) (fun _ => I) t :=
  .bind h (fun _ _ inv => .done inv) fun _ _ inv => inv

theorem ends_uninstall_vacant (vacant : Vacant t) : Ends e permitted (uninstall e) (fun _ => StaysVacant t) t := by
  refine ends_require_vacant vacant (fun record t' _ state fewer => ?_) fun _ _ fewer => fewer.staysVacant vacant
  have idle : record.state ≠ .enabled := by
    intro enabled
    rw [enabled] at state
    simp [installableStates] at state
  have same : standDown e record = pure record := if_neg idle
  rw [same]
  exact ends_refused state (by decide) fun _ => fewer.staysVacant vacant

theorem ends_preparePurge_vacant (vacant : Vacant t) : Ends e permitted (preparePurge e)
    (fun _ => StaysVacant t) t := by
  refine ends_require_vacant vacant (fun record t₁ _ _ fewer => ?_) fun _ _ fewer => fewer.staysVacant vacant
  unfold requireState
  split_ifs
  · refine ends_calm_then rfl (fun _ t₂ more => ?_) fun _ _ more => (fewer.trans more).staysVacant vacant
    replace fewer := fewer.trans more
    refine ends_calm_then rfl (fun _ t₃ more => ?_) fun _ _ more => (fewer.trans more).staysVacant vacant
    replace fewer := fewer.trans more
    refine ends_calm_then rfl (fun _ t₄ more => ?_) fun _ _ more => (fewer.trans more).staysVacant vacant
    replace fewer := fewer.trans more
    refine ends_calm_then rfl (fun _ t₅ more => ?_) fun _ _ more => (fewer.trans more).staysVacant vacant
    exact .done ((fewer.trans more).staysVacant vacant)
  · exact .done (fewer.staysVacant vacant)

/-- `purge` leaves an extension that is not installed as it is. -/
theorem ends_purge_vacant (vacant : Vacant t) :
    Ends e permitted (purge e confirmation) (fun _ => StaysVacant t) t := by
  refine ends_calm_then rfl (fun preview t₁ fewer₁ => ?_) fun _ _ fewer => fewer.staysVacant vacant
  have vacant₁ := fewer₁.vacant vacant
  cases preview with
  | none => exact .done (fewer₁.staysVacant vacant)
  | some preview =>
    show Ends e permitted (if _ then _ else _) _ _
    split_ifs
    · exact .done (fewer₁.staysVacant vacant)
    refine ends_require_vacant vacant₁ (fun record t₂ own state fewer => ?_) fun _ _ fewer =>
      (fewer₁.trans fewer).staysVacant vacant
    replace fewer := fewer₁.trans fewer
    unfold requireState
    split_ifs
    · refine ends_calm_then rfl (fun _ t₃ more => ?_) fun _ _ more => (fewer.trans more).staysVacant vacant
      replace fewer := fewer.trans more
      refine ends_calm_then rfl (fun _ t₄ more => ?_) fun _ _ more => (fewer.trans more).staysVacant vacant
      replace fewer := fewer.trans more
      refine .each (fun _ => trivial) (fewer.staysVacant vacant) (fun b t' seen => ?_) fun a t' stays => ?_
      · obtain ⟨-, rfl⟩ := seen_saveRecord seen own
        refine ⟨fun other stored => ?_, fewer.waits⟩
        cases stored
        exact state
      · cases a <;> exact .done stays
    · exact .done (fewer.staysVacant vacant)

end Vacant

/-- An operation of the manager leaves a guarded extension guarded. -/
theorem ends_operation (op : Operation) (guarded : Guarded t) :
    Ends e permitted (op.program e) (fun _ => Guarded) t := by
  by_cases none : ∀ planId plan, ¬ Waits t planId plan
  · refine .mono (fun _ t' none' => ?_) (ends_addsNone (addsNone_operation op) none)
    exact ⟨fun _ _ waits => absurd waits (none' _ _), fun _ _ _ _ waits => absurd waits (none' _ _)⟩
  · have vacant : Vacant t := by
      obtain ⟨planId, plan, waits⟩ : ∃ planId plan, Waits t planId plan := by
        simpa using none
      exact guarded.vacant planId plan waits
    refine .mono (fun _ t' stays => StaysVacant.guarded stays guarded) ?_
    cases op with
    | enable => exact ends_discard (ends_begin_refused vacant (by decide))
    | recover => exact ends_discard (ends_begin_refused vacant (by decide))
    | disable deadline => exact ends_discard (ends_begin_refused vacant (by decide))
    | uninstall => exact ends_discard (ends_uninstall_vacant vacant)
    | preparePurge => exact ends_discard (ends_preparePurge_vacant vacant)
    | purge confirmation => exact ends_discard (ends_purge_vacant vacant)
    | upgrade candidate => exact ends_discard (ends_begin_refused vacant (by decide))
    | rollback => exact ends_discard (ends_begin_refused vacant (by decide))

end Operations

/-! ## An upgrade candidate -/

/-- The requests that store nothing, leave the registry alone and add no plan. -/
def LifeOp.calm : LifeOp → Bool
  | .saveRecord _ _ | .registerPlan _ | .registryEnable _ | .registryDisable _ | .registryReplaceAll _ => false
  | _ => true

section Installation

variable {bad : LifeOp → Bool} {plan : PendingInstall} {persist : Bool} (calm : ∀ op : LifeOp, op.calm → bad op = false)

include calm

theorem shuns_discardStaged (staged : StagedArtifact) : Shuns bad (discardStaged staged) := by
  refine .bind (.attempt (shuns_life (calm _ rfl))) fun r => ?_
  split
  · exact .done _
  · exact .ite (.done _) (.done _)

theorem shuns_verifyUpgradeBaseline : Shuns bad (verifyUpgradeBaseline plan) := by
  refine shuns_then (calm _ rfl) fun current => ?_
  split
  · exact .done _
  · exact .ite (.done _) (.ite (.done _) (.ite (.done _)
      (.ite (.done _) (.done _))))

variable (saves : persist → ∀ record : ExtensionRecord, record.state ≠ .enabled → bad (.saveRecord record none) = false)

include saves

theorem shuns_abortInstall (installed : Option InstalledArtifact) :
    Shuns bad (abortInstall plan installed persist) := by
  refine .bind ?_ fun _ => .bind (shuns_suppress (shuns_life (calm _ rfl))) fun _ =>
    .bind (shuns_discardStaged calm _) fun _ => ?_
  · split
    · exact shuns_suppress (shuns_life (calm _ rfl))
    · exact .done _
  · split_ifs with kept
    · exact shuns_suppress (shuns_life (saves kept _ nofun))
    · exact .done _

/-- What is carried out for a plan makes none of the bad calls. -/
theorem shuns_carryOut (mode : PlanMode) : Shuns bad (carryOut plan mode persist) := by
  have aborted : ∀ (installed : Option InstalledArtifact) (exc : Exn),
      Shuns bad ((abortInstall plan installed persist).shield >>= fun _ => raise exc : LifeM ExtensionRecord) :=
    fun installed _ => .bind (.shield (shuns_abortInstall calm saves installed)) fun _ => .done _
  have unpacked : Shuns bad (unpack plan mode) := by
    refine .bind ?_ fun _ => shuns_life (calm _ rfl)
    split
    · exact shuns_life (calm _ rfl)
    · exact .done _
  refine .bind (.attempt unpacked) fun r => ?_
  split
  · exact aborted none _
  · rename_i installed
    have finished : Shuns bad (finishInstall plan installed persist) := by
      refine shuns_then (calm _ rfl) fun _ => .bind (shuns_discardStaged calm _) fun _ => ?_
      split_ifs with kept
      · exact shuns_then (saves kept _ nofun) fun _ => .done _
      · exact .done _
    refine .bind (.attempt finished) fun r => ?_
    split
    · exact .done _
    · exact aborted (some installed) _

theorem shuns_executeInstall (planId : String) (confirmation : Option InstallationConfirmation) (mode : PlanMode) :
    Shuns bad (executeInstall planId confirmation mode persist) := by
  refine shuns_then (calm _ rfl) fun claim => ?_
  split
  · exact .bind (shuns_discardStaged calm _) fun _ => .done _
  · split
    · exact shuns_carryOut calm saves .install
    · exact .bind (shuns_verifyUpgradeBaseline calm) fun _ => shuns_then (calm _ rfl) fun _ =>
        shuns_carryOut calm saves .upgrade

end Installation

/-- The coroutine writes nothing of the extension. -/
abbrev WritesNone {α : Type} (e : String) (c : LifeM α) : Prop := c.Avoids fun op : LifeOp => op.writes e = true

section Candidate

variable {α : Type} {e : String} {t : Part} {permitted : Permitted LifePort Exn}

theorem ends_writesNone {c : LifeM α} (h : WritesNone e c) : Ends e permitted c (fun _ => Fewer t) t := by
  induction c generalizing t with
  | done r => exact .done (.refl t)
  | await sh op k ih =>
    obtain ⟨here, rest⟩ := avoids_await.mp h
    have calm : op.writes e = false := Bool.eq_false_iff.mpr here
    refine .each (fun _ => trivial) (.refl t) (fun _ _ seen => seen_fewer seen calm) fun a t' fewer => ?_
    exact .mono (fun _ _ more => fewer.trans more) (ih a (rest a))

theorem writesNone_installCandidate (planId : String) (confirmation : Option InstallationConfirmation) :
    WritesNone e (installCandidate planId confirmation) := by
  refine shuns_executeInstall (fun op calm => ?_)
    (fun kept => absurd kept Bool.false_ne_true) planId confirmation .upgrade
  cases op <;> first | rfl | cases calm

end Candidate

/-! ## Runs -/

/-- The calls on an extension: those of the coordinator and the operations of the manager. -/
inductive PlanCall where
  | prepare (source : String) (mode : Option PlanMode)
  | reject (planId : String)
  | install (planId : String) (confirmation : Option InstallationConfirmation)
  | installCandidate (planId : String) (confirmation : Option InstallationConfirmation)
  | operation (op : Operation)

/-- What a call awaits. -/
def PlanCall.program (extensionId : String) : PlanCall → LifeM Unit
  | .prepare source mode => do let _ ← Lifecycle.prepare source mode
  | .reject planId => do let _ ← Lifecycle.reject planId
  | .install planId confirmation => do let _ ← Lifecycle.install planId confirmation
  | .installCandidate planId confirmation => do let _ ← Lifecycle.installCandidate planId confirmation
  | .operation op => op.program extensionId

/-- Any faults, except that the save at the end of an installation does not raise after it
took effect. -/
def PlanCall.permitted : PlanCall → Permitted LifePort Exn
  | .install _ _ => installing
  | _ => fun sh _ fault => Injected sh fault

/-- The calls that execute, reject or abort a plan of a fresh install, or make one. -/
def PlanCall.fresh : PlanCall → Bool
  | .prepare _ _ | .reject _ | .install _ _ => true
  | _ => false

/-- What a call guarantees at each of its requests. -/
def PlanCall.guarantee (e : String) (call : PlanCall) (st : Part × List LifeFault) (event : LifeEvent) : Prop :=
  call.fresh = true → Spares e st.1 event

/-- A call keeps the invariant, and spares what is installed. -/
theorem planCall_keeps {e : String} (call : PlanCall) (st : Part × List LifeFault) (guarded : Guarded st.1) :
    wp (struck (partAnswers e) call.permitted) (call.guarantee e) (call.program e) (fun _ st' => Guarded st'.1) st := by
  obtain ⟨t, faults⟩ := st
  have careful : ∀ {α : Type} {c : LifeM α} {permitted : Permitted LifePort Exn},
      Careful e permitted c (fun _ => Guarded) t →
      wp (struck (partAnswers e) permitted) (call.guarantee e) (do let _ ← c) (fun _ st' => Guarded st'.1)
        (t, faults) :=
    fun h => wp_weaken (fun _ _ spares _ => spares)
      (Anyhow.bind h (fun _ _ inv => .done inv) (fun _ _ inv => inv) faults)
  have other : ∀ {c : LifeM Unit} {permitted : Permitted LifePort Exn}, call.fresh = false →
      Ends e permitted c (fun _ => Guarded) t →
      wp (struck (partAnswers e) permitted) (call.guarantee e) c (fun _ st' => Guarded st'.1) (t, faults) := by
    intro c permitted stale h
    refine wp_weaken (fun _ _ _ fresh => ?_) (h faults)
    cases stale.symm.trans fresh
  cases call with
  | prepare source mode => exact careful (careful_prepare guarded)
  | reject planId => exact careful (careful_reject guarded)
  | install planId confirmation => exact careful (careful_install guarded)
  | installCandidate planId confirmation =>
    refine other rfl (ends_discard
      (.mono (fun _ _ fewer => ?_) (ends_writesNone (writesNone_installCandidate planId confirmation))))
    exact Fewer.guarded fewer guarded
  | operation op => exact other rfl (ends_operation op guarded)

/-- **A plan of a fresh install spares an installed extension**, where the calls on the
extension do not overlap: a prepare, a rejection or an installation overwrites its record or
deletes the directory of one of its versions only while it is not installed. The calls may
fail in any way, save that the last save of an installation does not raise after it took
effect. -/
theorem plan_spares_installed {ι : Type} [DecidableEq ι] (e : String) (calls : ι → PlanCall) {s₀ : System}
    (fresh : s₀.plans = []) {threads : ι → LifeM Unit} {st : System × List LifeFault} {tr : List (ι × LifeEvent)}
    (run : Serial (fun i => struck answers (calls i).permitted) (Elsewhere e) (fun i => (calls i).program e) (s₀, [])
      threads st tr)
    {i : ι} {sh : Bool} {op : LifeOp} {k : Except Exn op.Ans → LifeM Unit} {a : Except Exn op.Ans}
    {st' : System × List LifeFault} (alone : ∀ j, j ≠ i → Resting threads tr j) (here : threads i = .await sh op k)
    (answered : struck answers (calls i).permitted sh st op a st') (coordinator : (calls i).fresh)
    (harms : op.harms e) :
    ¬ Installed (part e st.1) := by
  have start : Guarded (partWith e (s₀, [])).1 := by
    have none : ∀ planId plan, ¬ Waits (part e s₀) planId plan := by
      rintro planId plan ⟨found, -⟩
      simp [part, fresh] at found
    exact ⟨fun _ _ waits => absurd waits (none _ _), fun _ _ _ _ waits => absurd waits (none _ _)⟩
  exact run.guarantees (views e fun i => (calls i).permitted) (G := fun i => (calls i).guarantee e)
    (I := fun st => Guarded st.1) (fun i st guarded => planCall_keeps (calls i) st guarded) start alone here answered
    coordinator harms

/-! ## Sample runs -/

/-- A host without extensions. -/
def emptySystem : System := ⟨Keyed.ofValues ExtensionRecord.id [], .empty, [], []⟩

/-- The outside of the samples, with the given tokens. -/
def cannedToken (token : String) : (op : LifeOp) → Except Exn op.Ans
  | .tokenUrlsafe => .ok token
  | op => canned (fun _ => true) op

/-- The environment of the samples, in which nothing fails. -/
def plansAnswer (token : String) (st : System × List LifeFault) (op : LifeOp) :
    Except Exn op.Ans × System × List LifeFault :=
  let answer := world.answerWith ⟨0, "sha256:demo"⟩ (cannedToken token) st.1 op
  (answer.1, answer.2, st.2)

theorem answerWith_struck {k : Reading} {outside : (op : LifeOp) → Except Exn op.Ans}
    (total : ∀ op : LifeOp, op.outside → ∃ x, outside op = .ok x) (permitted : Permitted LifePort Exn) (sh : Bool)
    (st : System × List LifeFault) (op : LifeOp) :
    struck answers permitted sh st op (world.answerWith k outside st.1 op).1
      ((world.answerWith k outside st.1 op).2, st.2) := by
  have own : ∀ (s : System) (op : LifeOp), world.total op → world.effect k s op = none := by
    intro s op outside
    cases op <;> first | rfl | cases outside
  exact .inl ⟨World.answerWith_reliable (W := world) own total sh st.1 op, rfl⟩

theorem plansAnswer_struck (token : String) (permitted : Permitted LifePort Exn) (sh : Bool)
    (st : System × List LifeFault)
    (op : LifeOp) : struck answers permitted sh st op (plansAnswer token st op).1 (plansAnswer token st op).2 := by
  refine answerWith_struck (fun op outside => ?_) permitted sh st op
  cases op <;> first | exact ⟨_, rfl⟩ | cases outside

/-- A sample run of several calls along a schedule, where each has its own tokens. -/
def samplePlans {ι : Type} [DecidableEq ι] (calls : ι → PlanCall) (token : ι → String) (schedule : List ι) :
    (ι → LifeM Unit) × (System × List LifeFault) × List (ι × LifeEvent) :=
  playPool (fun i st op => some (plansAnswer (token i) st op)) schedule (fun i => (calls i).program "demo.mail")
    (emptySystem, []) []

theorem samplePlans_allowed {ι : Type} (calls : ι → PlanCall) (token : ι → String) (i : ι) (sh : Bool)
    (st : System × List LifeFault) (op : LifeOp) (a : Except Exn op.Ans) (st' : System × List LifeFault)
    (answered : some (plansAnswer (token i) st op) = some (a, st')) :
    struck answers (calls i).permitted sh st op a st' := by
  cases Option.some.inj answered
  exact plansAnswer_struck (token i) _ sh st op

theorem samplePlans_pool {ι : Type} [DecidableEq ι] (calls : ι → PlanCall) (token : ι → String) (schedule : List ι) :
    Pool (fun i => struck answers (calls i).permitted) (Elsewhere "demo.mail") (fun i => (calls i).program "demo.mail")
      (emptySystem, []) (samplePlans calls token schedule).1 (samplePlans calls token schedule).2.1
      (samplePlans calls token schedule).2.2 :=
  playPool_pool (samplePlans_allowed calls token) schedule .start

/-- A confirmation of the first plan. -/
def sampleConfirmation : InstallationConfirmation := ⟨"install_a", "a", "sha256:payload", "owner", 0, true⟩

/-- Two plans are prepared for one extension, the second while the first is being installed;
the second is then rejected. -/
def overlapping : Fin 4 → PlanCall
  | 0 => .prepare "/src" (some .install)
  | 1 => .install "install_a" (some sampleConfirmation)
  | 2 => .prepare "/src" none
  | 3 => .reject "install_b"

/-- The first plan is prepared, and then its installation runs up to the last save. -/
def installingRun : (Fin 4 → LifeM Unit) × (System × List LifeFault) × List (Fin 4 × LifeEvent) :=
  samplePlans overlapping (fun _ => "a") (List.replicate 11 0 ++ List.replicate 5 1)

/-- At that save the extension is not yet installed. -/
theorem plan_spares_installed_install : ¬ Installed (part "demo.mail" installingRun.2.1.1) := by
  have run : Serial (fun i => struck answers (overlapping i).permitted) (Elsewhere "demo.mail")
      (fun i => (overlapping i).program "demo.mail")
        (emptySystem, []) installingRun.1 installingRun.2.1 installingRun.2.2 :=
    .of_playPool (samplePlans_allowed overlapping fun _ => "a") _ .start (by decide +kernel)
  have alone : ∀ j, j ≠ 1 → Serial.rests installingRun.1 installingRun.2.2 j = true := by decide +kernel
  exact plan_spares_installed "demo.mail" overlapping rfl run (fun j other => Serial.resting_of_rests (alone j other))
    rfl (plansAnswer_struck "a" _ false _ _) rfl rfl

/-- The first plan is prepared and its installation runs up to the last save; the second plan
is prepared; the installation ends; the rejection runs up to its save. -/
def overlappingRun : (Fin 4 → LifeM Unit) × (System × List LifeFault) × List (Fin 4 × LifeEvent) :=
  samplePlans overlapping (fun i => if i = 2 then "b" else "a")
    (List.replicate 11 0 ++ List.replicate 5 1 ++ List.replicate 12 2 ++ [1, 3, 3])

/-- **A rejection overwrites an installed extension**, where the plan was prepared while
another one was being installed. -/
theorem rejection_overwrites_installed :
    ∃ (threads : Fin 4 → LifeM Unit) (st : System × List LifeFault) (tr : List (Fin 4 × LifeEvent))
      (k : Except Exn Bool → LifeM Unit),
      Pool (fun i => struck answers (overlapping i).permitted) (Elsewhere "demo.mail")
        (fun i => (overlapping i).program "demo.mail") (emptySystem, []) threads st tr ∧
      st.2 = [] ∧
      threads 3 = .await false
        (.saveRecord ⟨sampleManifest "1.0.0", "sha256:demo", .rejected, none, true, false⟩ none) k ∧
      Installed (part "demo.mail" st.1) := by
  refine ⟨overlappingRun.1, overlappingRun.2.1, overlappingRun.2.2, _, samplePlans_pool _ _ _, rfl, rfl, ?_⟩
  exact ⟨_, rfl, by decide⟩

end PersonalAssistant.Lifecycle
