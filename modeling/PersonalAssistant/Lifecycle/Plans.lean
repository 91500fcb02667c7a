import PersonalAssistant.Lifecycle.Coordinator
import PersonalAssistant.Lifecycle.Versions

/-!
# Plans and installed extensions

A plan for a fresh install is prepared while the extension is not installed, and executed or
rejected later without another look at the store. What keeps it from harm is an invariant:
while such a plan waits, the stored state is one that a fresh install may start from, and at
most one plan waits. It holds as long as the calls on the extension do not overlap.
-/

namespace PersonalAssistant.Lifecycle

open Coro Coro.Prog List

variable {confirmation : Option InstallationConfirmation} (staged : StagedArtifact)

section Memory

variable {plans : Plans} {planId other : String} {plan : PendingInstall}

theorem lookup_pop : (plans.pop planId).lookup other = if other = planId then none else plans.lookup other :=
  lookup_filter_ne planId other plans

theorem lookup_map_of_keys {f : String × PendingInstall → String × PendingInstall}
    (keys : ∀ entry, (f entry).1 = entry.1) :
    List.lookup other (plans.map f) = (plans.lookup other).map fun plan => (f (other, plan)).2 := by
  induction plans with
  | nil => rfl
  | cons entry plans ih =>
    rw [map_cons, lookup_cons_ite, lookup_cons_ite, keys, ih]
    split_ifs with same
    · rw [same]
      rfl
    · rfl

theorem lookup_consume : (plans.consume planId).lookup other =
    (plans.lookup other).map fun plan => if other = planId then { plan with consumed := true } else plan := by
  rw [Plans.consume, lookup_map_of_keys]
  · congr 1
    funext plan
    split_ifs <;> rfl
  · intro entry
    split_ifs <;> rfl

theorem claim_plans (now : Int) (hash : String) (confirmation : Option InstallationConfirmation) (mode : PlanMode) :
    (plans.claim now hash planId confirmation mode).2 = plans ∨
    (∃ id, (plans.claim now hash planId confirmation mode).2 = plans.pop id) ∨
    (plans.claim now hash planId confirmation mode).2 = plans.consume planId := by
  unfold Plans.claim
  repeat' split
  all_goals first | exact .inl rfl | exact .inr (.inl ⟨_, rfl⟩) | exact .inr (.inr rfl)

/-- A plan that may be installed was waiting, and is consumed. -/
theorem claim_granted {now : Int} {hash : String}
    (granted : (plans.claim now hash planId confirmation .install).1 = .ok (.granted plan)) :
    plans.lookup planId = some plan ∧ plan.consumed = false ∧ plan.preview.mode = .install ∧
      (plans.claim now hash planId confirmation .install).2 = plans.consume planId := by
  unfold Plans.claim at granted ⊢
  cases found : plans.lookup planId with
  | none => simp [found] at granted
  | some waiting =>
    simp only [found] at granted ⊢
    by_cases consumed : waiting.consumed
    · simp [consumed] at granted
    by_cases mode : waiting.preview.mode = .install
    · simp only [consumed, mode, ne_eq, not_true, if_false, Bool.false_eq_true] at granted ⊢
      cases valid : validateConfirmation now waiting.preview confirmation with
      | error exc => simp [valid] at granted
      | ok =>
        by_cases changed : hash = waiting.preview.artifactHash
        · simp only [valid, changed, not_true, if_false] at granted ⊢
          cases granted
          exact ⟨rfl, by simpa using consumed, mode, trivial⟩
        · simp [valid, changed] at granted
    · simp [consumed, mode] at granted

end Memory

/-! ## The invariant -/

/-- A plan of a fresh install waits for its confirmation. -/
def Waits (t : Part) (planId : String) (plan : PendingInstall) : Prop :=
  t.plans planId = some plan ∧ plan.consumed = false ∧ plan.preview.mode = .install

/-- A fresh install may start from what is stored. -/
def Vacant (t : Part) : Prop := ∀ record, t.stored = some record → record.state ∈ installableStates

/-- The extension is installed. -/
def Installed (t : Part) : Prop :=
  ∃ record, t.stored = some record ∧ record.state ∈ [.installedDisabled, .enabled, .disabled]

theorem Vacant.not_installed {t : Part} (vacant : Vacant t) : ¬ Installed t := by
  rintro ⟨record, stored, state⟩
  have both := vacant record stored
  simp only [installableStates, mem_cons, not_mem_nil, or_false] at both state
  rcases both with s | s | s <;> simp [s] at state

/-- While a plan waits, the extension is not installed, and no other plan waits. -/
structure Guarded (t : Part) : Prop where
  vacant : ∀ planId plan, Waits t planId plan → Vacant t
  single : ∀ planId plan other plan', Waits t planId plan → Waits t other plan' → planId = other

/-- The same is stored, and no plan has been added. -/
structure Fewer (t t' : Part) : Prop where
  stored : t'.stored = t.stored
  waits : ∀ planId plan, Waits t' planId plan → Waits t planId plan

namespace Fewer

variable {t t' t'' : Part}

theorem refl (t : Part) : Fewer t t := ⟨rfl, fun _ _ => id⟩

theorem trans (first : Fewer t t') (then_ : Fewer t' t'') : Fewer t t'' :=
  ⟨then_.stored.trans first.stored, fun planId plan h => first.waits planId plan (then_.waits planId plan h)⟩

theorem vacant (fewer : Fewer t t') (vacant : Vacant t) : Vacant t' := by
  intro record stored
  exact vacant record (fewer.stored ▸ stored)

theorem guarded (fewer : Fewer t t') (guarded : Guarded t) : Guarded t' where
  vacant planId plan waits := fewer.vacant (guarded.vacant planId plan (fewer.waits planId plan waits))
  single planId plan other plan' waits waits' :=
    guarded.single planId plan other plan' (fewer.waits _ _ waits) (fewer.waits _ _ waits')

end Fewer

/-- The requests that write the extension's record or add a plan of it. -/
def LifeOp.writes (e : String) : LifeOp → Bool
  | .saveRecord record _ => record.id = e
  | .registerPlan plan => plan.manifest.id = e
  | _ => false

/-- The requests that overwrite the extension's record or delete the directory of one of its
versions. -/
def LifeOp.harms (e : String) : LifeOp → Bool
  | .saveRecord record _ => record.id = e
  | .removeOrphanVersion id _ => id = e
  | .removeVersion record => record.id = e
  | _ => false

section Seen

variable {e planId id : String} {t t' : Part} {plan : PendingInstall} {plans : Plans}

theorem fewer_of_plans {s s' : System} (store : s'.store = s.store)
    (plans : ∀ id plan, s'.plans.lookup id = some plan → plan.consumed = false → plan.manifest.id = e →
      s.plans.lookup id = some plan) : Fewer (part e s) (part e s') := by
  refine ⟨congrArg (Keyed.get · e) store, ?_⟩
  rintro id plan ⟨found, waiting, mode⟩
  obtain ⟨there, own⟩ := Option.filter_eq_some_iff.mp found
  refine ⟨Option.filter_eq_some_iff.mpr ⟨plans id plan there waiting ?_, own⟩, waiting, mode⟩
  simpa using own

theorem lookup_of_pop (found : (plans.pop planId).lookup id = some plan) : plans.lookup id = some plan := by
  rw [lookup_pop] at found
  split_ifs at found
  exact found

theorem lookup_of_consume (found : (plans.consume planId).lookup id = some plan) (waiting : plan.consumed = false) :
    plans.lookup id = some plan := by
  rw [lookup_consume, Option.map_eq_some_iff] at found
  obtain ⟨old, there, same⟩ := found
  split_ifs at same
  · subst same
    cases waiting
  · rw [there, same]

theorem seen_save_plans {record : ExtensionRecord} {expected : Option (ExtensionState × String)} {a : Except Exn Bool}
    (h : partAnswers e t (.saveRecord record expected) a t') : t'.plans = t.plans := by
  obtain ⟨k, s, rfl, rfl, -⟩ := seen_effect h fun _ _ => rfl
  have plans : (s.save record expected).2.plans = s.plans := by
    unfold System.save
    repeat' split
    all_goals rfl
  simp only [part, plans]

/-- Every other request stores nothing for the extension and adds no plan of it. -/
theorem seen_fewer {op : LifeOp} {a : Except Exn op.Ans} (h : partAnswers e t op a t') (calm : op.writes e = false) :
    Fewer t t' := by
  obtain ⟨s, s', rfl, rfl, answered, k, effect⟩ := h
  have published : ∀ {a : Except Exn Unit} (change : Except Exn Registry), (a, s') = s.publish change →
      Fewer (part e s) (part e s') := by
    rintro a (exc | registry) done
    · obtain ⟨-, rfl⟩ := Prod.mk.inj done
      exact .refl _
    · obtain ⟨-, rfl⟩ := Prod.mk.inj done
      exact fewer_of_plans rfl fun _ _ found _ _ => found
  cases op with
  | saveRecord record expected =>
    have seen : partAnswers e (part e s) (.saveRecord record expected) a (part e s') :=
      ⟨s, s', rfl, rfl, answered, k, effect⟩
    rcases seen_stored seen with same | ⟨saved, _, op, -, own⟩
    · exact ⟨same, fun id plan waits => ⟨seen_save_plans seen ▸ waits.1, waits.2⟩⟩
    · cases op
      simp [LifeOp.writes, own] at calm
  | registryEnable record => exact published _ effect
  | registryDisable id => exact published _ effect
  | registryReplaceAll records => exact published _ effect
  | popPlan planId =>
    obtain ⟨-, rfl⟩ : a = _ ∧ s' = _ := Prod.mk.inj effect
    exact fewer_of_plans rfl fun _ _ found _ _ => lookup_of_pop found
  | consumePlan planId =>
    obtain ⟨-, rfl⟩ : a = _ ∧ s' = _ := Prod.mk.inj effect
    exact fewer_of_plans rfl fun _ _ found waiting _ => lookup_of_consume found waiting
  | claimPlan planId confirmation mode =>
    obtain ⟨-, rfl⟩ : a = _ ∧ s' = _ := Prod.mk.inj effect
    refine fewer_of_plans rfl fun id plan found waiting _ => ?_
    rcases claim_plans k.now k.hash confirmation mode with same | ⟨_, popped⟩ | consumed
    · exact (congrArg (List.lookup id) same).symm.trans found
    · exact lookup_of_pop ((congrArg (List.lookup id) popped).symm.trans found)
    · exact lookup_of_consume ((congrArg (List.lookup id) consumed).symm.trans found) waiting
  | registerPlan plan =>
    obtain ⟨-, rfl⟩ : a = _ ∧ s' = _ := Prod.mk.inj effect
    refine fewer_of_plans rfl fun id waiting found _ own => ?_
    by_cases same : id = plan.preview.planId
    · subst same
      have new : some plan = some waiting := (lookup_dictSet_self ..).symm.trans found
      cases new
      simp [LifeOp.writes, own] at calm
    · exact (lookup_dictSet_of_ne same ..).symm.trans found
  | _ =>
    first
    | (obtain ⟨-, rfl⟩ : a = _ ∧ s' = _ := Prod.mk.inj effect
       exact fewer_of_plans rfl fun _ _ found _ _ => found)
    | (obtain rfl : s' = s := effect
       exact .refl _)

/-- The plans that are dropped for the extension include every one of its own. -/
theorem seen_stalePlans {a : Except Exn (List String)} (h : partAnswers e t (.stalePlans e) a t') :
    t' = t ∧ ∃ ids, a = .ok ids ∧ ∀ planId plan, t.plans planId = some plan → planId ∈ ids := by
  obtain ⟨k, s, rfl, rfl, rfl⟩ := seen_effect h fun _ _ => rfl
  refine ⟨rfl, _, rfl, fun planId plan found => ?_⟩
  obtain ⟨there, own⟩ := Option.filter_eq_some_iff.mp found
  exact mem_map.mpr ⟨_, mem_filter.mpr ⟨mem_of_lookup_eq_some there, by simpa using own⟩, rfl⟩

theorem seen_popPlan {a : Except Exn (Option PendingInstall)} (h : partAnswers e t (.popPlan planId) a t') :
    t'.plans planId = none ∧ ∃ found, a = .ok found ∧
      ∀ plan, found = some plan → plan.manifest.id = e → t.plans planId = some plan := by
  obtain ⟨k, s, rfl, rfl, rfl⟩ := seen_effect h fun _ _ => rfl
  refine ⟨?_, _, rfl, fun plan found own => ?_⟩
  · simp [part, lookup_pop]
  · simp [part, found, own]

theorem seen_claimPlan
    (h : partAnswers e t (.claimPlan planId confirmation .install) (.ok (.granted plan)) t')
    (own : plan.manifest.id = e) :
    Waits t planId plan ∧ ∀ plan', ¬ Waits t' planId plan' := by
  obtain ⟨k, s, rfl, rfl, granted⟩ := seen_effect h fun _ _ => rfl
  obtain ⟨found, waiting, mode, plans⟩ := claim_granted granted
  refine ⟨⟨?_, waiting, mode⟩, ?_⟩
  · simp [part, found, own]
  · rintro plan' ⟨there, still, -⟩
    obtain ⟨there, -⟩ := Option.filter_eq_some_iff.mp there
    simp only [plans, lookup_consume, found, Option.map_some, if_true, Option.some.injEq] at there
    rw [← there] at still
    cases still

theorem seen_registerPlan {a : Except Exn Unit} (h : partAnswers e t (.registerPlan plan) a t') :
    t'.stored = t.stored ∧ ∀ planId plan', Waits t' planId plan' →
      (planId = plan.preview.planId ∧ plan' = plan) ∨ Waits t planId plan' := by
  obtain ⟨k, s, rfl, rfl, rfl⟩ := seen_effect h fun _ _ => rfl
  refine ⟨rfl, ?_⟩
  rintro planId plan' ⟨there, waiting, mode⟩
  obtain ⟨there, own⟩ := Option.filter_eq_some_iff.mp there
  by_cases same : planId = plan.preview.planId
  · subst same
    have new : some plan = some plan' := (lookup_dictSet_self ..).symm.trans there
    exact .inl ⟨rfl, (Option.some.inj new).symm⟩
  · have old : s.plans.lookup planId = some plan' := (lookup_dictSet_of_ne same ..).symm.trans there
    exact .inr ⟨Option.filter_eq_some_iff.mpr ⟨old, own⟩, waiting, mode⟩

end Seen

/-! ## The calls of the coordinator -/

/-- Nothing of an installed extension is overwritten or deleted. -/
def Spares (e : String) (t : Part) (event : LifeEvent) : Prop := event.op.harms e → ¬ Installed t

/-- Every run spares an installed extension and ends in `Q`. -/
abbrev Careful {α : Type} (e : String) (permitted : Permitted LifePort Exn) (c : LifeM α)
    (Q : Except Exn α → Part → Prop)
    (t : Part) : Prop :=
  Anyhow (partAnswers e) permitted (Spares e) c Q t

section Careful

variable {α β : Type} {e planId : String} {t t' : Part} {permitted : Permitted LifePort Exn} {sh : Bool} {op : LifeOp}
  {Q : Except Exn α → Part → Prop} {record : ExtensionRecord} {plan : PendingInstall} {f : op.Ans → LifeM α}
  {mode : Option PlanMode} {c : LifeM α}

section

variable (calm : op.writes e = false)

include calm

theorem careful_await {k : Except Exn op.Ans → LifeM α}
    (spares : op.harms e → ¬ Installed t) (rest : ∀ a t', Fewer t t' → Careful e permitted (k a) Q t') :
    Careful e permitted (.await sh op k) Q t :=
  .each (fun _ => spares) (.refl t) (fun _ _ seen => seen_fewer seen calm) rest

/-- A request that stands outside a `try`. -/
theorem careful_ask (spares : op.harms e → ¬ Installed t)
    (rest : ∀ x t', Fewer t t' → partAnswers e t op (.ok x) t' → Careful e permitted (f x) Q t')
    (raised : ∀ exc t', Fewer t t' → Q (.error exc) t') : Careful e permitted (life op >>= f) Q t := by
  refine .await (fun a t' seen => ⟨spares, ?_⟩) fun exc _ _ t' _ strikes =>
    ⟨spares, .done (raised exc t' (strikes.elim (.refl t) fun _ seen => seen_fewer seen calm))⟩
  cases a with
  | ok x => exact rest x t' (seen_fewer seen calm) seen
  | error exc => exact .done (raised exc t' (seen_fewer seen calm))

theorem careful_then (spares : op.harms e → ¬ Installed t)
    (rest : ∀ x t', Fewer t t' → Careful e permitted (f x) Q t') (raised : ∀ exc t', Fewer t t' → Q (.error exc) t') :
    Careful e permitted (life op >>= f) Q t :=
  careful_ask calm spares (fun x t' fewer _ => rest x t' fewer) raised

theorem careful_request (spares : op.harms e → ¬ Installed t) :
    Careful e permitted (life op) (fun _ => Fewer t) t :=
  careful_await calm spares fun _ _ fewer => .done fewer

end

theorem careful_suppress {I : Part → Prop} (h : Careful e permitted c (fun _ => I) t) :
    Careful e permitted (suppress c) (fun _ => I) t := by
  refine .attempt_bind h fun r t' inv => ?_
  cases r with
  | ok _ => exact .done inv
  | error exc => cases exc <;> exact .done inv

theorem careful_discardStaged : Careful e permitted (discardStaged staged) (fun _ => Fewer t) t := by
  refine .attempt_bind (careful_request rfl nofun) fun r t' fewer => ?_
  cases r with
  | ok _ => exact .done fewer
  | error exc =>
    show Careful e permitted (if _ then _ else _) _ _
    split_ifs <;> exact .done fewer

/-- A part that changes nothing of the extension, then the rest. -/
theorem careful_bind {f : α → LifeM β} {Q : Except Exn β → Part → Prop}
    (first : Careful e permitted c (fun _ => Fewer t) t) (rest : ∀ a t', Fewer t t' → Careful e permitted (f a) Q t')
    (raised : ∀ exc t', Fewer t t' → Q (.error exc) t') : Careful e permitted (c >>= f) Q t :=
  .bind first rest raised

/-- A save of the extension's record, or of another one. -/
theorem careful_save {k : Except Exn Bool → LifeM α} (spares : record.id = e → ¬ Installed t)
    (lost : ∀ exc t', Fewer t t' → Careful e permitted (k (.error exc)) Q t')
    (saved : ∀ a t', record.id ≠ e ∧ Fewer t t' ∨ record.id = e ∧ t' = { t with stored := some record } →
      (∀ exc, a = .error exc → ∃ faults, permitted sh faults ⟨.saveRecord record none, exc, true⟩) →
      Careful e permitted (k a) Q t') :
    Careful e permitted (.await sh (.saveRecord record none) k) Q t := by
  have harms : ∀ a, Spares e t ⟨.saveRecord record none, a⟩ :=
    fun a harms => spares (by simpa [LifeOp.harms] using harms)
  have after : ∀ {b t'}, partAnswers e t (.saveRecord record none) b t' →
      record.id ≠ e ∧ Fewer t t' ∨ record.id = e ∧ t' = { t with stored := some record } := by
    intro b t' seen
    by_cases own : record.id = e
    · exact .inr ⟨own, (seen_saveRecord seen own).2⟩
    · exact .inl ⟨own, seen_fewer seen (by simpa [LifeOp.writes] using own)⟩
  refine .await (fun a t' seen => ⟨harms a, saved a t' (after seen) fun exc raised => ?_⟩)
    fun exc applied faults t' may strikes => ⟨harms _, ?_⟩
  · obtain ⟨k, s, rfl, rfl, rfl⟩ := seen_effect seen fun _ _ => rfl
    cases raised
  · cases applied with
    | false =>
      rw [strikes_lost.mp strikes]
      exact lost exc t (.refl t)
    | true =>
      obtain ⟨b, seen⟩ := strikes_applied.mp strikes
      exact saved _ t' (after seen) fun _ same => ⟨faults, Except.error.inj same ▸ may⟩

/-- The plan may act: if it is one of the extension, a fresh install may start from what is
stored, and no plan waits any more. -/
structure Ready (e : String) (plan : PendingInstall) (t : Part) : Prop where
  guarded : Guarded t
  vacant : plan.manifest.id = e → Vacant t
  none : plan.manifest.id = e → ∀ planId plan', ¬ Waits t planId plan'

theorem Ready.fewer (ready : Ready e plan t) (fewer : Fewer t t') : Ready e plan t' where
  guarded := fewer.guarded ready.guarded
  vacant own := fewer.vacant (ready.vacant own)
  none own planId plan' waits := ready.none own planId plan' (fewer.waits planId plan' waits)

theorem Ready.spares (ready : Ready e plan t) (own : plan.manifest.id = e) : ¬ Installed t :=
  (ready.vacant own).not_installed

theorem guarded_stored (none : ∀ planId plan', ¬ Waits t planId plan') (stored : Option ExtensionRecord) :
    Guarded { t with stored := stored } where
  vacant planId plan waits := absurd waits (none planId plan)
  single planId plan _ _ waits _ := absurd waits (none planId plan)

/-- A save of a plan's record in a state that a fresh install may start from. -/
theorem Ready.saved {state : ExtensionState} (ready : Ready e plan t) (installable : state ∈ installableStates)
    (after : (plan.record state).id ≠ e ∧ Fewer t t' ∨
      (plan.record state).id = e ∧ t' = { t with stored := some (plan.record state) }) : Ready e plan t' := by
  rcases after with ⟨-, fewer⟩ | ⟨own, rfl⟩
  · exact ready.fewer fewer
  · refine ⟨guarded_stored (ready.none own) _, fun _ record stored => ?_, ready.none⟩
    cases stored
    exact installable

/-- The abort of an installation touches no installed extension. -/
theorem careful_abortInstall {installed : Option InstalledArtifact} {persist : Bool} (ready : Ready e plan t) :
    Careful e permitted (abortInstall plan installed persist) (fun _ => Guarded) t := by
  refine careful_bind ?_ (fun _ t₁ fewer => ?_) fun _ _ fewer => fewer.guarded ready.guarded
  · cases installed with
    | none => exact .done (.refl t)
    | some artifact =>
      exact careful_suppress (careful_request rfl fun own => ready.spares (of_decide_eq_true own))
  replace ready := ready.fewer fewer
  refine careful_bind (careful_suppress (careful_request rfl nofun)) (fun _ t₂ fewer => ?_) fun _ _ fewer =>
    fewer.guarded ready.guarded
  replace ready := ready.fewer fewer
  refine careful_bind (careful_discardStaged _) (fun _ t₃ fewer => ?_) fun _ _ fewer => fewer.guarded ready.guarded
  replace ready := ready.fewer fewer
  cases persist with
  | false => exact .done ready.guarded
  | true =>
    refine careful_suppress (careful_save ready.spares (fun exc t' fewer => ?_) fun a t' after _ => ?_)
    · exact .done (fewer.guarded ready.guarded)
    · exact .done (ready.saved (by decide) after).guarded

/-- The save of the installed record does not raise after it took effect. -/
def savesInstalled (fault : LifeFault) : Bool :=
  match fault.op with
  | .saveRecord record _ => record.state = .installedDisabled && fault.applied
  | _ => false

/-- The faults an installation is spared. -/
def installing : Permitted LifePort Exn := fun sh _ fault => Injected sh fault ∧ savesInstalled fault = false

theorem careful_finishInstall {installed : InstalledArtifact} (ready : Ready e plan t) :
    Careful e installing (finishInstall plan installed true)
      (either (fun _ => Guarded) fun _ => Ready e plan) t := by
  refine careful_then rfl nofun (fun _ t₁ fewer => ?_) fun _ _ fewer => ready.fewer fewer
  replace ready := ready.fewer fewer
  refine careful_bind (careful_discardStaged _) (fun _ t₂ fewer => ?_) fun _ _ fewer => ready.fewer fewer
  replace ready := ready.fewer fewer
  refine careful_save ready.spares (fun exc t' fewer => .done (ready.fewer fewer)) fun a t' after raised => ?_
  cases a with
  | error exc =>
    obtain ⟨_, -, spared⟩ := raised exc rfl
    cases spared
  | ok _ =>
    rcases after with ⟨-, fewer⟩ | ⟨own, rfl⟩
    · exact .done (fewer.guarded ready.guarded)
    · exact .done (guarded_stored (ready.none own) _)

/-- What is carried out for a plan touches no installed extension. -/
theorem careful_carryOut (ready : Ready e plan t) :
    Careful e installing (carryOut plan .install true) (fun _ => Guarded) t := by
  have unpacked : Careful e installing (unpack plan .install) (fun _ => Fewer t) t := by
    refine careful_then rfl (fun own => ready.spares (of_decide_eq_true own)) (fun _ t₁ first => ?_) fun _ _ => id
    exact careful_await rfl nofun fun _ _ fewer => .done (first.trans fewer)
  have aborted : ∀ {installed : Option InstalledArtifact} {exc : Exn} {t' : Part}, Ready e plan t' →
      Careful e installing ((abortInstall plan installed true).shield >>= fun _ => raise exc : LifeM ExtensionRecord)
        (fun _ => Guarded) t' := fun ready =>
    .bind (.shield (careful_abortInstall ready)) (fun _ _ guarded => .done guarded) fun _ _ guarded => guarded
  refine .attempt_bind unpacked fun r t₁ fewer => ?_
  replace ready := ready.fewer fewer
  cases r with
  | error exc => exact aborted ready
  | ok installed =>
    refine .attempt_bind (careful_finishInstall ready) fun r t₂ ended => ?_
    cases r with
    | ok record => exact .done ended
    | error exc => exact aborted ended

theorem careful_install (guarded : Guarded t) :
    Careful e installing (install planId confirmation) (fun _ => Guarded) t := by
  refine careful_ask rfl nofun (fun claim t₁ fewer seen => ?_) fun _ _ fewer => fewer.guarded guarded
  cases claim with
  | changed staged =>
    refine careful_bind (careful_discardStaged staged) (fun _ t₂ again => ?_) fun _ _ again =>
      (fewer.trans again).guarded guarded
    exact .done ((fewer.trans again).guarded guarded)
  | granted plan =>
    refine careful_carryOut ⟨fewer.guarded guarded, fun own => ?_, fun own planId' plan' waits => ?_⟩
    · exact fewer.vacant (guarded.vacant _ _ (seen_claimPlan seen own).1)
    · obtain ⟨waited, gone⟩ := seen_claimPlan seen own
      obtain rfl := guarded.single _ _ _ _ (fewer.waits _ _ waits) waited
      exact gone plan' waits

/-- `reject` touches no installed extension. -/
theorem careful_reject (guarded : Guarded t) : Careful e permitted (reject planId) (fun _ => Guarded) t := by
  refine careful_ask rfl nofun (fun found t₁ fewer seen => ?_) fun _ _ fewer => fewer.guarded guarded
  obtain ⟨gone, _, ⟨⟩, known⟩ := seen_popPlan seen
  cases found with
  | none => exact .done (fewer.guarded guarded)
  | some plan =>
    show Careful e permitted (if _ then _ else _) _ _
    split_ifs with consumed
    · exact .done (fewer.guarded guarded)
    · cases mode : plan.preview.mode with
      | upgrade =>
        refine careful_then rfl nofun (fun _ t₂ again => ?_) fun _ _ again => (fewer.trans again).guarded guarded
        refine careful_then rfl nofun (fun current t₃ more => ?_) fun _ _ more =>
          ((fewer.trans again).trans more).guarded guarded
        cases current <;> exact .done (((fewer.trans again).trans more).guarded guarded)
      | install =>
        have waited : plan.manifest.id = e → Waits t planId plan := fun own =>
          ⟨known plan rfl own, by simpa using consumed, mode⟩
        have ready : Ready e plan t₁ := by
          refine ⟨fewer.guarded guarded, fun own => fewer.vacant (guarded.vacant _ _ (waited own)), ?_⟩
          intro own planId' plan' waits
          obtain rfl := guarded.single _ _ _ _ (fewer.waits _ _ waits) (waited own)
          cases gone.symm.trans waits.1
        refine careful_then rfl nofun (fun _ t₂ fewer => ?_) fun _ _ fewer => fewer.guarded ready.guarded
        replace ready := ready.fewer fewer
        refine careful_save ready.spares (fun exc t' fewer => ?_) fun a t' after _ => ?_
        · exact .done (fewer.guarded ready.guarded)
        · have guarded := (ready.saved (by decide) after).guarded
          cases a <;> exact .done guarded

/-- A plan made for the extension: a fresh install only where one may start. -/
def Fitting (e : String) (plan : PendingInstall) (t : Part) : Prop :=
  plan.manifest.id = e → plan.preview.mode = .install → Vacant t

theorem planFor_install {existing : Option ExtensionRecord} {manifest : ExtensionManifest}
    {replaces : Option String} (ok : planFor mode existing manifest = .ok (.install, replaces)) :
    installable existing := by
  unfold planFor at ok
  split at ok
  · split_ifs at ok with free
    exact free
  · cases target : requireUpgradeTarget existing manifest <;> simp [target, Except.map] at ok
  · split_ifs at ok with free
    · exact free
    · cases target : requireUpgradeTarget existing manifest <;> simp [target, Except.map] at ok

theorem careful_makeInstallPreview (manifest : ExtensionManifest) (expiresAt : Int)
    (mode : PlanMode) (replaces : Option String) :
    Careful e permitted (makeInstallPreview staged manifest expiresAt mode replaces)
      (either (fun preview t' => Fewer t t' ∧ preview.mode = mode) fun _ => Fewer t) t := by
  refine careful_then rfl nofun (fun token t₁ fewer₁ => ?_) fun _ _ => id
  refine careful_then rfl nofun (fun nonce t₂ fewer₂ => ?_) fun _ _ fewer₂ => fewer₁.trans fewer₂
  replace fewer₂ := fewer₁.trans fewer₂
  refine careful_then rfl nofun (fun hash t₃ fewer₃ => ?_) fun _ _ fewer₃ => fewer₂.trans fewer₃
  exact .done ⟨fewer₂.trans fewer₃, rfl⟩

theorem careful_draft (manifest : ExtensionManifest) (planned : PlanMode × Option String) :
    Careful e permitted (draft staged manifest planned)
      (either (fun plan t' => Fewer t t' ∧ plan.manifest = manifest ∧ plan.preview.mode = planned.1) fun _ =>
        Fewer t) t := by
  refine careful_then rfl nofun (fun now t₁ first => ?_) fun _ _ => id
  refine .bind (careful_makeInstallPreview _ _ _ _ _) (fun preview t₂ made => ?_) fun _ _ fewer => first.trans fewer
  exact .done ⟨first.trans made.1, rfl, made.2⟩

/-- The body of `_prepare` touches no installed extension. -/
theorem careful_inspect (mode : Option PlanMode) : Careful e permitted (inspect staged mode)
      (either (fun plan t' => Fewer t t' ∧ Fitting e plan t') fun _ => Fewer t) t := by
  refine careful_then rfl nofun (fun manifest t₁ fewer₁ => ?_) fun _ _ => id
  refine careful_ask rfl nofun (fun existing t₂ fewer₂ seen => ?_) fun _ _ => fewer₁.trans
  replace fewer₂ := fewer₁.trans fewer₂
  have read : manifest.id = e → existing = t₂.stored := by
    rintro rfl
    obtain ⟨same, rfl, -⟩ := seen_getRecord seen
    exact Except.ok.inj same
  show Careful e permitted (Prog.ofExcept (planFor mode existing manifest) >>= draft staged manifest) _ _
  cases decided : planFor mode existing manifest with
  | error exc => exact .done fewer₂
  | ok planned =>
    refine .mono (fun r t₃ ended => ?_) (careful_draft staged manifest planned)
    cases r with
    | error exc => exact fewer₂.trans ended
    | ok plan =>
      obtain ⟨fewer₃, named, moded⟩ := ended
      refine ⟨fewer₂.trans fewer₃, fun own mode => fewer₃.vacant fun record stored => ?_⟩
      obtain ⟨mode', replaces⟩ := planned
      obtain rfl : mode' = .install := moded.symm.trans mode
      have free := planFor_install decided
      rw [read (named ▸ own), stored] at free
      simpa [installable] using free

/-- The plans of the extension that are dropped are only discarded. -/
theorem careful_dropEach (planIds : List String) : Careful e permitted (dropEach planIds)
      (either (fun _ t' => Fewer t t' ∧ ∀ planId ∈ planIds, ∀ plan, ¬ Waits t' planId plan) fun _ => Fewer t) t := by
  induction planIds generalizing t with
  | nil => exact .done ⟨.refl t, nofun⟩
  | cons planId planIds ih =>
    refine careful_ask rfl nofun (fun found t₁ fewer seen => ?_) fun _ _ => id
    obtain ⟨gone, -⟩ := seen_popPlan seen
    refine careful_bind ?_ (fun _ t₂ again => ?_) fun _ _ again => fewer.trans again
    · split
      · split_ifs
        · exact .done (.refl _)
        · exact careful_discardStaged _
      · exact .done (.refl _)
    refine .mono (fun r t₃ ended => ?_) ih
    cases r with
    | error exc => exact (fewer.trans again).trans ended
    | ok _ =>
      obtain ⟨more, none⟩ := ended
      refine ⟨(fewer.trans again).trans more, forall_mem_cons.mpr ⟨fun plan waits => ?_, none⟩⟩
      have there := (again.waits _ _ (more.waits _ _ waits)).1
      cases gone.symm.trans there

theorem careful_dropPending (id : String) : Careful e permitted (dropPending id)
      (either (fun _ t' => Fewer t t' ∧ (id = e → ∀ planId plan, ¬ Waits t' planId plan)) fun _ => Fewer t) t := by
  refine careful_ask rfl nofun (fun planIds t₁ fewer seen => ?_) fun _ _ fewer => fewer
  refine .mono (fun r t₂ ended => ?_) (careful_dropEach planIds)
  cases r with
  | error exc => exact fewer.trans ended
  | ok _ =>
    obtain ⟨again, none⟩ := ended
    refine ⟨fewer.trans again, ?_⟩
    rintro rfl planId plan waits
    obtain ⟨rfl, ids, listed, every⟩ := seen_stalePlans seen
    cases listed
    exact none planId (every planId plan (again.waits _ _ waits).1) plan waits

/-- The end of `_prepare`: the plan is kept with the record it stages. -/
theorem careful_registerPrepared (guarded : Guarded t) (fitting : Fitting e plan t) :
    Careful e permitted (registerPrepared plan) (fun _ => Guarded) t := by
  refine .bind (careful_dropPending _) (fun _ t₁ dropped => ?_) fun _ _ fewer => fewer.guarded guarded
  obtain ⟨fewer, none⟩ := dropped
  have fitting₁ : Fitting e plan t₁ := fun own mode => fewer.vacant (fitting own mode)
  have added : ∀ {b : Except Exn Unit} {t₂ : Part}, partAnswers e t₁ (.registerPlan plan) b t₂ →
      Guarded t₂ ∧ Fitting e plan t₂ := by
    intro b t₂ seen
    obtain ⟨stored, waits⟩ := seen_registerPlan seen
    have vacant₂ : Vacant t₁ → Vacant t₂ := fun vacant record found => vacant record (stored ▸ found)
    refine ⟨?_, fun own mode => vacant₂ (fitting₁ own mode)⟩
    by_cases own : plan.manifest.id = e
    · refine ⟨fun planId plan' there => ?_, fun planId plan' other plan'' there there' => ?_⟩
      · rcases waits planId plan' there with ⟨-, rfl⟩ | old
        · exact vacant₂ (fitting₁ own there.2.2)
        · exact absurd old (none own planId plan')
      · rcases waits planId plan' there with ⟨rfl, -⟩ | old
        · rcases waits other plan'' there' with ⟨same, -⟩ | old
          · exact same.symm
          · exact absurd old (none own other plan'')
        · exact absurd old (none own planId plan')
    · exact (seen_fewer seen (decide_eq_false own)).guarded (fewer.guarded guarded)
  refine .await (fun a t₂ seen => ⟨nofun, ?_⟩) fun exc applied _ t₂ _ strikes => ⟨nofun, ?_⟩
  · obtain ⟨guarded₂, fitting₂⟩ := added seen
    cases a with
    | error exc => exact .done guarded₂
    | ok _ =>
      split_ifs with mode
      · have spares : (plan.record .staged).id = e → ¬ Installed t₂ := fun own => (fitting₂ own mode).not_installed
        refine careful_save spares (fun exc t₃ fewer => .done (fewer.guarded guarded₂)) fun a t₃ after _ => ?_
        have guarded₃ : Guarded t₃ := by
          rcases after with ⟨-, fewer⟩ | ⟨-, rfl⟩
          · exact fewer.guarded guarded₂
          · refine ⟨fun _ _ _ record stored => ?_, guarded₂.single⟩
            cases stored
            exact (by decide : ExtensionState.staged ∈ installableStates)
        cases a <;> exact .done guarded₃
      · exact .done guarded₂
  · exact .done (strikes.elim (fewer.guarded guarded) fun _ seen => (added seen).1)

/-- `prepare` touches no installed extension. -/
theorem careful_prepare {source : String} (guarded : Guarded t) :
    Careful e permitted (prepare source mode) (fun _ => Guarded) t := by
  refine careful_then rfl nofun (fun staged t₁ fewer => ?_) fun _ _ fewer => fewer.guarded guarded
  replace guarded := fewer.guarded guarded
  refine careful_then rfl nofun (fun computed t₂ fewer => ?_) fun _ _ fewer => fewer.guarded guarded
  replace guarded := fewer.guarded guarded
  split_ifs
  · refine careful_then rfl nofun (fun _ t₃ fewer => ?_) fun _ _ fewer => fewer.guarded guarded
    exact .done (fewer.guarded guarded)
  · refine .attempt_bind (careful_inspect staged mode) fun r t₃ ended => ?_
    cases r with
    | ok plan => exact careful_registerPrepared (ended.1.guarded guarded) ended.2
    | error exc =>
      have guarded₃ : Guarded t₃ := Fewer.guarded ended guarded
      have discarded : Careful e permitted (discardAndRaise staged exc : LifeM InstallationPreview)
        (fun _ => Guarded) t₃ :=
        careful_then rfl nofun (fun _ t₄ fewer => .done (fewer.guarded guarded₃)) fun _ _ fewer =>
          fewer.guarded guarded₃
      cases exc <;> first | exact .done guarded₃ | exact discarded

end Careful

end PersonalAssistant.Lifecycle
