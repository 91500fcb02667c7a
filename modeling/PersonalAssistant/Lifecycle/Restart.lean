import PersonalAssistant.Lifecycle.Coherence
import PersonalAssistant.Lifecycle.Fresh

/-!
# Restarts

A crash leaves the store as it is at that moment; a restart begins with an empty registry and
recovers every stored record. The recovery goes through, and leaves the books in order, where
no two records stored as enabled declare one capability. Calls that run one after the other
see to that, at every moment at which the process may crash.
-/

namespace PersonalAssistant.Lifecycle

open Coro Coro.Prog List Keyed

/-! ## The calls of the coordinator -/

/-- The requests that store a record as enabled or change the registry. -/
def LifeOp.opens : LifeOp → Bool
  | .saveRecord record _ => record.state = .enabled
  | .registryEnable _ | .registryDisable _ | .registryReplaceAll _ => true
  | _ => false

/-- The coroutine enables nothing and leaves the registry alone. -/
abbrev Quiet {α : Type} (c : LifeM α) : Prop := c.Avoids fun op : LifeOp => op.opens = true

section Quiet

variable {α : Type} {b : Books} {shielded : Bool} {plan : PendingInstall} {op : LifeOp}

theorem holds_quiet {c : LifeM α} (h : Quiet c) (coherent : b.Coherent) :
    Holds shielded c (fun _ b' => b'.Coherent) b := by
  refine holds_avoids h (fun coherent => coherent.consistent) (fun op a here steady answered coherent => ?_) coherent
  cases op with
  | saveRecord record expected =>
    have state : record.state ≠ .enabled := by simpa [LifeOp.opens] using here
    rcases book_saveAny answered with rfl | rfl
    · exact coherent
    · exact coherent.save_lower state
  | registryEnable record => exact absurd rfl here
  | registryDisable id => exact absurd rfl here
  | registryReplaceAll records => exact absurd rfl here
  | _ => exact absurd rfl steady

theorem quiet_calm (op : LifeOp) (calm : op.calm) : op.opens = false := by
  cases op <;> first | rfl | cases calm

theorem quiet_inspect (staged : StagedArtifact) (mode : Option PlanMode) : Quiet (inspect staged mode) := by
  refine shuns_then rfl fun manifest => shuns_then rfl fun existing => .bind (.done _) fun planned => ?_
  refine shuns_then rfl fun now => .bind ?_ fun preview => .done _
  exact shuns_then rfl fun _ => shuns_then rfl fun _ => shuns_then rfl fun _ => .done _

theorem quiet_dropEach (planIds : List String) : Quiet (dropEach planIds) := by
  induction planIds with
  | nil => exact .done _
  | cons planId planIds ih =>
    refine shuns_then rfl fun found => .bind ?_ fun _ => ih
    split
    · exact .ite (.done _) (shuns_discardStaged quiet_calm _)
    · exact .done _

theorem quiet_registerPrepared : Quiet (registerPrepared plan) := by
  refine .bind (shuns_then rfl quiet_dropEach) fun _ => shuns_then rfl fun _ => ?_
  exact .ite (shuns_then rfl fun _ => .done _) (.done _)

theorem quiet_prepare (source : String) (mode : Option PlanMode) : Quiet (prepare source mode) := by
  refine shuns_then rfl fun staged => shuns_then rfl fun computed => .ite ?_ ?_
  · exact shuns_then rfl fun _ => .done _
  · refine .bind (.attempt (quiet_inspect staged mode)) fun r => ?_
    split
    · exact quiet_registerPrepared
    · rename_i exc
      have discarded : ∀ exc, Quiet (discardAndRaise staged exc : LifeM InstallationPreview) := fun exc =>
        shuns_then rfl fun _ => .done _
      cases exc <;> first | exact .done _ | exact discarded _

theorem quiet_reject (planId : String) : Quiet (reject planId) := by
  refine shuns_then rfl fun found => ?_
  split
  · exact .done _
  · refine .ite (.done _) (shuns_then rfl fun _ => ?_)
    split
    · refine shuns_then rfl fun current => ?_
      split <;> exact .done _
    · exact shuns_then rfl fun _ => .done _

theorem quiet_executeInstall (planId : String) (confirmation : Option InstallationConfirmation) (mode : PlanMode)
    (persist : Bool) : Quiet (executeInstall planId confirmation mode persist) :=
  shuns_executeInstall quiet_calm (fun _ _ state => decide_eq_false state) planId confirmation mode

end Quiet

/-! ## Calls one after the other -/

/-- What the host calls: a call on an extension, or a quarantine after a failure of its
worker. -/
inductive HostCall where
  | on (extensionId : String) (call : PlanCall)
  | quarantine (extensionId version : String) (exc : Exn)

/-- What a call awaits. -/
def HostCall.program : HostCall → LifeM Unit
  | .on extensionId call => call.program extensionId
  | .quarantine extensionId version exc => Lifecycle.quarantine extensionId version exc

section Calls

variable {α : Type} {b : Books} {shielded : Bool}

theorem holds_discard {c : LifeM α} {I : Books → Prop} (h : Holds shielded c (fun _ => I) b) :
    Holds shielded (do let _ ← c) (fun _ => I) b :=
  .bind h (fun _ _ inv => .done inv) fun _ _ inv => inv

theorem holds_operation (e : String) (op : Operation) (coherent : b.Coherent) :
    Holds shielded (op.program e) (fun _ b' => b'.Coherent) b := by
  cases op with
  | enable => exact holds_discard (holds_enable coherent)
  | recover => exact holds_discard (holds_enable coherent)
  | disable deadline =>
    refine holds_discard (.mono (fun r b' rests => ?_) (holds_disable coherent))
    cases r with
    | ok _ => exact rests.1.coherent
    | error _ => exact rests
  | uninstall => exact holds_discard (holds_uninstall coherent)
  | preparePurge => exact holds_discard (holds_preparePurge coherent)
  | purge confirmation => exact holds_discard (holds_purge coherent)
  | upgrade candidate => exact holds_discard (holds_upgrade coherent)
  | rollback => exact holds_discard (holds_rollback coherent)

/-- **A call keeps the books coherent**, and consistent at every request. -/
theorem holds_call (call : HostCall) (coherent : b.Coherent) :
    Holds shielded call.program (fun _ b' => b'.Coherent) b := by
  cases call with
  | on e call =>
    cases call with
    | prepare source mode => exact holds_discard (holds_quiet (quiet_prepare source mode) coherent)
    | reject planId => exact holds_discard (holds_quiet (quiet_reject planId) coherent)
    | install planId confirmation =>
      exact holds_discard (holds_quiet (quiet_executeInstall planId confirmation .install true) coherent)
    | installCandidate planId confirmation =>
      exact holds_discard (holds_quiet (quiet_executeInstall planId confirmation .upgrade false) coherent)
    | operation op => exact holds_operation e op coherent
  | quarantine e version exc => exact holds_quarantine coherent

end Calls

/-! ## The recovery -/

/-- A state that a restart leaves alone. -/
def resolved (state : ExtensionState) : Bool := (transientMapping state).isNone && state ≠ .uninstalling

/-- What is stored as enabled was so at the restart, in the same version. -/
def Books.Below (b₀ b : Books) : Prop :=
  ∀ id record, b.Enabled id record → ∃ record₀, b₀.Enabled id record₀ ∧ record₀.manifest = record.manifest

section Recovery

variable {α : Type} {b₀ b b' : Books} {Q : Except Exn α → Books → Prop}
  {record : ExtensionRecord} {exc : Exn}

theorem Books.Below.consistent (below : b₀.Below b) (consistent : b₀.Consistent) : b.Consistent where
  own id record enabled := by
    obtain ⟨record₀, enabled₀, same⟩ := below id record enabled
    rw [← Books.capabilities_congr same]
    exact consistent.own id record₀ enabled₀
  apart id id' record record' ne enabled enabled' := by
    obtain ⟨record₀, enabled₀, same⟩ := below id record enabled
    obtain ⟨record₀', enabled₀', same'⟩ := below id' record' enabled'
    rw [← Books.capabilities_congr same, ← Books.capabilities_congr same']
    exact consistent.apart id id' record₀ record₀' ne enabled₀ enabled₀'

/-- The record may be stored during the recovery. -/
def Books.Grants (b₀ : Books) (record : ExtensionRecord) : Prop :=
  record.state = .enabled → ∃ record₀, b₀.Enabled record.id record₀ ∧ record₀.manifest = record.manifest

theorem Books.Below.save (below : b₀.Below b) (grants : b₀.Grants record) : b₀.Below (b.save record) := by
  intro id record' enabled
  by_cases own : id = record.id
  · subst own
    obtain ⟨rfl, state⟩ := Books.enabled_save_self.mp enabled
    exact grants state
  · exact below id record' ((Books.enabled_save_of_ne own).mp enabled)

/-- The books stay, and nothing was cancelled. -/
abbrev Stays (b : Books) (r : Except Exn α) (b' : Books) : Prop := b' = b ∧ ∀ exc, r = .error exc → exc ≠ .cancelled

theorem stays_raise (exc : Exn) (calm : exc ≠ .cancelled) : Holds true (raise exc : LifeM α) (Stays b) b :=
  .done ⟨rfl, fun _ same => Except.error.inj same ▸ calm⟩

theorem holds_onException {handler : Exn → LifeM ExtensionRecord} {Q : Except Exn ExtensionRecord → Books → Prop}
    (calm : exc ≠ .cancelled) (h : Holds true (handler exc) Q b) : Holds true (onException handler exc) Q b := by
  cases exc <;> first | exact absurd rfl calm | exact h

/-- The record of the extension has become another one of the same version, and nothing else
has changed. -/
structure Becomes (b b' : Books) (record recovered : ExtensionRecord) : Prop where
  manifest : recovered.manifest = record.manifest
  resolved : resolved recovered.state
  stored : b'.store.get record.id = some recovered
  others : ∀ id, id ≠ record.id → b'.store.get id = b.store.get id
  registry : b'.registry = b.registry

/-- What the recovery of one record ends with. -/
abbrev ComesBack (b₀ b : Books) (record : ExtensionRecord) : Except Exn ExtensionRecord → Books → Prop :=
  either (fun recovered b' => Becomes b b' record recovered ∧ b₀.Below b') fun exc b' => exc ≠ .cancelled ∧ b' = b

theorem becomes_save {recovered : ExtensionRecord} (manifest : recovered.manifest = record.manifest)
    (final : resolved recovered.state) (others : ∀ id, id ≠ record.id → b'.store.get id = b.store.get id)
    (registry : b'.registry = b.registry) : Becomes b (b'.save recovered) record recovered := by
  have own : recovered.id = record.id := congrArg ExtensionManifest.id manifest
  refine ⟨manifest, final, ?_, fun id ne => ?_, registry⟩
  · rw [← own]
    exact get_put_self ..
  · rw [← others id ne]
    exact get_put_of_ne (own ▸ ne)

section Consistent

variable (consistent : b₀.Consistent)

include consistent

/-- The end of a recovery that failed: the record is stored as quarantined. -/
theorem holds_quarantineRecovered (below : b₀.Below b')
    (others : ∀ id, id ≠ record.id → b'.store.get id = b.store.get id) (registry : b'.registry = b.registry) :
    Holds true (quarantineRecovered record (record.as .starting) exc) (ComesBack b₀ b record) b' := by
  refine holds_suppress rfl (below.consistent consistent) (holds_save (below.consistent consistent) ?_)
  have below' : b₀.Below (b'.save (record.as .quarantined)) := below.save nofun
  refine holds_suppress rfl (below'.consistent consistent) (.done ⟨?_, below'⟩)
  exact becomes_save rfl rfl others registry

/-- An enabled record is started again, or quarantined. -/
theorem holds_recoverEnabled (below : b₀.Below b)
    (origin : b₀.Grants (record.as .enabled)) : Holds true (recoverEnabled record) (ComesBack b₀ b record) b := by
  unfold recoverEnabled
  split_ifs
  · refine holds_save (below.consistent consistent) ?_
    have below' : b₀.Below (b.save (record.as .quarantined)) := below.save nofun
    refine holds_suppress rfl (below'.consistent consistent) (.done ⟨?_, below'⟩)
    exact becomes_save rfl rfl (fun _ _ => rfl) rfl
  · refine holds_save (below.consistent consistent) ?_
    have below₁ : b₀.Below (b.save (record.as .starting)) := below.save nofun
    have others : ∀ id, id ≠ record.id → (b.save (record.as .starting)).store.get id = b.store.get id := fun id ne =>
      get_put_of_ne ne
    refine .attempt_bind (M := Stays (b.save (record.as .starting))) ?_ fun r b' ended => ?_
    · refine holds_outside rfl (below₁.consistent consistent) (fun _ => ?_) stays_raise
      refine holds_outside rfl (below₁.consistent consistent) (fun healthy => ?_) stays_raise
      cases healthy with
      | true => exact .done ⟨rfl, nofun⟩
      | false => exact stays_raise _ nofun
    obtain ⟨rfl, calm⟩ := ended
    cases r with
    | error exc => exact holds_onException (calm exc rfl) (holds_quarantineRecovered consistent below₁ others rfl)
    | ok _ =>
      refine holds_save (below₁.consistent consistent) (.done ⟨?_, below₁.save origin⟩)
      exact becomes_save rfl rfl others rfl

omit consistent in
theorem holds_discardStagedRecord (consistent : b.Consistent) :
    Holds true (discardStagedRecord record) (Stays b) b := by
  unfold discardStagedRecord
  split_ifs
  · exact .done ⟨rfl, nofun⟩
  · refine holds_outside rfl consistent (fun found => ?_) stays_raise
    cases found with
    | false => exact .done ⟨rfl, nofun⟩
    | true =>
      refine holds_outside rfl consistent (fun _ => .done ⟨rfl, nofun⟩) fun exc calm => ?_
      show Holds true (if _ then _ else _) _ _
      split_ifs
      · exact .done ⟨rfl, nofun⟩
      · exact stays_raise exc calm

/-- One stored record is brought to rest, by its state. -/
theorem holds_recoverRecord (below : b₀.Below b) (stored : b.store.get record.id = some record)
    (origin : b₀.Grants record) : Holds true (recoverRecord record) (ComesBack b₀ b record) b := by
  have consistent' := below.consistent consistent
  unfold recoverRecord
  split
  · rename_i state
    exact holds_recoverEnabled consistent below fun _ => origin state
  · refine .bind (M := Stays b) ?_ (fun installed b' same => ?_) fun exc b' ended => ⟨ended.2 exc rfl, ended.1⟩
    · split
      · exact holds_outside rfl consistent' (fun _ => .done ⟨rfl, nofun⟩) stays_raise
      · exact .done ⟨rfl, nofun⟩
    obtain ⟨rfl, -⟩ := same
    refine holds_save consistent' (.done ?_)
    cases installed <;> exact ⟨becomes_save rfl rfl (fun _ _ => rfl) rfl, below.save nofun⟩
  · rename_i started uninstalling
    cases mapping : transientMapping record.state with
    | none =>
      have final : resolved record.state := by
        simpa [resolved, mapping] using uninstalling
      exact .done ⟨⟨rfl, final, stored, fun _ _ => rfl, rfl⟩, below⟩
    | some mapped =>
      have final : resolved mapped ∧ mapped ≠ .enabled := by
        cases state : record.state <;> simp only [state, transientMapping] at mapping <;> cases mapping <;> exact
          ⟨rfl, nofun⟩
      refine .bind (M := Stays b) ?_ (fun _ b' same => ?_) fun exc b' ended => ⟨ended.2 exc rfl, ended.1⟩
      · split_ifs
        · exact holds_discardStagedRecord consistent'
        · exact .done ⟨rfl, nofun⟩
      obtain ⟨rfl, -⟩ := same
      refine holds_save consistent' (.done ⟨becomes_save rfl final.1 (fun _ _ => rfl) rfl, below.save ?_⟩)
      exact fun state => absurd state final.2

/-- **One record is recovered**, and the recovery does not fail. -/
theorem holds_recoverOne (below : b₀.Below b) (stored : b.store.get record.id = some record)
    (origin : b₀.Grants record) : Holds true (recoverOne record)
      (either (fun recovered b' => Becomes b b' record recovered ∧ b₀.Below b') fun _ _ => False) b := by
  refine .attempt_bind (holds_recoverRecord consistent below stored origin) fun r b' ended => ?_
  cases r with
  | ok recovered => exact .done ended
  | error exc =>
    obtain ⟨calm, rfl⟩ := ended
    have consistent' := below.consistent consistent
    refine holds_onException calm (holds_suppress rfl consistent' (holds_save consistent' ?_))
    have below' : b₀.Below (b'.save (record.as .quarantined)) := below.save nofun
    refine holds_suppress rfl (below'.consistent consistent) (.done ⟨?_, below'⟩)
    exact becomes_save rfl rfl (fun _ _ => rfl) rfl

/-- What the loop of the recovery leaves of the listed records, and the records it ends with. -/
structure Recovered (b b' : Books) (records enabled : List ExtensionRecord) : Prop where
  others : ∀ id, id ∉ records.map ExtensionRecord.id → b'.store.get id = b.store.get id
  each : ∀ record ∈ records, ∃ recovered, b'.store.get record.id = some recovered ∧ resolved recovered.state ∧
    (recovered.state = .enabled → recovered ∈ enabled)
  back : ∀ record ∈ enabled, b'.Enabled record.id record
  ids : (enabled.map ExtensionRecord.id).Sublist (records.map ExtensionRecord.id)
  registry : b'.registry = b.registry

/-- The loop over the stored records: each is brought to rest, and the others stay as they are. -/
theorem holds_recoverEach (records : List ExtensionRecord) (below : b₀.Below b)
    (unique : (records.map ExtensionRecord.id).Nodup) (stored : ∀ record ∈ records, b.store.get record.id = some record)
    (origin : ∀ record ∈ records, record.state = .enabled → b₀.Enabled record.id record) :
    Holds true (recoverEach records)
      (either (fun enabled b' => Recovered b b' records enabled ∧ b₀.Below b') fun _ _ => False) b := by
  induction records generalizing b with
  | nil => exact .done ⟨⟨fun _ _ => rfl, nofun, nofun, .slnil, rfl⟩, below⟩
  | cons record records ih =>
    obtain ⟨fresh, unique⟩ := nodup_cons.mp unique
    obtain ⟨first, rest⟩ := forall_mem_cons.mp stored
    have apart : ∀ other ∈ records, other.id ≠ record.id := fun other mem same =>
      fresh (same ▸ mem_map_of_mem mem)
    refine .bind (holds_recoverOne consistent below first fun state => ⟨record, origin record mem_cons_self state, rfl⟩)
      (fun recovered b₁ came => ?_) fun _ _ => False.elim
    obtain ⟨becomes, below₁⟩ := came
    have rest₁ : ∀ other ∈ records, b₁.store.get other.id = some other := fun other mem =>
      (becomes.others other.id (apart other mem)).trans (rest other mem)
    refine .bind (ih below₁ unique rest₁ fun other mem => origin other (mem_cons_of_mem _ mem))
      (fun enabled b₂ came => ?_) fun _ _ => False.elim
    obtain ⟨loop, below₂⟩ := came
    have own : recovered.id = record.id := congrArg ExtensionManifest.id becomes.manifest
    have still : b₂.store.get record.id = some recovered := (loop.others record.id fresh).trans becomes.stored
    refine .done ⟨⟨fun id absent => ?_, ?_, ?_, ?_, loop.registry.trans becomes.registry⟩, below₂⟩
    · rw [map_cons, mem_cons, not_or] at absent
      exact (loop.others id absent.2).trans (becomes.others id absent.1)
    · refine forall_mem_cons.mpr ⟨⟨recovered, still, becomes.resolved, fun state => ?_⟩, fun other mem => ?_⟩
      · rw [if_pos state]
        exact mem_cons_self
      · obtain ⟨recovered', stored', final, listed⟩ := loop.each other mem
        refine ⟨recovered', stored', final, fun state => ?_⟩
        split_ifs
        · exact mem_cons_of_mem _ (listed state)
        · exact listed state
    · split_ifs with state
      · exact forall_mem_cons.mpr ⟨⟨own ▸ still, state⟩, loop.back⟩
      · exact loop.back
    · split_ifs
      · rw [map_cons, map_cons, own]
        exact loop.ids.cons_cons _
      · exact loop.ids.cons _

end Consistent

/-- Enabled records that are apart can be published together. -/
theorem build_of_enabled {enabled : List ExtensionRecord} (consistent : b.Consistent)
    (back : ∀ record ∈ enabled, b.Enabled record.id record) (ids : (enabled.map ExtensionRecord.id).Nodup) :
    ∃ capabilities, build enabled = .ok capabilities := by
  refine build_ok_iff_apart.mpr ⟨ids, fun record mem => consistent.own _ _ (back record mem), ?_⟩
  refine List.Pairwise.imp_of_mem (fun {x y} hx hy ne => ?_) (pairwise_map.mp ids)
  exact consistent.apart x.id y.id x y ne (back x hx) (back y hy)

/-- The recovery is over: the registry publishes exactly what is stored as enabled, and no
record is left on its way. -/
structure InOrder (b : Books) : Prop where
  resolved : ∀ id record, b.store.get id = some record → resolved record.state
  exact : ∀ id record, b.registry.extensions.get id = some record ↔ b.Enabled id record

theorem InOrder.coherent (order : InOrder b) : b.Coherent :=
  fun id record enabled => ⟨record, (order.exact id record).mpr enabled, rfl⟩

/-- The rest of `recover` ends, and leaves the books in order. -/
theorem holds_recoverRest (consistent : b.Consistent) : Holds true (do
      let records : List ExtensionRecord ← life .allRecords
      let enabled ← recoverEach records
      life (.registryReplaceAll enabled)) (fun r b' => r = .ok () ∧ InOrder b') b := by
  refine holds_inside consistent rfl fun a b' answered => ?_
  obtain ⟨rfl, records, rfl, perm⟩ := book_all answered
  have keys : b'.store.values.map ExtensionRecord.id = b'.store.items.map Prod.fst := by
    rw [values, map_map]
    exact map_congr_left fun item mem => b'.store.keyed item mem
  have unique : (records.map ExtensionRecord.id).Nodup := by
    rw [(perm.map _).nodup_iff, keys]
    exact b'.store.unique
  have stored : ∀ record ∈ records, b'.store.get record.id = some record := fun record mem =>
    get_of_mem_values (perm.mem_iff.mp mem)
  have origin : ∀ record ∈ records, record.state = .enabled → b'.Enabled record.id record := fun record mem state =>
    ⟨stored record mem, state⟩
  show Holds true (recoverEach records >>= fun enabled => life (.registryReplaceAll enabled)) _ _
  refine .bind (holds_recoverEach consistent records
    (fun _ record enabled => ⟨record, enabled, rfl⟩) unique stored origin)
    (fun enabled b₁ came => ?_) fun _ _ => False.elim
  obtain ⟨loop, below⟩ := came
  have consistent₁ := below.consistent consistent
  have listed : ∀ id record, b₁.store.get id = some record → id ∈ records.map ExtensionRecord.id := by
    intro id record found
    by_contra absent
    rw [loop.others id absent] at found
    have there : record ∈ records := perm.mem_iff.mpr (mem_values_of_get found)
    exact absent (key_of_get found ▸ mem_map_of_mem there)
  have published : ∃ next, b₁.registry.replaceAll enabled = .ok next :=
    Registry.replaceAll_ok_iff.mpr ⟨fun record mem => (loop.back record mem).2,
      build_of_enabled consistent₁ loop.back (unique.sublist loop.ids)⟩
  refine holds_inside consistent₁ rfl fun a b₂ answered => ?_
  rcases book_replaceAll answered with ⟨next, replaced, rfl, rfl⟩ | ⟨exc, failed, -, -⟩
  · refine .done ⟨rfl, fun id record found => ?_, fun id record => ⟨fun found => ?_, fun enabled' => ?_⟩⟩
    · obtain ⟨old, mem, rfl⟩ := mem_map.mp (listed id record found)
      obtain ⟨recovered, there, final, -⟩ := loop.each old mem
      cases there.symm.trans found
      exact final
    · have mem : record ∈ enabled := (Registry.replaceAll_eq_ok replaced).2 ▸ mem_values_of_get found
      exact key_of_get found ▸ loop.back record mem
    · obtain ⟨old, mem, rfl⟩ := mem_map.mp (listed id record enabled'.1)
      obtain ⟨recovered, there, -, shown⟩ := loop.each old mem
      cases there.symm.trans enabled'.1
      have value : record ∈ next.extensions.values := (Registry.replaceAll_eq_ok replaced).2.symm ▸ shown enabled'.2
      rw [← key_of_get enabled'.1]
      exact get_of_mem_values value
  · obtain ⟨next, ok⟩ := published
    cases failed.symm.trans ok

end Recovery

/-! ## Crashes and restarts -/

/-- A restart keeps the store, and nothing else. -/
def restarted (s : System) : System := ⟨s.store, .empty, [], []⟩

/-- The faults of a restart: a request to the outside may fail, except the one to the store of
operations with which it begins. -/
def boot : Permitted LifePort Exn :=
  fun sh faults fault => outage true sh faults fault ∧ ∀ code, fault.op ≠ .interruptRunning code

theorem recoverAll_inOrder {b : Books} (consistent : b.Consistent) :
    Anyhow bookAnswers boot (fun b _ => b.Consistent) recoverAll (fun r b' => r = .ok () ∧ InOrder b') b := by
  refine .await (fun a b' seen => ⟨consistent, ?_⟩) fun exc _ _ _ may _ => absurd rfl (may.2 _)
  obtain rfl := book_steady seen rfl
  obtain ⟨s, s', -, -, reliable⟩ := seen
  obtain ⟨x, rfl⟩ := reliable.answered rfl
  exact .fewer (fun _ _ _ may => may.1) (holds_recoverRest consistent)

/-- Nothing but the coroutines changes the system. -/
def Still (_ _ : System × List LifeFault) : Prop := False

/-- The moments of a host whose calls run one after the other: before the first start, in the
middle of a recovery, and in the middle of the calls after one. Each of them may be the last
before a crash, and is then what the next restart finds. -/
inductive Reached : System → Prop where
  | first : Reached emptySystem
  | recovering {s s' : System} {threads : Unit → LifeM Unit} {tr : List (Unit × LifeEvent)} {faults : List LifeFault} :
      Reached s →
      Pool (fun _ => struck answers boot) Still (fun _ => recoverAll) (restarted s, []) threads (s', faults) tr →
        Reached s'
  | serving {ι : Type} [DecidableEq ι] {s s₁ s' : System} {tr₁ : List LifeEvent} {r : Except Exn Unit}
      {faults₁ faults : List LifeFault} (calls : ι → HostCall) {threads : ι → LifeM Unit} {tr : List (ι × LifeEvent)} :
      Reached s → Coro.Alone (struck answers boot) Still recoverAll (restarted s, []) tr₁ r (s₁, faults₁) →
      Serial (fun _ => struck answers (outage false)) Still (fun i => (calls i).program) (s₁, []) threads
        (s', faults) tr →
      Reached s'

section Reached

variable {s s' : System}

/-- The books with the faults so far. -/
def booksWith (st : System × List LifeFault) : Books × List LifeFault := (books st.1, st.2)

theorem bookViews {ι : Type} (permitted : Permitted LifePort Exn) :
    Views (fun _ : ι => struck answers permitted) Still booksWith fun _ => struck bookAnswers permitted where
  step _ _ _ _ _ _ h := struck_seen h
  env _ _ moved := moved.elim

/-- Where a coroutine keeps the books consistent at its requests and at its end, they are
consistent now. -/
theorem consistent_of_wp {permitted : Permitted LifePort Exn} {c : LifeM Unit} (st : System × List LifeFault)
    (goal : wp (struck bookAnswers permitted) (fun st _ => st.1.Consistent) c (fun _ st => st.1.Consistent)
      (booksWith st)) :
    (books st.1).Consistent := by
  cases c with
  | done r => exact (wp_done ..).mp goal
  | await sh op k =>
    -- some answer to the request is possible
    have step : struck bookAnswers permitted sh (booksWith st) op (plansAnswer "" st op).1
      (booksWith (plansAnswer "" st op).2) :=
      struck_seen (plansAnswer_struck "" permitted sh st op)
    exact ((wp_await ..).mp goal _ _ step).1

theorem recovery_inOrder {r : Except Exn Unit} {tr : List LifeEvent} {faults : List LifeFault}
    (consistent : (books s).Consistent)
    (run : Coro.Alone (struck answers boot) Still recoverAll (restarted s, []) tr r (s', faults)) :
    r = .ok () ∧ InOrder (books s') := by
  have fresh : (books (restarted s)).Consistent := ⟨consistent.own, consistent.apart⟩
  exact run.post (bookViews boot) (recoverAll_inOrder fresh [])

theorem InOrder.consistent {b : Books} (order : InOrder b) : b.Consistent := order.coherent.consistent

/-- **At every moment the enabled records are apart.** -/
theorem Reached.consistent (reached : Reached s) : (books s).Consistent := by
  induction reached with
  | first => exact ⟨fun _ _ enabled => (by cases enabled.1), fun _ _ _ _ _ enabled => (by cases enabled.1)⟩
  | @recovering s s' threads tr faults _ run consistent =>
    have fresh : (books (restarted s)).Consistent := ⟨consistent.own, consistent.apart⟩
    refine consistent_of_wp (s', faults) (Views.pool (bookViews boot) run ?_)
    exact wp_mono (fun _ _ ended => ended.2.consistent) (recoverAll_inOrder fresh [])
  | @serving ι _ s s₁ s' tr₁ r faults₁ faults calls threads tr _ recovery run consistent =>
    have start : (books s₁).Coherent := (recovery_inOrder consistent recovery).2.coherent
    rcases run.stands (bookViews (outage false)) (I := fun st => st.1.Coherent)
      (fun i st coherent => holds_call (calls i) coherent st.2) start with ⟨-, coherent⟩ | ⟨i, -, -, goal⟩
    · exact coherent.consistent
    · exact consistent_of_wp (s', faults) (wp_mono (fun _ _ coherent => coherent.consistent) goal)

end Reached

/-- **A restart recovers**, from every moment of a host whose calls run one after the other
and whose store does not fail: the recovery ends, no record is left on its way, the registry
publishes exactly what is stored as enabled, and no two enabled records declare one
capability. -/
theorem restart_recovers {s s' : System} (reached : Reached s) {tr : List LifeEvent} {r : Except Exn Unit}
    {faults : List LifeFault}
    (run : Coro.Alone (struck answers boot) Still recoverAll (restarted s, []) tr r (s', faults)) :
    r = .ok () ∧ InOrder (books s') ∧ (books s).Consistent := by
  obtain ⟨ended, order⟩ := recovery_inOrder reached.consistent run
  exact ⟨ended, order, reached.consistent⟩

/-! ## Sample runs -/

/-- The outside of the samples for one extension. -/
def cannedHost (token : String) (manifest : ExtensionManifest) : (op : LifeOp) → Except Exn op.Ans
  | .tokenUrlsafe => .ok token
  | .parse _ => .ok manifest
  | op => canned (fun _ => true) op

/-- The environment of the samples, in which nothing fails. -/
def hostAnswer (token : String) (manifest : ExtensionManifest) (st : System × List LifeFault) (op : LifeOp) :
    Except Exn op.Ans × System × List LifeFault :=
  let answer := world.answerWith ⟨0, "sha256:demo"⟩ (cannedHost token manifest) st.1 op
  (answer.1, answer.2, st.2)

theorem hostAnswer_struck (token : String) (manifest : ExtensionManifest) (permitted : Permitted LifePort Exn)
    (sh : Bool) (st : System × List LifeFault) (op : LifeOp) :
    struck answers permitted sh st op (hostAnswer token manifest st op).1 (hostAnswer token manifest st op).2 := by
  refine answerWith_struck (fun op outside => ?_) permitted sh st op
  cases op <;> first | exact ⟨_, rfl⟩ | cases outside

/-- A restart of the samples. -/
def sampleRestart (s : System) : List LifeEvent × Except Exn Unit × System × List LifeFault :=
  play (hostAnswer "" (sampleManifest "1.0.0")) recoverAll (restarted s, [])

theorem sampleRestart_alone (s : System) :
    Coro.Alone (struck answers boot) Still recoverAll (restarted s, []) (sampleRestart s).1 (sampleRestart s).2.1
      (sampleRestart s).2.2 :=
  Coro.Alone.of_exec (play_exec (hostAnswer_struck "" _ boot) _ _)

/-- Sample calls along a schedule, after the first start. -/
def sampleHost {ι : Type} [DecidableEq ι] (calls : ι → HostCall) (token : ι → String) (manifest : ι → ExtensionManifest)
    (schedule : List ι) : (ι → LifeM Unit) × (System × List LifeFault) × List (ι × LifeEvent) :=
  playPool (fun i st op => some (hostAnswer (token i) (manifest i) st op)) schedule (fun i => (calls i).program)
    ((sampleRestart emptySystem).2.2.1, []) []

theorem sampleHost_allowed {ι : Type} (token : ι → String) (manifest : ι → ExtensionManifest) (i : ι) (sh : Bool)
    (st : System × List LifeFault) (op : LifeOp) (a : Except Exn op.Ans) (st' : System × List LifeFault)
    (answered : some (hostAnswer (token i) (manifest i) st op) = some (a, st')) :
    struck answers (outage false) sh st op a st' := by
  cases Option.some.inj answered
  exact hostAnswer_struck (token i) (manifest i) _ sh st op

theorem sampleHost_pool {ι : Type} [DecidableEq ι] (calls : ι → HostCall) (token : ι → String)
    (manifest : ι → ExtensionManifest) (schedule : List ι) :
    Pool (fun _ => struck answers (outage false)) Still (fun i => (calls i).program)
      ((sampleRestart emptySystem).2.2.1, []) (sampleHost calls token manifest schedule).1
      (sampleHost calls token manifest schedule).2.1 (sampleHost calls token manifest schedule).2.2 :=
  playPool_pool (sampleHost_allowed token manifest) schedule .start

/-- Another extension, with a capability of the first. -/
def rivalManifest : ExtensionManifest :=
  { root := "/extensions/demo.post", id := "demo.post", version := "1.0.0", stateSchemaVersion := 1
    slots := [("ToolProvider", ["demo.send"])] }

/-- Two extensions with one capability are installed and the first is enabled; it is disabled
while the second is enabled. -/
def rivals : Fin 7 → HostCall
  | 0 => .on "demo.mail" (.prepare "/mail" none)
  | 1 => .on "demo.mail" (.install "install_a" (some sampleConfirmation))
  | 2 => .on "demo.mail" (.operation .enable)
  | 3 => .on "demo.post" (.prepare "/post" none)
  | 4 => .on "demo.post" (.install "install_b" (some ⟨"install_b", "b", "sha256:payload", "owner", 0, true⟩))
  | 5 => .on "demo.mail" (.operation (.disable 30))
  | 6 => .on "demo.post" (.operation .enable)

/-- The first is prepared, installed and enabled, one after the other. -/
def enabledRun : (Fin 7 → LifeM Unit) × (System × List LifeFault) × List (Fin 7 × LifeEvent) :=
  sampleHost rivals (fun _ => "a") (fun _ => sampleManifest "1.0.0")
    (List.replicate 11 0 ++ List.replicate 6 1 ++ List.replicate 6 2)

/-- A crash after an extension was enabled: the restart publishes it. -/
theorem restart_recovers_enabled : enabledRun.2.1.1.store.values.map ExtensionRecord.state = [.enabled] ∧
    InOrder (books (sampleRestart enabledRun.2.1.1).2.2.1) := by
  have run : Serial (fun _ => struck answers (outage false)) Still (fun i => (rivals i).program)
      ((sampleRestart emptySystem).2.2.1, []) enabledRun.1 enabledRun.2.1 enabledRun.2.2 :=
    .of_playPool (sampleHost_allowed _ _) _ .start (by decide +kernel)
  exact ⟨by decide +kernel,
    (restart_recovers (.serving _ .first (sampleRestart_alone _) run) (sampleRestart_alone _)).2.1⟩

/-- The first is disabled up to the revocation, and the second enabled; then the host
crashes. -/
def rivalsRun : (Fin 7 → LifeM Unit) × (System × List LifeFault) × List (Fin 7 × LifeEvent) :=
  sampleHost rivals (fun i => if i < 3 then "a" else "b")
    (fun i => if i < 3 then sampleManifest "1.0.0" else rivalManifest)
    (List.replicate 11 0 ++ List.replicate 6 1 ++ List.replicate 6 2 ++ List.replicate 11 3 ++
      List.replicate 6 4 ++ [5, 5] ++
      List.replicate 6 6)

/-- The rest of the restart, after the records were listed. -/
def rivalsRest : List LifeEvent × Except Exn Unit × System × List LifeFault :=
  play (hostAnswer "" (sampleManifest "1.0.0"))
    (recoverEach rivalsRun.2.1.1.store.values >>= fun enabled => life (.registryReplaceAll enabled))
    (restarted rivalsRun.2.1.1, [])

/-- **After a crash between the two steps of a `disable`, a restart may fail as a whole**: both
extensions are stored as enabled. -/
theorem restart_fails :
    ∃ (threads : Fin 7 → LifeM Unit) (s : System) (tr : List (Fin 7 × LifeEvent)) (tr' : List LifeEvent)
      (message : String) (st : System × List LifeFault),
      Pool (fun _ => struck answers (outage false)) Still (fun i => (rivals i).program)
        ((sampleRestart emptySystem).2.2.1, []) threads (s, []) tr ∧
      Coro.Alone (struck answers boot) Still recoverAll (restarted s, []) tr'
        (.error (duplicateCapabilityError message)) st := by
  have run : Pool _ Still _ _ rivalsRun.1 rivalsRun.2.1 rivalsRun.2.2 := sampleHost_pool rivals _ _ _
  have calm : rivalsRun.2.1.2 = [] := by decide +kernel
  have sorted : rivalsRun.2.1.1.store.items.mergeSort (fun x y => x.1 ≤ y.1) = rivalsRun.2.1.1.store.items :=
    mergeSort_of_pairwise (by decide +kernel)
  have listed : hostAnswer "" (sampleManifest "1.0.0") (restarted rivalsRun.2.1.1, []) .allRecords =
      (.ok rivalsRun.2.1.1.store.values, restarted rivalsRun.2.1.1, []) := by
    show ((.ok ((rivalsRun.2.1.1.store.items.mergeSort _).map Prod.snd), _) : Except Exn (List ExtensionRecord) × _) = _
    rw [sorted]
    rfl
  have rest : Exec (struck answers boot) _ _ rivalsRest.1 rivalsRest.2.1 rivalsRest.2.2 :=
    play_exec (hostAnswer_struck "" _ boot) _ _
  have failed : rivalsRest.2.1 = .error (duplicateCapabilityError
      "capability 'demo.send' is declared by both 'demo.mail' and 'demo.post'") := by
    decide +kernel
  have second := hostAnswer_struck "" (sampleManifest "1.0.0") boot false (restarted rivalsRun.2.1.1, []) .allRecords
  rw [listed] at second
  rw [failed] at rest
  have again : Exec (struck answers boot) recoverAll (restarted rivalsRun.2.1.1, []) _ _ rivalsRest.2.2 :=
    .step (hostAnswer_struck "" (sampleManifest "1.0.0") boot false _ (.interruptRunning "SUPERVISOR_RESTART"))
      (.step second rest)
  exact ⟨rivalsRun.1, rivalsRun.2.1.1, rivalsRun.2.2, _, _, _, calm ▸ run, Coro.Alone.of_exec again⟩

end PersonalAssistant.Lifecycle
